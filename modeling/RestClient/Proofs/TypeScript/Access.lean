import RestClient.Proofs.TypeScript.Literal
import RestClient.Proofs.TypeScript.Template

/-! # Reading property accesses

Which properties of a variable some code reads: those that follow the variable with a dot or in
brackets. A name inside a string is no variable, and neither is one that goes on a name before it or
follows a dot.

* `accesses_propertyAccess`: a property access reads the property it was written for and no other;
* `readSubstitution_propertyAccess`: as the code of a substitution it ends where it should. -/

namespace RestClient.TypeScript

/-- The property that is read where a variable ends. -/
def readMember : List Char → Option (List Char)
  | '.' :: c :: r => if isNameStart c then some (c :: r.takeWhile isNamePart) else none
  | '[' :: '"' :: r =>
    match readQuoted r with
    | some (name, ']' :: _) => some name
    | _ => none
  | _ => none

/-- Where a character of some code stands. -/
inductive CodePlace where
  /-- A variable may begin here. -/
  | fresh
  /-- Behind a name or a dot. -/
  | joined
  /-- In a string. -/
  | quoted
  /-- In a string, behind a backslash. -/
  | escaped
  deriving DecidableEq, Repr

/-- The place behind a character that stands in no string. -/
def CodePlace.after (c : Char) : CodePlace :=
  if c = '"' then .quoted else if isNamePart c ∨ c = '.' then .joined else .fresh

/-- The properties of a variable that some code reads, from a place on. -/
def accessesFrom (object : List Char) : CodePlace → List Char → List (List Char)
  | _, [] => []
  | .fresh, c :: r =>
    (if object.isPrefixOf (c :: r) then (readMember ((c :: r).drop object.length)).toList
      else []) ++ accessesFrom object (.after c) r
  | .joined, c :: r => accessesFrom object (.after c) r
  | .quoted, c :: r =>
    accessesFrom object (if c = '\\' then .escaped else if c = '"' then .fresh else .quoted) r
  | .escaped, _ :: r => accessesFrom object .quoted r

/-- The properties of a variable that some code reads. -/
def accesses (object code : List Char) : List (List Char) := accessesFrom object .fresh code

/-! ### What reads nothing -/

theorem accessesFrom_joined (object : List Char) {s : List Char} (t : List Char)
    (h : ∀ c ∈ s, isNamePart c = true) :
    accessesFrom object .joined (s ++ t) = accessesFrom object .joined t := by
  induction s with
  | nil => rfl
  | cons c s ih =>
    have hc := h c (by simp)
    rw [List.cons_append, accessesFrom, CodePlace.after, if_neg (ne_of_isNamePart hc (by decide)),
      if_pos (Or.inl hc)]
    exact ih fun d hd => h d (List.mem_cons_of_mem c hd)

theorem accessesFrom_quoted (object s r : List Char) :
    accessesFrom object .quoted (escapeString s ++ '"' :: r) = accessesFrom object .fresh r := by
  induction s with
  | nil => rfl
  | cons c s ih =>
    rw [escapeString_cons]
    by_cases h : c = '\\' ∨ c = '"'
    · rw [if_pos h, List.append_assoc, List.cons_append, List.cons_append, List.nil_append,
        accessesFrom, if_pos rfl, accessesFrom, ih]
    · rw [if_neg h, List.append_assoc, List.cons_append, List.nil_append, accessesFrom]
      rw [not_or] at h
      rw [if_neg h.1, if_neg h.2, ih]

/-- No variable begins with a character that no bare name begins with. -/
theorem accessesFrom_fresh {object : List Char} (h : isBareName object = true) {c : Char}
    (hc : isNameStart c = false) (r : List Char) :
    accessesFrom object .fresh (c :: r) = accessesFrom object (.after c) r := by
  cases object with
  | nil => simp [isBareName] at h
  | cons d object =>
    rw [isBareName, Bool.and_eq_true] at h
    have hdc : d ≠ c := by
      rintro rfl
      exact absurd h.1 (by simp [hc])
    rw [accessesFrom, List.isPrefixOf_cons_cons]
    simp [hdc]

/-! ### Property accesses -/

/-- What stands behind the variable of a property access. -/
def memberCode (name : List Char) : List Char :=
  if isBareName name then '.' :: name else '[' :: '"' :: (escapeString name ++ ['"', ']'])

theorem toList_propertyAccess (object name : String) :
    (propertyAccess object name).toList = object.toList ++ memberCode name.toList := by
  unfold propertyAccess memberCode
  split <;> simp [toList_stringLiteral]

theorem readMember_memberCode (name : List Char) : readMember (memberCode name) = some name := by
  unfold memberCode
  split
  case isTrue h =>
    cases name with
    | nil => simp [isBareName] at h
    | cons c s =>
      rw [isBareName, Bool.and_eq_true, List.all_eq_true] at h
      have hs := (takeWhile_append_of_head? (t := []) h.2 (by simp)).1
      rw [List.append_nil] at hs
      rw [readMember, if_pos h.1, hs]
  case isFalse => simp [readMember, readQuoted_escapeString]

/-- The code behind the variable of a property access reads nothing else. -/
theorem accessesFrom_joined_memberCode {object : List Char} (name : List Char)
    (h : isBareName object = true) : accessesFrom object .joined (memberCode name) = [] := by
  unfold memberCode
  split
  case isTrue hn =>
    have := accessesFrom_joined object [] (all_isNamePart_of_isBareName hn)
    rw [List.append_nil] at this
    exact this
  case isFalse =>
    show accessesFrom object .fresh ('"' :: (escapeString name ++ '"' :: [']'])) = []
    rw [accessesFrom_fresh h (by decide)]
    show accessesFrom object .quoted (escapeString name ++ '"' :: [']']) = []
    rw [accessesFrom_quoted, accessesFrom_fresh h (by decide)]
    rfl

/-- **A property access reads the property it was written for and no other.** -/
theorem accesses_propertyAccess {object : String} (name : String)
    (h : isBareName object.toList = true) :
    accesses object.toList (propertyAccess object name).toList = [name.toList] := by
  rw [toList_propertyAccess, accesses]
  generalize object.toList = object at h
  generalize name.toList = name
  cases object with
  | nil => simp [isBareName] at h
  | cons c s =>
    have hname := all_isNamePart_of_isBareName h
    have hc := hname c (by simp)
    have hs : ∀ d ∈ s, isNamePart d = true := fun d hd => hname d (List.mem_cons_of_mem c hd)
    have hpre : (c :: s).isPrefixOf (c :: (s ++ memberCode name)) = true :=
      List.isPrefixOf_iff_prefix.2 (List.prefix_append (c :: s) _)
    have hdrop : (c :: (s ++ memberCode name)).drop (c :: s).length = memberCode name := by
      rw [← List.cons_append, List.drop_left]
    rw [List.cons_append, accessesFrom, if_pos hpre, hdrop, readMember_memberCode, CodePlace.after,
      if_neg (ne_of_isNamePart hc (by decide)), if_pos (Or.inl hc), accessesFrom_joined _ _ hs,
      accessesFrom_joined_memberCode name h]
    rfl

/-! ### Accesses as substitutions -/

theorem plain_of_isBareName {name : List Char} (h : isBareName name = true) :
    ∀ c ∈ name, c ≠ '"' ∧ c ≠ '}' := by
  intro c hc
  have := all_isNamePart_of_isBareName h c hc
  exact ⟨ne_of_isNamePart this (by decide), ne_of_isNamePart this (by decide)⟩

theorem readSubstitution_plain {s : List Char} (t : List Char)
    (h : ∀ c ∈ s, c ≠ '"' ∧ c ≠ '}') :
    readSubstitution false (s ++ t) =
      (readSubstitution false t).map fun (code, rest) => (s ++ code, rest) := by
  induction s with
  | nil => exact (Option.map_id' (x := readSubstitution false t)).symm
  | cons c s ih =>
    obtain ⟨hq, hb⟩ := h c (by simp)
    have hstep : readSubstitution false (c :: (s ++ t)) =
        (readSubstitution false (s ++ t)).map fun (code, rest) => (c :: code, rest) := by
      simp [readSubstitution, hq, hb]
    rw [List.cons_append, hstep, ih fun d hd => h d (List.mem_cons_of_mem c hd), Option.map_map]
    rfl

/-- The rest of a string ends where it was written to end, and the code goes on behind it. -/
theorem readSubstitution_quoted (s r : List Char) :
    readSubstitution true (escapeString s ++ '"' :: r) =
      (readSubstitution false r).map fun (code, rest) => (escapeString s ++ '"' :: code, rest) := by
  induction s with
  | nil => simp [escapeString, readSubstitution]
  | cons c s ih =>
    rw [escapeString_cons]
    by_cases h : c = '\\' ∨ c = '"'
    · rw [if_pos h, List.append_assoc, List.cons_append, List.cons_append, List.nil_append,
        readSubstitution, ih, Option.map_map]
      rfl
    · rw [if_neg h, List.append_assoc, List.cons_append, List.nil_append]
      rw [not_or] at h
      have hstep : readSubstitution true (c :: (escapeString s ++ '"' :: r)) =
          (readSubstitution true (escapeString s ++ '"' :: r)).map fun (code, rest) =>
            (c :: code, rest) := by
        simp [readSubstitution, h.1, h.2]
      rw [hstep, ih, Option.map_map]
      rfl

theorem readSubstitution_memberCode (name r : List Char) :
    readSubstitution false (memberCode name ++ '}' :: r) = some (memberCode name, r) := by
  unfold memberCode
  split
  case isTrue hn =>
    have hplain : ∀ c ∈ '.' :: name, c ≠ '"' ∧ c ≠ '}' := by
      intro c hc
      rcases List.mem_cons.1 hc with rfl | hc
      · decide
      · exact plain_of_isBareName hn c hc
    rw [readSubstitution_plain _ hplain]
    simp [readSubstitution]
  case isFalse =>
    simp [readSubstitution, readSubstitution_quoted]

/-- **A property access is a whole substitution**, whatever the property is called. -/
theorem readSubstitution_propertyAccess {object : String} (name : String) (r : List Char)
    (h : isBareName object.toList = true) :
    readSubstitution false ((propertyAccess object name).toList ++ '}' :: r) =
      some ((propertyAccess object name).toList, r) := by
  rw [toList_propertyAccess, List.append_assoc, readSubstitution_plain _ (plain_of_isBareName h),
    readSubstitution_memberCode]
  rfl

end RestClient.TypeScript
