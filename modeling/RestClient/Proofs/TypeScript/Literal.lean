import RestClient.TypeScript.Literal

/-! # Reading string literals and property keys

A string literal is read from behind its opening quote: a backslash makes the next character stand
for itself, and the first other quote ends the literal. A property key is a bare name or such a
literal.

* `readQuoted_escapeString`: an escaped text is read as the text itself, whatever follows;
* `IsKeyOf.readKey`: a property key is read as the name that it was written for, so that different
  names have different keys. -/

namespace RestClient.TypeScript

/-- The text of a string literal from behind its opening quote, with what stands behind its closing
one. -/
def readQuoted : List Char → Option (List Char × List Char)
  | [] => none
  | '"' :: r => some ([], r)
  | '\\' :: c :: r => (readQuoted r).map fun (s, rest) => (c :: s, rest)
  | c :: r => (readQuoted r).map fun (s, rest) => (c :: s, rest)

theorem escapeString_cons (c : Char) (s : List Char) :
    escapeString (c :: s) = (if c = '\\' ∨ c = '"' then ['\\', c] else [c]) ++ escapeString s := rfl

theorem readQuoted_plain {c : Char} (r : List Char) (hb : c ≠ '\\') (hq : c ≠ '"') :
    readQuoted (c :: r) = (readQuoted r).map fun (s, rest) => (c :: s, rest) := by
  rw [readQuoted]
  · exact hq
  · rintro d r' rfl
    exact absurd rfl hb

/-- **An escaped text is read as the text itself.** -/
theorem readQuoted_escapeString (s r : List Char) :
    readQuoted (escapeString s ++ '"' :: r) = some (s, r) := by
  induction s with
  | nil => rfl
  | cons c s ih =>
    rw [escapeString_cons]
    by_cases h : c = '\\' ∨ c = '"'
    · rw [if_pos h, List.append_assoc, List.cons_append, List.cons_append, List.nil_append,
        readQuoted, ih]
      rfl
    · rw [if_neg h, List.append_assoc, List.cons_append, List.nil_append]
      rw [not_or] at h
      rw [readQuoted_plain _ h.1 h.2, ih]
      rfl

/-- Behind a literal less is left to read. -/
theorem length_of_readQuoted {s value rest : List Char} (h : readQuoted s = some (value, rest)) :
    rest.length < s.length := by
  fun_induction readQuoted s generalizing value rest with
  | case1 => cases h
  | case2 r =>
    obtain ⟨-, rfl⟩ : [] = value ∧ r = rest := by simpa using h
    exact Nat.lt_succ_self _
  | case3 c r ih =>
    obtain ⟨⟨value', rest'⟩, hr, he⟩ := Option.map_eq_some_iff.1 h
    obtain ⟨-, rfl⟩ := Prod.mk.inj he
    exact Nat.lt_succ_of_lt (Nat.lt_succ_of_lt (ih hr))
  | case4 c r _ _ ih =>
    obtain ⟨⟨value', rest'⟩, hr, he⟩ := Option.map_eq_some_iff.1 h
    obtain ⟨-, rfl⟩ := Prod.mk.inj he
    exact Nat.lt_succ_of_lt (ih hr)

/-! ### Keys -/

/-- The property that the key at the front of a text names, with what stands behind the key. -/
def readKey : List Char → Option (List Char × List Char)
  | [] => none
  | '"' :: r => readQuoted r
  | c :: r =>
    if isNameStart c then some (c :: r.takeWhile isNamePart, r.dropWhile isNamePart) else none

/-- Behind a key less is left to read. -/
theorem length_of_readKey {s name rest : List Char} (h : readKey s = some (name, rest)) :
    rest.length < s.length := by
  unfold readKey at h
  split at h
  · cases h
  · exact Nat.lt_succ_of_lt (length_of_readQuoted h)
  · rename_i c r _
    split at h
    · obtain ⟨-, rfl⟩ := Prod.mk.inj (Option.some.inj h)
      exact Nat.lt_succ_of_le (List.dropWhile_sublist isNamePart).length_le
    · cases h

theorem toList_stringLiteral (s : String) :
    (stringLiteral s).toList = '"' :: (escapeString s.toList ++ ['"']) := by
  simp [stringLiteral]

theorem ne_of_isNamePart {c d : Char} (hc : isNamePart c = true) (hd : isNamePart d = false) :
    c ≠ d := by
  rintro rfl
  exact absurd hc (by simp [hd])

/-- A name that takes no part of what follows it. -/
theorem takeWhile_append_of_head? {p : Char → Bool} {s t : List Char} (hs : ∀ c ∈ s, p c = true)
    (ht : ∀ c ∈ t.head?, p c = false) :
    (s ++ t).takeWhile p = s ∧ (s ++ t).dropWhile p = t := by
  rw [List.takeWhile_append_of_pos hs, List.dropWhile_append_of_pos hs]
  cases t with
  | nil => simp
  | cons c t => simp [ht c (by simp)]

/-- The texts that name a property as its key: the bare name, if it is one, and the quoted name. -/
inductive IsKeyOf (name : List Char) : List Char → Prop
  | bare (h : isBareName name = true) : IsKeyOf name name
  | quoted : IsKeyOf name ('"' :: (escapeString name ++ ['"']))

theorem mem_or_eq_of_mem_escapeString {c : Char} {s : List Char} (h : c ∈ escapeString s) :
    c ∈ s ∨ c = '\\' := by
  obtain ⟨d, hd, hc⟩ := List.mem_flatMap.1 h
  split at hc
  · rcases List.mem_cons.1 hc with hslash | hc
    · exact .inr hslash
    · exact .inl (List.mem_singleton.1 hc ▸ hd)
  · exact .inl (List.mem_singleton.1 hc ▸ hd)

/-- Quotes and backslashes are all that a key has and its name has not. -/
theorem IsKeyOf.notMem {c : Char} {name key : List Char} (h : IsKeyOf name key)
    (hslash : c ≠ '\\') (hquote : c ≠ '"') (hname : c ∉ name) : c ∉ key := by
  cases h with
  | bare => exact hname
  | quoted =>
    have hinside : c ∉ escapeString name := fun hc =>
      (mem_or_eq_of_mem_escapeString hc).elim hname hslash
    have hend : c ∉ ['"'] := mt List.mem_singleton.1 hquote
    exact List.not_mem_cons_of_ne_of_not_mem hquote (List.not_mem_append hinside hend)

theorem isKeyOf_stringLiteral (name : String) : IsKeyOf name.toList (stringLiteral name).toList := by
  rw [toList_stringLiteral]
  exact .quoted

theorem isKeyOf_propertyKey (name : String) : IsKeyOf name.toList (propertyKey name).toList := by
  unfold propertyKey
  split
  case isTrue h => exact .bare h
  case isFalse => exact isKeyOf_stringLiteral name

/-- **A key is read as the name that it was written for**, if no name character follows it. -/
theorem IsKeyOf.readKey {name key r : List Char} (h : IsKeyOf name key)
    (hr : ∀ c ∈ r.head?, isNamePart c = false) : readKey (key ++ r) = some (name, r) := by
  cases h with
  | quoted =>
    rw [List.cons_append, List.append_assoc, TypeScript.readKey]
    exact readQuoted_escapeString _ _
  | bare h =>
    cases name with
    | nil => exact absurd h Bool.false_ne_true
    | cons c s =>
      have hall := all_isNamePart_of_isBareName h
      have hc : isNameStart c = true := by
        rw [isBareName, Bool.and_eq_true] at h
        exact h.1
      have hq : c ≠ '"' := ne_of_isNamePart (isNamePart_of_isNameStart hc) (by decide)
      have hs : ∀ d ∈ s, isNamePart d = true := fun d hd => hall d (List.mem_cons_of_mem c hd)
      obtain ⟨ht, hd⟩ := takeWhile_append_of_head? hs hr
      rw [List.cons_append, TypeScript.readKey, if_pos hc, ht, hd]
      exact hq

theorem readKey_propertyKey (name : String) {r : List Char}
    (hr : ∀ c ∈ r.head?, isNamePart c = false) :
    readKey ((propertyKey name).toList ++ r) = some (name.toList, r) :=
  (isKeyOf_propertyKey name).readKey hr

end RestClient.TypeScript
