import RestClient.Json.Format

/-! # Records

A record is written as an object, with its fields in any order and other keys among them, or as the
list of its fields in their order. Its fields are given as a list of `Fields`, from which reading
and writing both follow.

* `Presence` says whether a field must be there, and what it means if it is not;
* `Fields.Slots` are the values found so far while an object is read, `Fields.fill` puts a value
  into its slot, and `Fields.finish` is the record once the object has ended;
* `Format.record` is the format of a record. -/

namespace RestClient.Json

/-- Whether a field must be there. -/
structure Presence (α : Type) where
  /-- What a missing field means, unless it must not be missing. -/
  absent : Option α
  /-- The values that are not written. -/
  omits : α → Bool
  /-- A value is left out only where a missing field means that value. -/
  absent_of_omits : ∀ {a : α}, omits a = true → absent = some a

namespace Presence

variable {α : Type}

/-- A field that must be there. -/
def required : Presence α := ⟨none, fun _ => false, by simp⟩

/-- A field with a default value, which is always written. -/
def defaultsTo (a : α) : Presence α := ⟨some a, fun _ => false, by simp⟩

/-- A field that is left out if there is no value. -/
def optional : Presence (Option α) :=
  ⟨some none, Option.isNone, fun h => by simp_all⟩

end Presence

/-- The fields of a record, whose values make up the given product. -/
inductive Fields : Type → Type 1 where
  /-- No more fields. -/
  | done : Fields Unit
  /-- One more field. -/
  | field {α β : Type} (key : String) (format : Format α) (presence : Presence α)
      (rest : Fields β) : Fields (α × β)

namespace Fields

/-- The number of fields. -/
def size : {β : Type} → Fields β → Nat
  | _, .done => 0
  | _, .field _ _ _ rest => rest.size + 1

/-- The values found so far, for each field one or none. -/
@[reducible]
def Slots : {β : Type} → Fields β → Type
  | _, .done => Unit
  | _, @field α _ _ _ _ rest => Option α × Slots rest

/-- No values yet. -/
def empty : {β : Type} → (fs : Fields β) → fs.Slots
  | _, .done => ()
  | _, .field _ _ _ rest => (none, rest.empty)

/-! ### Objects -/

/-- Reads the value of a key from its colon into its slot; `none` for the key of no field. A slot
that is already full is a fault, whatever follows. -/
def fill : {β : Type} → (fs : Fields β) → fs.Slots → String → List Char →
    Option (Except Fault (fs.Slots × List Char))
  | _, .done, _, _, _ => none
  | _, .field k format _ rest, slots, key, s =>
    if k = key then
      some <|
        match slots.1 with
        | some _ => .error (.duplicateField k)
        | none =>
          match readColon s with
          | .error fault => .error fault
          | .ok s =>
            match format.read s with
            | .error fault => .error fault
            | .ok (a, r) => .ok ((some a, slots.2), r)
    else
      match rest.fill slots.2 key s with
      | none => none
      | some (.error fault) => some (.error fault)
      | some (.ok (others, r)) => some (.ok ((slots.1, others), r))

theorem length_of_fill {β : Type} {fs : Fields β} {slots slots' : fs.Slots} {key : String}
    {s r : List Char} (h : fs.fill slots key s = some (.ok (slots', r))) : r.length < s.length := by
  induction fs with
  | done => simp [fill] at h
  | field k format presence rest ih =>
    unfold fill at h
    split at h
    · simp only [Option.some.injEq] at h
      split at h
      · simp at h
      split at h
      · simp at h
      rename_i hc
      split at h
      · simp at h
      rename_i hr
      have := length_of_readColon hc
      have := format.shorter hr
      simp only [Except.ok.injEq, Prod.mk.injEq] at h
      rw [← h.2]
      omega
    · split at h
      · simp at h
      · simp at h
      · rename_i hf
        simp only [Option.some.injEq, Except.ok.injEq, Prod.mk.injEq] at h
        obtain ⟨-, rfl⟩ := h
        exact ih hf

/-- The values once an object has ended. The first field that must not be missing and is, is a
fault. -/
def finish : {β : Type} → (fs : Fields β) → fs.Slots → Except Fault β
  | _, .done, _ => .ok ()
  | _, .field key _ presence rest, slots =>
    match slots.1 <|> presence.absent with
    | none => .error (.missingField key)
    | some a =>
      match rest.finish slots.2 with
      | .error fault => .error fault
      | .ok b => .ok (a, b)

/-- A member of an object from behind the opening quote of its key. The value of a key that no field
has is passed over. -/
def readMember {β : Type} (fs : Fields β) (slots : fs.Slots) (s : List Char) :
    Except Fault (fs.Slots × List Char) :=
  match readString s with
  | .error fault => .error fault
  | .ok (key, r) =>
    match fs.fill slots (String.ofList key) r with
    | some result => result
    | none =>
      match readColon r with
      | .error fault => .error fault
      | .ok r =>
        match skipValue r with
        | .error fault => .error fault
        | .ok r => .ok (slots, r)

theorem length_of_readMember {β : Type} {fs : Fields β} {slots slots' : fs.Slots}
    {s r : List Char} (h : fs.readMember slots s = .ok (slots', r)) : r.length < s.length := by
  unfold readMember at h
  split at h
  · simp at h
  rename_i hs
  have := length_of_readString hs
  split at h
  · rename_i hf
    rw [h] at hf
    have := length_of_fill hf
    omega
  · split at h
    · simp at h
    rename_i hc
    have := length_of_readColon hc
    split at h
    · simp at h
    rename_i hv
    have := length_of_skipValue hv
    simp only [Except.ok.injEq, Prod.mk.injEq] at h
    rw [← h.2]
    omega

end Fields

/-- What comes next in an object. -/
inductive NextMember where
  /-- A member: the text begins behind the opening quote of its key. -/
  | member (s : List Char)
  /-- Nothing: the object has ended before the text. -/
  | ended (s : List Char)

/-- The next member of an object, or its end. -/
def nextMember (first : Bool) (s : List Char) : Except Fault NextMember :=
  match dropBlanks s with
  | [] => .error (.cutOff .object)
  | '}' :: r => .ok (.ended r)
  | c :: r =>
    if first then
      if c = '"' then .ok (.member r) else .error (.malformed .expectedKey)
    else if c = ',' then
      match dropBlanks r with
      | [] => .error (.cutOff .value)
      | '"' :: r => .ok (.member r)
      | '}' :: _ => .error (.malformed .trailingComma)
      | _ => .error (.malformed .expectedKey)
    else .error (.malformed .expectedObjectEnd)

theorem length_of_nextMember {first : Bool} {s r : List Char}
    (h : nextMember first s = .ok (.member r)) : r.length < s.length := by
  unfold nextMember at h
  split at h
  · simp at h
  · simp at h
  · rename_i hb
    have := length_lt_of_dropBlanks hb
    split at h
    · split at h
      · simp only [Except.ok.injEq, NextMember.member.injEq] at h
        rwa [← h]
      · simp at h
    · split at h
      · split at h
        · simp at h
        · rename_i hr
          have := length_lt_of_dropBlanks hr
          simp only [Except.ok.injEq, NextMember.member.injEq] at h
          rw [← h]
          omega
        · simp at h
        · simp at h
      · simp at h

theorem length_of_nextMember_ended {first : Bool} {s r : List Char}
    (h : nextMember first s = .ok (.ended r)) : r.length < s.length := by
  unfold nextMember at h
  split at h
  · simp at h
  · rename_i hb
    simp only [Except.ok.injEq, NextMember.ended.injEq] at h
    exact h ▸ length_lt_of_dropBlanks hb
  · split at h
    · split at h <;> simp at h
    · split at h
      · split at h <;> simp at h
      · simp at h

namespace Fields

/-- The members of an object up to its end. -/
def readMembers {β : Type} (fs : Fields β) (first : Bool) (slots : fs.Slots) (s : List Char) :
    Except Fault (β × List Char) :=
  match hn : nextMember first s with
  | .error fault => .error fault
  | .ok (.ended r) =>
    match fs.finish slots with
    | .error fault => .error fault
    | .ok b => .ok (b, r)
  | .ok (.member r) =>
    match hm : fs.readMember slots r with
    | .error fault => .error fault
    | .ok (slots', r') =>
      have := length_of_nextMember hn
      have := length_of_readMember hm
      fs.readMembers false slots' r'
termination_by s.length

theorem length_of_readMembers {β : Type} {fs : Fields β} {first : Bool} {slots : fs.Slots}
    {s r : List Char} {b : β} (h : fs.readMembers first slots s = .ok (b, r)) :
    r.length < s.length := by
  fun_induction readMembers fs first slots s with
  | case1 => simp at h
  | case2 => simp at h
  | case3 =>
    rename_i hn _ _
    simp only [Except.ok.injEq, Prod.mk.injEq] at h
    exact h.2 ▸ length_of_nextMember_ended hn
  | case4 => simp at h
  | case5 =>
    rename_i ih
    have := ih h
    omega

/-! ### Lists of fields -/

/-- The end of a record written as a list. -/
def readEnd (s : List Char) : Except Fault (List Char) :=
  match dropBlanks s with
  | [] => .error (.cutOff .list)
  | ']' :: r => .ok r
  | ',' :: r =>
    match dropBlanks r with
    | ']' :: _ => .error (.malformed .trailingComma)
    | _ => .error (.malformed .trailingCharacters)
  | _ => .error (.malformed .trailingCharacters)

theorem length_of_readEnd {s r : List Char} (h : readEnd s = .ok r) : r.length < s.length := by
  unfold readEnd at h
  split at h
  · simp at h
  · rename_i hb
    simp only [Except.ok.injEq] at h
    exact h ▸ length_lt_of_dropBlanks hb
  · split at h <;> simp at h
  · simp at h

/-- The values of fields that are all missing from a list, the first of them being at a position. -/
def defaults : {β : Type} → (fs : Fields β) → (short : Nat → Fault) → (position : Nat) →
    Except Fault β
  | _, .done, _, _ => .ok ()
  | _, .field _ _ presence rest, short, position =>
    match presence.absent with
    | none => .error (short position)
    | some a =>
      match rest.defaults short (position + 1) with
      | .error fault => .error fault
      | .ok b => .ok (a, b)

/-- The fields of a record written as a list, from a position on. -/
def readItems : {β : Type} → (fs : Fields β) → (short : Nat → Fault) → (position : Nat) →
    List Char → Except Fault (β × List Char)
  | _, .done, _, _, s =>
    match readEnd s with
    | .error fault => .error fault
    | .ok r => .ok ((), r)
  | _, .field key format presence rest, short, position, s =>
    match nextElement (position == 0) s with
    | .error fault => .error fault
    | .ok (.ended r) =>
      match defaults (.field key format presence rest) short position with
      | .error fault => .error fault
      | .ok values => .ok (values, r)
    | .ok (.element r) =>
      match format.read r with
      | .error fault => .error fault
      | .ok (a, r) =>
        match rest.readItems short (position + 1) r with
        | .error fault => .error fault
        | .ok (b, r) => .ok ((a, b), r)

theorem length_of_readItems {β : Type} {fs : Fields β} {short : Nat → Fault} {position : Nat}
    {s r : List Char} {b : β} (h : fs.readItems short position s = .ok (b, r)) :
    r.length < s.length := by
  induction fs generalizing position s r with
  | done =>
    unfold readItems at h
    split at h
    · simp at h
    · rename_i he
      simp only [Except.ok.injEq, Prod.mk.injEq] at h
      exact h.2 ▸ length_of_readEnd he
  | field key format presence rest ih =>
    unfold readItems at h
    split at h
    · simp at h
    · rename_i hn
      split at h
      · simp at h
      · simp only [Except.ok.injEq, Prod.mk.injEq] at h
        exact h.2 ▸ length_of_nextElement_ended hn
    · rename_i hn
      split at h
      · simp at h
      rename_i hr
      split at h
      · simp at h
      rename_i hi
      have := length_of_nextElement hn
      have := format.shorter hr
      have := ih hi
      simp only [Except.ok.injEq, Prod.mk.injEq] at h
      rw [← h.2]
      omega

/-! ### Writing -/

/-- The members that are written for a record. -/
def printMembers : {β : Type} → Fields β → β → List (List Char)
  | _, .done, _ => []
  | _, .field key format presence rest, (a, b) =>
    if presence.omits a then rest.printMembers b
    else (printString key.toList ++ ':' :: format.print a) :: rest.printMembers b

end Fields

/-! ### The format -/

/-- The record at the front of a text. -/
def readRecord {β : Type} (name : String) (fs : Fields β) (s : List Char) :
    Except Fault (β × List Char) :=
  match dropBlanks s with
  | '[' :: r => fs.readItems (fun n => .wrongLength n name fs.size) 0 r
  | '{' :: r => fs.readMembers true fs.empty r
  | r => .error (mismatch (.record name) r)

theorem length_of_readRecord {β : Type} {name : String} {fs : Fields β} {s r : List Char} {b : β}
    (h : readRecord name fs s = .ok (b, r)) : r.length < s.length := by
  unfold readRecord at h
  split at h
  · rename_i hb
    have := length_lt_of_dropBlanks hb
    have := Fields.length_of_readItems h
    omega
  · rename_i hb
    have := length_lt_of_dropBlanks hb
    have := Fields.length_of_readMembers h
    omega
  · simp at h

/-- The format of a record, which is made of the values of its fields. -/
def Format.record {α β : Type} (name : String) (fs : Fields β) (make : β → α) (values : α → β) :
    Format α where
  read s :=
    match readRecord name fs s with
    | .error fault => .error fault
    | .ok (b, r) => .ok (make b, r)
  print a := '{' :: [','].intercalate (fs.printMembers (values a)) ++ ['}']
  shorter := by
    intro s r a h
    split at h
    · simp at h
    · rename_i hr
      simp only [Except.ok.injEq, Prod.mk.injEq] at h
      exact h.2 ▸ length_of_readRecord hr

end RestClient.Json
