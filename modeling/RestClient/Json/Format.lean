import RestClient.Json.Skip

/-! # Formats

A format says how the values of a type are read and written as JSON. A reader takes one value off
the front of a text and ends at the first thing that does not fit; every format carries the proof
that its reader takes at least one character, which bounds the loops below.

* `Format.text`, `Format.flag` and `Format.choice` are the formats of single values;
* `Format.optional` adds `null` to a format, and `Format.list` repeats it.

Records have a module of their own. -/

namespace RestClient.Json

/-- How the values of a type are read and written. -/
structure Format (α : Type) where
  /-- The value at the front of a text, with the text behind it. -/
  read : List Char → Except Fault (α × List Char)
  /-- The text of a value. -/
  print : α → List Char
  /-- A value takes at least one character. -/
  shorter : ∀ {s r : List Char} {a : α}, read s = .ok (a, r) → r.length < s.length

/-! ### Wrong values -/

/-- A fault that arises only behind a literal. -/
def faultAfter (word s : List Char) (fault : Fault) : Fault :=
  match readLiteral word s with
  | .ok _ => fault
  | .error earlier => earlier

/-- What is wrong with a value of another kind than expected, from its first character. Scalars are
read to their end, where they may be found to be no JSON; lists and objects are not looked into. -/
def mismatch (expected : Expected) (s : List Char) : Fault :=
  match s with
  | [] => .cutOff .value
  | c :: r =>
    if c = 'n' then faultAfter ['u', 'l', 'l'] r (.wrongType .null expected)
    else if c = 't' then faultAfter ['r', 'u', 'e'] r (.wrongType (.boolean true) expected)
    else if c = 'f' then faultAfter ['a', 'l', 's', 'e'] r (.wrongType (.boolean false) expected)
    else if c = '"' then
      match readString r with
      | .ok (value, _) => .wrongType (.string value) expected
      | .error fault => fault
    else if c = '[' then .wrongType .sequence expected
    else if c = '{' then .wrongType .map expected
    else if c = '-' ∨ c.isDigit then
      match Number.scan (c :: r) with
      | .error .ended => .cutOff .value
      | .error .other => .malformed .invalidNumber
      | .ok (n, _) =>
        match n.found? with
        | some value => .wrongType value expected
        | none => .malformed .numberOutOfRange
    else .malformed .expectedValue

/-! ### Single values -/

/-- The string at the front of a text, blanks before it apart. -/
def readText (expected : Expected) (s : List Char) : Except Fault (String × List Char) :=
  match dropBlanks s with
  | '"' :: r =>
    match readString r with
    | .error fault => .error fault
    | .ok (cs, r) => .ok (String.ofList cs, r)
  | r => .error (mismatch expected r)

theorem length_of_readText {expected : Expected} {s r : List Char} {a : String}
    (h : readText expected s = .ok (a, r)) : r.length < s.length := by
  unfold readText at h
  split at h
  · rename_i hb
    split at h
    · simp at h
    · rename_i hr
      simp only [Except.ok.injEq, Prod.mk.injEq] at h
      have := length_lt_of_dropBlanks hb
      have := length_of_readString hr
      rw [← h.2]
      omega
  · simp at h

/-- The boolean at the front of a text. -/
def readFlag (s : List Char) : Except Fault (Bool × List Char) :=
  match dropBlanks s with
  | 't' :: r =>
    match readLiteral ['r', 'u', 'e'] r with
    | .error fault => .error fault
    | .ok r => .ok (true, r)
  | 'f' :: r =>
    match readLiteral ['a', 'l', 's', 'e'] r with
    | .error fault => .error fault
    | .ok r => .ok (false, r)
  | r => .error (mismatch .boolean r)

theorem length_of_readFlag {s r : List Char} {a : Bool} (h : readFlag s = .ok (a, r)) :
    r.length < s.length := by
  unfold readFlag at h
  split at h
  case h_3 => simp at h
  all_goals
    rename_i hb
    split at h
    · simp at h
    · rename_i hr
      simp only [Except.ok.injEq, Prod.mk.injEq] at h
      have := length_lt_of_dropBlanks hb
      have := length_of_readLiteral hr
      rw [← h.2]
      omega

/-- What stands behind the value that carries nothing. -/
def readUnit (s : List Char) : Except Fault (List Char) :=
  match dropBlanks s with
  | 'n' :: r => readLiteral ['u', 'l', 'l'] r
  | r => .error (mismatch .unit r)

theorem length_of_readUnit {s r : List Char} (h : readUnit s = .ok r) : r.length < s.length := by
  unfold readUnit at h
  split at h
  · rename_i hb
    have := length_lt_of_dropBlanks hb
    have := length_of_readLiteral h
    omega
  · simp at h

/-- What stands behind the brace that ends a choice. -/
def readChoiceEnd (s : List Char) : Except Fault (List Char) :=
  match dropBlanks s with
  | [] => .error (.cutOff .object)
  | '}' :: r => .ok r
  | _ => .error (.malformed .expectedValue)

theorem length_of_readChoiceEnd {s r : List Char} (h : readChoiceEnd s = .ok r) :
    r.length < s.length := by
  unfold readChoiceEnd at h
  split at h
  · simp at h
  · rename_i hb
    simp only [Except.ok.injEq] at h
    exact h ▸ length_lt_of_dropBlanks hb
  · simp at h

/-- One of several named values, by its name, of which the opening quote has been read. -/
def readName {α : Type} (known : List String) (ofName? : String → Option α) (s : List Char) :
    Except Fault (α × List Char) :=
  match readString s with
  | .error fault => .error fault
  | .ok (name, r) =>
    match ofName? (String.ofList name) with
    | some a => .ok (a, r)
    | none => .error (.unknownVariant (String.ofList name) known)

theorem length_of_readName {α : Type} {known : List String} {ofName? : String → Option α}
    {s r : List Char} {a : α} (h : readName known ofName? s = .ok (a, r)) :
    r.length < s.length := by
  unfold readName at h
  split at h
  · simp at h
  · rename_i hr
    split at h
    · simp only [Except.ok.injEq, Prod.mk.injEq] at h
      exact h.2 ▸ length_of_readString hr
    · simp at h

/-- The name that an object has as its first key. The brace before it has been read, and one that
closes the object here stands where a value should. -/
def readChosenKey {α : Type} (known : List String) (ofName? : String → Option α)
    (s : List Char) : Except Fault (α × List Char) :=
  match dropBlanks s with
  | [] => .error (.cutOff .object)
  | '"' :: r => readName known ofName? r
  | '}' :: _ => .error (.malformed .expectedValue)
  | _ => .error (.malformed .expectedKey)

theorem length_of_readChosenKey {α : Type} {known : List String} {ofName? : String → Option α}
    {s r : List Char} {a : α} (h : readChosenKey known ofName? s = .ok (a, r)) :
    r.length < s.length := by
  unfold readChosenKey at h
  split at h
  · simp at h
  · rename_i hb
    have := length_lt_of_dropBlanks hb
    have := length_of_readName h
    omega
  · simp at h
  · simp at h

/-- One of several named values: its name, or an object with its name as the only key and `null` as
the value. -/
def readChoice {α : Type} (known : List String) (ofName? : String → Option α) (s : List Char) :
    Except Fault (α × List Char) :=
  match dropBlanks s with
  | [] => .error (.cutOff .value)
  | '"' :: r => readName known ofName? r
  | '{' :: r =>
    match readChosenKey known ofName? r with
    | .error fault => .error fault
    | .ok (a, r) =>
      match readColon r with
      | .error fault => .error fault
      | .ok r =>
        match readUnit r with
        | .error fault => .error fault
        | .ok r =>
          match readChoiceEnd r with
          | .error fault => .error fault
          | .ok r => .ok (a, r)
  | _ => .error (.malformed .expectedValue)

theorem length_of_readChoice {α : Type} {known : List String} {ofName? : String → Option α}
    {s r : List Char} {a : α} (h : readChoice known ofName? s = .ok (a, r)) :
    r.length < s.length := by
  unfold readChoice at h
  split at h
  · simp at h
  · rename_i hb
    have := length_lt_of_dropBlanks hb
    have := length_of_readName h
    omega
  · rename_i hb
    have := length_lt_of_dropBlanks hb
    split at h
    · simp at h
    rename_i hn
    have := length_of_readChosenKey hn
    split at h
    · simp at h
    rename_i hc
    have := length_of_readColon hc
    split at h
    · simp at h
    rename_i hu
    have := length_of_readUnit hu
    split at h
    · simp at h
    rename_i he
    have := length_of_readChoiceEnd he
    simp only [Except.ok.injEq, Prod.mk.injEq] at h
    rw [← h.2]
    omega
  · simp at h

namespace Format

/-- The format of texts. -/
def text : Format String where
  read := readText .string
  print s := printString s.toList
  shorter := length_of_readText

/-- The format of booleans. -/
def flag : Format Bool where
  read := readFlag
  print b := (if b then "true" else "false").toList
  shorter := length_of_readFlag

/-- The format of named values. -/
def choice {α : Type} (known : List String) (ofName? : String → Option α) (name : α → String) :
    Format α where
  read := readChoice known ofName?
  print a := printString (name a).toList
  shorter := length_of_readChoice

end Format

/-! ### Optional values -/

/-- A value, or `null` for none. -/
def readOptional {α : Type} (format : Format α) (s : List Char) :
    Except Fault (Option α × List Char) :=
  match dropBlanks s with
  | 'n' :: r =>
    match readLiteral ['u', 'l', 'l'] r with
    | .error fault => .error fault
    | .ok r => .ok (none, r)
  | r =>
    match format.read r with
    | .error fault => .error fault
    | .ok (a, r) => .ok (some a, r)

theorem length_of_readOptional {α : Type} {format : Format α} {s r : List Char} {a : Option α}
    (h : readOptional format s = .ok (a, r)) : r.length < s.length := by
  unfold readOptional at h
  split at h
  · rename_i hb
    split at h
    · simp at h
    · rename_i hr
      have := length_lt_of_dropBlanks hb
      have := length_of_readLiteral hr
      simp only [Except.ok.injEq, Prod.mk.injEq] at h
      rw [← h.2]
      omega
  · split at h
    · simp at h
    · rename_i hr
      have := length_dropBlanks_le s
      have := format.shorter hr
      simp only [Except.ok.injEq, Prod.mk.injEq] at h
      rw [← h.2]
      omega

/-- A format with `null` for no value. -/
def Format.optional {α : Type} (format : Format α) : Format (Option α) where
  read := readOptional format
  print
    | none => "null".toList
    | some a => format.print a
  shorter := length_of_readOptional

/-! ### Lists -/

/-- What comes next in a list. -/
inductive NextElement where
  /-- An element, with which the text begins. -/
  | element (s : List Char)
  /-- Nothing: the list has ended before the text. -/
  | ended (s : List Char)

/-- The next element of a list, or its end. -/
def nextElement (first : Bool) (s : List Char) : Except Fault NextElement :=
  match dropBlanks s with
  | [] => .error (.cutOff .list)
  | ']' :: r => .ok (.ended r)
  | c :: r =>
    if first then .ok (.element (c :: r))
    else if c = ',' then
      match dropBlanks r with
      | [] => .error (.cutOff .value)
      | ']' :: _ => .error (.malformed .trailingComma)
      | r => .ok (.element r)
    else .error (.malformed .expectedListEnd)

theorem length_of_nextElement {first : Bool} {s r : List Char}
    (h : nextElement first s = .ok (.element r)) : r.length ≤ s.length := by
  unfold nextElement at h
  split at h
  · simp at h
  · simp at h
  · rename_i c r' _ hb
    have := length_dropBlanks_le s
    have := length_lt_of_dropBlanks hb
    split at h
    · simp only [Except.ok.injEq, NextElement.element.injEq] at h
      rw [← h, ← hb]
      assumption
    · split at h
      · split at h
        · simp at h
        · simp at h
        · have := length_dropBlanks_le r'
          simp only [Except.ok.injEq, NextElement.element.injEq] at h
          rw [← h]
          omega
      · simp at h

theorem length_of_nextElement_ended {first : Bool} {s r : List Char}
    (h : nextElement first s = .ok (.ended r)) : r.length < s.length := by
  unfold nextElement at h
  split at h
  · simp at h
  · rename_i hb
    simp only [Except.ok.injEq, NextElement.ended.injEq] at h
    exact h ▸ length_lt_of_dropBlanks hb
  · split at h
    · simp at h
    · split at h
      · split at h <;> simp at h
      · simp at h

/-- The elements of a list up to its end. -/
def readElements {α : Type} (format : Format α) (first : Bool) (s : List Char) :
    Except Fault (List α × List Char) :=
  match hn : nextElement first s with
  | .error fault => .error fault
  | .ok (.ended r) => .ok ([], r)
  | .ok (.element r) =>
    match ha : format.read r with
    | .error fault => .error fault
    | .ok (a, r') =>
      have := length_of_nextElement hn
      have := format.shorter ha
      match readElements format false r' with
      | .error fault => .error fault
      | .ok (as, rest) => .ok (a :: as, rest)
termination_by s.length

theorem length_of_readElements {α : Type} {format : Format α} {first : Bool} {s r : List Char}
    {as : List α} (h : readElements format first s = .ok (as, r)) : r.length < s.length := by
  fun_induction readElements format first s generalizing as r with
  | case1 => simp at h
  | case2 first s r' hn =>
    simp only [Except.ok.injEq, Prod.mk.injEq] at h
    exact h.2 ▸ length_of_nextElement_ended hn
  | case3 => simp at h
  | case4 => simp at h
  | case5 =>
    rename_i hr ih
    simp only [Except.ok.injEq, Prod.mk.injEq] at h
    have := ih hr
    rw [← h.2]
    omega

/-- The list at the front of a text. -/
def readList {α : Type} (format : Format α) (s : List Char) : Except Fault (List α × List Char) :=
  match dropBlanks s with
  | '[' :: r => readElements format true r
  | r => .error (mismatch .sequence r)

theorem length_of_readList {α : Type} {format : Format α} {s r : List Char} {as : List α}
    (h : readList format s = .ok (as, r)) : r.length < s.length := by
  unfold readList at h
  split at h
  · rename_i hb
    have := length_lt_of_dropBlanks hb
    have := length_of_readElements h
    omega
  · simp at h

/-- The format of lists. -/
def Format.list {α : Type} (format : Format α) : Format (List α) where
  read := readList format
  print as := '[' :: [','].intercalate (as.map format.print) ++ [']']
  shorter := length_of_readList

/-- The only value in a text: blanks may surround it, and nothing else. -/
def Format.readAll {α : Type} (format : Format α) (s : List Char) : Except Fault α :=
  match format.read s with
  | .error fault => .error fault
  | .ok (a, r) =>
    match dropBlanks r with
    | [] => .ok a
    | _ => .error (.malformed .trailingCharacters)

end RestClient.Json
