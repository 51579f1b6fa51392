import RestClient.Json.Blank
import RestClient.Json.Number
import RestClient.Json.Quoted

/-! # Values that are passed over

A value that nobody asked for only has to be well-formed. `skipValue` passes over it and keeps a
list of the brackets that are still open, so that nesting may be of any depth.

`length_of_skipValue` says that a value takes at least one character. -/

namespace RestClient.Json

/-- The rest of a text behind the rest of a literal. -/
def readLiteral (word s : List Char) : Except Fault (List Char) :=
  match word, s with
  | [], s => .ok s
  | _ :: _, [] => .error (.cutOff .value)
  | c :: word, d :: s => if c = d then readLiteral word s else .error (.malformed .expectedIdent)

theorem length_of_readLiteral {word s r : List Char} (h : readLiteral word s = .ok r) :
    r.length ≤ s.length := by
  fun_induction readLiteral word s with
  | case1 => simp_all
  | case2 => simp at h
  | case3 word c s ih =>
    have := ih h
    rw [List.length_cons]
    omega
  | case4 => simp at h

/-- What stands behind a colon. -/
def readColon (s : List Char) : Except Fault (List Char) :=
  match dropBlanks s with
  | [] => .error (.cutOff .object)
  | ':' :: r => .ok r
  | _ => .error (.malformed .expectedColon)

theorem length_of_readColon {s r : List Char} (h : readColon s = .ok r) : r.length < s.length := by
  unfold readColon at h
  split at h
  · simp at h
  · rename_i hb
    simp only [Except.ok.injEq] at h
    exact h ▸ length_lt_of_dropBlanks hb
  · simp at h

/-- A value that holds no others, from its first character. -/
def skipScalar (c : Char) (r : List Char) : Except Fault (List Char) :=
  if c = 'n' then readLiteral ['u', 'l', 'l'] r
  else if c = 't' then readLiteral ['r', 'u', 'e'] r
  else if c = 'f' then readLiteral ['a', 'l', 's', 'e'] r
  else if c = '"' then skipString r
  else if c = '-' ∨ c.isDigit then
    match Number.scan (c :: r) with
    | .ok (_, rest) => .ok rest
    | .error _ => .error (.malformed .invalidNumber)
  else .error (.malformed .expectedValue)

theorem length_of_skipScalar {c : Char} {r rest : List Char} (h : skipScalar c r = .ok rest) :
    rest.length ≤ r.length := by
  unfold skipScalar at h
  split at h
  · exact length_of_readLiteral h
  split at h
  · exact length_of_readLiteral h
  split at h
  · exact length_of_readLiteral h
  split at h
  · exact Nat.le_of_lt (length_of_skipString h)
  split at h
  · split at h
    · rename_i hs
      have := Number.length_of_scan hs
      simp only [Except.ok.injEq] at h
      rw [List.length_cons] at this
      rw [← h]
      omega
    · simp at h
  · simp at h

/-- A key with its colon, where a member begins. -/
def skipKey (s : List Char) : Except Fault (List Char) :=
  match dropBlanks s with
  | [] => .error (.cutOff .object)
  | '"' :: r =>
    match skipString r with
    | .error fault => .error fault
    | .ok r => readColon r
  | _ => .error (.malformed .expectedKey)

theorem length_of_skipKey {s r : List Char} (h : skipKey s = .ok r) : r.length < s.length := by
  unfold skipKey at h
  split at h
  · simp at h
  · rename_i hb
    split at h
    · simp at h
    · rename_i hs
      have := length_lt_of_dropBlanks hb
      have := length_of_skipString hs
      have := length_of_readColon h
      omega
  · simp at h

/-- A bracket that is still open. -/
inductive Bracket where
  /-- That of a list. -/
  | list
  /-- That of an object. -/
  | object
  deriving DecidableEq, Repr

/-- Where a text stands inside its open brackets. -/
inductive Place where
  /-- A value comes next. -/
  | value
  /-- A value has just ended. -/
  | behind
  deriving DecidableEq, Repr

/-- The rest of a text behind the outermost of the brackets that are open, from a place inside the
innermost. -/
def skipFrom (place : Place) (brackets : List Bracket) (s : List Char) : Except Fault (List Char) :=
  match place with
  | .value =>
    match hb : dropBlanks s with
    | [] => .error (.cutOff .value)
    | '[' :: r =>
      have := length_lt_of_dropBlanks hb
      match hr : dropBlanks r with
      | [] => .error (.cutOff .list)
      | ']' :: r' =>
        have := length_lt_of_dropBlanks hr
        skipFrom .behind brackets r'
      | _ => skipFrom .value (.list :: brackets) r
    | '{' :: r =>
      have := length_lt_of_dropBlanks hb
      match hr : dropBlanks r with
      | [] => .error (.cutOff .object)
      | '}' :: r' =>
        have := length_lt_of_dropBlanks hr
        skipFrom .behind brackets r'
      | _ =>
        match hk : skipKey r with
        | .error fault => .error fault
        | .ok r' =>
          have := length_of_skipKey hk
          skipFrom .value (.object :: brackets) r'
    | c :: r =>
      have := length_lt_of_dropBlanks hb
      match hs : skipScalar c r with
      | .error fault => .error fault
      | .ok r' =>
        have := length_of_skipScalar hs
        skipFrom .behind brackets r'
  | .behind =>
    match brackets with
    | [] => .ok s
    | .list :: outer =>
      match hb : dropBlanks s with
      | [] => .error (.cutOff .list)
      | ',' :: r =>
        have := length_lt_of_dropBlanks hb
        skipFrom .value (.list :: outer) r
      | ']' :: r =>
        have := length_lt_of_dropBlanks hb
        skipFrom .behind outer r
      | _ => .error (.malformed .expectedListEnd)
    | .object :: outer =>
      match hb : dropBlanks s with
      | [] => .error (.cutOff .object)
      | ',' :: r =>
        have := length_lt_of_dropBlanks hb
        match hk : skipKey r with
        | .error fault => .error fault
        | .ok r' =>
          have := length_of_skipKey hk
          skipFrom .value (.object :: outer) r'
      | '}' :: r =>
        have := length_lt_of_dropBlanks hb
        skipFrom .behind outer r
      | _ => .error (.malformed .expectedObjectEnd)
termination_by s.length

theorem length_of_skipFrom {place : Place} {brackets : List Bracket} {s r : List Char}
    (h : skipFrom place brackets s = .ok r) :
    r.length ≤ s.length ∧ (place = .value → r.length < s.length) := by
  fun_induction skipFrom place brackets s <;> simp_all <;> omega

/-- What stands behind the value at the front of a text. -/
def skipValue (s : List Char) : Except Fault (List Char) := skipFrom .value [] s

/-- **A value takes at least one character.** -/
theorem length_of_skipValue {s r : List Char} (h : skipValue s = .ok r) : r.length < s.length :=
  (length_of_skipFrom h).2 rfl

end RestClient.Json
