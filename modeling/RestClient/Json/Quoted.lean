import RestClient.Json.Fault
import RestClient.Text.Bytes
import RestClient.Text.Hex

/-! # Strings

The text between the quotes of a JSON string, from behind the opening quote.

* `readString` decodes it: an escape stands for one character, also if it takes a pair of
  surrogates;
* `skipString` passes over it: escapes must be well-formed, but surrogates need no partner;
* `printString` writes a string with its quotes, and escapes only what has to be escaped.

`length_of_readString` and `length_of_skipString` say that both take at least one character. -/

namespace RestClient.Json

open RestClient.Text

/-! ### Escapes -/

/-- Four hexadecimal digits as a code unit of UTF-16. A text of fewer than four bytes is cut off,
whatever it holds. -/
def codeUnit (s : List Char) : Except Fault (Nat × List Char) :=
  match s with
  | a :: b :: c :: d :: r =>
    match hexDigit? a, hexDigit? b, hexDigit? c, hexDigit? d with
    | some a, some b, some c, some d => .ok (((a * 16 + b) * 16 + c) * 16 + d, r)
    | _, _, _, _ => .error (.malformed .invalidEscape)
  | s => .error (if byteSize s < 4 then .cutOff .string else .malformed .invalidEscape)

/-- The second halves of surrogate pairs. -/
def isLowSurrogate (n : Nat) : Bool := 0xDC00 ≤ n && n ≤ 0xDFFF

/-- The first halves of surrogate pairs. -/
def isHighSurrogate (n : Nat) : Bool := 0xD800 ≤ n && n ≤ 0xDBFF

/-- The character of a surrogate pair. -/
def ofSurrogates (high low : Nat) : Char :=
  Char.ofNat (0x10000 + (high - 0xD800) * 0x400 + (low - 0xDC00))

/-- The second half of a surrogate pair, which has to be an escape of its own. -/
def readLowSurrogate (high : Nat) (s : List Char) : Except Fault (Char × List Char) :=
  match s with
  | [] => .error (.cutOff .string)
  | ['\\'] => .error (.cutOff .string)
  | '\\' :: 'u' :: r =>
    match codeUnit r with
    | .error fault => .error fault
    | .ok (low, r) =>
      if isLowSurrogate low then .ok (ofSurrogates high low, r)
      else .error (.malformed .loneSurrogate)
  | _ => .error (.malformed .unexpectedEscapeEnd)

/-- The character of an escape by code unit, from behind its letter. -/
def readUnicodeEscape (s : List Char) : Except Fault (Char × List Char) :=
  match codeUnit s with
  | .error fault => .error fault
  | .ok (n, r) =>
    if isLowSurrogate n then .error (.malformed .loneSurrogate)
    else if isHighSurrogate n then readLowSurrogate n r
    else .ok (Char.ofNat n, r)

/-- The character that a letter behind a backslash stands for. -/
def escaped? : Char → Option Char
  | '"' => some '"'
  | '\\' => some '\\'
  | '/' => some '/'
  | 'b' => some '\x08'
  | 'f' => some '\x0c'
  | 'n' => some '\n'
  | 'r' => some '\r'
  | 't' => some '\t'
  | _ => none

/-- The character of an escape, from behind its backslash. -/
def readEscape (s : List Char) : Except Fault (Char × List Char) :=
  match s with
  | [] => .error (.cutOff .string)
  | 'u' :: r => readUnicodeEscape r
  | c :: r =>
    match escaped? c with
    | some d => .ok (d, r)
    | none => .error (.malformed .invalidEscape)

/-- What stands behind an escape, from behind its backslash. -/
def skipEscape (s : List Char) : Except Fault (List Char) :=
  match s with
  | [] => .error (.cutOff .string)
  | 'u' :: r =>
    match codeUnit r with
    | .error fault => .error fault
    | .ok (_, r) => .ok r
  | c :: r =>
    match escaped? c with
    | some _ => .ok r
    | none => .error (.malformed .invalidEscape)

/-! ### What escapes leave to read -/

theorem length_of_codeUnit {s r : List Char} {n : Nat} (h : codeUnit s = .ok (n, r)) :
    r.length < s.length := by
  unfold codeUnit at h
  split at h
  · split at h
    · simp only [Except.ok.injEq, Prod.mk.injEq] at h
      simp only [← h.2, List.length_cons]
      omega
    · simp at h
  · simp at h

theorem length_of_readLowSurrogate {high : Nat} {s r : List Char} {c : Char}
    (h : readLowSurrogate high s = .ok (c, r)) : r.length < s.length := by
  unfold readLowSurrogate at h
  split at h
  · simp at h
  · simp at h
  · split at h
    · simp at h
    · rename_i hu
      have := length_of_codeUnit hu
      split at h
      · simp only [Except.ok.injEq, Prod.mk.injEq] at h
        simp only [← h.2, List.length_cons]
        omega
      · simp at h
  · simp at h

theorem length_of_readEscape {s r : List Char} {c : Char} (h : readEscape s = .ok (c, r)) :
    r.length < s.length := by
  unfold readEscape at h
  split at h
  · simp at h
  · unfold readUnicodeEscape at h
    split at h
    · simp at h
    · rename_i hu
      have hu := length_of_codeUnit hu
      split at h
      · simp at h
      · split at h
        · have := length_of_readLowSurrogate h
          simp only [List.length_cons]
          omega
        · simp only [Except.ok.injEq, Prod.mk.injEq] at h
          simp only [← h.2, List.length_cons]
          omega
  · split at h
    · simp only [Except.ok.injEq, Prod.mk.injEq] at h
      simp [← h.2]
    · simp at h

theorem length_of_skipEscape {s r : List Char} (h : skipEscape s = .ok r) :
    r.length < s.length := by
  unfold skipEscape at h
  split at h
  · simp at h
  · split at h
    · simp at h
    · rename_i hu
      have := length_of_codeUnit hu
      simp only [Except.ok.injEq] at h
      simp only [← h, List.length_cons]
      omega
  · split at h
    · simp only [Except.ok.injEq] at h
      simp [← h]
    · simp at h

/-! ### Strings -/

/-- The characters that may not stand in a string as they are. -/
def isControl (c : Char) : Bool := c.toNat < 0x20

/-- A string from behind its opening quote: its characters, and what stands behind its closing
quote. -/
def readString (s : List Char) : Except Fault (List Char × List Char) :=
  match s with
  | [] => .error (.cutOff .string)
  | '"' :: r => .ok ([], r)
  | '\\' :: r =>
    match h : readEscape r with
    | .error fault => .error fault
    | .ok (c, r') =>
      have := length_of_readEscape h
      match readString r' with
      | .error fault => .error fault
      | .ok (cs, rest) => .ok (c :: cs, rest)
  | c :: r =>
    if isControl c then .error (.malformed .controlCharacter)
    else
      match readString r with
      | .error fault => .error fault
      | .ok (cs, rest) => .ok (c :: cs, rest)
termination_by s.length

/-- What stands behind the closing quote of a string, from behind its opening quote. -/
def skipString (s : List Char) : Except Fault (List Char) :=
  match s with
  | [] => .error (.cutOff .string)
  | '"' :: r => .ok r
  | '\\' :: r =>
    match h : skipEscape r with
    | .error fault => .error fault
    | .ok r' =>
      have := length_of_skipEscape h
      skipString r'
  | c :: r => if isControl c then .error (.malformed .controlCharacter) else skipString r
termination_by s.length

/-- **A string takes at least its closing quote.** -/
theorem length_of_readString {s cs r : List Char} (h : readString s = .ok (cs, r)) :
    r.length < s.length := by
  fun_induction readString s generalizing cs r with
  | case1 => simp at h
  | case2 => simp_all
  | case3 => simp at h
  | case4 => simp at h
  | case5 r₀ c r' he hlt cs' rest hr ih =>
    simp only [Except.ok.injEq, Prod.mk.injEq] at h
    have := ih hr
    rw [← h.2, List.length_cons]
    omega
  | case6 => simp at h
  | case7 => simp at h
  | case8 =>
    rename_i hr ih
    simp only [Except.ok.injEq, Prod.mk.injEq] at h
    have := ih hr
    rw [← h.2, List.length_cons]
    omega

theorem length_of_skipString {s r : List Char} (h : skipString s = .ok r) :
    r.length < s.length := by
  fun_induction skipString s with
  | case1 => simp at h
  | case2 => simp_all
  | case3 => simp at h
  | case4 r₀ r' he hlt ih =>
    have := ih h
    rw [List.length_cons]
    omega
  | case5 => simp at h
  | case6 =>
    rename_i ih
    have := ih h
    rw [List.length_cons]
    omega

/-! ### Printing -/

/-- A character as it is written in a string. -/
def printChar (c : Char) : List Char :=
  match c with
  | '"' => ['\\', '"']
  | '\\' => ['\\', '\\']
  | '\x08' => ['\\', 'b']
  | '\x0c' => ['\\', 'f']
  | '\n' => ['\\', 'n']
  | '\r' => ['\\', 'r']
  | '\t' => ['\\', 't']
  | c =>
    if isControl c then
      ['\\', 'u', '0', '0', Nat.digitChar (c.toNat / 16), Nat.digitChar (c.toNat % 16)]
    else [c]

/-- A string with its quotes. -/
def printString (s : List Char) : List Char := '"' :: s.flatMap printChar ++ ['"']

end RestClient.Json
