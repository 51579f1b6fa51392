import RestClient.Json.Fault

/-! # Numbers

A number is scanned into its parts first and valued afterwards.

* `Number.scan` takes a number off the front of a text; `Number.length_of_scan` says that it takes
  at least one character;
* `Number.found?` is its value: a whole number if it is written as one and fits into 64 bits, else a
  floating-point number, if there is one so large.

A significand holds digits only as long as it stays below `2 ^ 64`. Digits behind that point count
only by their place. -/

namespace RestClient.Json

/-- A number as it is written. -/
structure Number where
  /-- Whether it begins with a minus sign. -/
  negative : Bool
  /-- The digits before the point. -/
  whole : List Char
  /-- The digits behind the point, if there is one. -/
  fraction : List Char
  /-- The sign and the digits of the exponent, if there is one. -/
  exponent : Option (Bool × List Char)
  deriving DecidableEq, Repr

/-- Why a text does not begin with a number. -/
inductive Number.Gap where
  /-- It ends where a digit should be. -/
  | ended
  /-- It goes on with something else, or has a digit too many. -/
  | other
  deriving DecidableEq, Repr

namespace Number

/-- The digits at the front of a text, at least one. -/
def digits (s : List Char) : Except Gap (List Char × List Char) :=
  match s with
  | [] => .error .ended
  | c :: r =>
    if c.isDigit then .ok (c :: r.takeWhile Char.isDigit, r.dropWhile Char.isDigit)
    else .error .other

/-- The digits before the point: a zero stands alone. -/
def wholeDigits (s : List Char) : Except Gap (List Char × List Char) :=
  match digits s with
  | .ok ('0' :: _ :: _, _) => .error .other
  | result => result

/-- The digits behind a point, if there is one. -/
def fractionDigits (s : List Char) : Except Gap (List Char × List Char) :=
  match s with
  | '.' :: r => digits r
  | s => .ok ([], s)

/-- The digits of an exponent with the given sign. -/
def signedDigits (negative : Bool) (s : List Char) :
    Except Gap (Option (Bool × List Char) × List Char) :=
  match digits s with
  | .error gap => .error gap
  | .ok (ds, r) => .ok (some (negative, ds), r)

/-- The exponent, if there is one. -/
def exponentDigits (s : List Char) : Except Gap (Option (Bool × List Char) × List Char) :=
  match s with
  | [] => .ok (none, [])
  | c :: r =>
    if c = 'e' ∨ c = 'E' then
      match r with
      | '-' :: r => signedDigits true r
      | '+' :: r => signedDigits false r
      | r => signedDigits false r
    else .ok (none, c :: r)

/-- A number without its sign. -/
def scanUnsigned (negative : Bool) (s : List Char) : Except Gap (Number × List Char) :=
  match wholeDigits s with
  | .error gap => .error gap
  | .ok (whole, s) =>
    match fractionDigits s with
    | .error gap => .error gap
    | .ok (fraction, s) =>
      match exponentDigits s with
      | .error gap => .error gap
      | .ok (exponent, s) => .ok (⟨negative, whole, fraction, exponent⟩, s)

/-- The number at the front of a text, with the text behind it. -/
def scan (s : List Char) : Except Gap (Number × List Char) :=
  match s with
  | '-' :: r => scanUnsigned true r
  | s => scanUnsigned false s

/-! ### What a number leaves to read -/

theorem length_of_digits {s ds r : List Char} (h : digits s = .ok (ds, r)) :
    r.length < s.length := by
  unfold digits at h
  split at h
  · simp at h
  · split at h
    · simp only [Except.ok.injEq, Prod.mk.injEq] at h
      obtain ⟨-, rfl⟩ := h
      have := (List.dropWhile_sublist Char.isDigit (l := ‹List Char›)).length_le
      simp only [List.length_cons]
      omega
    · simp at h

theorem length_of_wholeDigits {s ds r : List Char} (h : wholeDigits s = .ok (ds, r)) :
    r.length < s.length := by
  unfold wholeDigits at h
  split at h
  · simp at h
  · exact length_of_digits h

theorem length_of_fractionDigits {s ds r : List Char} (h : fractionDigits s = .ok (ds, r)) :
    r.length ≤ s.length := by
  unfold fractionDigits at h
  split at h
  · have := length_of_digits h
    simp only [List.length_cons]
    omega
  · simp only [Except.ok.injEq, Prod.mk.injEq] at h
    simp [h.2]

theorem length_of_signedDigits {negative : Bool} {s r : List Char} {e : Option (Bool × List Char)}
    (h : signedDigits negative s = .ok (e, r)) : r.length < s.length := by
  unfold signedDigits at h
  split at h
  · simp at h
  · rename_i hd
    simp only [Except.ok.injEq, Prod.mk.injEq] at h
    obtain ⟨-, rfl⟩ := h
    exact length_of_digits hd

theorem length_of_exponentDigits {s r : List Char} {e : Option (Bool × List Char)}
    (h : exponentDigits s = .ok (e, r)) : r.length ≤ s.length := by
  unfold exponentDigits at h
  split at h
  · simp only [Except.ok.injEq, Prod.mk.injEq] at h
    simp [← h.2]
  · split at h
    · split at h <;>
      · have := length_of_signedDigits h
        simp only [List.length_cons] at this ⊢
        omega
    · simp only [Except.ok.injEq, Prod.mk.injEq] at h
      simp [← h.2]

theorem length_of_scanUnsigned {negative : Bool} {s r : List Char} {n : Number}
    (h : scanUnsigned negative s = .ok (n, r)) : r.length < s.length := by
  unfold scanUnsigned at h
  split at h
  · simp at h
  · rename_i hw
    split at h
    · simp at h
    · rename_i hf
      split at h
      · simp at h
      · rename_i he
        simp only [Except.ok.injEq, Prod.mk.injEq] at h
        obtain ⟨-, rfl⟩ := h
        have := length_of_wholeDigits hw
        have := length_of_fractionDigits hf
        have := length_of_exponentDigits he
        omega

/-- **A number takes at least one character.** -/
theorem length_of_scan {s r : List Char} {n : Number} (h : scan s = .ok (n, r)) :
    r.length < s.length := by
  unfold scan at h
  split at h
  · have := length_of_scanUnsigned h
    simp only [List.length_cons]
    omega
  · exact length_of_scanUnsigned h

/-! ### Values -/

/-- The value of digits. -/
def natOf (ds : List Char) : Nat := ds.foldl (fun n d => 10 * n + (d.toNat - 48)) 0

/-- A significand with as many more digits as keep it below `2 ^ 64`, and how many are left over. -/
def extend (significand : Nat) : List Char → Nat × Nat
  | [] => (significand, 0)
  | d :: ds =>
    let next := 10 * significand + (d.toNat - 48)
    if next < Nat.pow 2 64 then extend next ds else (significand, ds.length + 1)

/-- The exponent of ten that is written. -/
def writtenExponent (n : Number) : Int :=
  match n.exponent with
  | none => 0
  | some (true, ds) => -natOf ds
  | some (false, ds) => natOf ds

/-- The floating-point number without its sign, if it is finite. -/
def magnitude? (n : Number) : Option Binary64 :=
  let (whole, skipped) := extend 0 n.whole
  let (significand, dropped) := extend whole n.fraction
  Binary64.ofDecimal? significand
    (skipped - (n.fraction.length - dropped : Nat) + n.writtenExponent)

/-- The whole number of 64 bits that is written, if any. A minus sign goes before positive numbers
only. -/
def integer? (n : Number) : Option Int :=
  if n.fraction.isEmpty ∧ n.exponent = none then
    let value := natOf n.whole
    if n.negative then
      if 0 < value ∧ value ≤ Nat.pow 2 63 then some (-(value : Int)) else none
    else if value < Nat.pow 2 64 then some value
    else none
  else none

/-- The value of a number, unless it is too large. -/
def found? (n : Number) : Option Found :=
  match n.integer? with
  | some value => some (.integer value)
  | none => n.magnitude?.map (.float n.negative)

end Number

end RestClient.Json
