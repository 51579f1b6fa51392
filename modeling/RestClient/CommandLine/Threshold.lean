import RestClient.Event

/-! # Thresholds

A threshold is the least level that passes, as a name in letters of any case or as a number. -/

namespace RestClient.CommandLine

/-- The least level that passes, or nothing passes. -/
abbrev Threshold := Option Level

/-- A text in small letters, as far as it is ASCII. -/
def lowerCase (s : String) : String := String.ofList (s.toList.map Char.toLower)

/-- The level of a name, in letters of any case. -/
def levelOf? (s : String) : Option Level :=
  match lowerCase s with
  | "trace" => some .trace
  | "debug" => some .debug
  | "info" => some .info
  | "warn" => some .warn
  | "error" => some .error
  | _ => none

/-- The number that digits stand for, with or without a plus sign before them. -/
def numberOf? (s : List Char) : Option Nat :=
  let digits := if s.head? = some '+' then s.tail else s
  if digits.isEmpty || !digits.all Char.isDigit then none
  else some (digits.foldl (fun n c => 10 * n + (c.toNat - '0'.toNat)) 0)

/-- The threshold of a number. A greater number lets more pass. -/
def thresholdOfNumber? : Nat → Option Threshold
  | 0 => some none
  | 1 => some (some .error)
  | 2 => some (some .warn)
  | 3 => some (some .info)
  | 4 => some (some .debug)
  | 5 => some (some .trace)
  | _ => none

/-- The threshold of a name or number. -/
def thresholdOf? (s : String) : Option Threshold :=
  if lowerCase s = "off" then some none
  else
    match levelOf? s with
    | some level => some (some level)
    | none => (numberOf? s.toList).bind thresholdOfNumber?

end RestClient.CommandLine
