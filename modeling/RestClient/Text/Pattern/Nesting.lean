/-! # Nesting of regular expressions

An expression may be nested only up to a limit. A primitive has no depth. A repetition, a group, a
set in brackets, and what holds several parts together each add one to the depth of the deepest of
their parts. -/

namespace RestClient.Text.Pattern

/-- The depth up to which an expression may be nested. -/
def nestingLimit : Nat := 250

/-- The depth of parts in a row. A part that stands alone needs nothing to hold it. -/
def joined (depths : List Nat) : Nat :=
  match depths with
  | [] => 0
  | [depth] => depth
  | _ => 1 + depths.foldl max 0

end RestClient.Text.Pattern
