/-! # Paths

A path names a place by the names on the way to it, with slashes between them. Empty names and the
name `.` stay where they are.

* `Path.pieces` are the names as they are written;
* `Path.ancestors` are the paths of the places on the way, from the innermost out, cut off the
  written path;
* `Path.parent?` is the path of the directory that a path lies in, if it is written. -/

namespace RestClient.Path

/-- The names in a path, between its slashes. -/
def pieces (path : String) : List String := (path.toList.splitOn '/').map String.ofList

/-- Whether a path begins at the root. -/
def isAbsolute (path : String) : Bool := path.toList.head? == some '/'

/-- The path of names. -/
def ofPieces (names : List String) : String :=
  if names = [""] then "/" else "/".intercalate names

/-- The names that lead somewhere, from outside in, each with the names before it, the nearest
first. -/
def steps (before : List String) : List String → List (List String)
  | [] => []
  | name :: rest =>
    let here := name :: before
    let leads := before.isEmpty || (name != "" && name != ".")
    if leads then here :: steps here rest else steps here rest

/-- The places on the way to a path, from the innermost out, and the path itself in front. -/
def ancestors (path : String) : List String :=
  if path = "" then []
  else ((steps [] (pieces path)).map fun names => ofPieces names.reverse).reverse

/-- The directory that a path lies in, if the path names one. -/
def parent? (path : String) : Option String := (ancestors path).tail.head?

end RestClient.Path
