/-! # Texts by the byte

Places in a text can be counted in the bytes of its characters. A place inside a character stands
for the place behind it.

`takeBytes` and `dropBytes` cut a text in two. -/

namespace RestClient.Text

/-- The number of bytes of a text. -/
def byteSize : List Char → Nat
  | [] => 0
  | c :: r => c.utf8Size + byteSize r

/-- The characters of a text that begin among its first `n` bytes. -/
def takeBytes (n : Nat) : List Char → List Char
  | [] => []
  | c :: r => if n = 0 then [] else c :: takeBytes (n - c.utf8Size) r

/-- The characters of a text that begin behind its first `n` bytes. -/
def dropBytes (n : Nat) : List Char → List Char
  | [] => []
  | c :: r => if n = 0 then c :: r else dropBytes (n - c.utf8Size) r

end RestClient.Text
