import RestClient.Text.Blank

/-! # Options of regular expressions

A group may set or reset options, each with a letter. Three of them decide whether a text is an
expression that can be matched: whether letters stand for both of their cases, whether an expression
is about characters or about bytes, and whether it may be set out with blanks and comments. The
others are about lines and about the choice among several matches.

* `Options.change?` are the options behind some letters, and `Options.skip` is what follows the
  blanks and comments at some place.

There are no tables of the properties of characters for the matcher. So cases can be told only in
expressions about bytes. -/

namespace RestClient.Text.Pattern

/-- The options that hold from some place of an expression on. -/
structure Options where
  /-- Whether letters stand for both of their cases. -/
  caseless : Bool
  /-- Whether the expression is about characters. It is about bytes otherwise. -/
  unicode : Bool
  /-- Whether blanks and comments count for nothing. -/
  spaced : Bool
  deriving DecidableEq, Repr

namespace Options

/-- The options at the start of an expression. -/
def initial : Options := ⟨false, true, false⟩

/-- Whether it takes a table of cases to tell which characters are meant. -/
def needsCases (options : Options) : Bool := options.caseless && options.unicode

/-! ### Letters -/

/-- Whether a text is letters of options, each at most once. A hyphen may stand before some of them,
which are to be reset. -/
def areLetters (s : List Char) : Bool :=
  s.all (· ∈ "imsUuRx-".toList) && s.Nodup && s.getLast? ≠ some '-'

/-- The options with the one of a letter set or reset. -/
def set (value : Bool) (options : Options) (letter : Char) : Options :=
  match letter with
  | 'i' => { options with caseless := value }
  | 'u' => { options with unicode := value }
  | 'x' => { options with spaced := value }
  | _ => options

/-- The options behind some letters. -/
def change? (options : Options) (letters : List Char) : Option Options :=
  if areLetters letters then
    let changed := (letters.takeWhile (· ≠ '-')).foldl (set true) options
    some ((letters.dropWhile (· ≠ '-')).foldl (set false) changed)
  else none

/-! ### Blanks and comments -/

/-- What follows the blanks and comments at the front of a text. A comment begins with a number sign
and goes on up to the end of the line. -/
def dropSpacing (inComment : Bool) (s : List Char) : List Char :=
  match inComment, s with
  | _, [] => []
  | true, c :: r => dropSpacing (c ≠ '\n') r
  | false, c :: r =>
    if c = '#' then dropSpacing true r else if isBlank c then dropSpacing false r else c :: r

theorem length_dropSpacing_le (inComment : Bool) (s : List Char) :
    (dropSpacing inComment s).length ≤ s.length := by
  fun_induction dropSpacing inComment s <;> simp only [List.length_cons, List.length_nil] <;> omega

/-- What follows the blanks and comments at the front of a text, where they count for nothing. -/
def skip (options : Options) (s : List Char) : List Char :=
  if options.spaced then dropSpacing false s else s

theorem length_skip_le (options : Options) (s : List Char) :
    (options.skip s).length ≤ s.length := by
  unfold skip
  split
  · exact length_dropSpacing_le false s
  · omega

theorem length_of_skip {options : Options} {c : Char} {s r : List Char}
    (h : options.skip s = c :: r) : r.length < s.length := by
  have := options.length_skip_le s
  rwa [h] at this

/-- The next character that counts, as it is seen from the character before. This is the first one
of a comment, not the one behind it. -/
def peek? (options : Options) (s : List Char) : Option Char :=
  if options.spaced then
    match s.dropWhile isBlank with
    | '#' :: r => (r.dropWhile isBlank).head?
    | r => r.head?
  else s.head?

end Options

end RestClient.Text.Pattern
