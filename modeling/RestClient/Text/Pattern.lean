import RestClient.Text.Alphanumeric
import RestClient.Text.Pattern.Set

/-! # Regular expressions

Whether a text is a regular expression that can be matched. What its parts match is of no interest
for that: of a part that has been read, only the depth to which it is nested is kept.

* `Reading` is what is known of an expression at some place, `Reading.step` goes on by one part, and
  `Reading.run` goes on up to the end;
* `fault?` says what keeps a text from being an expression that can be matched.

There are no counted repetitions: their braces never come in pairs, since a closing one ends the
text before. -/

namespace RestClient.Text.Pattern

/-! ### Groups -/

/-- What has been read of a group that is not yet closed, or of the whole expression. -/
structure OpenGroup where
  /-- How deep the branches before the last one are. -/
  branches : List Nat
  /-- How deep the parts of the last branch are, the last one first. -/
  parts : List Nat
  /-- Whether the last part can be repeated. -/
  repeatable : Bool
  deriving DecidableEq, Repr

namespace OpenGroup

/-- A group in which nothing has been read. -/
def empty : OpenGroup := ⟨[], [], false⟩

/-- How deep the inside of a group is. -/
def inside (group : OpenGroup) : Nat := joined (joined group.parts :: group.branches)

/-- A group with one more part. -/
def push (group : OpenGroup) (depth : Nat) : OpenGroup :=
  { group with parts := depth :: group.parts, repeatable := true }

/-- A group with a change of options as one more part, which cannot be repeated. -/
def pushOptions (group : OpenGroup) : OpenGroup :=
  { group with parts := 0 :: group.parts, repeatable := false }

/-- A group with one more branch. -/
def branch (group : OpenGroup) : OpenGroup :=
  ⟨joined group.parts :: group.branches, [], false⟩

/-- A group whose last part is repeated. -/
def repeat? (group : OpenGroup) : Option OpenGroup :=
  match group.parts with
  | [] => none
  | depth :: parts =>
    if group.repeatable then some { group with parts := (depth + 1) :: parts } else none

end OpenGroup

/-- What an opening parenthesis begins. -/
inductive Opening where
  /-- A group, perhaps with a name, and the options in it. -/
  | group (name : Option (List Char)) (options : Options)
  /-- A change of options, which is closed at once. -/
  | change (options : Options)
  deriving DecidableEq, Repr

/-- Whether a character may begin the name of a group. -/
def startsName (c : Char) : Bool := isAlphabetic c || c == '_'

/-- Whether a character may stand in the name of a group. -/
def isNameCharacter (c : Char) : Bool :=
  isAlphanumeric c || c == '_' || c == '.' || c == '[' || c == ']'

/-- The name that a text begins with, up to a closing angle bracket. -/
def readName (s : List Char) : Option (List Char × List Char) :=
  let name := s.takeWhile (· ≠ '>')
  match s.dropWhile (· ≠ '>') with
  | [] => none
  | _ :: r => if name.head?.any startsName && name.all isNameCharacter then some (name, r) else none

/-- What the letters at the front of a text begin. A colon begins a group behind them. -/
def readLetters (options : Options) (s : List Char) : Option (Opening × List Char) :=
  let letters := s.takeWhile fun c => c ≠ ':' && c ≠ ')'
  match s.dropWhile fun c => c ≠ ':' && c ≠ ')' with
  | [] => none
  | ':' :: r => (options.change? letters).map fun options => (.group none options, r)
  | _ :: r =>
    if letters.isEmpty then none
    else (options.change? letters).map fun options => (.change options, r)

/-- What begins behind an opening parenthesis. -/
def readOpening (options : Options) (s : List Char) : Option (Opening × List Char) :=
  match options.skip s with
  | '?' :: 'P' :: '<' :: r => (readName r).map fun (name, r) => (.group (some name) options, r)
  | '?' :: '<' :: r => (readName r).map fun (name, r) => (.group (some name) options, r)
  | '?' :: r => readLetters options r
  | r => some (.group none options, r)

theorem length_of_readName {name s r : List Char} (h : readName s = some (name, r)) :
    r.length ≤ s.length := by
  have := (List.dropWhile_suffix (· ≠ '>') (l := s)).length_le
  simp only [readName] at h
  split at h
  · simp at h
  · rename_i hd
    rw [hd, List.length_cons] at this
    split at h
    · simp only [Option.some.injEq, Prod.mk.injEq] at h
      rw [← h.2]
      omega
    · simp at h

theorem length_of_readLetters {options : Options} {opening : Opening} {s r : List Char}
    (h : readLetters options s = some (opening, r)) : r.length ≤ s.length := by
  have := (List.dropWhile_suffix (fun c => c ≠ ':' && c ≠ ')') (l := s)).length_le
  simp only [readLetters] at h
  split at h
  · simp at h
  · rename_i hd
    simp only [Option.map_eq_some_iff, Prod.mk.injEq] at h
    obtain ⟨_, _, _, h⟩ := h
    rw [hd, h] at this
    exact Nat.le_of_succ_le this
  · rename_i hd
    split at h
    · simp at h
    · simp only [Option.map_eq_some_iff, Prod.mk.injEq] at h
      obtain ⟨_, _, _, h⟩ := h
      rw [hd, h] at this
      exact Nat.le_of_succ_le this

theorem length_of_readOpening {options : Options} {opening : Opening} {s r : List Char}
    (h : readOpening options s = some (opening, r)) : r.length ≤ s.length := by
  have skipped := options.length_skip_le s
  unfold readOpening at h
  split at h
  case h_4 =>
    simp only [Option.some.injEq, Prod.mk.injEq] at h
    exact h.2 ▸ skipped
  case h_3 hs =>
    have := length_of_readLetters h
    rw [hs, List.length_cons] at skipped
    omega
  all_goals
    rename_i hs
    simp only [Option.map_eq_some_iff, Prod.mk.injEq] at h
    obtain ⟨_, hn, _, h⟩ := h
    have := h ▸ length_of_readName hn
    rw [hs] at skipped
    simp only [List.length_cons] at skipped
    omega

/-! ### Expressions -/

/-- What is known of an expression at some place. -/
structure Reading where
  /-- The options there. -/
  options : Options
  /-- The names of groups so far. -/
  names : List (List Char)
  /-- Whether the ends of words have been asked for, in an expression about characters. -/
  wordBoundary : Bool
  /-- The innermost open group. -/
  group : OpenGroup
  /-- The open groups around it, each with the options that hold in it. -/
  outer : List (Options × OpenGroup)
  deriving DecidableEq, Repr

namespace Reading

/-- What is known at the start. -/
def initial : Reading := ⟨.initial, [], false, .empty, []⟩

/-- What an opening parenthesis makes of a reading. No two groups have one name. -/
def enter? (reading : Reading) (opening : Opening) : Option Reading :=
  match opening with
  | .change options => some { reading with options, group := reading.group.pushOptions }
  | .group name options =>
    if name.any (· ∈ reading.names) then none
    else
      some { reading with
        options
        names := name.toList ++ reading.names
        group := .empty
        outer := (reading.options, reading.group) :: reading.outer }

/-- What a closing parenthesis makes of a reading. The options from before the group hold again. -/
def leave? (reading : Reading) : Option Reading :=
  match reading.outer with
  | [] => none
  | (options, around) :: outer =>
    some { reading with options, group := around.push (1 + reading.group.inside), outer }

/-- What a primitive makes of a reading. -/
def use? (reading : Reading) (primitive : Primitive) : Option Reading :=
  if primitive.isMatchable reading.options then
    some { reading with
      group := reading.group.push 0
      wordBoundary := reading.wordBoundary ||
        (primitive = .boundary && reading.options.unicode) }
  else none

/-- One step in an expression, at a character. A question mark directly behind a repetition belongs
to it. -/
def step (reading : Reading) (c : Char) (r : List Char) : Option (Reading × List Char) :=
  if c = '(' then
    match readOpening reading.options r with
    | none => none
    | some (opening, rest) => (reading.enter? opening).map fun reading => (reading, rest)
  else if c = ')' then reading.leave?.map fun reading => (reading, r)
  else if c = '|' then some ({ reading with group := reading.group.branch }, r)
  else if c = '[' then
    match OpenSet.start? reading.options r with
    | none => none
    | some (set, r) =>
      (readSet reading.options set [] r).map fun (depth, rest) =>
        ({ reading with group := reading.group.push depth }, rest)
  else if c ∈ ['?', '*', '+'] then
    reading.group.repeat?.map fun group =>
      ({ reading with group }, if r.head? = some '?' then r.tail else r)
  else if c = '\x7b' then none
  else
    match readPrimitive reading.options c r with
    | none => none
    | some (primitive, rest) => (reading.use? primitive).map fun reading => (reading, rest)

theorem length_of_step {reading next : Reading} {c : Char} {s r : List Char}
    (h : reading.step c s = some (next, r)) : r.length ≤ s.length := by
  unfold step at h
  split at h
  · split at h
    · simp at h
    · rename_i ho
      simp only [Option.map_eq_some_iff, Prod.mk.injEq] at h
      obtain ⟨_, _, _, h⟩ := h
      exact h ▸ length_of_readOpening ho
  split at h
  · simp only [Option.map_eq_some_iff, Prod.mk.injEq] at h
    obtain ⟨_, _, _, h⟩ := h
    exact h ▸ Nat.le_refl _
  split at h
  · simp only [Option.some.injEq, Prod.mk.injEq] at h
    exact h.2 ▸ Nat.le_refl _
  split at h
  · split at h
    · simp at h
    · rename_i hs
      simp only [Option.map_eq_some_iff, Prod.mk.injEq] at h
      obtain ⟨_, hr, _, h⟩ := h
      have := OpenSet.length_of_start? hs
      have := h ▸ length_of_readSet hr
      omega
  split at h
  · simp only [Option.map_eq_some_iff, Prod.mk.injEq] at h
    obtain ⟨_, _, _, h⟩ := h
    rw [← h]
    split
    · rw [List.length_tail]
      omega
    · exact Nat.le_refl _
  split at h
  · simp at h
  · split at h
    · simp at h
    · rename_i hp
      simp only [Option.map_eq_some_iff, Prod.mk.injEq] at h
      obtain ⟨_, _, _, h⟩ := h
      exact h ▸ length_of_readPrimitive hp

/-- What is known at the end of an expression. -/
def run (reading : Reading) (s : List Char) : Option Reading :=
  match hs : reading.options.skip s with
  | [] => some reading
  | c :: r =>
    have := Options.length_of_skip hs
    match h : reading.step c r with
    | none => none
    | some (reading, rest) =>
      have := length_of_step h
      reading.run rest
termination_by s.length

/-- Whether an expression may end here. -/
def isComplete (reading : Reading) : Bool :=
  reading.outer.isEmpty && reading.group.inside ≤ nestingLimit

end Reading

/-- Why a text cannot be matched. -/
inductive Fault where
  /-- It is no regular expression, or it takes a table of the properties of characters. -/
  | malformed
  /-- It asks for the ends of words, which a matcher that looks at one character at a time cannot
  see. -/
  | wordBoundary
  deriving DecidableEq, Repr

/-- What keeps a text from being an expression that can be matched. -/
def fault? (s : List Char) : Option Fault :=
  match Reading.initial.run s with
  | none => some .malformed
  | some reading =>
    if !reading.isComplete then some .malformed
    else if reading.wordBoundary then some .wordBoundary
    else none

/-- The fault in words. -/
def Fault.message : Fault → String
  | .malformed => "error building NFA"
  | .wordBoundary =>
    "unsupported regex feature for DFAs: cannot build DFAs for regexes with Unicode word " ++
      "boundaries; switch to ASCII word boundaries, or heuristically enable Unicode word " ++
      "boundaries or use a different regex engine"

end RestClient.Text.Pattern
