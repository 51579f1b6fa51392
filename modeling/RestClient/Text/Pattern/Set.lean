import RestClient.Text.Pattern.Nesting
import RestClient.Text.Pattern.Primitive

/-! # Sets of characters in brackets

A set holds characters, ranges, shorthands, sets with a name and other sets. Doubled signs combine
what stands before them with what stands behind, from left to right.

* `OpenSet.start?` reads up to the members of a set, and `readSet` up to its end;
* what is read of a set is kept as an `OpenSet`, which knows how deep the set is nested.

A set of bytes may hold only those of ASCII, so it cannot be negated. -/

namespace RestClient.Text.Pattern

/-- What has been read of a set that is not yet closed. -/
structure OpenSet where
  /-- How deep what stands before the last operator is, if there is one. -/
  left : Option Nat
  /-- How deep the members behind it are. -/
  members : List Nat
  deriving DecidableEq, Repr

namespace OpenSet

/-- How deep the inside of a set is. -/
def inside (set : OpenSet) : Nat :=
  match set.left with
  | none => joined set.members
  | some left => 1 + max left (joined set.members)

/-- How deep a set with its brackets is. -/
def depth (set : OpenSet) : Nat := 1 + set.inside

/-- A set with one more member. -/
def push (set : OpenSet) (depth : Nat) : OpenSet := { set with members := depth :: set.members }

/-- A set behind an operator. -/
def combine (set : OpenSet) : OpenSet := ⟨some set.inside, []⟩

end OpenSet

/-! ### The start of a set -/

/-- The number of hyphens at the front of a text, with what follows them. -/
def readHyphens (options : Options) (s : List Char) : Nat × List Char :=
  match s with
  | '-' :: r =>
    have := options.length_skip_le r
    let (hyphens, rest) := readHyphens options (options.skip r)
    (hyphens + 1, rest)
  | s => (0, s)
termination_by s.length

/-- The number of the signs in front that are members of a set, with what follows them: hyphens, or
else a closing bracket. -/
def readFrontSigns (options : Options) (s : List Char) : Nat × List Char :=
  match readHyphens options s with
  | (0, ']' :: r) => (1, r)
  | signs => signs

/-- Whether a caret at the front of a text negates a set, and what follows it. -/
def readCaret (options : Options) (s : List Char) : Bool × List Char :=
  match options.skip s with
  | '^' :: r => (true, options.skip r)
  | r => (false, r)

/-- The set that begins behind an opening bracket. -/
def OpenSet.start? (options : Options) (s : List Char) : Option (OpenSet × List Char) :=
  let (negated, r) := readCaret options s
  let (signs, rest) := readFrontSigns options r
  if (negated && !options.unicode) || (signs ≠ 0 && options.needsCases) then none
  else some (⟨none, List.replicate signs 0⟩, rest)

theorem length_readHyphens_le (options : Options) (s : List Char) :
    (readHyphens options s).2.length ≤ s.length := by
  fun_induction readHyphens options s with
  | case1 r skipped hyphens rest h ih =>
    rw [h] at ih
    simp only [List.length_cons] at ih ⊢
    omega
  | case2 => exact Nat.le_refl _

theorem length_readFrontSigns_le (options : Options) (s : List Char) :
    (readFrontSigns options s).2.length ≤ s.length := by
  have := length_readHyphens_le options s
  unfold readFrontSigns
  split
  · rename_i h
    rw [h] at this
    exact Nat.le_of_succ_le this
  · exact this

theorem length_readCaret_le (options : Options) (s : List Char) :
    (readCaret options s).2.length ≤ s.length := by
  unfold readCaret
  split
  · rename_i r hr
    have skipped := options.length_skip_le r
    exact Nat.le_of_lt (Nat.lt_of_le_of_lt skipped (Options.length_of_skip hr))
  · exact options.length_skip_le s

theorem OpenSet.length_of_start? {options : Options} {set : OpenSet} {s r : List Char}
    (h : OpenSet.start? options s = some (set, r)) : r.length ≤ s.length := by
  simp only [OpenSet.start?] at h
  split at h
  · simp at h
  · simp only [Option.some.injEq, Prod.mk.injEq] at h
    rw [← h.2]
    exact Nat.le_trans (length_readFrontSigns_le _ _) (length_readCaret_le options s)

/-! ### Members -/

/-- The sets that have a name between colons. -/
def namedSets : List String :=
  ["alnum", "alpha", "ascii", "blank", "cntrl", "digit", "graph", "lower", "print", "punct",
    "space", "upper", "word", "xdigit"]

/-- Whether a set with a name is negated, which a caret does, and what follows the set, from behind
its opening bracket. -/
def readNamedSet (s : List Char) : Option (Bool × List Char) :=
  match s with
  | ':' :: r =>
    let negated := r.head? == some '^'
    let r := if negated then r.tail else r
    match r.dropWhile (· ≠ ':') with
    | ':' :: ']' :: rest =>
      if String.ofList (r.takeWhile (· ≠ ':')) ∈ namedSets then some (negated, rest) else none
    | _ => none
  | _ => none

/-- Whether two primitives are the ends of a range, which must not run backwards. -/
def areEnds (options : Options) (first last : Primitive) : Bool :=
  match first.code?, last.code? with
  | some a, some b => a ≤ b && first.isMember options && last.isMember options
  | _, _ => false

/-- What follows the member or the range that a character begins. A hyphen makes a range, but not
before another one or at the end of the set. -/
def readRange (options : Options) (c : Char) (r : List Char) : Option (List Char) :=
  match readMember options c r with
  | none => none
  | some (first, r) =>
    match options.skip r with
    | '-' :: r =>
      if options.peek? r = some ']' ∨ options.peek? r = some '-' then
        if first.isMember options then some ('-' :: r) else none
      else
        match options.skip r with
        | [] => none
        | c :: r =>
          match readMember options c r with
          | none => none
          | some (last, rest) => if areEnds options first last then some rest else none
    | rest => if first.isMember options then some rest else none

theorem length_of_readNamedSet {negated : Bool} {s r : List Char}
    (h : readNamedSet s = some (negated, r)) : r.length < s.length := by
  unfold readNamedSet at h
  split at h
  · rename_i t
    dsimp only at h
    generalize hn : (if (t.head? == some '^') = true then t.tail else t) = name at h
    have tail : name.length ≤ t.length := by
      rw [← hn]
      split
      · rw [List.length_tail]
        omega
      · exact Nat.le_refl _
    have := (List.dropWhile_suffix (· ≠ ':') (l := name)).length_le
    split at h
    · rename_i hd
      rw [hd] at this
      split at h
      · simp only [Option.some.injEq, Prod.mk.injEq] at h
        simp only [List.length_cons] at this ⊢
        rw [← h.2]
        omega
      · simp at h
    · simp at h
  · simp at h

theorem length_of_readRange {options : Options} {c : Char} {s r : List Char}
    (h : readRange options c s = some r) : r.length ≤ s.length := by
  unfold readRange at h
  split at h
  · simp at h
  · rename_i t hf
    have first := length_of_readMember hf
    split at h
    · rename_i hu
      have hyphen := Options.length_of_skip hu
      split at h
      · split at h
        · simp only [Option.some.injEq] at h
          rw [← h, List.length_cons]
          omega
        · simp at h
      · split at h
        · simp at h
        · rename_i hv
          have skipped := Options.length_of_skip hv
          split at h
          · simp at h
          · rename_i hl
            have last := length_of_readMember hl
            split at h
            · simp only [Option.some.injEq] at h
              rw [← h]
              omega
            · simp at h
    · have skipped := options.length_skip_le t
      split at h
      · simp only [Option.some.injEq] at h
        rw [← h]
        omega
      · simp at h

/-! ### Up to the end -/

/-- How far the reading of a set has got. -/
inductive SetProgress where
  /-- The set is closed and has a depth. -/
  | closed (depth : Nat)
  /-- Some sets are open, one in another. -/
  | within (innermost : OpenSet) (outer : List OpenSet)
  deriving DecidableEq, Repr

/-- One step in a set, at a character. -/
def stepInSet (options : Options) (set : OpenSet) (outer : List OpenSet) (c : Char)
    (r : List Char) : Option (SetProgress × List Char) :=
  if c = '[' then
    match readNamedSet r with
    | some (negated, rest) =>
      if options.needsCases || (negated && !options.unicode) then none
      else some (.within (set.push 0) outer, rest)
    | none =>
      (OpenSet.start? options r).map fun (inner, rest) => (.within inner (set :: outer), rest)
  else if c = ']' then
    match outer with
    | [] => some (.closed set.depth, r)
    | around :: outer => some (.within (around.push set.depth) outer, r)
  else if c ∈ ['&', '-', '~'] ∧ r.head? = some c then some (.within set.combine outer, r.tail)
  else (readRange options c r).map fun rest => (.within (set.push 0) outer, rest)

theorem length_of_stepInSet {options : Options} {set : OpenSet} {outer : List OpenSet} {c : Char}
    {progress : SetProgress} {s r : List Char}
    (h : stepInSet options set outer c s = some (progress, r)) : r.length ≤ s.length := by
  unfold stepInSet at h
  split at h
  · split at h
    · rename_i hn
      have := length_of_readNamedSet hn
      split at h
      · simp at h
      · simp only [Option.some.injEq, Prod.mk.injEq] at h
        rw [← h.2]
        omega
    · simp only [Option.map_eq_some_iff, Prod.mk.injEq] at h
      obtain ⟨_, hs, _, h⟩ := h
      exact h ▸ OpenSet.length_of_start? hs
  · split at h
    · split at h <;>
      · simp only [Option.some.injEq, Prod.mk.injEq] at h
        exact h.2 ▸ Nat.le_refl _
    · split at h
      · simp only [Option.some.injEq, Prod.mk.injEq] at h
        rw [← h.2, List.length_tail]
        omega
      · simp only [Option.map_eq_some_iff, Prod.mk.injEq] at h
        obtain ⟨_, hr, _, h⟩ := h
        exact h ▸ length_of_readRange hr

/-- The depth of the outermost of some open sets, with what follows it. -/
def readSet (options : Options) (set : OpenSet) (outer : List OpenSet) (s : List Char) :
    Option (Nat × List Char) :=
  match hs : options.skip s with
  | [] => none
  | c :: r =>
    have := Options.length_of_skip hs
    match h : stepInSet options set outer c r with
    | none => none
    | some (.closed depth, rest) => some (depth, rest)
    | some (.within inner around, rest) =>
      have := length_of_stepInSet h
      readSet options inner around rest
termination_by s.length

theorem length_of_readSet {options : Options} {set : OpenSet} {outer : List OpenSet} {depth : Nat}
    {s r : List Char} (h : readSet options set outer s = some (depth, r)) :
    r.length < s.length := by
  fun_induction readSet options set outer s with
  | case1 => simp at h
  | case2 => simp at h
  | case3 set outer s c t hs skipped depth rest hstep =>
    simp only [Option.some.injEq, Prod.mk.injEq] at h
    rw [← h.2]
    exact Nat.lt_of_le_of_lt (length_of_stepInSet hstep) skipped
  | case4 set outer s c t hs skipped inner around rest hstep step ih =>
    exact Nat.lt_trans (ih h) (Nat.lt_of_le_of_lt step skipped)

end RestClient.Text.Pattern
