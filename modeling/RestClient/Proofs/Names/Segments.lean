import Mathlib.Data.List.Forall2
import Mathlib.Data.List.TakeWhile
import RestClient.Proofs.Names.Base

/-! # Base names, segment by segment

The words of a base name come from the literal segments of a path, one segment after the other, and
those of a segment from its runs of letters and digits. Whether a literal loses its plural is up to the
segments behind it, in the same way at every place of the path.

* `IsRuns`: what the maximal runs of letters and digits of a text are, and `alphanumericRuns_eq_iff`:
  every text has them in one way only;
* `shortened`: the literals of a path by one rule for every place, and `literals_eq_shortened`: they
  are those of a base name;
* `shortened_congr`: what stands in placeholders plays no role;
* `baseName_segments`: a base name is composed segment by segment. -/

namespace RestClient

open RestClient.Text

/-! ### Maximal runs -/

/-- The maximal runs of letters and digits of a text, from left to right: in front of every run stands
a gap without letters and digits, and behind it nothing or a character that is none. -/
inductive IsRuns : List Char → List (List Char) → Prop
  | gap {gap : List Char} (hgap : ∀ c ∈ gap, c.isAlphanum = false) : IsRuns gap []
  | run {gap run rest : List Char} {runs : List (List Char)}
      (hgap : ∀ c ∈ gap, c.isAlphanum = false) (hne : run ≠ [])
      (hrun : ∀ c ∈ run, c.isAlphanum = true) (hend : ∀ c ∈ rest.head?, c.isAlphanum = false)
      (hrest : IsRuns rest runs) : IsRuns (gap ++ (run ++ rest)) (run :: runs)

theorem alphanumericRuns_gap_append {gap : List Char} (hgap : ∀ c ∈ gap, c.isAlphanum = false)
    (s : List Char) : alphanumericRuns (gap ++ s) = alphanumericRuns s := by
  induction gap with
  | nil => rfl
  | cons c gap ih =>
    obtain ⟨hc, hgap⟩ := List.forall_mem_cons.1 hgap
    exact (alphanumericRuns_append_cons [] (gap ++ s) hc).trans (ih hgap)

theorem alphanumericRuns_run_append {run rest : List Char} (hne : run ≠ [])
    (hrun : ∀ c ∈ run, c.isAlphanum = true) (hend : ∀ c ∈ rest.head?, c.isAlphanum = false) :
    alphanumericRuns (run ++ rest) = run :: alphanumericRuns rest := by
  have hone := alphanumericRuns_of_isAlphanum hrun hne
  cases rest with
  | nil => rw [List.append_nil, hone]; rfl
  | cons c rest =>
    have hc := hend c rfl
    have hrest := alphanumericRuns_append_cons [] rest hc
    rw [List.nil_append] at hrest
    rw [alphanumericRuns_append_cons run rest hc, hone, hrest]
    rfl

/-- The longest front of a text with a property, and what follows it. -/
theorem exists_longest_front (p : Char → Bool) (s : List Char) :
    ∃ front rest, s = front ++ rest ∧ (∀ c ∈ front, p c = true) ∧ ∀ c ∈ rest.head?, p c = false := by
  refine ⟨s.takeWhile p, s.dropWhile p, List.takeWhile_append_dropWhile.symm,
    fun c hc => List.mem_takeWhile_imp hc, fun c hc => ?_⟩
  have hhead := List.head?_dropWhile_not p s
  rwa [Option.mem_def.1 hc] at hhead

/-- A text falls apart into its runs. -/
theorem isRuns_alphanumericRuns (s : List Char) : IsRuns s (alphanumericRuns s) := by
  obtain ⟨gap, behind, hs, hgap, hbehind⟩ := exists_longest_front (fun c => !c.isAlphanum) s
  obtain ⟨run, rest, hrest, hrun, hend⟩ := exists_longest_front Char.isAlphanum behind
  simp only [Bool.not_eq_true', Bool.not_eq_false'] at hgap hbehind
  have hruns : alphanumericRuns s = alphanumericRuns behind := by
    rw [hs, alphanumericRuns_gap_append hgap]
  by_cases hne : run = []
  · -- Behind the gap nothing is left: what comes there is a letter or digit, and belongs to a run.
    rw [hne, List.nil_append] at hrest
    have hnil : behind = [] := by
      cases hbehind' : behind with
      | nil => rfl
      | cons c _ =>
        have hc : c ∈ behind.head? := by rw [hbehind']; rfl
        exact absurd (hbehind c hc) (by rw [hend c (hrest ▸ hc)]; decide)
    rw [hruns, hs, hnil, List.append_nil]
    exact .gap hgap
  · have hlt : rest.length < s.length := by
      have := List.length_pos_iff.2 hne
      simp only [hs, hrest, List.length_append]
      omega
    rw [hruns, hs, hrest, alphanumericRuns_run_append hne hrun hend]
    exact .run hgap hne hrun hend (isRuns_alphanumericRuns rest)
termination_by s.length

/-- **A text has its runs in one way only.** -/
theorem alphanumericRuns_eq_iff {s : List Char} {runs : List (List Char)} :
    alphanumericRuns s = runs ↔ IsRuns s runs := by
  constructor
  · rintro rfl
    exact isRuns_alphanumericRuns s
  · intro h
    induction h with
    | @gap gap hgap =>
      have hruns := alphanumericRuns_gap_append hgap []
      rwa [List.append_nil] at hruns
    | run hgap hne hrun hend _ ih =>
      rw [alphanumericRuns_gap_append hgap, alphanumericRuns_run_append hne hrun hend, ih]

/-! ### Literals -/

/-- Whether a literal loses its plural: for `get` if the segment right behind it is a placeholder, and
for the other verbs if there are only placeholders behind it. -/
def losesPlural (verb : Verb) (behind : List (List Char)) : Bool :=
  match verb with
  | .get => behind.head?.any isPlaceholder
  | _ => behind.all isPlaceholder

/-- The word of a segment, given with the segments behind it: none for a placeholder. -/
def wordAt? (verb : Verb) : List (List Char) → Option (List Char)
  | [] => none
  | segment :: behind =>
    if isPlaceholder segment then none
    else some (if losesPlural verb behind then singular segment else segment)

/-- The literals of a path, each in the singular iff the segments behind it say so. -/
def shortened (verb : Verb) (segments : List (List Char)) : List (List Char) :=
  segments.tails.filterMap (wordAt? verb)

theorem shortened_placeholder {verb : Verb} {segment : List Char} (behind : List (List Char))
    (h : isPlaceholder segment = true) :
    shortened verb (segment :: behind) = shortened verb behind := by
  have hword : wordAt? verb (segment :: behind) = none := if_pos h
  rw [shortened, List.tails, List.filterMap_cons_none hword, shortened]

theorem shortened_literal {verb : Verb} {segment : List Char} (behind : List (List Char))
    (h : isPlaceholder segment = false) :
    shortened verb (segment :: behind) =
      (if losesPlural verb behind then singular segment else segment) :: shortened verb behind := by
  have hword : wordAt? verb (segment :: behind) =
      some (if losesPlural verb behind then singular segment else segment) :=
    if_neg (by rw [h]; decide)
  rw [shortened, List.tails, List.filterMap_cons_some hword, shortened]

theorem indexedLiterals_eq_shortened (segments : List (List Char)) :
    indexedLiterals segments = shortened .get segments := by
  induction segments with
  | nil => rfl
  | cons segment behind ih =>
    cases h : isPlaceholder segment with
    | true => rw [indexedLiterals, if_pos h, shortened_placeholder _ h, ih]
    | false =>
      rw [indexedLiterals, if_neg (by rw [h]; decide), shortened_literal _ h, ih]
      rfl

theorem losesPlural_of_ne_get {verb : Verb} (hverb : verb ≠ .get) (behind : List (List Char)) :
    losesPlural verb behind = behind.all isPlaceholder := by
  cases verb with
  | get => exact absurd rfl hverb
  | _ => rfl

theorem singularLast_eq_shortened {verb : Verb} (hverb : verb ≠ .get)
    (segments : List (List Char)) :
    singularLast (segments.filter fun segment => !isPlaceholder segment) =
      shortened verb segments := by
  induction segments with
  | nil => rfl
  | cons segment behind ih =>
    cases h : isPlaceholder segment with
    | true => rw [shortened_placeholder _ h, List.filter_cons_of_neg (by simp [h]), ih]
    | false =>
      rw [shortened_literal _ h, List.filter_cons_of_pos (by simp [h]), ← ih,
        losesPlural_of_ne_get hverb]
      cases hliterals : behind.filter fun segment => !isPlaceholder segment with
      | nil =>
        have hall : behind.all isPlaceholder = true := by
          simpa [List.filter_eq_nil_iff] using hliterals
        rw [if_pos hall]
        rfl
      | cons next rest =>
        -- The next literal stands somewhere behind this one.
        obtain ⟨hnext, hliteral⟩ := List.mem_filter.1 (hliterals ▸ List.mem_cons_self)
        have hall : behind.all isPlaceholder ≠ true := fun hall => by
          simp [List.all_eq_true.1 hall next hnext] at hliteral
        rw [if_neg hall]
        rfl

theorem literals_of_ne_get {verb : Verb} (hverb : verb ≠ .get) (path : List Char) :
    literals verb path =
      singularLast ((segments path).filter fun segment => !isPlaceholder segment) := by
  cases verb with
  | get => exact absurd rfl hverb
  | _ => rfl

/-- **The literals of a base name follow one rule at every place of the path.** -/
theorem literals_eq_shortened (verb : Verb) (path : List Char) :
    literals verb path = shortened verb (segments path) := by
  by_cases hverb : verb = .get
  · rw [hverb]
    exact indexedLiterals_eq_shortened _
  · rw [literals_of_ne_get hverb, singularLast_eq_shortened hverb]

/-! ### What a literal loses -/

theorem singular_eq_or (segment : List Char) :
    singular segment = segment ∨ segment = singular segment ++ ['s'] := by
  unfold singular
  split
  · rename_i hlast
    exact .inr (List.dropLast_append_getLast? _ hlast).symm
  · exact .inl rfl

/-- A literal loses no more than an `s` at its end. -/
theorem forall₂_shortened (verb : Verb) (segments : List (List Char)) :
    List.Forall₂ (fun literal word => word = literal ∨ literal = word ++ ['s'])
      (segments.filter fun segment => !isPlaceholder segment) (shortened verb segments) := by
  induction segments with
  | nil => exact .nil
  | cons segment behind ih =>
    cases h : isPlaceholder segment with
    | true => rwa [shortened_placeholder _ h, List.filter_cons_of_neg (by simp [h])]
    | false =>
      rw [shortened_literal _ h, List.filter_cons_of_pos (by simp [h])]
      refine .cons ?_ ih
      split
      · exact singular_eq_or segment
      · exact .inl rfl

/-! ### Placeholders without their names -/

/-- A segment, with nothing left of a placeholder. -/
def literal? (segment : List Char) : Option (List Char) :=
  if isPlaceholder segment then none else some segment

theorem isNone_literal? (segment : List Char) :
    (literal? segment).isNone = isPlaceholder segment := by
  unfold literal?
  split <;> simp_all

theorem losesPlural_congr {verb : Verb} {segments segments' : List (List Char)}
    (h : segments.map literal? = segments'.map literal?) :
    losesPlural verb segments = losesPlural verb segments' := by
  have hhead (l : List (List Char)) :
      l.head?.any isPlaceholder = (l.map literal?).head?.any Option.isNone := by
    simp only [List.head?_map, Option.any_map, isNone_literal?]
  have hall (l : List (List Char)) :
      l.all isPlaceholder = (l.map literal?).all Option.isNone := by
    simp only [List.all_map, Function.comp_def, isNone_literal?]
  by_cases hverb : verb = .get
  · rw [hverb, losesPlural, losesPlural, hhead, hhead, h]
  · rw [losesPlural_of_ne_get hverb, losesPlural_of_ne_get hverb, hall, hall, h]

/-- **What stands in placeholders plays no role for the literals.** -/
theorem shortened_congr {verb : Verb} {segments segments' : List (List Char)}
    (h : segments.map literal? = segments'.map literal?) :
    shortened verb segments = shortened verb segments' := by
  induction segments generalizing segments' with
  | nil => rw [List.map_eq_nil_iff.1 h.symm]
  | cons segment behind ih =>
    obtain ⟨segment', behind', rfl, hsegment, hbehind⟩ := List.map_eq_cons_iff.1 h.symm
    have hsame : isPlaceholder segment' = isPlaceholder segment := by
      rw [← isNone_literal?, hsegment, isNone_literal?]
    cases hp : isPlaceholder segment with
    | true =>
      rw [shortened_placeholder _ hp, shortened_placeholder _ (hsame.trans hp), ih hbehind.symm]
    | false =>
      have heq : segment' = segment := by simpa [literal?, hsame, hp] using hsegment
      rw [heq, shortened_literal _ hp, shortened_literal _ hp, ih hbehind.symm,
        losesPlural_congr hbehind]

/-! ### Base names -/

theorem capitalize_of_isAlphanum {run : List Char} (h : ∀ c ∈ run, c.isAlphanum = true) :
    capitalize run = run.modifyHead Char.toUpper := by
  cases run with
  | nil => rfl
  | cons c run => exact capitalize_cons run (h c List.mem_cons_self)

/-- A capital is the same letter. -/
theorem map_toLower_capitalize {run : List Char} (h : ∀ c ∈ run, c.isAlphanum = true) :
    (capitalize run).map Char.toLower = run.map Char.toLower := by
  cases run with
  | nil => rfl
  | cons c run =>
    have hc := h c List.mem_cons_self
    have hlower : c.toUpper.toLower = c.toLower :=
      forall_isAlphanum (p := fun c => c.toUpper.toLower = c.toLower) (by decide) hc
    rw [capitalize_cons run hc, List.map_cons, hlower, List.map_cons]

/-- Of a text without its runs nothing but other characters is left. -/
theorem flatten_alphanumericRuns (s : List Char) :
    (alphanumericRuns s).flatten = s.filter Char.isAlphanum := by
  rw [alphanumericRuns, List.flatten_filter_not_isEmpty, flatten_splitOnP]
  simp only [Bool.not_not]

/-- A base name, from the words of its path. -/
theorem toList_baseName_shortened (path : String) (verb : Verb) :
    (baseName path verb).toList = verb.keyword.toList ++
      ((shortened verb (segments path.toList)).flatMap alphanumericRuns).flatMap capitalize := by
  rw [toList_baseName, baseTail, literals_eq_shortened]

theorem isAlphanum_of_mem_runs {words : List (List Char)} :
    ∀ run ∈ words.flatMap alphanumericRuns, ∀ c ∈ run, c.isAlphanum = true := by
  intro run hrun
  obtain ⟨word, -, hrun⟩ := List.mem_flatMap.1 hrun
  exact (of_mem_alphanumericRuns hrun).2

/-- **Up to capitals, a base name holds every letter and digit of its words.** -/
theorem map_toLower_baseName (path : String) (verb : Verb) :
    (baseName path verb).toList.map Char.toLower = verb.keyword.toList ++
      ((shortened verb (segments path.toList)).flatten.filter Char.isAlphanum).map Char.toLower := by
  have hkeyword : verb.keyword.toList.map Char.toLower = verb.keyword.toList := by
    cases verb <;> decide
  rw [toList_baseName_shortened, List.map_append, hkeyword, List.map_flatMap,
    List.flatMap_congr fun run hrun => map_toLower_capitalize (isAlphanum_of_mem_runs run hrun)]
  generalize shortened verb (segments path.toList) = words
  congr 1
  calc (words.flatMap alphanumericRuns).flatMap (List.map Char.toLower)
      = ((words.flatMap alphanumericRuns).flatten).map Char.toLower := by
        rw [List.map_flatten, List.flatMap_def]
    _ = (words.flatten.filter Char.isAlphanum).map Char.toLower := by
        rw [List.flatMap_def, List.flatten_flatten, List.map_map, List.filter_flatten]
        simp only [Function.comp_def, flatten_alphanumericRuns]

theorem baseName_congr {path path' : String} {verb : Verb}
    (h : literals verb path.toList = literals verb path'.toList) :
    baseName path verb = baseName path' verb := by rw [baseName, h, baseName]

/-- **Base names are composed segment by segment.** A base name is the keyword of the verb and then,
literal by literal and run by run, the runs with a capital as their first letter. The hyphens between
the literals neither join two runs nor cut one. A literal loses no more than an `s`, and of what is
left no letter or digit is lost. What stands in placeholders plays no role, and for a verb other than
`get` neither does where they stand. -/
theorem baseName_segments (path path' : String) (verb : Verb) :
    (∃ runs, List.Forall₂ IsRuns (shortened verb (segments path.toList)) runs ∧
      (baseName path verb).toList =
        verb.keyword.toList ++ runs.flatten.flatMap (List.modifyHead Char.toUpper) ∧
      IsRuns (['-'].intercalate (verb.keyword.toList :: shortened verb (segments path.toList)))
        (verb.keyword.toList :: runs.flatten)) ∧
    List.Forall₂ (fun literal word => word = literal ∨ literal = word ++ ['s'])
      ((segments path.toList).filter fun segment => !isPlaceholder segment)
      (shortened verb (segments path.toList)) ∧
    (baseName path verb).toList.map Char.toLower = verb.keyword.toList ++
      ((shortened verb (segments path.toList)).flatten.filter Char.isAlphanum).map Char.toLower ∧
    ((segments path.toList).map literal? = (segments path'.toList).map literal? →
      baseName path verb = baseName path' verb) ∧
    (verb ≠ .get →
      ((segments path.toList).filter fun segment => !isPlaceholder segment) =
        ((segments path'.toList).filter fun segment => !isPlaceholder segment) →
      baseName path verb = baseName path' verb) := by
  refine ⟨⟨(shortened verb (segments path.toList)).map alphanumericRuns, ?_, ?_, ?_⟩,
    forall₂_shortened verb _, map_toLower_baseName path verb, ?_, ?_⟩
  · exact List.forall₂_map_right_iff.2 (List.forall₂_same.2 fun word _ => isRuns_alphanumericRuns word)
  · rw [toList_baseName_shortened, ← List.flatMap_def, List.flatMap_congr fun run hrun =>
      capitalize_of_isAlphanum (isAlphanum_of_mem_runs run hrun)]
  · rw [← List.flatMap_def, ← alphanumericRuns_eq_iff]
    exact alphanumericRuns_keyword_words verb _
  · intro h
    exact baseName_congr (by rw [literals_eq_shortened, literals_eq_shortened, shortened_congr h])
  · intro hverb h
    exact baseName_congr (by rw [literals_of_ne_get hverb, literals_of_ne_get hverb, h])

/-- The posts of a user are the same whatever the placeholder is called, and what replaces a user has
the same name as what replaces all users. -/
theorem baseName_users :
    (baseName "/users/\x7bid\x7d/posts" .get = baseName "/users/\x7buser-id\x7d/posts" .get ∧
      baseName "/users/\x7bid\x7d/posts" .get = "getUserPosts") ∧
    baseName "/users/\x7bid\x7d" .put = baseName "/users" .put ∧
      baseName "/users" .put = "replaceUser" :=
  ⟨⟨(baseName_segments _ _ .get).2.2.2.1 (by decide), by decide⟩,
    (baseName_segments _ _ .put).2.2.2.2 (by decide) (by decide), by decide⟩

end RestClient
