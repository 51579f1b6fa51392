import RestClient.Names
import RestClient.Proofs.Text.Words

/-! # The form of base names

A base name is the keyword of its verb with the words of the path behind it, each with a capital
where it begins with a letter. The words hold nothing but letters and digits, whatever the path.

* `toList_baseName`: the keyword and the words;
* `isAlphanum_of_mem_baseTail`: the words are letters and digits. -/

namespace RestClient

open RestClient.Text

/-! ### Runs of letters and digits -/

theorem alphanumericRuns_append_cons (s t : List Char) {c : Char} (h : c.isAlphanum = false) :
    alphanumericRuns (s ++ c :: t) = alphanumericRuns s ++ alphanumericRuns t := by
  have hc : (!c.isAlphanum) = true := by rw [h, Bool.not_false]
  have hsplit := List.splitOnP_append_cons (p := fun c => !c.isAlphanum) s t hc
  rw [alphanumericRuns, hsplit, List.filter_append]
  rfl

/-- A text of letters and digits is one run. -/
theorem alphanumericRuns_of_isAlphanum {s : List Char} (hs : ∀ c ∈ s, c.isAlphanum = true)
    (hne : s ≠ []) : alphanumericRuns s = [s] := by
  have hsplit : s.splitOnP (fun c => !c.isAlphanum) = [s] :=
    List.splitOnP_eq_singleton fun c hc => by simp [hs c hc]
  rw [alphanumericRuns, hsplit, List.filter_cons_of_pos (by simpa using hne), List.filter_nil]

/-- Words with hyphens between them have their runs one after the other. -/
theorem alphanumericRuns_intercalate (words : List (List Char)) :
    alphanumericRuns (['-'].intercalate words) = words.flatMap alphanumericRuns := by
  induction words with
  | nil => rfl
  | cons word words ih =>
    by_cases hne : words = []
    · rw [hne, List.intercalate_singleton, List.flatMap_singleton]
    · rw [List.intercalate_cons_of_ne_nil hne, List.append_assoc, List.singleton_append,
        alphanumericRuns_append_cons _ _ (by decide), ih, List.flatMap_cons]

theorem of_mem_alphanumericRuns {s run : List Char} (h : run ∈ alphanumericRuns s) :
    run ≠ [] ∧ ∀ c ∈ run, c.isAlphanum = true := by
  obtain ⟨hrun, hne⟩ := List.mem_filter.1 h
  refine ⟨by simpa using hne, fun c hc => ?_⟩
  simpa using (of_mem_splitOnP hrun hc).2

/-! ### Keyword and words -/

theorem isAlphanum_of_mem_keyword (verb : Verb) :
    ∀ c ∈ verb.keyword.toList, c.isAlphanum = true := by
  have hall : verb.keyword.toList.all Char.isAlphanum = true := by cases verb <;> decide
  exact List.all_eq_true.1 hall

/-- A keyword begins with a small letter. -/
theorem exists_keyword_cons (verb : Verb) :
    ∃ c s, verb.keyword.toList = c :: s ∧ c.isLower = true ∧ c.toLower = c := by
  cases verb with
  | get => exact ⟨'g', _, rfl, rfl, rfl⟩
  | post => exact ⟨'c', _, rfl, rfl, rfl⟩
  | put => exact ⟨'r', _, rfl, rfl, rfl⟩
  | patch => exact ⟨'u', _, rfl, rfl, rfl⟩
  | delete => exact ⟨'d', _, rfl, rfl, rfl⟩

/-- Words with hyphens between them and the keyword in front: the keyword is the first run. -/
theorem alphanumericRuns_keyword_words (verb : Verb) (words : List (List Char)) :
    alphanumericRuns (['-'].intercalate (verb.keyword.toList :: words)) =
      verb.keyword.toList :: words.flatMap alphanumericRuns := by
  obtain ⟨c, s, hkeyword, -, -⟩ := exists_keyword_cons verb
  have hone := alphanumericRuns_of_isAlphanum (isAlphanum_of_mem_keyword verb)
    (by rw [hkeyword]; exact List.cons_ne_nil c s)
  rw [alphanumericRuns_intercalate, List.flatMap_cons, hone, List.singleton_append]

/-- What stands behind the keyword in a base name. -/
def baseTail (path : String) (verb : Verb) : List Char :=
  ((literals verb path.toList).flatMap alphanumericRuns).flatMap capitalize

/-- **A base name is the keyword of its verb followed by the words of its path.** -/
theorem toList_baseName (path : String) (verb : Verb) :
    (baseName path verb).toList = verb.keyword.toList ++ baseTail path verb := by
  obtain ⟨c, s, hkeyword, -, hsmall⟩ := exists_keyword_cons verb
  rw [baseName, String.toList_ofList, camelCase, alphanumericRuns_keyword_words, hkeyword, baseTail]
  simp only [hsmall, List.cons_append]

theorem isAlphanum_of_mem_baseTail {path : String} {verb : Verb} :
    ∀ c ∈ baseTail path verb, c.isAlphanum = true := by
  intro c hc
  obtain ⟨run, hrun, hc⟩ := List.mem_flatMap.1 hc
  obtain ⟨word, -, hrun⟩ := List.mem_flatMap.1 hrun
  exact isAlphanum_of_mem_capitalize (of_mem_alphanumericRuns hrun).2 c hc

end RestClient
