import RestClient.Text.Blank
import RestClient.Text.UpperCase

/-! # Words

What becomes of a text when it is cut into pieces or words, and of a word of ASCII letters and digits
when it gets a capital.

* `of_mem_splitOnP` and `flatten_splitOnP`: the pieces of a text consist of the characters at which it
  is not cut, all of them;
* `words_intercalate`: words one space apart are found again;
* `isInfix_iff_words` and `isInfix_trim_iff`: a text without blanks is found in the words of a text,
  and in what trimming leaves of it;
* `capitalize_cons`: a word of letters and digits keeps its length, and only its first letter
  changes. -/

namespace RestClient.Text

/-! ### Pieces -/

/-- The pieces of a text that is cut at some characters consist of its other characters. -/
theorem of_mem_splitOnP {p : Char → Bool} {s piece : List Char} {c : Char}
    (h : piece ∈ s.splitOnP p) (hc : c ∈ piece) : c ∈ s ∧ p c = false := by
  induction s generalizing piece with
  | nil => simp_all [List.splitOnP_nil]
  | cons d s ih =>
    rw [List.splitOnP_cons_eq_if_modifyHead] at h
    by_cases hd : p d = true
    · rw [if_pos hd, List.mem_cons] at h
      rcases h with rfl | h
      · simp at hc
      · exact (ih h hc).imp_left (List.mem_cons_of_mem d)
    · rw [if_neg hd] at h
      generalize s.splitOnP p = pieces at h ih
      cases pieces with
      | nil => simp at h
      | cons first rest =>
        rw [List.modifyHead_cons, List.mem_cons] at h
        rcases h with rfl | h
        · rcases List.mem_cons.1 hc with rfl | hc
          · exact ⟨List.mem_cons_self, Bool.not_eq_true _ ▸ hd⟩
          · exact (ih List.mem_cons_self hc).imp_left (List.mem_cons_of_mem d)
        · exact (ih (List.mem_cons_of_mem first h) hc).imp_left (List.mem_cons_of_mem d)

/-- The pieces of a text lose nothing but the characters at which it is cut. -/
theorem flatten_splitOnP (p : Char → Bool) (s : List Char) :
    (s.splitOnP p).flatten = s.filter fun c => !p c := by
  induction s with
  | nil => rfl
  | cons c s ih =>
    rw [List.splitOnP_cons_eq_if_modifyHead]
    by_cases hc : p c = true
    · rw [if_pos hc, List.flatten_cons, List.nil_append, ih, List.filter_cons_of_neg (by simp [hc])]
    · obtain ⟨piece, pieces, hs⟩ := List.exists_cons_of_ne_nil (List.splitOnP_ne_nil p s)
      rw [hs, List.flatten_cons] at ih
      rw [if_neg hc, hs, List.modifyHead_cons, List.flatten_cons, List.cons_append, ih,
        List.filter_cons_of_pos (by simp [hc])]

/-! ### Words between blanks -/

theorem words_append_blank {c : Char} (s t : List Char) (h : isBlank c = true) :
    words (s ++ c :: t) = words s ++ words t := by
  rw [words, List.splitOnP_append_cons s t h, List.filter_append]
  rfl

/-- A text without blanks is one word. -/
theorem words_of_forall_not {s : List Char} (hne : s ≠ []) (h : ∀ c ∈ s, isBlank c = false) :
    words s = [s] := by
  have hsplit : s.splitOnP isBlank = [s] :=
    List.splitOnP_eq_singleton fun c hc => by simp [h c hc]
  rw [words, hsplit, List.filter_cons_of_pos (by simpa using hne), List.filter_nil]

theorem of_mem_words {s word : List Char} (h : word ∈ words s) :
    word ≠ [] ∧ ∀ c ∈ word, c ∈ s ∧ isBlank c = false := by
  obtain ⟨hword, hne⟩ := List.mem_filter.1 h
  exact ⟨by simpa using hne, fun c hc => of_mem_splitOnP hword hc⟩

theorem flatten_words (s : List Char) : (words s).flatten = s.filter fun c => !isBlank c := by
  rw [words, List.flatten_filter_not_isEmpty, flatten_splitOnP]

/-- **Words one space apart are found again.** -/
theorem words_intercalate {texts : List (List Char)}
    (h : ∀ text ∈ texts, text ≠ [] ∧ ∀ c ∈ text, isBlank c = false) :
    words ([' '].intercalate texts) = texts := by
  induction texts with
  | nil => rfl
  | cons text texts ih =>
    obtain ⟨⟨hne, hplain⟩, htexts⟩ := List.forall_mem_cons.1 h
    have htext : words text = [text] := words_of_forall_not hne hplain
    by_cases hempty : texts = []
    · rw [hempty, List.intercalate_singleton, htext]
    · rw [List.intercalate_cons_of_ne_nil hempty, List.append_assoc, List.singleton_append,
        words_append_blank _ _ (by decide), htext, ih htexts, List.singleton_append]

/-- A text in which a character does not occur does not reach over that character. -/
theorem isInfix_append_cons_iff {p s t : List Char} {c : Char} (hc : c ∉ p) :
    p <:+: s ++ c :: t ↔ p <:+: s ∨ p <:+: t := by
  have hnothing {q : List Char} (hq : c ∉ q) (h : q <+: c :: t) : q = [] := by
    rcases List.prefix_cons_iff.1 h with rfl | ⟨q', rfl, -⟩
    · rfl
    · exact absurd List.mem_cons_self hq
  constructor
  · intro h
    rcases List.infix_append_iff.1 h with h | h | ⟨front, back, rfl, hfront, hback⟩
    · exact .inl h
    · rcases List.infix_cons_iff.1 h with h | h
      · rw [hnothing hc h]
        exact .inl List.nil_infix
      · exact .inr h
    · have hnot : c ∉ back := fun hmem => hc (List.mem_append_right front hmem)
      rw [hnothing hnot hback, List.append_nil]
      exact .inl hfront.isInfix
  · rintro (h | h)
    · exact h.trans (List.prefix_append _ _).isInfix
    · exact h.trans ((List.suffix_cons c t).trans (List.suffix_append s _)).isInfix

/-- **A text without blanks stands in another one iff it stands in one of its words.** -/
theorem isInfix_iff_words {p s : List Char} (hne : p ≠ []) (hp : ∀ c ∈ p, isBlank c = false) :
    p <:+: s ↔ ∃ word ∈ words s, p <:+: word := by
  induction hn : s.length using Nat.strongRecOn generalizing s with
  | ind n ih =>
    by_cases hblank : ∃ c ∈ s, isBlank c = true
    · obtain ⟨c, hmem, hc⟩ := hblank
      obtain ⟨front, back, rfl⟩ := List.append_of_mem hmem
      have hlength : front.length < n ∧ back.length < n := by
        rw [← hn, List.length_append, List.length_cons]
        omega
      have hnot : c ∉ p := fun h => by simp [hp c h] at hc
      rw [isInfix_append_cons_iff hnot, words_append_blank front back hc,
        ih _ hlength.1 rfl, ih _ hlength.2 rfl]
      simp only [List.mem_append, or_and_right, exists_or]
    · by_cases hempty : s = []
      · have hnil : words [] = [] := rfl
        simp [hempty, hnil, hne]
      · have hplain : ∀ c ∈ s, isBlank c = false := by simpa using hblank
        simp [words_of_forall_not hempty hplain]

theorem isInfix_trimStart_iff {p s : List Char} (hne : p ≠ []) (hp : ∀ c ∈ p, isBlank c = false) :
    p <:+: trimStart s ↔ p <:+: s := by
  induction s with
  | nil => rfl
  | cons c s ih =>
    rw [trimStart, List.dropWhile_cons]
    split
    · rename_i hc
      have hprefix : ¬ p <+: c :: s := by
        intro h
        rcases List.prefix_cons_iff.1 h with rfl | ⟨q, rfl, -⟩
        · exact hne rfl
        · rw [hp c List.mem_cons_self] at hc
          cases hc
      rw [List.infix_cons_iff]
      exact ih.trans (or_iff_right hprefix).symm
    · rfl

/-- **Trimming takes no text without blanks out of another one.** -/
theorem isInfix_trim_iff {p s : List Char} (hne : p ≠ []) (hp : ∀ c ∈ p, isBlank c = false) :
    p <:+: trim s ↔ p <:+: s := by
  have hend (t : List Char) : p <:+: trimEnd t ↔ p <:+: t := by
    have hmirrored : p.reverse <:+: trimStart t.reverse ↔ p.reverse <:+: t.reverse :=
      isInfix_trimStart_iff (mt List.reverse_eq_nil_iff.1 hne) fun c hc =>
        hp c (List.mem_reverse.1 hc)
    rw [← List.reverse_infix, trimEnd, List.reverse_reverse]
    exact hmirrored.trans List.reverse_infix
  rw [trim, hend, isInfix_trimStart_iff hne hp]

/-! ### Letters and digits -/

theorem isAlpha_iff {c : Char} : c.isAlpha = true ↔ c.isUpper = true ∨ c.isLower = true :=
  iff_of_eq (Bool.or_eq_true c.isUpper c.isLower)

theorem toNat_lt_of_isAlphanum {c : Char} (h : c.isAlphanum = true) : c.toNat < 128 := by
  have hlt (d : Char) (hd : d.toNat < 128) (hc : c.val ≤ d.val) : c.toNat < 128 :=
    Nat.lt_of_le_of_lt (UInt32.le_iff_toNat_le.1 hc) hd
  rw [Char.isAlphanum, Bool.or_eq_true, isAlpha_iff] at h
  rcases h with (hupper | hlower) | hdigit
  · exact hlt 'Z' (by decide) (of_decide_eq_true hupper).2
  · exact hlt 'z' (by decide) (of_decide_eq_true (Bool.and_eq_true_iff.1 hlower).2)
  · exact hlt '9' (by decide) (of_decide_eq_true (Bool.and_eq_true_iff.1 hdigit).2)

/-- What holds of the first 128 characters holds of all letters and digits. -/
theorem forall_isAlphanum {p : Char → Prop} (h : ∀ n < 128, p (Char.ofNat n)) {c : Char}
    (hc : c.isAlphanum = true) : p c := by
  have := h c.toNat (toNat_lt_of_isAlphanum hc)
  rwa [Char.ofNat_toNat] at this

theorem isAlphanum_of_isAlpha {c : Char} (h : c.isAlpha = true) : c.isAlphanum = true := by
  rw [Char.isAlphanum, h, Bool.true_or]

theorem isUpper_of_isLower {c : Char} (h : c.isLower = true) : c.isUpper = false :=
  forall_isAlphanum (p := fun c => c.isLower = true → c.isUpper = false) (by decide)
    (isAlphanum_of_isAlpha (isAlpha_iff.2 (.inr h))) h

theorem isAlphanum_toUpper {c : Char} (h : c.isAlphanum = true) : c.toUpper.isAlphanum = true :=
  forall_isAlphanum (p := fun c => c.isAlphanum = true → c.toUpper.isAlphanum = true)
    (by decide) h h

theorem capitalize_cons {c : Char} (s : List Char) (h : c.isAlphanum = true) :
    capitalize (c :: s) = c.toUpper :: s := by
  rw [capitalize, upper_of_ascii (toNat_lt_of_isAlphanum h)]
  rfl

theorem isAlphanum_of_mem_capitalize {s : List Char} (hs : ∀ c ∈ s, c.isAlphanum = true) :
    ∀ c ∈ capitalize s, c.isAlphanum = true := by
  cases s with
  | nil => exact hs
  | cons d s =>
    have hd := hs d List.mem_cons_self
    rw [capitalize_cons s hd]
    intro c hc
    rcases List.mem_cons.1 hc with rfl | hc
    · exact isAlphanum_toUpper hd
    · exact hs c (List.mem_cons_of_mem d hc)

end RestClient.Text
