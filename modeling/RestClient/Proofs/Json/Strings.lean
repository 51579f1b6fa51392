import RestClient.Json.Quoted
import RestClient.Proofs.Json.Grammar

/-! # Strings

The readers of strings against their grammar. `characters?` is what a string means: code units
that are no surrogates stand for themselves, a high one with a low one behind it for one character,
and a surrogate anywhere else means nothing.

* `skipString_eq_ok_iff`: the strings that are passed over are those of the grammar;
* `readString_eq_ok_iff`: those that are read are the ones among them that mean something, and they
  are read as what they mean. -/

namespace RestClient.Json

open RestClient.Text

/-- The characters that a string stands for. -/
def characters? : List Atom → Option (List Char)
  | [] => some []
  | .char c :: as => (characters? as).map (c :: ·)
  | .unit n :: as =>
    if n < 0xD800 ∨ 0xDFFF < n then (characters? as).map (Char.ofNat n :: ·)
    else
      match as with
      | .unit low :: as =>
        if n < 0xDC00 ∧ 0xDC00 ≤ low ∧ low ≤ 0xDFFF then
          (characters? as).map
            (Char.ofNat (0x10000 + (n - 0xD800) * 0x400 + (low - 0xDC00)) :: ·)
        else none
      | _ => none

/-! ### Escapes -/

theorem codeUnit_iff_exists {s r : List Char} {n : Nat} :
    CodeUnit s n r ↔ ∃ s₁, s = 'u' :: s₁ ∧ codeUnit s₁ = .ok (n, r) := by
  constructor
  · rintro ⟨a, b, c, d, rfl, h⟩
    refine ⟨_, rfl, ?_⟩
    unfold codeUnit
    cases ha : hexDigit? a <;> cases hb : hexDigit? b <;> cases hc : hexDigit? c <;>
      cases hd : hexDigit? d <;> simp [hexNumber?, ha, hb, hc, hd] at h ⊢
    omega
  · rintro ⟨s₁, rfl, h⟩
    unfold codeUnit at h
    split at h
    · rename_i a b c d r'
      split at h
      · rename_i ha hb hc hd
        obtain ⟨rfl, rfl⟩ := Prod.mk.inj (Except.ok.inj h)
        refine ⟨a, b, c, d, rfl, ?_⟩
        simp [hexNumber?, ha, hb, hc, hd]
        omega
      · simp at h
    · simp at h

theorem escaped?_eq_some_iff {c d : Char} : escaped? c = some d ↔ (c, d) ∈ escapes := by
  constructor
  · intro h
    unfold escaped? at h
    split at h <;> simp_all [escapes, eq_comm]
  · intro h
    simp only [escapes, List.mem_cons, Prod.mk.injEq, List.not_mem_nil, or_false] at h
    rcases h with ⟨rfl, rfl⟩ | ⟨rfl, rfl⟩ | ⟨rfl, rfl⟩ | ⟨rfl, rfl⟩ | ⟨rfl, rfl⟩ | ⟨rfl, rfl⟩ |
      ⟨rfl, rfl⟩ | ⟨rfl, rfl⟩ <;> rfl

/-- No letter of an escape is that of a code unit. -/
theorem ne_of_mem_escapes {c d : Char} (h : (c, d) ∈ escapes) : c ≠ 'u' := by
  rintro rfl
  simp [escapes] at h

theorem skipEscape_eq_ok_iff {s r : List Char} :
    skipEscape s = .ok r ↔ (∃ c d, (c, d) ∈ escapes ∧ s = c :: r) ∨ ∃ n, CodeUnit s n r := by
  constructor
  · intro h
    unfold skipEscape at h
    split at h
    · simp at h
    · split at h
      · simp at h
      · rename_i hu
        obtain rfl := Except.ok.inj h
        exact .inr ⟨_, codeUnit_iff_exists.2 ⟨_, rfl, hu⟩⟩
    · split at h
      · rename_i hd
        obtain rfl := Except.ok.inj h
        exact .inl ⟨_, _, escaped?_eq_some_iff.1 hd, rfl⟩
      · simp at h
  · rintro (⟨c, d, hc, rfl⟩ | ⟨n, hu⟩)
    · rw [skipEscape, escaped?_eq_some_iff.2 hc]
      exact fun h => ne_of_mem_escapes hc h
    · obtain ⟨s₁, rfl, hs⟩ := codeUnit_iff_exists.1 hu
      rw [skipEscape, hs]

theorem isLowSurrogate_iff {n : Nat} : isLowSurrogate n = true ↔ 0xDC00 ≤ n ∧ n ≤ 0xDFFF := by
  rw [isLowSurrogate, Bool.and_eq_true, decide_eq_true_eq, decide_eq_true_eq]

theorem isHighSurrogate_iff {n : Nat} : isHighSurrogate n = true ↔ 0xD800 ≤ n ∧ n ≤ 0xDBFF := by
  rw [isHighSurrogate, Bool.and_eq_true, decide_eq_true_eq, decide_eq_true_eq]

theorem readLowSurrogate_eq_ok_iff {high : Nat} {s r : List Char} {c : Char} :
    readLowSurrogate high s = .ok (c, r) ↔
      ∃ s₁ low, s = '\\' :: s₁ ∧ CodeUnit s₁ low r ∧ isLowSurrogate low = true ∧
        ofSurrogates high low = c := by
  constructor
  · intro h
    unfold readLowSurrogate at h
    split at h
    · simp at h
    · simp at h
    · split at h
      · simp at h
      · rename_i low _ hu
        split at h
        · rename_i hlow
          obtain ⟨hc, rfl⟩ := Prod.mk.inj (Except.ok.inj h)
          exact ⟨_, low, rfl, codeUnit_iff_exists.2 ⟨_, rfl, hu⟩, hlow, hc⟩
        · simp at h
    · simp at h
  · rintro ⟨_, low, rfl, hu, hlow, hc⟩
    obtain ⟨s₁, rfl, hs⟩ := codeUnit_iff_exists.1 hu
    rw [readLowSurrogate, hs]
    simp only [hlow, if_true, hc]

/-- An escape is read as one character: that of a letter, that of a code unit that is no surrogate,
or that of two surrogates. -/
theorem readEscape_eq_ok_iff {s r : List Char} {c : Char} :
    readEscape s = .ok (c, r) ↔
      (∃ e, (e, c) ∈ escapes ∧ s = e :: r) ∨
      (∃ n, CodeUnit s n r ∧ isLowSurrogate n = false ∧ isHighSurrogate n = false ∧
        Char.ofNat n = c) ∨
      ∃ n low s₁, CodeUnit s n ('\\' :: s₁) ∧ CodeUnit s₁ low r ∧ isLowSurrogate n = false ∧
        isHighSurrogate n = true ∧ isLowSurrogate low = true ∧ ofSurrogates n low = c := by
  constructor
  · intro h
    unfold readEscape at h
    split at h
    · simp at h
    · unfold readUnicodeEscape at h
      split at h
      · simp at h
      · rename_i n r' hu
        have hu := codeUnit_iff_exists.2 ⟨_, rfl, hu⟩
        split at h
        · simp at h
        · rename_i hn
          rw [Bool.not_eq_true] at hn
          split at h
          · rename_i hn'
            obtain ⟨s₁, low, rfl, hlow⟩ := readLowSurrogate_eq_ok_iff.1 h
            exact .inr (.inr ⟨n, low, s₁, hu, hlow.1, hn, hn', hlow.2⟩)
          · rename_i hn'
            rw [Bool.not_eq_true] at hn'
            obtain ⟨hc, rfl⟩ := Prod.mk.inj (Except.ok.inj h)
            exact .inr (.inl ⟨n, hu, hn, hn', hc⟩)
    · split at h
      · rename_i hd
        obtain ⟨rfl, rfl⟩ := Prod.mk.inj (Except.ok.inj h)
        exact .inl ⟨_, escaped?_eq_some_iff.1 hd, rfl⟩
      · simp at h
  · rintro (⟨e, he, rfl⟩ | ⟨n, hu, hn, hn', hc⟩ | ⟨n, low, s₁, hu, hu', hn, hn', hlow, hc⟩)
    · rw [readEscape, escaped?_eq_some_iff.2 he]
      exact fun h => ne_of_mem_escapes he h
    · obtain ⟨s₁, rfl, hs⟩ := codeUnit_iff_exists.1 hu
      rw [readEscape, readUnicodeEscape, hs]
      simp only [hn, hn', hc, Bool.false_eq_true, if_false]
    · have hr : readLowSurrogate n ('\\' :: s₁) = .ok (c, r) :=
        readLowSurrogate_eq_ok_iff.2 ⟨s₁, low, rfl, hu', hlow, hc⟩
      obtain ⟨s₁, rfl, hs⟩ := codeUnit_iff_exists.1 hu
      rw [readEscape, readUnicodeEscape, hs]
      simp only [hn, hn', hr, Bool.false_eq_true, if_false, if_true]

/-! ### Whole strings -/

theorem isControl_eq_false_iff {c : Char} : isControl c = false ↔ 0x20 ≤ c.toNat := by
  simp [isControl]

/-- **The strings that are passed over are those of the grammar.** -/
theorem skipString_eq_ok_iff {s r : List Char} :
    skipString s = .ok r ↔ ∃ as, Atoms s as r := by
  constructor
  · intro h
    fun_induction skipString s with
    | case1 => simp at h
    | case2 r' =>
      obtain rfl := Except.ok.inj h
      exact ⟨_, .ended⟩
    | case3 => simp at h
    | case4 s₁ s₂ he hlt ih =>
      obtain ⟨as, ha⟩ := ih h
      rcases skipEscape_eq_ok_iff.1 he with ⟨c, d, hc, rfl⟩ | ⟨n, hu⟩
      · exact ⟨_, .escape hc ha⟩
      · exact ⟨_, .unit hu ha⟩
    | case5 => simp at h
    | case6 c s₁ hquote hbackslash hc ih =>
      obtain ⟨as, ha⟩ := ih h
      rw [Bool.not_eq_true] at hc
      exact ⟨_, .plain (isControl_eq_false_iff.1 hc) hquote hbackslash ha⟩
  · rintro ⟨as, h⟩
    induction h with
    | ended => rw [skipString]
    | plain hc hquote hbackslash _ ih =>
      rw [skipString, isControl_eq_false_iff.2 hc]
      · exact ih
      · exact fun h => hquote h
      · exact fun h => hbackslash h
    | @escape c d s₁ r' as hc _ ih =>
      have he : skipEscape (c :: s₁) = .ok s₁ := skipEscape_eq_ok_iff.2 (.inl ⟨c, d, hc, rfl⟩)
      rw [skipString]
      split <;> simp_all
    | unit hu _ ih =>
      have he := skipEscape_eq_ok_iff.2 (.inr ⟨_, hu⟩)
      rw [skipString]
      split <;> simp_all

/-! #### What they mean -/

theorem not_surrogate_iff {n : Nat} :
    n < 0xD800 ∨ 0xDFFF < n ↔ isLowSurrogate n = false ∧ isHighSurrogate n = false := by
  rw [← Bool.not_eq_true, ← Bool.not_eq_true, isLowSurrogate_iff, isHighSurrogate_iff]
  omega

theorem characters?_unit {n : Nat} {as : List Atom} (hn : isLowSurrogate n = false)
    (hn' : isHighSurrogate n = false) :
    characters? (.unit n :: as) = (characters? as).map (Char.ofNat n :: ·) := by
  rw [characters?.eq_def]
  exact if_pos (not_surrogate_iff.2 ⟨hn, hn'⟩)

theorem characters?_pair {n low : Nat} {as : List Atom} (hn : isHighSurrogate n = true)
    (hlow : isLowSurrogate low = true) :
    characters? (.unit n :: .unit low :: as) =
      (characters? as).map (ofSurrogates n low :: ·) := by
  have hn := isHighSurrogate_iff.1 hn
  have hlow := isLowSurrogate_iff.1 hlow
  rw [characters?, if_neg (by omega)]
  exact if_pos ⟨by omega, hlow⟩

/-- A string that means something is read, and as what it means. -/
theorem readString_of_atoms {s r cs : List Char} {as : List Atom} (h : Atoms s as r)
    (hcs : characters? as = some cs) : readString s = .ok (cs, r) := by
  fun_induction characters? as generalizing s cs with
  | case1 =>
    cases h
    obtain rfl := Option.some.inj hcs
    rw [readString]
  | case2 c as ih =>
    obtain ⟨cs', hcs', rfl⟩ := Option.map_eq_some_iff.1 hcs
    cases h with
    | plain hc hquote hbackslash h =>
      rw [readString, isControl_eq_false_iff.2 hc, ih h hcs']
      · simp
      · exact fun h => hquote h
      · exact fun h => hbackslash h
    | @escape e _ s₁ _ _ he h =>
      have he' : readEscape (e :: s₁) = .ok (c, s₁) := readEscape_eq_ok_iff.2 (.inl ⟨e, he, rfl⟩)
      have := ih h hcs'
      rw [readString]
      split <;> simp_all
  | case3 n as hn ih =>
    obtain ⟨cs', hcs', rfl⟩ := Option.map_eq_some_iff.1 hcs
    cases h with
    | unit hu h =>
      obtain ⟨hn, hn'⟩ := not_surrogate_iff.1 hn
      have he := readEscape_eq_ok_iff.2 (.inr (.inl ⟨n, hu, hn, hn', rfl⟩))
      have := ih h hcs'
      rw [readString]
      split <;> simp_all
  | case4 n hn low as hlow ih =>
    -- Two code units, which the reader takes in one step.
    obtain ⟨cs', hcs', rfl⟩ := Option.map_eq_some_iff.1 hcs
    cases h with
    | unit hu h =>
      cases h with
      | unit hu' h =>
        have hn' : isHighSurrogate n = true := isHighSurrogate_iff.2 (by omega)
        have hn : isLowSurrogate n = false := by
          rw [← Bool.not_eq_true, isLowSurrogate_iff]
          omega
        have he := readEscape_eq_ok_iff.2
          (.inr (.inr ⟨n, low, _, hu, hu', hn, hn', isLowSurrogate_iff.2 hlow.2, rfl⟩))
        have := ih h hcs'
        rw [readString]
        split <;> simp_all [ofSurrogates]
  | case5 => simp at hcs
  | case6 => simp at hcs

/-- **The strings that are read are those of the grammar that mean something**, and they are read
as what they mean. -/
theorem readString_eq_ok_iff {s cs r : List Char} :
    readString s = .ok (cs, r) ↔ ∃ as, Atoms s as r ∧ characters? as = some cs := by
  refine ⟨fun h => ?_, fun ⟨as, h, hcs⟩ => readString_of_atoms h hcs⟩
  fun_induction readString s generalizing cs r with
  | case1 => simp at h
  | case2 r' =>
    obtain ⟨rfl, rfl⟩ := Prod.mk.inj (Except.ok.inj h)
    exact ⟨_, .ended, rfl⟩
  | case3 => simp at h
  | case4 => simp at h
  | case5 s₁ c s₂ he hlt cs' r' hr ih =>
    obtain ⟨rfl, rfl⟩ := Prod.mk.inj (Except.ok.inj h)
    obtain ⟨as, ha, hcs⟩ := ih hr
    rcases readEscape_eq_ok_iff.1 he with
      ⟨e, hc, rfl⟩ | ⟨n, hu, hn, hn', rfl⟩ | ⟨n, low, s₃, hu, hu', -, hn, hlow, rfl⟩
    · exact ⟨_, .escape hc ha, by rw [characters?, hcs, Option.map_some]⟩
    · exact ⟨_, .unit hu ha, by rw [characters?_unit hn hn', hcs, Option.map_some]⟩
    · exact ⟨_, .unit hu (.unit hu' ha), by rw [characters?_pair hn hlow, hcs, Option.map_some]⟩
  | case6 => simp at h
  | case7 => simp at h
  | case8 c s₁ hquote hbackslash hc cs' r' hr ih =>
    obtain ⟨rfl, rfl⟩ := Prod.mk.inj (Except.ok.inj h)
    obtain ⟨as, ha, hcs⟩ := ih hr
    rw [Bool.not_eq_true] at hc
    exact ⟨_, .plain (isControl_eq_false_iff.1 hc) hquote hbackslash ha,
      by rw [characters?, hcs, Option.map_some]⟩

end RestClient.Json
