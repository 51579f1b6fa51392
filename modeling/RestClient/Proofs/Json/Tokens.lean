import Mathlib.Data.List.TakeWhile
import RestClient.Json.Skip
import RestClient.Proofs.Json.Strings

/-! # Tokens

The readers of blanks, literals and numbers against the grammar. A number has no end of its own, so
what it is read as depends on what stands behind it: `EndsNumber` says of a text that no number
behind which it stands goes on in it.

* `exists_of_scan`: a number is taken off the front of a text only if it is one of the grammar;
* `scan_of_isNumber`: a number of the grammar is taken off whole where it ends. -/

namespace RestClient.Json

/-! ### Blanks -/

theorem isBlank_iff {c : Char} : isBlank c = true ↔ c ∈ [' ', '\t', '\n', '\r'] := by
  simp only [isBlank, Bool.or_eq_true, beq_iff_eq, List.mem_cons, List.not_mem_nil, or_false]
  grind

theorem blanks_dropBlanks (s : List Char) : Blanks s (dropBlanks s) := by
  induction s with
  | nil => exact .none
  | cons c s ih =>
    by_cases h : isBlank c = true
    · rw [dropBlanks, List.dropWhile_cons_of_pos h]
      exact .more (isBlank_iff.1 h) ih
    · rw [dropBlanks, List.dropWhile_cons_of_neg h]
      exact .none

theorem blanks_of_dropBlanks {s r : List Char} (h : dropBlanks s = r) : Blanks s r :=
  h ▸ blanks_dropBlanks s

theorem dropBlanks_cons {c : Char} {s : List Char} (hc : isBlank c = false) :
    dropBlanks (c :: s) = c :: s :=
  List.dropWhile_cons_of_neg (by simp [hc])

theorem dropBlanks_of_blanks {s r : List Char} (h : Blanks s r) : dropBlanks s = dropBlanks r := by
  induction h with
  | none => rfl
  | more hc _ ih =>
    rw [dropBlanks, List.dropWhile_cons_of_pos (isBlank_iff.2 hc)]
    exact ih

/-- Blanks are dropped up to a character that is none. -/
theorem dropBlanks_eq_cons {s r : List Char} {c : Char} (h : Blanks s (c :: r))
    (hc : isBlank c = false) : dropBlanks s = c :: r := by
  rw [dropBlanks_of_blanks h, dropBlanks_cons hc]

theorem Blanks.trans {s t r : List Char} (h : Blanks s t) (h' : Blanks t r) : Blanks s r := by
  induction h with
  | none => exact h'
  | more hc _ ih => exact .more hc (ih h')

/-- The first character behind which blanks are followed by another one is a blank or that one. -/
theorem head_of_blanks {s r : List Char} {c d : Char} (h : Blanks s (c :: r))
    (hd : d ∈ s.head?) : isBlank d = true ∨ d = c := by
  cases h with
  | none => exact .inr (Option.some.inj hd).symm
  | more hc _ => exact .inl (isBlank_iff.2 (Option.some.inj hd ▸ hc))

/-! ### Literals -/

theorem readLiteral_eq_ok_iff {word s r : List Char} :
    readLiteral word s = .ok r ↔ s = word ++ r := by
  fun_induction readLiteral word s with
  | case1 s => simp
  | case2 => simp
  | case3 word c s ih => simpa using ih
  | case4 word c d s hcd => simp [Ne.symm hcd]

/-! ### Numbers -/

/-- Whether a number that stands before a text ends there. -/
def EndsNumber (s : List Char) : Prop :=
  ∀ c ∈ s.head?, c.isDigit = false ∧ c ≠ '.' ∧ c ≠ 'e' ∧ c ≠ 'E'

theorem endsNumber_of_blanks {s r : List Char} {c : Char} (h : Blanks s (c :: r))
    (hc : EndsNumber [c]) : EndsNumber s := by
  intro d hd
  rcases head_of_blanks h hd with hd | rfl
  · simp only [isBlank, Bool.or_eq_true, beq_iff_eq] at hd
    rcases hd with ((rfl | rfl) | rfl) | rfl <;> decide
  · exact hc d rfl

namespace Number

theorem exists_of_digits {s ds r : List Char} (h : digits s = .ok (ds, r)) :
    IsDigits ds ∧ s = ds ++ r := by
  unfold digits at h
  split at h
  · simp at h
  · rename_i c s₁
    split at h
    · rename_i hc
      obtain ⟨rfl, rfl⟩ := Prod.mk.inj (Except.ok.inj h)
      refine ⟨⟨List.cons_ne_nil _ _, ?_⟩, by simp [List.takeWhile_append_dropWhile]⟩
      rintro d (_ | ⟨_, hd⟩)
      · exact hc
      · exact List.mem_takeWhile_imp hd
    · simp at h

theorem digits_of_isDigits {ds r : List Char} (h : IsDigits ds)
    (hr : ∀ c ∈ r.head?, c.isDigit = false) : digits (ds ++ r) = .ok (ds, r) := by
  obtain ⟨hne, hds⟩ := h
  cases ds with
  | nil => exact absurd rfl hne
  | cons c ds =>
    have hstop : r.takeWhile Char.isDigit = [] ∧ r.dropWhile Char.isDigit = r := by
      cases r with
      | nil => exact ⟨rfl, rfl⟩
      | cons d r => simp [hr d rfl]
    have hrest : ∀ d ∈ ds, d.isDigit = true := fun d hd => hds d (List.mem_cons_of_mem c hd)
    rw [List.cons_append, digits, if_pos (hds c List.mem_cons_self),
      List.takeWhile_append_of_pos hrest, List.dropWhile_append_of_pos hrest, hstop.1, hstop.2,
      List.append_nil]

theorem exists_of_wholeDigits {s ds r : List Char} (h : wholeDigits s = .ok (ds, r)) :
    IsWhole ds ∧ s = ds ++ r := by
  unfold wholeDigits at h
  split at h
  · simp at h
  · rename_i hzero
    obtain ⟨hds, rfl⟩ := exists_of_digits h
    refine ⟨?_, rfl⟩
    by_cases h0 : ds.head? = some '0'
    · obtain ⟨ds', rfl⟩ := List.head?_eq_some_iff.1 h0
      cases ds' with
      | nil => exact .inl rfl
      | cons d ds' => exact absurd h (hzero d ds' r)
    · exact .inr ⟨hds, h0⟩

theorem wholeDigits_of_isWhole {ds r : List Char} (h : IsWhole ds)
    (hr : ∀ c ∈ r.head?, c.isDigit = false) : wholeDigits (ds ++ r) = .ok (ds, r) := by
  have hds : IsDigits ds := by
    rcases h with rfl | h
    · exact ⟨by simp, by simp⟩
    · exact h.1
  rw [wholeDigits, digits_of_isDigits hds hr]
  split
  · rename_i heq
    obtain ⟨rfl, -⟩ := Prod.mk.inj (Except.ok.inj heq)
    rcases h with h | h
    · simp at h
    · simp at h
  · rfl

theorem exists_of_fractionDigits {s ds r : List Char} (h : fractionDigits s = .ok (ds, r)) :
    ∃ fraction, IsFraction fraction ∧ s = fraction ++ r := by
  unfold fractionDigits at h
  split at h
  · obtain ⟨hds, rfl⟩ := exists_of_digits h
    exact ⟨'.' :: ds, .inr ⟨ds, hds, rfl⟩, rfl⟩
  · obtain ⟨-, rfl⟩ := Prod.mk.inj (Except.ok.inj h)
    exact ⟨[], .inl rfl, rfl⟩

theorem fractionDigits_of_isFraction {fraction r : List Char} (h : IsFraction fraction)
    (hr : ∀ c ∈ r.head?, c.isDigit = false ∧ c ≠ '.') :
    ∃ ds, fractionDigits (fraction ++ r) = .ok (ds, r) := by
  rcases h with rfl | ⟨ds, hds, rfl⟩
  · refine ⟨[], ?_⟩
    rw [List.nil_append]
    unfold fractionDigits
    split
    · exact absurd rfl (hr '.' rfl).2
    · rfl
  · exact ⟨ds, digits_of_isDigits hds fun c hc => (hr c hc).1⟩

theorem exists_of_signedDigits {negative : Bool} {s r : List Char}
    {e : Option (Bool × List Char)} (h : signedDigits negative s = .ok (e, r)) :
    ∃ ds, IsDigits ds ∧ s = ds ++ r := by
  unfold signedDigits at h
  split at h
  · simp at h
  · rename_i ds r' hd
    obtain ⟨-, rfl⟩ := Prod.mk.inj (Except.ok.inj h)
    exact ⟨ds, exists_of_digits hd⟩

theorem exists_of_exponentDigits {s r : List Char} {e : Option (Bool × List Char)}
    (h : exponentDigits s = .ok (e, r)) : ∃ exponent, IsExponent exponent ∧ s = exponent ++ r := by
  unfold exponentDigits at h
  split at h
  · obtain ⟨-, rfl⟩ := Prod.mk.inj (Except.ok.inj h)
    exact ⟨[], .inl rfl, rfl⟩
  · rename_i c s₁
    split at h
    · rename_i hc
      have hc : c ∈ ['e', 'E'] := by simpa using hc
      split at h <;> obtain ⟨ds, hds, rfl⟩ := exists_of_signedDigits h
      · exact ⟨c :: (['-'] ++ ds), .inr ⟨c, hc, _, by simp, ds, hds, rfl⟩, rfl⟩
      · exact ⟨c :: (['+'] ++ ds), .inr ⟨c, hc, _, by simp, ds, hds, rfl⟩, rfl⟩
      · exact ⟨c :: ([] ++ ds), .inr ⟨c, hc, _, by simp, ds, hds, rfl⟩, rfl⟩
    · obtain ⟨-, rfl⟩ := Prod.mk.inj (Except.ok.inj h)
      exact ⟨[], .inl rfl, rfl⟩

theorem exponentDigits_of_isExponent {exponent r : List Char} (h : IsExponent exponent)
    (hr : EndsNumber r) : ∃ e, exponentDigits (exponent ++ r) = .ok (e, r) := by
  rcases h with rfl | ⟨e, he, sign, hsign, ds, hds, rfl⟩
  · refine ⟨none, ?_⟩
    cases r with
    | nil => rfl
    | cons c r =>
      obtain ⟨-, -, he, hE⟩ := hr c rfl
      exact if_neg (not_or.2 ⟨he, hE⟩)
  · have he : e = 'e' ∨ e = 'E' := by simpa using he
    have hd := digits_of_isDigits hds fun c hc => (hr c hc).1
    simp only [List.mem_cons, List.not_mem_nil, or_false] at hsign
    rw [List.cons_append, List.append_assoc]
    rcases hsign with rfl | rfl | rfl
    · refine ⟨some (false, ds), ?_⟩
      rw [List.nil_append]
      unfold exponentDigits
      simp only [if_pos he]
      split
      -- Digits do not begin with a sign.
      · rename_i heq
        simp [heq, digits] at hd
      · rename_i heq
        simp [heq, digits] at hd
      · rw [signedDigits, hd]
    · exact ⟨some (false, ds), by simp [exponentDigits, signedDigits, he, hd]⟩
    · exact ⟨some (true, ds), by simp [exponentDigits, signedDigits, he, hd]⟩

/-- The parts that are scanned are those of a number. -/
theorem exists_of_scanUnsigned {negative : Bool} {s r : List Char} {n : Number}
    (h : scanUnsigned negative s = .ok (n, r)) :
    ∃ whole fraction exponent, IsWhole whole ∧ IsFraction fraction ∧ IsExponent exponent ∧
      s = (whole ++ (fraction ++ exponent)) ++ r := by
  unfold scanUnsigned at h
  split at h
  · simp at h
  rename_i hw
  split at h
  · simp at h
  rename_i hf
  split at h
  · simp at h
  rename_i he
  obtain ⟨-, rfl⟩ := Prod.mk.inj (Except.ok.inj h)
  obtain ⟨hw', rfl⟩ := exists_of_wholeDigits hw
  obtain ⟨fraction, hf', rfl⟩ := exists_of_fractionDigits hf
  obtain ⟨exponent, he', rfl⟩ := exists_of_exponentDigits he
  exact ⟨_, fraction, exponent, hw', hf', he', by simp⟩

theorem scanUnsigned_of_parts {negative : Bool} {whole fraction exponent r : List Char}
    (hw : IsWhole whole) (hf : IsFraction fraction) (he : IsExponent exponent)
    (hr : EndsNumber r) :
    ∃ n, scanUnsigned negative ((whole ++ (fraction ++ exponent)) ++ r) = .ok (n, r) := by
  have hr₁ : ∀ c ∈ (exponent ++ r).head?, c.isDigit = false ∧ c ≠ '.' := by
    rcases he with rfl | ⟨e, he, sign, -, ds, -, rfl⟩
    · exact fun c hc => ⟨(hr c hc).1, (hr c hc).2.1⟩
    · rintro c ⟨⟩
      simp only [List.mem_cons, List.not_mem_nil, or_false] at he
      rcases he with rfl | rfl <;> decide
  have hr₂ : ∀ c ∈ (fraction ++ (exponent ++ r)).head?, c.isDigit = false := by
    rcases hf with rfl | ⟨ds, -, rfl⟩
    · exact fun c hc => (hr₁ c hc).1
    · rintro c ⟨⟩
      decide
  obtain ⟨ds, hfd⟩ := fractionDigits_of_isFraction hf hr₁
  obtain ⟨e, hed⟩ := exponentDigits_of_isExponent he hr
  rw [List.append_assoc, List.append_assoc, scanUnsigned, wholeDigits_of_isWhole hw hr₂]
  simp only [hfd, hed]
  exact ⟨_, rfl⟩

/-- **A number is taken off the front of a text only if it is one of the grammar.** -/
theorem exists_of_scan {s r : List Char} {n : Number} (h : scan s = .ok (n, r)) :
    ∃ text, IsNumber text ∧ s = text ++ r := by
  unfold scan at h
  split at h
  · obtain ⟨whole, fraction, exponent, hw, hf, he, rfl⟩ := exists_of_scanUnsigned h
    exact ⟨_, ⟨['-'], by simp, whole, fraction, exponent, hw, hf, he, rfl⟩, rfl⟩
  · obtain ⟨whole, fraction, exponent, hw, hf, he, rfl⟩ := exists_of_scanUnsigned h
    exact ⟨_, ⟨[], by simp, whole, fraction, exponent, hw, hf, he, rfl⟩, rfl⟩

/-- A number begins with a digit behind its sign. -/
theorem head_of_isWhole {s : List Char} (h : IsWhole s) :
    ∃ c s₁, s = c :: s₁ ∧ c.isDigit = true := by
  rcases h with rfl | ⟨⟨hne, hs⟩, -⟩
  · exact ⟨'0', [], rfl, by decide⟩
  · obtain ⟨c, s₁, rfl⟩ := List.exists_cons_of_ne_nil hne
    exact ⟨c, s₁, rfl, hs c List.mem_cons_self⟩

theorem head_of_isNumber {s : List Char} (h : IsNumber s) :
    ∃ c s₁, s = c :: s₁ ∧ (c = '-' ∨ c.isDigit = true) := by
  obtain ⟨sign, hsign, whole, fraction, exponent, hw, -, -, rfl⟩ := h
  obtain ⟨c, s₁, rfl, hc⟩ := head_of_isWhole hw
  simp only [List.mem_cons, List.not_mem_nil, or_false] at hsign
  rcases hsign with rfl | rfl
  · exact ⟨c, _, rfl, .inr hc⟩
  · exact ⟨'-', _, rfl, .inl rfl⟩

/-- **A number of the grammar is taken off whole where it ends.** -/
theorem scan_of_isNumber {text r : List Char} (h : IsNumber text) (hr : EndsNumber r) :
    ∃ n, scan (text ++ r) = .ok (n, r) := by
  obtain ⟨sign, hsign, whole, fraction, exponent, hw, hf, he, rfl⟩ := h
  simp only [List.mem_cons, List.not_mem_nil, or_false] at hsign
  rcases hsign with rfl | rfl
  · obtain ⟨n, hn⟩ := scanUnsigned_of_parts hw hf he hr
    refine ⟨n, ?_⟩
    rw [List.nil_append]
    unfold scan
    split
    · rename_i heq
      obtain ⟨c, s₁, rfl, hc⟩ := head_of_isWhole hw
      obtain ⟨rfl, -⟩ := List.cons.inj heq
      simp at hc
    · exact hn
  · change ∃ n, scanUnsigned true (whole ++ (fraction ++ exponent) ++ r) = .ok (n, r)
    exact scanUnsigned_of_parts hw hf he hr

end Number

end RestClient.Json
