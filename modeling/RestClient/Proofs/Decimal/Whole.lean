import Mathlib.Data.ENat.Basic
import RestClient.Decimal.Binary64

/-! # Whole numbers in double precision

The number that double precision has for a whole number is a whole number again, or infinity. Its 53
bits hold every number below `2 ^ 53` as it is. From there on numbers are rounded, and what they are
rounded to is no smaller than `2 ^ 53`, so that none of them is taken for one below.

* `exists_ofRatio?_one_of_lt` and `exists_of_ofRatio?_one`: mantissa and exponent of a whole number, on
  the two sides of `2 ^ 53`;
* `nearest`: the number that double precision has for a whole number;
* `nearest_eq_iff`: two whole numbers have the same one only if both are at least `2 ^ 53`. -/

namespace RestClient.Binary64

/-! ### Mantissa and exponent -/

theorem roundQuotient_one (n : Nat) : roundQuotient n 1 = n := by
  simp [roundQuotient, Nat.mod_one]

theorem div_le_roundQuotient (n d : Nat) : n / d ≤ roundQuotient n d := by
  unfold roundQuotient
  dsimp only
  split <;> omega

theorem scaled_one_neg (n k : Nat) : scaled n 1 (-k) = (n * 2 ^ k, 1) := by
  cases k with
  | zero => simp [scaled]
  | succ k =>
    rw [scaled, if_pos (by omega), Int.natAbs_neg, Int.natAbs_natCast]
    rfl

theorem scaled_one_natCast (n k : Nat) : scaled n 1 k = (n, 2 ^ k) := by
  rw [scaled, if_neg (by omega), Int.natAbs_natCast, Nat.one_mul]
  rfl

/-- With one bit more than there is room for, the mantissa of a whole number is too long. -/
theorem not_lt_scaled_one {n : Nat} (h : n ≠ 0) :
    ¬ (scaled n 1 (n.log2 - 53)).1 / (scaled n 1 (n.log2 - 53)).2 < 2 ^ 53 := by
  have hself := Nat.log2_self_le h
  rw [Nat.not_lt]
  rcases Nat.le_total n.log2 53 with hlog | hlog
  · obtain ⟨k, hk⟩ := Nat.exists_eq_add_of_le hlog
    have hexponent : (n.log2 : Int) - 53 = -k := by omega
    rw [hexponent, scaled_one_neg, Nat.div_one, hk, Nat.pow_add]
    exact Nat.mul_le_mul_right _ hself
  · obtain ⟨k, hk⟩ := Nat.exists_eq_add_of_le hlog
    have hexponent : (n.log2 : Int) - 53 = k := by omega
    rw [hexponent, scaled_one_natCast, Nat.le_div_iff_mul_le (Nat.two_pow_pos k), ← Nat.pow_add,
      ← hk]
    exact hself

/-- The exponent leaves 53 bits for the mantissa. -/
theorem exponentOf_one {n : Nat} (h : n ≠ 0) : exponentOf n 1 = n.log2 - 52 := by
  have hlow : max (-1074) ((n.log2 : Int) - Nat.log2 1 - 53) = n.log2 - 53 := by
    have hone : Nat.log2 1 = 0 := by decide
    omega
  unfold exponentOf
  rw [hlow]
  refine (if_neg (not_lt_scaled_one h)).trans ?_
  omega

/-- A mantissa that is rounded to 54 bits has one bit less and a higher exponent. -/
theorem ofRatio?_of_scaled {n d p q : Nat} {e : Int} (hpos : n ≠ 0) (he : exponentOf n d = e)
    (hscaled : scaled n d e = (p, q)) :
    ofRatio? n d =
      if roundQuotient p q = 2 ^ 53 then if e + 1 ≤ 971 then some ⟨2 ^ 52, e + 1⟩ else none
      else if e ≤ 971 then some ⟨roundQuotient p q, e⟩ else none := by
  rw [ofRatio?, if_neg hpos, he]
  dsimp only
  rw [hscaled]
  dsimp only [Nat.pow_eq]
  split <;> rfl

/-- **A whole number below `2 ^ 53` loses nothing.** -/
theorem exists_ofRatio?_one_of_lt {n : Nat} (hpos : n ≠ 0) (h : n < 2 ^ 53) :
    ∃ k : Nat, ofRatio? n 1 = some ⟨n * 2 ^ k, -k⟩ := by
  have hlog : n.log2 ≤ 52 := Nat.lt_succ_iff.1 ((Nat.log2_lt hpos).2 h)
  obtain ⟨k, hk⟩ := Nat.exists_eq_add_of_le hlog
  have hexponent : exponentOf n 1 = -k := by rw [exponentOf_one hpos]; omega
  have hshort : n * 2 ^ k < 2 ^ 53 := by
    have hself : n < 2 ^ (n.log2 + 1) := Nat.lt_log2_self
    have hsum : n.log2 + 1 + k = 53 := by omega
    rw [← hsum, Nat.pow_add]
    exact Nat.mul_lt_mul_of_pos_right hself (Nat.two_pow_pos k)
  refine ⟨k, ?_⟩
  rw [ofRatio?_of_scaled hpos hexponent (scaled_one_neg n k), roundQuotient_one,
    if_neg hshort.ne, if_pos (by omega)]

/-- **A whole number from `2 ^ 53` on** has an exponent above zero, and a mantissa of 53 bits. -/
theorem exists_of_ofRatio?_one {n : Nat} {x : Binary64} (h : 2 ^ 53 ≤ n)
    (hx : ofRatio? n 1 = some x) : ∃ k : Nat, 2 ^ 52 ≤ x.mantissa ∧ x.exponent = (k + 1 : Nat) := by
  have hpos : n ≠ 0 := by omega
  have hlog : 53 ≤ n.log2 := (Nat.le_log2 hpos).2 h
  obtain ⟨k, hk⟩ := Nat.exists_eq_add_of_le hlog
  have hexponent : exponentOf n 1 = (k + 1 : Nat) := by rw [exponentOf_one hpos]; omega
  have hlong : 2 ^ 52 ≤ roundQuotient n (2 ^ (k + 1)) := by
    have hsum : 52 + (k + 1) = n.log2 := by omega
    refine Nat.le_trans ?_ (div_le_roundQuotient n (2 ^ (k + 1)))
    rw [Nat.le_div_iff_mul_le (Nat.two_pow_pos _), ← Nat.pow_add, hsum]
    exact Nat.log2_self_le hpos
  rw [ofRatio?_of_scaled hpos hexponent (scaled_one_natCast n (k + 1))] at hx
  split at hx
  · split at hx
    · obtain rfl := Option.some.inj hx
      exact ⟨k + 1, le_rfl, rfl⟩
    · cases hx
  · split at hx
    · obtain rfl := Option.some.inj hx
      exact ⟨k, hlong, rfl⟩
    · cases hx

/-! ### The nearest number -/

/-- The whole part of a number. -/
def floor (x : Binary64) : Nat := x.toRatio.1 / x.toRatio.2

theorem floor_zero (e : Int) : floor ⟨0, e⟩ = 0 := by
  unfold floor toRatio
  split
  · exact Nat.zero_div _
  · rw [Nat.zero_mul, Nat.zero_div]

theorem floor_neg (m k : Nat) : floor ⟨m * 2 ^ k, -k⟩ = m := by
  cases k with
  | zero => simp [floor, toRatio]
  | succ k =>
    rw [floor, toRatio, if_pos (by dsimp only; omega), Int.natAbs_neg, Int.natAbs_natCast]
    exact Nat.mul_div_cancel m (Nat.two_pow_pos (k + 1))

theorem floor_natCast (m k : Nat) : floor ⟨m, k⟩ = m * 2 ^ k := by
  rw [floor, toRatio, if_neg (by dsimp only; omega), Int.natAbs_natCast]
  exact Nat.div_one _

/-- The number that double precision has for a whole number, which is infinity beyond the largest
finite one. -/
def nearest (n : Nat) : ℕ∞ :=
  match ofRatio? n 1 with
  | some x => x.floor
  | none => ⊤

theorem nearest_of_lt {n : Nat} (h : n < 2 ^ 53) : nearest n = n := by
  by_cases hzero : n = 0
  · rw [hzero]
    exact congrArg Nat.cast (floor_zero (-1074))
  · obtain ⟨k, hk⟩ := exists_ofRatio?_one_of_lt hzero h
    rw [nearest, hk]
    exact congrArg Nat.cast (floor_neg n k)

theorem le_nearest {n : Nat} (h : 2 ^ 53 ≤ n) : ((2 ^ 53 : Nat) : ℕ∞) ≤ nearest n := by
  unfold nearest
  split
  · rename_i x hx
    obtain ⟨k, hlong, hexponent⟩ := exists_of_ofRatio?_one h hx
    obtain ⟨m, e⟩ := x
    obtain rfl : e = (k + 1 : Nat) := hexponent
    rw [floor_natCast, Nat.cast_le]
    calc 2 ^ 53 = 2 ^ 52 * 2 ^ 1 := by decide
      _ ≤ m * 2 ^ (k + 1) := Nat.mul_le_mul hlong (Nat.pow_le_pow_right (by decide) (by omega))
  · exact le_top

/-- **Two whole numbers have the same number in double precision** only if they are the same, or
neither of them is below `2 ^ 53`. -/
theorem nearest_eq_iff {m n : Nat} :
    nearest m = nearest n ↔ m = n ∨ (2 ^ 53 ≤ m ∧ 2 ^ 53 ≤ n ∧ nearest m = nearest n) := by
  have hbelow {m n : Nat} (hm : m < 2 ^ 53) (h : nearest m = nearest n) : m = n := by
    rw [nearest_of_lt hm] at h
    by_cases hn : n < 2 ^ 53
    · rwa [nearest_of_lt hn, Nat.cast_inj] at h
    · have hle := le_nearest (Nat.not_lt.1 hn)
      rw [← h, Nat.cast_le] at hle
      omega
  constructor
  · intro h
    by_cases hm : m < 2 ^ 53
    · exact .inl (hbelow hm h)
    · by_cases hn : n < 2 ^ 53
      · exact .inl (hbelow hn h.symm).symm
      · exact .inr ⟨Nat.not_lt.1 hm, Nat.not_lt.1 hn, h⟩
  · rintro (rfl | ⟨-, -, h⟩)
    · rfl
    · exact h

/-- Of two numbers that are as near, the one with an even mantissa is taken. -/
example : nearest (2 ^ 53 + 1) = (2 ^ 53 : Nat) ∧ nearest (2 ^ 53 + 3) = (2 ^ 53 + 4 : Nat) := by
  decide +kernel

end RestClient.Binary64
