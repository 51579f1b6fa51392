import RestClient.Proofs.Json.Tokens

/-! # Values that are passed over

`skipValue` keeps no derivation, only a list of the brackets that are still open. `Closes` is what
such a list promises of the text ahead: that it ends each of the lists and objects in turn.

* `exists_of_skipValue`: a value is passed over only if it is one of the grammar;
* `skipValue_of_value`: a value of the grammar is passed over where no number goes on behind it. -/

namespace RestClient.Json

/-! ### Where values begin -/

/-- The characters with which values begin. -/
def BeginsValue (c : Char) : Prop :=
  c ∈ ['n', 't', 'f', '"', '[', '{'] ∨ c = '-' ∨ c.isDigit = true

/-- No value begins with a blank, a comma or a closing bracket. -/
theorem ne_of_beginsValue {c : Char} (h : BeginsValue c) :
    isBlank c = false ∧ c ≠ ',' ∧ c ≠ ']' ∧ c ≠ '}' := by
  rcases h with h | rfl | h
  · simp only [List.mem_cons, List.not_mem_nil, or_false] at h
    rcases h with rfl | rfl | rfl | rfl | rfl | rfl <;> decide
  · decide
  · refine ⟨?_, ?_, ?_, ?_⟩
    · rw [← Bool.not_eq_true, isBlank_iff]
      simp only [List.mem_cons, List.not_mem_nil, or_false]
      rintro (rfl | rfl | rfl | rfl) <;> simp at h
    all_goals
      rintro rfl
      simp at h

theorem Value.head {s r : List Char} {t : Tree} (h : Value s t r) :
    ∃ c s₁, s = c :: s₁ ∧ BeginsValue c := by
  cases h with
  | null | true | false | string | list | object => exact ⟨_, _, rfl, .inl (by simp)⟩
  | number hn =>
    obtain ⟨c, s₁, rfl, hc⟩ := Number.head_of_isNumber hn
    exact ⟨c, _, rfl, .inr hc⟩

/-- A value begins behind the blanks before it. -/
theorem dropBlanks_of_value {s₀ s r : List Char} {t : Tree} (hb : Blanks s₀ s)
    (h : Value s t r) : dropBlanks s₀ = s := by
  obtain ⟨c, s₁, rfl, hc⟩ := h.head
  exact dropBlanks_eq_cons hb (ne_of_beginsValue hc).1

/-! ### Values without brackets -/

theorem exists_of_skipScalar {c : Char} {s r : List Char} (h : skipScalar c s = .ok r) :
    ∃ t, Value (c :: s) t r := by
  unfold skipScalar at h
  split at h
  · rename_i hc
    obtain rfl := readLiteral_eq_ok_iff.1 h
    subst hc
    exact ⟨_, .null⟩
  split at h
  · rename_i hc
    obtain rfl := readLiteral_eq_ok_iff.1 h
    subst hc
    exact ⟨_, .true⟩
  split at h
  · rename_i hc
    obtain rfl := readLiteral_eq_ok_iff.1 h
    subst hc
    exact ⟨_, .false⟩
  split at h
  · rename_i hc
    obtain ⟨as, ha⟩ := skipString_eq_ok_iff.1 h
    subst hc
    exact ⟨_, .string ha⟩
  split at h
  · split at h
    · rename_i hs
      obtain rfl := Except.ok.inj h
      obtain ⟨text, hn, hs⟩ := Number.exists_of_scan hs
      rw [hs]
      exact ⟨_, .number hn⟩
    · simp at h
  · simp at h

theorem skipScalar_of_isNumber {c : Char} {s r : List Char} (h : IsNumber (c :: s))
    (hr : EndsNumber r) : skipScalar c (s ++ r) = .ok r := by
  obtain ⟨n, hn⟩ := Number.scan_of_isNumber h hr
  obtain ⟨d, s₁, hs, hc⟩ := Number.head_of_isNumber h
  obtain rfl := (List.cons.inj hs).1
  have hne : c ≠ 'n' ∧ c ≠ 't' ∧ c ≠ 'f' ∧ c ≠ '"' := by
    rcases hc with rfl | hc
    · decide
    · refine ⟨?_, ?_, ?_, ?_⟩ <;>
      · rintro rfl
        simp at hc
  rw [skipScalar, if_neg hne.1, if_neg hne.2.1, if_neg hne.2.2.1, if_neg hne.2.2.2, if_pos hc,
    ← List.cons_append, hn]

/-! ### What is passed over is a value -/

/-- The text ahead ends what open brackets have begun, the innermost first. -/
def Closes : List Bracket → List Char → List Char → Prop
  | [], s, r => s = r
  | .list :: outer, s, r => ∃ ts s₁, Elements false s ts s₁ ∧ Closes outer s₁ r
  | .object :: outer, s, r => ∃ ms s₁, Members false s ms s₁ ∧ Closes outer s₁ r

/-- What the text ahead is at a place inside open brackets. -/
def Ahead (place : Place) (brackets : List Bracket) (s r : List Char) : Prop :=
  match place with
  | .value => ∃ s₁ t s₂, Blanks s s₁ ∧ Value s₁ t s₂ ∧ Closes brackets s₂ r
  | .behind => Closes brackets s r

theorem exists_of_readColon {s r : List Char} (h : readColon s = .ok r) : Blanks s (':' :: r) := by
  unfold readColon at h
  split at h
  · simp at h
  · rename_i hb
    obtain rfl := Except.ok.inj h
    exact blanks_of_dropBlanks hb
  · simp at h

theorem readColon_of_blanks {s r : List Char} (h : Blanks s (':' :: r)) : readColon s = .ok r := by
  simp only [readColon, dropBlanks_eq_cons h (by decide)]

theorem exists_of_skipKey {s r : List Char} (h : skipKey s = .ok r) :
    ∃ s₁ key s₂, Blanks s ('"' :: s₁) ∧ Atoms s₁ key s₂ ∧ Blanks s₂ (':' :: r) := by
  unfold skipKey at h
  split at h
  · simp at h
  · rename_i hb
    split at h
    · simp at h
    · rename_i hs
      obtain ⟨key, hkey⟩ := skipString_eq_ok_iff.1 hs
      exact ⟨_, key, _, blanks_of_dropBlanks hb, hkey, exists_of_readColon h⟩
  · simp at h

theorem skipKey_of_atoms {s s₁ s₂ r : List Char} {key : List Atom} (hb : Blanks s ('"' :: s₁))
    (hkey : Atoms s₁ key s₂) (hc : Blanks s₂ (':' :: r)) : skipKey s = .ok r := by
  rw [skipKey, dropBlanks_eq_cons hb (by decide)]
  simp only [skipString_eq_ok_iff.2 ⟨key, hkey⟩, readColon_of_blanks hc]

theorem ahead_of_skipFrom {place : Place} {brackets : List Bracket} {s r : List Char}
    (h : skipFrom place brackets s = .ok r) : Ahead place brackets s r := by
  -- Each step takes the characters off that one constructor of the grammar puts on. A bracket that
  -- opens moves the rest of its list or object into what the brackets promise.
  fun_induction skipFrom place brackets s with
  | case1 => simp at h
  | case2 => simp at h
  | case3 brackets s s₁ hb hlt s₂ hr hlt' ih =>
    have hclose : Elements true s₁ [] s₂ := .ended (blanks_of_dropBlanks hr)
    exact ⟨_, _, _, blanks_of_dropBlanks hb, .list hclose, ih h⟩
  | case4 brackets s s₁ hb hlt hnil hclosed ih =>
    obtain ⟨s₃, t, s₄, hb', ht, ts, s₅, hts, hclose⟩ := ih h
    have hts : Elements true s₁ (t :: ts) s₅ := .more hb' ht hts
    exact ⟨_, _, _, blanks_of_dropBlanks hb, .list hts, hclose⟩
  | case5 => simp at h
  | case6 brackets s s₁ hb hlt s₂ hr hlt' ih =>
    have hclose : Members true s₁ [] s₂ := .ended (blanks_of_dropBlanks hr)
    exact ⟨_, _, _, blanks_of_dropBlanks hb, .object hclose, ih h⟩
  | case7 => simp at h
  | case8 brackets s s₁ hb hlt s₃ hk hlt' hnil hclosed ih =>
    obtain ⟨s₄, key, s₅, hb', hkey, hc⟩ := exists_of_skipKey hk
    obtain ⟨s₆, t, s₇, hb'', ht, ms, s₈, hms, hclose⟩ := ih h
    have hms : Members true s₁ ((key, t) :: ms) s₈ := .more hb' hkey hc hb'' ht hms
    exact ⟨_, _, _, blanks_of_dropBlanks hb, .object hms, hclose⟩
  | case9 => simp at h
  | case10 brackets s c s₁ hlist hobject hb hlt s₂ hs hlt' ih =>
    obtain ⟨t, ht⟩ := exists_of_skipScalar hs
    exact ⟨_, t, _, blanks_of_dropBlanks hb, ht, ih h⟩
  | case11 => exact Except.ok.inj h
  | case12 => simp at h
  | case13 s outer s₁ hb hlt ih =>
    obtain ⟨s₂, t, s₃, hb', ht, ts, s₄, hts, hclose⟩ := ih h
    exact ⟨t :: ts, s₄, .more ⟨s₁, blanks_of_dropBlanks hb, hb'⟩ ht hts, hclose⟩
  | case14 s outer s₁ hb hlt ih => exact ⟨[], s₁, .ended (blanks_of_dropBlanks hb), ih h⟩
  | case15 => simp at h
  | case16 => simp at h
  | case17 => simp at h
  | case18 s outer s₁ hb hlt s₂ hk hlt' ih =>
    obtain ⟨s₃, key, s₄, hb', hkey, hc⟩ := exists_of_skipKey hk
    obtain ⟨s₅, t, s₆, hb'', ht, ms, s₇, hms, hclose⟩ := ih h
    exact ⟨(key, t) :: ms, s₇, .more ⟨s₁, blanks_of_dropBlanks hb, hb'⟩ hkey hc hb'' ht hms,
      hclose⟩
  | case19 s outer s₁ hb hlt ih => exact ⟨[], s₁, .ended (blanks_of_dropBlanks hb), ih h⟩
  | case20 => simp at h

/-- **A value is passed over only if it is one of the grammar.** -/
theorem exists_of_skipValue {s r : List Char} (h : skipValue s = .ok r) :
    ∃ s₁ t, Blanks s s₁ ∧ Value s₁ t r := by
  obtain ⟨s₁, t, s₂, hb, ht, rfl⟩ := ahead_of_skipFrom h
  exact ⟨s₁, t, hb, ht⟩

/-! ### Values are passed over -/

theorem Lead.dropBlanks {s s₁ : List Char} (h : Lead false s s₁) :
    ∃ s₂, dropBlanks s = ',' :: s₂ ∧ Blanks s₂ s₁ := by
  obtain ⟨s₂, hb, hb'⟩ := h
  exact ⟨s₂, dropBlanks_eq_cons hb (by decide), hb'⟩

theorem endsNumber_of_lead {s s₁ : List Char} (h : Lead false s s₁) : EndsNumber s := by
  obtain ⟨s₂, hb, -⟩ := h
  exact endsNumber_of_blanks hb (by simp [EndsNumber])

theorem endsNumber_of_elements {s r : List Char} {ts : List Tree} (h : Elements false s ts r) :
    EndsNumber s := by
  cases h with
  | ended hb => exact endsNumber_of_blanks hb (by simp [EndsNumber])
  | more hlead => exact endsNumber_of_lead hlead

theorem endsNumber_of_members {s r : List Char} {ms : List (List Atom × Tree)}
    (h : Members false s ms r) : EndsNumber s := by
  cases h with
  | ended hb => exact endsNumber_of_blanks hb (by simp [EndsNumber])
  | more hlead => exact endsNumber_of_lead hlead

/-! #### Single steps -/

/-- What comes next where a value begins, without the lengths that `skipFrom` keeps. -/
theorem skipFrom_value_eq (brackets : List Bracket) (s : List Char) :
    skipFrom .value brackets s =
      match dropBlanks s with
      | [] => .error (.cutOff .value)
      | '[' :: r =>
        match dropBlanks r with
        | [] => .error (.cutOff .list)
        | ']' :: r' => skipFrom .behind brackets r'
        | _ => skipFrom .value (.list :: brackets) r
      | '{' :: r =>
        match dropBlanks r with
        | [] => .error (.cutOff .object)
        | '}' :: r' => skipFrom .behind brackets r'
        | _ =>
          match skipKey r with
          | .error fault => .error fault
          | .ok r' => skipFrom .value (.object :: brackets) r'
      | c :: r =>
        match skipScalar c r with
        | .error fault => .error fault
        | .ok r' => skipFrom .behind brackets r' := by
  conv => lhs; rw [skipFrom]
  split
  · simp_all
  · rename_i hb
    simp only [hb]
    split <;> simp_all
  · rename_i hb
    simp only [hb]
    split
    · simp_all
    · simp_all
    · split <;> simp_all
  · rename_i hb
    simp only [hb]
    split <;> simp_all

/-- What comes next behind a value. -/
theorem skipFrom_behind_eq (brackets : List Bracket) (s : List Char) :
    skipFrom .behind brackets s =
      match brackets with
      | [] => .ok s
      | .list :: outer =>
        match dropBlanks s with
        | [] => .error (.cutOff .list)
        | ',' :: r => skipFrom .value (.list :: outer) r
        | ']' :: r => skipFrom .behind outer r
        | _ => .error (.malformed .expectedListEnd)
      | .object :: outer =>
        match dropBlanks s with
        | [] => .error (.cutOff .object)
        | ',' :: r =>
          match skipKey r with
          | .error fault => .error fault
          | .ok r' => skipFrom .value (.object :: outer) r'
        | '}' :: r => skipFrom .behind outer r
        | _ => .error (.malformed .expectedObjectEnd) := by
  rcases brackets with _ | ⟨_ | _, outer⟩
  · rw [skipFrom]
  · conv => lhs; rw [skipFrom]
    split <;> simp_all
  · conv => lhs; rw [skipFrom]
    split
    · simp_all
    · rename_i hb
      simp only [hb]
      split <;> simp_all
    · simp_all
    · simp_all

section

variable {brackets : List Bracket} {s s₁ s₂ r : List Char}

theorem skipFrom_scalar {c : Char} (hb : dropBlanks s = c :: s₁) (hlist : c ≠ '[')
    (hobject : c ≠ '{') (hs : skipScalar c s₁ = .ok r) :
    skipFrom .value brackets s = skipFrom .behind brackets r := by
  rw [skipFrom_value_eq, hb]
  simp [hs]

theorem skipFrom_list_ended (hb : dropBlanks s = '[' :: s₁) (hr : dropBlanks s₁ = ']' :: r) :
    skipFrom .value brackets s = skipFrom .behind brackets r := by
  simp only [skipFrom_value_eq, hb, hr]

theorem skipFrom_list {c : Char} (hb : dropBlanks s = '[' :: s₁) (hr : dropBlanks s₁ = c :: s₂)
    (hc : c ≠ ']') : skipFrom .value brackets s = skipFrom .value (.list :: brackets) s₁ := by
  rw [skipFrom_value_eq, hb]
  simp [hr, hc]

theorem skipFrom_object_ended (hb : dropBlanks s = '{' :: s₁) (hr : dropBlanks s₁ = '}' :: r) :
    skipFrom .value brackets s = skipFrom .behind brackets r := by
  simp only [skipFrom_value_eq, hb, hr]

theorem skipFrom_object (hb : dropBlanks s = '{' :: s₁) (hr : dropBlanks s₁ = '"' :: s₂)
    (hk : skipKey s₁ = .ok r) :
    skipFrom .value brackets s = skipFrom .value (.object :: brackets) r := by
  rw [skipFrom_value_eq, hb]
  simp [hr, hk]

theorem skipFrom_next_element (hb : dropBlanks s = ',' :: s₁) :
    skipFrom .behind (.list :: brackets) s = skipFrom .value (.list :: brackets) s₁ := by
  rw [skipFrom_behind_eq]
  simp only [hb]

theorem skipFrom_elements_ended (hb : dropBlanks s = ']' :: r) :
    skipFrom .behind (.list :: brackets) s = skipFrom .behind brackets r := by
  rw [skipFrom_behind_eq]
  simp only [hb]

theorem skipFrom_next_member (hb : dropBlanks s = ',' :: s₁) (hk : skipKey s₁ = .ok r) :
    skipFrom .behind (.object :: brackets) s = skipFrom .value (.object :: brackets) r := by
  rw [skipFrom_behind_eq]
  simp only [hb, hk]

theorem skipFrom_members_ended (hb : dropBlanks s = '}' :: r) :
    skipFrom .behind (.object :: brackets) s = skipFrom .behind brackets r := by
  rw [skipFrom_behind_eq]
  simp only [hb]

end

/-! #### Whole values -/

mutual

theorem skipFrom_value {brackets : List Bracket} {s₀ s r : List Char} {t : Tree}
    (hb : Blanks s₀ s) (h : Value s t r) (hr : EndsNumber r) :
    skipFrom .value brackets s₀ = skipFrom .behind brackets r := by
  have hdrop := dropBlanks_of_value hb h
  cases h with
  | null | true | false =>
    exact skipFrom_scalar hdrop (by decide) (by decide) (readLiteral_eq_ok_iff.2 rfl)
  | @number text _ hn =>
    obtain ⟨c, s₁, rfl, hc⟩ := Number.head_of_isNumber hn
    refine skipFrom_scalar hdrop ?_ ?_ (skipScalar_of_isNumber hn hr) <;>
    · rintro rfl
      simp at hc
  | string ha =>
    exact skipFrom_scalar hdrop (by decide) (by decide) (skipString_eq_ok_iff.2 ⟨_, ha⟩)
  | list h => exact skipFrom_elements_first hdrop h
  | object h => exact skipFrom_members_first hdrop h

theorem skipFrom_elements_first {brackets : List Bracket} {s₀ s r : List Char} {ts : List Tree}
    (hb : dropBlanks s₀ = '[' :: s) (h : Elements true s ts r) :
    skipFrom .value brackets s₀ = skipFrom .behind brackets r := by
  cases h with
  | ended hclose => exact skipFrom_list_ended hb (dropBlanks_eq_cons hclose (by decide))
  | more hlead ht hts =>
    obtain ⟨c, s₂, rfl, hc⟩ := ht.head
    obtain ⟨hblank, -, hne, -⟩ := ne_of_beginsValue hc
    rw [skipFrom_list hb (dropBlanks_eq_cons hlead hblank) hne,
      skipFrom_value hlead ht (endsNumber_of_elements hts), skipFrom_elements hts]

theorem skipFrom_elements {brackets : List Bracket} {s r : List Char} {ts : List Tree}
    (h : Elements false s ts r) :
    skipFrom .behind (.list :: brackets) s = skipFrom .behind brackets r := by
  cases h with
  | ended hclose => exact skipFrom_elements_ended (dropBlanks_eq_cons hclose (by decide))
  | more hlead ht hts =>
    obtain ⟨s₂, hcomma, hb⟩ := hlead.dropBlanks
    rw [skipFrom_next_element hcomma, skipFrom_value hb ht (endsNumber_of_elements hts),
      skipFrom_elements hts]

theorem skipFrom_members_first {brackets : List Bracket} {s₀ s r : List Char}
    {ms : List (List Atom × Tree)} (hb : dropBlanks s₀ = '{' :: s) (h : Members true s ms r) :
    skipFrom .value brackets s₀ = skipFrom .behind brackets r := by
  cases h with
  | ended hclose => exact skipFrom_object_ended hb (dropBlanks_eq_cons hclose (by decide))
  | more hlead hkey hcolon hb' ht hms =>
    have hk := skipKey_of_atoms hlead hkey hcolon
    rw [skipFrom_object hb (dropBlanks_eq_cons hlead (by decide)) hk,
      skipFrom_value hb' ht (endsNumber_of_members hms), skipFrom_members hms]

theorem skipFrom_members {brackets : List Bracket} {s r : List Char}
    {ms : List (List Atom × Tree)} (h : Members false s ms r) :
    skipFrom .behind (.object :: brackets) s = skipFrom .behind brackets r := by
  cases h with
  | ended hclose => exact skipFrom_members_ended (dropBlanks_eq_cons hclose (by decide))
  | more hlead hkey hcolon hb' ht hms =>
    obtain ⟨s₂, hcomma, hb⟩ := hlead.dropBlanks
    rw [skipFrom_next_member hcomma (skipKey_of_atoms hb hkey hcolon),
      skipFrom_value hb' ht (endsNumber_of_members hms), skipFrom_members hms]

end

/-- **A value of the grammar is passed over** where no number goes on behind it. -/
theorem skipValue_of_value {s s₁ r : List Char} {t : Tree} (hb : Blanks s s₁) (h : Value s₁ t r)
    (hr : EndsNumber r) : skipValue s = .ok r := by
  rw [skipValue, skipFrom_value hb h hr, skipFrom]

end RestClient.Json
