import RestClient.Json.Format
import RestClient.Proofs.Json.Printing
import RestClient.Proofs.Json.Skip

/-! # Formats and trees

A format reads a value while it goes through the text, and stops at the first thing that does not
fit. Here the same is said in two stages: the text spells a tree, and the tree means the value.
`Format.Decodes` relates a format to the meaning of trees; each of the formats that are no records
has a lemma of its own, which follows its reader.

* `Format.Decodes` and the lemmas `decodes_text`, `decodes_flag`, `decodes_choice`,
  `Format.Decodes.optional` and `Format.Decodes.list`;
* `Format.Decodes.readAll_eq_ok_iff`: a whole text is read as a value if and only if it spells a
  tree that means the value. -/

namespace RestClient.Json

/-! ### What trees mean -/

/-- The text that a string stands for. -/
def string? (as : List Atom) : Option String := (characters? as).map String.ofList

/-- The text that a tree stands for. -/
def text? : Tree → Option String
  | .string as => string? as
  | _ => none

/-- The boolean that a tree stands for. -/
def flag? : Tree → Option Bool
  | .boolean b => some b
  | _ => none

/-- The named value that a tree stands for: its name, or the name as the only key of an object, with
`null` as the value. -/
def choice? {α : Type} (ofName? : String → Option α) : Tree → Option α
  | .string as => (string? as).bind ofName?
  | .object [(key, .null)] => (string? key).bind ofName?
  | _ => none

/-- The value that a tree stands for, none if it is `null`. -/
def optional? {α : Type} (decode : Tree → Option α) : Tree → Option (Option α)
  | .null => some none
  | t => (decode t).map some

/-- The list that a tree stands for. -/
def list? {α : Type} (decode : Tree → Option α) : Tree → Option (List α)
  | .list ts => ts.mapM decode
  | _ => none

/-- **A format reads the spellings of the trees that mean something**, as what they mean, and
nothing else; and what it writes for a value is the spelling of a tree that means it. -/
structure Format.Decodes {α : Type} (format : Format α) (decode : Tree → Option α) : Prop where
  /-- What is read is the spelling of a tree that means it. -/
  sound : ∀ {s r : List Char} {a : α}, format.read s = .ok (a, r) →
    ∃ s₁ t, Blanks s s₁ ∧ Value s₁ t r ∧ decode t = some a
  /-- The spelling of a tree is read as what the tree means. -/
  complete : ∀ {s s₁ r : List Char} {t : Tree} {a : α}, Blanks s s₁ → Value s₁ t r →
    decode t = some a → format.read s = .ok (a, r)
  /-- What is written is the spelling of a tree that means it. -/
  printed : ∀ a : α, ∃ t, Spells (format.print a) t ∧ decode t = some a

/-! ### Single values -/

theorem exists_of_readText {expected : Expected} {s r : List Char} {a : String}
    (h : readText expected s = .ok (a, r)) :
    ∃ s₁ t, Blanks s s₁ ∧ Value s₁ t r ∧ text? t = some a := by
  unfold readText at h
  split at h
  · rename_i hb
    split at h
    · simp at h
    · rename_i hr
      obtain ⟨rfl, rfl⟩ := Prod.mk.inj (Except.ok.inj h)
      obtain ⟨as, ha, hcs⟩ := readString_eq_ok_iff.1 hr
      exact ⟨_, .string as, blanks_of_dropBlanks hb, .string ha, by simp [text?, string?, hcs]⟩
  · simp at h

theorem readText_of_value {expected : Expected} {s s₁ r : List Char} {t : Tree} {a : String}
    (hb : Blanks s s₁) (ht : Value s₁ t r) (ha : text? t = some a) :
    readText expected s = .ok (a, r) := by
  cases ht with
  | string hstring =>
    obtain ⟨cs, hcs, rfl⟩ := Option.map_eq_some_iff.1 ha
    simp only [readText, dropBlanks_eq_cons hb (by decide),
      readString_eq_ok_iff.2 ⟨_, hstring, hcs⟩]
  | _ => simp [text?] at ha

theorem exists_string?_of_print (s : String) :
    ∃ as, Spells (printString s.toList) (.string as) ∧ string? as = some s := by
  obtain ⟨as, hs, hcs⟩ := exists_spells_printString s.toList
  exact ⟨as, hs, by rw [string?, hcs, Option.map_some, String.ofList_toList]⟩

theorem decodes_text : Format.text.Decodes text? := by
  refine ⟨exists_of_readText, readText_of_value, fun s => ?_⟩
  obtain ⟨as, hs, hstring⟩ := exists_string?_of_print s
  exact ⟨.string as, hs, hstring⟩

theorem exists_of_readFlag {s r : List Char} {b : Bool} (h : readFlag s = .ok (b, r)) :
    ∃ s₁ t, Blanks s s₁ ∧ Value s₁ t r ∧ flag? t = some b := by
  unfold readFlag at h
  split at h
  · rename_i hb
    split at h
    · simp at h
    · rename_i hr
      obtain ⟨rfl, rfl⟩ := Prod.mk.inj (Except.ok.inj h)
      obtain rfl := readLiteral_eq_ok_iff.1 hr
      exact ⟨_, .boolean true, blanks_of_dropBlanks hb, .true, rfl⟩
  · rename_i hb
    split at h
    · simp at h
    · rename_i hr
      obtain ⟨rfl, rfl⟩ := Prod.mk.inj (Except.ok.inj h)
      obtain rfl := readLiteral_eq_ok_iff.1 hr
      exact ⟨_, .boolean false, blanks_of_dropBlanks hb, .false, rfl⟩
  · simp at h

theorem readFlag_of_value {s s₁ r : List Char} {t : Tree} {b : Bool} (hb : Blanks s s₁)
    (ht : Value s₁ t r) (hflag : flag? t = some b) : readFlag s = .ok (b, r) := by
  cases ht with
  | true | false =>
    obtain rfl := Option.some.inj hflag
    simp [readFlag, dropBlanks_eq_cons hb (by decide), readLiteral]
  | _ => simp [flag?] at hflag

theorem decodes_flag : Format.flag.Decodes flag? := by
  refine ⟨exists_of_readFlag, readFlag_of_value, fun b => ⟨.boolean b, fun r => ?_, rfl⟩⟩
  cases b with
  | false => exact .false
  | true => exact .true

/-! ### Choices -/

section

variable {α : Type} {known : List String} {ofName? : String → Option α} {s r : List Char} {a : α}

theorem readName_eq_ok_iff :
    readName known ofName? s = .ok (a, r) ↔
      ∃ as, Atoms s as r ∧ (string? as).bind ofName? = some a := by
  constructor
  · intro h
    unfold readName at h
    split at h
    · simp at h
    · rename_i hr
      split at h
      · rename_i hname
        obtain ⟨rfl, rfl⟩ := Prod.mk.inj (Except.ok.inj h)
        obtain ⟨as, ha, hcs⟩ := readString_eq_ok_iff.1 hr
        exact ⟨as, ha, by simp [string?, hcs, hname]⟩
      · simp at h
  · rintro ⟨as, ha, hname⟩
    obtain ⟨name, hstring, hname⟩ := Option.bind_eq_some_iff.1 hname
    obtain ⟨cs, hcs, rfl⟩ := Option.map_eq_some_iff.1 hstring
    simp only [readName, readString_eq_ok_iff.2 ⟨as, ha, hcs⟩, hname]

theorem exists_of_readChosenKey (h : readChosenKey known ofName? s = .ok (a, r)) :
    ∃ s₁ key, Blanks s ('"' :: s₁) ∧ Atoms s₁ key r ∧ (string? key).bind ofName? = some a := by
  unfold readChosenKey at h
  split at h
  · simp at h
  · rename_i hb
    obtain ⟨key, hkey, hname⟩ := readName_eq_ok_iff.1 h
    exact ⟨_, key, blanks_of_dropBlanks hb, hkey, hname⟩
  · simp at h
  · simp at h

theorem readChosenKey_of_atoms {s₁ : List Char} {key : List Atom} (hb : Blanks s ('"' :: s₁))
    (hkey : Atoms s₁ key r) (ha : (string? key).bind ofName? = some a) :
    readChosenKey known ofName? s = .ok (a, r) := by
  simp only [readChosenKey, dropBlanks_eq_cons hb (by decide)]
  exact readName_eq_ok_iff.2 ⟨key, hkey, ha⟩

theorem exists_of_readUnit (h : readUnit s = .ok r) : ∃ s₁, Blanks s s₁ ∧ Value s₁ .null r := by
  unfold readUnit at h
  split at h
  · rename_i hb
    obtain rfl := readLiteral_eq_ok_iff.1 h
    exact ⟨_, blanks_of_dropBlanks hb, .null⟩
  · simp at h

theorem readUnit_of_value {s₁ : List Char} (hb : Blanks s s₁) (ht : Value s₁ .null r) :
    readUnit s = .ok r := by
  cases ht
  simp only [readUnit, dropBlanks_eq_cons hb (by decide)]
  exact readLiteral_eq_ok_iff.2 rfl

theorem exists_of_readChoiceEnd (h : readChoiceEnd s = .ok r) : Blanks s ('}' :: r) := by
  unfold readChoiceEnd at h
  split at h
  · simp at h
  · rename_i hb
    obtain rfl := Except.ok.inj h
    exact blanks_of_dropBlanks hb
  · simp at h

theorem readChoiceEnd_of_blanks (h : Blanks s ('}' :: r)) : readChoiceEnd s = .ok r := by
  simp only [readChoiceEnd, dropBlanks_eq_cons h (by decide)]

theorem exists_of_readChoice (h : readChoice known ofName? s = .ok (a, r)) :
    ∃ s₁ t, Blanks s s₁ ∧ Value s₁ t r ∧ choice? ofName? t = some a := by
  unfold readChoice at h
  split at h
  · simp at h
  · rename_i hb
    obtain ⟨as, ha, hname⟩ := readName_eq_ok_iff.1 h
    exact ⟨_, .string as, blanks_of_dropBlanks hb, .string ha, hname⟩
  · rename_i hb
    split at h
    · simp at h
    rename_i hkey
    split at h
    · simp at h
    rename_i hcolon
    split at h
    · simp at h
    rename_i hnull
    split at h
    · simp at h
    rename_i hclose
    obtain ⟨rfl, rfl⟩ := Prod.mk.inj (Except.ok.inj h)
    obtain ⟨s₁, key, hb', hkey, hname⟩ := exists_of_readChosenKey hkey
    obtain ⟨s₂, hb'', hnull⟩ := exists_of_readUnit hnull
    have hend := @Members.ended false _ _ (exists_of_readChoiceEnd hclose)
    exact ⟨_, .object [(key, .null)], blanks_of_dropBlanks hb,
      .object (.more hb' hkey (exists_of_readColon hcolon) hb'' hnull hend), hname⟩
  · simp at h

theorem readChoice_of_value {s₁ : List Char} {t : Tree} (hb : Blanks s s₁) (ht : Value s₁ t r)
    (ha : choice? ofName? t = some a) : readChoice known ofName? s = .ok (a, r) := by
  unfold choice? at ha
  split at ha
  · cases ht with
    | string hstring =>
      simp only [readChoice, dropBlanks_eq_cons hb (by decide)]
      exact readName_eq_ok_iff.2 ⟨_, hstring, ha⟩
  · cases ht with
    | object hms =>
      cases hms with
      | more hlead hkey hcolon hb' hnull hms =>
        cases hms with
        | ended hclose =>
          simp only [readChoice, dropBlanks_eq_cons hb (by decide),
            readChosenKey_of_atoms hlead hkey ha, readColon_of_blanks hcolon,
            readUnit_of_value hb' hnull, readChoiceEnd_of_blanks hclose]
  · simp at ha

/-- **A choice means the value of its name**, if every value is found by its own name. -/
theorem decodes_choice {name : α → String} (hname : ∀ a, ofName? (name a) = some a) :
    (Format.choice known ofName? name).Decodes (choice? ofName?) := by
  refine ⟨exists_of_readChoice, readChoice_of_value, fun a => ?_⟩
  obtain ⟨as, hs, hstring⟩ := exists_string?_of_print (name a)
  exact ⟨.string as, hs, by rw [choice?, hstring, Option.bind_some, hname]⟩

end

/-! ### Optional values -/

theorem eq_null_of_value {s r : List Char} {t : Tree} (h : Value ('n' :: s) t r) :
    t = .null ∧ s = ['u', 'l', 'l'] ++ r := by
  generalize hs : 'n' :: s = s₁ at h
  cases h with
  | null => exact ⟨rfl, (List.cons.inj hs).2⟩
  | number hn =>
    obtain ⟨c, s₂, rfl, hc⟩ := Number.head_of_isNumber hn
    obtain ⟨rfl, -⟩ := List.cons.inj hs
    simp at hc
  | _ => simp at hs

theorem optional?_of_ne_null {α : Type} {decode : Tree → Option α} {t : Tree} (h : t ≠ .null) :
    optional? decode t = (decode t).map some := by
  cases t with
  | null => exact absurd rfl h
  | _ => rfl

section

variable {α : Type} {format : Format α} {decode : Tree → Option α} {s r : List Char} {a : Option α}

theorem exists_of_readOptional (hf : format.Decodes decode) (hnull : decode .null = none)
    (h : readOptional format s = .ok (a, r)) :
    ∃ s₁ t, Blanks s s₁ ∧ Value s₁ t r ∧ optional? decode t = some a := by
  unfold readOptional at h
  split at h
  · rename_i hb
    split at h
    · simp at h
    · rename_i hr
      obtain ⟨rfl, rfl⟩ := Prod.mk.inj (Except.ok.inj h)
      obtain rfl := readLiteral_eq_ok_iff.1 hr
      exact ⟨_, .null, blanks_of_dropBlanks hb, .null, rfl⟩
  · split at h
    · simp at h
    · rename_i hr
      obtain ⟨rfl, rfl⟩ := Prod.mk.inj (Except.ok.inj h)
      obtain ⟨s₁, t, hb, ht, ha⟩ := hf.sound hr
      have hne : t ≠ .null := by
        rintro rfl
        simp [hnull] at ha
      exact ⟨s₁, t, (blanks_dropBlanks s).trans hb, ht, by rw [optional?_of_ne_null hne, ha]; rfl⟩

theorem readOptional_of_value {s₁ : List Char} {t : Tree} (hf : format.Decodes decode)
    (hb : Blanks s s₁) (ht : Value s₁ t r) (ha : optional? decode t = some a) :
    readOptional format s = .ok (a, r) := by
  unfold readOptional
  rw [dropBlanks_of_value hb ht]
  split
  · obtain ⟨rfl, hr⟩ := eq_null_of_value ht
    obtain rfl := Option.some.inj ha
    rw [readLiteral_eq_ok_iff.2 hr]
  · rename_i hother
    have hne : t ≠ .null := by
      rintro rfl
      cases ht
      exact hother _ rfl
    rw [optional?_of_ne_null hne] at ha
    obtain ⟨a', ha', rfl⟩ := Option.map_eq_some_iff.1 ha
    rw [hf.complete .none ht ha']

/-- **A format with `null` for no value** means what the format means, if `null` means nothing
there. -/
theorem Format.Decodes.optional (hf : format.Decodes decode) (hnull : decode .null = none) :
    format.optional.Decodes (optional? decode) := by
  refine ⟨exists_of_readOptional hf hnull, readOptional_of_value hf, fun a => ?_⟩
  cases a with
  | none => exact ⟨.null, fun r => .null, rfl⟩
  | some a =>
    obtain ⟨t, ht, ha⟩ := hf.printed a
    have hne : t ≠ .null := by
      rintro rfl
      simp [hnull] at ha
    exact ⟨t, ht, by rw [optional?_of_ne_null hne, ha]; rfl⟩

end

/-! ### Lists -/

theorem Lead.trans {first : Bool} {s s₁ s₂ : List Char} (h : Lead first s s₁)
    (hb : Blanks s₁ s₂) : Lead first s s₂ := by
  cases first with
  | true => exact Blanks.trans h hb
  | false =>
    obtain ⟨s₃, hcomma, hb'⟩ := h
    exact ⟨s₃, hcomma, hb'.trans hb⟩

theorem lead_of_nextElement {first : Bool} {s r : List Char}
    (h : nextElement first s = .ok (.element r)) : Lead first s r := by
  unfold nextElement at h
  split at h
  · simp at h
  · simp at h
  · rename_i hb
    split at h
    · rename_i hfirst
      obtain rfl := NextElement.element.inj (Except.ok.inj h)
      subst hfirst
      exact blanks_of_dropBlanks hb
    · rename_i hfirst
      rw [Bool.not_eq_true] at hfirst
      subst hfirst
      split at h
      · rename_i hcomma
        subst hcomma
        split at h
        · simp at h
        · simp at h
        · obtain rfl := NextElement.element.inj (Except.ok.inj h)
          exact ⟨_, blanks_of_dropBlanks hb, blanks_dropBlanks _⟩
      · simp at h

theorem blanks_of_nextElement {first : Bool} {s r : List Char}
    (h : nextElement first s = .ok (.ended r)) : Blanks s (']' :: r) := by
  unfold nextElement at h
  split at h
  · simp at h
  · rename_i hb
    obtain rfl := NextElement.ended.inj (Except.ok.inj h)
    exact blanks_of_dropBlanks hb
  · split at h
    · simp at h
    · split at h
      · split at h <;> simp at h
      · simp at h

theorem nextElement_of_lead {first : Bool} {s s₁ r : List Char} {t : Tree}
    (h : Lead first s s₁) (ht : Value s₁ t r) : nextElement first s = .ok (.element s₁) := by
  obtain ⟨c, s₂, rfl, hc⟩ := ht.head
  obtain ⟨hblank, -, hclose, -⟩ := ne_of_beginsValue hc
  cases first with
  | true => simp [nextElement, dropBlanks_eq_cons h hblank]
  | false =>
    obtain ⟨s₃, hcomma, hb⟩ := h
    simp only [nextElement, dropBlanks_eq_cons hcomma (by decide), Char.reduceEq, imp_self,
      Bool.false_eq_true, ↓reduceIte, dropBlanks_eq_cons hb hblank]
    split <;> simp_all

theorem nextElement_of_blanks {first : Bool} {s r : List Char} (h : Blanks s (']' :: r)) :
    nextElement first s = .ok (.ended r) := by
  simp only [nextElement, dropBlanks_eq_cons h (by decide)]

theorem exists_of_readElements {α : Type} {format : Format α} {decode : Tree → Option α}
    (hf : format.Decodes decode) {first : Bool} {s r : List Char} {as : List α}
    (h : readElements format first s = .ok (as, r)) :
    ∃ ts, Elements first s ts r ∧ ts.mapM decode = some as := by
  fun_induction readElements format first s generalizing as r with
  | case1 => simp at h
  | case2 first s r' hn =>
    obtain ⟨rfl, rfl⟩ := Prod.mk.inj (Except.ok.inj h)
    exact ⟨[], .ended (blanks_of_nextElement hn), rfl⟩
  | case3 => simp at h
  | case4 => simp at h
  | case5 first s s₁ hn a s₂ ha hle hlt as' r' hr ih =>
    obtain ⟨rfl, rfl⟩ := Prod.mk.inj (Except.ok.inj h)
    obtain ⟨s₃, t, hb, ht, hdecode⟩ := hf.sound ha
    obtain ⟨ts, hts, hdecodes⟩ := ih hr
    exact ⟨t :: ts, .more ((lead_of_nextElement hn).trans hb) ht hts,
      by simp [hdecode, hdecodes]⟩

theorem readElements_of_elements {α : Type} {format : Format α} {decode : Tree → Option α}
    (hf : format.Decodes decode) {first : Bool} {s r : List Char} {ts : List Tree} {as : List α}
    (h : Elements first s ts r) (has : ts.mapM decode = some as) :
    readElements format first s = .ok (as, r) := by
  induction ts generalizing first s as with
  | nil =>
    cases h with
    | ended hclose =>
      obtain rfl := Option.some.inj has
      have hn : nextElement first s = .ok (.ended r) := nextElement_of_blanks hclose
      rw [readElements]
      split <;> simp_all
  | cons t ts ih =>
    cases h with
    | more hlead ht hts =>
      rw [List.mapM_cons] at has
      obtain ⟨a, ha, has⟩ := Option.bind_eq_some_iff.1 has
      obtain ⟨as', has', heq⟩ := Option.bind_eq_some_iff.1 has
      obtain rfl := Option.some.inj heq
      have hn := nextElement_of_lead hlead ht
      have hread := hf.complete .none ht ha
      have := ih hts has'
      rw [readElements]
      split <;> simp_all
      split <;> simp_all

theorem exists_spells_list {α : Type} {format : Format α} {decode : Tree → Option α}
    (hf : format.Decodes decode) (as : List α) :
    ∃ ts, List.Forall₂ Spells (as.map format.print) ts ∧ ts.mapM decode = some as := by
  induction as with
  | nil => exact ⟨[], .nil, rfl⟩
  | cons a as ih =>
    obtain ⟨t, ht, ha⟩ := hf.printed a
    obtain ⟨ts, hts, has⟩ := ih
    exact ⟨t :: ts, .cons ht hts, by simp [ha, has]⟩

/-- **A list means the list of what its elements mean.** -/
theorem Format.Decodes.list {α : Type} {format : Format α} {decode : Tree → Option α}
    (hf : format.Decodes decode) : (Format.list format).Decodes (list? decode) where
  sound {s r as} h := by
    change readList format s = _ at h
    unfold readList at h
    split at h
    · rename_i hb
      obtain ⟨ts, hts, has⟩ := exists_of_readElements hf h
      exact ⟨_, .list ts, blanks_of_dropBlanks hb, .list hts, has⟩
    · simp at h
  complete {s s₁ r t as} hb ht has := by
    change readList format s = _
    cases ht with
    | list hts =>
      simp only [readList, dropBlanks_eq_cons hb (by decide)]
      exact readElements_of_elements hf hts has
    | _ => simp [list?] at has
  printed as := by
    obtain ⟨ts, hts, has⟩ := exists_spells_list hf as
    exact ⟨.list ts, spells_elements hts, has⟩

/-! ### Whole texts -/

theorem dropBlanks_eq_nil_iff {s : List Char} : dropBlanks s = [] ↔ Blanks s [] :=
  ⟨blanks_of_dropBlanks, fun h => dropBlanks_of_blanks h⟩

/-- **A whole text is read as a value if and only if it spells a tree that means the value.** -/
theorem Format.Decodes.readAll_eq_ok_iff {α : Type} {format : Format α} {decode : Tree → Option α}
    (h : format.Decodes decode) {s : List Char} {a : α} :
    format.readAll s = .ok a ↔ ∃ t, IsText s t ∧ decode t = some a := by
  constructor
  · intro hread
    unfold Format.readAll at hread
    split at hread
    · simp at hread
    · rename_i hr
      split at hread
      · rename_i hend
        obtain rfl := Except.ok.inj hread
        obtain ⟨s₁, t, hb, ht, ha⟩ := h.sound hr
        exact ⟨t, ⟨s₁, _, hb, ht, dropBlanks_eq_nil_iff.1 hend⟩, ha⟩
      · simp at hread
  · rintro ⟨t, ⟨s₁, s₂, hb, ht, hend⟩, ha⟩
    rw [Format.readAll, h.complete hb ht ha]
    simp only [dropBlanks_eq_nil_iff.2 hend]

/-- **A value that is written is read again.** -/
theorem Format.Decodes.readAll_print {α : Type} {format : Format α} {decode : Tree → Option α}
    (h : format.Decodes decode) (a : α) : format.readAll (format.print a) = .ok a := by
  obtain ⟨t, ht, ha⟩ := h.printed a
  have ht := ht []
  rw [List.append_nil] at ht
  exact h.readAll_eq_ok_iff.2 ⟨t, ⟨_, [], .none, ht, .none⟩, ha⟩

end RestClient.Json
