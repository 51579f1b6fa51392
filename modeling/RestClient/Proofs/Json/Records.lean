import RestClient.Json.Record
import RestClient.Proofs.Json.Decoding

/-! # Records and trees

A record is read member by member, into slots that are filled as their keys come up. What its tree
means does not depend on that order: `fields?` finds for every key the one value that it has, and
`Fields.assemble` puts the values together. The two agree since a slot that is filled is a key that
has been found, which `Fields.gather` says for slots and members at once: it is what the record
becomes when some of its slots are full and the given members are still to come.

* `gather_put`: a member that comes up may be put into its slot or left among those to come;
* `decodes_record` and `decodes_record_of_fields`: the format of a record against the meaning of
  its trees. -/

namespace RestClient.Json

/-! ### What the trees of records mean -/

/-- The members of an object with their keys read, if all of them can be. -/
def members? (ms : List (List Atom × Tree)) : Option (List (String × Tree)) :=
  ms.mapM fun (key, t) => (string? key).map (·, t)

/-- The value of a key, none if it does not occur; it must not occur twice. -/
def only? (ms : List (String × Tree)) (key : String) : Option (Option Tree) :=
  match ms.filter (·.1 = key) with
  | [] => some none
  | [(_, t)] => some (some t)
  | _ => none

/-- The values in a list of fields with the given keys, none for those behind the end of the
list. -/
def inOrder? : List String → List Tree → Option (List (Option Tree))
  | [], [] => some []
  | [], _ :: _ => none
  | _ :: keys, [] => (inOrder? keys []).map (none :: ·)
  | _ :: keys, t :: ts => (inOrder? keys ts).map (some t :: ·)

/-- The values of the fields with the given keys, none for those that are missing. An object has
them in any order and may have other keys; a list has them in their order, up to one of them. -/
def fields? (keys : List String) : Tree → Option (List (Option Tree))
  | .object ms => (members? ms).bind fun ms => keys.mapM (only? ms)
  | .list ts => inOrder? keys ts
  | _ => none

/-- The value of a field that must be there. -/
def required? {α : Type} (decode : Tree → Option α) (t : Option Tree) : Option α := t.bind decode

/-- The value of a field that means something else if it is missing. -/
def defaulted? {α : Type} (a : α) (decode : Tree → Option α) : Option Tree → Option α
  | none => some a
  | some t => decode t

namespace Fields

/-- The keys of fields. -/
def keys : {β : Type} → Fields β → List String
  | _, .done => []
  | _, .field key _ _ rest => key :: rest.keys

/-- What the trees of each field mean. -/
@[reducible]
def Meanings : {β : Type} → Fields β → Type
  | _, .done => Unit
  | _, @field α _ _ _ _ rest => (Tree → Option α) × Meanings rest

/-- The formats of all fields read what their trees mean. -/
def Decode : {β : Type} → (fs : Fields β) → fs.Meanings → Prop
  | _, .done, _ => True
  | _, .field _ format _ rest, ds => format.Decodes ds.1 ∧ rest.Decode ds.2

/-- The value of a field, if it is there or may be missing. -/
def value? {α : Type} (presence : Presence α) (decode : Tree → Option α) : Option Tree → Option α
  | none => presence.absent
  | some t => decode t

/-- The values of all fields, from their trees in order. -/
def assemble : {β : Type} → (fs : Fields β) → fs.Meanings → List (Option Tree) → Option β
  | _, .done, _, [] => some ()
  | _, .done, _, _ :: _ => none
  | _, .field _ _ _ _, _, [] => none
  | _, .field _ _ presence rest, ds, t :: ts => do
    let a ← value? presence ds.1 t
    let b ← rest.assemble ds.2 ts
    return (a, b)

section

variable {α β γ : Type} {key : String} {format : Format α} {presence : Presence α} {rest : Fields β}

@[simp] theorem assemble_field_nil {ds : (field key format presence rest).Meanings} :
    (field key format presence rest).assemble ds [] = none := rfl

@[simp] theorem assemble_done_cons (t : Option Tree) (ts : List (Option Tree)) :
    done.assemble () (t :: ts) = none := rfl

@[simp] theorem assemble_done_nil : done.assemble () [] = some () := rfl

/-- What is made of the values of fields is made of the first one and the others. -/
@[simp]
theorem map_assemble_field {ds : (field key format presence rest).Meanings} (make : α × β → γ)
    (t : Option Tree) (ts : List (Option Tree)) :
    ((field key format presence rest).assemble ds (t :: ts)).map make =
      (value? presence ds.1 t).bind fun a => (rest.assemble ds.2 ts).map fun b => make (a, b) := by
  rw [assemble]
  cases value? presence ds.1 t with
  | none => rfl
  | some a => cases rest.assemble ds.2 ts <;> rfl

end

/-! ### Members and slots -/

/-- The slots once a member has come up. The key of no field changes nothing, and a slot is filled
only once. -/
def put : {β : Type} → (fs : Fields β) → fs.Meanings → fs.Slots → String → Tree → Option fs.Slots
  | _, .done, _, slots, _, _ => some slots
  | _, .field k _ _ rest, ds, slots, key, t =>
    if k = key then
      match slots.1 with
      | some _ => none
      | none => (ds.1 t).map fun a => (some a, slots.2)
    else (rest.put ds.2 slots.2 key t).map fun others => (slots.1, others)

/-- The value of a field, when its slot may be full and members are still to come. -/
def slot? {α : Type} (key : String) (presence : Presence α) (decode : Tree → Option α)
    (slot : Option α) (ms : List (String × Tree)) : Option α :=
  match slot, ms.filter (·.1 = key) with
  | some a, [] => some a
  | none, [] => presence.absent
  | none, [(_, t)] => decode t
  | _, _ => none

/-- The record, when some slots are full and members are still to come. -/
def gather :
    {β : Type} → (fs : Fields β) → fs.Meanings → fs.Slots → List (String × Tree) → Option β
  | _, .done, _, _, _ => some ()
  | _, .field key _ presence rest, ds, slots, ms => do
    let a ← slot? key presence ds.1 slots.1 ms
    let b ← rest.gather ds.2 slots.2 ms
    return (a, b)

section

variable {key k : String} {t : Tree} {ms : List (String × Tree)}

theorem slot?_none {α : Type} {presence : Presence α} {decode : Tree → Option α} :
    slot? k presence decode none ms = (only? ms k).bind (value? presence decode) := by
  unfold slot? only?
  generalize ms.filter (·.1 = k) = found
  rcases found with _ | ⟨⟨_, t⟩, _ | _⟩ <;> rfl

/-- Where no member to come has the key of a field, the field is what its slot holds, or what a
missing field means. -/
theorem slot?_of_forall_ne {α : Type} {presence : Presence α} {decode : Tree → Option α}
    {slot : Option α} (h : ∀ m ∈ ms, m.1 ≠ k) :
    slot? k presence decode slot ms = (slot <|> presence.absent) := by
  unfold slot?
  rw [List.filter_eq_nil_iff.2 (by simpa using h)]
  cases slot <;> rfl

theorem slot?_cons_ne {α : Type} {presence : Presence α} {decode : Tree → Option α}
    {slot : Option α} (h : k ≠ key) :
    slot? k presence decode slot ((key, t) :: ms) = slot? k presence decode slot ms := by
  unfold slot?
  rw [List.filter_cons_of_neg (by simpa using Ne.symm h)]

/-- A member for an empty slot may be put there. -/
theorem slot?_cons_self {α : Type} {presence : Presence α} {decode : Tree → Option α} :
    slot? k presence decode none ((k, t) :: ms) =
      (decode t).bind fun a => slot? k presence decode (some a) ms := by
  unfold slot?
  rw [List.filter_cons_of_pos (by simp)]
  cases ms.filter (·.1 = k) <;> simp

theorem gather_cons_of_notMem {β : Type} {fs : Fields β} {ds : fs.Meanings} {slots : fs.Slots}
    (h : key ∉ fs.keys) : fs.gather ds slots ((key, t) :: ms) = fs.gather ds slots ms := by
  induction fs with
  | done => rfl
  | field k format presence rest ih =>
    rw [keys, List.mem_cons, not_or] at h
    rw [gather, gather, slot?_cons_ne (Ne.symm h.1), ih h.2]

/-- **A member that comes up may be put into its slot** or left among those to come. -/
theorem gather_put {β : Type} {fs : Fields β} {ds : fs.Meanings} {slots : fs.Slots}
    (hkeys : fs.keys.Nodup) :
    fs.gather ds slots ((key, t) :: ms) =
      (fs.put ds slots key t).bind fun slots => fs.gather ds slots ms := by
  induction fs with
  | done => rfl
  | field k format presence rest ih =>
    rw [keys, List.nodup_cons] at hkeys
    rw [gather, put]
    by_cases h : k = key
    · subst h
      -- The other fields have other keys, so the member changes nothing for them.
      rw [if_pos rfl, gather_cons_of_notMem hkeys.1]
      cases hslot : slots.1 with
      | some a => simp [slot?]
      | none =>
        rw [slot?_cons_self]
        cases ds.1 t <;> simp [gather]
    · rw [if_neg h, slot?_cons_ne h, ih hkeys.2]
      cases rest.put ds.2 slots.2 key t <;> simp [gather]

theorem gather_empty {β : Type} {fs : Fields β} {ds : fs.Meanings} :
    fs.gather ds fs.empty ms = (fs.keys.mapM (only? ms)).bind (fs.assemble ds) := by
  induction fs with
  | done => rfl
  | field k format presence rest ih =>
    rw [gather, keys, List.mapM_cons, empty, slot?_none, ih]
    cases only? ms k <;> cases rest.keys.mapM (only? ms) <;> simp [assemble]

theorem finish_eq_ok_iff {β : Type} {fs : Fields β} {ds : fs.Meanings} {slots : fs.Slots} {b : β} :
    fs.finish slots = .ok b ↔ fs.gather ds slots [] = some b := by
  induction fs with
  | done => simp [finish, gather]
  | field k format presence rest ih =>
    rw [finish, gather, slot?_of_forall_ne (by simp)]
    cases slots.1 <|> presence.absent with
    | none => simp
    | some a =>
      simp only [Option.bind_eq_bind, Option.bind_some, Option.bind_eq_some_iff, ← ih]
      split
      · rename_i hrest
        simp [hrest]
      · rename_i hrest
        simp [hrest]

end

/-! ### Objects -/

section

variable {β : Type} {fs : Fields β} {ds : fs.Meanings} {slots slots' : fs.Slots} {key : String}
  {s r : List Char}

theorem fill_eq_none_iff : fs.fill slots key s = none ↔ key ∉ fs.keys := by
  induction fs with
  | done => simp [fill, keys]
  | field k format presence rest ih =>
    rw [fill, keys, List.mem_cons, not_or]
    split
    · rename_i h
      simp [h]
    · rename_i h
      have ih := @ih slots.2
      rw [and_iff_right (Ne.symm h), ← ih]
      split <;> simp_all

theorem put_of_notMem {t : Tree} (h : key ∉ fs.keys) : fs.put ds slots key t = some slots := by
  induction fs with
  | done => rfl
  | field k format presence rest ih =>
    rw [keys, List.mem_cons, not_or] at h
    rw [put, if_neg (Ne.symm h.1), ih h.2]
    rfl

theorem exists_of_fill (hf : fs.Decode ds) (h : fs.fill slots key s = some (.ok (slots', r))) :
    ∃ s₁ s₂ t, Blanks s (':' :: s₁) ∧ Blanks s₁ s₂ ∧ Value s₂ t r ∧
      fs.put ds slots key t = some slots' := by
  induction fs with
  | done => simp [fill] at h
  | field k format presence rest ih =>
    rw [fill] at h
    split at h
    · rename_i hkey
      rw [Option.some.injEq] at h
      split at h
      · simp at h
      rename_i hslot
      split at h
      · simp at h
      rename_i hcolon
      split at h
      · simp at h
      rename_i hr
      obtain ⟨rfl, rfl⟩ := Prod.mk.inj (Except.ok.inj h)
      obtain ⟨s₂, t, hb, ht, ha⟩ := hf.1.sound hr
      refine ⟨_, s₂, t, exists_of_readColon hcolon, hb, ht, ?_⟩
      rw [put, if_pos hkey, hslot]
      simp [ha]
    · rename_i hkey
      split at h
      · simp at h
      · simp at h
      · rename_i hfill
        obtain ⟨rfl, rfl⟩ := Prod.mk.inj (Except.ok.inj (Option.some.inj h))
        obtain ⟨s₁, s₂, t, hcolon, hb, ht, hput⟩ := ih hf.2 hfill
        refine ⟨s₁, s₂, t, hcolon, hb, ht, ?_⟩
        rw [put, if_neg hkey, hput]
        rfl

theorem fill_of_put {s₁ s₂ : List Char} {t : Tree} (hf : fs.Decode ds) (hkey : key ∈ fs.keys)
    (hcolon : Blanks s (':' :: s₁)) (hb : Blanks s₁ s₂) (ht : Value s₂ t r)
    (h : fs.put ds slots key t = some slots') : fs.fill slots key s = some (.ok (slots', r)) := by
  induction fs with
  | done => simp [keys] at hkey
  | field k format presence rest ih =>
    rw [put] at h
    rw [fill]
    split at h
    · rename_i hk
      rw [if_pos hk]
      cases hslot : slots.1 with
      | some _ =>
        rw [hslot] at h
        cases h
      | none =>
        rw [hslot] at h
        obtain ⟨a, ha, rfl⟩ := Option.map_eq_some_iff.1 h
        simp only [readColon_of_blanks hcolon, hf.1.complete hb ht ha]
    · rename_i hk
      rw [if_neg hk]
      obtain ⟨others, hput, rfl⟩ := Option.map_eq_some_iff.1 h
      rw [keys, List.mem_cons, or_iff_right (Ne.symm hk)] at hkey
      rw [ih hf.2 hkey hput]

theorem exists_of_readMember (hf : fs.Decode ds) (h : fs.readMember slots s = .ok (slots', r)) :
    ∃ as key s₁ s₂ s₃ t, Atoms s as s₁ ∧ string? as = some key ∧ Blanks s₁ (':' :: s₂) ∧
      Blanks s₂ s₃ ∧ Value s₃ t r ∧ fs.put ds slots key t = some slots' := by
  unfold readMember at h
  split at h
  · simp at h
  rename_i cs s₁ hs
  obtain ⟨as, has, hcs⟩ := readString_eq_ok_iff.1 hs
  have hkey : string? as = some (String.ofList cs) := by rw [string?, hcs, Option.map_some]
  split at h
  · rename_i hfill
    rw [h] at hfill
    obtain ⟨s₂, s₃, t, hcolon, hb, ht, hput⟩ := exists_of_fill hf hfill
    exact ⟨as, _, s₁, s₂, s₃, t, has, hkey, hcolon, hb, ht, hput⟩
  · rename_i hnone
    split at h
    · simp at h
    rename_i s₂ hcolon
    split at h
    · simp at h
    rename_i hskip
    obtain ⟨rfl, rfl⟩ := Prod.mk.inj (Except.ok.inj h)
    obtain ⟨s₃, t, hb, ht⟩ := exists_of_skipValue hskip
    exact ⟨as, _, s₁, s₂, s₃, t, has, hkey, exists_of_readColon hcolon, hb, ht,
      put_of_notMem (fill_eq_none_iff.1 hnone)⟩

theorem readMember_of_put {as : List Atom} {s₁ s₂ s₃ : List Char} {t : Tree}
    (hf : fs.Decode ds) (has : Atoms s as s₁) (hkey : string? as = some key)
    (hcolon : Blanks s₁ (':' :: s₂)) (hb : Blanks s₂ s₃) (ht : Value s₃ t r) (hr : EndsNumber r)
    (h : fs.put ds slots key t = some slots') : fs.readMember slots s = .ok (slots', r) := by
  obtain ⟨cs, hcs, rfl⟩ := Option.map_eq_some_iff.1 hkey
  rw [readMember, readString_eq_ok_iff.2 ⟨as, has, hcs⟩]
  by_cases hmem : String.ofList cs ∈ fs.keys
  · simp only [fill_of_put hf hmem hcolon hb ht h]
  · rw [put_of_notMem hmem, Option.some.injEq] at h
    simp only [fill_eq_none_iff.2 hmem, readColon_of_blanks hcolon, skipValue_of_value hb ht hr, h]

end

end Fields

theorem lead_of_nextMember {first : Bool} {s r : List Char}
    (h : nextMember first s = .ok (.member r)) : Lead first s ('"' :: r) := by
  unfold nextMember at h
  split at h
  · simp at h
  · simp at h
  · rename_i hb
    split at h
    · rename_i hfirst
      subst hfirst
      split at h
      · rename_i hquote
        obtain rfl := NextMember.member.inj (Except.ok.inj h)
        subst hquote
        exact blanks_of_dropBlanks hb
      · simp at h
    · rename_i hfirst
      rw [Bool.not_eq_true] at hfirst
      subst hfirst
      split at h
      · rename_i hcomma
        subst hcomma
        split at h
        · simp at h
        · rename_i hb'
          obtain rfl := NextMember.member.inj (Except.ok.inj h)
          exact ⟨_, blanks_of_dropBlanks hb, blanks_of_dropBlanks hb'⟩
        · simp at h
        · simp at h
      · simp at h

theorem blanks_of_nextMember {first : Bool} {s r : List Char}
    (h : nextMember first s = .ok (.ended r)) : Blanks s ('}' :: r) := by
  unfold nextMember at h
  split at h
  · simp at h
  · rename_i hb
    obtain rfl := NextMember.ended.inj (Except.ok.inj h)
    exact blanks_of_dropBlanks hb
  · split at h
    · split at h <;> simp at h
    · split at h
      · split at h <;> simp at h
      · simp at h

theorem nextMember_of_lead {first : Bool} {s r : List Char} (h : Lead first s ('"' :: r)) :
    nextMember first s = .ok (.member r) := by
  cases first with
  | true => simp [nextMember, dropBlanks_eq_cons h (by decide)]
  | false =>
    obtain ⟨s₁, hcomma, hb⟩ := h
    simp [nextMember, dropBlanks_eq_cons hcomma (by decide), dropBlanks_eq_cons hb (by decide)]

theorem nextMember_of_blanks {first : Bool} {s r : List Char} (h : Blanks s ('}' :: r)) :
    nextMember first s = .ok (.ended r) := by
  simp only [nextMember, dropBlanks_eq_cons h (by decide)]

namespace Fields

section

variable {β : Type} {fs : Fields β} {ds : fs.Meanings} {b : β}

theorem exists_of_readMembers (hkeys : fs.keys.Nodup) (hf : fs.Decode ds) {first : Bool}
    {slots : fs.Slots} {s r : List Char} (h : fs.readMembers first slots s = .ok (b, r)) :
    ∃ ms ns, Members first s ms r ∧ members? ms = some ns ∧ fs.gather ds slots ns = some b := by
  fun_induction readMembers fs first slots s with
  | case1 => simp at h
  | case2 => simp at h
  | case3 first slots s r' hn b' hfinish =>
    obtain ⟨rfl, rfl⟩ := Prod.mk.inj (Except.ok.inj h)
    exact ⟨[], [], .ended (blanks_of_nextMember hn), rfl, finish_eq_ok_iff.1 hfinish⟩
  | case4 => simp at h
  | case5 first slots s s₁ hn slots' s₂ hm hlt hlt' ih =>
    obtain ⟨as, key, s₃, s₄, s₅, t, has, hkey, hcolon, hb, ht, hput⟩ := exists_of_readMember hf hm
    obtain ⟨ms, ns, hms, hns, hgather⟩ := ih h
    refine ⟨(as, t) :: ms, (key, t) :: ns,
      .more (lead_of_nextMember hn) has hcolon hb ht hms, ?_, ?_⟩
    · rw [members?] at hns
      simp [members?, hkey, hns]
    · rw [gather_put hkeys, hput]
      exact hgather

theorem readMembers_of_members (hkeys : fs.keys.Nodup) (hf : fs.Decode ds) {first : Bool}
    {slots : fs.Slots} {s r : List Char} {ms : List (List Atom × Tree)}
    {ns : List (String × Tree)} (h : Members first s ms r) (hns : members? ms = some ns)
    (hb : fs.gather ds slots ns = some b) : fs.readMembers first slots s = .ok (b, r) := by
  induction ms generalizing first slots s ns with
  | nil =>
    cases h with
    | ended hclose =>
      obtain rfl := Option.some.inj hns
      have hn : nextMember first s = .ok (.ended r) := nextMember_of_blanks hclose
      have hfinish := finish_eq_ok_iff.2 hb
      rw [readMembers]
      split <;> simp_all
  | cons m ms ih =>
    cases h with
    | more hlead has hcolon hblank ht hms =>
      rw [members?, List.mapM_cons] at hns
      obtain ⟨⟨key, t'⟩, hkey, hns⟩ := Option.bind_eq_some_iff.1 hns
      obtain ⟨ns', hns', heq⟩ := Option.bind_eq_some_iff.1 hns
      obtain ⟨key', hkey', heq'⟩ := Option.map_eq_some_iff.1 hkey
      obtain ⟨rfl, rfl⟩ := Prod.mk.inj heq'
      obtain rfl := Option.some.inj heq
      rw [gather_put hkeys] at hb
      obtain ⟨slots', hput, hgather⟩ := Option.bind_eq_some_iff.1 hb
      have hn := nextMember_of_lead hlead
      have hm := readMember_of_put hf has hkey' hcolon hblank ht (endsNumber_of_members hms) hput
      have := ih hms hns' hgather
      rw [readMembers]
      split <;> simp_all
      split <;> simp_all

/-! ### Lists of fields -/

theorem blanks_of_readEnd {s r : List Char} (h : readEnd s = .ok r) : Blanks s (']' :: r) := by
  unfold readEnd at h
  split at h
  · simp at h
  · rename_i hb
    obtain rfl := Except.ok.inj h
    exact blanks_of_dropBlanks hb
  · split at h <;> simp at h
  · simp at h

theorem readEnd_of_blanks {s r : List Char} (h : Blanks s (']' :: r)) : readEnd s = .ok r := by
  simp only [readEnd, dropBlanks_eq_cons h (by decide)]

/-- The record that a list of the values of its fields stands for. -/
def items? {β : Type} (fs : Fields β) (ds : fs.Meanings) (ts : List Tree) : Option β :=
  (inOrder? fs.keys ts).bind (fs.assemble ds)

theorem items?_field_nil {α : Type} {format : Format α} {presence : Presence α}
    {ds : (field key format presence fs).Meanings} :
    (field key format presence fs).items? ds [] =
      presence.absent.bind fun a => (fs.items? ds.2 []).map (a, ·) := by
  rw [items?, keys, inOrder?, items?]
  cases inOrder? fs.keys [] with
  | none => cases presence.absent <;> rfl
  | some ts =>
    show (presence.absent.bind fun a => (fs.assemble ds.2 ts).bind fun b => some (a, b)) = _
    simp only [Option.bind_some, Option.map_eq_bind, Function.comp_def]

theorem items?_field_cons {α : Type} {format : Format α} {presence : Presence α}
    {ds : (field key format presence fs).Meanings} {t : Tree} {ts : List Tree} :
    (field key format presence fs).items? ds (t :: ts) =
      (ds.1 t).bind fun a => (fs.items? ds.2 ts).map (a, ·) := by
  rw [items?, keys, inOrder?, items?]
  cases inOrder? fs.keys ts with
  | none => cases ds.1 t <;> rfl
  | some ts =>
    show ((ds.1 t).bind fun a => (fs.assemble ds.2 ts).bind fun b => some (a, b)) = _
    simp only [Option.bind_some, Option.map_eq_bind, Function.comp_def]

theorem defaults_eq_ok_iff {ds : fs.Meanings} {short : Nat → Fault} {position : Nat} :
    fs.defaults short position = .ok b ↔ fs.items? ds [] = some b := by
  induction fs generalizing position with
  | done => simp [defaults, items?, keys, inOrder?, assemble]
  | field k format presence rest ih =>
    rw [defaults, items?_field_nil]
    cases presence.absent with
    | none => simp
    | some a =>
      simp only [Option.bind_some, Option.map_eq_some_iff, ← @ih _ ds.2 (position + 1)]
      split
      · rename_i hrest
        simp [hrest]
      · rename_i hrest
        simp [hrest]

theorem exists_of_readItems {ds : fs.Meanings} (hf : fs.Decode ds) {short : Nat → Fault}
    {position : Nat} {s r : List Char} (h : fs.readItems short position s = .ok (b, r)) :
    ∃ ts, Elements (position == 0) s ts r ∧ fs.items? ds ts = some b := by
  induction fs generalizing position s r with
  | done =>
    rw [readItems] at h
    split at h
    · simp at h
    · rename_i hend
      obtain ⟨rfl, rfl⟩ := Prod.mk.inj (Except.ok.inj h)
      exact ⟨[], .ended (blanks_of_readEnd hend), rfl⟩
  | field k format presence rest ih =>
    rw [readItems] at h
    split at h
    · simp at h
    · rename_i hn
      split at h
      · simp at h
      · rename_i hdefaults
        obtain ⟨rfl, rfl⟩ := Prod.mk.inj (Except.ok.inj h)
        exact ⟨[], .ended (blanks_of_nextElement hn), defaults_eq_ok_iff.1 hdefaults⟩
    · rename_i hn
      split at h
      · simp at h
      rename_i hr
      split at h
      · simp at h
      rename_i hitems
      obtain ⟨rfl, rfl⟩ := Prod.mk.inj (Except.ok.inj h)
      obtain ⟨s₁, t, hb, ht, ha⟩ := hf.1.sound hr
      obtain ⟨ts, hts, hitems⟩ := ih hf.2 hitems
      refine ⟨t :: ts, .more ((lead_of_nextElement hn).trans hb) ht hts, ?_⟩
      rw [items?_field_cons, ha, hitems]
      rfl

theorem readItems_of_elements {ds : fs.Meanings} (hf : fs.Decode ds) {short : Nat → Fault}
    {position : Nat} {s r : List Char} {ts : List Tree} (h : Elements (position == 0) s ts r)
    (hb : fs.items? ds ts = some b) : fs.readItems short position s = .ok (b, r) := by
  induction fs generalizing position s r ts with
  | done =>
    cases h with
    | ended hclose =>
      rw [readItems, readEnd_of_blanks hclose]
    | more => simp [items?, keys, inOrder?] at hb
  | field k format presence rest ih =>
    cases h with
    | ended hclose =>
      simp only [readItems, nextElement_of_blanks hclose, defaults_eq_ok_iff.2 hb]
    | more hlead ht hts =>
      rw [items?_field_cons] at hb
      obtain ⟨a, ha, hb⟩ := Option.bind_eq_some_iff.1 hb
      obtain ⟨b', hitems, rfl⟩ := Option.map_eq_some_iff.1 hb
      have hrest : rest.readItems short (position + 1) _ = .ok (b', r) := ih hf.2 hts hitems
      simp only [readItems, nextElement_of_lead hlead ht, hf.1.complete .none ht ha, hrest]

end

end Fields

/-! ### Writing -/

namespace Fields

theorem spellsMember_of_spells {key : String} {as : List Atom} {s : List Char} {t : Tree}
    (has : ∀ r, Atoms (key.toList.flatMap printChar ++ '"' :: r) as r) (ht : Spells s t) :
    SpellsMember (printString key.toList ++ ':' :: s) (as, t) :=
  ⟨key.toList.flatMap printChar ++ ['"'], s, by simp [printString], fun r => by simpa using has r,
    ht⟩

/-- The members that are written for a record have keys of its fields, and put together they are
the record: a field is left out only where a missing field means its value. -/
theorem exists_members_of_print {β : Type} {fs : Fields β} {ds : fs.Meanings}
    (hkeys : fs.keys.Nodup) (hf : fs.Decode ds) (b : β) :
    ∃ ms ns, List.Forall₂ SpellsMember (fs.printMembers b) ms ∧ members? ms = some ns ∧
      (∀ n ∈ ns, n.1 ∈ fs.keys) ∧ fs.gather ds fs.empty ns = some b := by
  induction fs with
  | done => exact ⟨[], [], .nil, rfl, by simp, rfl⟩
  | field key format presence rest ih =>
    obtain ⟨a, b⟩ := b
    rw [keys, List.nodup_cons] at hkeys
    obtain ⟨ms, ns, hms, hns, hmem, hgather⟩ := ih hkeys.2 hf.2 b
    have hne : ∀ n ∈ ns, n.1 ≠ key := by
      rintro n hn rfl
      exact hkeys.1 (hmem n hn)
    have hmem : ∀ n ∈ ns, n.1 ∈ key :: rest.keys := fun n hn => .tail _ (hmem n hn)
    rw [printMembers]
    split
    · rename_i homits
      refine ⟨ms, ns, hms, hns, hmem, ?_⟩
      rw [gather, empty, slot?_of_forall_ne hne, presence.absent_of_omits homits, hgather]
      rfl
    · obtain ⟨t, ht, ha⟩ := hf.1.printed a
      obtain ⟨as, has, hcs⟩ := exists_atoms_printChars key.toList
      have hkey : string? as = some key := by
        rw [string?, hcs, Option.map_some, String.ofList_toList]
      refine ⟨(as, t) :: ms, (key, t) :: ns, .cons (spellsMember_of_spells has ht) hms, ?_, ?_, ?_⟩
      · rw [members?] at hns
        simp [members?, hkey, hns]
      · rintro n (_ | ⟨_, hn⟩)
        · exact .head _
        · exact hmem n hn
      · rw [gather, empty, slot?_cons_self, ha, Option.bind_some, slot?_of_forall_ne hne,
          gather_cons_of_notMem hkeys.1, hgather]
        rfl

end Fields

/-! ### The format -/

/-- **A record means what its fields mean together**, in whichever of the two ways it is written. -/
theorem decodes_record {α β : Type} {name : String} {fs : Fields β} {make : β → α}
    {values : α → β} {decode : Tree → Option α} (ds : fs.Meanings) (hkeys : fs.keys.Nodup)
    (hf : fs.Decode ds) (hmake : ∀ a, make (values a) = a)
    (hdecode : ∀ t, decode t = ((fields? fs.keys t).bind (fs.assemble ds)).map make) :
    (Format.record name fs make values).Decodes decode where
  sound {s r a} h := by
    simp only [Format.record] at h
    split at h
    · simp at h
    rename_i b _ hr
    obtain ⟨rfl, rfl⟩ := Prod.mk.inj (Except.ok.inj h)
    unfold readRecord at hr
    split at hr
    · rename_i hb
      obtain ⟨ts, hts, hitems⟩ := Fields.exists_of_readItems hf hr
      refine ⟨_, .list ts, blanks_of_dropBlanks hb, .list hts, ?_⟩
      rw [hdecode, fields?, ← Fields.items?, hitems, Option.map_some]
    · rename_i hb
      obtain ⟨ms, ns, hms, hns, hgather⟩ := Fields.exists_of_readMembers hkeys hf hr
      refine ⟨_, .object ms, blanks_of_dropBlanks hb, .object hms, ?_⟩
      rw [hdecode, fields?, hns, Option.bind_some, ← Fields.gather_empty, hgather, Option.map_some]
    · simp at hr
  complete {s s₁ r t a} hb ht ha := by
    rw [hdecode] at ha
    obtain ⟨b, hb', rfl⟩ := Option.map_eq_some_iff.1 ha
    have hr : readRecord name fs s = .ok (b, r) := by
      cases ht with
      | list hts =>
        simp only [readRecord, dropBlanks_eq_cons hb (by decide)]
        exact Fields.readItems_of_elements hf hts hb'
      | object hms =>
        simp only [readRecord, dropBlanks_eq_cons hb (by decide)]
        obtain ⟨ts, hts, hb'⟩ := Option.bind_eq_some_iff.1 hb'
        obtain ⟨ns, hns, hts⟩ := Option.bind_eq_some_iff.1 hts
        refine Fields.readMembers_of_members hkeys hf hms hns ?_
        rw [Fields.gather_empty, hts]
        exact hb'
      | _ => simp [fields?] at hb'
    simp only [Format.record, hr]
  printed a := by
    obtain ⟨ms, ns, hms, hns, -, hgather⟩ := Fields.exists_members_of_print hkeys hf (values a)
    refine ⟨.object ms, spells_members hms, ?_⟩
    rw [hdecode, fields?, hns, Option.bind_some, ← Fields.gather_empty, hgather, Option.map_some,
      hmake]

/-- A record whose meaning is written out for the values of its fields. -/
theorem decodes_record_of_fields {α β : Type} {name : String} {fs : Fields β} {make : β → α}
    {values : α → β} {decode : Tree → Option α} {ofFields? : List (Option Tree) → Option α}
    (ds : fs.Meanings) (hkeys : fs.keys.Nodup) (hf : fs.Decode ds)
    (hmake : ∀ a, make (values a) = a)
    (hdecode : ∀ t, decode t = (fields? fs.keys t).bind ofFields?)
    (hfields : ∀ ts, ofFields? ts = (fs.assemble ds ts).map make) :
    (Format.record name fs make values).Decodes decode := by
  refine decodes_record ds hkeys hf hmake fun t => ?_
  rw [hdecode, funext hfields, Option.map_bind]
  rfl

end RestClient.Json
