import Mathlib.Data.Nat.Digits.Lemmas
import RestClient.Proofs.Client.Variants
import RestClient.Proofs.Decimal.Whole

/-! # The status of a variant

Every variant of a result declares the type of its status, which is a numeral if the code of its
response is one. It is read from the text of the declaration, between the key of the first field and a
semicolon. As a type, a numeral stands for the number that double precision has for it.

Numerals that are different texts stand for different whole numbers, and these for different numbers
in double precision as long as one of them is below `2 ^ 53`.

* `decimal_inj`: numerals are different whole numbers if they are different texts;
* `statusText?_declaration`: the status that a variant declares;
* `Operation.statusLiterals_result`: which variants can be told apart by their status. -/

namespace RestClient

open RestClient.Text RestClient.TypeScript

/-! ### Numerals -/

/-- A number in decimal notation, without zeros in front of it. -/
def IsNumeral (s : List Char) : Prop :=
  s ≠ [] ∧ (∀ c ∈ s, c.isDigit = true) ∧ (s.head? = some '0' → s = ['0'])

theorem isNumeral_iff {s : List Char} :
    IsNumeral s ↔ s ≠ [] ∧ s.all Char.isDigit = true ∧ (s.head? = some '0' → s = ['0']) := by
  rw [IsNumeral, List.all_eq_true]

instance (s : List Char) : Decidable (IsNumeral s) :=
  decidable_of_iff' _ isNumeral_iff

/-- The digits of a number, the last one first. -/
def digitValues (s : List Char) : List Nat := (s.map fun c => c.toNat - '0'.toNat).reverse

/-- The whole number that a text of digits stands for. -/
def decimal (s : List Char) : Nat := Nat.ofDigits 10 (digitValues s)

/-- The number that a numeral stands for as a type, in double precision. -/
def numeral? (s : List Char) : Option ℕ∞ :=
  if IsNumeral s then some (Binary64.nearest (decimal s)) else none

/-- A digit is its value behind the digit zero. -/
theorem value_of_isDigit {c : Char} (h : c.isDigit = true) :
    c.toNat - '0'.toNat < 10 ∧ Char.ofNat ('0'.toNat + (c.toNat - '0'.toNat)) = c := by
  have halphanum : c.isAlphanum = true := by rw [Char.isAlphanum, h, Bool.or_true]
  exact forall_isAlphanum (p := fun c => c.isDigit = true →
    c.toNat - '0'.toNat < 10 ∧ Char.ofNat ('0'.toNat + (c.toNat - '0'.toNat)) = c)
    (by decide) halphanum h

theorem map_digitValues {s : List Char} (hs : ∀ c ∈ s, c.isDigit = true) :
    (digitValues s).reverse.map (fun n => Char.ofNat ('0'.toNat + n)) = s := by
  rw [digitValues, List.reverse_reverse, List.map_map]
  conv_rhs => rw [← List.map_id s]
  exact List.map_congr_left fun c hc => (value_of_isDigit (hs c hc)).2

/-- The digits of the whole number that a numeral stands for are those of the numeral. -/
theorem digits_decimal {s : List Char} (h : IsNumeral s) :
    Nat.digits 10 (decimal s) = if s = ['0'] then [] else digitValues s := by
  obtain ⟨hne, hdigits, hzero⟩ := h
  split
  · rename_i heq
    rw [heq]
    rfl
  · rename_i hother
    refine Nat.digits_ofDigits 10 (by decide) _ (fun n hn => ?_) fun _ hlast => ?_
    · obtain ⟨c, hc, rfl⟩ := List.mem_map.1 (List.mem_reverse.1 hn)
      exact (value_of_isDigit (hdigits c hc)).1
    · -- The last of the digits is the first one of the numeral, which is no zero.
      obtain ⟨c, s', rfl⟩ := List.exists_cons_of_ne_nil hne
      have hvalue : c.toNat - '0'.toNat = 0 := by simpa [digitValues] using hlast
      have hc := (value_of_isDigit (hdigits c List.mem_cons_self)).2
      rw [hvalue] at hc
      exact hother (hzero (congrArg some hc.symm))

/-- **Different numerals stand for different whole numbers.** -/
theorem decimal_inj {s t : List Char} (hs : IsNumeral s) (ht : IsNumeral t) :
    decimal s = decimal t ↔ s = t := by
  refine ⟨fun h => ?_, congrArg decimal⟩
  have hnil {s : List Char} (hs : IsNumeral s) : digitValues s ≠ [] := by
    simpa [digitValues] using hs.1
  have hdigits := congrArg (Nat.digits 10) h
  rw [digits_decimal hs, digits_decimal ht] at hdigits
  by_cases hzero : s = ['0'] <;> by_cases hzero' : t = ['0']
  · rw [hzero, hzero']
  · rw [if_pos hzero, if_neg hzero'] at hdigits
    exact absurd hdigits.symm (hnil ht)
  · rw [if_neg hzero, if_pos hzero'] at hdigits
    exact absurd hdigits (hnil hs)
  · rw [if_neg hzero, if_neg hzero'] at hdigits
    rw [← map_digitValues hs.2.1, hdigits, map_digitValues ht.2.1]

/-! ### The status of a variant -/

/-- What a declaration gives as the type of its field for the status. -/
def statusText? (block : String) : Option (List Char) :=
  ((block.toList.splitOn '\n').find? fun row => "  status: ".toList.isPrefixOf row).map fun row =>
    (row.drop "  status: ".toList.length).takeWhile (· != ';')

/-- The number that a declaration gives as the type of its field for the status. -/
def statusLiteral? (block : String) : Option ℕ∞ := (statusText? block).bind numeral?

/-- The first entry of a variant is its status. -/
theorem exists_variantBody_eq (response : Response) :
    ∃ entries, response.variantBody =
      objectBody (("status: " ++ response.statusType ++ ";") :: entries) :=
  ⟨_, rfl⟩

theorem entryRows_of_notMem {entry : String} (h : '\n' ∉ entry.toList) (hne : entry.toList ≠ []) :
    entryRows entry = [[' ', ' '] ++ entry.toList] := by
  rw [entryRows, marginLines, lines_of_notMem h hne, List.map_singleton]

/-- **The status that a variant declares** is the type of its status. -/
theorem statusText?_declaration {name : String} (hname : '\n' ∉ name.toList)
    (response : Response) :
    statusText? (declaration name response.variantBody) = some response.statusType.toList := by
  have hplain := isAlphanum_of_mem_statusType response
  have hline : '\n' ∉ response.statusType.toList := fun hmem => absurd (hplain _ hmem) (by decide)
  have hsemicolon : ∀ c ∈ response.statusType.toList, (c != ';') = true := by
    intro c hc
    refine bne_iff_ne.2 fun heq => ?_
    exact absurd (hplain c hc) (by rw [heq]; decide)
  obtain ⟨entries, hbody⟩ := exists_variantBody_eq response
  have hentry : entryRows ("status: " ++ response.statusType ++ ";") =
      ["  status: ".toList ++ (response.statusType.toList ++ [';'])] := by
    have htext : ("status: " ++ response.statusType ++ ";").toList =
        "status: ".toList ++ (response.statusType.toList ++ [';']) := by simp
    rw [entryRows_of_notMem, htext]
    · rfl
    · rw [htext]
      exact List.not_mem_append (by decide) (List.not_mem_append hline (by decide))
    · simp
  generalize hkind : DeclarationKind.ofBody
    (objectBody (("status: " ++ response.statusType ++ ";") :: entries)).toList = kind
  have hopening : '\n' ∉ (kind.opening name).toList ++ ['{'] :=
    List.not_mem_append (notMem_opening hname kind) (by decide)
  have hother : "  status: ".toList.isPrefixOf ((kind.opening name).toList ++ ['{']) = false := by
    obtain ⟨s, hs⟩ := List.head?_eq_some_iff.1 (head?_opening name kind)
    rw [hs]
    rfl
  have hown (s : List Char) : "  status: ".toList.isPrefixOf ("  status: ".toList ++ s) = true :=
    List.isPrefixOf_iff_prefix.2 (List.prefix_append _ _)
  rw [statusText?, hbody, splitOn_declaration_objectBody (List.cons_ne_nil _ _) hkind,
    List.splitOn_eq_singleton hopening, List.flatMap_cons, hentry]
  simp only [List.cons_append, List.nil_append, List.find?_cons, hother, hown]
  rw [Option.map_some, List.drop_left, List.takeWhile_append_of_pos hsemicolon,
    List.takeWhile_cons_of_neg (by decide), List.append_nil]

theorem statusType_eq {response : Response}
    (h : response.code = "default" ∨ IsNumeral response.code.toList) :
    response.statusType = if response.code = "default" then "500" else response.code := by
  unfold Response.statusType
  by_cases hdefault : response.code = "default"
  · rw [if_pos (isDefault_iff.2 hdefault), if_pos hdefault]
  · obtain ⟨hne, hdigits, -⟩ := h.resolve_left hdefault
    have hnumeric : isNumericCode response.code = true := by
      rw [isNumericCode, Bool.and_eq_true, List.all_eq_true]
      refine ⟨?_, hdigits⟩
      simpa using hne
    rw [if_neg fun h => hdefault (isDefault_iff.1 h), if_pos hnumeric, if_neg hdefault]

theorem isNumeral_statusType {response : Response}
    (h : response.code = "default" ∨ IsNumeral response.code.toList) :
    IsNumeral response.statusType.toList := by
  rw [statusType_eq h]
  split
  · decide
  · rename_i hdefault
    exact h.resolve_left hdefault

/-- One of two codes is the default, and the other one the code that it stands for. -/
def StandAlike (code code' : String) : Prop :=
  (code = "500" ∧ code' = "default") ∨ (code = "default" ∧ code' = "500")

/-- Two codes are whole numbers that double precision does not tell apart. Both are at least `2 ^ 53`
then, unless they are the same. -/
def RoundAlike (code code' : String) : Prop :=
  (IsNumeral code.toList ∧ 2 ^ 53 ≤ decimal code.toList) ∧
  (IsNumeral code'.toList ∧ 2 ^ 53 ≤ decimal code'.toList) ∧
  Binary64.nearest (decimal code.toList) = Binary64.nearest (decimal code'.toList)

instance (code code' : String) : Decidable (StandAlike code code') :=
  inferInstanceAs (Decidable (_ ∨ _))

instance (code code' : String) : Decidable (RoundAlike code code') :=
  inferInstanceAs (Decidable (_ ∧ _))

/-- Different codes have the same status only if one is the default and the other the code that it
stands for. -/
theorem statusType_eq_iff {response response' : Response}
    (h : response.code = "default" ∨ IsNumeral response.code.toList)
    (h' : response'.code = "default" ∨ IsNumeral response'.code.toList)
    (hne : response.code ≠ response'.code) :
    response.statusType = response'.statusType ↔ StandAlike response.code response'.code := by
  rw [statusType_eq h, statusType_eq h', StandAlike]
  have hapart : "500" ≠ "default" := by decide
  grind

/-- A status from `2 ^ 53` on is the code itself, because the default has a smaller one. -/
theorem le_decimal_statusType_iff {response : Response}
    (h : response.code = "default" ∨ IsNumeral response.code.toList) :
    2 ^ 53 ≤ decimal response.statusType.toList ↔
      IsNumeral response.code.toList ∧ 2 ^ 53 ≤ decimal response.code.toList := by
  rw [statusType_eq h]
  by_cases hdefault : response.code = "default"
  · have hletters : ¬ IsNumeral "default".toList := by decide
    have hsmall : decimal "500".toList = 500 := by decide
    rw [if_pos hdefault, hdefault, hsmall]
    exact iff_of_false (by decide) fun hcode => hletters hcode.1
  · rw [if_neg hdefault]
    exact (and_iff_right (h.resolve_left hdefault)).symm

theorem nearest_statusType_eq_iff {response response' : Response}
    (h : response.code = "default" ∨ IsNumeral response.code.toList)
    (h' : response'.code = "default" ∨ IsNumeral response'.code.toList)
    (hne : response.code ≠ response'.code) :
    Binary64.nearest (decimal response.statusType.toList) =
        Binary64.nearest (decimal response'.statusType.toList) ↔
      StandAlike response.code response'.code ∨ RoundAlike response.code response'.code := by
  rw [Binary64.nearest_eq_iff, decimal_inj (isNumeral_statusType h) (isNumeral_statusType h'),
    String.toList_inj, statusType_eq_iff h h' hne]
  refine or_congr_right ?_
  rw [RoundAlike, le_decimal_statusType_iff h, le_decimal_statusType_iff h']
  refine and_congr_right fun hcode => and_congr_right fun hcode' => ?_
  have hcodes {response : Response} (hnumeral : IsNumeral response.code.toList) :
      response.statusType = response.code := by
    have hdefault : response.code ≠ "default" := by
      rintro heq
      rw [heq] at hnumeral
      exact absurd hnumeral (by decide)
    rw [statusType_eq (.inr hnumeral), if_neg hdefault]
  rw [hcodes hcode.1, hcodes hcode'.1]

theorem statusText?_variant {phrases : PhraseTable} (h : phrases.HasNoNewline) (op : Operation)
    (response : Response) :
    statusText? (declaration (op.names.variant phrases response).value response.variantBody) =
      some response.statusType.toList :=
  statusText?_declaration (notMem_variant h op response) response

theorem statusLiteral?_variant {phrases : PhraseTable} (h : phrases.HasNoNewline) (op : Operation)
    {response : Response}
    (hplain : response.code = "default" ∨ IsNumeral response.code.toList) :
    statusLiteral? (declaration (op.names.variant phrases response).value response.variantBody) =
      some (Binary64.nearest (decimal response.statusType.toList)) := by
  rw [statusLiteral?, statusText?_variant h, Option.bind_some, numeral?,
    if_pos (isNumeral_statusType hplain)]

/-- The status of every variant behind the union. -/
theorem map_statusLiteral?_result {phrases : PhraseTable} (h : phrases.HasNoNewline)
    {op : Operation} (hplain : ∀ response ∈ op.responses,
      response.code = "default" ∨ IsNumeral response.code.toList) :
    (parts (op.code phrases).value.result).tail.map statusLiteral? =
      op.responses.map fun response =>
        some (Binary64.nearest (decimal response.statusType.toList)) := by
  obtain ⟨union, hblocks⟩ := exists_resultBlocks_eq_cons phrases op
  rw [parts_result h, hblocks, List.tail_cons, List.map_map]
  refine List.map_congr_left fun response hresponse => ?_
  rw [Function.comp_apply, statusLiteral?_variant h op (hplain response hresponse)]

/-- **The status tells the variants of a result apart**, if their codes are different numbers or the
default, but for two kinds of pairs. The default response has the status 500, so that it cannot be
told from the response with this code. The numbers of two codes can be too large for double precision
to tell them apart; then the types of the status are different as texts only. -/
theorem Operation.statusLiterals_result {phrases : PhraseTable} (h : phrases.HasNoNewline)
    {op : Operation} (hcodes : (op.responses.map Response.code).Nodup)
    (hplain : ∀ response ∈ op.responses,
      response.code = "default" ∨ IsNumeral response.code.toList) :
    ∃ union declarations,
      parts (op.code phrases).value.result = union :: declarations ∧
      declarations.length = op.responses.length ∧
      (∀ declaration ∈ declarations, (statusLiteral? declaration).isSome = true) ∧
      (op.responses.zip declarations).Pairwise fun variant variant' =>
        (statusText? variant.2 = statusText? variant'.2 ↔
          StandAlike variant.1.code variant'.1.code) ∧
        (statusLiteral? variant.2 = statusLiteral? variant'.2 ↔
          StandAlike variant.1.code variant'.1.code ∨ RoundAlike variant.1.code variant'.1.code) := by
  obtain ⟨union, hblocks⟩ := exists_resultBlocks_eq_cons phrases op
  have hliteral : ∀ response ∈ op.responses,
      statusLiteral? (declaration (op.names.variant phrases response).value response.variantBody) =
        some (Binary64.nearest (decimal response.statusType.toList)) := fun response hresponse =>
    statusLiteral?_variant h op (hplain response hresponse)
  refine ⟨union, _, (parts_result h op).trans hblocks, List.length_map _,
    List.forall_mem_map.2 fun response hresponse => ?_, ?_⟩
  · rw [hliteral response hresponse]
    rfl
  · have hzip := List.zip_map' (l := op.responses) (f := id) (g := fun response =>
      declaration (op.names.variant phrases response).value response.variantBody)
    rw [List.map_id] at hzip
    rw [hzip, List.pairwise_map]
    refine (List.pairwise_map.1 hcodes).imp_of_mem fun {response response'} hmem hmem' hne => ?_
    have hcode := hplain response hmem
    have hcode' := hplain response' hmem'
    simp only [id_eq]
    constructor
    · rw [statusText?_variant h, statusText?_variant h, Option.some.injEq, String.toList_inj,
        statusType_eq_iff hcode hcode' hne]
    · rw [hliteral response hmem, hliteral response' hmem', Option.some.injEq,
        nearest_statusType_eq_iff hcode hcode' hne]

/-- An operation with the given codes of responses. -/
def withCodes (codes : List String) : Operation where
  path := "/reports"
  verb := .get
  server := ""
  positionalParams := []
  queryParams := []
  headerParams := []
  bodyParam := none
  responses := codes.map fun code => ⟨code, []⟩

theorem withCodes_statusLiterals_result :
    let op := withCodes ["200", "0", "9007199254740993", "default"]
    (op.responses.map Response.code).Nodup ∧
    (∀ response ∈ op.responses, response.code = "default" ∨ IsNumeral response.code.toList) ∧
    ∃ union declarations,
      parts (op.code standardPhrase).value.result = union :: declarations ∧
      (op.responses.zip declarations).Pairwise fun variant variant' =>
        statusLiteral? variant.2 ≠ statusLiteral? variant'.2 := by
  intro op
  have hcodes : (op.responses.map Response.code).Nodup := by decide
  have hplain : ∀ response ∈ op.responses,
      response.code = "default" ∨ IsNumeral response.code.toList := by
    decide
  have hapart : op.responses.Pairwise fun response response' =>
      ¬ (StandAlike response.code response'.code ∨ RoundAlike response.code response'.code) := by
    decide +kernel
  obtain ⟨union, declarations, hparts, hlength, -, hpairs⟩ :=
    Operation.statusLiterals_result hasNoNewline_standardPhrase hcodes hplain
  refine ⟨hcodes, hplain, union, declarations, hparts, ?_⟩
  have hfst : (op.responses.zip declarations).map Prod.fst = op.responses :=
    List.map_fst_zip hlength.ge
  rw [← hfst, List.pairwise_map] at hapart
  exact (hpairs.and hapart).imp fun ⟨heq, hne⟩ hsame => hne (heq.2.1 hsame)

/-- **The default response can have the status of another one**, and so can a response with a code
that is rounded. -/
theorem not_nodup_statusLiterals :
    (¬ ∀ op : Operation, (op.responses.map Response.code).Nodup →
      (∀ response ∈ op.responses,
        response.code = "default" ∨ IsNumeral response.code.toList) →
      ((parts (op.code standardPhrase).value.result).tail.map statusLiteral?).Nodup) ∧
    ¬ ∀ op : Operation, (op.responses.map Response.code).Nodup →
      (∀ response ∈ op.responses, IsNumeral response.code.toList) →
      ((parts (op.code standardPhrase).value.result).tail.map statusLiteral?).Nodup := by
  constructor
  · intro h
    have hplain : ∀ response ∈ (withCodes ["500", "default"]).responses,
        response.code = "default" ∨ IsNumeral response.code.toList := by
      decide
    have hnodup := h (withCodes ["500", "default"]) (by decide) hplain
    rw [map_statusLiteral?_result hasNoNewline_standardPhrase hplain] at hnodup
    exact absurd hnodup (by decide +kernel)
  · intro h
    have hplain : ∀ response ∈ (withCodes ["9007199254740992", "9007199254740993"]).responses,
        IsNumeral response.code.toList := by
      decide
    have hnodup := h (withCodes ["9007199254740992", "9007199254740993"]) (by decide) hplain
    rw [map_statusLiteral?_result hasNoNewline_standardPhrase
      fun response hresponse => .inr (hplain response hresponse)] at hnodup
    exact absurd hnodup (by decide +kernel)

end RestClient
