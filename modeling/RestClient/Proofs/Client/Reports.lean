import Mathlib.Data.List.Count
import RestClient.Client.Module
import RestClient.CommandLine.Log
import RestClient.Proofs.Names.Phrases

/-! # What is reported while a module is made

Every operation is reported when its code is written. If its result is poorer than it could be, that
is reported right behind it: it has no responses at all, or some of their codes have no phrase and
are named by the code itself. The end of the module is reported last.

* `codesWithoutPhrase`: the codes that a table has no phrase for, as often as they are declared;
* `events_traverse_variant`: the names of variants report these codes, and `events_code` says what
  else is reported of an operation;
* `reports_clientModule`: all reports of a run, with their levels and fields;
* `count_unknownCode` and `exists_level_eq_warn_iff`: how often a code is reported, and when there is
  something to warn of. -/

namespace RestClient

/-! ### Codes without a phrase -/

/-- The codes of responses that a table has no phrase for, in order. The default needs none. -/
def codesWithoutPhrase (phrases : PhraseTable) (responses : List Response) : List String :=
  (responses.map (·.code)).filter fun code => code ≠ "default" ∧ phrases code = none

variable (phrases : PhraseTable)

theorem codesWithoutPhrase_cons (response : Response) (responses : List Response) :
    codesWithoutPhrase phrases (response :: responses) =
      (if response.code ≠ "default" ∧ phrases response.code = none then [response.code] else []) ++
        codesWithoutPhrase phrases responses := by
  rw [codesWithoutPhrase, List.map_cons, List.filter_cons]
  split <;> simp_all [codesWithoutPhrase]

theorem mem_codesWithoutPhrase {responses : List Response} {code : String} :
    code ∈ codesWithoutPhrase phrases responses ↔
      (∃ response ∈ responses, response.code = code) ∧ code ≠ "default" ∧ phrases code = none := by
  simp [codesWithoutPhrase]

/-- A response is reported once if its code has no phrase, and else not at all. -/
theorem events_phrase (response : Response) :
    (response.phrase phrases).events =
      (if response.code ≠ "default" ∧ phrases response.code = none then [response.code]
        else []).map .unknownCode := by
  unfold Response.phrase
  by_cases hdefault : response.code = "default"
  · rw [if_pos (isDefault_iff.2 hdefault), if_neg fun h => h.1 hdefault]
    rfl
  · rw [if_neg fun h => hdefault (isDefault_iff.1 h)]
    cases hphrase : phrases response.code <;> simp [hdefault]

/-- **The names of variants report the codes without a phrase**, in order, and each of them as often
as it is declared. -/
theorem events_traverse_variant (names : Names) (responses : List Response) :
    (Logged.traverse (names.variant phrases) responses).events =
      (codesWithoutPhrase phrases responses).map .unknownCode := by
  induction responses with
  | nil => rfl
  | cons response responses ih =>
    have hhead : (names.variant phrases response).events = (response.phrase phrases).events := rfl
    rw [Logged.events_traverse] at ih ⊢
    rw [List.flatMap_cons, ih, hhead, events_phrase, codesWithoutPhrase_cons, List.map_append]

/-! ### Operations -/

/-- What is reported behind an operation: that it has no responses, or else its codes without a
phrase. -/
def Operation.warnings (op : Operation) : List Event :=
  if op.responses = [] then [.noResponses op.path]
  else (codesWithoutPhrase phrases op.responses).map .unknownCode

theorem events_resultDeclarations (op : Operation) (names : Names) :
    (op.resultDeclarations names phrases).events = op.warnings phrases := by
  unfold Operation.resultDeclarations Operation.warnings
  by_cases hresponses : op.responses = []
  · rw [if_pos (List.isEmpty_iff.2 hresponses), if_pos hresponses]
    rfl
  · rw [if_neg fun h => hresponses (List.isEmpty_iff.1 h), if_neg hresponses, Logged.events_map,
      events_traverse_variant]

/-- **An operation is reported once, and its warnings right behind it.** Its parameters and its
function report nothing. -/
theorem events_code (op : Operation) :
    (op.code phrases).events =
      .generating (baseName op.path op.verb) op.verb.method op.path op.responses.length ::
        op.warnings phrases := by
  rw [← events_resultDeclarations phrases op op.names]
  rfl

/-! ### Runs -/

/-- The operations are reported one behind the other, and the end of the module last. -/
theorem events_clientModule (ops : List Operation) :
    (clientModule phrases ops).events =
      (ops.flatMap fun op =>
        .generating (baseName op.path op.verb) op.verb.method op.path op.responses.length ::
          op.warnings phrases) ++ [.generated ops.length] := by
  simp only [clientModule, Logged.events_andThen, Logged.events_map, Logged.events_traverse,
    events_code]

/-- A report as it can be seen: how much it matters, what it says, and its fields. -/
structure Report where
  /-- How much it matters. -/
  level : Level
  /-- What it says. -/
  message : String
  /-- The fields in order. -/
  fields : List (String × FieldValue)
  deriving DecidableEq, Repr

/-- What can be seen of an event. -/
def Event.report (event : Event) : Report := ⟨event.level, event.message, event.fields⟩

/-- **The reports of a run.** Each operation in turn is reported with its base name, its method, its
path and the number of its responses. A warning follows if it has none, and otherwise one for every
response whose code is not the default and has no phrase in the table, in order and as often as the
code is declared. The number of operations is reported at the end, and nothing else ever. -/
theorem reports_clientModule (ops : List Operation) :
    (clientModule phrases ops).events.map Event.report =
      (ops.flatMap fun op =>
        ⟨.debug, "Generating operation.",
            [("operation", .text (baseName op.path op.verb)), ("verb", .quoted op.verb.method),
              ("path", .text op.path), ("responses", .count op.responses.length)]⟩ ::
          if op.responses = [] then
            [⟨.warn, "Operation declares no responses.", [("path", .text op.path)]⟩]
          else
            ((op.responses.map (·.code)).filter fun code =>
              code ≠ "default" ∧ phrases code = none).map fun code =>
                ⟨.warn, "Unknown status code, using generic variant name.",
                  [("code", .text code)]⟩) ++
        [⟨.debug, "TypeScript module generated.", [("operations", .count ops.length)]⟩] := by
  have hwarnings (op : Operation) : (op.warnings phrases).map Event.report =
      if op.responses = [] then
        [⟨.warn, "Operation declares no responses.", [("path", .text op.path)]⟩]
      else
        (codesWithoutPhrase phrases op.responses).map fun code =>
          ⟨.warn, "Unknown status code, using generic variant name.", [("code", .text code)]⟩ := by
    unfold Operation.warnings
    split
    · rfl
    · rw [List.map_map]
      rfl
  rw [events_clientModule, List.map_append, List.map_flatMap]
  simp only [List.map_cons, hwarnings]
  rfl

/-! ### Warnings -/

theorem count_warnings (op : Operation) (code : String) :
    (op.warnings phrases).count (.unknownCode code) =
      if code ≠ "default" ∧ phrases code = none then (op.responses.map (·.code)).count code
      else 0 := by
  have hinjective : Function.Injective Event.unknownCode := fun _ _ h => Event.unknownCode.inj h
  have hcodes : (op.warnings phrases).count (.unknownCode code) =
      (codesWithoutPhrase phrases op.responses).count code := by
    unfold Operation.warnings
    split
    · rename_i hresponses
      rw [hresponses]
      rfl
    · exact List.count_map_of_injective _ _ hinjective code
  rw [hcodes]
  split
  · rename_i hcode
    exact List.count_filter (by simpa using hcode)
  · rename_i hcode
    exact List.count_eq_zero.2 fun hmem => hcode ((mem_codesWithoutPhrase phrases).1 hmem).2

/-- **A code without a phrase is reported as often as it is declared**, by all operations together. -/
theorem count_unknownCode (ops : List Operation) (code : String) :
    (clientModule phrases ops).events.count (.unknownCode code) =
      if code ≠ "default" ∧ phrases code = none then
        ((ops.flatMap (·.responses)).map (·.code)).count code
      else 0 := by
  rw [events_clientModule, List.count_append, List.count_singleton, if_neg (by simp), Nat.add_zero]
  induction ops with
  | nil => simp
  | cons op ops ih =>
    rw [List.flatMap_cons, List.count_append, List.count_cons, if_neg (by simp), Nat.add_zero,
      count_warnings, ih, List.flatMap_cons, List.map_append, List.count_append]
    split <;> rfl

/-- **There is something to warn of** iff an operation has no responses, or one with a code that needs
a phrase and has none. -/
theorem exists_level_eq_warn_iff (ops : List Operation) :
    (∃ event ∈ (clientModule phrases ops).events, event.level = .warn) ↔
      ∃ op ∈ ops, op.responses = [] ∨
        ∃ response ∈ op.responses, response.code ≠ "default" ∧ phrases response.code = none := by
  have hwarnings (op : Operation) : (∃ event ∈ op.warnings phrases, event.level = .warn) ↔
      op.responses = [] ∨
        ∃ response ∈ op.responses, response.code ≠ "default" ∧ phrases response.code = none := by
    unfold Operation.warnings
    split
    · rename_i hresponses
      exact iff_of_true ⟨_, List.mem_singleton_self _, rfl⟩ (.inl hresponses)
    · rename_i hresponses
      rw [or_iff_right hresponses]
      constructor
      · rintro ⟨event, hevent, -⟩
        obtain ⟨code, hcode, rfl⟩ := List.mem_map.1 hevent
        obtain ⟨⟨response, hresponse, rfl⟩, hunknown⟩ := (mem_codesWithoutPhrase phrases).1 hcode
        exact ⟨response, hresponse, hunknown⟩
      · rintro ⟨response, hresponse, hunknown⟩
        have hcode := (mem_codesWithoutPhrase phrases).2 ⟨⟨response, hresponse, rfl⟩, hunknown⟩
        exact ⟨_, List.mem_map_of_mem hcode, rfl⟩
  simp only [← hwarnings, events_clientModule, List.mem_append, List.mem_flatMap, List.mem_cons]
  constructor
  · rintro ⟨event, ⟨op, hop, rfl | hevent⟩ | rfl | hnil, hlevel⟩
    · cases hlevel
    · exact ⟨op, hop, event, hevent, hlevel⟩
    · cases hlevel
    · cases hnil
  · rintro ⟨op, hop, event, hevent, hlevel⟩
    exact ⟨event, .inl ⟨op, hop, .inr hevent⟩, hlevel⟩

end RestClient
