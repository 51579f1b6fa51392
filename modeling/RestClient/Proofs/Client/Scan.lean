import Mathlib.Data.List.Chain
import Mathlib.Logic.Relation
import RestClient.Proofs.Client.Address
import RestClient.Proofs.Client.Members

/-! # Scanning a path

The parts of an address come from a scan that takes one placeholder after another off the front of the
path. Static text waits until there is something to put behind it, at first that of the server. The
scan comes to an end on every path, and the parts hold all of the server and of the path, no more and
no less.

* `Scan.step?`: a step of the scan, and `Scan.exists_finished`: after some steps there is no other one;
* `Scan.result_of_steps`: no step changes the parts that come out at the end;
* `joinSpans_placeholders` and `of_placeholders`: what a path is cut into;
* `flatMap_original_urlParts` and `spansOf_urlParts`: what the parts hold, read back from them;
* `isChain_urlParts`: no two static texts stand next to each other;
* `urlTemplate_scan`: all of this for an address. -/

namespace RestClient

open RestClient.TypeScript

/-! ### The scan -/

/-- A scan of a path: the parts that are done, the static text that waits to become one, already
escaped, and the path that is left. -/
structure Scan where
  parts : List Part
  waiting : List Char
  path : List Char

namespace Scan

/-- The scan of a path behind a server, before its first step. -/
def start (server path : String) : Scan := ⟨[], escapeTemplate server.toList, path.toList⟩

/-- A step: the next placeholder becomes a substitution, behind the text before it. -/
def step? (scan : Scan) : Option Scan :=
  (placeholder? scan.path).map fun (before, name, rest) =>
    { parts := scan.parts ++ textPart (scan.waiting ++ escapeTemplate before) ++
        [.substitution (.raw (propertyAccess "params" (String.ofList name)))]
      waiting := []
      path := rest }

/-- A scan and the one after a step of it. -/
def Step (scan next : Scan) : Prop := scan.step? = some next

/-- All parts of a scan that has no step left. -/
def finish (scan : Scan) : List Part :=
  scan.parts ++ textPart (scan.waiting ++ escapeTemplate scan.path)

/-- All parts that a scan comes to. -/
def result (scan : Scan) : List Part :=
  scan.parts ++ urlParts scan.waiting (placeholders scan.path).2 (placeholders scan.path).1

end Scan

theorem placeholders_of_placeholder? {path before name rest : List Char}
    (h : placeholder? path = some (before, name, rest)) :
    placeholders path = ((before, name) :: (placeholders rest).1, (placeholders rest).2) := by
  rw [placeholders]
  split
  · rename_i hnone
    rw [h] at hnone
    cases hnone
  · rename_i hsome
    rw [h, Option.some.injEq, Prod.mk.injEq, Prod.mk.injEq] at hsome
    obtain ⟨rfl, rfl, rfl⟩ := hsome
    rfl

namespace Scan

theorem length_of_step {scan next : Scan} (h : Step scan next) :
    next.path.length < scan.path.length := by
  obtain ⟨⟨before, name, rest⟩, hfound, rfl⟩ := Option.map_eq_some_iff.1 h
  exact length_of_placeholder? hfound

/-- No scan has endlessly many steps. -/
theorem wellFounded_step : WellFounded fun next scan : Scan => Step scan next :=
  Subrelation.wf length_of_step (measure fun scan : Scan => scan.path.length).wf

/-- **Every scan comes to an end.** -/
theorem exists_finished (scan : Scan) :
    ∃ last, Relation.ReflTransGen Step scan last ∧ last.step? = none := by
  induction scan using wellFounded_step.induction with
  | _ scan ih =>
    cases hstep : scan.step? with
    | none => exact ⟨scan, .refl, hstep⟩
    | some next =>
      obtain ⟨last, hsteps, hlast⟩ := ih next hstep
      exact ⟨last, .head hstep hsteps, hlast⟩

theorem result_of_step {scan next : Scan} (h : Step scan next) : next.result = scan.result := by
  obtain ⟨⟨before, name, rest⟩, hfound, rfl⟩ := Option.map_eq_some_iff.1 h
  simp only [result, placeholders_of_placeholder? hfound, urlParts, List.append_assoc,
    List.singleton_append]

/-- **No step changes what comes out at the end.** -/
theorem result_of_steps {scan last : Scan} (h : Relation.ReflTransGen Step scan last) :
    last.result = scan.result := by
  induction h with
  | refl => rfl
  | tail _ hstep ih => rw [result_of_step hstep, ih]

theorem result_of_finished {scan : Scan} (h : scan.step? = none) : scan.result = scan.finish := by
  have hnone : ¬ HasPlaceholder scan.path :=
    placeholder?_eq_none_iff.1 (Option.map_eq_none_iff.1 h)
  rw [result, placeholders_of_not_hasPlaceholder hnone, urlParts, finish]

theorem result_start (server path : String) :
    (start server path).result = urlTemplate server path false :=
  (List.append_nil _).symm

end Scan

/-! ### What a path is cut into -/

/-- Placeholders with the texts before them, and the text behind the last one, as one text. -/
def joinSpans (spans : List (List Char × List Char)) (tail : List Char) : List Char :=
  (spans.flatMap fun (before, name) => before ++ '{' :: (name ++ ['}'])) ++ tail

/-- **A path is its placeholders and the texts around them.** -/
theorem joinSpans_placeholders (path : List Char) :
    joinSpans (placeholders path).1 (placeholders path).2 = path := by
  fun_induction placeholders path with
  | case1 path hp => rfl
  | case2 path before name rest hp _ spans tail hs ih =>
    obtain ⟨hpath, -, -⟩ := eq_of_placeholder? hp
    rw [hs] at ih
    rw [hpath, ← ih]
    simp [joinSpans]

/-- **What a path is cut into**: no name has a closing brace in it, and no text around the
placeholders has an opening brace with a closing one behind it. -/
theorem of_placeholders (path : List Char) :
    (∀ span ∈ (placeholders path).1, ¬ HasPlaceholder span.1 ∧ '}' ∉ span.2) ∧
      ¬ HasPlaceholder (placeholders path).2 := by
  fun_induction placeholders path with
  | case1 path hp => exact ⟨List.forall_mem_nil _, placeholder?_eq_none_iff.1 hp⟩
  | case2 path before name rest hp _ spans tail hs ih =>
    obtain ⟨-, hbefore, hname⟩ := eq_of_placeholder? hp
    have htext : ¬ HasPlaceholder before := by
      rintro ⟨front, back, rfl, -⟩
      exact hbefore (by simp)
    rw [hs] at ih
    exact ⟨List.forall_mem_cons.2 ⟨⟨htext, hname⟩, ih.1⟩, ih.2⟩

/-! ### What parts hold -/

/-- Static text without its escapes: a backslash goes, and the character behind it stays. -/
def unescape : List Char → List Char
  | [] => []
  | '\\' :: c :: s => c :: unescape s
  | c :: s => c :: unescape s

theorem unescape_plain {c : Char} (s : List Char) (h : c ≠ '\\') :
    unescape (c :: s) = c :: unescape s := by
  rw [unescape]
  rintro d r rfl
  exact absurd rfl h

/-- **Escaped text is the text itself without its escapes**, whatever stands behind it. -/
theorem unescape_escapeTemplate_append (s t : List Char) :
    unescape (escapeTemplate s ++ t) = s ++ unescape t := by
  fun_induction escapeTemplate s with
  | case1 => rfl
  | case2 rest ih =>
    rw [List.cons_append, List.cons_append, List.cons_append, unescape,
      unescape_plain _ (by decide), ih]
    rfl
  | case3 c rest _ _ ih =>
    rw [List.cons_append, List.cons_append, unescape, ih]
    rfl
  | case4 c rest _ hc ih =>
    rw [not_or] at hc
    rw [List.cons_append, unescape_plain _ hc.1, ih]
    rfl

theorem unescape_escapeTemplate (s : List Char) : unescape (escapeTemplate s) = s := by
  have happend := unescape_escapeTemplate_append s []
  rwa [List.append_nil, unescape, List.append_nil] at happend

/-- The text that a part was made from: static text without its escapes, and for a substitution the
placeholder of every parameter that it reads. -/
def originalText : Part → List Char
  | .text text => unescape text.toList
  | .substitution operand =>
    (operand.reads "params").flatMap fun name => '{' :: (name.toList ++ ['}'])

/-- Spans with a text before the first of them. -/
def putBefore (s : List Char) :
    List (List Char × List Char) × List Char → List (List Char × List Char) × List Char
  | ([], tail) => ([], s ++ tail)
  | ((before, name) :: spans, tail) => ((s ++ before, name) :: spans, tail)

/-- The parameters that parts read, each with the static text before it, and the static text behind
the last one. -/
def spansOf : List Part → List (List Char × List Char) × List Char
  | [] => ([], [])
  | .text text :: parts => putBefore (unescape text.toList) (spansOf parts)
  | .substitution operand :: parts =>
    ((operand.reads "params").map (fun name => ([], name.toList)) ++ (spansOf parts).1,
      (spansOf parts).2)

theorem reads_access (name : List Char) :
    (Expr.raw (propertyAccess "params" (String.ofList name))).reads "params" =
      [String.ofList name] :=
  codeReads_propertyAccess _ isBareName_params

theorem flatMap_original_textPart (s : List Char) :
    (textPart s).flatMap originalText = unescape s := by
  unfold textPart
  split
  · rename_i hempty
    rw [List.isEmpty_iff.1 hempty]
    rfl
  · rw [List.flatMap_singleton, originalText, String.toList_ofList]

theorem spansOf_textPart_append (s : List Char) (parts : List Part) :
    spansOf (textPart s ++ parts) = putBefore (unescape s) (spansOf parts) := by
  unfold textPart
  split
  · rename_i hempty
    rw [List.isEmpty_iff.1 hempty, List.nil_append, unescape]
    obtain ⟨spans, tail⟩ := spansOf parts
    cases spans <;> rfl
  · rw [List.singleton_append, spansOf, String.toList_ofList]

/-- **The parts of a path hold all of it.** -/
theorem flatMap_original_urlParts (s tail : List Char) (spans : List (List Char × List Char)) :
    (urlParts (escapeTemplate s) tail spans).flatMap originalText = s ++ joinSpans spans tail := by
  induction spans generalizing s with
  | nil =>
    rw [urlParts, flatMap_original_textPart, unescape_escapeTemplate_append,
      unescape_escapeTemplate]
    rfl
  | cons span spans ih =>
    obtain ⟨before, name⟩ := span
    have hrest : (urlParts [] tail spans).flatMap originalText = joinSpans spans tail := ih []
    rw [urlParts, List.flatMap_append, List.flatMap_cons, flatMap_original_textPart,
      unescape_escapeTemplate_append, unescape_escapeTemplate, originalText, reads_access, hrest]
    simp [joinSpans]

/-- **The parts of a path are cut like the path**, with the static text before them put before it. -/
theorem spansOf_urlParts (s tail : List Char) (spans : List (List Char × List Char)) :
    spansOf (urlParts (escapeTemplate s) tail spans) = putBefore s (spans, tail) := by
  induction spans generalizing s with
  | nil =>
    have hpart := spansOf_textPart_append (escapeTemplate s ++ escapeTemplate tail) []
    rw [List.append_nil, unescape_escapeTemplate_append, unescape_escapeTemplate] at hpart
    rw [urlParts, hpart]
    simp [spansOf, putBefore]
  | cons span spans ih =>
    obtain ⟨before, name⟩ := span
    have hrest : spansOf (urlParts [] tail spans) = putBefore [] (spans, tail) := ih []
    rw [urlParts, spansOf_textPart_append, unescape_escapeTemplate_append, unescape_escapeTemplate,
      spansOf, reads_access, hrest]
    cases spans <;> simp [putBefore]

/-! ### Which parts there are -/

/-- Static text. -/
def isStatic : Part → Bool
  | .text _ => true
  | .substitution _ => false

theorem mem_textPart {s : List Char} {part : Part} (h : part ∈ textPart s) :
    s ≠ [] ∧ part = .text (String.ofList s) := by
  unfold textPart at h
  split at h
  · cases h
  · rename_i hne
    exact ⟨by simpa using hne, List.mem_singleton.1 h⟩

/-- A part of a path is static text, or it reads a parameter. -/
theorem of_mem_urlParts {lead tail : List Char} {spans : List (List Char × List Char)} {part : Part}
    (h : part ∈ urlParts lead tail spans) :
    (∃ s ≠ [], part = .text (String.ofList s)) ∨
      ∃ span ∈ spans,
        part = .substitution (.raw (propertyAccess "params" (String.ofList span.2))) := by
  induction spans generalizing lead with
  | nil => exact .inl ⟨_, mem_textPart h⟩
  | cons span spans ih =>
    obtain ⟨before, name⟩ := span
    rw [urlParts, List.mem_append, List.mem_cons] at h
    rcases h with h | rfl | h
    · exact .inl ⟨_, mem_textPart h⟩
    · exact .inr ⟨(before, name), List.mem_cons_self, rfl⟩
    · rcases ih h with htext | ⟨span, hspan, hpart⟩
      · exact .inl htext
      · exact .inr ⟨span, List.mem_cons_of_mem _ hspan, hpart⟩

/-- Of two parts next to each other, one is no static text. -/
theorem isChain_urlParts (lead tail : List Char) (spans : List (List Char × List Char)) :
    (urlParts lead tail spans).IsChain fun a b => ¬ (isStatic a = true ∧ isStatic b = true) := by
  have htext (s : List Char) :
      (textPart s).IsChain fun a b => ¬ (isStatic a = true ∧ isStatic b = true) := by
    unfold textPart
    split
    · exact .nil
    · exact .singleton _
  induction spans generalizing lead with
  | nil => exact htext _
  | cons span spans ih =>
    obtain ⟨before, name⟩ := span
    rw [urlParts, List.isChain_append, List.isChain_cons]
    refine ⟨htext _, ⟨?_, ih []⟩, ?_⟩
    · rintro b - ⟨ha, -⟩
      cases ha
    · rintro a - b hb ⟨-, hb'⟩
      obtain rfl : _ = b := Option.some.inj hb
      cases hb'

/-! ### Addresses -/

/-- **The parts of an address hold the server and the path, no more and no less.** Apart from the
query at the end, the scan that gives them comes to an end; they are the server and the path, when
escapes are taken out and substitutions are written as placeholders; no static text is empty or next to
another one; and the path is cut where it should be: no name has a closing brace in it, and no text
before, between and behind the placeholders has an opening brace with a closing one behind it. -/
theorem urlTemplate_scan (server path : String) (hasQuery : Bool) :
    urlTemplate server path hasQuery = urlTemplate server path false ++
      (if hasQuery then [.substitution (.identifier "query")] else []) ∧
    (∃ last, Relation.ReflTransGen Scan.Step (.start server path) last ∧ last.step? = none ∧
      urlTemplate server path false = last.finish) ∧
    (urlTemplate server path false).flatMap originalText = server.toList ++ path.toList ∧
    (∀ text, .text text ∈ urlTemplate server path false → text ≠ "") ∧
    (∀ text text', ¬ [.text text, .text text'] <:+: urlTemplate server path false) ∧
    (∀ operand, .substitution operand ∈ urlTemplate server path false →
      ∃ name : String, '}' ∉ name.toList ∧ operand = .raw (propertyAccess "params" name)) ∧
    ∃ spans tail, spansOf (urlTemplate server path false) =
        putBefore server.toList (spans, tail) ∧
      path.toList = joinSpans spans tail ∧
      (∀ name ∈ spans.map Prod.snd, '}' ∉ name) ∧
      ∀ text ∈ spans.map Prod.fst ++ [tail], ¬ HasPlaceholder text := by
  have hparts : urlTemplate server path false = urlParts (escapeTemplate server.toList)
      (placeholders path.toList).2 (placeholders path.toList).1 := List.append_nil _
  obtain ⟨hspans, htail⟩ := of_placeholders path.toList
  refine ⟨?_, ?_, ?_, ?_, ?_, ?_, (placeholders path.toList).1, (placeholders path.toList).2, ?_,
    (joinSpans_placeholders path.toList).symm, ?_, ?_⟩
  · rw [hparts]
    rfl
  · obtain ⟨last, hsteps, hlast⟩ := (Scan.start server path).exists_finished
    refine ⟨last, hsteps, hlast, ?_⟩
    rw [← Scan.result_of_finished hlast, Scan.result_of_steps hsteps, Scan.result_start]
  · rw [hparts, flatMap_original_urlParts, joinSpans_placeholders]
  · intro text htext
    rw [hparts] at htext
    rcases of_mem_urlParts htext with ⟨s, hs, heq⟩ | ⟨span, -, heq⟩
    · obtain rfl : text = String.ofList s := Part.text.inj heq
      intro hempty
      exact hs (by rw [← String.toList_ofList (l := s), hempty]; rfl)
    · cases heq
  · rintro text text' ⟨front, back, heq⟩
    have hchain := isChain_urlParts (escapeTemplate server.toList)
      (placeholders path.toList).2 (placeholders path.toList).1
    rw [← hparts, ← heq, List.append_assoc] at hchain
    exact (List.isChain_append_cons_cons.1 hchain).2.1 ⟨rfl, rfl⟩
  · intro operand hoperand
    rw [hparts] at hoperand
    rcases of_mem_urlParts hoperand with ⟨s, -, heq⟩ | ⟨span, hspan, heq⟩
    · cases heq
    · refine ⟨String.ofList span.2, ?_, Part.substitution.inj heq⟩
      rw [String.toList_ofList]
      exact (hspans span hspan).2
  · rw [hparts, spansOf_urlParts]
  · exact List.forall_mem_map.2 fun span hspan => (hspans span hspan).2
  · rw [List.forall_mem_append]
    exact ⟨List.forall_mem_map.2 fun span hspan => (hspans span hspan).1,
      List.forall_mem_singleton.2 htail⟩

end RestClient
