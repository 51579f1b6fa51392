import Mathlib.Data.List.TakeWhile
import RestClient.Client.Url
import RestClient.Proofs.TypeScript.Access
import RestClient.Proofs.TypeScript.Template

/-! # Reading addresses

The address of a request, read as a template literal. It should consist of the server and the path
as they are, with a substitution for every placeholder of the path (`addressPieces`).

* `placeholder?_eq_none_iff` and `eq_of_placeholder?` say what a placeholder is without the scan;
* `readTemplate_pathCode`: from behind the server, every path is read as it should be;
* `readTemplateLiteral_urlTemplate_iff`: a whole address is, except for one that has a dollar sign
  at the end of the server and, at the beginning of the path, an open brace that nothing closes. -/

namespace RestClient

open RestClient.TypeScript

/-! ### Placeholders -/

theorem dropWhile_ne_eq_nil_iff {a : Char} {s : List Char} :
    s.dropWhile (· != a) = [] ↔ a ∉ s := by
  simp only [List.dropWhile_eq_nil_iff, bne_iff_ne]
  exact ⟨fun h ha => h a ha rfl, fun h c hc hca => h (hca ▸ hc)⟩

/-- A text that holds a character is cut at the first one. -/
theorem eq_of_dropWhile_ne {a c : Char} {s r : List Char} (h : s.dropWhile (· != a) = c :: r) :
    s = s.takeWhile (· != a) ++ a :: r ∧ a ∉ s.takeWhile (· != a) := by
  have hc : c = a := by
    have hne : s.dropWhile (· != a) ≠ [] := by simp [h]
    have := List.head_dropWhile_not (· != a) hne
    simpa [h] using this
  subst hc
  refine ⟨?_, fun ha => by simpa using List.mem_takeWhile_imp ha⟩
  rw [← h, List.takeWhile_append_dropWhile]

/-- A text has an opening brace with a closing one somewhere behind it. -/
def HasPlaceholder (s : List Char) : Prop := ∃ before rest, s = before ++ '{' :: rest ∧ '}' ∈ rest

/-- A placeholder reaches from the first opening brace to the first closing brace behind it. -/
theorem eq_of_placeholder? {path before name rest : List Char}
    (h : placeholder? path = some (before, name, rest)) :
    path = before ++ '{' :: (name ++ '}' :: rest) ∧ '{' ∉ before ∧ '}' ∉ name := by
  unfold placeholder? at h
  split at h
  · simp at h
  rename_i opened ho
  split at h
  · simp at h
  rename_i rest' hr
  obtain ⟨rfl, rfl, rfl⟩ : _ ∧ _ ∧ _ := by simpa using h
  obtain ⟨hpath, hbefore⟩ := eq_of_dropWhile_ne ho
  obtain ⟨hopened, hname⟩ := eq_of_dropWhile_ne hr
  refine ⟨?_, hbefore, hname⟩
  rw [← hopened, ← hpath]

/-- **A path is searched to the end for a placeholder.** -/
theorem placeholder?_eq_none_iff {path : List Char} :
    placeholder? path = none ↔ ¬ HasPlaceholder path := by
  constructor
  · rintro h ⟨before, rest, rfl, hrest⟩
    unfold placeholder? at h
    split at h
    case h_1 hd => exact absurd (dropWhile_ne_eq_nil_iff.1 hd) (by simp)
    case h_2 c opened hd =>
      split at h
      case h_2 => simp at h
      case h_1 hnone =>
        refine dropWhile_ne_eq_nil_iff.1 hnone ?_
        rw [List.dropWhile_append] at hd
        split at hd
        · obtain ⟨-, rfl⟩ : _ ∧ rest = opened := by simpa using hd
          exact hrest
        · have hsuffix : '{' :: rest <:+ c :: opened := hd ▸ List.suffix_append _ _
          rcases List.suffix_cons_iff.1 hsuffix with he | hs
          · exact (List.cons.inj he).2 ▸ hrest
          · exact hs.subset (List.mem_cons_of_mem _ hrest)
  · intro h
    cases hp : placeholder? path with
    | none => rfl
    | some span =>
      obtain ⟨before, name, rest⟩ := span
      exact absurd ⟨before, name ++ '}' :: rest, (eq_of_placeholder? hp).1, by simp⟩ h

theorem placeholders_of_not_hasPlaceholder {path : List Char} (h : ¬ HasPlaceholder path) :
    placeholders path = ([], path) := by
  rw [placeholders]
  split
  · rfl
  · rename_i hp
    simp [placeholder?_eq_none_iff.2 h] at hp

theorem not_hasPlaceholder_of_notMem {path : List Char} (h : '}' ∉ path) :
    ¬ HasPlaceholder path := by
  rintro ⟨before, rest, rfl, hr⟩
  exact h (by simp [hr])

/-! ### The pieces of an address -/

/-- The pieces of a path, with more pieces behind them. An opening brace that has a closing one
behind it begins a placeholder, which reaches to the next closing brace; every other character
stands for itself. -/
def pathPieces (ending : List Piece) (path : List Char) : List Piece :=
  match path with
  | [] => ending
  | c :: rest =>
    if c = '{' ∧ '}' ∈ rest then
      .substitution (propertyAccess "params" (String.ofList (rest.takeWhile (· != '}')))).toList ::
        pathPieces ending ((rest.dropWhile (· != '}')).drop 1)
    else Piece.push c (pathPieces ending rest)
termination_by path.length
decreasing_by
  · have := length_dropWhile_le (p := (· != '}')) rest
    simp only [List.length_drop, List.length_cons]
    omega
  · simp

/-- The pieces of an address: the server, the path, and the query if there is one. -/
def addressPieces (server path : List Char) (hasQuery : Bool) : List Piece :=
  Piece.pushText server
    (pathPieces (if hasQuery then [.substitution "query".toList] else []) path)

theorem pathPieces_of_not_hasPlaceholder {path : List Char} (ending : List Piece)
    (h : ¬ HasPlaceholder path) : pathPieces ending path = Piece.pushText path ending := by
  induction path with
  | nil => rw [pathPieces]; rfl
  | cons c rest ih =>
    have hc : ¬ (c = '{' ∧ '}' ∈ rest) := by
      rintro ⟨rfl, hr⟩
      exact h ⟨[], rest, rfl, hr⟩
    have hrest : ¬ HasPlaceholder rest := by
      rintro ⟨before, rest', rfl, hr⟩
      exact h ⟨c :: before, rest', rfl, hr⟩
    rw [pathPieces, if_neg hc, ih hrest]
    rfl

theorem pathPieces_append {before name rest : List Char} (ending : List Piece)
    (hb : '{' ∉ before) (hn : '}' ∉ name) :
    pathPieces ending (before ++ '{' :: (name ++ '}' :: rest)) =
      Piece.pushText before
        (.substitution (propertyAccess "params" (String.ofList name)).toList ::
          pathPieces ending rest) := by
  induction before with
  | nil =>
    have hname : ∀ c ∈ name, (c != '}') = true := by
      rintro c hc
      rw [bne_iff_ne]
      rintro rfl
      exact hn hc
    rw [List.nil_append, pathPieces, if_pos ⟨rfl, by simp⟩, List.takeWhile_append_of_pos hname,
      List.dropWhile_append_of_pos hname]
    simp [Piece.pushText]
  | cons c before ih =>
    rw [List.mem_cons, not_or] at hb
    rw [List.cons_append, pathPieces, if_neg fun h => hb.1 h.1.symm, ih hb.2]
    rfl

/-! ### The text of an address -/

/-- The text of a path in a template literal. -/
def pathCode (tail : List Char) : List (List Char × List Char) → List Char
  | [] => escapeTemplate tail
  | (before, name) :: spans =>
    escapeTemplate before ++
      '$' :: '{' :: ((propertyAccess "params" (String.ofList name)).toList ++
        '}' :: pathCode tail spans)

theorem flatMap_textPart (s : List Char) :
    (textPart s).flatMap (fun part => part.print.toList) = s := by
  unfold textPart
  split
  case isTrue h => exact (List.isEmpty_iff.1 h).symm
  case isFalse => simp [Part.print]

theorem flatMap_urlParts (lead tail : List Char) (spans : List (List Char × List Char)) :
    (urlParts lead tail spans).flatMap (fun part => part.print.toList) =
      lead ++ pathCode tail spans := by
  induction spans generalizing lead with
  | nil => exact flatMap_textPart _
  | cons span spans ih =>
    obtain ⟨before, name⟩ := span
    rw [urlParts, List.flatMap_append, flatMap_textPart, List.flatMap_cons, ih, pathCode]
    simp [Part.print, Expr.print]

/-- The text behind the path in an address. -/
def addressEnd (hasQuery : Bool) : List Char :=
  if hasQuery then '$' :: '{' :: ("query".toList ++ ['}', '\x60']) else ['\x60']

theorem toList_print_urlTemplate (server path : String) (hasQuery : Bool) :
    (Expr.print (.template (urlTemplate server path hasQuery))).toList =
      '\x60' :: (escapeTemplate server.toList ++
        (pathCode (placeholders path.toList).2 (placeholders path.toList).1 ++
          addressEnd hasQuery)) := by
  rw [Expr.print, Part.printAll_eq_map, String.toList_append, String.toList_append,
    String.toList_join, List.flatMap_map, urlTemplate, List.flatMap_append, flatMap_urlParts]
  cases hasQuery <;> simp [addressEnd, Part.print, Expr.print]

/-! ### Reading an address -/

theorem readTemplate_addressEnd (hasQuery : Bool) :
    readTemplate (addressEnd hasQuery) =
      some (if hasQuery then [.substitution "query".toList] else [], []) := by
  cases hasQuery with
  | false => exact readTemplate_backquote []
  | true =>
    have hread : readSubstitution false ("query".toList ++ ['}', '\x60']) =
        some ("query".toList, ['\x60']) := by decide
    rw [addressEnd, if_pos rfl, readTemplate_substitution hread, readTemplate_backquote]
    rfl

/-- The text of a path is read as its pieces. -/
theorem readTemplate_pathCode (path : List Char) {t : List Char} (ht : t.head? ≠ some '{') :
    readTemplate (pathCode (placeholders path).2 (placeholders path).1 ++ t) =
      (readTemplate t).map fun (pieces, rest) => (pathPieces pieces path, rest) := by
  fun_induction placeholders path with
  | case1 path hp =>
    rw [pathCode, readTemplate_escapeTemplate_append fun h => ht h.2]
    simp only [pathPieces_of_not_hasPlaceholder _ (placeholder?_eq_none_iff.1 hp)]
  | case2 path before name rest hp _ spans tail hs ih =>
    obtain ⟨hpath, hbefore, hname⟩ := eq_of_placeholder? hp
    rw [hs] at ih
    -- The text before a placeholder meets a dollar sign, never a brace.
    have hjunction (r : List Char) : ¬ OpensBetween before ('$' :: r) := by simp [OpensBetween]
    have hcode : isBareName "params".toList = true := by decide
    simp only [pathCode, List.append_assoc, List.cons_append]
    rw [readTemplate_escapeTemplate_append (hjunction _),
      readTemplate_substitution (readSubstitution_propertyAccess _ _ hcode), ih, Option.map_map,
      Option.map_map, hpath]
    simp only [pathPieces_append _ hbefore hname]
    rfl

/-- No path begins with a brace in a template literal, but for one that begins with an open brace
that nothing closes. -/
theorem head?_pathCode_append {path t : List Char} (ht : t.head? ≠ some '{') :
    (pathCode (placeholders path).2 (placeholders path).1 ++ t).head? = some '{' ↔
      path.head? = some '{' ∧ '}' ∉ path := by
  fun_cases placeholders path with
  | case1 hp =>
    rw [placeholder?_eq_none_iff] at hp
    rw [pathCode, head?_escapeTemplate_append]
    cases path with
    | nil => simpa using ht
    | cons c rest =>
      rw [List.cons_append, List.head?_cons, List.head?_cons]
      refine ⟨?_, And.left⟩
      rintro hc
      obtain rfl : c = '{' := Option.some.inj hc
      refine ⟨rfl, fun hr => hp ⟨[], rest, rfl, ?_⟩⟩
      exact (List.mem_cons.1 hr).resolve_left (by decide)
  | case2 before name rest hp _ spans tail hs =>
    obtain ⟨rfl, hbefore, -⟩ := eq_of_placeholder? hp
    rw [pathCode, List.append_assoc, head?_escapeTemplate_append]
    cases before with
    | nil => simp
    | cons c before =>
      have hc : c ≠ '{' := fun hc => hbefore (by simp [hc])
      simp [hc]

/-- The only substitution of an address whose path has no closing brace is the query. -/
theorem codes_addressPieces {path : List Char} (server : List Char) (hasQuery : Bool)
    (h : '}' ∉ path) :
    Piece.codes (addressPieces server path hasQuery) =
      if hasQuery then ["query".toList] else [] := by
  rw [addressPieces, pathPieces_of_not_hasPlaceholder _ (not_hasPlaceholder_of_notMem h),
    Piece.codes_pushText, Piece.codes_pushText]
  cases hasQuery <;> rfl

/-- A dollar sign before an open brace swallows what stands between: no substitution that is read
from there on is one of the address. -/
theorem readTemplate_open_ne {rest : List Char} {hasQuery : Bool} (hrest : '}' ∉ rest)
    {pieces : List Piece}
    (h : readTemplate ('$' :: '{' :: (escapeTemplate rest ++ addressEnd hasQuery)) =
      some (pieces, [])) :
    Piece.codes pieces ≠ if hasQuery then ["query".toList] else [] := by
  cases hr : readSubstitution false (escapeTemplate rest ++ addressEnd hasQuery) with
  | none => rw [readTemplate_open_none hr] at h; simp at h
  | some span =>
    obtain ⟨code, r⟩ := span
    rw [readTemplate_substitution hr] at h
    obtain ⟨⟨pieces', rest'⟩, -, he⟩ := Option.map_eq_some_iff.1 h
    obtain ⟨rfl, -⟩ := Prod.mk.inj he
    cases hasQuery with
    | false => simp [Piece.codes]
    | true =>
      intro hcodes
      obtain rfl : code = "query".toList := (List.cons.inj hcodes).1
      have hbrace : ∀ c ∈ escapeTemplate rest, (c != '}') = true := by
        intro c hc
        rw [bne_iff_ne]
        rintro rfl
        exact notMem_escapeTemplate hrest (by decide) hc
      have heq := congrArg (List.takeWhile (· != '}')) (eq_append_of_readSubstitution hr)
      rw [List.takeWhile_append_of_pos hbrace] at heq
      have hlength := congrArg List.length heq
      simp [addressEnd] at hlength

/-- **An address is read as its server and its path with one substitution for every placeholder**,
and nothing in the two texts opens, closes or swallows a substitution, unless the server ends in a
dollar sign and the path begins with a brace that nothing closes. -/
theorem readTemplateLiteral_urlTemplate_iff (server path : String) (hasQuery : Bool) :
    readTemplateLiteral (Expr.print (.template (urlTemplate server path hasQuery))).toList =
        some (addressPieces server.toList path.toList hasQuery, []) ↔
      ¬ (server.toList.getLast? = some '$' ∧ path.toList.head? = some '{' ∧
        '}' ∉ path.toList) := by
  have hend : (addressEnd hasQuery).head? ≠ some '{' := by cases hasQuery <;> decide
  rw [toList_print_urlTemplate, readTemplateLiteral]
  constructor
  · rintro h ⟨hserver, hpath, hclosed⟩
    obtain ⟨s, hs⟩ := List.getLast?_eq_some_iff.1 hserver
    obtain ⟨rest, hrest⟩ := List.head?_eq_some_iff.1 hpath
    have hdollar : escapeTemplate (s ++ ['$']) = escapeTemplate s ++ ['$'] :=
      escapeTemplate_append (by simp [OpensBetween])
    have hbrace : escapeTemplate ('{' :: rest) = '{' :: escapeTemplate rest :=
      escapeTemplate_append (s := ['{']) (by simp [OpensBetween])
    have hjunction (r : List Char) : ¬ OpensBetween s ('$' :: r) := by simp [OpensBetween]
    rw [placeholders_of_not_hasPlaceholder (not_hasPlaceholder_of_notMem hclosed), pathCode, hs,
      hrest, hdollar, hbrace, List.append_assoc, List.singleton_append, List.cons_append,
      readTemplate_escapeTemplate_append (hjunction _)] at h
    obtain ⟨⟨pieces, rest'⟩, hread, he⟩ := Option.map_eq_some_iff.1 h
    obtain ⟨hpieces, rfl⟩ := Prod.mk.inj he
    have hclosed' : '}' ∉ rest := fun hr => hclosed (hrest ▸ List.mem_cons_of_mem _ hr)
    -- What is read has the substitutions of the address, but it begins with another one.
    refine readTemplate_open_ne hclosed' hread ?_
    rw [← codes_addressPieces (s ++ ['$']) hasQuery (hrest ▸ hclosed), ← hpieces,
      Piece.codes_pushText]
  · intro h
    have hjunction : ¬ OpensBetween server.toList
        (pathCode (placeholders path.toList).2 (placeholders path.toList).1 ++
          addressEnd hasQuery) :=
      fun ho => h ⟨ho.1, (head?_pathCode_append hend).1 ho.2⟩
    rw [readTemplate_escapeTemplate_append hjunction, readTemplate_pathCode _ hend,
      readTemplate_addressEnd]
    rfl

end RestClient
