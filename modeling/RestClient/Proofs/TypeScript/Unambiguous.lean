import RestClient.Proofs.TypeScript.Parse

/-! # The text of an expression determines it

Expressions are printed without parentheses, so that not every expression can stand everywhere. The
request functions only use expressions of two ranks: operands, which can stand anywhere, and values,
which can stand on their own, as arguments, and behind the keys of an object literal.

* `HasRank` says which expressions have which rank;
* `ReadsBack` says of an expression that the reader gets it back from its text, inside of anything
  and in front of whatever can follow it. Each kind of node keeps that of the nodes below it;
* `HasRank.readsBack` goes over all expressions, by induction on their rank;
* `print_unambiguous`: a value is parsed back from its text, so that no two values have one text. -/

namespace RestClient.TypeScript

/-- Where an expression can stand. -/
inductive Rank where
  /-- Anywhere. -/
  | operand
  /-- On its own, as an argument, or behind the key of a property. -/
  | value
  deriving DecidableEq, Repr

/-- The expressions of a rank. The word that awaits a promise is no variable, and the static texts
of a template literal are escaped, joined and not empty. -/
inductive HasRank : Rank → Expr → Prop
  | identifier {name : String} (hname : isBareName name.toList = true) (hawait : name ≠ "await") :
    HasRank .operand (.identifier name)
  | literal (value : String) : HasRank .operand (.literal value)
  | member {object : Expr} {property : String} (hobject : HasRank .operand object)
    (hproperty : isBareName property.toList = true) : HasRank .operand (.member object property)
  | call {callee : Expr} {arguments : List Expr} (hcallee : HasRank .operand callee)
    (harguments : ∀ argument ∈ arguments, HasRank .value argument) :
    HasRank .operand (.call callee arguments)
  | object {entries : List Entry}
    (hproperty : ∀ key value, .property key value ∈ entries → HasRank .value value)
    (hshorthand : ∀ name, .shorthand name ∈ entries → isBareName name.toList = true)
    (hspread : ∀ operand, .spread operand ∈ entries → HasRank .operand operand) :
    HasRank .operand (.object entries)
  | template {parts : List Part}
    (htext : ∀ text, .text text ∈ parts → ∃ s ≠ [], text = String.ofList (escapeTemplate s))
    (hjoined : ∀ text text', ¬ [.text text, .text text'] <:+: parts)
    (hsubstitution : ∀ operand, .substitution operand ∈ parts → HasRank .operand operand) :
    HasRank .operand (.template parts)
  | operand {e : Expr} (he : HasRank .operand e) : HasRank .value e
  | await {operand : Expr} (hoperand : HasRank .operand operand) : HasRank .value (.await operand)
  | cast {operand : Expr} {name : String} (hoperand : HasRank .operand operand)
    (hname : isBareName name.toList = true) : HasRank .value (.cast operand (.named name))
  | nullish {left right : Expr} (hleft : HasRank .operand left) (hright : HasRank .operand right) :
    HasRank .value (.nullish left right)
  | conditional {condition consequent alternative : Expr} (hcondition : HasRank .operand condition)
    (hconsequent : HasRank .operand consequent) (halternative : HasRank .operand alternative) :
    HasRank .value (.conditional condition consequent alternative)

variable {frames : List Frame} {e : Expr} {t : List Char}

/-- An expression is read back from its text, in front of whatever can follow it. Behind an operand
the reader still looks for more of the expression, behind a value it does not. -/
def ReadsBack : Rank → Expr → Prop
  | .operand, e => ∀ frames t, EndsName t →
    readOperand frames (e.print.toList ++ t) = readBehind frames e t
  | .value, e => ∀ frames t, EndsValue t →
    readOperand frames (e.print.toList ++ t) = readEnded frames e t

theorem ReadsBack.value (h : ReadsBack .operand e) : ReadsBack .value e := by
  intro frames t ht
  rw [h frames t ht.endsName, ht.readBehind]

/-- The text of a value is not empty and does not begin with a closing parenthesis. -/
theorem ReadsBack.head?_append_ne (h : ReadsBack .value e) (more : List Char) :
    (e.print.toList ++ more).head? ≠ some ')' := by
  have hread := h [] [] .nil
  rw [List.append_nil, readEnded] at hread
  intro hhead
  have hnone : readOperand [] e.print.toList = none := by
    cases hprint : e.print.toList with
    | nil => exact readOperand_nothing (.inl rfl)
    | cons c rest =>
      rw [hprint] at hhead
      exact readOperand_nothing (.inr hhead)
  rw [hnone] at hread
  cases hread

/-! ### Lists of nodes -/

theorem exists_intercalate_eq_append (separator s : String) (l : List String) :
    ∃ more, separator.intercalate (s :: l) = s ++ more := by
  cases l with
  | nil => exact ⟨"", by rw [String.intercalate_singleton, String.append_empty]⟩
  | cons next l => exact ⟨_, by rw [String.intercalate_cons_cons, String.append_assoc]⟩

/-- A reader that gathers nodes from in front of commas, and ends with the one in front of what
closes the list, gathers all nodes of the list. -/
theorem read_commaSeparated {α β : Type} {text : α → String} {close : List Char} {item : α}
    {items : List α} (read : List α → List Char → β) (finish : List α → β) (before : List α)
    (hnext : ∀ a ∈ item :: items, ∀ before rest,
      read before ((text a).toList ++ ',' :: ' ' :: rest) = read (a :: before) rest)
    (hlast : ∀ a ∈ item :: items, ∀ before,
      read before ((text a).toList ++ close) = finish (a :: before)) :
    read before ((", ".intercalate ((item :: items).map text)).toList ++ close) =
      finish ((item :: items).reverse ++ before) := by
  induction items generalizing item before with
  | nil =>
    -- The last node stands in front of what closes the list.
    rw [List.map_singleton, String.intercalate_singleton, hlast item List.mem_cons_self]
    rfl
  | cons next items ih =>
    have hcomma (rest : List Char) : ", ".toList ++ rest = ',' :: ' ' :: rest := rfl
    have hrest : read (item :: before)
        ((", ".intercalate ((next :: items).map text)).toList ++ close) =
          finish ((next :: items).reverse ++ item :: before) :=
      ih (item :: before) (fun a ha => hnext a (List.mem_cons_of_mem _ ha))
        (fun a ha => hlast a (List.mem_cons_of_mem _ ha))
    have hreverse : (next :: items).reverse ++ item :: before =
        (item :: next :: items).reverse ++ before := by
      simp
    rw [List.map_cons, List.map_cons, String.intercalate_cons_cons, ← List.map_cons,
      String.toList_append, String.toList_append, List.append_assoc, List.append_assoc, hcomma,
      hnext item List.mem_cons_self, hrest, hreverse]

/-! ### Arguments -/

theorem readOperand_argumentList {callee argument : Expr} {arguments : List Expr}
    (h : ∀ e ∈ argument :: arguments, ReadsBack .value e) :
    readOperand (.argument callee [] :: frames)
      ((", ".intercalate ((argument :: arguments).map Expr.print)).toList ++ ')' :: t) =
        readBehind frames (.call callee (argument :: arguments)) t := by
  have hread := read_commaSeparated
    (fun before s => readOperand (.argument callee before :: frames) s)
    (fun before => readBehind frames (.call callee before.reverse) t) []
    (fun e he before rest => by rw [h e he _ _ (.comma _), readEnded])
    (fun e he before => by rw [h e he _ _ (.parenthesis t), readEnded])
  rw [hread, List.append_nil, List.reverse_reverse]

theorem ReadsBack.call {callee : Expr} {arguments : List Expr} (hcallee : ReadsBack .operand callee)
    (h : ∀ e ∈ arguments, ReadsBack .value e) : ReadsBack .operand (.call callee arguments) := by
  intro frames t ht
  have hprint : (Expr.call callee arguments).print.toList ++ t =
      callee.print.toList ++
        '(' :: ((", ".intercalate (arguments.map Expr.print)).toList ++ ')' :: t) := by
    simp [Expr.print, Expr.printAll_eq_map]
  rw [hprint, hcallee frames _ (endsName_cons (by decide))]
  cases arguments with
  | nil => exact readBehind_noArguments
  | cons argument arguments =>
    have hopen : ((", ".intercalate ((argument :: arguments).map Expr.print)).toList ++
        ')' :: t).head? ≠ some ')' := by
      obtain ⟨more, hmore⟩ := exists_intercalate_eq_append ", " argument.print
        (arguments.map Expr.print)
      rw [List.map_cons, hmore, String.toList_append, List.append_assoc]
      exact (h argument List.mem_cons_self).head?_append_ne _
    rw [readBehind_arguments hopen, readOperand_argumentList h]

/-! ### Entries -/

/-- An entry of an object literal is read back from its text. -/
def Entry.ReadsBack (entry : Entry) : Prop :=
  ∀ frames before t, EndsValue t →
    readEntry frames before (entry.print.toList ++ t) = readBehindEntry frames (entry :: before) t

theorem Entry.ReadsBack.property (key : String) {value : Expr}
    (h : TypeScript.ReadsBack .value value) : (Entry.property key value).ReadsBack := by
  intro frames before t ht
  have hprint : (Entry.property key value).print.toList ++ t =
      (propertyKey key).toList ++ ':' :: ' ' :: (value.print.toList ++ t) := by
    simp [Entry.print]
  rw [hprint, readEntry_property, h _ t ht, readEnded]

theorem Entry.ReadsBack.shorthand {name : String} (hname : isBareName name.toList = true) :
    (Entry.shorthand name).ReadsBack := by
  intro frames before t ht
  rw [Entry.print, readEntry_shorthand hname ht]

theorem Entry.ReadsBack.spread {operand : Expr} (h : TypeScript.ReadsBack .operand operand) :
    (Entry.spread operand).ReadsBack := by
  intro frames before t ht
  have hprint : (Entry.spread operand).print.toList ++ t =
      '.' :: '.' :: '.' :: (operand.print.toList ++ t) := by
    simp [Entry.print]
  rw [hprint, readEntry_spread, h.value _ t ht, readEnded]

theorem readEntry_entryList {entry : Entry} {entries : List Entry}
    (h : ∀ e ∈ entry :: entries, e.ReadsBack) :
    readEntry frames []
      ((", ".intercalate ((entry :: entries).map Entry.print)).toList ++ ' ' :: '}' :: t) =
        readBehind frames (.object (entry :: entries)) t := by
  have hread := read_commaSeparated (readEntry frames)
    (fun before => readBehind frames (.object before.reverse) t) []
    (fun e he before rest => by rw [h e he _ _ _ (.comma _), readBehindEntry_comma])
    (fun e he before => by rw [h e he _ _ _ (.brace t), readBehindEntry_brace])
  rw [hread, List.append_nil, List.reverse_reverse]

theorem ReadsBack.object {entries : List Entry} (h : ∀ e ∈ entries, e.ReadsBack) :
    ReadsBack .operand (.object entries) := by
  intro frames t ht
  cases entries with
  | nil => exact readOperand_noEntries
  | cons entry entries =>
    have hprint : (Expr.object (entry :: entries)).print.toList ++ t =
        '{' :: ' ' :: ((", ".intercalate ((entry :: entries).map Entry.print)).toList ++
          ' ' :: '}' :: t) := by
      simp [Expr.print, Entry.printAll_eq_map]
    rw [hprint, readOperand_entries, readEntry_entryList h]

/-! ### Parts -/

theorem toList_substitution_append (operand : Expr) (rest : List Char) :
    (Part.substitution operand).print.toList ++ rest =
      '$' :: '{' :: (operand.print.toList ++ '}' :: rest) := by
  simp [Part.print]

/-- Behind a static text stands the back quote or a substitution, because no other static text
does. -/
theorem endsStatic_parts {text : String} {parts : List Part}
    (hjoined : ∀ text', ¬ [.text text, .text text'] <:+: .text text :: parts) :
    EndsStatic ((String.join (parts.map Part.print)).toList ++ '\x60' :: t) := by
  cases parts with
  | nil => exact .backquote t
  | cons next parts =>
    cases next with
    | text text' => exact absurd ⟨[], parts, rfl⟩ (hjoined text')
    | substitution operand =>
      rw [List.map_cons, String.join_cons, String.toList_append, List.append_assoc,
        toList_substitution_append]
      exact .substitution _

theorem readParts_partList {before parts : List Part}
    (htext : ∀ text, .text text ∈ parts → ∃ s ≠ [], text = String.ofList (escapeTemplate s))
    (hjoined : ∀ text text', ¬ [.text text, .text text'] <:+: parts)
    (hsubstitution : ∀ operand, .substitution operand ∈ parts → ReadsBack .operand operand) :
    readParts frames before ((String.join (parts.map Part.print)).toList ++ '\x60' :: t) =
      readBehind frames (.template (before.reverse ++ parts)) t := by
  induction parts generalizing before with
  | nil =>
    rw [List.map_nil, String.join_nil, String.toList_empty, List.nil_append,
      readParts_backquote (EndsStatic.backquote t).takeStatic, textPart_nil]
  | cons part parts ih =>
    have hrest : readParts frames (part :: before)
        ((String.join (parts.map Part.print)).toList ++ '\x60' :: t) =
          readBehind frames (.template (before.reverse ++ part :: parts)) t := by
      rw [ih (fun text h => htext text (List.mem_cons_of_mem _ h))
        (fun text text' h => hjoined text text' (List.infix_cons h))
        (fun operand h => hsubstitution operand (List.mem_cons_of_mem _ h)), List.reverse_cons,
        List.append_assoc, List.singleton_append]
    rw [← hrest, List.map_cons, String.join_cons, String.toList_append, List.append_assoc]
    cases part with
    | substitution operand =>
      have hoperand := hsubstitution operand List.mem_cons_self
      rw [toList_substitution_append, readParts_substitution (EndsStatic.substitution _).takeStatic,
        hoperand _ _ (endsName_cons (by decide)), readBehind_brace, readEnded, textPart_nil,
        List.reverse_nil, List.nil_append]
    | text text =>
      obtain ⟨s, hs, rfl⟩ := htext text List.mem_cons_self
      rw [Part.print, String.toList_ofList, readParts_text hs (endsStatic_parts (hjoined _))]

theorem ReadsBack.template {parts : List Part}
    (htext : ∀ text, .text text ∈ parts → ∃ s ≠ [], text = String.ofList (escapeTemplate s))
    (hjoined : ∀ text text', ¬ [.text text, .text text'] <:+: parts)
    (hsubstitution : ∀ operand, .substitution operand ∈ parts → ReadsBack .operand operand) :
    ReadsBack .operand (.template parts) := by
  intro frames t ht
  have hprint : (Expr.template parts).print.toList ++ t =
      '\x60' :: ((String.join (parts.map Part.print)).toList ++ '\x60' :: t) := by
    simp [Expr.print, Part.printAll_eq_map]
  rw [hprint, readOperand_parts, readParts_partList htext hjoined hsubstitution, List.reverse_nil,
    List.nil_append]

/-! ### Properties and values -/

theorem ReadsBack.member {object : Expr} {property : String} (h : ReadsBack .operand object)
    (hproperty : isBareName property.toList = true) :
    ReadsBack .operand (.member object property) := by
  intro frames t ht
  have hprint : (Expr.member object property).print.toList ++ t =
      object.print.toList ++ '.' :: (property.toList ++ t) := by
    simp [Expr.print]
  rw [hprint, h _ _ (endsName_cons (by decide)), readBehind_member hproperty ht]

theorem ReadsBack.await {operand : Expr} (h : ReadsBack .operand operand) :
    ReadsBack .value (.await operand) := by
  intro frames t ht
  rw [Expr.print, String.toList_append, List.append_assoc, readOperand_await, h.value _ t ht,
    readEnded]

theorem ReadsBack.cast {operand : Expr} {name : String} (h : ReadsBack .operand operand)
    (hname : isBareName name.toList = true) : ReadsBack .value (.cast operand (.named name)) := by
  intro frames t ht
  have hprint : (Expr.cast operand (.named name)).print.toList ++ t =
      operand.print.toList ++ ' ' :: 'a' :: 's' :: ' ' :: (name.toList ++ t) := by
    simp [Expr.print, TypeExpr.print]
  rw [hprint, h _ _ (endsName_cons (by decide)), readBehind_as hname ht.endsName]

theorem ReadsBack.nullish {left right : Expr} (hleft : ReadsBack .operand left)
    (hright : ReadsBack .operand right) : ReadsBack .value (.nullish left right) := by
  intro frames t ht
  have hprint : (Expr.nullish left right).print.toList ++ t =
      left.print.toList ++ ' ' :: '?' :: '?' :: ' ' :: (right.print.toList ++ t) := by
    simp [Expr.print]
  rw [hprint, hleft _ _ (endsName_cons (by decide)), readBehind_nullish, hright.value _ t ht,
    readEnded]

theorem ReadsBack.conditional {condition consequent alternative : Expr}
    (hcondition : ReadsBack .operand condition) (hconsequent : ReadsBack .operand consequent)
    (halternative : ReadsBack .operand alternative) :
    ReadsBack .value (.conditional condition consequent alternative) := by
  intro frames t ht
  have hprint : (Expr.conditional condition consequent alternative).print.toList ++ t =
      condition.print.toList ++ ' ' :: '?' :: ' ' :: (consequent.print.toList ++
        ' ' :: ':' :: ' ' :: (alternative.print.toList ++ t)) := by
    simp [Expr.print]
  rw [hprint, hcondition _ _ (endsName_cons (by decide)), readBehind_question,
    hconsequent _ _ (endsName_cons (by decide)), readBehind_colon, halternative.value _ t ht,
    readEnded]

/-! ### All expressions -/

/-- **Every expression is read back from its text**, at each rank that it has. -/
theorem HasRank.readsBack {rank : Rank} (h : HasRank rank e) : ReadsBack rank e := by
  induction h with
  | identifier hname hawait =>
    intro frames t ht
    rw [Expr.print, readOperand_identifier hname hawait ht]
  | literal value =>
    intro frames t ht
    rw [Expr.print, readOperand_literal]
  | member _ hproperty ih => exact ih.member hproperty
  | call _ _ ihcallee iharguments => exact ihcallee.call iharguments
  | object _ hshorthand _ ihproperty ihspread =>
    refine ReadsBack.object fun entry hentry => ?_
    cases entry with
    | property key value => exact .property key (ihproperty key value hentry)
    | shorthand name => exact .shorthand (hshorthand name hentry)
    | spread operand => exact .spread (ihspread operand hentry)
  | template htext hjoined _ ih => exact .template htext hjoined ih
  | operand _ ih => exact ih.value
  | await _ ih => exact ih.await
  | cast _ hname ih => exact ih.cast hname
  | nullish _ _ ihleft ihright => exact ihleft.nullish ihright
  | conditional _ _ _ ihcondition ihconsequent ihalternative =>
    exact ihcondition.conditional ihconsequent ihalternative

theorem parse_print (h : HasRank .value e) : Expr.parse e.print = some e := by
  have hread := h.readsBack [] [] .nil
  rwa [List.append_nil, readEnded] at hread

/-- **Values are printed unambiguously.** A value is parsed back from its text, and two values of
one text are the same. -/
theorem print_unambiguous :
    (∀ e, HasRank .value e → Expr.parse e.print = some e) ∧
    ∀ e e', HasRank .value e → HasRank .value e' → e.print = e'.print → e = e' := by
  refine ⟨fun e he => parse_print he, fun e e' he he' heq => ?_⟩
  have hparse : some e = some e' := by rw [← parse_print he, ← parse_print he', heq]
  exact Option.some.inj hparse

/-- A dollar sign before a substitution, and marks of a choice inside of a literal. -/
theorem page_print_unambiguous :
    ∃ e, HasRank .value e ∧
      e.print = "page ? \x60$$\x7bpage\x7d\x60 : call(\"a : b\", \x7b \"?\": await page \x7d)" ∧
      Expr.parse e.print = some e ∧
      ∀ e', HasRank .value e' → e'.print = e.print → e' = e := by
  have hpage : HasRank .operand (.identifier "page") := .identifier (by decide) (by decide)
  have htemplate : HasRank .operand
      (.template [.text "$", .substitution (.identifier "page")]) := by
    refine .template (fun text h => ⟨['$'], by decide, ?_⟩) (fun text text' h => ?_)
      fun operand h => ?_
    · obtain rfl : text = "$" := by simpa using h
      rfl
    · have heq := h.eq_of_length rfl
      simp at heq
    · obtain rfl : operand = .identifier "page" := by simpa using h
      exact hpage
  have hobject : HasRank .operand (.object [.property "?" (.await (.identifier "page"))]) := by
    refine .object (fun key value h => ?_) (by simp) (by simp)
    obtain ⟨-, rfl⟩ : key = "?" ∧ value = .await (.identifier "page") := by simpa using h
    exact .await hpage
  have hcall : HasRank .operand (.call (.identifier "call")
      [.literal "a : b", .object [.property "?" (.await (.identifier "page"))]]) := by
    refine .call (.identifier (by decide) (by decide)) fun argument h => ?_
    rcases List.mem_cons.1 h with rfl | h
    · exact .operand (.literal _)
    · obtain rfl := List.mem_singleton.1 h
      exact .operand hobject
  have hvalue := HasRank.conditional hpage htemplate hcall
  refine ⟨_, hvalue, by decide +kernel, print_unambiguous.1 _ hvalue, fun e' he' heq => ?_⟩
  exact print_unambiguous.2 e' _ he' hvalue heq

end RestClient.TypeScript
