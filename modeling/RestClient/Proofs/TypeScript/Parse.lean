import RestClient.Client.Url
import RestClient.Proofs.TypeScript.Literal
import RestClient.Proofs.TypeScript.Template

/-! # Reading expressions

A reader of the expressions that request functions are made of. There are no parentheses in their
text that group, so the reader keeps a stack of what it is inside of: what an operand, a value, an
entry or a template part that it has read goes into.

* `readOperand`, `readBehind`, `readEnded`, `readEntry`, `readBehindEntry` and `readParts` read on
  from the places that can be in an expression; `Expr.parse` starts them;
* `EndsName`, `EndsValue` and `EndsStatic` say what can follow a name, a value and static text;
* one lemma for each place and each text there says where the reader goes on. -/

namespace RestClient.TypeScript

/-- What an expression that is being read is part of. -/
inductive Frame where
  /-- The end of an expression. -/
  | ending (complete : Expr → Expr)
  /-- The middle of a choice between two values. -/
  | consequent (condition : Expr)
  /-- The arguments of a call, with those before it, the last one first. -/
  | argument (callee : Expr) (before : List Expr)
  /-- The end of an entry of an object literal, with the entries before it, the last one first. -/
  | entry (complete : Expr → Entry) (before : List Entry)
  /-- A substitution in a template literal, with the parts before it, the last one first. -/
  | substitution (before : List Part)

mutual

/-- Reads on where an operand begins. -/
def readOperand (frames : List Frame) (s : List Char) : Option Expr :=
  match s with
  | '\x60' :: r => readParts frames [] r
  | '{' :: '}' :: r => readBehind frames (.object []) r
  | '{' :: ' ' :: r => readEntry frames [] r
  | 'a' :: 'w' :: 'a' :: 'i' :: 't' :: ' ' :: r => readOperand (.ending .await :: frames) r
  | '"' :: r =>
    match h : readQuoted r with
    | none => none
    | some (value, r) =>
      have := length_of_readQuoted h
      readBehind frames (.literal (String.ofList value)) r
  | s =>
    match h : readKey s with
    | none => none
    | some (name, r) =>
      have := length_of_readKey h
      readBehind frames (.identifier (String.ofList name)) r
termination_by (s.length, frames.length, 0)

/-- Reads on behind an operand. -/
def readBehind (frames : List Frame) (e : Expr) (s : List Char) : Option Expr :=
  match s with
  | '.' :: r =>
    match h : readKey r with
    | none => none
    | some (name, r) =>
      have := length_of_readKey h
      readBehind frames (.member e (String.ofList name)) r
  | '(' :: ')' :: r => readBehind frames (.call e []) r
  | '(' :: r => readOperand (.argument e [] :: frames) r
  | ' ' :: 'a' :: 's' :: ' ' :: r =>
    match h : readKey r with
    | none => none
    | some (name, r) =>
      have := length_of_readKey h
      readEnded frames (.cast e (.named (String.ofList name))) r
  | ' ' :: '?' :: '?' :: ' ' :: r => readOperand (.ending (.nullish e) :: frames) r
  | ' ' :: '?' :: ' ' :: r => readOperand (.consequent e :: frames) r
  | ' ' :: ':' :: ' ' :: r =>
    match frames with
    | .consequent condition :: outer => readOperand (.ending (.conditional condition e) :: outer) r
    | _ => none
  | s => readEnded frames e s
termination_by (s.length, frames.length, 1)

/-- Reads on behind a value. -/
def readEnded (frames : List Frame) (e : Expr) (s : List Char) : Option Expr :=
  match frames, s with
  | [], [] => some e
  | .ending complete :: outer, s => readEnded outer (complete e) s
  | .argument callee before :: outer, ',' :: ' ' :: r =>
    readOperand (.argument callee (e :: before) :: outer) r
  | .argument callee before :: outer, ')' :: r =>
    readBehind outer (.call callee (e :: before).reverse) r
  | .entry complete before :: outer, s => readBehindEntry outer (complete e :: before) s
  | .substitution before :: outer, '}' :: r => readParts outer (.substitution e :: before) r
  | _, _ => none
termination_by (s.length, frames.length, 0)

/-- Reads on where an entry of an object literal begins. -/
def readEntry (frames : List Frame) (before : List Entry) (s : List Char) : Option Expr :=
  match s with
  | '.' :: '.' :: '.' :: r => readOperand (.entry .spread before :: frames) r
  | s =>
    match h : readKey s with
    | none => none
    | some (name, ':' :: ' ' :: r) =>
      have : r.length < s.length := Nat.lt_of_succ_lt (Nat.lt_of_succ_lt (length_of_readKey h))
      readOperand (.entry (.property (String.ofList name)) before :: frames) r
    | some (name, r) =>
      have := length_of_readKey h
      readBehindEntry frames (.shorthand (String.ofList name) :: before) r
termination_by (s.length, frames.length, 0)

/-- Reads on behind an entry of an object literal. -/
def readBehindEntry (frames : List Frame) (before : List Entry) (s : List Char) : Option Expr :=
  match s with
  | ',' :: ' ' :: r => readEntry frames before r
  | ' ' :: '}' :: r => readBehind frames (.object before.reverse) r
  | _ => none
termination_by (s.length, frames.length, 0)

/-- Reads on in a template literal, outside its substitutions. -/
def readParts (frames : List Frame) (before : List Part) (s : List Char) : Option Expr :=
  match h : takeStatic s with
  | (text, '\x60' :: r) =>
    have : r.length < s.length := length_of_takeStatic h
    readBehind frames (.template (before.reverse ++ textPart text)) r
  | (text, '$' :: '{' :: r) =>
    have : r.length < s.length := Nat.lt_of_succ_lt (length_of_takeStatic h)
    readOperand (.substitution ((textPart text).reverse ++ before) :: frames) r
  | _ => none
termination_by (s.length, frames.length, 0)

end

/-- The expression that a text spells. -/
def Expr.parse (s : String) : Option Expr := readOperand [] s.toList

variable {frames : List Frame} {e : Expr} {t : List Char}

/-! ### Steps -/

/-- What can stand behind a name without going on with it. -/
def EndsName (t : List Char) : Prop := ∀ c ∈ t.head?, isNamePart c = false

theorem endsName_cons {c : Char} (h : isNamePart c = false) : EndsName (c :: t) := by
  rintro d hd
  obtain rfl := Option.some.inj hd
  exact h

/-- What can stand behind a value: its text ends there, or the value is among the arguments of a
call or in an entry of an object literal. -/
inductive EndsValue : List Char → Prop
  | nil : EndsValue []
  | comma (r : List Char) : EndsValue (',' :: r)
  | parenthesis (r : List Char) : EndsValue (')' :: r)
  | brace (r : List Char) : EndsValue (' ' :: '}' :: r)

theorem EndsValue.endsName (h : EndsValue t) : EndsName t := by
  cases h with
  | nil => intro c hc; cases hc
  | comma r => exact endsName_cons (by decide)
  | parenthesis r => exact endsName_cons (by decide)
  | brace r => exact endsName_cons (by decide)

theorem EndsValue.readBehind (h : EndsValue t) : readBehind frames e t = readEnded frames e t := by
  cases h <;> rw [TypeScript.readBehind] <;> intros <;> simp_all

theorem readBehind_brace :
    readBehind frames e ('}' :: t) = readEnded frames e ('}' :: t) := by
  rw [readBehind] <;> intros <;> simp_all

theorem readBehind_member {name : String} (hname : isBareName name.toList = true)
    (ht : EndsName t) :
    readBehind frames e ('.' :: (name.toList ++ t)) = readBehind frames (.member e name) t := by
  have hkey := (IsKeyOf.bare hname).readKey ht
  rw [readBehind]
  split
  · simp_all
  · simp_all

theorem readBehind_noArguments :
    readBehind frames e ('(' :: ')' :: t) = readBehind frames (.call e []) t := by
  rw [readBehind]

theorem readBehind_arguments (h : t.head? ≠ some ')') :
    readBehind frames e ('(' :: t) = readOperand (.argument e [] :: frames) t := by
  rw [readBehind]
  rintro r rfl
  exact h rfl

theorem readBehind_as {name : String} (hname : isBareName name.toList = true) (ht : EndsName t) :
    readBehind frames e (' ' :: 'a' :: 's' :: ' ' :: (name.toList ++ t)) =
      readEnded frames (.cast e (.named name)) t := by
  have hkey := (IsKeyOf.bare hname).readKey ht
  rw [readBehind]
  split
  · simp_all
  · simp_all

theorem readBehind_nullish :
    readBehind frames e (' ' :: '?' :: '?' :: ' ' :: t) =
      readOperand (.ending (.nullish e) :: frames) t := by
  rw [readBehind]

theorem readBehind_question :
    readBehind frames e (' ' :: '?' :: ' ' :: t) = readOperand (.consequent e :: frames) t := by
  rw [readBehind]

theorem readBehind_colon {condition : Expr} :
    readBehind (.consequent condition :: frames) e (' ' :: ':' :: ' ' :: t) =
      readOperand (.ending (.conditional condition e) :: frames) t := by
  rw [readBehind]

theorem readOperand_identifier {name : String} (hname : isBareName name.toList = true)
    (hawait : name ≠ "await") (ht : EndsName t) :
    readOperand frames (name.toList ++ t) = readBehind frames (.identifier name) t := by
  have hkey := (IsKeyOf.bare hname).readKey ht
  generalize hs : name.toList ++ t = s at hkey
  rw [readOperand]
  · split
    · simp_all
    · simp_all
  · rintro r rfl
    simp [readKey, isNameStart] at hkey
  · rintro r rfl
    simp [readKey, isNameStart] at hkey
  · rintro r rfl
    simp [readKey, isNameStart] at hkey
  · -- The word that awaits a promise is a name too, and is read as that name.
    rintro r rfl
    have hspace : EndsName (' ' :: r) := endsName_cons (by decide)
    have hbare : isBareName "await".toList = true := by decide
    have hword := (IsKeyOf.bare hbare).readKey hspace
    have heq : name.toList = "await".toList :=
      congrArg Prod.fst (Option.some.inj (hkey.symm.trans hword))
    exact hawait (String.toList_inj.1 heq)
  · rintro r rfl
    cases hn : name.toList with
    | nil => simp [hn, isBareName] at hname
    | cons c rest =>
      rw [hn] at hs hname
      obtain ⟨rfl, -⟩ := List.cons.inj hs
      simp [isBareName, isNameStart] at hname

theorem readOperand_await :
    readOperand frames ("await ".toList ++ t) = readOperand (.ending .await :: frames) t := by
  show readOperand frames ('a' :: 'w' :: 'a' :: 'i' :: 't' :: ' ' :: t) = _
  rw [readOperand]

theorem readOperand_literal (value : String) :
    readOperand frames ((stringLiteral value).toList ++ t) =
      readBehind frames (.literal value) t := by
  have hquoted : (stringLiteral value).toList ++ t =
      '"' :: (escapeString value.toList ++ '"' :: t) := by
    simp [toList_stringLiteral]
  have hread := readQuoted_escapeString value.toList t
  rw [hquoted, readOperand]
  split
  · simp_all
  · simp_all

theorem readOperand_noEntries :
    readOperand frames ('{' :: '}' :: t) = readBehind frames (.object []) t := by
  rw [readOperand]

theorem readOperand_entries :
    readOperand frames ('{' :: ' ' :: t) = readEntry frames [] t := by
  rw [readOperand]

theorem readOperand_parts :
    readOperand frames ('\x60' :: t) = readParts frames [] t := by
  rw [readOperand]

/-- No operand begins at the end of a text or with a closing parenthesis. -/
theorem readOperand_nothing (ht : t = [] ∨ t.head? = some ')') : readOperand frames t = none := by
  have hkey : readKey t = none := by
    rcases ht with rfl | ht
    · rfl
    · cases t with
      | nil => cases ht
      | cons c r =>
        obtain rfl := Option.some.inj ht
        simp [readKey, isNameStart]
  rw [readOperand]
  · split
    · rfl
    · simp_all
  all_goals
    rintro r rfl
    simp at ht

/-! ### Entries -/

theorem readEntry_spread {before : List Entry} :
    readEntry frames before ('.' :: '.' :: '.' :: t) =
      readOperand (.entry .spread before :: frames) t := by
  rw [readEntry]

theorem readEntry_property {before : List Entry} (key : String) :
    readEntry frames before ((propertyKey key).toList ++ ':' :: ' ' :: t) =
      readOperand (.entry (.property key) before :: frames) t := by
  have hkey := readKey_propertyKey key (r := ':' :: ' ' :: t) (by simp [isNamePart])
  generalize (propertyKey key).toList ++ ':' :: ' ' :: t = s at hkey
  rw [readEntry]
  · split
    · simp_all
    · simp_all
    · simp_all
  · rintro r rfl
    simp [readKey, isNameStart] at hkey

theorem readEntry_shorthand {name : String} {before : List Entry}
    (hname : isBareName name.toList = true) (ht : EndsValue t) :
    readEntry frames before (name.toList ++ t) =
      readBehindEntry frames (.shorthand name :: before) t := by
  have hkey := (IsKeyOf.bare hname).readKey ht.endsName
  generalize name.toList ++ t = s at hkey
  rw [readEntry]
  · split
    · simp_all
    · cases ht <;> simp_all
    · simp_all
  · rintro r rfl
    simp [readKey, isNameStart] at hkey

theorem readBehindEntry_comma {before : List Entry} :
    readBehindEntry frames before (',' :: ' ' :: t) = readEntry frames before t := by
  rw [readBehindEntry]

theorem readBehindEntry_brace {before : List Entry} :
    readBehindEntry frames before (' ' :: '}' :: t) =
      readBehind frames (.object before.reverse) t := by
  rw [readBehindEntry]

/-! ### Templates -/

theorem readParts_backquote {before : List Part} {s text : List Char}
    (h : takeStatic s = (text, '\x60' :: t)) :
    readParts frames before s =
      readBehind frames (.template (before.reverse ++ textPart text)) t := by
  rw [readParts]
  split
  · simp_all
  · simp_all
  · simp_all

theorem readParts_substitution {before : List Part} {s text : List Char}
    (h : takeStatic s = (text, '$' :: '{' :: t)) :
    readParts frames before s =
      readOperand (.substitution ((textPart text).reverse ++ before) :: frames) t := by
  rw [readParts]
  split
  · simp_all
  · simp_all
  · simp_all

theorem textPart_nil : textPart [] = [] := rfl

theorem textPart_escapeTemplate {s : List Char} (hs : s ≠ []) :
    textPart (escapeTemplate s) = [.text (String.ofList (escapeTemplate s))] := by
  have hne : escapeTemplate s ≠ [] := by
    fun_cases escapeTemplate s with
    | case1 => exact absurd rfl hs
    | case2 => exact List.cons_ne_nil _ _
    | case3 => exact List.cons_ne_nil _ _
    | case4 => exact List.cons_ne_nil _ _
  rw [textPart, if_neg (by simpa using hne)]

/-- Static text in a template literal becomes a part of its own. -/
theorem readParts_text {before : List Part} {s : List Char} (hs : s ≠ []) (ht : EndsStatic t) :
    readParts frames before (escapeTemplate s ++ t) =
      readParts frames (.text (String.ofList (escapeTemplate s)) :: before) t := by
  have htake := takeStatic_escapeTemplate s ht
  have hpart := textPart_escapeTemplate hs
  cases ht with
  | backquote r =>
    rw [readParts_backquote htake, readParts_backquote (EndsStatic.backquote r).takeStatic, hpart,
      textPart_nil, List.append_nil, List.reverse_cons]
  | substitution r =>
    rw [readParts_substitution htake,
      readParts_substitution (EndsStatic.substitution r).takeStatic, hpart, textPart_nil,
      List.reverse_nil, List.nil_append, List.reverse_singleton, List.singleton_append]

end RestClient.TypeScript
