import RestClient.Client.Params
import RestClient.Proofs.TypeScript.Literal
import RestClient.TypeScript.Expr

/-! # Literals on one line

A string literal of the language stands on one line: a line break inside it is an error, and a
backslash stands for the character behind it only before a backslash or a quote. The generator
escapes backslashes and quotes and leaves line breaks as they are.

* `escapeString_eq_replace`: escaping is the replacement of the backslashes and then that of the
  quotes;
* `readLiteral_stringLiteral`: a literal is read as its text, up to its last quote, if the text is
  on one line, and else not at all;
* `literal_denotes_text`: so it is wherever the generator writes a text as a literal. -/

namespace RestClient.TypeScript

/-! ### The two replacements -/

/-- A text with another text in the place of a character. -/
def replaceChar (c : Char) (replacement s : List Char) : List Char :=
  s.flatMap fun d => if d = c then replacement else [d]

theorem replaceChar_append (c : Char) (replacement s t : List Char) :
    replaceChar c replacement (s ++ t) =
      replaceChar c replacement s ++ replaceChar c replacement t := List.flatMap_append

theorem replaceChar_cons (c : Char) (replacement : List Char) (d : Char) (s : List Char) :
    replaceChar c replacement (d :: s) =
      (if d = c then replacement else [d]) ++ replaceChar c replacement s := rfl

/-- **Escaping replaces the backslashes first and the quotes second.** -/
theorem escapeString_eq_replace (s : List Char) :
    escapeString s = replaceChar '"' ['\\', '"'] (replaceChar '\\' ['\\', '\\'] s) := by
  induction s with
  | nil => rfl
  | cons c s ih =>
    rw [escapeString_cons, replaceChar_cons, replaceChar_append, ← ih]
    congr 1
    by_cases hslash : c = '\\'
    · subst hslash
      rfl
    · by_cases hquote : c = '"'
      · subst hquote
        rfl
      · simp [replaceChar, hslash, hquote]

/-- The other way round the backslashes of the quotes would be doubled. -/
example :
    replaceChar '\\' ['\\', '\\'] (replaceChar '"' ['\\', '"'] ['"']) = ['\\', '\\', '"'] := by
  decide

/-! ### The reader -/

/-- The value of a string literal from behind its opening quote, with what stands behind its closing
one. -/
def readLiteralBody : List Char → Option (List Char × List Char)
  | [] => none
  | '"' :: r => some ([], r)
  | '\\' :: '\\' :: r => (readLiteralBody r).map fun (s, rest) => ('\\' :: s, rest)
  | '\\' :: '"' :: r => (readLiteralBody r).map fun (s, rest) => ('"' :: s, rest)
  | '\n' :: _ => none
  | '\r' :: _ => none
  | c :: r => (readLiteralBody r).map fun (s, rest) => (c :: s, rest)

/-- The value of the string literal at the front of a text, with what stands behind it. -/
def readLiteral : List Char → Option (List Char × List Char)
  | '"' :: r => readLiteralBody r
  | _ => none

/-- A text without line breaks. -/
def IsOneLine (s : List Char) : Prop := ∀ c ∈ s, c ≠ '\n' ∧ c ≠ '\r'

theorem isOneLine_iff {s : List Char} :
    IsOneLine s ↔ (s.all fun c => c != '\n' && c != '\r') = true := by
  simp [IsOneLine]

instance (s : List Char) : Decidable (IsOneLine s) := decidable_of_iff' _ isOneLine_iff

theorem isOneLine_cons {c : Char} {s : List Char} :
    IsOneLine (c :: s) ↔ (c ≠ '\n' ∧ c ≠ '\r') ∧ IsOneLine s := List.forall_mem_cons

/-- An escaped character is read as the character, unless it is a line break. -/
theorem readLiteralBody_escaped (c : Char) (r : List Char) :
    readLiteralBody ((if c = '\\' ∨ c = '"' then ['\\', c] else [c]) ++ r) =
      if c ≠ '\n' ∧ c ≠ '\r' then (readLiteralBody r).map fun (s, rest) => (c :: s, rest)
      else none := by
  by_cases hescape : c = '\\' ∨ c = '"'
  · rw [if_pos hescape]
    rcases hescape with rfl | rfl <;> rfl
  · rw [if_neg hescape]
    obtain ⟨hslash, hquote⟩ := not_or.1 hescape
    by_cases hfeed : c = '\n'
    · subst hfeed
      rfl
    · by_cases hreturn : c = '\r'
      · subst hreturn
        rfl
      · rw [if_pos ⟨hfeed, hreturn⟩, List.cons_append, List.nil_append, readLiteralBody]
        all_goals simp_all

theorem readLiteralBody_escapeString (s r : List Char) :
    readLiteralBody (escapeString s ++ '"' :: r) = if IsOneLine s then some (s, r) else none := by
  induction s with
  | nil => rfl
  | cons c s ih =>
    rw [escapeString_cons, List.append_assoc, readLiteralBody_escaped, ih]
    by_cases hc : c ≠ '\n' ∧ c ≠ '\r'
    · by_cases hs : IsOneLine s <;> simp [isOneLine_cons, hc, hs]
    · rw [if_neg hc, if_neg fun hline => hc (isOneLine_cons.1 hline).1]

/-- **A literal is read as its text**, up to its last quote, if the text is on one line, and else
not at all. -/
theorem readLiteral_stringLiteral (s : String) (rest : List Char) :
    readLiteral ((stringLiteral s).toList ++ rest) =
      if IsOneLine s.toList then some (s.toList, rest) else none := by
  rw [toList_stringLiteral, List.cons_append, List.append_assoc, readLiteral]
  exact readLiteralBody_escapeString s.toList rest

end RestClient.TypeScript

namespace RestClient

open RestClient.TypeScript

/-! ### The places of literals -/

/-- The literals that are written for a text: the key of a header, a key that is no bare name, the
inside of the brackets where a property is read that has no bare name, and a value. -/
inductive IsLiteralOf (s : String) : String → Prop
  | header (param : Param) (h : param.name = s) (required : Bool) :
      IsLiteralOf s (param.field stringLiteral required).key
  | key (h : isBareName s.toList = false) : IsLiteralOf s (propertyKey s)
  | access (object literal : String) (h : isBareName s.toList = false)
      (heq : propertyAccess object s = object ++ "[" ++ literal ++ "]") : IsLiteralOf s literal
  | value : IsLiteralOf s (Expr.literal s).print

theorem propertyAccess_eq_brackets {s : String} (h : isBareName s.toList = false)
    (object : String) : propertyAccess object s = object ++ "[" ++ stringLiteral s ++ "]" := by
  rw [propertyAccess, if_neg (by simp [h])]

/-- In every place it is the same literal. -/
theorem IsLiteralOf.eq_stringLiteral {s literal : String} (h : IsLiteralOf s literal) :
    literal = stringLiteral s := by
  cases h with
  | header param h => rw [Param.field, h]
  | key h => rw [propertyKey, if_neg (by simp [h])]
  | access object _ h heq =>
    rw [propertyAccess_eq_brackets h] at heq
    have hinside : (stringLiteral s).toList = literal.toList := by
      simpa using congrArg String.toList heq
    exact (String.toList_inj.1 hinside).symm
  | value => rw [Expr.print]

/-- **Literals denote their text** wherever the generator writes one, if the text is on one line:
each of them is read as one literal that ends at its last quote. One with a line break in its text
is not read at all. -/
theorem literal_denotes_text (s : String) :
    (isBareName s.toList = false → ∀ object : String, ∃ literal : String,
      propertyAccess object s = object ++ "[" ++ literal ++ "]" ∧ IsLiteralOf s literal) ∧
    ∀ literal, IsLiteralOf s literal → ∀ rest, readLiteral (literal.toList ++ rest) =
      if IsOneLine s.toList then some (s.toList, rest) else none := by
  refine ⟨fun hbare object => ?_, fun literal hliteral rest => ?_⟩
  · have heq := propertyAccess_eq_brackets hbare object
    exact ⟨stringLiteral s, heq, .access object _ hbare heq⟩
  · rw [hliteral.eq_stringLiteral, readLiteral_stringLiteral]

theorem brokenLine_literal_denotes_text :
    isBareName "a\nb".toList = false ∧
    (∃ literal : String, propertyAccess "params" "a\nb" = "params" ++ "[" ++ literal ++ "]" ∧
      IsLiteralOf "a\nb" literal ∧ readLiteral (literal.toList ++ [']']) = none) ∧
    (∃ literal : String, propertyAccess "params" "\"\\" = "params" ++ "[" ++ literal ++ "]" ∧
      IsLiteralOf "\"\\" literal ∧
      readLiteral (literal.toList ++ [']']) = some (['"', '\\'], [']'])) := by
  have hbroken : "a\nb".toList = ['a', '\n', 'b'] := String.toList_ofList
  have hescaped : "\"\\".toList = ['"', '\\'] := String.toList_ofList
  have hkeyBroken : isBareName "a\nb".toList = false := by
    rw [hbroken]
    decide
  have hkeyEscaped : isBareName "\"\\".toList = false := by
    rw [hescaped]
    decide
  obtain ⟨broken, hbrokenAccess, hbrokenLiteral⟩ :=
    (literal_denotes_text "a\nb").1 hkeyBroken "params"
  obtain ⟨escaped, hescapedAccess, hescapedLiteral⟩ :=
    (literal_denotes_text "\"\\").1 hkeyEscaped "params"
  refine ⟨hkeyBroken, ⟨broken, hbrokenAccess, hbrokenLiteral, ?_⟩,
    escaped, hescapedAccess, hescapedLiteral, ?_⟩
  · rw [(literal_denotes_text "a\nb").2 broken hbrokenLiteral, hbroken, if_neg (by decide)]
  · rw [(literal_denotes_text "\"\\").2 escaped hescapedLiteral, hescaped, if_pos (by decide)]

end RestClient
