import RestClient.TypeScript.Expr
import RestClient.TypeScript.Template

/-! # Addresses

The address of a request is a template literal: the server and the path as they are, with every
placeholder of the path replaced by the parameter it names. A placeholder reaches from an opening
brace to the next closing brace. An opening brace that is never closed is plain text.

* `placeholder?` finds the first placeholder of a path, and `length_of_placeholder?` says that it
  leaves less to read;
* `placeholders` cuts a path at all of them;
* `urlTemplate` is the template. -/

namespace RestClient

open RestClient.TypeScript

/-- The first placeholder of a path: the text before it, its name, and the text behind it. -/
def placeholder? (path : List Char) : Option (List Char × List Char × List Char) :=
  match path.dropWhile (· != '{') with
  | [] => none
  | _ :: opened =>
    match opened.dropWhile (· != '}') with
    | [] => none
    | _ :: rest => some (path.takeWhile (· != '{'), opened.takeWhile (· != '}'), rest)

theorem length_dropWhile_le {p : Char → Bool} (s : List Char) :
    (s.dropWhile p).length ≤ s.length := (List.dropWhile_sublist p).length_le

/-- What stands behind a placeholder is shorter than the whole. -/
theorem length_of_placeholder? {path before name rest : List Char}
    (h : placeholder? path = some (before, name, rest)) : rest.length < path.length := by
  unfold placeholder? at h
  have h₁ := length_dropWhile_le (p := (· != '{')) path
  split at h
  · simp at h
  · rename_i opened ho
    rw [ho] at h₁
    have h₂ := length_dropWhile_le (p := (· != '}')) opened
    split at h
    · simp at h
    · rename_i rest' hr
      rw [hr] at h₂
      simp only [Option.some.injEq, Prod.mk.injEq] at h
      obtain ⟨-, -, rfl⟩ := h
      simp only [List.length_cons] at h₁ h₂
      omega

/-- A path cut at its placeholders: each with the text before it, and the text behind the last. -/
def placeholders (path : List Char) : List (List Char × List Char) × List Char :=
  match h : placeholder? path with
  | none => ([], path)
  | some (before, name, rest) =>
    have := length_of_placeholder? h
    let (spans, tail) := placeholders rest
    ((before, name) :: spans, tail)
termination_by path.length

/-- Static text as a part of a template, or nothing if there is none. -/
def textPart (text : List Char) : List Part :=
  if text.isEmpty then [] else [.text (String.ofList text)]

/-- The parts of a template for the text `lead`, already escaped, followed by a path. -/
def urlParts (lead : List Char) (tail : List Char) : List (List Char × List Char) → List Part
  | [] => textPart (lead ++ escapeTemplate tail)
  | (before, name) :: spans =>
    textPart (lead ++ escapeTemplate before) ++
      .substitution (.raw (propertyAccess "params" (String.ofList name))) :: urlParts [] tail spans

/-- The template for the address of a request. With query parameters it ends in the query. -/
def urlTemplate (server path : String) (hasQuery : Bool) : List Part :=
  let (spans, tail) := placeholders path.toList
  urlParts (escapeTemplate server.toList) tail spans ++
    if hasQuery then [.substitution (.identifier "query")] else []

end RestClient
