/-! # Verbs

The five request verbs. A verb has a name in descriptors, a method name in requests, and a keyword
that begins the names derived from it. -/

namespace RestClient

/-- What an operation does to a resource. -/
inductive Verb where
  /-- Reads it. -/
  | get
  /-- Creates one. -/
  | post
  /-- Replaces it. -/
  | put
  /-- Changes a part of it. -/
  | patch
  /-- Removes it. -/
  | delete
  deriving DecidableEq, Repr

namespace Verb

/-- The verbs in the order in which messages list them. -/
def all : List Verb := [.get, .post, .put, .patch, .delete]

/-- The name of a verb in a descriptor. -/
def name : Verb → String
  | get => "get"
  | post => "post"
  | put => "put"
  | patch => "patch"
  | delete => "delete"

/-- The method of a request. -/
def method : Verb → String
  | get => "GET"
  | post => "POST"
  | put => "PUT"
  | patch => "PATCH"
  | delete => "DELETE"

/-- The word that begins the names of an operation. -/
def keyword : Verb → String
  | get => "get"
  | post => "create"
  | put => "replace"
  | patch => "update"
  | delete => "delete"

/-- The verb of a name. -/
def ofName? (s : String) : Option Verb := all.find? fun verb => verb.name == s

theorem mem_all (verb : Verb) : verb ∈ all := by cases verb <;> simp [all]

/-- **A verb is found by its name and by no other.** -/
theorem ofName?_eq_some_iff {s : String} {verb : Verb} : ofName? s = some verb ↔ s = verb.name := by
  constructor
  · intro h
    have := List.find?_some h
    simpa using (beq_iff_eq.1 this).symm
  · rintro rfl
    cases verb <;> decide

end Verb

end RestClient
