/-! # Events and logged results

What a run reports, as values. A computation that reports returns a `Logged` value: its result
together with its events in order. `Logged.traverse` runs such a computation over a list, and
`Logged.value_traverse` and `Logged.events_traverse` say what becomes of it. -/

namespace RestClient

/-- How much an event matters, from least to most. -/
inductive Level where
  /-- Every step. -/
  | trace
  /-- Steps of interest to developers. -/
  | debug
  /-- What was done. -/
  | info
  /-- What is probably not intended. -/
  | warn
  /-- What went wrong. -/
  | error
  deriving DecidableEq, Repr

/-- Something that happened in a run. -/
inductive Event where
  /-- Descriptors were read from a file. -/
  | loaded (input : String) (operations : Nat)
  /-- The code of an operation is being written. -/
  | generating (operation method path : String) (responses : Nat)
  /-- A response has a code without a phrase. -/
  | unknownCode (code : String)
  /-- An operation has no responses. -/
  | noResponses (path : String)
  /-- The module is finished. -/
  | generated (operations : Nat)
  /-- The module was written to a file. -/
  | written (output : String)
  deriving DecidableEq, Repr

/-- A result with the events that led to it. -/
structure Logged (α : Type) where
  /-- The result. -/
  value : α
  /-- The events in order. -/
  events : List Event
  deriving DecidableEq, Repr

namespace Logged

/-- A result without events. -/
def silent {α : Type} (value : α) : Logged α := ⟨value, []⟩

/-- A function of the result. -/
def map {α β : Type} (f : α → β) (x : Logged α) : Logged β := ⟨f x.value, x.events⟩

/-- The results of a list of computations, run in order. -/
def traverse {α β : Type} (f : α → Logged β) (xs : List α) : Logged (List β) :=
  ⟨xs.map fun x => (f x).value, xs.flatMap fun x => (f x).events⟩

/-- A result with one more event before the others. -/
def after {α : Type} (event : Event) (x : Logged α) : Logged α := ⟨x.value, event :: x.events⟩

/-- A result with one more event behind the others. -/
def andThen {α : Type} (x : Logged α) (event : Event) : Logged α := ⟨x.value, x.events ++ [event]⟩

variable {α β : Type}

@[simp] theorem value_silent (a : α) : (silent a).value = a := rfl

@[simp] theorem events_silent (a : α) : (silent a).events = [] := rfl

@[simp] theorem value_map (f : α → β) (x : Logged α) : (x.map f).value = f x.value := rfl

@[simp] theorem events_map (f : α → β) (x : Logged α) : (x.map f).events = x.events := rfl

@[simp] theorem value_traverse (f : α → Logged β) (xs : List α) :
    (traverse f xs).value = xs.map fun x => (f x).value := rfl

@[simp] theorem events_traverse (f : α → Logged β) (xs : List α) :
    (traverse f xs).events = xs.flatMap fun x => (f x).events := rfl

@[simp] theorem value_after (event : Event) (x : Logged α) : (x.after event).value = x.value := rfl

@[simp] theorem events_after (event : Event) (x : Logged α) :
    (x.after event).events = event :: x.events := rfl

@[simp] theorem value_andThen (x : Logged α) (event : Event) :
    (x.andThen event).value = x.value := rfl

@[simp] theorem events_andThen (x : Logged α) (event : Event) :
    (x.andThen event).events = x.events ++ [event] := rfl

end Logged

end RestClient
