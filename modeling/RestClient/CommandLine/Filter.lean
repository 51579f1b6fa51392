import RestClient.CommandLine.Directive

/-! # Filters

A filter decides which events are written to the log. It is a list of directives, of which the most
specific one that is about an event counts.

* `Filter.ofSetting` is the filter that a setting asks for, with the complaints about it;
* `Filter.passes` is the decision. -/

namespace RestClient.CommandLine

/-- The rules for events, in the order in which they were given. -/
abbrev Filter := List Directive

/-- Whether a directive is at least as specific as another one that is about the same event: it has
the longer target, or with one target a field where the other has none, or the later field. -/
def Directive.outranks (directive other : Directive) : Bool :=
  if directive.target.length = other.target.length then
    match directive.scope, other.scope with
    | .having field, .having otherField => otherField ≤ field
    | .having _, _ => true
    | _, .having _ => false
    | _, _ => true
  else other.target.length < directive.target.length

/-- The directive that counts for an event: the most specific one that covers it, and of several
equal ones the last. -/
def Filter.directive? (filter : Filter) (event : Event) : Option Directive :=
  (filter.filter (·.covers event)).foldl
    (fun best directive =>
      match best with
      | none => some directive
      | some other => if directive.outranks other then some directive else best)
    none

/-- Whether an event is written. -/
def Filter.passes (filter : Filter) (event : Event) : Bool :=
  match (filter.directive? event).bind Directive.threshold with
  | some least => least.rank ≤ event.level.rank
  | none => false

/-- The directives of a specification, with the complaints about those that are left out. Without
any directive only errors pass. -/
def Filter.ofSpecification (specification : String) : Filter × List String :=
  let parts := (specification.toList.splitOn ',').filter fun part => !part.isEmpty
  let results := parts.map fun part => (String.ofList part, Directive.ofText part)
  let directives := results.filterMap fun (_, result) => result.toOption
  let complaints := results.filterMap fun (part, result) =>
    match result with
    | .ok _ => none
    | .error fault => some ("ignoring `" ++ part ++ "`: " ++ fault.message)
  (if directives.isEmpty then [⟨"", .all, some .error⟩] else directives, complaints)

/-- The specification that a setting stands for. A level alone is about the two parts of this
program, and so is the level `info` if there is no setting. -/
def specificationOf (setting : Option String) : String :=
  match setting with
  | none => "fetchgen=info,fetchgen_core=info"
  | some text =>
    match levelOf? text with
    | some _ => "fetchgen=" ++ text ++ ",fetchgen_core=" ++ text
    | none => text

/-- The filter of a setting, with the complaints about it. -/
def Filter.ofSetting (setting : Option String) : Filter × List String :=
  Filter.ofSpecification (specificationOf setting)

end RestClient.CommandLine
