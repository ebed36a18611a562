import Signpost.Environment
import Signpost.Registry

/-!
The recursion of resolution.  A visitor turns values into artifacts: data stays
as it is, definitions go to their resolver, and references are followed.  The
names of the root properties being followed form a chain, and a name that is in
it already is reported as a cycle.
-/

namespace Signpost

mutual

/-- How deep definitions are nested in a value, the value itself included. -/
def Value.depth : Value → Nat
  | .literal _ => 1
  | .reference _ => 1
  | .nested _ properties => Value.depthOfAll properties + 1

/-- The greatest depth among properties. -/
def Value.depthOfAll : List (String × Value) → Nat
  | [] => 0
  | (_, value) :: rest => max (Value.depth value) (Value.depthOfAll rest)

end

/-- The state of a resolution. -/
structure Visitor where
  registry : Registry
  document : Document
  environment : Environment
  /-- The root properties being followed, outermost first. -/
  chain : List String
  /-- Whether a name that is in the chain already is refused. -/
  guarded : Bool

namespace Visitor

/-- A visitor that follows nothing yet. -/
def start (registry : Registry) (document : Document) (environment : Environment) : Visitor :=
  ⟨registry, document, environment, [], true⟩

/-- How a value is resolved by a visitor. -/
abbrev Ask := Visitor → Value → Resolving Artifact

/-- Resolve the value of a root property, its name added to the chain. -/
def follow (ask : Ask) (v : Visitor) (name : String) : Resolving Artifact :=
  if v.guarded && v.chain.contains name then throw (.circular (v.chain ++ [name]))
  else
    match v.document.root.get? name with
    | some value => ask { v with chain := v.chain ++ [name] } value
    | none => throw (.missingProperty name v.document.root)

/-- Resolve a root property, which must be there. -/
def followRoot (ask : Ask) (v : Visitor) (name : String) : Resolving Artifact :=
  if v.document.root.has name then follow ask v name
  else throw (.missingProperty name v.document.root)

/-- What a resolver sees of a visitor. -/
def scope (ask : Ask) (v : Visitor) : Scope where
  document := v.document
  chain := v.chain
  value := ask v
  root := followRoot ask v

/-- Route a definition to its resolver. -/
def route (ask : Ask) (v : Visitor) (d : Definition) : Resolving Artifact :=
  match v.registry.lookup d with
  | .ok resolver => resolver.resolve (v.scope ask) d
  | .error e => throw e

/-- One level of resolution; `ask` does the levels below. -/
def level (ask : Ask) (v : Visitor) (value : Value) : Resolving Artifact :=
  match value with
  | .literal data => return .data data
  | .nested source properties => route ask v ⟨source, properties⟩
  | .reference (.property name) =>
      if v.document.root.has name then follow ask v name
      else throw (.unresolved (Reference.property name).text)
  | .reference (.env name) =>
      match v.environment.get? name with
      | some text => return .string text
      | none => throw (.unresolved (Reference.env name).text)

/-- Resolution that goes at most so many levels deep. -/
def valueWithin : Nat → Ask
  | 0 => fun _ _ => Resolving.exhausted
  | levels + 1 => level (valueWithin levels)

/-- A number of levels that no resolution goes beyond which starts from a value
of this depth: every name of the root is followed at most once on the way. -/
def enough (v : Visitor) (depth : Nat) : Nat :=
  depth + (v.document.root.size + 1) * (Value.depthOfAll v.document.root.properties + 2) + 2

/-- Resolve a value. -/
def value (v : Visitor) (x : Value) : Resolving Artifact :=
  valueWithin (v.enough x.depth) v x

/-- Resolve a definition. -/
def resolve (v : Visitor) (d : Definition) : Resolving Artifact :=
  route (valueWithin (v.enough (Value.definition d).depth)) v d

/-- Resolve a definition by a resolver of choice, its telltale not looked at. -/
def resolveBy (v : Visitor) (resolver : Resolver) (d : Definition) : Resolving Artifact :=
  resolver.resolve (v.scope (valueWithin (v.enough (Value.definition d).depth))) d

/-- Resolve a property that a definition must have. -/
def upward (v : Visitor) (d : Definition) (property : String) : Resolving Artifact :=
  (v.scope (valueWithin (v.enough (Value.definition d).depth))).upward d property

/-- Resolve a property that a definition may lack. -/
def upward? (v : Visitor) (d : Definition) (property : String) : Resolving (Option Artifact) :=
  (v.scope (valueWithin (v.enough (Value.definition d).depth))).upward? d property

/-- Resolve a root property; its name begins the chain. -/
def upwardRoot (v : Visitor) (property : String) : Resolving Artifact :=
  followRoot (valueWithin (v.enough 0)) v property

end Visitor

end Signpost
