import Signpost.Proofs.Resolution.Respect

/-!
Whole resolutions.  A visitor can be asked for a root property, for a property of a definition
or for a definition; what is asked for comes down to values and root properties.
-/

namespace Signpost

/-- What a visitor can be asked for. -/
inductive Inquiry where
  /-- A root property. -/
  | root (name : String)
  /-- A property that a definition must have. -/
  | required (d : Definition) (property : String)
  /-- A property that a definition may lack. -/
  | optional (d : Definition) (property : String)
  /-- A definition, which its telltale routes. -/
  | definition (d : Definition)
  /-- A definition, by the resolver of a telltale of choice. -/
  | chosen (telltale : String) (d : Definition)

namespace Visitor

/-- What a visitor answers; nothing if a property or a resolver is missing that may be. -/
def inquire (v : Visitor) : Inquiry → Resolving (Option Artifact)
  | .root name => some <$> v.upwardRoot name
  | .required d property => some <$> v.upward d property
  | .optional d property => v.upward? d property
  | .definition d => some <$> v.resolve d
  | .chosen telltale d =>
      match v.registry.find? telltale with
      | some resolver => some <$> v.resolveBy resolver d
      | none => return none

end Visitor

namespace Respectful

variable {options : ResolverOptions} {C : Path → Prop} {H : Handler → Handler → Prop}
  {T : (α : Type) → (α → α → Prop) → Resolving α → Resolving α → Prop} {v : Visitor}

/-- An inquiry is answered alike if its values and root properties are resolved alike. -/
theorem inquire (h : Respectful options C H T) (hv : v.registry = .standard options)
    (hroot : ∀ name, T Artifact (Artifact.Related H) (v.upwardRoot name) (v.upwardRoot name))
    (hvalue : ∀ (d : Definition) (property : String) (y : Value), d.get? property = some y →
      T Artifact (Artifact.Related H)
        (Visitor.valueWithin (v.enough (Value.definition d).depth) v y)
        (Visitor.valueWithin (v.enough (Value.definition d).depth) v y)) (inquiry : Inquiry) :
    T (Option Artifact) (Option.Rel (Artifact.Related H)) (v.inquire inquiry)
      (v.inquire inquiry) := by
  have hself (d : Definition) : Parallel T H
      (v.scope (Visitor.valueWithin (v.enough (Value.definition d).depth)))
      (v.scope (Visitor.valueWithin (v.enough (Value.definition d).depth))) d d :=
    h.discreet.parallel rfl (hvalue d)
  have hown (d : Definition) (property : String) := (hself d).alongside [property]
  cases inquiry with
  | root name => exact h.discreet.mapSome (hroot name)
  | required d property =>
      exact h.discreet.mapSome (h.discreet.upward (hown d property) List.mem_cons_self)
  | optional d property => exact h.discreet.upward? (hown d property) List.mem_cons_self
  | definition d => exact h.discreet.mapSome (h.route hv hv (hself d))
  | chosen telltale d =>
      simp only [Visitor.inquire, hv]
      cases hfind : (Registry.standard options).find? telltale with
      | none => exact h.pure .none
      | some resolver =>
          exact h.discreet.mapSome (h.builtin (hself d) (List.mem_of_find?_eq_some hfind))

/-- What holds of a refused name and of a value too deep holds of every inquiry. -/
theorem inquireWithin (h : Respectful options C H T)
    (hcircular : ∀ chain, T Artifact (Artifact.Related H) (throw (.circular chain))
      (throw (.circular chain)))
    (hexhausted : T Artifact (Artifact.Related H) Resolving.exhausted Resolving.exhausted)
    (hv : v.registry = .standard options) (inquiry : Inquiry) :
    T (Option Artifact) (Option.Rel (Artifact.Related H)) (v.inquire inquiry)
      (v.inquire inquiry) :=
  h.inquire hv (fun name => h.followRootWithin hcircular hexhausted hv _ name)
    (fun _ _ y _ => h.valueWithin hcircular hexhausted hv _ y) inquiry

end Respectful

end Signpost
