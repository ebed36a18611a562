import Signpost.Proofs.Resolution.Outcome

/-!
Outcomes side by side.  Two resolutions are compared by what they come to: where the first
comes to something, so does the second, certain failures apart.
-/

namespace Signpost

/-- An outcome and another one that is like it, unless the first is none, or a failure that `P`
excuses; failures are alike by `S`, and results by `R`. -/
inductive Tracks {α : Type} (P : ResolveError → Prop) (S : ResolveError → ResolveError → Prop)
    (R : α → α → Prop) :
    Option (Except ResolveError α) → Option (Except ResolveError α) → Prop where
  | exhausted {other : Option (Except ResolveError α)} : Tracks P S R none other
  | excused {e : ResolveError} {other : Option (Except ResolveError α)} (h : P e) :
      Tracks P S R (some (.error e)) other
  | failed {e e' : ResolveError} (h : S e e') :
      Tracks P S R (some (.error e)) (some (.error e'))
  | ok {a b : α} (h : R a b) : Tracks P S R (some (.ok a)) (some (.ok b))

theorem Tracks.bind {α β : Type} {P : ResolveError → Prop}
    {S : ResolveError → ResolveError → Prop} {R : α → α → Prop} {R' : β → β → Prop}
    {first second : Option (Except ResolveError α)} {f g : α → Option (Except ResolveError β)}
    (h : Tracks P S R first second) (hf : ∀ a b, R a b → Tracks P S R' (f a) (g b)) :
    Tracks P S R' (first.bind (Resolving.goOn f)) (second.bind (Resolving.goOn g)) := by
  cases h with
  | exhausted => exact .exhausted
  | excused he => exact .excused he
  | failed he => exact .failed he
  | ok hab => exact hf _ _ hab

namespace Resolving

/-- Resolutions with outcomes side by side. -/
def Compares (disk : Disk) (P : ResolveError → Prop) (S : ResolveError → ResolveError → Prop)
    (α : Type) (R : α → α → Prop) (p q : Resolving α) : Prop :=
  Tracks P S R (p.outcome disk) (q.outcome disk)

theorem respectful_compares (options : ResolverOptions) (disk : Disk) {P : ResolveError → Prop}
    {S : ResolveError → ResolveError → Prop} (hS : ∀ e, (∀ chain, e ≠ .circular chain) → S e e) :
    Respectful options (fun _ => True) Eq (Compares disk P S) where
  pure hab := .ok hab
  throw he := .failed (hS _ he)
  bind hpq hf := by
    unfold Compares
    rw [outcome_bind, outcome_bind]
    exact Tracks.bind hpq hf
  confine path := by
    unfold Compares
    rw [outcome_confine]
    cases disk.confine options.rootPath path with
    | ok p => exact .ok ⟨rfl, trivial⟩
    | error e => exact .failed (hS (.escape e) (by simp))
  read {path} _ := by
    unfold Compares
    rw [outcome_read]
    cases disk.read path with
    | ok content => exact .ok rfl
    | error e => exact .failed (hS (.io e) (by simp))
  serve _ := .ok rfl

end Resolving

theorem Artifact.Related.refl (a : Artifact) : Artifact.Related Eq a a := by
  cases a with
  | data value => exact .data value
  | handler h => exact .handler rfl

theorem Artifact.Related.eq {a b : Artifact} (h : Artifact.Related Eq a b) : a = b := by
  cases h with
  | data value => rfl
  | handler h => rw [h]

namespace Resolving

/-- The second resolution ends with what the first ends with, failures apart that are excused. -/
abbrev Refines (disk : Disk) (P : ResolveError → Prop) (p q : Resolving Artifact) : Prop :=
  Compares disk P Eq Artifact (Artifact.Related Eq) p q

theorem respectful_refines (options : ResolverOptions) (disk : Disk) (P : ResolveError → Prop) :
    Respectful options (fun _ => True) Eq (Compares disk P Eq) :=
  respectful_compares options disk fun _ _ => rfl

theorem Refines.outcome_eq {disk : Disk} {p q : Resolving Artifact}
    (h : Refines disk (fun _ => False) p q) {result : Except ResolveError Artifact}
    (hp : p.outcome disk = some result) : q.outcome disk = some result := by
  unfold Refines Compares at h
  rw [hp] at h
  generalize q.outcome disk = other at h ⊢
  cases h with
  | excused he => exact he.elim
  | failed he => rw [he]
  | ok hab => rw [hab.eq]

theorem refines_of_none {disk : Disk} {P : ResolveError → Prop} {p q : Resolving Artifact}
    (hp : p.outcome disk = none) : Refines disk P p q := by
  unfold Refines Compares
  rw [hp]
  exact .exhausted

theorem refines_of_some {disk : Disk} {P : ResolveError → Prop} {p q : Resolving Artifact}
    {result : Except ResolveError Artifact} (hp : p.outcome disk = some result)
    (hq : q.outcome disk = some result) : Refines disk P p q := by
  unfold Refines Compares
  rw [hp, hq]
  cases result with
  | ok a => exact .ok (.refl a)
  | error e => exact .failed rfl

end Resolving

end Signpost
