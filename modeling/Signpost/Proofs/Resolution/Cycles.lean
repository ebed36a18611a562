import Signpost.Proofs.Resolution.Comparison
import Signpost.Proofs.Resolution.Termination

/-!
What the chain is for.  Resolution that follows references without looking at the chain may
go on for ever; resolution that looks at it always ends, with what the other one ends with
if it does end, and with the report of a cycle if it does not.
-/

namespace Signpost

namespace Visitor

open Resolving (Refines Compares)

variable {options : ResolverOptions} {disk : Disk} {v w : Visitor}

theorem not_refused {name : String} (hname : name ∉ v.chain) :
    (v.guarded && v.chain.contains name) = false := by
  simp [hname]

/-- Whatever is found at some number of levels is found at more of them, and where the chain is
not looked at it does not matter either. -/
theorem refines_levels (hkin : v.Kin options w) (hguarded : v.guarded = w.guarded)
    (hchain : v.guarded = true → v.chain = w.chain) {levels more : Nat} (hle : levels ≤ more)
    (x : Value) :
    Refines disk (fun _ => False) (valueWithin levels v x) (valueWithin more w x) := by
  have h := Resolving.respectful_refines options disk fun _ => False
  induction levels generalizing more v w x with
  | zero => exact .exhausted
  | succ levels ih =>
      obtain ⟨more, rfl⟩ := Nat.exists_eq_add_of_le' (Nat.lt_of_lt_of_le (Nat.succ_pos _) hle)
      have hle := Nat.le_of_succ_le_succ hle
      refine h.level hkin (fun _ _ _ _ y _ => ih hkin hguarded hchain hle y) fun name _ => ?_
      have hsame : (w.guarded && w.chain.contains name) =
          (v.guarded && v.chain.contains name) := by
        cases hv : v.guarded with
        | true => rw [← hguarded, hv, hchain hv]
        | false => rw [← hguarded, hv]; rfl
      cases hseen : v.guarded && v.chain.contains name with
      | true =>
          have hv : v.guarded = true := (Bool.and_eq_true_iff.mp hseen).1
          rw [follow_of_contains hseen, follow_of_contains (hsame.trans hseen), hchain hv]
          exact .failed rfl
      | false =>
          refine h.discreet.follow hkin hseen (hsame.trans hseen) fun y _ => ?_
          refine ih (hkin.extend name) hguarded (fun hv => ?_) hle y
          exact congrArg (· ++ [name]) (hchain hv)

/-- Nobody looking at the chain, it does not matter. -/
theorem refines_unguarded (hkin : v.Kin options w) (hv : v.guarded = false)
    (hw : w.guarded = false) {levels more : Nat} (hle : levels ≤ more) (x : Value) :
    Refines disk (fun _ => False) (valueWithin levels v x) (valueWithin more w x) := by
  refine refines_levels hkin (hv.trans hw.symm) (fun hguarded => ?_) hle x
  rw [hv] at hguarded
  exact absurd hguarded (by simp)

/-- Of a sequence that starts with nothing, the first something. -/
theorem exists_first {α : Type} {f : Nat → Option α} (hzero : f 0 = none) {n : Nat} {a : α}
    (hn : f n = some a) : ∃ k < n, f k = none ∧ ∃ b, f (k + 1) = some b := by
  induction n generalizing a with
  | zero =>
      rw [hzero] at hn
      exact absurd hn (by simp)
  | succ n ih =>
      cases hprev : f n with
      | none => exact ⟨n, Nat.lt_succ_self n, hprev, a, hn⟩
      | some b =>
          obtain ⟨k, hk, hnone, hsome⟩ := ih hprev
          exact ⟨k, Nat.lt_succ_of_lt hk, hnone, hsome⟩

/-- No name of the chain comes to an end at fewer levels, if nobody looks at the chain. -/
def Unfinished (disk : Disk) (v : Visitor) (levels : Nat) (chain : List String) : Prop :=
  ∀ name ∈ chain, ∃ y, v.document.root.get? name = some y ∧
    ∀ fewer < levels, (valueWithin fewer v y).outcome disk = none

theorem Unfinished.mono {levels fewer : Nat} {chain : List String}
    (h : Unfinished disk v levels chain) (hle : fewer ≤ levels) :
    Unfinished disk v fewer chain := by
  intro name hname
  obtain ⟨y, hget, hnone⟩ := h name hname
  exact ⟨y, hget, fun k hk => hnone k (Nat.lt_of_lt_of_le hk hle)⟩

theorem Unfinished.not_mem_of_get?_eq_none {levels : Nat} {chain : List String}
    (h : Unfinished disk v levels chain) {name : String}
    (hget : v.document.root.get? name = none) : name ∉ chain := by
  intro hmem
  obtain ⟨y, hy, -⟩ := h name hmem
  rw [hget] at hy
  exact absurd hy (by simp)

/-- A name that comes to an end is not in the chain. -/
theorem Unfinished.not_mem_of_outcome {levels : Nat} {chain : List String}
    (h : Unfinished disk v (levels + 1) chain) {name : String} {y : Value}
    (hget : v.document.root.get? name = some y) {result : Except ResolveError Artifact}
    (hfound : (valueWithin levels v y).outcome disk = some result) : name ∉ chain := by
  intro hmem
  obtain ⟨own, hown, hnone⟩ := h name hmem
  obtain rfl : y = own := Option.some.inj (hget.symm.trans hown)
  rw [hnone levels (Nat.lt_succ_self levels)] at hfound
  exact absurd hfound (by simp)

/-- A name that does not come to an end yet is unfinished. -/
theorem Unfinished.extend (hv : v.registry = .standard options) (hguarded : v.guarded = false)
    {levels k : Nat} {chain : List String} (h : Unfinished disk v levels chain) (hk : k < levels)
    {name : String} {y : Value} (hget : v.document.root.get? name = some y)
    (hnone : (valueWithin k v y).outcome disk = none) :
    Unfinished disk v (k + 1) (chain ++ [name]) := by
  intro other hother
  rcases List.mem_append.mp hother with hother | hother
  · exact h.mono hk other hother
  · rw [List.mem_singleton.mp hother]
    refine ⟨y, hget, ?_⟩
    intro fewer hfewer
    cases hout : (valueWithin fewer v y).outcome disk with
    | none => rfl
    | some result =>
        have hle := Nat.le_of_lt_succ hfewer
        have hlater := (refines_unguarded (.refl hv) hguarded hguarded hle y).outcome_eq hout
        rw [hnone] at hlater
        exact absurd hlater (by simp)

/-- A name that comes to an end is not in the chain, and following it with the chain looked at
ends alike: at the first number of levels at which it does, it is unfinished itself below. -/
theorem refines_follow_of (hv : v.guarded = false) (hkin : v.Kin options w) {levels more : Nat}
    (hopen : Unfinished disk v (levels + 1) w.chain)
    (ih : ∀ fewer ≤ levels, ∀ w' : Visitor, v.Kin options w' →
      Unfinished disk v fewer w'.chain → ∀ y,
        Refines disk (fun _ => False) (valueWithin fewer v y) (valueWithin more w' y))
    (name : String) :
    Refines disk (fun _ => False) (follow (valueWithin levels) v name)
      (follow (valueWithin more) w name) := by
  have hself : v.Kin options { v with chain := v.chain ++ [name] } :=
    ⟨hkin.own, hkin.own, rfl, rfl⟩
  have hback : ({ v with chain := v.chain ++ [name] } : Visitor).Kin options v :=
    ⟨hkin.own, hkin.own, rfl, rfl⟩
  have hseen : (v.guarded && v.chain.contains name) = false := by simp [hv]
  cases hget : v.document.root.get? name with
  | none =>
      have hnew := hopen.not_mem_of_get?_eq_none hget
      refine (Resolving.respectful_refines options disk _).discreet.follow hkin hseen
        (not_refused hnew) fun y hy => ?_
      rw [hget] at hy
      exact absurd hy (by simp)
  | some y =>
      rw [follow_of_get? hseen hget]
      cases hfound : (valueWithin levels { v with chain := v.chain ++ [name] } y).outcome disk with
      | none => exact Resolving.refines_of_none hfound
      | some result =>
          have hown : (valueWithin levels v y).outcome disk = some result :=
            (refines_unguarded hback hv hv (Nat.le_refl levels) y).outcome_eq hfound
          have hnew := hopen.not_mem_of_outcome hget hown
          obtain ⟨k, hk, hnone, first, hfirst⟩ := exists_first
            (f := fun k => (valueWithin k v y).outcome disk) rfl hown
          have hsame := (refines_unguarded hself hv hv hk y).outcome_eq hfirst
          obtain rfl : result = first := Option.some.inj (hfound.symm.trans hsame)
          have hnext : v.Kin options { w with chain := w.chain ++ [name] } :=
            ⟨hkin.own, hkin.other, hkin.document, hkin.environment⟩
          have hopenNext : Unfinished disk v (k + 1) (w.chain ++ [name]) :=
            hopen.extend hkin.own hv (Nat.lt_succ_of_lt hk) hget hnone
          rw [follow_of_get? (not_refused hnew) (hkin.document ▸ hget)]
          exact Resolving.refines_of_some hfound
            ((ih (k + 1) hk _ hnext hopenNext y).outcome_eq hfirst)

/-- What is found with nobody looking at the chain is found with the chain looked at, as long as
the chain is unfinished. -/
theorem refines_valueWithin (hv : v.guarded = false) (hkin : v.Kin options w) {levels more : Nat}
    (hle : levels ≤ more) (hopen : Unfinished disk v levels w.chain) (x : Value) :
    Refines disk (fun _ => False) (valueWithin levels v x) (valueWithin more w x) := by
  induction levels using Nat.strongRecOn generalizing more w x with
  | ind levels ih =>
      cases levels with
      | zero => exact .exhausted
      | succ levels =>
          obtain ⟨more, rfl⟩ :=
            Nat.exists_eq_add_of_le' (Nat.lt_of_lt_of_le (Nat.succ_pos _) hle)
          have hle := Nat.le_of_succ_le_succ hle
          have hlt := Nat.lt_succ_self levels
          refine (Resolving.respectful_refines options disk _).level hkin
            (fun _ _ _ _ y _ => ih levels hlt hkin hle (hopen.mono (Nat.le_of_lt hlt)) y)
            fun name _ => ?_
          refine refines_follow_of hv hkin hopen ?_ name
          intro fewer hfewer w' hkin' hopen' y
          exact ih fewer (Nat.lt_succ_of_le hfewer) hkin' (Nat.le_trans hfewer hle) hopen' y

theorem refines_follow (hv : v.guarded = false) (hkin : v.Kin options w) {levels more : Nat}
    (hle : levels ≤ more) (hopen : Unfinished disk v (levels + 1) w.chain) (name : String) :
    Refines disk (fun _ => False) (follow (valueWithin levels) v name)
      (follow (valueWithin more) w name) := by
  refine refines_follow_of hv hkin hopen ?_ name
  intro fewer hfewer w' hkin' hopen' y
  exact refines_valueWithin hv hkin' (Nat.le_trans hfewer hle) hopen' y

/-! ### The chain looked at, and not -/

/-- Resolution of a root property that follows references so many levels deep, without looking
at the chain. -/
def naively (v : Visitor) (levels : Nat) (name : String) : Resolving Artifact :=
  followRoot (valueWithin levels) { v with guarded := false } name

/-- What is found with the chain looked at is a cycle, or else is found without. -/
theorem refines_of_guarded (hkin : v.Kin options w) (hw : w.guarded = false) (levels : Nat)
    (x : Value) :
    Refines disk (fun e => ∃ chain, e = .circular chain) (valueWithin levels v x)
      (valueWithin levels w x) := by
  have h := Resolving.respectful_refines options disk fun e => ∃ chain, e = .circular chain
  induction levels generalizing v w x with
  | zero => exact .exhausted
  | succ levels ih =>
      refine h.level hkin (fun _ _ _ _ y _ => ih hkin hw y) fun name _ => ?_
      cases hseen : v.guarded && v.chain.contains name with
      | true =>
          rw [follow_of_contains hseen]
          exact .excused ⟨_, rfl⟩
      | false =>
          exact h.discreet.follow hkin hseen (by simp [hw]) fun y _ => ih (hkin.extend name) hw y

/-- Where the chain is not looked at no cycle is reported. -/
theorem ne_circular_valueWithin (hv : v.registry = .standard options) (hguarded : v.guarded = false)
    (levels : Nat) (x : Value) :
    Compares disk (fun _ => False) (fun e _ => ∀ chain, e ≠ .circular chain) Artifact
      (Artifact.Related Eq) (valueWithin levels v x) (valueWithin levels v x) := by
  have h := Resolving.respectful_compares options disk (P := fun _ => False)
    (S := fun e _ => ∀ chain, e ≠ .circular chain) fun _ he => he
  induction levels generalizing v x with
  | zero => exact .exhausted
  | succ levels ih =>
      refine h.level (.refl hv) (fun _ _ _ _ y _ => ih hv hguarded y) fun name _ => ?_
      have hseen : (v.guarded && v.chain.contains name) = false := by simp [hguarded]
      have hfollowed : ({ v with chain := v.chain ++ [name] } : Visitor).registry =
          .standard options := hv
      exact h.discreet.follow (.refl hv) hseen hseen fun y _ => ih hfollowed hguarded y

theorem ne_circular_naively (hv : v.registry = .standard options) (levels : Nat) (name : String)
    (chain : List String) :
    (v.naively levels name).outcome disk ≠ some (.error (.circular chain)) := by
  have h := Resolving.respectful_compares options disk (P := fun _ => False)
    (S := fun e _ => ∀ chain, e ≠ .circular chain) fun _ he => he
  have hplain : ({ v with guarded := false } : Visitor).registry = .standard options := hv
  have hnaively : Compares disk (fun _ => False) (fun e _ => ∀ chain, e ≠ .circular chain)
      Artifact (Artifact.Related Eq) (v.naively levels name) (v.naively levels name) := by
    have hfollowed : ({ v with guarded := false, chain := v.chain ++ [name] } : Visitor).registry =
        .standard options := hv
    exact h.discreet.followRoot (.refl hplain) (h.discreet.follow (.refl hplain) rfl rfl fun y _ =>
      ne_circular_valueWithin hfollowed rfl levels y)
  intro hcircular
  unfold Compares at hnaively
  rw [hcircular] at hnaively
  cases hnaively with
  | excused he => exact he
  | failed he => exact he chain rfl

/-- A root property comes to something. -/
theorem exists_outcome_upwardRoot (hv : v.registry = .standard options)
    (hguarded : v.guarded = true) (disk : Disk) (name : String) :
    ∃ own, (v.upwardRoot name).outcome disk = some own :=
  (ends_upwardRoot hv hguarded name).outcome disk

/-- More levels than a visitor allows itself change nothing. -/
theorem refines_upwardRoot (hv : v.registry = .standard options) (hchain : v.chain = [])
    {more : Nat} (hmore : v.enough 0 ≤ more) (name : String) :
    Refines disk (fun _ => False) (v.upwardRoot name) (followRoot (valueWithin more) v name) := by
  have h := Resolving.respectful_refines options disk fun _ => False
  have hseen : (v.guarded && v.chain.contains name) = false := not_refused (by simp [hchain])
  apply h.discreet.followRoot (.refl hv)
  apply h.discreet.follow (.refl hv) hseen hseen
  intro y _
  exact refines_levels ((Kin.refl hv).extend name) rfl (fun _ => rfl) hmore y

/-- What is found without looking at the chain is what is found with it: at levels enough for
both, the two find the same. -/
theorem eq_of_outcome_naively (hv : v.registry = .standard options) (hchain : v.chain = [])
    {name : String} {own result : Except ResolveError Artifact} {levels : Nat}
    (hown : (v.upwardRoot name).outcome disk = some own)
    (hresult : (v.naively levels name).outcome disk = some result) : own = result := by
  have h := Resolving.respectful_refines options disk fun _ => False
  have hkin : ({ v with guarded := false } : Visitor).Kin options v := ⟨hv, hv, rfl, rfl⟩
  let more := max levels (v.enough 0)
  have hmore : Refines disk (fun _ => False) (v.upwardRoot name)
      (followRoot (valueWithin more) v name) :=
    refines_upwardRoot hv hchain (Nat.le_max_right _ _) name
  have hplain : Refines disk (fun _ => False) (v.naively levels name)
      (followRoot (valueWithin more) v name) := by
    refine h.discreet.followRoot hkin (refines_follow rfl hkin (Nat.le_max_left _ _) ?_ name)
    rw [hchain]
    exact fun _ hmem => absurd hmem List.not_mem_nil
  exact Option.some.inj ((hmore.outcome_eq hown).symm.trans (hplain.outcome_eq hresult))

/-- Where nothing is found without looking at the chain, a cycle is reported with it. -/
theorem circular_of_outcome_naively (hv : v.registry = .standard options) (hchain : v.chain = [])
    {name : String} {own : Except ResolveError Artifact}
    (hown : (v.upwardRoot name).outcome disk = some own)
    (hnone : (v.naively (v.enough 0) name).outcome disk = none) :
    ∃ chain, own = .error (.circular chain) := by
  have h := Resolving.respectful_refines options disk fun e => ∃ chain, e = .circular chain
  have hkin : v.Kin options { v with guarded := false } := ⟨hv, hv, rfl, rfl⟩
  have hseen : (v.guarded && v.chain.contains name) = false := not_refused (by simp [hchain])
  have hfound : Refines disk (fun e => ∃ chain, e = .circular chain) (v.upwardRoot name)
      (v.naively (v.enough 0) name) :=
    h.discreet.followRoot hkin (h.discreet.follow hkin hseen rfl fun y _ =>
      refines_of_guarded (hkin.extend name) rfl _ y)
  unfold Refines Compares at hfound
  rw [hown, hnone] at hfound
  cases hfound with
  | excused hcircular =>
      obtain ⟨chain, rfl⟩ := hcircular
      exact ⟨chain, rfl⟩

/-- What resolution comes to where nothing is shared: what it does without looking at the chain
if that ends, and the report of a cycle otherwise. -/
theorem outcome_upwardRoot (hv : v.registry = .standard options) (hguarded : v.guarded = true)
    (hchain : v.chain = []) (disk : Disk) (name : String) :
    (∀ levels result, (v.naively levels name).outcome disk = some result →
        (v.upwardRoot name).outcome disk = some result) ∧
      ((∃ chain, (v.upwardRoot name).outcome disk = some (.error (.circular chain))) ↔
        ∀ levels, (v.naively levels name).outcome disk = none) := by
  obtain ⟨own, hown⟩ := exists_outcome_upwardRoot hv hguarded disk name
  refine ⟨?_, ?_, ?_⟩
  · intro levels result hresult
    rw [hown, eq_of_outcome_naively hv hchain hown hresult]
  · rintro ⟨chain, hcircular⟩ levels
    cases hresult : (v.naively levels name).outcome disk with
    | none => rfl
    | some result =>
        have hsame := eq_of_outcome_naively hv hchain hcircular hresult
        rw [← hsame] at hresult
        exact absurd hresult (ne_circular_naively hv levels name chain)
  · intro hnever
    obtain ⟨chain, rfl⟩ := circular_of_outcome_naively hv hchain hown (hnever (v.enough 0))
    exact ⟨chain, hown⟩

/-- Resolution finds cycles, and nothing but cycles, and changes nothing else: whatever other
resolutions have left, a root property comes to what it does when its references are simply
followed, if that ever ends, and to the report of a cycle if and only if it does not. -/
theorem upwardRoot_exact (options : ResolverOptions) (document : Document)
    (environment : Environment) (disk : Disk) (known others : List Path) (name : String) :
    let v := start (.standard options) document environment
    let result := ((v.upwardRoot name).run disk (.serving options.mode.maxAge known)).1
    let plain := fun levels =>
      ((v.naively levels name).run disk (.serving options.mode.maxAge others)).1
    (∀ levels found, plain levels = some found → ∃ own, result = some own ∧
        Resolved (Artifact.Related (Handler.ServesAlike options disk)) own found) ∧
      ((∃ chain, result = some (.error (.circular chain))) ↔ ∀ levels, plain levels = none) := by
  intro v result plain
  have hv : v.registry = .standard options := rfl
  have hplain : ({ v with guarded := false } : Visitor).registry = .standard options := rfl
  obtain ⟨hfound, hcircular⟩ := outcome_upwardRoot hv rfl rfl disk name
  have hresult := rel_outcome_upwardRoot hv disk known name
  have hlevels := fun levels => ((alike_followRoot hplain disk levels name).run
    (Shared.faithful_serving options.mode.maxAge others)).1
  change ∀ levels, Option.Rel _ (plain levels) ((v.naively levels name).outcome disk) at hlevels
  refine ⟨?_, ?_⟩
  · intro levels found hplainAt
    obtain ⟨made, hmade, hfoundMade⟩ := Resolved.rel_some_left (hlevels levels) hplainAt
    obtain ⟨own, hown, hownMade⟩ := Resolved.rel_some_right hresult (hfound levels made hmade)
    exact ⟨own, hown, hownMade.join hfoundMade fun _ _ _ => Artifact.Related.join⟩
  · have hreported : (∃ chain, result = some (.error (.circular chain))) ↔
        ∃ chain, (v.upwardRoot name).outcome disk = some (.error (.circular chain)) :=
      exists_congr fun chain => Resolved.rel_error_iff hresult (.circular chain)
    have hnever : (∀ levels, plain levels = none) ↔
        ∀ levels, (v.naively levels name).outcome disk = none :=
      forall_congr' fun levels => Resolved.rel_none_iff (hlevels levels)
    rw [hreported, hnever]
    exact hcircular

end Visitor

end Signpost
