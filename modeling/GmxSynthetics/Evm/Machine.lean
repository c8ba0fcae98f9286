import Mathlib.Algebra.GroupWithZero.Nat
import Mathlib.Logic.Relation

/-!
# Machines

A machine has a set of states to start from and takes labelled steps. A safety property of
all its runs is an invariant: it holds at the start and every step keeps it.

* `Machine.ReachableIf guard` — the states reached by steps that all meet a condition on the
  label and the state the step starts from; `Machine.Reachable` asks for none;
* `ReachableIf.invariant` — the invariant rule, with the help of invariants proved before;
* `Reachable.simulated` — what one machine reaches, a machine that simulates it reaches too;
* `Run.stable` — what every step keeps holds to the end of a run, and `RunIf.stable` the same for
  runs whose steps all meet a condition;
* `Trace.total` — what the steps of a run take from a measure, by their labels, adds up.
-/

namespace Evm

/-- Where a machine starts, and what a step with a given label may do. -/
structure Machine (σ ι : Type) where
  init : σ → Prop
  next : ι → σ → σ → Prop

namespace Machine

variable {σ ι : Type} (M : Machine σ ι)

/-- Reached from an initial state by steps that meet the guard. -/
inductive ReachableIf (guard : ι → σ → Prop) : σ → Prop where
  | init {s : σ} (h : M.init s) : ReachableIf guard s
  | step {s s' : σ} {i : ι} (hs : ReachableIf guard s) (hguard : guard i s)
      (hnext : M.next i s s') : ReachableIf guard s'

/-- Reached by any steps. -/
def Reachable : σ → Prop := M.ReachableIf fun _ _ => True

/-- Any steps from one state to another. -/
def Run : σ → σ → Prop := Relation.ReflTransGen fun s s' => ∃ i, M.next i s s'

/-- Steps from one state to another that meet the guard. -/
def RunIf (guard : ι → σ → Prop) : σ → σ → Prop :=
  Relation.ReflTransGen fun s s' => ∃ i, guard i s ∧ M.next i s s'

/-- The steps from one state to another, by their labels. -/
inductive Trace : σ → List ι → σ → Prop where
  | nil (s : σ) : Trace s [] s
  | cons {s s₁ s' : σ} {i : ι} {labels : List ι} (hnext : M.next i s s₁)
      (hrest : Trace s₁ labels s') : Trace s (i :: labels) s'

variable {M} {guard : ι → σ → Prop} {s s' : σ}

theorem ReachableIf.reachable (h : M.ReachableIf guard s) : M.Reachable s := by
  induction h with
  | init h => exact .init h
  | step _ _ hnext ih => exact .step ih trivial hnext

/-- The invariant rule. The step may use that its first state is reachable, and with it every
invariant that has been proved before. -/
theorem ReachableIf.invariant {P : σ → Prop} (hinit : ∀ s, M.init s → P s)
    (hstep : ∀ i s s', M.Reachable s → guard i s → M.next i s s' → P s → P s')
    (h : M.ReachableIf guard s) : P s := by
  induction h with
  | init h => exact hinit _ h
  | step hs hguard hnext ih => exact hstep _ _ _ hs.reachable hguard hnext ih

/-- The invariant rule for all steps. -/
theorem Reachable.invariant {P : σ → Prop} (hinit : ∀ s, M.init s → P s)
    (hstep : ∀ i s s', M.Reachable s → M.next i s s' → P s → P s') (h : M.Reachable s) : P s :=
  ReachableIf.invariant hinit (fun i s s' hs _ hnext => hstep i s s' hs hnext) h

theorem Reachable.next {i : ι} (h : M.Reachable s) (hnext : M.next i s s') : M.Reachable s' :=
  .step h trivial hnext

theorem Reachable.run (h : M.Reachable s) (hrun : M.Run s s') : M.Reachable s' := by
  induction hrun with
  | refl => exact h
  | tail _ hnext ih =>
    obtain ⟨_, hnext⟩ := hnext
    exact ih.next hnext

/-- What holds of a reachable state and is kept by every step holds to the end of a run. -/
theorem Run.stable {P : σ → Prop}
    (hstep : ∀ i s s', M.Reachable s → M.next i s s' → P s → P s') (hs : M.Reachable s)
    (hP : P s) (hrun : M.Run s s') : P s' := by
  induction hrun with
  | refl => exact hP
  | tail hrun hnext ih =>
    obtain ⟨_, hnext⟩ := hnext
    exact hstep _ _ _ (hs.run hrun) hnext ih

theorem RunIf.run (h : M.RunIf guard s s') : M.Run s s' := by
  induction h with
  | refl => exact .refl
  | tail _ hnext ih =>
    obtain ⟨i, -, hnext⟩ := hnext
    exact ih.tail ⟨i, hnext⟩

/-- What every step that meets the guard keeps holds to the end of a run of such steps. -/
theorem RunIf.stable {P : σ → Prop}
    (hstep : ∀ i s s', M.Reachable s → guard i s → M.next i s s' → P s → P s')
    (hs : M.Reachable s) (hP : P s) (hrun : M.RunIf guard s s') : P s' := by
  induction hrun with
  | refl => exact hP
  | tail hrun hnext ih =>
    obtain ⟨i, hguard, hnext⟩ := hnext
    exact hstep _ _ _ (hs.run (RunIf.run hrun)) hguard hnext ih

/-- A run by its labels is a run. -/
theorem Trace.run {labels : List ι} (h : M.Trace s labels s') : M.Run s s' := by
  induction h with
  | nil s => exact .refl
  | cons hnext _ ih => exact .head ⟨_, hnext⟩ ih

/-- What every step takes from a measure, or takes at most, a run takes in total. The steps may use
that they start from reachable states, and an invariant that they keep. -/
theorem Trace.total (measure : σ → Nat) (cost : ι → Nat) {P : σ → Prop} {good : ι → Prop}
    {r : Nat → Nat → Prop} [IsPreorder Nat r] (hadd : ∀ a b c, r a b → r (a + c) (b + c))
    (hstep : ∀ i s s', M.Reachable s → good i → M.next i s s' → P s →
      P s' ∧ r (measure s) (measure s' + cost i))
    {labels : List ι} (h : M.Trace s labels s') (hs : M.Reachable s) (hP : P s)
    (hgood : ∀ i ∈ labels, good i) : r (measure s) (measure s' + (labels.map cost).sum) := by
  induction h with
  | nil s => exact refl_of r _
  | @cons s s₁ s' i labels hnext _ ih =>
    obtain ⟨hP₁, hfirst⟩ := hstep i s s₁ hs (hgood i List.mem_cons_self) hnext hP
    have hrest := ih (hs.next hnext) hP₁ fun j hj => hgood j (List.mem_cons_of_mem _ hj)
    have hboth := trans_of r hfirst (hadd _ _ (cost i) hrest)
    rwa [List.map_cons, List.sum_cons, Nat.add_comm (cost i), ← Nat.add_assoc]

/-- Every start of `M` has a related start of `N`, and every step of `M` is matched from related
states by steps of `N`. -/
structure Simulates {τ κ : Type} (N : Machine τ κ) (M : Machine σ ι) (R : σ → τ → Prop) : Prop where
  init : ∀ s, M.init s → ∃ t, N.init t ∧ R s t
  next : ∀ i s s' t, M.next i s s' → R s t → ∃ t', N.Run t t' ∧ R s' t'

theorem Reachable.simulated {τ κ : Type} {N : Machine τ κ} {R : σ → τ → Prop}
    (hN : N.Simulates M R) (h : M.Reachable s) : ∃ t, N.Reachable t ∧ R s t := by
  induction h with
  | init h =>
    obtain ⟨t, ht, hR⟩ := hN.init _ h
    exact ⟨t, .init ht, hR⟩
  | step _ _ hnext ih =>
    obtain ⟨t, ht, hR⟩ := ih
    obtain ⟨t', hrun, hR'⟩ := hN.next _ _ _ _ hnext hR
    exact ⟨t', ht.run hrun, hR'⟩

end Machine

end Evm
