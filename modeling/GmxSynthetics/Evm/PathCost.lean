import GmxSynthetics.Evm.Arithmetic
import Mathlib.Data.List.Chain

/-!
# Costs of a path

A step costs something that depends on where it starts and where it ends. When it is what a
potential loses between the two, the costs of a path depend on its ends only. Both the cost and
the potential are computed by calls that may revert.

* `pathCost` — the costs of the steps of a path, added up;
* `IsPotential` — along a relation, a step costs what the potential loses;
* `IsPotential.pathCost_eq` — a path along it costs as much as one step between its ends.
-/

namespace Evm

variable {σ ε : Type}

/-- The costs of the steps of a path that starts at the given state, added up. -/
def pathCost (cost : σ → σ → Result ε Int) : σ → List σ → Result ε Int
  | _, [] => pure 0
  | s, t :: path => do
    let first ← cost s t
    let rest ← pathCost cost t path
    pure (first + rest)

/-- Along `R`, a step that costs anything costs what the potential loses. -/
structure IsPotential (R : σ → σ → Prop) (cost : σ → σ → Result ε Int)
    (potential : σ → Result ε Int) : Prop where
  step : ∀ {s t : σ} {c : Int}, R s t → cost s t = .ok c →
    ∃ x y, potential s = .ok x ∧ potential t = .ok y ∧ c = x - y

namespace IsPotential

variable {R : σ → σ → Prop} {cost : σ → σ → Result ε Int} {potential : σ → Result ε Int}
  {s : σ} {path : List σ}

/-- What a path costs has been lost by the potential at its end. -/
theorem potential_last (h : IsPotential R cost potential) (hchain : List.IsChain R (s :: path))
    {total x : Int} (hpath : pathCost cost s path = .ok total) (hx : potential s = .ok x) :
    potential (path.getLastD s) = .ok (x - total) := by
  induction path generalizing s total x with
  | nil =>
    obtain rfl := Result.pure_eq_ok.mp hpath
    rw [sub_zero]
    exact hx
  | cons t path ih =>
    obtain ⟨hstep, hrest⟩ := List.isChain_cons_cons.mp hchain
    simp only [pathCost, Result.bind_eq_ok, Result.pure_eq_ok] at hpath
    obtain ⟨first, hfirst, rest, hpath, rfl⟩ := hpath
    obtain ⟨x', y, hx', hy, rfl⟩ := h.step hstep hfirst
    obtain rfl : x = x' := Except.ok.inj (hx.symm.trans hx')
    rw [List.getLastD_cons, ih hrest hpath hy]
    congr 1
    omega

/-- A chain of a preorder leads from its first state to its last. -/
theorem last_of_isChain [IsPreorder σ R] (hchain : List.IsChain R (s :: path)) :
    R s (path.getLastD s) := by
  induction path generalizing s with
  | nil => exact refl_of R s
  | cons t path ih =>
    obtain ⟨hstep, hrest⟩ := List.isChain_cons_cons.mp hchain
    rw [List.getLastD_cons]
    exact trans_of R hstep (ih hrest)

/-- **A path costs as much as one step between its ends.** -/
theorem pathCost_eq [IsPreorder σ R] (h : IsPotential R cost potential)
    (hchain : List.IsChain R (s :: path)) {total whole : Int}
    (hpath : pathCost cost s path = .ok total)
    (hwhole : cost s (path.getLastD s) = .ok whole) : total = whole := by
  obtain ⟨x, y, hx, hy, rfl⟩ := h.step (last_of_isChain hchain) hwhole
  have hlast := h.potential_last hchain hpath hx
  have hlost : x - total = y := Except.ok.inj (hlast.symm.trans hy)
  omega

end IsPotential

end Evm
