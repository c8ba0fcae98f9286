import GmxSynthetics.Evm.EnumerableSet
import Mathlib.Algebra.BigOperators.Group.List.Basic

/-!
# Escrow

An account that holds the deposits of many requests in one balance. It records how much of the
balance it has accounted for; what has arrived since then is attributed to whoever asks next.

* `Flow` — what a change of the balance takes in and pays out;
* `Escrow.Solvent` — what the pending requests are owed is recorded, and what is recorded is held;
* `Escrow.Settles` — a step that takes in and pays out for one request only;
* `Solvent.step` — such steps keep the account solvent.
-/

namespace Evm

-- ---------------------------------------------------------------------------
-- Balances
-- ---------------------------------------------------------------------------

/-- What an account holds of each token, and what of it is recorded. -/
structure Balance (τ : Type) where
  held : τ → Nat
  recorded : τ → Nat

/-- Nothing is recorded that is not held. -/
def Balance.Covered {τ : Type} (b : Balance τ) : Prop := ∀ t, b.recorded t ≤ b.held t

/-- A change of a balance that records at least what is `received`, and takes out at most what
is `spent`. -/
structure Flow {τ : Type} (b : Balance τ) (received spent : τ → Nat) (b' : Balance τ) : Prop where
  covered : b.Covered → b'.Covered
  recorded : b.Covered → ∀ t, b.recorded t + received t ≤ b'.recorded t + spent t
  held : ∀ t, b.held t ≤ b'.held t + spent t

namespace Flow

variable {τ : Type} {b b' b'' : Balance τ} {received received' spent spent' : τ → Nat}

theorem refl (b : Balance τ) : Flow b 0 0 b where
  covered h := h
  recorded _ _ := Nat.le_refl _
  held _ := Nat.le_refl _

theorem trans (h : Flow b received spent b') (h' : Flow b' received' spent' b'') :
    Flow b (received + received') (spent + spent') b'' where
  covered hb := h'.covered (h.covered hb)
  recorded hb t := by
    have h₁ := h.recorded hb t
    have h₂ := h'.recorded (h.covered hb) t
    simp only [Pi.add_apply]
    omega
  held t := by
    have h₁ := h.held t
    have h₂ := h'.held t
    simp only [Pi.add_apply]
    omega

/-- What comes after may add to the balance without recording it. -/
theorem then_raised (h : Flow b received spent b') (h' : Flow b' 0 0 b'') :
    Flow b received spent b'' := by
  have h₂ := h.trans h'
  rwa [add_zero, add_zero] at h₂

theorem mono (h : Flow b received spent b') (hreceived : ∀ t, received' t ≤ received t)
    (hspent : ∀ t, spent t ≤ spent' t) : Flow b received' spent' b' where
  covered := h.covered
  recorded hb t := by
    have h₁ := h.recorded hb t
    have h₂ := hreceived t
    have h₃ := hspent t
    omega
  held t := by
    have h₁ := h.held t
    have h₂ := hspent t
    omega

end Flow

-- ---------------------------------------------------------------------------
-- Escrow accounts
-- ---------------------------------------------------------------------------

/-- A balance, the pending requests and what each is owed. -/
structure Escrow (κ τ : Type) extends Balance τ where
  keys : List κ
  owed : κ → τ → Nat

namespace Escrow

variable {κ τ : Type} {e e' : Escrow κ τ}

/-- What all pending requests are owed. -/
def total (e : Escrow κ τ) (t : τ) : Nat := (e.keys.map fun key => e.owed key t).sum

structure Solvent (e : Escrow κ τ) : Prop where
  nodup : e.keys.Nodup
  absent : ∀ key ∉ e.keys, ∀ t, e.owed key t = 0
  total_le : ∀ t, e.total t ≤ e.recorded t
  covered : e.toBalance.Covered

/-- The account holds what it owes. -/
theorem Solvent.total_le_held (h : e.Solvent) (t : τ) : e.total t ≤ e.held t :=
  (h.total_le t).trans (h.covered t)

/-- A step for one request: the others stay as they are. What the request is owed grows by no more
than what is received for it, and it is paid no more than what it is owed less. -/
structure Settles (key : κ) (received spent : τ → Nat) (e e' : Escrow κ τ) : Prop where
  flow : Flow e.toBalance received spent e'.toBalance
  nodup : e.keys.Nodup → e'.keys.Nodup
  mem_keys : ∀ key' ≠ key, (key' ∈ e'.keys ↔ key' ∈ e.keys)
  owed : ∀ key' ≠ key, e'.owed key' = e.owed key'
  absent : key ∉ e'.keys → ∀ t, e'.owed key t = 0
  taken : ∀ t, e'.owed key t ≤ e.owed key t + received t
  paid : ∀ t, e'.owed key t + spent t ≤ e.owed key t ∨ spent t = 0

theorem Settles.of_flow {received : τ → Nat} (key : κ)
    (habsent : key ∉ e.keys → ∀ t, e.owed key t = 0) (hkeys : e'.keys = e.keys)
    (howed : e'.owed = e.owed) (h : Flow e.toBalance received 0 e'.toBalance) :
    Settles key received 0 e e' where
  flow := h
  nodup := by rw [hkeys]; exact id
  mem_keys _ _ := by rw [hkeys]
  owed _ _ := by rw [howed]
  absent := by
    rw [hkeys, howed]
    exact habsent
  taken t := by
    rw [howed]
    exact Nat.le_add_right _ _
  paid _ := Or.inr rfl

/-- A step for a request that was listed before without being owed anything. -/
theorem Settles.after_listed {e₁ : Escrow κ τ} {key : κ} {received spent : τ → Nat}
    (h : Settles key received spent e₁ e') (hbalance : e₁.toBalance = e.toBalance)
    (hnodup : e.keys.Nodup → e₁.keys.Nodup)
    (hmem : ∀ key' ≠ key, (key' ∈ e₁.keys ↔ key' ∈ e.keys)) (howed : e₁.owed = e.owed) :
    Settles key received spent e e' where
  flow := by
    rw [← hbalance]
    exact h.flow
  nodup hkeys := h.nodup (hnodup hkeys)
  mem_keys key' hne := (h.mem_keys key' hne).trans (hmem key' hne)
  owed key' hne := by rw [h.owed key' hne, howed]
  absent := h.absent
  taken t := by
    rw [← howed]
    exact h.taken t
  paid t := by
    rw [← howed]
    exact h.paid t

/-- **A step for one request keeps the account solvent.** -/
theorem Solvent.step [DecidableEq κ] {key : κ} {received spent : τ → Nat} (h : e.Solvent)
    (hstep : Settles key received spent e e') : e'.Solvent := by
  have hnodup := hstep.nodup h.nodup
  constructor
  case nodup => exact hnodup
  case absent =>
    intro key' hkey' t
    by_cases hne : key' = key
    · subst hne
      exact hstep.absent hkey' t
    · rw [hstep.owed key' hne]
      exact h.absent key' (fun hmem => hkey' ((hstep.mem_keys key' hne).mpr hmem)) t
  case total_le =>
    intro t
    have hchange := EnumerableSet.sum_change h.nodup hnodup hstep.mem_keys
      (f := fun key => e.owed key t) (g := fun key => e'.owed key t)
      (fun key' _ hne => by rw [hstep.owed key' hne])
      (fun hmem => h.absent key hmem t) (fun hmem => hstep.absent hmem t)
    have hrecorded := hstep.flow.recorded h.covered t
    have htotal := h.total_le t
    have htaken := hstep.taken t
    unfold total at htotal ⊢
    rcases hstep.paid t with hpaid | hpaid
    · omega
    · omega
  case covered => exact hstep.flow.covered h.covered

end Escrow

end Evm
