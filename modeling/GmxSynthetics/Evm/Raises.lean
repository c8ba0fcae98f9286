import GmxSynthetics.Evm.Transaction

/-!
# What a call can revert with

`r.Raises P` — whenever `r` reverts, the revert data satisfies `P`. It is the dual of the
`…_eq_ok` lemmas: those take a successful run apart, these bound how a run can fail. A call is
read state by state, so the rules below serve both `Result` and `Tx`.
-/

namespace Evm.Result

variable {σ ε α β : Type} {P Q : Revert ε → Prop}

/-- Every revert of `r` satisfies `P`. -/
def Raises (P : Revert ε → Prop) (r : Result ε α) : Prop := ∀ ⦃e⦄, r = .error e → P e

namespace Raises

/-- A call that returns does not revert. -/
theorem ok (a : α) : Raises P (.ok a : Result ε α) := by
  intro e h
  cases h

/-- A computation that only returns does not revert. -/
theorem pure (a : α) : Raises P (pure a : Result ε α) := ok a

/-- A call that reverts does so with its revert data. -/
theorem error {e : Revert ε} (h : P e) : Raises P (.error e : Result ε α) := by
  intro e' he
  cases he
  exact h

/-- A sequence reverts with its first half, or with the second half after what the first one
returned. -/
theorem bind {x : Result ε α} {f : α → Result ε β} (hx : Raises P x)
    (hf : ∀ a, x = .ok a → Raises P (f a)) : Raises P (x >>= f) := by
  cases x with
  | error e => exact error (hx rfl)
  | ok a => exact hf a rfl

/-- Each branch under its condition. -/
theorem ite {c : Prop} [Decidable c] {x y : Result ε α} (hx : c → Raises P x)
    (hy : ¬ c → Raises P y) : Raises P (if c then x else y) := by
  split
  · rename_i hc
    exact hx hc
  · rename_i hc
    exact hy hc

/-- A check reverts with the revert data that it names, where its condition holds. -/
theorem revertIf {c : Prop} [Decidable c] {e : Revert ε} (h : c → P e) :
    Raises P (revertIf c e) :=
  ite (fun hc => error (h hc)) fun _ => ok ()

/-- By induction on the list: a loop reverts with one of its rounds. -/
theorem forM {xs : List α} {f : α → Result ε Unit} (hf : ∀ a, Raises P (f a)) :
    Raises P (xs.forM f) := by
  induction xs with
  | nil => exact pure ()
  | cons a xs ih => exact bind (hf a) fun _ _ => ih

/-- A word that is out of range panics. -/
theorem checkUint (h : P (.panic .arithmetic)) (n : Nat) : Raises P (checkUint n : Result ε Nat) :=
  ite (fun _ => ok _) fun _ => error h

/-- A checked sum reverts with the arithmetic panic only. -/
theorem add (h : P (.panic .arithmetic)) (a b : Nat) : Raises P (add a b : Result ε Nat) :=
  checkUint h _

-- ---------------------------------------------------------------------------
-- State-changing calls
-- ---------------------------------------------------------------------------

/-- A sequence of calls, from the state that the first one leaves. -/
theorem tx_bind {x : Tx σ ε α} {f : α → Tx σ ε β} {s : σ} (hx : Raises P (x s))
    (hf : ∀ a s', x s = .ok (a, s') → Raises P (f a s')) : Raises P ((x >>= f) s) :=
  bind hx fun p hp => hf p.1 p.2 hp

/-- The same in a transaction, from every state. -/
theorem tx_pure (a : α) (s : σ) : Raises P ((Pure.pure a : Tx σ ε α) s) := ok _

/-- A view call reverts as its function does. -/
theorem tx_view {f : σ → Result ε α} {s : σ} (hf : Raises P (f s)) :
    Raises P (Tx.view f s) := by
  unfold Tx.view
  cases h : f s with
  | error e => exact error (hf h)
  | ok a => exact ok _

end Raises

end Evm.Result
