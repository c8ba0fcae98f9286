import GmxSynthetics.Evm.Raises

/-!
# Calls that do not underflow

`NoUnderflow r` — `r` does not fail on an unsigned subtraction that goes below zero. The simp set
takes a call apart into its subtractions, so what is left to prove is that each of them has enough
to subtract from.
-/

namespace Evm.Result

variable {σ ε α β : Type}

/-- The call does not fail with an unsigned subtraction below zero. -/
def NoUnderflow (r : Result ε α) : Prop := Raises (· ≠ .panic .underflow) r

/-- It is about one panic; any other error, or a result, is fine. -/
theorem noUnderflow_iff {r : Result ε α} :
    NoUnderflow r ↔ r ≠ .error (.panic .underflow) := by
  constructor
  · intro h hr
    exact h hr rfl
  · intro h e hr heq
    exact h (heq ▸ hr)

-- ---------------------------------------------------------------------------
-- Sequencing
-- ---------------------------------------------------------------------------

@[simp] theorem noUnderflow_ok (a : α) : NoUnderflow (.ok a : Result ε α) := .ok a

@[simp] theorem noUnderflow_pure (a : α) : NoUnderflow (pure a : Result ε α) := .ok a

@[simp] theorem noUnderflow_error {e : Revert ε} :
    NoUnderflow (.error e : Result ε α) ↔ e ≠ .panic .underflow := by
  simp [noUnderflow_iff]

/-- A sequence does not underflow when neither half does. -/
@[simp] theorem noUnderflow_bind {x : Result ε α} {f : α → Result ε β} :
    NoUnderflow (x >>= f) ↔ NoUnderflow x ∧ ∀ a, x = .ok a → NoUnderflow (f a) := by
  cases x with
  | error e => simp [noUnderflow_iff, bind, Except.bind]
  | ok a => simp [noUnderflow_iff, bind, Except.bind]

/-- What is done with the result matters nothing. -/
@[simp] theorem noUnderflow_map {x : Result ε α} {f : α → β} :
    NoUnderflow (f <$> x) ↔ NoUnderflow x := by
  cases x <;> simp [noUnderflow_iff, Functor.map, Except.map]

/-- Each branch under its condition. -/
@[simp] theorem noUnderflow_ite {c : Prop} [Decidable c] {x y : Result ε α} :
    NoUnderflow (if c then x else y) ↔ (c → NoUnderflow x) ∧ (¬ c → NoUnderflow y) := by
  split <;> simp [*]

/-- A check raises its own error. -/
@[simp] theorem noUnderflow_revertIf {c : Prop} [Decidable c] {e : Revert ε} :
    NoUnderflow (revertIf c e) ↔ (c → e ≠ .panic .underflow) := by
  simp [revertIf]

-- ---------------------------------------------------------------------------
-- Words
-- ---------------------------------------------------------------------------

@[simp] theorem noUnderflow_checkUint (n : Nat) : NoUnderflow (checkUint n : Result ε Nat) := by
  simp [checkUint]

@[simp] theorem noUnderflow_checkInt (x : Int) : NoUnderflow (checkInt x : Result ε Int) := by
  simp [checkInt]

/-- A sum overflows, if anything. -/
@[simp] theorem noUnderflow_add (a b : Nat) : NoUnderflow (add a b : Result ε Nat) :=
  noUnderflow_checkUint _

/-- So does a product. -/
@[simp] theorem noUnderflow_mul (a b : Nat) : NoUnderflow (mul a b : Result ε Nat) :=
  noUnderflow_checkUint _

/-- The only operation that can underflow. -/
@[simp] theorem noUnderflow_sub {a b : Nat} : NoUnderflow (sub a b : Result ε Nat) ↔ b ≤ a := by
  unfold sub
  split <;> simp [*]

/-- A quotient divides by zero, if anything. -/
@[simp] theorem noUnderflow_div (a b : Nat) : NoUnderflow (div a b : Result ε Nat) := by
  simp [div]

/-- Signed arithmetic leaves its range with the panic of an overflow. -/
@[simp] theorem noUnderflow_addInt (a b : Int) : NoUnderflow (addInt a b : Result ε Int) :=
  noUnderflow_checkInt _

/-- The signed difference too, however small it is. -/
@[simp] theorem noUnderflow_subInt (a b : Int) : NoUnderflow (subInt a b : Result ε Int) :=
  noUnderflow_checkInt _

@[simp] theorem noUnderflow_mulInt (a b : Int) : NoUnderflow (mulInt a b : Result ε Int) :=
  noUnderflow_checkInt _

/-- Only the least value has no negative, and that is an overflow. -/
@[simp] theorem noUnderflow_negInt (a : Int) : NoUnderflow (negInt a : Result ε Int) :=
  noUnderflow_checkInt _

@[simp] theorem noUnderflow_divInt (a b : Int) : NoUnderflow (divInt a b : Result ε Int) := by
  simp [divInt]

/-- Conversions raise errors of their own. -/
@[simp] theorem noUnderflow_toInt256 (a : Nat) : NoUnderflow (toInt256 a : Result ε Int) := by
  simp [toInt256]

/-- So does that of a negative value. -/
@[simp] theorem noUnderflow_toUint256 (a : Int) : NoUnderflow (toUint256 a : Result ε Nat) := by
  simp [toUint256]

/-- Products are taken in full before they are divided. -/
@[simp] theorem noUnderflow_mulDiv (x y d : Nat) : NoUnderflow (mulDiv x y d : Result ε Nat) := by
  simp [mulDiv]

/-- Rounding up adds one. -/
@[simp] theorem noUnderflow_mulDivUp (x y d : Nat) :
    NoUnderflow (mulDivUp x y d : Result ε Nat) := by
  simp [mulDivUp]

/-- The comparison negates, it does not subtract. -/
@[simp] theorem noUnderflow_negationExceeds (x : Int) (limit : Nat) :
    NoUnderflow (negationExceeds x limit : Result ε Bool) := by
  simp [negationExceeds]

-- ---------------------------------------------------------------------------
-- State-changing calls
-- ---------------------------------------------------------------------------

@[simp] theorem noUnderflow_tx_pure (a : α) (s : σ) :
    NoUnderflow ((pure a : Tx σ ε α) s) := .ok _

/-- A sequence underflows in its first part or in what follows its result. -/
@[simp] theorem noUnderflow_tx_bind {x : Tx σ ε α} {f : α → Tx σ ε β} {s : σ} :
    NoUnderflow ((x >>= f) s) ↔
      NoUnderflow (x s) ∧ ∀ a s', x s = .ok (a, s') → NoUnderflow (f a s') := by
  change NoUnderflow (x s >>= fun p => f p.1 p.2) ↔ _
  simp

@[simp] theorem noUnderflow_tx_map {x : Tx σ ε α} {f : α → β} {s : σ} :
    NoUnderflow ((f <$> x) s) ↔ NoUnderflow (x s) := by
  change NoUnderflow (x s >>= fun p => Except.ok (f p.1, p.2)) ↔ _
  simp

/-- A computation in a call underflows as it does alone. -/
@[simp] theorem noUnderflow_tx_lift {r : Result ε α} {s : σ} :
    NoUnderflow ((liftM r : Tx σ ε α) s) ↔ NoUnderflow r := by
  change NoUnderflow (r >>= fun a => Except.ok (a, s)) ↔ _
  simp

@[simp] theorem noUnderflow_tx_view {f : σ → Result ε α} {s : σ} :
    NoUnderflow (Tx.view f s) ↔ NoUnderflow (f s) := by
  unfold Tx.view
  cases f s with
  | error e => simp [Except.map, noUnderflow_iff]
  | ok a => simp [Except.map]

@[simp] theorem noUnderflow_tx_read (f : σ → α) (s : σ) :
    NoUnderflow ((Tx.read f : Tx σ ε α) s) := .ok _

@[simp] theorem noUnderflow_tx_write (f : σ → σ) (s : σ) :
    NoUnderflow ((Tx.write f : Tx σ ε Unit) s) := .ok _

@[simp] theorem noUnderflow_tx_revert (e : ε) (s : σ) :
    NoUnderflow ((Tx.revert e : Tx σ ε α) s) := by
  simp [Tx.revert]

/-- An external call that is tried hands its failure over as a value. -/
@[simp] theorem noUnderflow_tx_attempt (x : Tx σ ε α) (s : σ) :
    NoUnderflow (Tx.attempt x s) := by
  unfold Tx.attempt
  split <;> simp

/-- Each branch under its condition. -/
@[simp] theorem noUnderflow_tx_ite {c : Prop} [Decidable c] {x y : Tx σ ε α} {s : σ} :
    NoUnderflow ((if c then x else y) s) ↔
      (c → NoUnderflow (x s)) ∧ (¬ c → NoUnderflow (y s)) := by
  split <;> simp [*]

-- A step that cannot move the state leaves no state behind.

/-- A computation that a call starts with does not change the world. -/
theorem noUnderflow_lift_bind {r : Result ε α} {f : α → Tx σ ε β} {s : σ} :
    NoUnderflow (((liftM r : Tx σ ε α) >>= f) s) ↔
      NoUnderflow r ∧ ∀ a, r = .ok a → NoUnderflow (f a s) := by
  rw [noUnderflow_tx_bind, noUnderflow_tx_lift]
  refine and_congr_right fun _ => ⟨fun h a ha => h a s (Tx.lift_of_ok ha), fun h a s' ha => ?_⟩
  obtain ⟨hr, rfl⟩ := Tx.lift_eq_ok.mp ha
  exact h a hr

/-- Nor does a view. -/
theorem noUnderflow_view_bind {g : σ → Result ε α} {f : α → Tx σ ε β} {s : σ} :
    NoUnderflow ((Tx.view g >>= f) s) ↔
      NoUnderflow (g s) ∧ ∀ a, g s = .ok a → NoUnderflow (f a s) := by
  rw [noUnderflow_tx_bind, noUnderflow_tx_view]
  refine and_congr_right fun _ => ⟨fun h a ha => h a s (Tx.view_of_ok ha), fun h a s' ha => ?_⟩
  obtain ⟨hg, rfl⟩ := Tx.view_eq_ok.mp ha
  exact h a hg

end Evm.Result
