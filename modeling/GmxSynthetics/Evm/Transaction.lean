import GmxSynthetics.Evm.Arithmetic

/-!
# Transactions

State-changing calls as a state monad over `Result`: a call that reverts returns no
state, so everything it wrote is rolled back. The rules below are what proofs about
contracts use instead of unfolding the monad.

* `Tx.…_eq_ok` — a successful run of each construct, taken apart;
* `Tx.Keeps R` — every successful run relates its start to its end by `R`; for a
  reflexive and transitive `R` it is closed under sequencing, branching and
  catching, so a frame condition is proved once per primitive write.
-/

namespace Evm

/-- A call on state `σ` that returns `α` or reverts. -/
abbrev Tx (σ ε α : Type) := StateT σ (Except (Revert ε)) α

namespace Tx

variable {σ ε α β : Type}

/-- Evaluate a `view` function on the current state. -/
def view (f : σ → Result ε α) : Tx σ ε α := fun s => (f s).map (·, s)

/-- Read from the current state. -/
def read (f : σ → α) : Tx σ ε α := fun s => .ok (f s, s)

/-- Overwrite the state. -/
def write (f : σ → σ) : Tx σ ε Unit := fun s => .ok ((), f s)

/-- Revert with one of the contract's own errors. -/
def revert (error : ε) : Tx σ ε α := fun _ => .error (.custom error)

/-- The external call of a `try` statement: when it reverts, its writes are undone
and the revert data is handed to the caller. -/
def attempt (x : Tx σ ε α) : Tx σ ε (Except (Revert ε) α) := fun s =>
  match x s with
  | .ok (a, s') => .ok (.ok a, s')
  | .error e => .ok (.error e, s)

-- ---------------------------------------------------------------------------
-- Successful runs
-- ---------------------------------------------------------------------------

/-- A sequence returns where both parts do. -/
theorem bind_eq_ok {x : Tx σ ε α} {f : α → Tx σ ε β} {s s'' : σ} {b : β} :
    (x >>= f) s = .ok (b, s'') ↔ ∃ a s', x s = .ok (a, s') ∧ f a s' = .ok (b, s'') := by
  change (x s >>= fun p => f p.1 p.2) = .ok (b, s'') ↔ _
  rw [Result.bind_eq_ok]
  constructor
  · rintro ⟨⟨a, s'⟩, hx, hf⟩
    exact ⟨a, s', hx, hf⟩
  · rintro ⟨a, s', hx, hf⟩
    exact ⟨(a, s'), hx, hf⟩

/-- Returning leaves the state. -/
theorem pure_eq_ok {a b : α} {s s' : σ} :
    (pure a : Tx σ ε α) s = .ok (b, s') ↔ a = b ∧ s = s' := by
  change (Except.ok (a, s) : Result ε (α × σ)) = .ok (b, s') ↔ _
  rw [Except.ok.injEq, Prod.mk.injEq]

/-- A computation in a transaction leaves the state. -/
theorem lift_eq_ok {r : Result ε α} {s s' : σ} {a : α} :
    (liftM r : Tx σ ε α) s = .ok (a, s') ↔ r = .ok a ∧ s = s' := by
  cases r with
  | error e => simp [liftM, monadLift, MonadLift.monadLift, StateT.lift, bind, Except.bind]
  | ok b => simp [liftM, monadLift, MonadLift.monadLift, StateT.lift, bind, Except.bind, pure,
      Except.pure]

/-- A view leaves the state. -/
theorem view_eq_ok {f : σ → Result ε α} {s s' : σ} {a : α} :
    view f s = .ok (a, s') ↔ f s = .ok a ∧ s = s' := by
  unfold view
  cases f s <;> simp [Except.map]

/-- So does a read. -/
theorem read_eq_ok {f : σ → α} {s s' : σ} {a : α} :
    (read f : Tx σ ε α) s = .ok (a, s') ↔ f s = a ∧ s = s' := by
  simp [read]

/-- A write returns in the state written. -/
theorem write_eq_ok {f : σ → σ} {s s' : σ} {u : Unit} :
    (write f : Tx σ ε Unit) s = .ok (u, s') ↔ f s = s' := by
  simp [write]

@[simp] theorem revert_eq_ok {e : ε} {s s' : σ} {a : α} :
    (revert e : Tx σ ε α) s = .ok (a, s') ↔ False := by
  simp [revert]

/-- An attempt returns either way, and a failure leaves the state. -/
theorem attempt_eq_ok {x : Tx σ ε α} {s s' : σ} {r : Except (Revert ε) α} :
    attempt x s = .ok (r, s') ↔
      (∃ a, r = .ok a ∧ x s = .ok (a, s')) ∨ (∃ e, r = .error e ∧ x s = .error e ∧ s = s') := by
  unfold attempt
  cases h : x s with
  | error e => simp [eq_comm]
  | ok p => simp [eq_comm, Prod.ext_iff]

/-- Run a call on a part of the state. -/
def focus {τ : Type} (get : τ → σ) (set : σ → τ → τ) (x : Tx σ ε α) : Tx τ ε α := fun t =>
  (x (get t)).map fun (a, s) => (a, set s t)

/-- A call on a part of the state returns with that part changed. -/
theorem focus_eq_ok {τ : Type} {get : τ → σ} {set : σ → τ → τ} {x : Tx σ ε α} {t t' : τ} {a : α} :
    focus get set x t = .ok (a, t') ↔ ∃ s, x (get t) = .ok (a, s) ∧ set s t = t' := by
  unfold focus
  cases h : x (get t) with
  | error e => simp [Except.map]
  | ok p =>
    obtain ⟨b, s⟩ := p
    simp only [Except.map, Except.ok.injEq, Prod.mk.injEq]
    constructor
    · rintro ⟨rfl, rfl⟩
      exact ⟨s, ⟨rfl, rfl⟩, rfl⟩
    · rintro ⟨s', ⟨rfl, rfl⟩, rfl⟩
      exact ⟨rfl, rfl⟩

-- A step that cannot move the state leaves no state behind.

/-- A sequence that starts with a computation. -/
theorem lift_bind_eq_ok {r : Result ε α} {f : α → Tx σ ε β} {s s'' : σ} {b : β} :
    ((liftM r : Tx σ ε α) >>= f) s = .ok (b, s'') ↔
      ∃ a, r = .ok a ∧ f a s = .ok (b, s'') := by
  rw [bind_eq_ok]
  constructor
  · rintro ⟨a, s', h, hf⟩
    obtain ⟨hr, rfl⟩ := lift_eq_ok.mp h
    exact ⟨a, hr, hf⟩
  · rintro ⟨a, hr, hf⟩
    exact ⟨a, s, lift_eq_ok.mpr ⟨hr, rfl⟩, hf⟩

/-- One that starts with a view. -/
theorem view_bind_eq_ok {g : σ → Result ε α} {f : α → Tx σ ε β} {s s'' : σ} {b : β} :
    (view g >>= f) s = .ok (b, s'') ↔ ∃ a, g s = .ok a ∧ f a s = .ok (b, s'') := by
  rw [bind_eq_ok]
  constructor
  · rintro ⟨a, s', h, hf⟩
    obtain ⟨hg, rfl⟩ := view_eq_ok.mp h
    exact ⟨a, hg, hf⟩
  · rintro ⟨a, hg, hf⟩
    exact ⟨a, s, view_eq_ok.mpr ⟨hg, rfl⟩, hf⟩

/-- One that starts with a read. -/
theorem read_bind_eq_ok {g : σ → α} {f : α → Tx σ ε β} {s s'' : σ} {b : β} :
    ((read g : Tx σ ε α) >>= f) s = .ok (b, s'') ↔ f (g s) s = .ok (b, s'') :=
  Iff.rfl

/-- One that starts with a write. -/
theorem write_bind_eq_ok {g : σ → σ} {f : Unit → Tx σ ε β} {s s'' : σ} {b : β} :
    ((write g : Tx σ ε Unit) >>= f) s = .ok (b, s'') ↔ f () (g s) = .ok (b, s'') :=
  Iff.rfl

-- ---------------------------------------------------------------------------
-- Runs of known steps
-- ---------------------------------------------------------------------------

/-- What follows a call that returned starts from its state. -/
theorem bind_of_ok {x : Tx σ ε α} {f : α → Tx σ ε β} {s s' : σ} {a : α} (h : x s = .ok (a, s')) :
    (x >>= f) s = f a s' := by
  change (x s >>= fun p => f p.1 p.2) = f a s'
  rw [h]
  rfl

/-- A failure ends a sequence. -/
theorem bind_of_error {x : Tx σ ε α} {f : α → Tx σ ε β} {s : σ} {e : Revert ε}
    (h : x s = .error e) : (x >>= f) s = .error e := by
  change (x s >>= fun p => f p.1 p.2) = .error e
  rw [h]
  rfl

theorem lift_of_ok {r : Result ε α} {s : σ} {a : α} (h : r = .ok a) :
    (liftM r : Tx σ ε α) s = .ok (a, s) := lift_eq_ok.mpr ⟨h, rfl⟩

/-- A computation that fails fails the transaction. -/
theorem lift_of_error {r : Result ε α} {s : σ} {e : Revert ε} (h : r = .error e) :
    (liftM r : Tx σ ε α) s = .error e := by
  rw [h]
  rfl

theorem view_of_ok {f : σ → Result ε α} {s : σ} {a : α} (h : f s = .ok a) :
    view f s = .ok (a, s) := view_eq_ok.mpr ⟨h, rfl⟩

/-- So does a view. -/
theorem view_of_error {f : σ → Result ε α} {s : σ} {e : Revert ε} (h : f s = .error e) :
    view f s = .error e := by
  unfold view
  rw [h]
  rfl

/-- An attempt of what returns is its result. -/
theorem attempt_of_ok {x : Tx σ ε α} {s s' : σ} {a : α} (h : x s = .ok (a, s')) :
    attempt x s = .ok (.ok a, s') := by
  unfold attempt
  rw [h]

/-- An attempt of what fails is its error. -/
theorem attempt_of_error {x : Tx σ ε α} {s : σ} {e : Revert ε} (h : x s = .error e) :
    attempt x s = .ok (.error e, s) := by
  unfold attempt
  rw [h]

-- ---------------------------------------------------------------------------
-- Frame conditions
-- ---------------------------------------------------------------------------

/-- Every successful run of `x` relates its first state to its last by `R`. -/
def Keeps (R : σ → σ → Prop) (x : Tx σ ε α) : Prop :=
  ∀ ⦃s a s'⦄, x s = .ok (a, s') → R s s'

section Keeps

variable {R : σ → σ → Prop}

/-- A revert keeps any relation, having no state afterwards. -/
theorem keeps_revert (e : ε) : Keeps R (revert e : Tx σ ε α) := by
  intro s b s' h
  simp at h

/-- Both branches keep it. -/
theorem keeps_ite {c : Prop} [Decidable c] {x y : Tx σ ε α}
    (hx : Keeps R x) (hy : Keeps R y) : Keeps R (if c then x else y) := by
  split
  · exact hx
  · exact hy

variable [IsPreorder σ R]

/-- A transitive relation is kept by a sequence. -/
theorem keeps_bind {x : Tx σ ε α} {f : α → Tx σ ε β}
    (hx : Keeps R x) (hf : ∀ a, Keeps R (f a)) : Keeps R (x >>= f) := by
  intro s b s'' h
  obtain ⟨a, s', h₁, h₂⟩ := bind_eq_ok.mp h
  exact trans_of R (hx h₁) (hf a h₂)

/-- A reflexive one by returning. -/
theorem keeps_pure (a : α) : Keeps R (pure a : Tx σ ε α) := by
  intro s b s' h
  obtain ⟨-, rfl⟩ := pure_eq_ok.mp h
  exact refl_of R s

/-- And by a computation. -/
theorem keeps_lift (r : Result ε α) : Keeps R (liftM r : Tx σ ε α) := by
  intro s b s' h
  obtain ⟨-, rfl⟩ := lift_eq_ok.mp h
  exact refl_of R s

/-- And by a view. -/
theorem keeps_view (f : σ → Result ε α) : Keeps R (view f) := by
  intro s b s' h
  obtain ⟨-, rfl⟩ := view_eq_ok.mp h
  exact refl_of R s

/-- And by a read. -/
theorem keeps_read (f : σ → α) : Keeps R (read f : Tx σ ε α) := by
  intro s b s' h
  obtain ⟨-, rfl⟩ := read_eq_ok.mp h
  exact refl_of R s

/-- A reverted attempt leaves the state it started from. -/
theorem keeps_attempt {x : Tx σ ε α} (hx : Keeps R x) : Keeps R (attempt x) := by
  intro s r s' h
  rcases attempt_eq_ok.mp h with ⟨a, -, h⟩ | ⟨e, -, -, rfl⟩
  · exact hx h
  · exact refl_of R s

end Keeps

end Tx

end Evm
