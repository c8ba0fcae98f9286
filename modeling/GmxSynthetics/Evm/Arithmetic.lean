import Mathlib.Tactic.Common
import Mathlib.Algebra.Order.Ring.Int

/-!
# EVM arithmetic

Checked 256-bit arithmetic as a Solidity 0.8 compiler emits it, over `Nat` and
`Int` with explicit range checks, and the helper libraries a contract links
against (`SafeCast`, `Math.mulDiv`). Nothing here knows any contract.

* `Revert ε` — what a reverting call hands back: a panic, an `Error(string)`, or
  one of the contract's own errors `ε`;
* `Result ε α` — a computation that returns or reverts;
* one `…_eq_ok` lemma per operation — success pins the value and the range, so a
  successful run turns into equations over `Nat` and `Int`.
-/

namespace Evm

-- ---------------------------------------------------------------------------
-- Reverts
-- ---------------------------------------------------------------------------

/-- Panic codes of checked arithmetic. -/
inductive Panic where
  /-- `0x11`: a result out of range outside an `unchecked` block. -/
  | arithmetic
  /-- `0x11` too, of an unsigned subtraction; kept apart so that a statement can be about these. -/
  | underflow
  /-- `0x12`: division or modulo by zero. -/
  | divisionByZero
  /-- `0x32`: an array index that is out of bounds. -/
  | indexOutOfBounds
  deriving DecidableEq, Repr

/-- The data of a reverting call. -/
inductive Revert (ε : Type) where
  | panic (code : Panic)
  | message (reason : String)
  | custom (error : ε)
  deriving DecidableEq, Repr

/-- A computation that returns a value or reverts. -/
abbrev Result (ε α : Type) := Except (Revert ε) α

variable {ε α β : Type}

namespace Result

/-- Sequencing succeeds exactly when both halves do. -/
theorem bind_eq_ok {x : Result ε α} {f : α → Result ε β} {b : β} :
    (x >>= f) = .ok b ↔ ∃ a, x = .ok a ∧ f a = .ok b := by
  cases x with
  | error e => simp [bind, Except.bind]
  | ok a => simp [bind, Except.bind]

theorem ok_bind {a : α} {f : α → Result ε β} : ((.ok a : Result ε α) >>= f) = f a := rfl

theorem pure_eq_ok {a b : α} : (pure a : Result ε α) = .ok b ↔ a = b := by
  simp [pure, Except.pure]

/-- Two continuations that agree on what a computation returns. -/
theorem bind_congr {x : Result ε α} {f g : α → Result ε β} (h : ∀ a, x = .ok a → f a = g a) :
    (x >>= f) = x >>= g := by
  cases x with
  | error e => rfl
  | ok a => exact h a rfl

@[simp] theorem error_ne_ok {e : Revert ε} {a : α} :
    ((.error e : Result ε α) = .ok a) ↔ False := by
  simp

/-- Revert with one of the contract's own errors. -/
def revert (error : ε) : Result ε α := .error (.custom error)

@[simp] theorem revert_eq_ok {e : ε} {a : α} :
    ((revert e : Result ε α) = .ok a) ↔ False := by
  simp [revert]

/-- `if (condition) { revert … }`. -/
def revertIf (condition : Prop) [Decidable condition] (error : Revert ε) : Result ε Unit :=
  if condition then .error error else .ok ()

/-- A check passes where its condition fails. -/
theorem revertIf_eq_ok {c : Prop} [Decidable c] {e : Revert ε} {u : Unit} :
    revertIf c e = .ok u ↔ ¬ c := by
  unfold revertIf
  split <;> simp_all

/-- And what follows runs on. -/
theorem revertIf_bind_of_not {c : Prop} [Decidable c] {e : Revert ε} {f : Unit → Result ε α}
    (h : ¬ c) : (revertIf c e >>= f) = f () := by
  rw [revertIf, if_neg h]
  rfl

/-- The call succeeds and its result satisfies `p`. -/
def Satisfies (r : Result ε α) (p : α → Prop) : Prop :=
  match r with
  | .ok a => p a
  | .error _ => False

instance (r : Result ε α) (p : α → Prop) [DecidablePred p] : Decidable (Satisfies r p) :=
  match r with
  | .ok a => inferInstanceAs (Decidable (p a))
  | .error _ => inferInstanceAs (Decidable False)

/-- A computation that satisfies a property returns. -/
theorem Satisfies.exists {r : Result ε α} {p : α → Prop} (h : Satisfies r p) :
    ∃ a, r = .ok a ∧ p a := by
  cases r with
  | error e => exact h.elim
  | ok a => exact ⟨a, rfl, h⟩

/-- The call reverts with the given data. -/
def FailsWith (r : Result ε α) (e : Revert ε) : Prop :=
  match r with
  | .ok _ => False
  | .error e' => e' = e

instance [DecidableEq ε] (r : Result ε α) (e : Revert ε) : Decidable (FailsWith r e) :=
  match r with
  | .ok _ => inferInstanceAs (Decidable False)
  | .error e' => inferInstanceAs (Decidable (e' = e))

/-- One that fails with an error fails with that one. -/
theorem FailsWith.eq_error {r : Result ε α} {e : Revert ε} (h : FailsWith r e) :
    r = .error e := by
  cases r with
  | error e' => exact congrArg _ h
  | ok a => exact h.elim

end Result

-- ---------------------------------------------------------------------------
-- Word ranges
-- ---------------------------------------------------------------------------

/-- `uint256` values lie below this bound. -/
def uintBound : Nat := 2 ^ 256

/-- `int256` values lie in `[-intBound, intBound)`. -/
def intBound : Nat := 2 ^ 255

theorem intBound_pos : 0 < intBound := by decide

/-- The range of `int256`. -/
def IsInt256 (x : Int) : Prop := -(intBound : Int) ≤ x ∧ x < intBound

instance (x : Int) : Decidable (IsInt256 x) := inferInstanceAs (Decidable (_ ∧ _))

/-- The `int256` value that is closest to `x`. -/
def clampInt256 (x : Int) : Int := max (-(intBound : Int)) (min x (intBound - 1))

/-- Clamping leads into the range. -/
theorem isInt256_clampInt256 (x : Int) : IsInt256 (clampInt256 x) := by
  have hpos := intBound_pos
  unfold IsInt256 clampInt256
  omega

/-- In the range it changes nothing. -/
theorem clampInt256_of_isInt256 {x : Int} (h : IsInt256 x) : clampInt256 x = x := by
  unfold IsInt256 at h
  unfold clampInt256
  omega

/-- Below it, it is the least value. -/
theorem clampInt256_of_le {x : Int} (h : x ≤ -(intBound : Int)) : clampInt256 x = -intBound := by
  have hpos := intBound_pos
  unfold clampInt256
  omega

/-- Above it, it is the greatest. -/
theorem clampInt256_of_ge {x : Int} (h : (intBound - 1 : Int) ≤ x) :
    clampInt256 x = intBound - 1 := by
  have hpos := intBound_pos
  unfold clampInt256
  omega

/-- A `uint256` result, or an overflow panic. -/
def checkUint (n : Nat) : Result ε Nat :=
  if n < uintBound then .ok n else .error (.panic .arithmetic)

/-- An `int256` result, or an overflow panic. -/
def checkInt (x : Int) : Result ε Int :=
  if IsInt256 x then .ok x else .error (.panic .arithmetic)

/-- A checked number is in its range. -/
theorem checkUint_eq_ok {n m : Nat} :
    (checkUint n : Result ε Nat) = .ok m ↔ n < uintBound ∧ m = n := by
  unfold checkUint
  split <;> simp_all [eq_comm]

/-- So is a checked signed one. -/
theorem checkInt_eq_ok {x y : Int} :
    (checkInt x : Result ε Int) = .ok y ↔ IsInt256 x ∧ y = x := by
  unfold checkInt
  split <;> simp_all [eq_comm]

-- ---------------------------------------------------------------------------
-- uint256
-- ---------------------------------------------------------------------------

def add (a b : Nat) : Result ε Nat := checkUint (a + b)

def mul (a b : Nat) : Result ε Nat := checkUint (a * b)

def sub (a b : Nat) : Result ε Nat :=
  if b ≤ a then .ok (a - b) else .error (.panic .underflow)

def div (a b : Nat) : Result ε Nat :=
  if b = 0 then .error (.panic .divisionByZero) else .ok (a / b)

/-- Sums are in range. -/
theorem add_eq_ok {a b c : Nat} :
    (add a b : Result ε Nat) = .ok c ↔ a + b < uintBound ∧ c = a + b :=
  checkUint_eq_ok

/-- Products are in range. -/
theorem mul_eq_ok {a b c : Nat} :
    (mul a b : Result ε Nat) = .ok c ↔ a * b < uintBound ∧ c = a * b :=
  checkUint_eq_ok

/-- Differences are of the larger less the smaller. -/
theorem sub_eq_ok {a b c : Nat} :
    (sub a b : Result ε Nat) = .ok c ↔ b ≤ a ∧ c = a - b := by
  unfold sub
  split <;> simp_all [eq_comm]

theorem sub_bind_of_le {a b : Nat} {f : Nat → Result ε α} (h : b ≤ a) :
    (sub a b >>= f) = f (a - b) := by
  rw [sub, if_pos h]
  rfl

/-- Quotients are by something. -/
theorem div_eq_ok {a b c : Nat} :
    (div a b : Result ε Nat) = .ok c ↔ b ≠ 0 ∧ c = a / b := by
  unfold div
  split <;> simp_all [eq_comm]

-- ---------------------------------------------------------------------------
-- int256
-- ---------------------------------------------------------------------------

def addInt (a b : Int) : Result ε Int := checkInt (a + b)

def subInt (a b : Int) : Result ε Int := checkInt (a - b)

def mulInt (a b : Int) : Result ε Int := checkInt (a * b)

def negInt (a : Int) : Result ε Int := checkInt (-a)

/-- Signed division truncates toward zero. -/
def divInt (a b : Int) : Result ε Int :=
  if b = 0 then .error (.panic .divisionByZero) else checkInt (a.tdiv b)

/-- Signed sums are in range. -/
theorem addInt_eq_ok {a b c : Int} :
    (addInt a b : Result ε Int) = .ok c ↔ IsInt256 (a + b) ∧ c = a + b :=
  checkInt_eq_ok

/-- Signed differences are in range. -/
theorem subInt_eq_ok {a b c : Int} :
    (subInt a b : Result ε Int) = .ok c ↔ IsInt256 (a - b) ∧ c = a - b :=
  checkInt_eq_ok

/-- Signed products are in range. -/
theorem mulInt_eq_ok {a b c : Int} :
    (mulInt a b : Result ε Int) = .ok c ↔ IsInt256 (a * b) ∧ c = a * b :=
  checkInt_eq_ok

/-- Negatives are in range, all but that of the least value. -/
theorem negInt_eq_ok {a c : Int} :
    (negInt a : Result ε Int) = .ok c ↔ IsInt256 (-a) ∧ c = -a :=
  checkInt_eq_ok

/-- Signed quotients are rounded towards zero. -/
theorem divInt_eq_ok {a b c : Int} :
    (divInt a b : Result ε Int) = .ok c ↔ b ≠ 0 ∧ IsInt256 (a.tdiv b) ∧ c = a.tdiv b := by
  unfold divInt
  split <;> simp_all [checkInt_eq_ok]

-- ---------------------------------------------------------------------------
-- SafeCast
-- ---------------------------------------------------------------------------

def toInt256 (a : Nat) : Result ε Int :=
  if a < intBound then .ok a
  else .error (.message "SafeCast: value doesn't fit in an int256")

def toUint256 (a : Int) : Result ε Nat :=
  if 0 ≤ a then .ok a.toNat else .error (.message "SafeCast: value must be positive")

/-- Below the sign bit a number converts. -/
theorem toInt256_eq_ok {a : Nat} {c : Int} :
    (toInt256 a : Result ε Int) = .ok c ↔ a < intBound ∧ c = a := by
  unfold toInt256
  split <;> simp_all [eq_comm]

/-- A number that is not negative converts. -/
theorem toUint256_eq_ok {a : Int} {c : Nat} :
    (toUint256 a : Result ε Nat) = .ok c ↔ (c : Int) = a := by
  unfold toUint256
  split
  · simp only [Except.ok.injEq]
    omega
  · simp only [reduceCtorEq, false_iff]
    omega

-- ---------------------------------------------------------------------------
-- Math.mulDiv
-- ---------------------------------------------------------------------------

/-- Full-precision `⌊x * y / denominator⌋`; reverts on a zero denominator and when
the quotient does not fit in a word. -/
def mulDiv (x y denominator : Nat) : Result ε Nat :=
  if denominator = 0 then .error (.panic .divisionByZero)
  else if x * y / denominator < uintBound then .ok (x * y / denominator)
  else .error (.message "Math: mulDiv overflow")

/-- `mulDiv` rounded up. -/
def mulDivUp (x y denominator : Nat) : Result ε Nat := do
  let result ← mulDiv x y denominator
  if x * y % denominator > 0 then add result 1 else pure result

/-- A product in full, divided, is in range. -/
theorem mulDiv_eq_ok {x y d c : Nat} :
    (mulDiv x y d : Result ε Nat) = .ok c ↔
      d ≠ 0 ∧ x * y / d < uintBound ∧ c = x * y / d := by
  unfold mulDiv
  split
  · simp_all
  · split <;> simp_all [eq_comm]

/-- Rounded up, the same. -/
theorem mulDivUp_eq_ok {x y d c : Nat} (h : (mulDivUp x y d : Result ε Nat) = .ok c) :
    d ≠ 0 ∧ c = (x * y + (d - 1)) / d := by
  simp only [mulDivUp, Result.bind_eq_ok, mulDiv_eq_ok] at h
  obtain ⟨q, ⟨hd, -, rfl⟩, h⟩ := h
  have hpos : 0 < d := Nat.pos_of_ne_zero hd
  refine ⟨hd, ?_⟩
  generalize x * y = p at h ⊢
  have hsplit := Nat.div_add_mod p d
  have hlt := Nat.mod_lt p hpos
  split at h
  · obtain ⟨-, rfl⟩ := add_eq_ok.mp h
    have hnum : p + (d - 1) = d * (p / d) + (d + (p % d - 1)) := by omega
    have hsmall : p % d - 1 < d := by omega
    rw [hnum, Nat.mul_add_div hpos, Nat.add_div_left _ hpos, Nat.div_eq_of_lt hsmall]
  · have hnum : p + (d - 1) = d * (p / d) + (d - 1) := by omega
    have hsmall : d - 1 < d := by omega
    rw [hnum, Nat.mul_add_div hpos, Nat.div_eq_of_lt hsmall, Nat.add_zero]
    exact (Result.pure_eq_ok.mp h).symm

-- ---------------------------------------------------------------------------
-- Sign tests that Solidity short-circuits
-- ---------------------------------------------------------------------------

/-- `value < 0 && (-value).toUint256() > limit`: the negation is only evaluated on
a negative value. -/
def negationExceeds (value : Int) (limit : Nat) : Result ε Bool :=
  if value < 0 then do
    let magnitude ← toUint256 (← negInt value)
    pure (decide (limit < magnitude))
  else pure false

/-- The comparison is that of the sum with zero. -/
theorem negationExceeds_eq_ok {value : Int} {limit : Nat} {b : Bool}
    (h : (negationExceeds value limit : Result ε Bool) = .ok b) :
    b = decide ((limit : Int) + value < 0) := by
  unfold negationExceeds at h
  split at h
  · simp only [Result.bind_eq_ok, negInt_eq_ok, toUint256_eq_ok, Result.pure_eq_ok] at h
    obtain ⟨_, ⟨-, rfl⟩, m, hm, rfl⟩ := h
    rw [decide_eq_decide]
    omega
  · simp only [Result.pure_eq_ok] at h
    subst h
    rw [eq_comm, decide_eq_false_iff_not]
    omega

/-- The test for a negation that is too large succeeds when the negation is in range, and only
then. -/
theorem negationExceeds_ok_iff {value : Int} {limit : Nat} :
    (∃ b, (negationExceeds value limit : Result ε Bool) = .ok b) ↔
      (value < 0 → IsInt256 (-value)) := by
  unfold negationExceeds
  constructor
  · rintro ⟨b, hb⟩ hneg
    rw [if_pos hneg] at hb
    simp only [Result.bind_eq_ok, negInt_eq_ok] at hb
    obtain ⟨_, ⟨hrange, -⟩, -⟩ := hb
    exact hrange
  · intro hrange
    split
    · rename_i hneg
      exact ⟨decide (limit < (-value).toNat), Result.bind_eq_ok.mpr ⟨-value,
        negInt_eq_ok.mpr ⟨hrange hneg, rfl⟩, Result.bind_eq_ok.mpr ⟨(-value).toNat,
          toUint256_eq_ok.mpr (by omega), rfl⟩⟩⟩
    · exact ⟨false, rfl⟩

end Evm
