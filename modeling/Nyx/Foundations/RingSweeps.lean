import Mathlib.Data.Nat.ModEq
import Mathlib.Logic.Function.Basic
import Mathlib.Tactic.Common

/-! # Sweeping a ring of slots

A ring is a family of slots `Nat → β` of which the first `size` are in use, together with a cursor.
A sweep visits slots one after another from the cursor on, wrapping at the end, and applies the
same function to each:

* **`ringNext size i`** — the slot after `i`.
* **`ringTurn size c i`** — slot `i` in a ring that is turned by `c` slots.
* **`sweep size f k i slots`** — apply `f` to the `k` slots from `i` on.
* **`sweep_apply`** — in a sweep of at most one round, a slot is changed exactly when its distance
  from the start is below `k`. -/

namespace Foundations

universe u

variable {β : Type u}

/-- The slot after `i` in a ring of `size` slots, wrapping to the first. -/
def ringNext (size i : Nat) : Nat := if i + 1 ≥ size then 0 else i + 1

/-- Inside the ring the next slot is the successor modulo the size. -/
theorem ringNext_eq_mod {size i : Nat} (hi : i < size) : ringNext size i = (i + 1) % size := by
  unfold ringNext
  split
  · have : i + 1 = size := by omega
    rw [this, Nat.mod_self]
  · rw [Nat.mod_eq_of_lt (by omega)]

/-- The slot after one of a ring with any slots is a slot of the ring. -/
theorem ringNext_lt {size : Nat} (i : Nat) (h : 0 < size) : ringNext size i < size := by
  unfold ringNext
  split <;> omega

/-- How many moves a cursor on `i` needs to reach `j`. -/
def ringDistance (size i j : Nat) : Nat := (j + size - i) % size

/-- A slot is reached from itself without moving, at distance `0`. -/
theorem ringDistance_self {size i : Nat} : ringDistance size i i = 0 := by
  rw [ringDistance, Nat.add_sub_cancel_left, Nat.mod_self]

/-- The distance between two slots is below the size of the ring. -/
theorem ringDistance_lt {size : Nat} (i j : Nat) (h : 0 < size) : ringDistance size i j < size :=
  Nat.mod_lt _ h

/-- Only the slot under the cursor itself is at distance `0` from it. -/
theorem ringDistance_eq_zero_iff {size i j : Nat} (hi : i < size) (hj : j < size) :
    ringDistance size i j = 0 ↔ i = j := by
  unfold ringDistance
  by_cases hij : i ≤ j
  · have : j + size - i = (j - i) + size := by omega
    rw [this, Nat.add_mod_right, Nat.mod_eq_of_lt (by omega)]
    omega
  · rw [Nat.mod_eq_of_lt (by omega)]
    omega

/-- One move of the cursor brings every other slot one step nearer. -/
theorem ringDistance_next {size i j : Nat} (hi : i < size) (hj : j < size) (hij : i ≠ j) :
    ringDistance size (ringNext size i) j + 1 = ringDistance size i j := by
  -- the way to `j` leads straight ahead or across the end of the ring
  have key : ∀ a, a < size →
      ringDistance size a j = if a ≤ j then j - a else j + size - a := by
    intro a ha
    unfold ringDistance
    split
    · have : j + size - a = (j - a) + size := by omega
      rw [this, Nat.add_mod_right, Nat.mod_eq_of_lt (by omega)]
    · rw [Nat.mod_eq_of_lt (by omega)]
  rw [key i hi, key _ (ringNext_lt i (by omega))]
  unfold ringNext
  split <;> split <;> split <;> omega

/-- From the slot after it, a slot is reached in a whole round but one step. -/
theorem ringDistance_next_self {size i : Nat} (hi : i < size) :
    ringDistance size (ringNext size i) i = size - 1 := by
  by_cases hw : i + 1 ≥ size
  · have hn : ringNext size i = 0 := if_pos hw
    rw [hn, ringDistance, Nat.sub_zero, Nat.add_mod_right, Nat.mod_eq_of_lt hi]
    omega
  · have hn : ringNext size i = i + 1 := if_neg hw
    rw [hn, ringDistance, Nat.mod_eq_of_lt (by omega)]
    omega

/-- The number of a slot in the ring that is turned by `c` slots. -/
def ringTurn (size c i : Nat) : Nat := (i + c) % size

/-- The number of a turned slot is the number of a slot of the ring. -/
theorem ringTurn_lt {size : Nat} (c i : Nat) (h : 0 < size) : ringTurn size c i < size :=
  Nat.mod_lt _ h

/-- When the ring is turned by `c` slots, slot `0` becomes slot `c`. -/
theorem ringTurn_zero {size c : Nat} (hc : c < size) : ringTurn size c 0 = c := by
  rw [ringTurn, Nat.zero_add, Nat.mod_eq_of_lt hc]

/-- Slots that become the same slot when the ring is turned were the same before. -/
theorem ringTurn_inj {size c i j : Nat} (hi : i < size) (hj : j < size)
    (h : ringTurn size c i = ringTurn size c j) : i = j := by
  have hmod : i ≡ j [MOD size] := Nat.ModEq.add_right_cancel' c h
  exact Nat.ModEq.eq_of_lt_of_lt hmod hi hj

/-- To move to the next slot and then turn the ring is to turn it and then move to the next slot. -/
theorem ringTurn_next {size c i : Nat} (hi : i < size) :
    ringTurn size c (ringNext size i) = ringNext size (ringTurn size c i) := by
  have hpos : 0 < size := by omega
  rw [ringNext_eq_mod hi, ringNext_eq_mod (ringTurn_lt c i hpos), ringTurn, ringTurn,
    Nat.mod_add_mod, Nat.mod_add_mod, Nat.add_right_comm]

/-- Apply `f` to `k` slots of the ring, from slot `i` on. -/
def sweep (size : Nat) (f : β → β) : Nat → Nat → (Nat → β) → Nat → β
  | 0, _, slots => slots
  | k + 1, i, slots => sweep size f k (ringNext size i) (Function.update slots i (f (slots i)))

/-- **What a sweep changes.** In a sweep of at most one round a slot of the ring is changed, once,
exactly when its distance from the start is below the number of slots visited. -/
theorem sweep_apply {size k i j : Nat} (f : β → β) (slots : Nat → β) (hk : k ≤ size)
    (hi : i < size) (hj : j < size) :
    sweep size f k i slots j
      = if ringDistance size i j < k then f (slots j) else slots j := by
  induction k generalizing i slots with
  | zero => rw [sweep, if_neg (Nat.not_lt_zero _)]
  | succ k ih =>
      rw [sweep, ih _ (by omega) (ringNext_lt i (by omega))]
      by_cases hij : i = j
      · subst hij
        -- the slot just changed is the last one the sweep would come back to
        have hfar : ¬ ringDistance size (ringNext size i) i < k := by
          rw [ringDistance_next_self hi]
          omega
        rw [if_neg hfar, Function.update_self, ringDistance_self, if_pos (Nat.succ_pos k)]
      · rw [Function.update_of_ne (Ne.symm hij)]
        have hd := ringDistance_next hi hj hij
        by_cases hlt : ringDistance size (ringNext size i) j < k
        · rw [if_pos hlt, if_pos (by omega)]
        · rw [if_neg hlt, if_neg (by omega)]

end Foundations
