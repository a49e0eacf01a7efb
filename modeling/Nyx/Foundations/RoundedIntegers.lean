import Mathlib.Algebra.Group.Nat.Defs
import Mathlib.Data.Int.Basic
import Mathlib.Tactic.Common

/-! # Integers in floating point

A binary floating-point number has `p` bits behind its leading one. An integer that needs more of
them is rounded to the nearest number there is, and to the even one of two that are equally near.

* **`roundNat`**, **`roundInt`** — an integer, rounded.
* **`roundInt_of_lt`** — an integer below `2 ^ (p + 1)` stays what it is.
* **`RoundedInt`** — the integers that are numbers of such a format, with conversion and
  subtraction.
* **`RoundedInt.sub_eq_sub_iff`** — a difference changes with the order of the two, unless they are
  equal. -/

namespace Foundations

/-! ## Rounding -/

/-- The distance of two neighbours around a number, as a power of two. -/
def lastPlace (p n : Nat) : Nat := 2 ^ (n.log2 - p)

/-- A natural number, rounded to the nearest one with `p` bits behind the leading one. -/
def roundNat (p n : Nat) : Nat :=
  let unit := lastPlace p n
  let below := n / unit * unit
  if 2 * (n % unit) < unit then below
  else if unit < 2 * (n % unit) then below + unit
  -- in the middle of two
  else if n / unit % 2 = 0 then below else below + unit

/-- An integer is rounded in its absolute value and keeps its sign, as floats do. -/
def roundInt (p : Nat) (i : Int) : Int := i.sign * roundNat p i.natAbs

variable {p : Nat}

theorem lastPlace_pos (p n : Nat) : 0 < lastPlace p n := Nat.two_pow_pos _

/-- A number is rounded down or up to a multiple of its last place, and to nothing else. -/
theorem roundNat_eq_or (p n : Nat) :
    roundNat p n = n / lastPlace p n * lastPlace p n ∨
      roundNat p n = (n / lastPlace p n + 1) * lastPlace p n := by
  simp only [roundNat, Nat.add_mul, Nat.one_mul]
  -- below the middle, above it, and in it
  split
  · exact .inl rfl
  · split
    · exact .inr rfl
    · split
      · exact .inl rfl
      · exact .inr rfl

/-- **A number of at most `p + 1` bits** stays what it is, since its last place is one. -/
theorem roundNat_of_lt {n : Nat} (h : n < 2 ^ (p + 1)) : roundNat p n = n := by
  have hplace : lastPlace p n = 1 := by
    by_cases hzero : n = 0
    · subst hzero
      simp [lastPlace]
    · have hlog : n.log2 < p + 1 := (Nat.log2_lt hzero).mpr h
      have hsub : n.log2 - p = 0 := by omega
      rw [lastPlace, hsub, Nat.pow_zero]
  simp [roundNat, hplace, Nat.mod_one]

/-- The last place of a number other than zero is at most the number itself. -/
theorem lastPlace_le {n : Nat} (h : n ≠ 0) : lastPlace p n ≤ n := by
  calc lastPlace p n ≤ 2 ^ n.log2 := Nat.pow_le_pow_right (by omega) (Nat.sub_le _ _)
    _ ≤ n := Nat.log2_self_le h

/-- Only zero is rounded to zero: what is rounded away is less than the leading bit. -/
theorem roundNat_eq_zero_iff {n : Nat} : roundNat p n = 0 ↔ n = 0 := by
  constructor
  · intro hround
    by_contra hne
    have hpos := lastPlace_pos p n
    have hquot : 0 < n / lastPlace p n := Nat.div_pos (lastPlace_le hne) hpos
    rcases roundNat_eq_or p n with hdown | hup
    · exact absurd (hdown.symm.trans hround) (Nat.ne_of_gt (Nat.mul_pos hquot hpos))
    · exact absurd (hup.symm.trans hround) (Nat.ne_of_gt (Nat.mul_pos (Nat.succ_pos _) hpos))
  · rintro rfl
    exact roundNat_of_lt (Nat.two_pow_pos _)

/-- What is left of a number in front of its last place has at most `p + 1` bits. -/
theorem div_lastPlace_lt (p n : Nat) : n / lastPlace p n < 2 ^ (p + 1) := by
  rw [Nat.div_lt_iff_lt_mul (lastPlace_pos p n), lastPlace, ← Nat.pow_add]
  calc n < 2 ^ (n.log2 + 1) := Nat.lt_log2_self
    _ ≤ 2 ^ (p + 1 + (n.log2 - p)) := Nat.pow_le_pow_right (by omega) (by omega)

@[simp] theorem roundInt_zero : roundInt p 0 = 0 := by
  simp [roundInt]

/-- Rounding is symmetric: the negation of an integer is rounded to the negation. -/
theorem roundInt_neg (i : Int) : roundInt p (-i) = -roundInt p i := by
  rw [roundInt, roundInt, Int.sign_neg, Int.natAbs_neg, Int.neg_mul]

/-- **An integer of at most `p + 1` bits** stays what it is, whatever its sign. -/
theorem roundInt_of_lt {i : Int} (h : i.natAbs < 2 ^ (p + 1)) : roundInt p i = i := by
  rw [roundInt, roundNat_of_lt h, Int.sign_mul_natAbs]

/-- Only the integer zero is rounded to zero. -/
theorem roundInt_eq_zero_iff {i : Int} : roundInt p i = 0 ↔ i = 0 := by
  rw [roundInt, Int.mul_eq_zero, Int.sign_eq_zero_iff_zero, Int.natCast_eq_zero,
    roundNat_eq_zero_iff, Int.natAbs_eq_zero, or_self]

/-! ## Numbers of a format -/

/-- The integers that have at most `p` bits behind their leading one, up to zeros. -/
@[ext]
structure RoundedInt (p : Nat) where
  value : Int
  representable : ∃ significand exponent : Nat,
    value.natAbs = significand * 2 ^ exponent ∧ significand ≤ 2 ^ (p + 1)

namespace RoundedInt

instance : DecidableEq (RoundedInt p) := fun _ _ => decidable_of_iff _ RoundedInt.ext_iff.symm

instance : Zero (RoundedInt p) := ⟨⟨0, 0, 0, by simp⟩⟩

/-- The absolute value of a rounded integer has a significand of `p + 1` bits, or the next power of
two, and an exponent. -/
theorem natAbs_roundInt (p : Nat) (i : Int) : ∃ significand exponent : Nat,
    (roundInt p i).natAbs = significand * 2 ^ exponent ∧ significand ≤ 2 ^ (p + 1) := by
  by_cases hzero : i = 0
  · subst hzero
    exact ⟨0, 0, by simp⟩
  · have hround : (roundInt p i).natAbs = roundNat p i.natAbs := by
      rw [roundInt, Int.natAbs_mul, Int.natAbs_sign_of_ne_zero hzero, Nat.one_mul,
        Int.natAbs_natCast]
    have hlt := div_lastPlace_lt p i.natAbs
    rw [hround]
    rcases roundNat_eq_or p i.natAbs with hdown | hup
    · exact ⟨_, _, hdown, by omega⟩
    · -- up to the next power of two, at most
      exact ⟨_, _, hup, by omega⟩

/-- The conversion of an integer to the format, rounded to nearest, ties to even. -/
def ofInt (i : Int) : RoundedInt p := ⟨roundInt p i, natAbs_roundInt p i⟩

/-- A difference is the exact difference of the two values, rounded once. -/
instance : Sub (RoundedInt p) := ⟨fun a b => ofInt (a.value - b.value)⟩

@[simp] theorem value_ofInt (i : Int) : (ofInt i : RoundedInt p).value = roundInt p i := rfl

@[simp] theorem value_sub (a b : RoundedInt p) :
    (a - b).value = roundInt p (a.value - b.value) := rfl

/-- A difference is zero exactly when the two are equal, although it is rounded: only zero is
rounded to zero. -/
theorem ofInt_zero_eq_sub_iff {a b : RoundedInt p} : ofInt 0 = a - b ↔ a = b := by
  rw [RoundedInt.ext_iff, RoundedInt.ext_iff, value_ofInt, roundInt_zero, value_sub, eq_comm,
    roundInt_eq_zero_iff, Int.sub_eq_zero]

/-- The other way round a difference has the other sign, so it is the same only when the two are
equal. -/
theorem sub_eq_sub_iff {a b : RoundedInt p} : a - b = b - a ↔ a = b := by
  have hneg : roundInt p (b.value - a.value) = -roundInt p (a.value - b.value) := by
    rw [← roundInt_neg, Int.neg_sub]
  -- only zero is its own negative
  have hself : roundInt p (a.value - b.value) = -roundInt p (a.value - b.value) ↔
      roundInt p (a.value - b.value) = 0 := by
    omega
  rw [RoundedInt.ext_iff, RoundedInt.ext_iff, value_sub, value_sub, hneg, hself,
    roundInt_eq_zero_iff, Int.sub_eq_zero]

end RoundedInt

end Foundations
