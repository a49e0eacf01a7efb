import Mathlib.Algebra.GroupWithZero.Nat
import Nyx.Memory.Memories

/-! # Offsets that are added one after another

`operator+` stops at the size of the memory, but the offsets are `unsigned`, so a sum that does not
fit wraps around before it is compared with the size.

* **`Memory.addAll`**, **`totalOffset`** — a chain of additions, and the exact sum.
* **`Memory.AddsUp`** — every offset along a chain is the exact sum, cut to the size.
* **`Memory.NeverWraps`** — the sum fits at every addition.
* **`Memory.addsUp_iff`** — a chain adds up exactly when its sums fit. -/

namespace Nyx

/-- The sum of some offsets as an exact integer, without wrap-around. -/
def totalOffset (offsets : List UInt32) : Nat := (offsets.map UInt32.toNat).sum

@[simp] theorem totalOffset_nil : totalOffset [] = 0 := rfl

@[simp] theorem totalOffset_cons (offset : UInt32) (offsets : List UInt32) :
    totalOffset (offset :: offsets) = offset.toNat + totalOffset offsets := by
  simp [totalOffset]

/-- A sum of offsets is zero exactly when all of them are. -/
theorem totalOffset_eq_zero_iff {offsets : List UInt32} :
    totalOffset offsets = 0 ↔ ∀ offset ∈ offsets, offset = 0 := by
  induction offsets with
  | nil => simp
  | cons offset offsets ih =>
      rw [totalOffset_cons, Nat.add_eq_zero_iff, ih, List.forall_mem_cons, ← UInt32.toNat_inj,
        UInt32.toNat_zero]

/-- The sum up to and with the next offset is the sum up to it, plus that. -/
theorem totalOffset_take_succ {offsets : List UInt32} {k : Nat} {offset : UInt32}
    (h : offsets[k]? = some offset) :
    totalOffset (offsets.take (k + 1)) = totalOffset (offsets.take k) + offset.toNat := by
  simp [totalOffset, List.take_add_one, h]

/-- Sums grow along a chain, since no offset is negative. -/
theorem totalOffset_take_mono (offsets : List UInt32) {j k : Nat} (hjk : j ≤ k) :
    totalOffset (offsets.take j) ≤ totalOffset (offsets.take k) := by
  obtain ⟨rest, hrest⟩ := List.take_prefix_take_left (l := offsets) hjk
  rw [← hrest]
  simp [totalOffset]

namespace Memory

/-- `( ( m + a_1 ) + … ) + a_k`: the memory from some offsets further on. -/
def addAll (memory : Memory) (offsets : List UInt32) : Memory :=
  offsets.foldl (fun memory offset => memory + offset) memory

/-- The memory after the next offset of a chain is the one before with that offset added. -/
theorem addAll_take_succ (memory : Memory) {offsets : List UInt32} {k : Nat} {offset : UInt32}
    (h : offsets[k]? = some offset) :
    memory.addAll (offsets.take (k + 1)) = memory.addAll (offsets.take k) + offset := by
  simp [addAll, List.take_add_one, h]

/-- **What adding offsets should do**: along the chain only the offset changes, it is the exact sum,
cut to the size of the memory, and it never gets smaller. -/
structure AddsUp (memory : Memory) (offsets : List UInt32) : Prop where
  same : ∀ k ≤ offsets.length, memory.addAll (offsets.take k) =
    { memory with memOffset := (memory.addAll (offsets.take k)).offset }
  exactSum : ∀ k ≤ offsets.length, (memory.addAll (offsets.take k)).offset.toNat =
    min memory.size.toNat (memory.offset.toNat + totalOffset (offsets.take k))
  grows : ∀ j k, j ≤ k → k ≤ offsets.length →
    (memory.addAll (offsets.take j)).offset ≤ (memory.addAll (offsets.take k)).offset

/-- At every addition, the exact sum so far, cut to the size, and the next offset have a sum that
fits. -/
def NeverWraps (memory : Memory) (offsets : List UInt32) : Prop :=
  ∀ k offset, offsets[k]? = some offset →
    min memory.size.toNat (memory.offset.toNat + totalOffset (offsets.take k)) + offset.toNat <
      2 ^ 32

/-! ## One addition -/

/-- An addition changes the offset of a memory only, and no other field. -/
theorem add_eq (memory : Memory) (offset : UInt32) :
    memory + offset = { memory with memOffset := (memory + offset).offset } := rfl

/-- A chain of additions changes the offset of a memory only, and no other field. -/
theorem addAll_eq (memory : Memory) (offsets : List UInt32) :
    memory.addAll offsets = { memory with memOffset := (memory.addAll offsets).offset } := by
  induction offsets generalizing memory with
  | nil => rfl
  | cons offset offsets ih =>
      have htail := ih (memory + offset)
      rw [add_eq] at htail
      exact htail

/-- A chain of additions leaves the size of the memory as it was. -/
theorem size_addAll (memory : Memory) (offsets : List UInt32) :
    (memory.addAll offsets).size = memory.size := by
  rw [addAll_eq]
  rfl

/-- **A sum that fits** an `unsigned` becomes the offset, cut to the size of the memory. -/
theorem toNat_offset_add {memory : Memory} {offset : UInt32}
    (h : memory.offset.toNat + offset.toNat < 2 ^ 32) :
    (memory + offset).offset.toNat =
      min memory.size.toNat (memory.offset.toNat + offset.toNat) := by
  have hnext : (memory.memOffset + offset).toNat = memory.offset.toNat + offset.toNat := by
    rw [UInt32.toNat_add]
    exact Nat.mod_eq_of_lt h
  show (if memory.memOffset + offset ≥ memory.size then memory.size
    else memory.memOffset + offset).toNat = _
  split
  · rename_i hcut
    have hle : memory.size.toNat ≤ (memory.memOffset + offset).toNat := hcut
    omega
  · rename_i hcut
    have hlt : ¬ memory.size.toNat ≤ (memory.memOffset + offset).toNat := hcut
    omega

/-- **A sum that wraps around** comes out in front of the offset before. -/
theorem offset_add_lt {memory : Memory} {offset : UInt32} (hle : memory.offset ≤ memory.size)
    (h : 2 ^ 32 ≤ memory.offset.toNat + offset.toNat) :
    (memory + offset).offset < memory.offset := by
  have hoffset : memory.offset.toNat ≤ memory.size.toNat := hle
  have hlt := offset.toNat_lt
  have hlt' := memory.offset.toNat_lt
  -- what is left of the sum is below both of its terms
  have hnext : (memory.memOffset + offset).toNat =
      memory.offset.toNat + offset.toNat - 2 ^ 32 := by
    rw [UInt32.toNat_add]
    show (memory.offset.toNat + offset.toNat) % 2 ^ 32 = _
    omega
  -- so it is not cut to the size either
  have hcut : ¬ memory.memOffset + offset ≥ memory.size := by
    intro hge
    have hge' : memory.size.toNat ≤ (memory.memOffset + offset).toNat := hge
    omega
  have heq : (memory + offset).offset = memory.memOffset + offset := by
    show (if memory.memOffset + offset ≥ memory.size then memory.size
      else memory.memOffset + offset) = _
    rw [if_neg hcut]
  rw [heq, UInt32.lt_iff_toNat_lt, hnext]
  omega

/-! ## Chains -/

/-- **Run lemma.** As long as the sums fit, the offset is the exact sum, cut to the size. -/
theorem toNat_offset_addAll {memory : Memory} {offsets : List UInt32}
    (hle : memory.offset ≤ memory.size) (h : memory.NeverWraps offsets) {k : Nat}
    (hk : k ≤ offsets.length) :
    (memory.addAll (offsets.take k)).offset.toNat =
      min memory.size.toNat (memory.offset.toNat + totalOffset (offsets.take k)) := by
  induction k with
  | zero =>
      have hoffset : memory.offset.toNat ≤ memory.size.toNat := hle
      rw [List.take_zero, totalOffset_nil, Nat.add_zero, Nat.min_eq_right hoffset]
      rfl
  | succ k ih =>
      have hnext := List.getElem?_eq_getElem (l := offsets) hk
      have hbefore := ih (Nat.le_of_lt hk)
      have hfits := h k _ hnext
      have hsize := memory.size_addAll (offsets.take k)
      rw [addAll_take_succ memory hnext, totalOffset_take_succ hnext,
        toNat_offset_add (by omega), hbefore, hsize]
      omega

/-- **Offsets add up** along a chain exactly when the sum fits an `unsigned` at every addition. -/
theorem addsUp_iff (memory : Memory) (hle : memory.offset ≤ memory.size)
    (offsets : List UInt32) : memory.AddsUp offsets ↔ memory.NeverWraps offsets := by
  constructor
  · intro h k offset hnext
    by_contra hwraps
    -- the sums are exact up to here, and the next one wraps around
    have hk : k < offsets.length := (List.getElem?_eq_some_iff.mp hnext).1
    have hsum := h.exactSum k (Nat.le_of_lt hk)
    have hgrows := h.grows k (k + 1) (Nat.le_succ k) hk
    have hsize := memory.size_addAll (offsets.take k)
    have hinside : (memory.addAll (offsets.take k)).offset ≤
        (memory.addAll (offsets.take k)).size := by
      rw [hsize, UInt32.le_iff_toNat_le, hsum]
      exact Nat.min_le_left _ _
    -- then the offset gets smaller
    rw [addAll_take_succ memory hnext] at hgrows
    have hlt : (memory.addAll (offsets.take k) + offset).offset <
        (memory.addAll (offsets.take k)).offset := offset_add_lt hinside (by omega)
    exact UInt32.not_le.mpr hlt hgrows
  · intro h
    refine ⟨fun k _ => addAll_eq memory _, fun k hk => toNat_offset_addAll hle h hk, ?_⟩
    intro j k hjk hk
    have hsums := totalOffset_take_mono offsets hjk
    rw [UInt32.le_iff_toNat_le, toNat_offset_addAll hle h (Nat.le_trans hjk hk),
      toNat_offset_addAll hle h hk]
    omega

/-- Two offsets into a memory of `64` bytes, the second of which reaches the end. -/
theorem addsUp_iff_two :
    ({ byteSize := 64, memOffset := 16 } : Memory).AddsUp [32, 100] ↔
      ({ byteSize := 64, memOffset := 16 } : Memory).NeverWraps [32, 100] :=
  addsUp_iff _ (by decide) _

/-- From byte `16` of `64` on, an offset of `2 ^ 32 - 8` leads to byte `8`. -/
theorem not_addsUp : ¬ ∀ (memory : Memory) (offsets : List UInt32),
    memory.offset ≤ memory.size → (memory.addAll offsets).offset.toNat =
      min memory.size.toNat (memory.offset.toNat + totalOffset offsets) := by
  intro h
  have hsum := h { byteSize := 64, memOffset := 16 } [0xfffffff8] (by decide)
  exact absurd hsum (by decide)

end Memory

end Nyx
