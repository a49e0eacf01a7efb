import Nyx.Foundations.GrowingVectors

/-! # A block that is used again

A vector that is cleared, given a new size and filled with one value, again and again, while
pointers to its first element are kept. What such a pointer leads to is memory: it can be read past
the size of the vector, as long as the vector still has the block.

* **`RoomPolicy`** — the room of a new block.
* **`ReusedBlock`** — a vector with all cells of its block.
* **`ReusedBlock.clear`**, **`ReusedBlock.resize`**, **`ReusedBlock.fill`** — the operations, and
  **`ReusedBlock.refill`**, one after the other.
* **`ReusedBlock.readBlock`** — reading the block through a pointer.
* **`ReusedBlock.readBlock_refillAll_iff`** — what a vector was filled with is read through a
  pointer from then, exactly when there was room for all that came later. -/

namespace Foundations

universe u

/-- The room of the new block of a vector that needs room for some elements. -/
structure RoomPolicy where
  room : Nat → Nat → Nat
  le_room : ∀ capacity n, n ≤ room capacity n

/-- The policy that makes as much room as is needed, and never more. -/
def RoomPolicy.exact : RoomPolicy where
  room _ n := n
  le_room _ n := Nat.le_refl n

/-- A vector with all cells of its block, those past its size as well. -/
structure ReusedBlock (α : Type u) where
  /-- The cells, `none` where nothing was written yet. -/
  cells : List (Option α) := []
  size : Nat := 0
  /-- The number of the block; each new block gets a number of its own. -/
  block : Nat := 0
  deriving DecidableEq, Repr

namespace ReusedBlock

variable {α : Type u} (policy : RoomPolicy) (v : ReusedBlock α)

/-- How many elements the block has room for, which is how many cells it has. -/
def capacity : Nat := v.cells.length

/-- Remove all elements. The block stays, and so does what is in its cells. -/
def clear : ReusedBlock α := { v with size := 0 }

/-- Take `n` as the size, with copies of `blank` for the elements that are missing. -/
def resize (n : Nat) (blank : α) : ReusedBlock α :=
  let kept := v.cells.take v.size ++ List.replicate (n - v.size) (some blank)
  if n ≤ v.capacity then
    { v with cells := kept ++ v.cells.drop (max n v.size), size := n }
  else
    { cells := kept ++ List.replicate (policy.room v.capacity n - n) none
      size := n
      block := v.block + 1 }

/-- Write a value to all elements; the cells behind them stay what they are. -/
def fill (a : α) : ReusedBlock α :=
  { v with cells := List.replicate v.size (some a) ++ v.cells.drop v.size }

/-- A pointer to the first element, null when there never was a block. -/
def data : Option BlockPointer := if v.capacity = 0 then none else some ⟨v.block, 0⟩

/-- The `n` values behind a pointer, if they are in the block and were written. -/
def readBlock (pointer : Option BlockPointer) (n : Nat) : Option (List α) :=
  if n = 0 then some []
  else
    match pointer with
    | none => none
    | some pointer =>
        if pointer.block = v.block ∧ pointer.offset + n ≤ v.capacity then
          ((v.cells.drop pointer.offset).take n).mapM id
        else none

/-- Clear the vector, give it a size and fill it with a value, as code does that uses one vector
again and again. -/
def refill (blank a : α) (n : Nat) : ReusedBlock α := ((v.clear).resize policy n blank).fill a

/-- The block after it was refilled with one size after the other. -/
def refillAll (blank a : α) (sizes : List Nat) : ReusedBlock α :=
  sizes.foldl (refill policy · blank a) v

/-! ## One size -/

/-- With room for it the block stays, and its first cells are written. -/
theorem refill_of_le (blank a : α) {n : Nat} (h : n ≤ v.capacity) :
    v.refill policy blank a n =
      { cells := List.replicate n (some a) ++ v.cells.drop n, size := n, block := v.block } := by
  have hresize : v.clear.resize policy n blank =
      { cells := List.replicate n (some blank) ++ v.cells.drop n, size := n, block := v.block } := by
    rw [resize, if_pos (show n ≤ v.clear.capacity from h)]
    simp [clear]
  rw [refill, hresize]
  simp [fill]

/-- Without room for the new size there is a new block, with the value in the elements and nothing
known behind them. -/
theorem refill_of_lt (blank a : α) {n : Nat} (h : v.capacity < n) :
    v.refill policy blank a n =
      { cells := List.replicate n (some a) ++
          List.replicate (policy.room v.capacity n - n) none
        size := n
        block := v.block + 1 } := by
  have hresize : v.clear.resize policy n blank =
      { cells := List.replicate n (some blank) ++
          List.replicate (policy.room v.capacity n - n) none
        size := n
        block := v.block + 1 } := by
    rw [resize, if_neg (show ¬ n ≤ v.clear.capacity from Nat.not_le.mpr h)]
    simp [clear, capacity]
  rw [refill, hresize]
  simp [fill]

/-- The room is what it was when that is enough, and otherwise what the policy makes. -/
theorem capacity_refill (blank a : α) (n : Nat) :
    (v.refill policy blank a n).capacity =
      if n ≤ v.capacity then v.capacity else policy.room v.capacity n := by
  by_cases h : n ≤ v.capacity
  · rw [refill_of_le policy v blank a h, if_pos h]
    simp only [capacity] at h ⊢
    simp
    omega
  · have hroom := policy.le_room v.capacity n
    rw [refill_of_lt policy v blank a (Nat.not_le.mp h), if_neg h, capacity, List.length_append,
      List.length_replicate, List.length_replicate]
    omega

/-- There is room for the elements that were filled in, and so for their size. -/
theorem le_capacity_refill (blank a : α) (n : Nat) :
    n ≤ (v.refill policy blank a n).capacity := by
  have hroom := policy.le_room v.capacity n
  rw [capacity_refill]
  split <;> omega

/-- The number of the block never becomes less when the vector is filled again. -/
theorem le_block_refill (blank a : α) (n : Nat) :
    v.block ≤ (v.refill policy blank a n).block := by
  rcases Nat.lt_or_ge v.capacity n with h | h
  · simp [refill_of_lt policy v blank a h]
  · simp [refill_of_le policy v blank a h]

/-! ## All sizes -/

@[simp] theorem refillAll_nil (blank a : α) : v.refillAll policy blank a [] = v := rfl

@[simp] theorem refillAll_cons (blank a : α) (n : Nat) (sizes : List Nat) :
    v.refillAll policy blank a (n :: sizes) =
      (v.refill policy blank a n).refillAll policy blank a sizes := rfl

/-- The number of the block never becomes less, however often the vector is filled again. -/
theorem le_block_refillAll (blank a : α) (sizes : List Nat) :
    v.block ≤ (v.refillAll policy blank a sizes).block := by
  induction sizes generalizing v with
  | nil => exact Nat.le_refl _
  | cons n sizes ih =>
      exact Nat.le_trans (v.le_block_refill policy blank a n) (ih _)

/-- The block stays the same exactly when from the start it had room for all the sizes. -/
theorem block_refillAll_eq_iff (blank a : α) (sizes : List Nat) :
    (v.refillAll policy blank a sizes).block = v.block ↔ ∀ n ∈ sizes, n ≤ v.capacity := by
  induction sizes generalizing v with
  | nil => simp
  | cons n sizes ih =>
      rw [refillAll_cons, List.forall_mem_cons]
      rcases Nat.lt_or_ge v.capacity n with h | h
      · -- the new block does not become the old one again
        have hlater := (v.refill policy blank a n).le_block_refillAll policy blank a sizes
        have hblock : (v.refill policy blank a n).block = v.block + 1 := by
          rw [refill_of_lt policy v blank a h]
        exact iff_of_false (fun heq => by omega) fun hall => Nat.not_le.mpr h hall.1
      · have hcapacity := v.capacity_refill policy blank a n
        rw [if_pos h] at hcapacity
        have hblock : (v.refill policy blank a n).block = v.block := by
          rw [refill_of_le policy v blank a h]
        rw [← hblock, ih, hcapacity]
        exact (and_iff_right h).symm

/-- The first so many cells of the block all have the same known value. -/
def Starts (a : α) (n : Nat) : Prop := v.cells.take n = List.replicate n (some a)

/-- After the vector was filled with so many elements of a value, that many cells of the block have
it. -/
theorem starts_refill (blank a : α) (n : Nat) : (v.refill policy blank a n).Starts a n := by
  rcases Nat.lt_or_ge v.capacity n with h | h
  · rw [refill_of_lt policy v blank a h]
    simp [Starts]
  · rw [refill_of_le policy v blank a h]
    simp [Starts]

/-- Cells at the start of the block that have the value keep it when the vector is filled again
within its room. -/
theorem Starts.refill {v : ReusedBlock α} {a : α} {k : Nat} (hstarts : v.Starts a k) (blank : α)
    {n : Nat} (h : n ≤ v.capacity) : (v.refill policy blank a n).Starts a k := by
  rw [refill_of_le policy v blank a h, Starts, List.take_append, List.length_replicate,
    List.take_replicate, List.take_drop]
  rcases Nat.le_total k n with hk | hk
  · simp [Nat.min_eq_left hk, Nat.sub_eq_zero_of_le hk]
  · -- the cells behind those that are written
    have htail : (v.cells.take k).drop n = List.replicate (k - n) (some a) := by
      rw [hstarts, List.drop_replicate]
    rw [Nat.min_eq_right hk, show n + (k - n) = k by omega, htail, List.replicate_append_replicate]
    congr 1
    omega

/-- Cells at the start of the block keep the value while there is room for all sizes, and so does
the block its capacity. -/
theorem Starts.refillAll {v : ReusedBlock α} {a : α} {k : Nat} (hstarts : v.Starts a k)
    (blank : α) {sizes : List Nat} (h : ∀ n ∈ sizes, n ≤ v.capacity) :
    (v.refillAll policy blank a sizes).Starts a k ∧
      (v.refillAll policy blank a sizes).capacity = v.capacity := by
  induction sizes generalizing v with
  | nil => exact ⟨hstarts, rfl⟩
  | cons n sizes ih =>
      obtain ⟨hn, hsizes⟩ := List.forall_mem_cons.mp h
      have hcapacity := v.capacity_refill policy blank a n
      rw [if_pos hn] at hcapacity
      have hrest := ih (hstarts.refill policy blank hn) fun m hm => by
        rw [hcapacity]
        exact hsizes m hm
      rwa [hcapacity] at hrest

/-- Cells that all have a known value are read as these values, and the read does not fail. -/
theorem mapM_id_replicate (n : Nat) (a : α) :
    (List.replicate n (some a)).mapM id = some (List.replicate n a) := by
  induction n with
  | zero => rfl
  | succ n ih => simp [List.replicate_succ, ih]

/-- **What was filled in is read back** through a pointer from then, after the vector was used again
for other sizes, exactly when there was room for each of them. -/
theorem readBlock_refillAll_iff (blank a : α) {n : Nat} (hn : 0 < n) (sizes : List Nat) :
    ((v.refill policy blank a n).refillAll policy blank a sizes).readBlock
        (v.refill policy blank a n).data n = some (List.replicate n a) ↔
      ∀ m ∈ sizes, m ≤ (v.refill policy blank a n).capacity := by
  have hfits := v.le_capacity_refill policy blank a n
  have hblock := (v.refill policy blank a n).block_refillAll_eq_iff policy blank a sizes
  have hstarts := v.starts_refill policy blank a n
  rw [data, if_neg (by omega), readBlock, if_neg (by omega)]
  constructor
  · intro hread
    split at hread
    · next hvalid => exact hblock.mp hvalid.1.symm
    · cases hread
  · intro hall
    obtain ⟨hkept, hcapacity⟩ := hstarts.refillAll policy blank hall
    have hinside : 0 + n ≤
        ((v.refill policy blank a n).refillAll policy blank a sizes).capacity := by
      rw [hcapacity, Nat.zero_add]
      exact hfits
    rw [if_pos ⟨(hblock.mpr hall).symm, hinside⟩, List.drop_zero, hkept, mapM_id_replicate]

end ReusedBlock

end Foundations
