import Mathlib.Data.List.Basic
import Mathlib.Tactic.Common

/-! # Vectors that grow

A vector whose elements are in a block of memory with room for more of them. When there is no room
left they move to a larger block, and pointers into the old one are stale.

* **`Growth`** — how much room the new block has.
* **`Growth.room`** — how much room there is after elements were appended.
* **`GrowingVector`** — the elements, the room, and the block they are in.
* **`GrowingVector.push`**, **`GrowingVector.pushAll`**, **`GrowingVector.clear`**,
  **`GrowingVector.resize`**, **`GrowingVector.set`** — the operations that change it.
* **`GrowingVector.data`**, **`GrowingVector.readFrom`** — a pointer to the first element, and
  reading through a pointer.
* **`GrowingVector.block_pushAll_eq_iff`** — pointers stay valid exactly when there is room.
* **`GrowingVector.readFrom_pushAll_eq_iff`** — what was appended last is read back through a
  pointer to it, whatever is appended afterwards, exactly when there was room for that. -/

namespace Foundations

universe u

/-- The room of the block that a full vector moves to. -/
structure Growth where
  next : Nat → Nat
  lt_next : ∀ capacity, capacity < next capacity

/-- Each block has about twice the room of the one before. -/
def Growth.doubling : Growth where
  next capacity := 2 * capacity + 1
  lt_next capacity := by omega

/-- The room that a vector of some size and room has after `n` more elements were appended. -/
def Growth.room (growth : Growth) (capacity size : Nat) : Nat → Nat
  | 0 => capacity
  | n + 1 => growth.room (if size < capacity then capacity else growth.next capacity) (size + 1) n

/-- A vector that makes room for more elements never has less room afterwards than before. -/
theorem Growth.le_room (growth : Growth) (capacity size n : Nat) :
    capacity ≤ growth.room capacity size n := by
  induction n generalizing capacity size with
  | zero => exact Nat.le_refl _
  | succ n ih =>
      have hlt := growth.lt_next capacity
      rw [room]
      split
      · exact ih _ _
      · exact Nat.le_trans (Nat.le_of_lt hlt) (ih _ _)

/-- A vector that grows: its elements, how many its block has room for, and which block that is. -/
structure GrowingVector (α : Type u) where
  elements : List α := []
  capacity : Nat := 0
  /-- The number of the block; each new block gets a number of its own. -/
  block : Nat := 0
  fits : elements.length ≤ capacity := by decide
  deriving Repr

/-- A pointer into a block of a vector, which is good only while the vector keeps that block. -/
structure BlockPointer where
  block : Nat
  offset : Nat
  deriving DecidableEq, Repr

namespace BlockPointer

/-- The pointer some elements further in the same block, as pointer arithmetic has it. -/
def add (pointer : BlockPointer) (n : Nat) : BlockPointer :=
  { pointer with offset := pointer.offset + n }

end BlockPointer

namespace GrowingVector

variable {α : Type u} (growth : Growth) (v : GrowingVector α)

/-- How many elements there are, which is at most the capacity of the block. -/
def size : Nat := v.elements.length

/-- Append an element: in place when the block has room, and otherwise in a new and larger block, to
which all elements are moved. -/
def push (a : α) : GrowingVector α :=
  if h : v.size < v.capacity then
    { v with elements := v.elements ++ [a], fits := by simpa [size] using Nat.succ_le_of_lt h }
  else
    { elements := v.elements ++ [a]
      capacity := growth.next v.capacity
      block := v.block + 1
      fits := by
        have hlt := growth.lt_next v.capacity
        have hfits := v.fits
        simp only [List.length_append, List.length_singleton]
        omega }

/-- Append elements one after another, with as many changes of the block as that takes. -/
def pushAll (elements : List α) : GrowingVector α := elements.foldl (push growth) v

/-- Remove all elements. The block stays, with its capacity. -/
def clear : GrowingVector α := { v with elements := [], fits := Nat.zero_le _ }

/-- Take `n` as the size, with copies of `blank` for the elements that are missing. -/
def resize (n : Nat) (blank : α) : GrowingVector α :=
  let elements := v.elements.take n ++ List.replicate (n - v.size) blank
  if h : elements.length ≤ v.capacity then { v with elements := elements, fits := h }
  else
    { elements := elements
      capacity := max (growth.next v.capacity) elements.length
      block := v.block + 1
      fits := Nat.le_max_right _ _ }

/-- Replace an element in place; an index past the end changes nothing. -/
def set (index : Nat) (a : α) : GrowingVector α :=
  { v with elements := v.elements.set index a, fits := by simpa using v.fits }

/-- A pointer to the first element, null when there never was a block. -/
def data : Option BlockPointer := if v.capacity = 0 then none else some ⟨v.block, 0⟩

/-- The `n` elements behind a pointer, if it points to so many elements of the vector. -/
def readFrom (pointer : Option BlockPointer) (n : Nat) : Option (List α) :=
  match pointer with
  | none => if n = 0 then some [] else none
  | some pointer =>
      if pointer.block = v.block ∧ pointer.offset + n ≤ v.size then
        some ((v.elements.drop pointer.offset).take n)
      else none

/-! ## What appending does -/

@[simp] theorem elements_push (a : α) : (v.push growth a).elements = v.elements ++ [a] := by
  unfold push
  split <;> rfl

@[simp] theorem pushAll_nil : v.pushAll growth [] = v := rfl

theorem pushAll_cons (a : α) (as : List α) :
    v.pushAll growth (a :: as) = (v.push growth a).pushAll growth as := rfl

@[simp] theorem size_clear : v.clear.size = 0 := rfl

theorem pushAll_append (as bs : List α) :
    v.pushAll growth (as ++ bs) = (v.pushAll growth as).pushAll growth bs :=
  List.foldl_append

@[simp] theorem elements_pushAll (as : List α) :
    (v.pushAll growth as).elements = v.elements ++ as := by
  induction as generalizing v with
  | nil => simp
  | cons a as ih => simp [pushAll_cons, ih]

@[simp] theorem size_pushAll (as : List α) :
    (v.pushAll growth as).size = v.size + as.length := by
  simp [size]

/-! ## What resizing does -/

@[simp] theorem elements_resize (n : Nat) (blank : α) : (v.resize growth n blank).elements =
    v.elements.take n ++ List.replicate (n - v.size) blank := by
  unfold resize
  dsimp only
  split <;> rfl

@[simp] theorem size_resize (n : Nat) (blank : α) : (v.resize growth n blank).size = n := by
  simp only [size, elements_resize, List.length_append, List.length_take, List.length_replicate]
  omega

@[simp] theorem elements_set (index : Nat) (a : α) :
    (v.set index a).elements = v.elements.set index a := rfl

/-- Elements from the second on that are all alike stay so when as many more are added. -/
theorem tail_resize {blank : α} (h : ∀ a ∈ v.elements.tail, a = blank) (n : Nat) :
    ∀ a ∈ (v.resize growth n blank).elements.tail, a = blank := by
  intro a ha
  cases helements : v.elements with
  | nil =>
      simp [helements] at ha
      exact ha.2
  | cons b bs =>
      rw [helements, List.tail_cons] at h
      cases n with
      | zero => simp at ha
      | succ n =>
          simp only [elements_resize, helements, List.take_succ_cons, List.cons_append,
            List.tail_cons, List.mem_append] at ha
          rcases ha with ha | ha
          · exact h a (List.mem_of_mem_take ha)
          · exact List.eq_of_mem_replicate ha

/-- The first element after a vector was resized: the one from before, the blank one if there was
none, and none at size zero. -/
theorem head?_resize (n : Nat) (blank : α) : (v.resize growth n blank).elements.head? =
    if n = 0 then none else some (v.elements.head?.getD blank) := by
  rw [elements_resize]
  cases n with
  | zero => simp
  | succ n => cases helements : v.elements <;> simp [size, helements, List.replicate_succ]

/-- **Copies of one element** are what a vector whose elements are other ones from the second on is
resized to, when there is none of them or the first element is one. -/
theorem resize_eq_replicate_iff {blank a : α} (hne : a ≠ blank)
    (h : ∀ b ∈ v.elements.tail, b = blank) (n : Nat) :
    (v.resize growth n blank).elements = List.replicate n a ↔
      n = 0 ∨ n = 1 ∧ v.elements.head? = some a := by
  have hhead := head?_resize growth v n blank
  have htail := tail_resize growth v h n
  match n with
  | 0 => simp
  | 1 =>
      have hsize := size_resize growth v 1 blank
      obtain ⟨b, hb⟩ := List.length_eq_one_iff.mp hsize
      rw [hb] at hhead ⊢
      cases helements : v.elements with
      | nil =>
          simp [helements] at hhead
          simp [hhead, hne.symm]
      | cons c cs =>
          simp [helements] at hhead
          simp [hhead]
  | n + 2 =>
      refine iff_of_false (fun heq => ?_) (by omega)
      rw [heq] at htail
      exact hne (htail a (by simp [List.replicate_succ]))

/-- Reading a whole vector through a pointer to its first element. -/
theorem readFrom_data : v.readFrom v.data v.size = some v.elements := by
  have hfits : v.size ≤ v.capacity := v.fits
  by_cases hroom : v.capacity = 0
  · have hnil : v.elements = [] := List.length_eq_zero_iff.mp (by simp only [size] at hfits; omega)
    simp [readFrom, data, hroom, size, hnil]
  · simp [readFrom, data, hroom, size]

/-! ## How elements move -/

/-- When an element is appended and there is room for it, the vector keeps its block and its
capacity. -/
theorem push_of_lt (a : α) (h : v.size < v.capacity) :
    (v.push growth a).block = v.block ∧ (v.push growth a).capacity = v.capacity := by
  rw [push, dif_pos h]
  exact ⟨rfl, rfl⟩

/-- When an element is appended and there is no room, all elements move to a new block, which has
more room. -/
theorem push_of_le (a : α) (h : v.capacity ≤ v.size) :
    (v.push growth a).block = v.block + 1 ∧ v.capacity < (v.push growth a).capacity := by
  rw [push, dif_neg (Nat.not_lt.mpr h)]
  exact ⟨rfl, growth.lt_next _⟩

/-- The room of a vector follows from how many elements were appended. -/
theorem capacity_pushAll (as : List α) :
    (v.pushAll growth as).capacity = growth.room v.capacity v.size as.length := by
  induction as generalizing v with
  | nil => rfl
  | cons a as ih =>
      have hsize : (v.push growth a).size = v.size + 1 := by simp [size]
      rw [pushAll_cons, ih, hsize, List.length_cons, Growth.room, push]
      split <;> rfl

/-- When an element is appended the number of the block and the capacity never become less. -/
theorem le_push (a : α) :
    v.block ≤ (v.push growth a).block ∧ v.capacity ≤ (v.push growth a).capacity := by
  rcases Nat.lt_or_ge v.size v.capacity with h | h
  · have hpush := v.push_of_lt growth a h
    omega
  · have hpush := v.push_of_le growth a h
    omega

/-- When any number of elements is appended the number of the block and the capacity never become
less. -/
theorem le_pushAll (as : List α) : v.block ≤ (v.pushAll growth as).block ∧
    v.capacity ≤ (v.pushAll growth as).capacity := by
  induction as generalizing v with
  | nil => exact ⟨Nat.le_refl _, Nat.le_refl _⟩
  | cons a as ih =>
      have hpush := v.le_push growth a
      have hrest := ih (v.push growth a)
      rw [pushAll_cons]
      omega

/-- **Pointers stay valid** exactly when there is room for all that is appended. -/
theorem block_pushAll_eq_iff (as : List α) :
    (v.pushAll growth as).block = v.block ↔ v.size + as.length ≤ v.capacity := by
  induction as generalizing v with
  | nil => exact iff_of_true rfl v.fits
  | cons a as ih =>
      have hfits : v.size ≤ v.capacity := v.fits
      have hsize : (v.push growth a).size = v.size + 1 := by simp [size]
      rw [pushAll_cons, List.length_cons]
      rcases Nat.lt_or_ge v.size v.capacity with h | h
      · have hpush := v.push_of_lt growth a h
        rw [← hpush.1, ih, hsize, hpush.2]
        omega
      · -- the block is a new one, and does not become the old one again
        have hpush := v.push_of_le growth a h
        have hrest := (v.push growth a).le_pushAll growth as
        omega

/-- A vector that something was appended to has a block, and its data is the start of that. -/
theorem data_pushAll {as : List α} (h : as ≠ []) :
    (v.pushAll growth as).data = some ⟨(v.pushAll growth as).block, 0⟩ := by
  have hpos : 0 < as.length := List.length_pos_iff.mpr h
  have hfits : (v.pushAll growth as).size ≤ (v.pushAll growth as).capacity :=
    (v.pushAll growth as).fits
  rw [size_pushAll] at hfits
  rw [data, if_neg (by omega)]

/-- Only a vector that never had any room, and that nothing is appended to, has no block. -/
theorem data_pushAll_eq_none_iff (as : List α) :
    (v.pushAll growth as).data = none ↔ v.capacity = 0 ∧ as = [] := by
  by_cases h : as = []
  · subst h
    rw [pushAll_nil, data]
    split <;> simp [*]
  · simp [data_pushAll growth v h, h]

/-- **Reading what was appended last**, after more was appended: it is read back exactly when there
was room for that. -/
theorem readFrom_pushAll_eq_iff {as : List α} (h : as ≠ []) (bs : List α) :
    ((v.pushAll growth as).pushAll growth bs).readFrom
        ((v.pushAll growth as).data.map fun pointer => pointer.add v.size) as.length = some as ↔
      v.size + as.length + bs.length ≤ (v.pushAll growth as).capacity := by
  have hblock := block_pushAll_eq_iff growth (v.pushAll growth as) bs
  rw [size_pushAll] at hblock
  rw [data_pushAll growth v h, ← hblock, Option.map_some, readFrom]
  simp only [BlockPointer.add, Nat.zero_add]
  by_cases heq : (v.pushAll growth as).block = ((v.pushAll growth as).pushAll growth bs).block
  · rw [if_pos ⟨heq, by simp⟩]
    refine iff_of_true ?_ heq.symm
    simp [size]
  · rw [if_neg fun hboth => heq hboth.1]
    exact iff_of_false (by simp) fun hboth => heq hboth.symm

/-- Whoever reads one element at the start of the current block reads the first element of the
vector. -/
theorem head?_of_readFrom {pointer : BlockPointer} {a : α} (hstart : pointer.offset = 0)
    (h : v.readFrom (some pointer) 1 = some [a]) : v.elements.head? = some a := by
  rw [readFrom] at h
  split at h
  · cases helements : v.elements with
    | nil => simp [helements] at h
    | cons b bs => simpa [helements, hstart] using h
  · cases h

/-- An element that was appended is at the start of its block exactly when it is the first one. -/
theorem readFrom_start_iff {a : α} (h : a ∉ v.elements) :
    (v.pushAll growth [a]).readFrom (some ⟨(v.pushAll growth [a]).block, 0⟩) 1 = some [a] ↔
      v.size = 0 := by
  constructor
  · intro hread
    have hhead := head?_of_readFrom _ rfl hread
    rw [elements_pushAll] at hhead
    cases helements : v.elements with
    | nil => rw [size, helements, List.length_nil]
    | cons b bs =>
        have hb : b = a := by simpa [helements] using hhead
        exact absurd (by simp [helements, hb]) h
  · intro hempty
    have hnil : v.elements = [] := List.length_eq_zero_iff.mp hempty
    rw [readFrom, if_pos ⟨rfl, by simp⟩, elements_pushAll, hnil]
    rfl

end GrowingVector

end Foundations
