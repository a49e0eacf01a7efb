import Mathlib.Data.List.GetD
import Mathlib.Tactic.Common

/-! # Blocks of memory

A block is a finite, mutable sequence of cells addressed from `0`. Reads and writes of a range are
clipped to the block, so a read past the end returns fewer cells than were asked for:

* **`Block.read b off n`** — the cells of the range `[off, off + n)` that lie in the block.
* **`Block.write b off xs`** — the block with `xs` stored from `off` on.
* **`Block.read_write`** — a range that was just written reads back as what was written.
* **`Block.byte_writes`** — after any number of writes at one offset a cell holds the value of the
  last write that reached it.
* **`Block.read_writes_iff`** — after them all reads see what was written exactly when any two of
  the writes agree where they overlap.
* **`Block.read_record`** — a record of a block that holds records of one length. -/

namespace Foundations

universe u v

variable {α : Type u}

/-- A sequence of `size` cells; what `byte` says beyond `size` is not part of the block. -/
structure Block (α : Type u) where
  /-- The number of cells. -/
  size : Nat
  /-- The content of each cell. -/
  byte : Nat → α

namespace Block

/-- The cells of `[off, off + n)` that lie in the block. -/
def read (b : Block α) (off n : Nat) : List α :=
  (List.range (min n (b.size - off))).map fun i => b.byte (off + i)

/-- Store `xs` from `off` on; what does not fit is dropped. -/
def write (b : Block α) (off : Nat) (xs : List α) : Block α where
  size := b.size
  byte i := if off ≤ i ∧ i < b.size then xs.getD (i - off) (b.byte i) else b.byte i

@[simp] theorem size_write (b : Block α) (off : Nat) (xs : List α) :
    (b.write off xs).size = b.size := rfl

/-- A read inside the block returns as many cells as were asked for. -/
theorem length_read_of_le {b : Block α} {off n : Nat} (h : off + n ≤ b.size) :
    (b.read off n).length = n := by
  rw [read, List.length_map, List.length_range, Nat.min_eq_left (by omega)]

/-- The first `n` cells of a longer read at the same offset are what a read of `n` cells returns. -/
theorem take_read (b : Block α) (off : Nat) {n m : Nat} (h : n ≤ m) :
    (b.read off m).take n = b.read off n := by
  have hmin : min n (min m (b.size - off)) = min n (b.size - off) := by omega
  rw [read, read, ← List.map_take, List.take_range, hmin]

/-- A read returns at most the cells from its offset to the end of the block, however many are asked
for. -/
theorem length_read_le (b : Block α) (off n : Nat) : (b.read off n).length ≤ b.size - off := by
  rw [read, List.length_map, List.length_range]
  exact Nat.min_le_right _ _

/-- A read shows the cells of the block in order: its `i`-th entry is the cell `off + i`, as long as
that is asked for and inside the block. -/
theorem getElem?_read (b : Block α) (off n i : Nat) :
    (b.read off n)[i]? = if i < n ∧ off + i < b.size then some (b.byte (off + i)) else none := by
  rw [read, List.getElem?_map]
  by_cases h : i < n ∧ off + i < b.size
  · rw [if_pos h, List.getElem?_range (by omega), Option.map_some]
  · rw [if_neg h, List.getElem?_eq_none (by rw [List.length_range]; omega), Option.map_none]

/-- A cell of the block that a write reaches holds, after the write, the value that was written
there. -/
theorem byte_write_of_lt {b : Block α} {off i : Nat} {xs : List α} (hi : off ≤ i)
    (hlen : i - off < xs.length) (hsize : i < b.size) :
    (b.write off xs).byte i = xs[i - off] := by
  rw [write]
  simp only [if_pos (And.intro hi hsize)]
  exact List.getD_eq_getElem _ _ hlen

/-- What was written into a range of the block is what the range reads. -/
theorem read_write {b : Block α} {off : Nat} {xs : List α} (h : off + xs.length ≤ b.size) :
    (b.write off xs).read off xs.length = xs := by
  apply List.ext_getElem?
  intro i
  rw [getElem?_read, size_write]
  by_cases hi : i < xs.length
  · have hcell : (b.write off xs).byte (off + i) = xs[off + i - off] :=
      byte_write_of_lt (by omega) (by omega) (by omega)
    -- a cell inside the written range
    rw [if_pos ⟨hi, by omega⟩, hcell, List.getElem?_eq_getElem hi]
    simp only [Nat.add_sub_cancel_left]
  · rw [if_neg (fun h' => hi h'.1), List.getElem?_eq_none (by omega)]

/-- The value a cell has after one more write at offset `0`. -/
def overwrite (i : Nat) (old : α) (xs : List α) : α := xs.getD i old

/-- **Writes at one offset.** After any number of writes from the start of the block on, a cell
holds the value of the last write that reached it. -/
theorem byte_writes {b : Block α} {i : Nat} (hi : i < b.size) (xss : List (List α)) :
    (xss.foldl (fun b xs => b.write 0 xs) b).byte i = xss.foldl (overwrite i) (b.byte i) := by
  induction xss generalizing b with
  | nil => rfl
  | cons xs xss ih =>
      rw [List.foldl_cons, List.foldl_cons, ih (b := b.write 0 xs) hi]
      congr 1
      rw [write, overwrite]
      simp only [Nat.zero_le, true_and, if_pos hi, Nat.sub_zero]

/-- Any number of writes at the start leave the size of a block alone: a write never makes it
larger. -/
theorem size_writes (b : Block α) (xss : List (List α)) :
    (xss.foldl (fun b xs => b.write 0 xs) b).size = b.size := by
  induction xss generalizing b with
  | nil => rfl
  | cons xs xss ih => rw [List.foldl_cons, ih, size_write]

/-- A cell that is overwritten again and again holds a cell of one of the lists that reach it; if
none does it is unchanged. -/
theorem foldl_overwrite_cases (i : Nat) (xss : List (List α)) (old : α) :
    (∃ ys ∈ xss, ∃ hi : i < ys.length, xss.foldl (overwrite i) old = ys[i]) ∨
      (∀ ys ∈ xss, ys.length ≤ i) ∧ xss.foldl (overwrite i) old = old := by
  induction xss generalizing old with
  | nil => exact Or.inr ⟨fun _ hmem => absurd hmem List.not_mem_nil, rfl⟩
  | cons xs xss ih =>
      rw [List.foldl_cons]
      rcases ih (overwrite i old xs) with ⟨ys, hmem, hi, hvalue⟩ | ⟨hshort, hvalue⟩
      · -- a later list reached the cell
        exact Or.inl ⟨ys, List.mem_cons_of_mem _ hmem, hi, hvalue⟩
      · -- no later list did, so the cell keeps what `xs` made of it
        rw [hvalue, overwrite]
        by_cases hi : i < xs.length
        · exact Or.inl ⟨xs, List.mem_cons_self, hi, List.getD_eq_getElem _ _ hi⟩
        · refine Or.inr ⟨?_, List.getD_eq_default _ _ (by omega)⟩
          intro ys hmem
          rcases List.mem_cons.mp hmem with rfl | hmem
          · omega
          · exact hshort ys hmem

/-- A range reads as `xs` exactly when each of its cells holds that of `xs`. -/
theorem read_eq_iff {b : Block α} {off : Nat} {xs : List α} (h : off + xs.length ≤ b.size) :
    b.read off xs.length = xs ↔ ∀ (i : Nat) (hi : i < xs.length), b.byte (off + i) = xs[i] := by
  constructor
  · intro heq i hi
    have hcell := congrArg (·[i]?) heq
    simp only [getElem?_read, List.getElem?_eq_getElem hi] at hcell
    rw [if_pos ⟨hi, by omega⟩] at hcell
    exact Option.some.inj hcell
  · intro hcells
    apply List.ext_getElem?
    intro i
    rw [getElem?_read]
    by_cases hi : i < xs.length
    · rw [if_pos ⟨hi, by omega⟩, hcells i hi, List.getElem?_eq_getElem hi]
    · rw [if_neg (fun h' => hi h'.1), List.getElem?_eq_none (by omega)]

/-- One of two lists is a prefix of the other exactly when they agree where they overlap. -/
theorem prefix_or_prefix_iff {xs ys : List α} :
    xs <+: ys ∨ ys <+: xs ↔
      ∀ (i : Nat) (hx : i < xs.length) (hy : i < ys.length), xs[i] = ys[i] := by
  constructor
  · rintro (h | h) i hx hy
    · exact h.getElem hx
    · exact (h.getElem hy).symm
  · intro h
    rcases Nat.le_total xs.length ys.length with hle | hle
    · exact Or.inl (List.prefix_iff_getElem.mpr ⟨hle, fun i hx => h i hx (by omega)⟩)
    · exact Or.inr (List.prefix_iff_getElem.mpr ⟨hle, fun i hy => (h i (by omega) hy).symm⟩)

/-- **Reads after writes at one offset.** After writes from the start of the block on, each of them
reads back as what was written exactly when any two of them agree where they overlap. -/
theorem read_writes_iff {b : Block α} {xss : List (List α)}
    (hfit : ∀ xs ∈ xss, xs.length ≤ b.size) :
    (∀ xs ∈ xss, (xss.foldl (fun b xs => b.write 0 xs) b).read 0 xs.length = xs) ↔
      ∀ xs ∈ xss, ∀ ys ∈ xss, xs <+: ys ∨ ys <+: xs := by
  have hread : ∀ xs ∈ xss, (xss.foldl (fun b xs => b.write 0 xs) b).read 0 xs.length = xs ↔
      ∀ (i : Nat) (hi : i < xs.length), xss.foldl (overwrite i) (b.byte i) = xs[i] := by
    intro xs hmem
    have hxs := hfit xs hmem
    rw [read_eq_iff (by rw [size_writes]; omega)]
    refine forall₂_congr fun i hi => ?_
    rw [Nat.zero_add, byte_writes (by omega)]
  constructor
  · intro h xs hxs ys hys
    -- a cell that both lists reach has one value in the end, so both hold the same there
    rw [prefix_or_prefix_iff]
    intro i hx hy
    rw [← (hread xs hxs).mp (h xs hxs) i hx, (hread ys hys).mp (h ys hys) i hy]
  · intro h xs hxs
    rw [hread xs hxs]
    intro i hi
    rcases foldl_overwrite_cases i xss (b.byte i) with ⟨ys, hys, hlt, hvalue⟩ | ⟨hshort, -⟩
    · -- the cell holds that of the last list that reached it, which agrees with `xs`
      rw [hvalue]
      exact prefix_or_prefix_iff.mp (h ys hys xs hxs) i hlt hi
    · exact absurd (hshort xs hxs) (by omega)

/-! ### Records -/

/-- In the concatenation of records of `n` entries each, the `n` entries from `k * n` on are record
`k`, and there are none when there is no such record. -/
theorem take_drop_flatMap {β : Type v} {f : β → List α} {n : Nat}
    (hlength : ∀ x, (f x).length = n) (xs : List β) (k : Nat) :
    ((xs.flatMap f).drop (k * n)).take n = (xs[k]?.map f).getD [] := by
  induction xs generalizing k with
  | nil => simp
  | cons x xs ih =>
      cases k with
      | zero => simp [← hlength x]
      | succ k =>
          have hskip : (k + 1) * n = (f x).length + k * n := by
            rw [hlength, Nat.succ_mul, Nat.add_comm]
          rw [List.flatMap_cons, hskip, List.drop_length_add_append, ih, List.getElem?_cons_succ]

/-- A read at an offset is the part of the whole content from that offset on, cut to its length. -/
theorem read_eq_take_drop (b : Block α) (off n : Nat) :
    b.read off n = ((b.read 0 b.size).drop off).take n := by
  refine List.ext_getElem? fun i => ?_
  rw [getElem?_read, List.getElem?_take, List.getElem?_drop, getElem?_read]
  by_cases hi : i < n
  · simp only [hi, true_and, if_true, Nat.zero_add, and_self_iff]
  · simp only [hi, false_and, if_false]

/-- **A record of a block** that holds records of one length, one after the other; past the last of
them there is nothing to read. -/
theorem read_record {β : Type v} {b : Block α} {f : β → List α} {n : Nat} {xs : List β}
    (hlength : ∀ x, (f x).length = n) (h : b.read 0 b.size = xs.flatMap f) (k : Nat) :
    b.read (k * n) n = (xs[k]?.map f).getD [] := by
  rw [read_eq_take_drop, h, take_drop_flatMap hlength]

end Block

end Foundations
