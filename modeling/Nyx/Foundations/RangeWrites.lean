import Mathlib.Data.List.Induction
import Mathlib.Logic.Nontrivial.Basic
import Mathlib.Tactic.Common

/-! # Writes of ranges

Cells `Nat → α` into which lists of values are written, each from an offset on. By the law of the
last writer a cell has the value of the last write that covers it. This file says when writes keep
the law that go on past their values, up to the end of the cells, with whatever they find:

* **`RangeWrite.at?`**, **`lastAt`** — the value that a write has for a cell, and the last one.
* **`RangeWrite.overshoot`**, **`overshootAll`** — writes that go on to the end.
* **`overshootAll_iff`** — they leave a cell with a given value, whatever they find and whatever was
  there, exactly when the last of them that reaches the cell covers it, with that value. -/

namespace Foundations

universe u

variable {α : Type u}

/-- A write of some values to the cells from an offset on. -/
structure RangeWrite (α : Type u) where
  offset : Nat
  values : List α

/-- The value that a write has for a cell, if it covers it. -/
def RangeWrite.at? (write : RangeWrite α) (i : Nat) : Option α :=
  if write.offset ≤ i then write.values[i - write.offset]? else none

/-- The value that the last write covering a cell has for it. -/
def lastAt (i : Nat) (writes : List (RangeWrite α)) : Option α :=
  (writes.filterMap (·.at? i)).getLast?

/-- The last write that starts at a cell or in front of it. -/
def lastReaching (i : Nat) (writes : List (RangeWrite α)) : Option (RangeWrite α) :=
  (writes.filter (·.offset ≤ i)).getLast?

/-- The cells after a write that goes on to the end of `size` cells: past the values it takes what
it finds, which `rest` says by the distance from the offset. -/
def RangeWrite.overshoot (size : Nat) (rest : Nat → α) (write : RangeWrite α) (cells : Nat → α) :
    Nat → α := fun i =>
  if write.offset ≤ i ∧ i < size then write.values.getD (i - write.offset) (rest (i - write.offset))
  else cells i

/-- Writes that go on to the end, one after the other; each finds something else. -/
def overshootAll (size : Nat) (rest : Nat → Nat → α) (writes : List (RangeWrite α))
    (cells : Nat → α) : Nat → α :=
  writes.zipIdx.foldl (fun cells entry => entry.1.overshoot size (rest entry.2) cells) cells

/-- The value that a cell has after one write more: that of the new write if it reaches the cell,
and the one from before if not. -/
theorem lastAt_concat (i : Nat) (writes : List (RangeWrite α)) (write : RangeWrite α) :
    lastAt i (writes ++ [write]) = (write.at? i).or (lastAt i writes) := by
  simp only [lastAt, List.filterMap_append, List.getLast?_append]
  cases h : write.at? i <;> simp [h]

/-- The last write that starts at or before a cell, with one write more: the new one if it does. -/
theorem lastReaching_concat (i : Nat) (writes : List (RangeWrite α)) (write : RangeWrite α) :
    lastReaching i (writes ++ [write]) =
      if write.offset ≤ i then some write else lastReaching i writes := by
  simp only [lastReaching, List.filter_append, List.getLast?_append]
  split <;> simp_all

/-- What overshooting writes leave, with one write more: the new one is done on what the others
left. -/
theorem overshootAll_concat (size : Nat) (rest : Nat → Nat → α) (writes : List (RangeWrite α))
    (write : RangeWrite α) (cells : Nat → α) :
    overshootAll size rest (writes ++ [write]) cells =
      write.overshoot size (rest writes.length) (overshootAll size rest writes cells) := by
  simp [overshootAll, List.zipIdx_append]

/-- An optional value that agrees with every default is none, if there are two different
defaults. -/
theorem forall_eq_getD_iff [Nontrivial α] {x : Option α} : (∀ d, d = x.getD d) ↔ x = none := by
  constructor
  · intro h
    cases x with
    | none => rfl
    | some v =>
        obtain ⟨w, hne⟩ := exists_ne v
        exact absurd (h w) hne
  · rintro rfl d
    rfl

/-- An optional value that is the same for every default is that value, if there are two different
defaults. -/
theorem forall_getD_eq_iff [Nontrivial α] {x : Option α} {v : α} :
    (∀ d, v = x.getD d) ↔ x = some v := by
  constructor
  · intro h
    cases x with
    | none =>
        obtain ⟨w, hne⟩ := exists_ne v
        exact absurd (h w).symm hne
    | some w => rw [h w, Option.getD_some]
  · rintro rfl d
    rfl

/-- **When the last writer wins.** Writes that go on to the end leave a cell with a value, or as it
was, whatever they find and whatever was there, exactly when the last of them that reaches the cell
covers it, and the last of them that covers it has that value for it. -/
theorem overshootAll_iff [Nontrivial α] {size i : Nat} (hi : i < size)
    (writes : List (RangeWrite α)) (value : Option α) :
    (∀ rest cells, overshootAll size rest writes cells i = value.getD (cells i)) ↔
      (∀ write ∈ lastReaching i writes, (write.at? i).isSome) ∧ lastAt i writes = value := by
  induction writes using List.reverseRecOn with
  | nil =>
      have hcells : (∀ (rest : Nat → Nat → α) (cells : Nat → α),
          overshootAll size rest [] cells i = value.getD (cells i)) ↔ ∀ d, d = value.getD d :=
        ⟨fun h d => h (fun _ _ => d) fun _ => d, fun h _ cells => h (cells i)⟩
      rw [hcells, forall_eq_getD_iff]
      refine ⟨fun h => ⟨by simp [lastReaching], h.symm⟩, fun h => h.2.symm⟩
  | append_singleton writes write ih =>
      simp only [overshootAll_concat, lastReaching_concat, lastAt_concat, RangeWrite.overshoot]
      by_cases hreach : write.offset ≤ i
      · simp only [hreach, hi, and_self, if_true, Option.mem_some_iff, forall_eq']
        have hat : write.at? i = write.values[i - write.offset]? := if_pos hreach
        rw [hat]
        simp only [List.getD_eq_getElem?_getD]
        cases write.values[i - write.offset]? with
        | none =>
            -- the cell has what the write finds
            refine iff_of_false (fun h => ?_) (by simp)
            obtain ⟨d, e, hne⟩ := exists_pair_ne α
            exact hne ((h (fun _ _ => d) fun _ => d).trans (h (fun _ _ => e) fun _ => d).symm)
        | some v =>
            have hcells : (∀ (rest : Nat → Nat → α) (cells : Nat → α),
                (some v).getD (rest writes.length (i - write.offset)) = value.getD (cells i)) ↔
                ∀ d, v = value.getD d :=
              ⟨fun h d => h (fun _ _ => d) fun _ => d, fun h _ cells => h (cells i)⟩
            rw [hcells, forall_getD_eq_iff]
            simp only [Option.isSome_some, true_and, Option.some_or]
            exact eq_comm
      · have hat : write.at? i = none := if_neg hreach
        simp only [hreach, false_and, if_false, hat, Option.none_or]
        exact ih

end Foundations
