import Mathlib.Algebra.Group.Nat.Defs
import Mathlib.Data.List.GetD
import Mathlib.Tactic.Common

/-! # Lists behind a count and an accessor

A class shows an array as the number of its elements and an accessor by index, which gives some
default for an index past the end.

* **`readAt`** — such an accessor.
* **`Lists R count get items`** — what the count and the accessor show is related to the items, one
  by one.
* **`lists_readAt_map`** — an array with the images of the items shows them. -/

namespace Foundations

universe u v

variable {α : Type u} {β : Type v}

/-- The element at an index, or the default when it is not below the count. -/
def readAt (default : α) (count : UInt32) (xs : List α) (i : UInt32) : α :=
  if i < count then xs.getD i.toNat default else default

/-- The count and the accessor show elements that are related to the items, in order. -/
structure Lists (R : α → β → Prop) (count : UInt32) (get : UInt32 → α) (items : List β) :
    Prop where
  length : count.toNat = items.length
  entry : ∀ (i : Nat) (hi : i < items.length), R (get (.ofNat i)) items[i]

variable {R : α → β → Prop} {items : List β} {d : α}

/-- When the count of an array is right, its accessor looks an index up in the list, and shows the
default behind its end. -/
theorem readAt_eq_getD {xs : List α} (h : xs.length < 2 ^ 32) (i : UInt32) :
    readAt d (.ofNat xs.length) xs i = xs.getD i.toNat d := by
  have hcount : (UInt32.ofNat xs.length).toNat = xs.length := UInt32.toNat_ofNat_of_lt' h
  rw [readAt]
  split
  · rfl
  · rename_i hle
    rw [UInt32.lt_iff_toNat_lt, hcount, Nat.not_lt] at hle
    exact (List.getD_eq_default _ _ hle).symm

/-- When the count of an array is right, an index below it shows the entry there. -/
theorem readAt_ofNat {xs : List α} (h : xs.length < 2 ^ 32) {i : Nat} (hi : i < xs.length) :
    readAt d (.ofNat xs.length) xs (.ofNat i) = xs[i] := by
  have hindex : (UInt32.ofNat i).toNat = i := UInt32.toNat_ofNat_of_lt' (Nat.lt_trans hi h)
  rw [readAt_eq_getD h, hindex, List.getD_eq_getElem _ _ hi]

/-- **Images.** An array of the images of some items shows, through its accessor, what is related to
these items. -/
theorem lists_readAt_map {f : β → α} (h : items.length < 2 ^ 32)
    (hR : ∀ item ∈ items, R (f item) item) :
    Lists R (.ofNat (items.map f).length) (readAt d (.ofNat (items.map f).length) (items.map f))
      items := by
  have hmap : (items.map f).length = items.length := List.length_map f
  constructor
  · rw [hmap]
    exact UInt32.toNat_ofNat_of_lt' h
  · intro i hi
    rw [readAt_ofNat (hmap ▸ h) (hmap ▸ hi), List.getElem_map]
    exact hR _ (List.getElem_mem hi)

/-- An array of the items themselves shows the items, each at its index. -/
theorem lists_readAt (h : items.length < 2 ^ 32) {d : β} :
    Lists Eq (.ofNat items.length) (readAt d (.ofNat items.length) items) items where
  length := UInt32.toNat_ofNat_of_lt' h
  entry _ hi := readAt_ofNat h hi

end Foundations
