import Mathlib.Algebra.BigOperators.Group.List.Basic

/-! # Loops with a running total

A loop over a list that makes an element of each item and of the total so far, and then adds the
size of the item to the total. The totals are of any additive monoid, so they may wrap around.

* **`emitStep`** — the body of the loop.
* **`emitted`** — what the loop makes, by recursion over the items.
* **`foldl_emitStep`** — the loop appends that, and adds up the sizes.
* **`getElem?_emitted`** — an element is made of its item and the sizes of the items before. -/

namespace Foundations

universe u v w x

variable {α : Type u} {β : Type v} {γ : Type w} {M : Type x} [AddMonoid M]
  (emit : α → M → β) (size : α → M)

/-- The body of the loop, with the elements made so far and the total. -/
def emitStep (state : List β × M) (a : α) : List β × M :=
  (state.1 ++ [emit a state.2], state.2 + size a)

/-- The elements that are made of some items from a total on. -/
def emitted : M → List α → List β
  | _, [] => []
  | total, a :: as => emit a total :: emitted (total + size a) as

/-- **The loop** appends the elements that are made of the items, and adds up their sizes. -/
theorem foldl_emitStep (as : List α) (out : List β) (total : M) :
    as.foldl (emitStep emit size) (out, total) =
      (out ++ emitted emit size total as, total + (as.map size).sum) := by
  induction as generalizing out total with
  | nil => simp [emitted]
  | cons a as ih =>
      rw [List.foldl_cons, emitStep, ih]
      simp [emitted, add_assoc]

/-- There is one element for every item, in the order of the items. -/
@[simp] theorem length_emitted (total : M) (as : List α) :
    (emitted emit size total as).length = as.length := by
  induction as generalizing total with
  | nil => rfl
  | cons a as ih => simp [emitted, ih]

/-- **An element** is made of its item and of the total before it. -/
theorem getElem?_emitted (total : M) (as : List α) (k : Nat) :
    (emitted emit size total as)[k]? =
      as[k]?.map fun a => emit a (total + ((as.take k).map size).sum) := by
  induction as generalizing total k with
  | nil => simp [emitted]
  | cons a as ih =>
      cases k with
      | zero => simp [emitted]
      | succ k => simp [emitted, ih, add_assoc]

/-- What is read of the elements is made of the items in the same way. -/
theorem map_emitted (f : β → γ) (total : M) (as : List α) :
    (emitted emit size total as).map f =
      emitted (fun a total => f (emit a total)) size total as := by
  induction as generalizing total with
  | nil => rfl
  | cons a as ih => simp [emitted, ih]

/-- Elements that are made of the items alone, without the total, are the items mapped one by
one. -/
theorem emitted_const (f : α → β) (total : M) (as : List α) :
    emitted (fun a _ => f a) size total as = as.map f := by
  induction as generalizing total with
  | nil => rfl
  | cons a as ih => simp [emitted, ih]

end Foundations
