import Mathlib.Data.List.Count
import Mathlib.Tactic.Common

/-! # Slots for handles

An object keeps handles in a slot. Making new handles replaces those in the slot, and releasing
destroys those in the slot but leaves them there, as objects do that never set a handle to null.

* **`HandleSlot`**, **`SlotOp`** — a slot with the handles made for it, and what is done to it.
* **`HandleSlot.Tidy`** — every handle that was made has been destroyed exactly once.
* **`alternates`** — handles are made and released in turn.
* **`HandleSlot.tidy_iff_alternates`** — operations leave a tidy slot exactly when they
  alternate. -/

namespace Foundations

/-- A slot. Handles are numbered in the order they are made. -/
structure HandleSlot where
  created : Nat := 0
  stored : List Nat := []
  destroyed : List Nat := []
  deriving DecidableEq, Repr

/-- What is done to a slot: some new handles are stored over those that are there, or what is stored
is destroyed and stays stored. -/
inductive SlotOp
  | make (count : Nat)
  | release
  deriving DecidableEq, Repr

/-- What a slot is used for: nothing yet, handles that live, or handles that were destroyed and are
still stored. -/
inductive SlotPhase
  | blank | live | retired
  deriving DecidableEq, Repr

/-- Handles are made in a slot without any that live, and released while they live. At the end none
lives. Releasing a slot that never had a handle does nothing. -/
def alternates : SlotPhase → List SlotOp → Bool
  | .live, [] => false
  | _, [] => true
  | .live, .make _ :: _ => false
  | _, .make _ :: ops => alternates .live ops
  | .blank, .release :: ops => alternates .blank ops
  | .live, .release :: ops => alternates .retired ops
  | .retired, .release :: _ => false

namespace HandleSlot

/-- One operation. Neither of the two looks at what is stored, or forgets it. -/
def apply (slot : HandleSlot) : SlotOp → HandleSlot
  | .make count =>
      { slot with
        created := slot.created + count
        stored := List.range' slot.created count }
  | .release => { slot with destroyed := slot.destroyed ++ slot.stored }

/-- Every handle that was made has been destroyed exactly once. -/
def Tidy (slot : HandleSlot) : Prop := ∀ n < slot.created, slot.destroyed.count n = 1

/-- **The ledger.** What was destroyed and what is held are together what was made. -/
def Balanced (slot : HandleSlot) (held : List Nat) : Prop :=
  (slot.destroyed ++ held).Perm (List.range slot.created)

/-- A handle was destroyed twice, or is lost: it lives, and the slot does not have it. -/
def Spoiled (slot : HandleSlot) : Prop :=
  (∃ n < slot.created, 2 ≤ slot.destroyed.count n) ∨
    ∃ n < slot.created, n ∉ slot.destroyed ∧ n ∉ slot.stored

variable {slot : HandleSlot} {held : List Nat} {n : Nat}

/-- What a balanced slot holds was made, and has not been destroyed. -/
theorem Balanced.of_mem (h : slot.Balanced held) (hn : n ∈ held) :
    n < slot.created ∧ n ∉ slot.destroyed := by
  refine ⟨List.mem_range.mp (h.mem_iff.mp (List.mem_append_right _ hn)), fun hdestroyed => ?_⟩
  have hnodup := h.nodup_iff.mpr List.nodup_range
  exact (List.nodup_append.mp hnodup).2.2 n hdestroyed n hn rfl

/-- A balanced slot that holds nothing is tidy: each handle that it made was destroyed exactly
once. -/
theorem Balanced.tidy (h : slot.Balanced []) : slot.Tidy := by
  intro n hn
  rw [Balanced, List.append_nil] at h
  rw [h.count_eq, List.nodup_range.count, if_pos (List.mem_range.mpr hn)]

/-- A balanced slot that holds something is not tidy, since that was not destroyed. -/
theorem Balanced.not_tidy (h : slot.Balanced held) (hheld : held ≠ []) : ¬ slot.Tidy := by
  intro htidy
  obtain ⟨n, hn⟩ := List.exists_mem_of_ne_nil held hheld
  obtain ⟨hlt, hdestroyed⟩ := h.of_mem hn
  have hone := htidy n hlt
  rw [List.count_eq_zero.mpr hdestroyed] at hone
  cases hone

/-- A slot that holds nothing and makes handles is balanced when it holds what it then stores. -/
theorem Balanced.make (h : slot.Balanced []) (count : Nat) :
    (slot.apply (.make count)).Balanced (slot.apply (.make count)).stored := by
  rw [Balanced, List.append_nil] at h
  have hrange : List.range (slot.created + count) =
      List.range slot.created ++ List.range' slot.created count := by
    simp [List.range_eq_range', ← List.range'_append_1]
  simp only [Balanced, apply, hrange]
  exact h.append_right _

/-- A balanced slot that holds what it stores holds nothing once that is released. -/
theorem Balanced.release (h : slot.Balanced slot.stored) :
    (slot.apply .release).Balanced [] := by
  simpa [Balanced, apply] using h

/-- A slot that lost a handle or destroyed one twice is in that state after every operation. -/
theorem Spoiled.apply (h : slot.Spoiled) (op : SlotOp) : (slot.apply op).Spoiled := by
  cases op with
  | make count =>
      refine h.imp ?_ ?_
      · rintro ⟨n, hn, htwice⟩
        exact ⟨n, Nat.lt_add_right count hn, htwice⟩
      · rintro ⟨n, hn, hdestroyed, -⟩
        refine ⟨n, Nat.lt_add_right count hn, hdestroyed, fun hmem => ?_⟩
        exact absurd (List.mem_range'_1.mp hmem).1 (Nat.not_le.mpr hn)
  | release =>
      refine h.imp ?_ ?_
      · rintro ⟨n, hn, htwice⟩
        refine ⟨n, hn, ?_⟩
        simp only [HandleSlot.apply, List.count_append]
        exact Nat.le_add_right_of_le htwice
      · rintro ⟨n, hn, hdestroyed, hstored⟩
        exact ⟨n, hn, by simp [HandleSlot.apply, hdestroyed, hstored], hstored⟩

/-- A slot that lost a handle or destroyed one twice is not tidy. -/
theorem Spoiled.not_tidy (h : slot.Spoiled) : ¬ slot.Tidy := by
  intro htidy
  rcases h with ⟨n, hn, htwice⟩ | ⟨n, hn, hdestroyed, -⟩
  · have hone := htidy n hn
    omega
  · have hone := htidy n hn
    rw [List.count_eq_zero.mpr hdestroyed] at hone
    cases hone

/-- Whatever is done to a slot that lost a handle or destroyed one twice, it is never tidy again. -/
theorem Spoiled.foldl (h : slot.Spoiled) (ops : List SlotOp) :
    ¬ (ops.foldl HandleSlot.apply slot).Tidy := by
  induction ops generalizing slot with
  | nil => exact h.not_tidy
  | cons op ops ih => exact ih (h.apply op)

/-- What a slot is in each phase: as it was made, balanced while it holds what it stores, or
balanced while it holds nothing and still stores what it destroyed. -/
def InPhase (slot : HandleSlot) : SlotPhase → Prop
  | .blank => slot = {}
  | .live => slot.Balanced slot.stored ∧ slot.stored ≠ []
  | .retired => slot.Balanced [] ∧ slot.stored ≠ [] ∧ ∀ n ∈ slot.stored, n < slot.created

/-- A new slot is balanced while it holds nothing. -/
theorem balanced_new : ({} : HandleSlot).Balanced [] := List.Perm.refl []

/-- Outside of the live phase a slot is balanced while it holds nothing. -/
theorem InPhase.balanced {phase : SlotPhase} (h : slot.InPhase phase) (hphase : phase ≠ .live) :
    slot.Balanced [] := by
  cases phase with
  | blank =>
      obtain rfl : slot = {} := h
      exact balanced_new
  | live => exact absurd rfl hphase
  | retired => exact h.1

/-- In a phase other than the live one, making at least one handle starts the live phase. -/
theorem InPhase.make {phase : SlotPhase} (h : slot.InPhase phase) (hphase : phase ≠ .live)
    {count : Nat} (hcount : 0 < count) : (slot.apply (.make count)).InPhase .live := by
  refine ⟨(h.balanced hphase).make count, ?_⟩
  simp [apply, Nat.ne_of_gt hcount]

/-- **Run lemma.** From each phase, operations leave a tidy slot exactly when they alternate. -/
theorem InPhase.tidy_iff_alternates {phase : SlotPhase} (h : slot.InPhase phase)
    {ops : List SlotOp} (hmakes : ∀ count, .make count ∈ ops → 0 < count) :
    (ops.foldl HandleSlot.apply slot).Tidy ↔ alternates phase ops = true := by
  induction ops generalizing slot phase with
  | nil =>
      cases phase with
      | live => exact iff_of_false (h.1.not_tidy h.2) (by simp [alternates])
      | blank | retired => exact iff_of_true (h.balanced (by simp)).tidy rfl
  | cons op ops ih =>
      have hrest : ∀ count, .make count ∈ ops → 0 < count := fun count hcount =>
        hmakes count (List.mem_cons_of_mem op hcount)
      rw [List.foldl_cons]
      cases op with
      | make count =>
          have hcount : 0 < count := hmakes count List.mem_cons_self
          cases phase with
          | blank | retired => exact ih (h.make (by simp) hcount) hrest
          | live =>
              -- the handles that were in the slot are lost
              refine iff_of_false (Spoiled.foldl (Or.inr ?_) ops) (by simp [alternates])
              obtain ⟨n, hn⟩ := List.exists_mem_of_ne_nil _ h.2
              obtain ⟨hlt, hdestroyed⟩ := h.1.of_mem hn
              refine ⟨n, Nat.lt_add_right count hlt, hdestroyed, fun hmem => ?_⟩
              exact absurd (List.mem_range'_1.mp hmem).1 (Nat.not_le.mpr hlt)
      | release =>
          cases phase with
          | blank =>
              obtain rfl : slot = {} := h
              have hblank : InPhase {} .blank := rfl
              exact ih hblank hrest
          | live =>
              have hretired : (slot.apply .release).InPhase .retired :=
                ⟨h.1.release, h.2, fun n hn => (h.1.of_mem hn).1⟩
              exact ih hretired hrest
          | retired =>
              -- they are destroyed a second time
              refine iff_of_false (Spoiled.foldl (Or.inl ?_) ops) (by simp [alternates])
              obtain ⟨n, hn⟩ := List.exists_mem_of_ne_nil _ h.2.1
              have hlt := h.2.2 n hn
              refine ⟨n, hlt, ?_⟩
              have hone := h.1.tidy n hlt
              have hstored : 0 < slot.stored.count n := List.count_pos_iff.mpr hn
              simp only [HandleSlot.apply, List.count_append]
              omega

/-- **Slots are tidy exactly when handles are made and released in turn.** -/
theorem tidy_iff_alternates {ops : List SlotOp} (hmakes : ∀ count, .make count ∈ ops → 0 < count) :
    (ops.foldl apply {}).Tidy ↔ alternates .blank ops = true := by
  have hblank : InPhase {} .blank := rfl
  exact hblank.tidy_iff_alternates hmakes

end HandleSlot

end Foundations
