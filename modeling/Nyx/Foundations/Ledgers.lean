import Mathlib.Data.List.Nodup
import Mathlib.Data.List.Perm.Basic
import Mathlib.Data.List.ReduceOption
import Mathlib.Tactic.Common

/-! # Ledgers

A ledger has what was made and what was destroyed, next to what something holds. What is neither
destroyed nor held is lost.

* **`Ledger`**, **`Ledger.make`**, **`Ledger.destroy`**.
* **`Ledger.Sound`** — nothing is destroyed twice, or destroyed and held.
* **`Ledger.Balanced`** — everything that was made was destroyed once, or is held.
* **`Ledger.Sound.balanced_make_iff`**, **`Ledger.balanced_destroy_iff`** — what keeps a ledger
  balanced.
* **`placeFrom`**, **`subset_placeFrom_iff`** — numbers that are put in places of a table, and when
  all of them stay there. -/

namespace Foundations

universe u

/-- A ledger of everything that was made, and everything that was destroyed, each as often as that
happened. -/
structure Ledger (α : Type u) where
  made : List α := []
  destroyed : List α := []
  deriving DecidableEq, Repr

namespace Ledger

variable {α : Type u}

/-- Enter new things into the ledger as made. -/
def make (ledger : Ledger α) (new : List α) : Ledger α :=
  { ledger with made := ledger.made ++ new }

/-- Enter things into the ledger as destroyed, whether they were before or not. -/
def destroy (ledger : Ledger α) (old : List α) : Ledger α :=
  { ledger with destroyed := ledger.destroyed ++ old }

/-- What is destroyed or held was made. Nothing is destroyed twice, or destroyed and held. -/
structure Sound (ledger : Ledger α) (held : List α) : Prop where
  made : ledger.made.Nodup
  nodup : (ledger.destroyed ++ held).Nodup
  mem : ∀ x ∈ ledger.destroyed ++ held, x ∈ ledger.made

/-- **Everything that was made was destroyed once, or is held.** -/
def Balanced (ledger : Ledger α) (held : List α) : Prop :=
  (ledger.destroyed ++ held).Perm ledger.made

/-- Whether a ledger is balanced can be decided by comparing the two sides entry by entry. -/
instance decidableBalanced [DecidableEq α] (ledger : Ledger α) (held : List α) :
    Decidable (ledger.Balanced held) :=
  inferInstanceAs (Decidable ((ledger.destroyed ++ held).Perm ledger.made))

variable {ledger : Ledger α} {held held' new : List α}

/-- A ledger in which nothing was made or destroyed is sound while nothing is held. -/
theorem sound_new : ({} : Ledger α).Sound [] :=
  ⟨List.nodup_nil, List.nodup_nil, fun _ hmem => hmem⟩

/-- A sound ledger is balanced exactly when nothing is lost: what was made was destroyed or is
held. -/
theorem Sound.balanced_iff_mem (h : ledger.Sound held) :
    ledger.Balanced held ↔ ∀ x ∈ ledger.made, x ∈ ledger.destroyed ++ held := by
  rw [Balanced, List.perm_ext_iff_of_nodup h.nodup h.made]
  exact forall_congr' fun x => ⟨Iff.mpr, fun hmade => ⟨h.mem x, hmade⟩⟩

/-- New things are made, and from then on only some of the old and the new ones are held. -/
theorem Sound.make (h : ledger.Sound held) (hnew : new.Nodup) (hfresh : ∀ x ∈ new, x ∉ ledger.made)
    (hnodup : held'.Nodup) (hheld : ∀ x ∈ held', x ∈ held ∨ x ∈ new) :
    (ledger.make new).Sound held' where
  made := List.nodup_append.mpr ⟨h.made, hnew, fun x hx y hy hxy => hfresh y hy (hxy ▸ hx)⟩
  nodup := by
    refine List.nodup_append.mpr ⟨(List.nodup_append.mp h.nodup).1, hnodup, ?_⟩
    rintro x hx y hy rfl
    rcases hheld x hy with hold | hfirst
    · exact (List.nodup_append.mp h.nodup).2.2 x hx x hold rfl
    · exact hfresh x hfirst (h.mem x (List.mem_append_left _ hx))
  mem x hx := by
    rcases List.mem_append.mp hx with hx | hx
    · exact List.mem_append_left _ (h.mem x (List.mem_append_left _ hx))
    · rcases hheld x hx with hold | hfirst
      · exact List.mem_append_left _ (h.mem x (List.mem_append_right _ hold))
      · exact List.mem_append_right _ hfirst

/-- When all that is held is destroyed the ledger stays sound, with nothing held. -/
theorem Sound.destroy (h : ledger.Sound held) : (ledger.destroy held).Sound [] where
  made := h.made
  nodup := by simpa [Ledger.destroy] using h.nodup
  mem x hx := h.mem x (by simpa [Ledger.destroy] using hx)

/-- When all that is held is destroyed, the ledger is balanced afterwards exactly when it was
before. -/
theorem balanced_destroy_iff : (ledger.destroy held).Balanced [] ↔ ledger.Balanced held := by
  simp [Balanced, destroy]

/-- **Making keeps the balance exactly when everything old and everything new is held.** -/
theorem Sound.balanced_make_iff (h : ledger.Sound held) (hnew : new.Nodup)
    (hfresh : ∀ x ∈ new, x ∉ ledger.made) (hnodup : held'.Nodup)
    (hheld : ∀ x ∈ held', x ∈ held ∨ x ∈ new) :
    (ledger.make new).Balanced held' ↔
      ledger.Balanced held ∧ (∀ x ∈ held, x ∈ held') ∧ ∀ x ∈ new, x ∈ held' := by
  rw [(h.make hnew hfresh hnodup hheld).balanced_iff_mem, h.balanced_iff_mem]
  simp only [Ledger.make, List.mem_append]
  constructor
  · intro hall
    refine ⟨fun x hx => ?_, fun x hx => ?_, fun x hx => ?_⟩
    · refine (hall x (Or.inl hx)).imp_right fun hkept => ?_
      exact (hheld x hkept).resolve_right fun hfirst => hfresh x hfirst hx
    · have hmade := h.mem x (List.mem_append_right _ hx)
      refine (hall x (Or.inl hmade)).resolve_left fun hdestroyed => ?_
      exact (List.nodup_append.mp h.nodup).2.2 x hdestroyed x hx rfl
    · refine (hall x (Or.inr hx)).resolve_left fun hdestroyed => ?_
      exact hfresh x hx (h.mem x (List.mem_append_left _ hdestroyed))
  · rintro ⟨hold, hkept, hfirst⟩ x (hx | hx)
    · exact (hold x hx).imp_right (hkept x)
    · exact Or.inr (hfirst x hx)

/-- When only new things are held from then on, nothing old may have been held. -/
theorem Sound.balanced_renew_iff (h : ledger.Sound held) (hnew : new.Nodup)
    (hfresh : ∀ x ∈ new, x ∉ ledger.made) (hnodup : held'.Nodup) (hheld : ∀ x ∈ held', x ∈ new) :
    (ledger.make new).Balanced held' ↔
      ledger.Balanced held ∧ held = [] ∧ ∀ x ∈ new, x ∈ held' := by
  rw [h.balanced_make_iff hnew hfresh hnodup fun x hx => Or.inr (hheld x hx)]
  have hold : (∀ x ∈ held, x ∈ held') ↔ held = [] := by
    rw [List.eq_nil_iff_forall_not_mem]
    refine forall₂_congr fun x hx => iff_false_intro fun hkept => ?_
    exact hfresh x (hheld x hkept) (h.mem x (List.mem_append_right _ hx))
  rw [hold]

/-- When all that is new is held from then on, and nothing else, the ledger stays sound, and balanced
exactly when nothing old was held. -/
theorem Sound.renew (h : ledger.Sound held) (hnew : new.Nodup)
    (hfresh : ∀ x ∈ new, x ∉ ledger.made) :
    (ledger.make new).Sound new ∧
      ((ledger.make new).Balanced new ↔ ledger.Balanced held ∧ held = []) := by
  refine ⟨h.make hnew hfresh hnew fun _ hx => Or.inr hx, ?_⟩
  rw [h.balanced_renew_iff hnew hfresh hnew fun _ hx => hx]
  simp

end Ledger

/-! ## Numbers in places -/

/-- Numbers from `next` on are put in places of a table, one after another. -/
def placeFrom : List (Option Nat) → Nat → List Nat → List (Option Nat)
  | table, _, [] => table
  | table, next, place :: places => placeFrom (table.set place (some next)) (next + 1) places

variable {table : List (Option Nat)} {next n place : Nat} {places : List Nat}

/-- The table keeps its length, whatever is put in its places. -/
@[simp] theorem length_placeFrom :
    (placeFrom table next places).length = table.length := by
  induction places generalizing table next with
  | nil => rfl
  | cons place places ih => rw [placeFrom, ih, List.length_set]

/-- Numbers are put in some places and then in more: the second ones go on with the next number, in
the table that the first ones left. -/
theorem placeFrom_append (more : List Nat) :
    placeFrom table next (places ++ more) =
      placeFrom (placeFrom table next places) (next + places.length) more := by
  induction places generalizing table next with
  | nil => rfl
  | cons place places ih =>
      rw [List.cons_append, placeFrom, ih, placeFrom, List.length_cons, Nat.add_right_comm,
        Nat.add_assoc]

/-- When the next number is put in a place of a table, all of its numbers are below the one after
that. -/
theorem lt_of_mem_set (hlt : ∀ n ∈ table.reduceOption, n < next) (place : Nat) :
    ∀ n ∈ (table.set place (some next)).reduceOption, n < next + 1 := by
  intro n hn
  rw [List.reduceOption_mem_iff] at hn
  rcases List.mem_or_eq_of_mem_set hn with hold | hnext
  · exact Nat.lt_succ_of_lt (hlt n (List.reduceOption_mem_iff.mpr hold))
  · exact Option.some.inj hnext ▸ Nat.lt_succ_self next

/-- A number from before is still in the table exactly when it was in a place that is not set. -/
theorem mem_placeFrom_iff_of_lt (hn : n < next) :
    n ∈ (placeFrom table next places).reduceOption ↔
      ∃ place, place ∉ places ∧ table[place]? = some (some n) := by
  induction places generalizing table next with
  | nil =>
      rw [placeFrom, List.reduceOption_mem_iff, List.mem_iff_getElem?]
      simp
  | cons place places ih =>
      rw [placeFrom, ih (Nat.lt_succ_of_lt hn)]
      refine exists_congr fun other => ?_
      -- the place that is set holds the next number
      by_cases hsame : place = other
      · subst hsame
        simp only [List.getElem?_set, if_true, List.mem_cons, true_or, not_true_eq_false,
          false_and, iff_false, not_and]
        intro _
        split
        · simp [Nat.ne_of_gt hn]
        · simp
      · rw [List.getElem?_set_ne hsame]
        simp [Ne.symm hsame]

/-- The numbers of the table are among those from before and those that were put in places. -/
theorem mem_or_of_mem_placeFrom (h : n ∈ (placeFrom table next places).reduceOption) :
    n ∈ table.reduceOption ∨ n ∈ List.range' next places.length := by
  induction places generalizing table next with
  | nil => exact Or.inl h
  | cons place places ih =>
      rw [List.length_cons, List.range'_succ, List.mem_cons]
      rcases ih h with hold | hput
      · rw [List.reduceOption_mem_iff] at hold ⊢
        rcases List.mem_or_eq_of_mem_set hold with hold | hnext
        · exact Or.inl hold
        · exact Or.inr (Or.inl (Option.some.inj hnext))
      · exact Or.inr (Or.inr hput)

/-- When no number is in the table twice, none is after numbers were put in places, which are all
new. -/
theorem nodup_placeFrom (h : table.reduceOption.Nodup) (hlt : ∀ n ∈ table.reduceOption, n < next) :
    (placeFrom table next places).reduceOption.Nodup := by
  induction places generalizing table next with
  | nil => exact h
  | cons place places ih =>
      refine ih ?_ (lt_of_mem_set hlt place)
      rw [List.set_eq_take_append_cons_drop]
      split
      · -- the numbers around the place are among those from before
        have hsublist : (table.take place ++ table.drop (place + 1)).Sublist table := by
          conv_rhs => rw [← List.take_append_drop place table]
          exact (List.Sublist.refl _).append (List.drop_sublist_drop_left _ (Nat.le_succ _))
        have hothers := hsublist.filterMap id
        have hfresh : next ∉ (table.take place ++ table.drop (place + 1)).reduceOption :=
          fun hmem => Nat.lt_irrefl _ (hlt next (hothers.subset hmem))
        have hnodup : (next :: (table.take place ++ table.drop (place + 1)).reduceOption).Nodup :=
          List.nodup_cons.mpr ⟨hfresh, h.sublist hothers⟩
        rw [List.reduceOption_append] at hnodup
        rw [List.reduceOption_append, List.reduceOption_cons_of_some]
        exact (List.perm_middle.nodup_iff).mpr hnodup
      · exact h

/-- **All numbers that are put stay in the table exactly when no place is used twice.** -/
theorem subset_placeFrom_iff (hlt : ∀ n ∈ table.reduceOption, n < next)
    (hplaces : ∀ place ∈ places, place < table.length) :
    (∀ n ∈ List.range' next places.length, n ∈ (placeFrom table next places).reduceOption) ↔
      places.Nodup := by
  induction places generalizing table next with
  | nil => simp
  | cons place places ih =>
      have hplace : place < table.length := hplaces place List.mem_cons_self
      have hnext : next ∈ (placeFrom table next (place :: places)).reduceOption ↔
          place ∉ places := by
        rw [placeFrom, mem_placeFrom_iff_of_lt (Nat.lt_succ_self next)]
        constructor
        · rintro ⟨other, hother, hentry⟩
          by_cases hsame : place = other
          · exact hsame ▸ hother
          · rw [List.getElem?_set_ne hsame] at hentry
            have hmem := List.reduceOption_mem_iff.mpr (List.mem_of_getElem? hentry)
            exact absurd (hlt next hmem) (Nat.lt_irrefl next)
        · intro hother
          exact ⟨place, hother, List.getElem?_set_self hplace⟩
      rw [List.length_cons, List.range'_succ, List.forall_mem_cons, hnext, List.nodup_cons]
      refine and_congr_right fun _ => ih (lt_of_mem_set hlt place) fun other hother => ?_
      rw [List.length_set]
      exact hplaces other (List.mem_cons_of_mem place hother)

end Foundations
