import Mathlib.Data.List.Nodup
import Mathlib.Logic.Function.Basic
import Nyx.Foundations.Multimaps

/-! # Owners of the nodes of a multimap

Several owners share a multimap: each keeps iterators to the nodes it inserted, and erases these
when it goes. This file has what it means that the owners and the map are in step, and the two
changes that keep them so:

* **`Owned map iterators`** — each node is referred to by one iterator of one owner, and each
  iterator refers to a node.
* **`Owned.insert`** — a node inserted for an owner.
* **`Owned.release`** — all nodes of an owner erased, and its iterators forgotten. -/

namespace Foundations

universe u v w

open Std

variable {κ : Type u} {α : Type v} {ι : Type w} [Ord κ]

/-- **In step.** Every node is referred to by exactly one iterator of exactly one owner, and every
iterator refers to a node. -/
structure Owned (map : Multimap κ α) (iterators : ι → List Nat) : Prop where
  referenced : ∀ node ∈ map.nodes, ∃ owner, (iterators owner).count node.id = 1 ∧
    ∀ other, other ≠ owner → node.id ∉ iterators other
  existing : ∀ owner, ∀ id ∈ iterators owner, ∃ node ∈ map.nodes, node.id = id

namespace Owned

variable {map map' : Multimap κ α} {iterators : ι → List Nat}

/-- An empty map is owned when no owner has an iterator. -/
theorem empty : Owned ({} : Multimap κ α) fun _ : ι => [] where
  referenced _ hnode := absurd hnode List.not_mem_nil
  existing _ _ hid := absurd hid List.not_mem_nil

/-- A node that one owner has an iterator to is referred to by no other owner. -/
theorem owner_eq (h : Owned map iterators) {owner other : ι} {id : Nat}
    (howner : id ∈ iterators owner) (hother : id ∈ iterators other) : owner = other := by
  obtain ⟨node, hnode, rfl⟩ := h.existing owner id howner
  obtain ⟨only, -, hnone⟩ := h.referenced node hnode
  by_contra hne
  by_cases heq : owner = only
  · exact hnone other (by rintro rfl; exact hne heq) hother
  · exact hnone owner heq howner

/-- No owner has two iterators to the same node. -/
theorem nodup (h : Owned map iterators) (owner : ι) : (iterators owner).Nodup := by
  rw [List.nodup_iff_count]
  intro id
  by_cases hid : id ∈ iterators owner
  · obtain ⟨node, hnode, rfl⟩ := h.existing owner id hid
    obtain ⟨only, hcount, hnone⟩ := h.referenced node hnode
    have heq : owner = only := by
      by_contra hne
      exact hnone owner hne hid
    rw [heq]
    exact Nat.le_of_eq hcount
  · rw [List.count_eq_zero_of_not_mem hid]
    exact Nat.zero_le 1

/-- A name that no node of the map has is among the iterators of no owner. -/
theorem not_mem_of_fresh (h : Owned map iterators) {id : Nat}
    (hfresh : ∀ node ∈ map.nodes, node.id ≠ id) (owner : ι) : id ∉ iterators owner := by
  intro hid
  obtain ⟨node, hnode, heq⟩ := h.existing owner id hid
  exact hfresh node hnode heq

variable [DecidableEq ι]

/-- **A node is inserted for an owner**, who remembers an iterator to it: the map is still owned. -/
theorem insert [TransOrd κ] (h : Owned map iterators) {node : Node κ α}
    (hfresh : ∀ other ∈ map.nodes, other.id ≠ node.id) (owner : ι) :
    Owned (map.insert node)
      (Function.update iterators owner (iterators owner ++ [node.id])) := by
  have hperm := map.perm_insert node
  have hnew := h.not_mem_of_fresh hfresh
  constructor
  · intro entry hentry
    rcases List.mem_cons.mp (hperm.subset hentry) with rfl | hold
    · refine ⟨owner, ?_, fun other hne => ?_⟩
      · rw [Function.update_self, List.count_append, List.count_eq_zero_of_not_mem (hnew owner)]
        simp
      · rw [Function.update_of_ne hne]
        exact hnew other
    · -- an older node keeps its owner
      have hne : entry.id ≠ node.id := hfresh entry hold
      obtain ⟨only, hcount, hnone⟩ := h.referenced entry hold
      refine ⟨only, ?_, fun other hother => ?_⟩
      · by_cases heq : only = owner
        · subst heq
          rw [Function.update_self, List.count_append, hcount]
          simp [hne.symm]
        · rwa [Function.update_of_ne heq]
      · by_cases heq : other = owner
        · subst heq
          rw [Function.update_self]
          simpa [hne] using hnone other hother
        · rw [Function.update_of_ne heq]
          exact hnone other hother
  · intro other id hid
    by_cases heq : other = owner
    · subst heq
      rw [Function.update_self] at hid
      rcases List.mem_append.mp hid with hold | hlast
      · obtain ⟨entry, hentry, hentryId⟩ := h.existing other id hold
        exact ⟨entry, hperm.symm.subset (List.mem_cons_of_mem _ hentry), hentryId⟩
      · exact ⟨node, hperm.symm.subset List.mem_cons_self, (List.mem_singleton.mp hlast).symm⟩
    · rw [Function.update_of_ne heq] at hid
      obtain ⟨entry, hentry, hentryId⟩ := h.existing other id hid
      exact ⟨entry, hperm.symm.subset (List.mem_cons_of_mem _ hentry), hentryId⟩

/-- **All nodes of an owner are erased**, and it forgets its iterators: the map is still owned. -/
theorem release (h : Owned map iterators) {owner : ι}
    (hnodes : map'.nodes = map.nodes.filter (·.id ∉ iterators owner)) :
    Owned map' (Function.update iterators owner []) := by
  have hmem : ∀ node, node ∈ map'.nodes ↔ node ∈ map.nodes ∧ node.id ∉ iterators owner := by
    intro node
    rw [hnodes, List.mem_filter, decide_eq_true_eq]
  constructor
  · intro node hnode
    obtain ⟨hold, hkept⟩ := (hmem node).mp hnode
    obtain ⟨only, hcount, hnone⟩ := h.referenced node hold
    have hne : only ≠ owner := by
      rintro rfl
      exact hkept (List.count_pos_iff.mp (by omega))
    refine ⟨only, by rwa [Function.update_of_ne hne], fun other hother => ?_⟩
    by_cases heq : other = owner
    · rw [heq, Function.update_self]
      exact List.not_mem_nil
    · rw [Function.update_of_ne heq]
      exact hnone other hother
  · intro other id hid
    by_cases heq : other = owner
    · rw [heq, Function.update_self] at hid
      exact absurd hid List.not_mem_nil
    · rw [Function.update_of_ne heq] at hid
      obtain ⟨node, hnode, rfl⟩ := h.existing other id hid
      exact ⟨node, (hmem node).mpr ⟨hnode, fun hown => heq (h.owner_eq hid hown)⟩, rfl⟩

end Owned

end Foundations
