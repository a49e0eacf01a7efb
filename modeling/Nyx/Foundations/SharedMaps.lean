import Mathlib.Data.List.Nodup
import Mathlib.Logic.Function.Basic
import Nyx.Foundations.Multimaps

/-! # Maps that are shared by owners

Several owners share a multimap, and insert under a key only when nothing is there. Each keeps
iterators to the nodes it inserted, and may keep them when the nodes are erased. Such a map is a
partial function from keys to owners and values:

* **`HoldsEntries`** — the nodes and the iterators of the owners hold the entries of a partial
  function.
* **`HoldsEntries.find_isNone_iff`** — a search that fails.
* **`HoldsEntries.insert`** — an insertion under a free key.
* **`HoldsEntries.release`** — all nodes of an owner erased.
* **`HoldsEntries.range_values`**, **`HoldsEntries.increasing`** — what a walk over a key meets, and
  the order of a walk over the map. -/

namespace Foundations

universe u v w x

open Std

variable {κ : Type u} {α : Type v} {β : Type w} {ι : Type x} [Ord κ]

/-- **The entries of a shared map.** Each node is the entry of its key: it belongs to the owner that
has an iterator to it. The nodes, and all iterators, are named by numbers below the next one. -/
structure HoldsEntries (next : Nat) (map : Multimap κ α) (value : α → β)
    (iterators : ι → List Nat) (entries : κ → Option (ι × β)) : Prop where
  entry : ∀ node ∈ map.nodes, ∃ owner, entries node.key = some (owner, value node.value) ∧
    ∀ other, node.id ∈ iterators other ↔ other = owner
  taken : ∀ k entry, entries k = some entry → ∃ node ∈ map.nodes, node.key = k
  single : (map.nodes.map Node.key).Nodup
  bounded : ∀ node ∈ map.nodes, node.id < next
  known : ∀ owner, ∀ id ∈ iterators owner, id < next

namespace HoldsEntries

variable {next : Nat} {map map' : Multimap κ α} {value : α → β} {iterators : ι → List Nat}
  {entries : κ → Option (ι × β)}

/-- An empty map holds no entries, for owners that have no iterators. -/
theorem empty : HoldsEntries 0 {} value (fun _ : ι => []) fun _ : κ => none where
  entry _ hnode := absurd hnode List.not_mem_nil
  taken _ _ hentry := absurd hentry (Option.some_ne_none _).symm
  single := List.nodup_nil
  bounded _ hnode := absurd hnode List.not_mem_nil
  known _ _ hid := absurd hid List.not_mem_nil

/-- The map still holds its entries when names are given to nodes of other maps in between. -/
theorem mono {next' : Nat} (h : HoldsEntries next map value iterators entries)
    (hle : next ≤ next') : HoldsEntries next' map value iterators entries where
  entry := h.entry
  taken := h.taken
  single := h.single
  bounded node hnode := Nat.lt_of_lt_of_le (h.bounded node hnode) hle
  known owner id hid := Nat.lt_of_lt_of_le (h.known owner id hid) hle

/-- A key is free exactly when no node of the map has it. -/
theorem eq_none_iff (h : HoldsEntries next map value iterators entries) (k : κ) :
    entries k = none ↔ ∀ node ∈ map.nodes, node.key ≠ k := by
  constructor
  · rintro hnone node hnode rfl
    obtain ⟨owner, hentry, -⟩ := h.entry node hnode
    rw [hnone] at hentry
    exact absurd hentry (Option.some_ne_none _).symm
  · intro hfree
    rw [Option.eq_none_iff_forall_ne_some]
    intro entry hentry
    obtain ⟨node, hnode, hkey⟩ := h.taken k entry hentry
    exact hfree node hnode hkey

/-- The entry of a key whose node an owner has an iterator to is that of this owner, with the value
of the node. -/
theorem entry_of_mem (h : HoldsEntries next map value iterators entries) {owner : ι}
    {node : Node κ α} (hnode : node ∈ map.nodes) (hid : node.id ∈ iterators owner) :
    entries node.key = some (owner, value node.value) := by
  obtain ⟨only, hentry, howner⟩ := h.entry node hnode
  rw [(howner owner).mp hid, hentry]

/-- The next name that is given to a node is among the iterators of no owner. -/
theorem next_not_mem (h : HoldsEntries next map value iterators entries) (owner : ι) :
    next ∉ iterators owner := by
  intro hmem
  exact Nat.lt_irrefl next (h.known owner next hmem)

/-- **All nodes of an owner are erased.** Its entries are gone and all others stay; the owner may
keep its iterators, which refer to nothing then. -/
theorem release [DecidableEq ι] (h : HoldsEntries next map value iterators entries) {owner : ι}
    (hnodes : map'.nodes = map.nodes.filter (·.id ∉ iterators owner)) :
    HoldsEntries next map' value iterators fun k => (entries k).filter (·.1 ≠ owner) := by
  have hmem : ∀ node, node ∈ map'.nodes ↔ node ∈ map.nodes ∧ node.id ∉ iterators owner := by
    intro node
    rw [hnodes, List.mem_filter, decide_eq_true_eq]
  constructor
  · intro node hnode
    obtain ⟨hold, hkept⟩ := (hmem node).mp hnode
    obtain ⟨only, hentry, howner⟩ := h.entry node hold
    have hne : only ≠ owner := by
      rintro rfl
      exact hkept ((howner only).mpr rfl)
    exact ⟨only, by simp [hentry, hne], howner⟩
  · intro k entry hentry
    obtain ⟨hold, hne⟩ := Option.filter_eq_some_iff.mp hentry
    obtain ⟨node, hnode, rfl⟩ := h.taken k entry hold
    obtain ⟨only, honly, howner⟩ := h.entry node hnode
    have heq : entry.1 = only := by
      rw [hold, Option.some.injEq] at honly
      rw [honly]
    refine ⟨node, (hmem node).mpr ⟨hnode, fun hown => ?_⟩, rfl⟩
    rw [← heq] at howner
    exact (of_decide_eq_true hne) ((howner owner).mp hown).symm
  · rw [hnodes]
    exact h.single.sublist (List.filter_sublist.map _)
  · intro node hnode
    exact h.bounded node ((hmem node).mp hnode).1
  · exact h.known

/-- An owner that has no entries may forget its iterators, and the map holds the same entries. -/
theorem forget [DecidableEq ι] (h : HoldsEntries next map value iterators entries) {owner : ι}
    (hnone : ∀ k entry, entries k = some entry → entry.1 ≠ owner) :
    HoldsEntries next map value (Function.update iterators owner []) entries where
  entry node hnode := by
    obtain ⟨only, hentry, howner⟩ := h.entry node hnode
    have hne : owner ≠ only := (hnone node.key _ hentry).symm
    refine ⟨only, hentry, fun other => ?_⟩
    by_cases heq : other = owner
    · subst heq
      simp [hne]
    · rw [Function.update_of_ne heq]
      exact howner other
  taken := h.taken
  single := h.single
  bounded := h.bounded
  known other id hid := by
    by_cases heq : other = owner
    · rw [heq, Function.update_self] at hid
      exact absurd hid List.not_mem_nil
    · rw [Function.update_of_ne heq] at hid
      exact h.known other id hid

/-- A walk over the map meets strictly increasing keys, since each key has one node at most. -/
theorem increasing [LawfulEqOrd κ] (h : HoldsEntries next map value iterators entries) :
    map.nodes.Pairwise fun node other => compare node.key other.key = .lt := by
  have hdistinct : map.nodes.Pairwise fun node other => node.key ≠ other.key :=
    List.pairwise_map.mp h.single
  refine map.sorted.imp₂ ?_ hdistinct
  intro node other hle hne
  cases hcompare : compare node.key other.key with
  | lt => rfl
  | eq => exact absurd (compare_eq_iff_eq.mp hcompare) hne
  | gt => simp [hcompare] at hle

variable [TransOrd κ] [DecidableEq κ]

/-- **An insertion under a free key**, for an owner who remembers it. -/
theorem insert [DecidableEq ι] (h : HoldsEntries next map value iterators entries) (owner : ι)
    {k : κ} (hfree : entries k = none) (stored : α) :
    HoldsEntries (next + 1) (map.insert ⟨next, k, stored⟩) value
      (Function.update iterators owner (iterators owner ++ [next]))
      (Function.update entries k (some (owner, value stored))) := by
  have hperm := map.perm_insert ⟨next, k, stored⟩
  have hkey := (h.eq_none_iff k).mp hfree
  constructor
  · intro node hnode
    rcases List.mem_cons.mp (hperm.subset hnode) with rfl | hold
    · refine ⟨owner, Function.update_self .., fun other => ?_⟩
      by_cases heq : other = owner
      · subst heq
        simp
      · rw [Function.update_of_ne heq]
        exact iff_of_false (h.next_not_mem other) heq
    · -- an older node keeps its entry and its owner
      obtain ⟨only, hentry, howner⟩ := h.entry node hold
      have hne : node.id ≠ next := Nat.ne_of_lt (h.bounded node hold)
      refine ⟨only, by rw [Function.update_of_ne (hkey node hold), hentry], fun other => ?_⟩
      rw [← howner other]
      by_cases heq : other = owner
      · subst heq
        simp [hne]
      · rw [Function.update_of_ne heq]
  · intro other entry hentry
    by_cases heq : other = k
    · exact ⟨_, hperm.symm.subset List.mem_cons_self, heq.symm⟩
    · rw [Function.update_of_ne heq] at hentry
      obtain ⟨node, hnode, hnodeKey⟩ := h.taken other entry hentry
      exact ⟨node, hperm.symm.subset (List.mem_cons_of_mem _ hnode), hnodeKey⟩
  · rw [(hperm.map Node.key).nodup_iff, List.map_cons, List.nodup_cons]
    refine ⟨fun hmem => ?_, h.single⟩
    obtain ⟨node, hnode, heq⟩ := List.mem_map.mp hmem
    exact hkey node hnode heq
  · intro node hnode
    rcases List.mem_cons.mp (hperm.subset hnode) with rfl | hold
    · exact Nat.lt_succ_self next
    · exact Nat.lt_succ_of_lt (h.bounded node hold)
  · intro other id hid
    by_cases heq : other = owner
    · subst heq
      rw [Function.update_self] at hid
      rcases List.mem_append.mp hid with hold | hlast
      · exact Nat.lt_succ_of_lt (h.known other id hold)
      · rw [List.mem_singleton.mp hlast]
        exact Nat.lt_succ_self next
    · rw [Function.update_of_ne heq] at hid
      exact Nat.lt_succ_of_lt (h.known other id hid)

variable [LawfulEqOrd κ]

/-- **A search fails** exactly when the key has no entry. -/
theorem find_isNone_iff (h : HoldsEntries next map value iterators entries) (k : κ) :
    (map.find k).isNone = true ↔ entries k = none := by
  rw [Option.isNone_iff_eq_none, Multimap.find_eq_none_iff, Multimap.range_eq,
    List.filter_eq_nil_iff, h.eq_none_iff]
  simp only [decide_eq_true_eq]

/-- **A walk over the nodes of a key** meets the value of its entry, and nothing when it has
none. -/
theorem range_values (h : HoldsEntries next map value iterators entries) (k : κ) :
    (map.range k).map (fun node => value node.value) = (entries k).toList.map Prod.snd := by
  rw [Multimap.range_eq]
  cases hentry : entries k with
  | none =>
      have hnone : map.nodes.filter (fun node => node.key = k) = [] := by
        rw [List.filter_eq_nil_iff]
        intro node hnode heq
        exact (h.eq_none_iff k).mp hentry node hnode (of_decide_eq_true heq)
      rw [hnone]
      rfl
  | some entry =>
      obtain ⟨node, hnode, hkey⟩ := h.taken k entry hentry
      have hothers : ∀ other ∈ map.nodes, other.key = k → other = node := by
        intro other hother heq
        exact List.inj_on_of_nodup_map h.single hother hnode (heq.trans hkey.symm)
      have hfilter : map.nodes.filter (fun node => node.key = k) = [node] := by
        have hnodup : (map.nodes.filter (fun node => node.key = k)).Nodup :=
          h.single.of_map.filter _
        refine List.perm_singleton.mp ((List.perm_ext_iff_of_nodup hnodup
          (List.nodup_singleton node)).mpr fun other => ?_)
        rw [List.mem_filter, decide_eq_true_eq, List.mem_singleton]
        constructor
        · rintro ⟨hother, heq⟩
          exact hothers other hother heq
        · rintro rfl
          exact ⟨hnode, hkey⟩
      obtain ⟨owner, howner, -⟩ := h.entry node hnode
      rw [hkey, hentry, Option.some.injEq] at howner
      simp [hfilter, howner]

end HoldsEntries

end Foundations
