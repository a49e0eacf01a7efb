import Mathlib.Data.List.Basic
import Mathlib.Tactic.Common

/-! # Ordered multimaps

A multimap of a standard library keeps its entries sorted by key, entries of one key in the order of
their insertion, and each entry in a node that iterators refer to. This file has the operations and
what they do to the entries of one key:

* **`Multimap`** — sorted nodes.
* **`Multimap.insert`**, **`Multimap.erase`**, **`Multimap.range`**, **`Multimap.find`** — the
  operations, `range` as the walk from the lower to the upper bound of a key.
* **`Multimap.range_eq`** — the walk meets exactly the entries of the key.
* **`Multimap.range_insert`**, **`Multimap.perm_insert`** — what an insertion adds. -/

namespace Foundations

universe u v

open Std

/-- An entry of the map, with the name of its node, which iterators refer to. -/
structure Node (κ : Type u) (α : Type v) where
  id : Nat
  key : κ
  value : α
  deriving DecidableEq, Repr

/-! ## Prefixes of sorted lists -/

section Prefixes

variable {α : Type u} {p : α → Bool} {xs : List α}

/-- When what satisfies `p` comes first, the longest prefix that does is all of it. -/
theorem takeWhile_eq_filter (h : xs.Pairwise fun x y => p y = true → p x = true) :
    xs.takeWhile p = xs.filter p := by
  induction xs with
  | nil => rfl
  | cons x xs ih =>
      obtain ⟨hhead, htail⟩ := List.pairwise_cons.mp h
      cases hx : p x with
      | true => rw [List.takeWhile_cons_of_pos hx, List.filter_cons_of_pos hx, ih htail]
      | false =>
          -- nothing behind `x` satisfies `p` either
          have hnone : xs.filter p = [] := List.filter_eq_nil_iff.mpr fun y hy hpy =>
            Bool.false_ne_true (hx.symm.trans (hhead y hy hpy))
          have hneg : ¬ p x = true := by simp [hx]
          rw [List.takeWhile_cons_of_neg hneg, List.filter_cons_of_neg hneg, hnone]

/-- In a list in which the property stays false once it is, what follows the longest prefix with the
property are the entries without it. -/
theorem dropWhile_eq_filter (h : xs.Pairwise fun x y => p y = true → p x = true) :
    xs.dropWhile p = xs.filter fun x => !p x := by
  induction xs with
  | nil => rfl
  | cons x xs ih =>
      obtain ⟨hhead, htail⟩ := List.pairwise_cons.mp h
      cases hx : p x with
      | true =>
          rw [List.dropWhile_cons_of_pos hx, List.filter_cons_of_neg (by simp [hx]), ih htail]
      | false =>
          have hall : xs.filter (fun x => !p x) = xs := List.filter_eq_self.mpr fun y hy => by
            cases hy' : p y with
            | true => exact absurd (hhead y hy hy') (by simp [hx])
            | false => rfl
          rw [List.dropWhile_cons_of_neg (by simp [hx]), List.filter_cons_of_pos (by simp [hx]),
            hall]

end Prefixes

/-- Nodes with distinct names are, up to order, one of them and those with other names. -/
theorem perm_cons_filter_id {κ : Type u} {α : Type v} {nodes : List (Node κ α)} {node : Node κ α}
    (hdistinct : (nodes.map Node.id).Nodup) (hnode : node ∈ nodes) :
    nodes.Perm (node :: nodes.filter (·.id ≠ node.id)) := by
  induction nodes with
  | nil => exact absurd hnode List.not_mem_nil
  | cons x xs ih =>
      obtain ⟨hx, hxs⟩ := List.nodup_cons.mp hdistinct
      rcases List.mem_cons.mp hnode with rfl | htail
      · have hall : xs.filter (·.id ≠ node.id) = xs := List.filter_eq_self.mpr fun y hy => by
          simpa using fun heq : y.id = node.id => hx (heq ▸ List.mem_map_of_mem hy)
        rw [List.filter_cons_of_neg (by simp), hall]
      · have hne : x.id ≠ node.id := fun heq => hx (heq ▸ List.mem_map_of_mem htail)
        rw [List.filter_cons_of_pos (by simpa using hne)]
        exact ((ih hxs htail).cons x).trans (.swap ..)

/-! ## The structure -/

variable {κ : Type u} {α : Type v} [Ord κ]

/-- A multimap: its nodes in the order of a walk over it, sorted by key. -/
structure Multimap (κ : Type u) (α : Type v) [Ord κ] where
  nodes : List (Node κ α) := []
  sorted : nodes.Pairwise (fun x y => (compare x.key y.key).isLE = true) := by exact .nil

namespace Multimap

variable (m : Multimap κ α)

/-- Erase the node with this name, as `erase` does with an iterator; no other node moves. -/
def erase (id : Nat) : Multimap κ α where
  nodes := m.nodes.filter (·.id ≠ id)
  sorted := m.sorted.filter _

/-- The walk from the lower bound of a key to its upper bound. -/
def range (k : κ) : List (Node κ α) :=
  (m.nodes.dropWhile fun x => (compare x.key k).isLT).takeWhile fun x => (compare x.key k).isLE

/-- Search for a node of a key; the first one is found when there are several. -/
def find (k : κ) : Option (Node κ α) := (m.range k).head?

/-- Nodes with different names are the erased one and the others. -/
theorem perm_erase {node : Node κ α} (hdistinct : (m.nodes.map Node.id).Nodup)
    (hnode : node ∈ m.nodes) : m.nodes.Perm (node :: (m.erase node.id).nodes) :=
  perm_cons_filter_id hdistinct hnode

/-- A search for a key fails exactly when the range of the key is empty. -/
theorem find_eq_none_iff (k : κ) : m.find k = none ↔ m.range k = [] := by
  rw [find, List.head?_eq_none_iff]

variable [TransOrd κ]

/-- The nodes before the upper bound of a key are those of no greater key. -/
theorem takeWhile_isLE (k : κ) :
    m.nodes.takeWhile (fun x => (compare x.key k).isLE)
      = m.nodes.filter fun x => (compare x.key k).isLE :=
  takeWhile_eq_filter (m.sorted.imp fun hxy hy => TransCmp.isLE_trans hxy hy)

/-- The nodes from the upper bound on are those of greater keys. -/
theorem dropWhile_isLE (k : κ) :
    m.nodes.dropWhile (fun x => (compare x.key k).isLE)
      = m.nodes.filter fun x => !(compare x.key k).isLE :=
  dropWhile_eq_filter (m.sorted.imp fun hxy hy => TransCmp.isLE_trans hxy hy)

/-- The key is no greater than the keys of the nodes behind those that are no greater than it. -/
theorem isLE_of_mem_rest {xs : List (Node κ α)} {y : Node κ α} {k : κ}
    (h : y ∈ xs.filter fun x => !(compare x.key k).isLE) : (compare k y.key).isLE = true := by
  have hnot : ¬ (compare y.key k).isLE = true := by simpa using (List.mem_filter.mp h).2
  exact Ordering.isLE_of_eq_lt (OrientedCmp.lt_of_not_isLE hnot)

/-- Insert a node behind all nodes of no greater key, so equal keys stay in the order of
insertion. -/
def insert (node : Node κ α) : Multimap κ α where
  nodes := m.nodes.takeWhile (fun x => (compare x.key node.key).isLE) ++
    node :: m.nodes.dropWhile (fun x => (compare x.key node.key).isLE)
  sorted := by
    rw [takeWhile_isLE, dropWhile_isLE, List.pairwise_append, List.pairwise_cons]
    refine ⟨m.sorted.filter _, ⟨?_, m.sorted.filter _⟩, ?_⟩
    · intro y hy
      exact isLE_of_mem_rest hy
    · intro x hx y hy
      have hx' := (List.mem_filter.mp hx).2
      rcases List.mem_cons.mp hy with rfl | hy
      · exact hx'
      · exact TransCmp.isLE_trans hx' (isLE_of_mem_rest hy)

/-! ## The entries of a key -/

/-- After an insertion the nodes are, up to order, the new one and those from before. -/
theorem perm_insert (node : Node κ α) : (m.insert node).nodes.Perm (node :: m.nodes) := by
  refine List.perm_middle.trans ?_
  rw [List.takeWhile_append_dropWhile]

variable [LawfulEqOrd κ] [DecidableEq κ]

/-- **The walk over a key meets exactly its entries**, in the order of the nodes. -/
theorem range_eq (k : κ) : m.range k = m.nodes.filter fun x => x.key = k := by
  have hbelow : m.nodes.dropWhile (fun x => (compare x.key k).isLT)
      = m.nodes.filter fun x => !(compare x.key k).isLT := by
    refine dropWhile_eq_filter (m.sorted.imp ?_)
    intro x y hxy hy
    rw [Ordering.isLT_iff_eq_lt] at hy ⊢
    exact TransCmp.lt_of_isLE_of_lt hxy hy
  have hupto : (m.nodes.filter fun x => !(compare x.key k).isLT).takeWhile
      (fun x => (compare x.key k).isLE)
      = (m.nodes.filter fun x => !(compare x.key k).isLT).filter
        fun x => (compare x.key k).isLE :=
    takeWhile_eq_filter ((m.sorted.filter _).imp fun hxy hy => TransCmp.isLE_trans hxy hy)
  rw [range, hbelow, hupto, List.filter_filter]
  refine List.filter_congr fun x _ => ?_
  by_cases hk : x.key = k
  · simp [hk, compare_self]
  · have hne : compare x.key k ≠ .eq := fun heq => hk (Std.compare_eq_iff_eq.mp heq)
    cases hcompare : compare x.key k with
    | eq => exact absurd hcompare hne
    | lt | gt => simp [hk]

/-- An insertion adds its node behind the entries of its key, and nothing to those of others. -/
theorem range_insert (node : Node κ α) (k : κ) :
    (m.insert node).range k = if node.key = k then m.range k ++ [node] else m.range k := by
  have hsplit : (m.insert node).nodes =
      m.nodes.takeWhile (fun x => (compare x.key node.key).isLE) ++
        node :: m.nodes.dropWhile (fun x => (compare x.key node.key).isLE) := rfl
  have hjoin := congrArg (List.filter fun x : Node κ α => x.key = k)
    (List.takeWhile_append_dropWhile (p := fun x => (compare x.key node.key).isLE) (l := m.nodes))
  rw [List.filter_append] at hjoin
  rw [range_eq, range_eq, hsplit, List.filter_append]
  by_cases hk : node.key = k
  · -- what comes behind the node has a greater key
    have hnone : (m.nodes.dropWhile fun x => (compare x.key node.key).isLE).filter
        (fun x => x.key = k) = [] := by
      rw [dropWhile_isLE, List.filter_filter, List.filter_eq_nil_iff]
      rintro x - hx
      simp only [Bool.and_eq_true, decide_eq_true_eq] at hx
      rw [hx.1, hk, compare_self] at hx
      exact absurd hx.2 (by decide)
    rw [hnone, List.append_nil] at hjoin
    rw [List.filter_cons_of_pos (by simpa using hk), hnone, hjoin, if_pos hk]
  · rw [List.filter_cons_of_neg (by simpa using hk), hjoin, if_neg hk]

end Multimap

end Foundations
