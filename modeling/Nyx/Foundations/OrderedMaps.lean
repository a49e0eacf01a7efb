import Mathlib.Data.List.Dedup
import Mathlib.Data.List.Forall2
import Mathlib.Data.List.Induction
import Mathlib.Tactic.Common

/-! # Sequences of changes to an ordered map

An ordered map of a standard library is a `Std.TreeMap`. This file has what a sequence of changes
to one amounts to:

* **`firstOf k pairs`**, **`lastOf k pairs`** — the first and the last value that a list of pairs
  gives for a key.
* **`getElem?_foldl_insertIfNew`** — insertions that keep what is there leave the first value.
* **`getElem?_foldl_insert`** — insertions that replace what is there leave the last one.
* **`size_foldl_insert`** — insertions into an empty map leave as many entries as keys differ.
* **`forall₂_values_iff`**, **`toList_map_perm`** — the values in the order of their keys, and the
  entries in any order. -/

namespace Foundations

universe u v

variable {κ : Type u} {α : Type v}

/-- The first value that a list of pairs has for a key, as insertions that keep what is there leave
it. -/
def firstOf [DecidableEq κ] (k : κ) (pairs : List (κ × α)) : Option α :=
  (pairs.find? fun pair => pair.1 = k).map Prod.snd

/-- The last value that a list of pairs has for a key, as insertions that overwrite leave it. -/
def lastOf [DecidableEq κ] (k : κ) (pairs : List (κ × α)) : Option α := firstOf k pairs.reverse

section

variable [DecidableEq κ]

@[simp] theorem firstOf_nil (k : κ) : firstOf k ([] : List (κ × α)) = none := rfl

/-- The first value in a list with a pair in front is that of the pair, if it has the key. -/
theorem firstOf_cons (k : κ) (pair : κ × α) (pairs : List (κ × α)) :
    firstOf k (pair :: pairs) = if pair.1 = k then some pair.2 else firstOf k pairs := by
  rw [firstOf, List.find?_cons]
  by_cases h : pair.1 = k
  · simp only [h, decide_true, if_true, Option.map_some]
  · simp only [h, decide_false, if_false, firstOf]

/-- The last value in a list with one pair more is that of the new pair, if it has the key. -/
theorem lastOf_concat (k : κ) (pairs : List (κ × α)) (pair : κ × α) :
    lastOf k (pairs ++ [pair]) = if pair.1 = k then some pair.2 else lastOf k pairs := by
  rw [lastOf, List.reverse_append, List.reverse_singleton, List.singleton_append, firstOf_cons,
    lastOf]

/-- The last value of two lists is that of the second, else that of the first. -/
theorem lastOf_append (k : κ) (pairs more : List (κ × α)) :
    lastOf k (pairs ++ more) = (lastOf k more).or (lastOf k pairs) := by
  rw [lastOf, List.reverse_append, firstOf, List.find?_append, Option.map_or]
  rfl

/-- The first value of a list with changed values is the changed first value. -/
theorem firstOf_map_snd {β : Type v} (f : α → β) (k : κ) (pairs : List (κ × α)) :
    firstOf k (pairs.map (Prod.map id f)) = (firstOf k pairs).map f := by
  induction pairs with
  | nil => rfl
  | cons pair pairs ih =>
      rw [List.map_cons, firstOf_cons, firstOf_cons, ih, Prod.map_fst, Prod.map_snd, id_eq]
      by_cases h : pair.1 = k
      · rw [if_pos h, if_pos h, Option.map_some]
      · rw [if_neg h, if_neg h]

/-- When a function is applied to all values, it is applied to the last value of each key. -/
theorem lastOf_map_snd {β : Type v} (f : α → β) (k : κ) (pairs : List (κ × α)) :
    lastOf k (pairs.map (Prod.map id f)) = (lastOf k pairs).map f := by
  rw [lastOf, ← List.map_reverse, firstOf_map_snd, lastOf]

/-- A key has no first value exactly when no pair of the list has that key. -/
theorem firstOf_eq_none_iff {k : κ} {pairs : List (κ × α)} :
    firstOf k pairs = none ↔ ∀ pair ∈ pairs, pair.1 ≠ k := by
  induction pairs with
  | nil => simp
  | cons pair pairs ih =>
      rw [firstOf_cons, List.forall_mem_cons]
      by_cases h : pair.1 = k
      · rw [if_pos h]
        exact iff_of_false (Option.some_ne_none _) fun none => none.1 h
      · rw [if_neg h, ih]
        exact (and_iff_right h).symm

/-- With distinct keys the first value of a key is the one it is listed with. -/
theorem firstOf_eq_some_iff {pairs : List (κ × α)} (hnodup : (pairs.map Prod.fst).Nodup) {k : κ}
    {x : α} : firstOf k pairs = some x ↔ (k, x) ∈ pairs := by
  induction pairs with
  | nil => simp
  | cons pair pairs ih =>
      obtain ⟨hnew, hnodup⟩ := List.nodup_cons.mp hnodup
      rw [firstOf_cons, List.mem_cons]
      split
      · next hk =>
        subst hk
        rw [Option.some.injEq]
        constructor
        · rintro rfl
          exact Or.inl rfl
        · rintro (heq | hmem)
          · rw [← heq]
          · exact absurd (List.mem_map_of_mem hmem) hnew
      · next hk =>
        rw [ih hnodup]
        refine (or_iff_right fun heq => hk ?_).symm
        rw [← heq]
end

section

variable [Ord κ] [Std.TransOrd κ] [Std.LawfulEqOrd κ] [DecidableEq κ]

open Std

/-- An insertion that keeps what is there is seen at its key, unless the key was there. -/
theorem getElem?_insertIfNew (m : TreeMap κ α) (k k' : κ) (x : α) :
    (m.insertIfNew k x)[k']? = if k = k' then some (m[k']?.getD x) else m[k']? := by
  rw [TreeMap.getElem?_insertIfNew]
  by_cases hk : k = k'
  · subst hk
    by_cases hmem : k ∈ m
    · rw [if_neg fun h => h.2 hmem, if_pos rfl, TreeMap.getElem?_eq_some_getElem hmem,
        Option.getD_some]
    · rw [if_pos ⟨ReflCmp.compare_self, hmem⟩, if_pos rfl, TreeMap.getElem?_eq_none hmem,
        Option.getD_none]
  · rw [if_neg fun h => hk (Std.compare_eq_iff_eq.mp h.1), if_neg hk]

/-- **First insertions stay.** A key has the value it had before, else the first one inserted. -/
theorem getElem?_foldl_insertIfNew (m : TreeMap κ α) (pairs : List (κ × α)) (k : κ) :
    (pairs.foldl (fun m pair => m.insertIfNew pair.1 pair.2) m)[k]?
      = m[k]?.or (firstOf k pairs) := by
  induction pairs generalizing m with
  | nil => rw [List.foldl_nil, firstOf_nil, Option.or_none]
  | cons pair pairs ih =>
      rw [List.foldl_cons, ih, getElem?_insertIfNew, firstOf_cons]
      by_cases hk : pair.1 = k
      · rw [if_pos hk, if_pos hk]
        cases m[k]? <;> rfl
      · rw [if_neg hk, if_neg hk]

/-- **Last insertions win.** A key has the last value inserted, else the one it had before. -/
theorem getElem?_foldl_insert (m : TreeMap κ α) (pairs : List (κ × α)) (k : κ) :
    (pairs.foldl (fun m pair => m.insert pair.1 pair.2) m)[k]?
      = (lastOf k pairs).or m[k]? := by
  induction pairs using List.reverseRecOn with
  | nil => rw [List.foldl_nil, lastOf, List.reverse_nil, firstOf_nil, Option.none_or]
  | append_singleton pairs pair ih =>
      rw [List.foldl_append, List.foldl_cons, List.foldl_nil, TreeMap.getElem?_insert, ih,
        lastOf_concat]
      by_cases hk : pair.1 = k
      · rw [if_pos (Std.compare_eq_iff_eq.mpr hk), if_pos hk, Option.some_or]
      · rw [if_neg fun h => hk (Std.compare_eq_iff_eq.mp h), if_neg hk]

/-- **Distinct keys are counted.** Insertions into an empty map leave an entry for each key. -/
theorem size_foldl_insert (pairs : List (κ × α)) :
    (pairs.foldl (fun m pair => m.insert pair.1 pair.2) (∅ : TreeMap κ α)).size
      = (pairs.map Prod.fst).dedup.length := by
  rw [← TreeMap.length_keys]
  refine ((List.perm_ext_iff_of_nodup TreeMap.nodup_keys (List.nodup_dedup _)).mpr
    fun k => ?_).length_eq
  rw [TreeMap.mem_keys, TreeMap.mem_iff_isSome_getElem?, getElem?_foldl_insert,
    TreeMap.getElem?_emptyc, Option.or_none, List.mem_dedup, ← not_iff_not,
    Option.not_isSome_iff_eq_none, lastOf, firstOf_eq_none_iff]
  simp only [List.mem_reverse, List.mem_map, not_exists, not_and]

end

/-- **The values in the order of their keys.** What holds of each value next to its key holds of
all entries. -/
theorem forall₂_values_iff [Ord κ] [Std.TransOrd κ] [Std.LawfulEqOrd κ] {m : Std.TreeMap κ α}
    {P : κ → α → Prop} :
    List.Forall₂ P m.keys (m.toList.map Prod.snd) ↔ ∀ k x, m[k]? = some x → P k x := by
  rw [← Std.TreeMap.map_fst_toList_eq_keys, List.forall₂_map_left_iff, List.forall₂_map_right_iff,
    List.forall₂_same]
  constructor
  · intro h k x hfound
    exact h (k, x) (Std.TreeMap.mem_toList_iff_getElem?_eq_some.mpr hfound)
  · intro h entry hentry
    exact h entry.1 entry.2 (Std.TreeMap.mem_toList_iff_getElem?_eq_some.mp hentry)

/-- **The entries in another order.** A list of pairs that gives each key what the map has for it
lists the entries of the map. -/
theorem toList_map_perm [Ord κ] [Std.TransOrd κ] [Std.LawfulEqOrd κ] {β : Type v}
    {m : Std.TreeMap κ α} {f : α → β} {pairs : List (κ × β)} (hnodup : (pairs.map Prod.fst).Nodup)
    (h : ∀ k y, (k, y) ∈ pairs ↔ ∃ x, m[k]? = some x ∧ f x = y) :
    (m.toList.map (Prod.map id f)).Perm pairs := by
  have hkeys : ((m.toList.map (Prod.map id f)).map Prod.fst).Nodup := by
    rw [List.map_map]
    show (m.toList.map Prod.fst).Nodup
    rw [Std.TreeMap.map_fst_toList_eq_keys]
    exact Std.TreeMap.nodup_keys
  rw [List.perm_ext_iff_of_nodup (.of_map _ hkeys) (.of_map _ hnodup)]
  rintro ⟨k, y⟩
  rw [h, List.mem_map]
  constructor
  · rintro ⟨⟨k', x⟩, hmem, heq⟩
    obtain ⟨rfl, rfl⟩ := Prod.mk.inj heq
    exact ⟨x, Std.TreeMap.mem_toList_iff_getElem?_eq_some.mp hmem, rfl⟩
  · rintro ⟨x, hfound, rfl⟩
    exact ⟨(k, x), Std.TreeMap.mem_toList_iff_getElem?_eq_some.mpr hfound, rfl⟩

/-- **Insertions of distinct keys** into an empty map leave exactly the pairs that were inserted, in
some order. -/
theorem toList_foldl_insert_perm [Ord κ] [Std.TransOrd κ] [Std.LawfulEqOrd κ] [DecidableEq κ]
    {pairs : List (κ × α)} (hnodup : (pairs.map Prod.fst).Nodup) :
    (pairs.foldl (fun m pair => m.insert pair.1 pair.2) (∅ : Std.TreeMap κ α)).toList.Perm
      pairs := by
  let map := pairs.foldl (fun m pair => m.insert pair.1 pair.2) (∅ : Std.TreeMap κ α)
  have hmem : ∀ k x, (k, x) ∈ pairs ↔ ∃ y, map[k]? = some y ∧ id y = x := fun k x => by
    have hreverse : (pairs.reverse.map Prod.fst).Nodup := by
      rwa [List.map_reverse, List.nodup_reverse]
    rw [getElem?_foldl_insert, Std.TreeMap.getElem?_emptyc, Option.or_none, lastOf]
    simp [firstOf_eq_some_iff hreverse]
  have hperm := toList_map_perm hnodup hmem
  rwa [Prod.map_id, List.map_id] at hperm

/-- Two maps that show alike values for each key have alike entries, in the same order. -/
theorem toList_map_congr [Ord κ] [Std.TransOrd κ] [Std.LawfulEqOrd κ] {β γ : Type v}
    {m : Std.TreeMap κ α} {m' : Std.TreeMap κ β} {f : α → γ} {g : β → γ}
    (h : ∀ k : κ, (m[k]?).map f = (m'[k]?).map g) :
    m.toList.map (Prod.map id f) = m'.toList.map (Prod.map id g) := by
  have hequiv : (m.map fun _ => f).Equiv (m'.map fun _ => g) :=
    Std.TreeMap.Equiv.of_forall_constGet?_eq fun k => by
      rw [Std.TreeMap.getElem?_map, Std.TreeMap.getElem?_map, h k]
  have heq := hequiv.toList_eq
  rw [Std.TreeMap.toList_map, Std.TreeMap.toList_map] at heq
  exact heq

/-- Lists are compared entry by entry, so one is before another in this order exactly when it is
lexicographically less. -/
theorem compare_list_eq_lt {ι : Type u} [Ord ι] [LT ι] [LE ι] [Std.LawfulOrderOrd ι]
    [Std.LawfulEqOrd ι] [Std.LawfulOrderLT ι] {xs ys : List ι} :
    compare xs ys = .lt ↔ xs < ys := by
  induction xs generalizing ys with
  | nil => cases ys <;> simp
  | cons x xs ih =>
      cases ys with
      | nil => simp
      | cons y ys =>
          rw [List.compare_eq_compareLex, List.compareLex_cons_cons, Ordering.then_eq_lt,
            Std.compare_eq_lt, Std.compare_eq_iff_eq, ← List.compare_eq_compareLex, ih,
            List.cons_lt_cons_iff]

end Foundations
