import Mathlib.Data.List.Nodup
import Mathlib.Tactic.Common

/-! # Names that are requested and available

What is enabled of some requested names is found by a loop over the available names and, for each, a
loop over the requested ones.

* **`matchedNames`** — what the two loops collect.
* **`count_matchedNames`** — how often a name is collected.
* **`matchedNames_congr`** — only how often the available names are requested matters.
* **`matchedNames_matched_append`** — what was matched can stand for the requests that it came from,
  as long as no name is available twice.
* **`count_le_one_of_matched`** — it cannot for a name that is available twice. -/

namespace Foundations

universe u

variable {α : Type u} [DecidableEq α] {available requested : List α}

/-- Each available name, once for every request of it. -/
def matchedNames (available requested : List α) : List α :=
  available.flatMap fun name => (requested.filter (name = ·)).map fun _ => name

/-- The requests that are equal to a name are as many copies of it as the requests count. -/
theorem map_filter_eq_replicate (name : α) (requested : List α) :
    ((requested.filter (name = ·)).map fun _ => name) =
      List.replicate (requested.count name) name := by
  rw [List.map_const', ← List.countP_eq_length_filter, List.count]
  refine congrArg (List.replicate · name) (List.countP_congr fun other _ => ?_)
  rw [decide_eq_true_eq, beq_iff_eq, eq_comm]

/-- The matched names are the available ones, in their order, each as often as it is requested. -/
theorem matchedNames_eq_replicate (available requested : List α) :
    matchedNames available requested =
      available.flatMap fun name => List.replicate (requested.count name) name :=
  congrArg (available.flatMap ·) (funext fun name => map_filter_eq_replicate name requested)

/-- A name is matched once for each time it is available and each time it is requested. -/
theorem count_matchedNames (available requested : List α) (name : α) :
    (matchedNames available requested).count name =
      available.count name * requested.count name := by
  rw [matchedNames_eq_replicate]
  induction available with
  | nil => simp
  | cons head available ih =>
      rw [List.flatMap_cons, List.count_append, ih, List.count_replicate, List.count_cons]
      by_cases h : head = name
      · subst h
        simp [Nat.add_mul, Nat.add_comm]
      · simp [h]

/-- Which names are matched depends only on how often each available name is requested, not on the
order of the requests. -/
theorem matchedNames_congr {other : List α}
    (h : ∀ name ∈ available, requested.count name = other.count name) :
    matchedNames available requested = matchedNames available other := by
  rw [matchedNames_eq_replicate, matchedNames_eq_replicate, List.flatMap, List.flatMap]
  refine congrArg List.flatten (List.map_congr_left fun name hname => ?_)
  rw [h name hname]

/-- **What was matched can stand for its requests**, when no name is available twice. -/
theorem matchedNames_matched_append (h : available.Nodup) (requested more : List α) :
    matchedNames available (matchedNames available requested ++ more) =
      matchedNames available (requested ++ more) := by
  refine matchedNames_congr fun name hname => ?_
  rw [List.count_append, List.count_append, count_matchedNames,
    List.count_eq_one_of_mem h hname, Nat.one_mul]

/-- A requested name whose matches are matched again without a change is not available twice. -/
theorem count_le_one_of_matched {name : α} (hname : name ∈ requested)
    (h : matchedNames available (matchedNames available requested) =
      matchedNames available requested) : available.count name ≤ 1 := by
  have hcount := congrArg (List.count name) h
  rw [count_matchedNames, count_matchedNames] at hcount
  have hrequests : 0 < requested.count name := List.count_pos_iff.mpr hname
  rcases Nat.eq_zero_or_pos (available.count name) with hzero | hpos
  · omega
  · refine Nat.le_of_eq (Nat.eq_of_mul_eq_mul_right (Nat.mul_pos hpos hrequests) ?_)
    rw [hcount, Nat.one_mul]

end Foundations
