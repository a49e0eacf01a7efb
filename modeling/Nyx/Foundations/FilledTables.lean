import Mathlib.Data.List.Forall2
import Mathlib.Logic.Function.Basic

/-! # Tables that are filled on demand

A table has a value for a key once it was asked for it: the value is made for the first request with
the key, and all later requests with the key get it as well, whatever else they want of it.

* **`FilledTable`**, **`FilledTable.ask`**, **`FilledTable.asks`** — a table, and what requests get.
* **`AgreeOn`** — requests with the same key want the same.
* **`FilledTable.forall₂_asks_iff`** — all requests get what they want exactly when they agree. -/

namespace Foundations

universe u v w x

variable {κ : Type u} {ν : Type v} {ρ : Type w} {δ : Type x}

/-- A table that is filled on demand, and how many values were made for it so far. -/
structure FilledTable (κ : Type u) (ν : Type v) where
  entries : κ → Option ν := fun _ => none
  made : Nat := 0

/-- Requests agree when those with the same key want the same, so it does not matter which of them
comes first. -/
def AgreeOn (key : ρ → κ) (wanted : ρ → δ) (requests : List ρ) : Prop :=
  ∀ r ∈ requests, ∀ s ∈ requests, key r = key s → wanted r = wanted s

/-- Whether finitely many requests agree can be decided, by comparing each with each. -/
instance decidableAgreeOn [DecidableEq κ] [DecidableEq δ] (key : ρ → κ) (wanted : ρ → δ)
    (requests : List ρ) : Decidable (AgreeOn key wanted requests) :=
  inferInstanceAs (Decidable (∀ r ∈ requests, ∀ s ∈ requests, key r = key s → wanted r = wanted s))

/-- One request more agrees with the others when it wants what those with its key want, and the
others agree among themselves. -/
theorem agreeOn_cons {key : ρ → κ} {wanted : ρ → δ} {r : ρ} {requests : List ρ} :
    AgreeOn key wanted (r :: requests) ↔
      (∀ s ∈ requests, key r = key s → wanted r = wanted s) ∧ AgreeOn key wanted requests := by
  simp only [AgreeOn, List.mem_cons, forall_eq_or_imp, forall_true_left, true_and]
  constructor
  · rintro ⟨hfirst, hrest⟩
    exact ⟨hfirst, fun s hs => (hrest s hs).2⟩
  · rintro ⟨hfirst, hrest⟩
    exact ⟨hfirst, fun s hs => ⟨fun hkey => (hfirst s hs hkey.symm).symm, hrest s hs⟩⟩

namespace FilledTable

variable [DecidableEq κ]

/-- Ask for a key: the table afterwards, and the value. -/
def ask (table : FilledTable κ ν) (k : κ) (make : Nat → ν) : FilledTable κ ν × ν :=
  match table.entries k with
  | some value => (table, value)
  | none =>
      let value := make table.made
      ({ entries := Function.update table.entries k (some value), made := table.made + 1 }, value)

/-- Ask for each request in order: the table afterwards, and the values. -/
def asks (key : ρ → κ) (make : ρ → Nat → ν) (table : FilledTable κ ν) :
    List ρ → FilledTable κ ν × List ν
  | [] => (table, [])
  | r :: requests =>
      let first := table.ask (key r) (make r)
      let rest := first.1.asks key make requests
      (rest.1, first.2 :: rest.2)

variable {table : FilledTable κ ν} {k k' : κ} {make make' : Nat → ν} {value : ν}

/-- When there is a value for the key, it is what a request gets, and the table stays what it
was. -/
theorem ask_of_some (h : table.entries k = some value) : table.ask k make = (table, value) := by
  simp only [ask, h]

/-- After a request its value is in the table under its key, whether it was made for it or there
before. -/
theorem entries_ask : (table.ask k make).1.entries k = some (table.ask k make).2 := by
  cases h : table.entries k with
  | some value => rw [ask_of_some h, h]
  | none => simp [ask, h]

/-- A request changes no entry of the table but that of its own key. -/
theorem entries_ask_of_ne (hne : k' ≠ k) : (table.ask k make).1.entries k' = table.entries k' := by
  cases h : table.entries k with
  | some value => rw [ask_of_some h]
  | none => simp [ask, h, Function.update_of_ne hne]

/-- To ask for a key once more gives the same value again and changes nothing, whatever it would
make. -/
theorem ask_ask : (table.ask k make).1.ask k make' = table.ask k make :=
  ask_of_some entries_ask

/-- The values that are asked for have what the entries and new values have. -/
theorem ask_induction {P : κ → ν → Prop} (h : ∀ k value, table.entries k = some value → P k value)
    (hmake : P k (make table.made)) :
    P k (table.ask k make).2 ∧
      ∀ k' value, (table.ask k make).1.entries k' = some value → P k' value := by
  have hvalue : P k (table.ask k make).2 := by
    cases hentry : table.entries k with
    | some value => simpa only [ask_of_some hentry] using h k value hentry
    | none => simpa only [ask, hentry] using hmake
  refine ⟨hvalue, fun k' value hentry => ?_⟩
  by_cases hkey : k' = k
  · subst hkey
    rw [entries_ask, Option.some.injEq] at hentry
    exact hentry ▸ hvalue
  · rw [entries_ask_of_ne hkey] at hentry
    exact h k' value hentry

variable {key : ρ → κ} {make : ρ → Nat → ν} {wanted : ρ → δ} {about : ν → δ}

/-- There is one answer for each request, in the order of the requests. -/
@[simp] theorem length_asks (requests : List ρ) :
    (table.asks key make requests).2.length = requests.length := by
  induction requests generalizing table with
  | nil => rfl
  | cons r requests ih => rw [asks, List.length_cons, List.length_cons, ih]

/-- Requests that come after others are answered by the table which those leave. -/
theorem asks_append (requests more : List ρ) :
    table.asks key make (requests ++ more) =
      (((table.asks key make requests).1.asks key make more).1,
        (table.asks key make requests).2 ++
          ((table.asks key make requests).1.asks key make more).2) := by
  induction requests generalizing table with
  | nil => rfl
  | cons r requests ih => rw [List.cons_append, asks, ih, asks, List.cons_append]

/-- **Run lemma.** From any table, requests get what they want exactly when they agree with each
other and with what is in the table. -/
theorem forall₂_asks_iff_of_entries (hmake : ∀ r n, about (make r n) = wanted r)
    (requests : List ρ) :
    List.Forall₂ (fun r value => about value = wanted r) requests
        (table.asks key make requests).2 ↔
      (∀ r ∈ requests, ∀ value, table.entries (key r) = some value → about value = wanted r) ∧
        AgreeOn key wanted requests := by
  induction requests generalizing table with
  | nil => simp [asks, AgreeOn]
  | cons r requests ih =>
      rw [asks, List.forall₂_cons, ih, agreeOn_cons]
      have hentry : (table.ask (key r) (make r)).1.entries (key r) =
          some (table.ask (key r) (make r)).2 := entries_ask
      cases hold : table.entries (key r) with
      | some value =>
          -- the value was there before
          rw [ask_of_some hold]
          constructor
          · rintro ⟨hvalue, hrest, hagree⟩
            refine ⟨?_, ⟨fun s hs hkey => ?_, hagree⟩⟩
            · simp only [List.mem_cons, forall_eq_or_imp, hold, Option.some.injEq, forall_eq']
              exact ⟨hvalue, hrest⟩
            · rw [← hvalue]
              exact hrest s hs value (hkey ▸ hold)
          · rintro ⟨hall, -, hagree⟩
            exact ⟨hall r List.mem_cons_self value hold,
              fun s hs => hall s (List.mem_cons_of_mem r hs), hagree⟩
      | none =>
          -- it is made for this request
          have hvalue : about (table.ask (key r) (make r)).2 = wanted r := by
            simp only [ask, hold, hmake]
          constructor
          · rintro ⟨-, hrest, hagree⟩
            refine ⟨?_, ⟨fun s hs hkey => ?_, hagree⟩⟩
            · simp only [List.mem_cons, forall_eq_or_imp, hold, reduceCtorEq, false_implies,
                implies_true, true_and]
              intro s hs value hvalue'
              have hne : key s ≠ key r := fun hkey => by
                rw [hkey, hold] at hvalue'
                cases hvalue'
              exact hrest s hs value (by rw [entries_ask_of_ne hne, hvalue'])
            · rw [← hvalue]
              exact hrest s hs _ (hkey ▸ hentry)
          · rintro ⟨hall, hfirst, hagree⟩
            refine ⟨hvalue, fun s hs value hvalue' => ?_, hagree⟩
            by_cases hkey : key s = key r
            · rw [hkey, hentry, Option.some.injEq] at hvalue'
              rw [← hvalue', hvalue, hfirst s hs hkey.symm]
            · rw [entries_ask_of_ne hkey] at hvalue'
              exact hall s (List.mem_cons_of_mem r hs) value hvalue'

/-- **A new table answers requests right exactly when they agree.** -/
theorem forall₂_asks_iff (hmake : ∀ r n, about (make r n) = wanted r) (requests : List ρ) :
    List.Forall₂ (fun r value => about value = wanted r) requests
        (({} : FilledTable κ ν).asks key make requests).2 ↔ AgreeOn key wanted requests := by
  rw [forall₂_asks_iff_of_entries hmake]
  simp

end FilledTable

end Foundations
