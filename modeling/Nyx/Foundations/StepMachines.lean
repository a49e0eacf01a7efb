import Mathlib.Tactic.Common

/-! # Runs of a partial step function

A machine is a step function `step : σ → α → Except ε σ` that may fail. This file has its runs
and the rules by which a fact about one step becomes a fact about a whole run:

* **`runSteps step s as`** — feed the inputs `as` one after another, stopping at the first failure.
* **`StepsMeet step P s as`** — every step the run makes starts from a state and an input that
  satisfy `P`.
* **`stepsMeet_and_iff`** — what holds of every input of a run holds at every step of it.
* **`StepsMeet.mono`**, **`stepsMeet_congr`**, **`stepsMeet_congr_of_next`** — a condition that
  follows from another, or agrees with it, under an invariant.
* **`runSteps_preserves`** — an invariant kept by each step is kept by the run.
* **`runSteps_iff`** — a property that each step keeps exactly when a condition is met.
* **`runSteps_total`** — a step that cannot fail under the invariant gives a run that cannot fail.
* **`runSteps_map`** — a step that commutes with an abstraction gives a run that does.
* **`runSteps_agree`** — machines whose steps agree on related states make runs that agree.
* **`exists_runSteps`** — a machine that can follow every step of another can follow its runs. -/

namespace Foundations

universe u v w x

variable {ε : Type u} {σ : Type v} {α : Type w} {τ : Type x}

/-- Feed the inputs to the step function in order; the first failure is the result. -/
def runSteps (step : σ → α → Except ε σ) : σ → List α → Except ε σ
  | s, [] => .ok s
  | s, a :: as =>
      match step s a with
      | .ok s' => runSteps step s' as
      | .error e => .error e

/-- Every step of the run from `s` over the inputs starts in a state and with an input that
satisfy `P`. -/
def StepsMeet (step : σ → α → Except ε σ) (P : σ → α → Prop) : σ → List α → Prop
  | _, [] => True
  | s, a :: as => P s a ∧ ∀ s', step s a = .ok s' → StepsMeet step P s' as

variable {step : σ → α → Except ε σ} {P Q : σ → α → Prop} {s s' t : σ} {a : α} {as bs : List α}

/-- When a step is mapped and the result is returned, the step returned something, and the result is
what the map makes of it. -/
theorem exists_of_map_eq_ok {f : σ → τ} {x : Except ε σ} {result : τ} (h : x.map f = .ok result) :
    ∃ s, x = .ok s ∧ result = f s := by
  cases x with
  | error e => cases h
  | ok s => exact ⟨s, rfl, (Except.ok.inj h).symm⟩

@[simp] theorem runSteps_nil : runSteps step s [] = .ok s := rfl

/-- A run whose first step succeeds continues from the state that step reaches. -/
theorem runSteps_cons_of_ok (h : step s a = .ok s') :
    runSteps step s (a :: as) = runSteps step s' as := by
  simp only [runSteps, h]

/-- A run whose first step fails fails with the same error, and never looks at the inputs after
it. -/
theorem runSteps_cons_of_error {e : ε} (h : step s a = .error e) :
    runSteps step s (a :: as) = .error e := by
  simp only [runSteps, h]

/-- A nonempty run succeeds exactly when its first step and the rest of it do. -/
theorem runSteps_cons_ok_iff :
    runSteps step s (a :: as) = .ok t ↔
      ∃ s', step s a = .ok s' ∧ runSteps step s' as = .ok t := by
  cases h : step s a with
  | ok s' => simp [runSteps, h]
  | error e => simp [runSteps, h]

/-- A run over a single input is that one step, so facts about runs hold of steps as well. -/
theorem runSteps_singleton : runSteps step s [a] = step s a := by
  cases h : step s a <;> simp [runSteps, h]

/-- A run over `as ++ bs` is the run over `as` followed by the run over `bs`. -/
theorem runSteps_append_of_ok (h : runSteps step s as = .ok s') :
    runSteps step s (as ++ bs) = runSteps step s' bs := by
  induction as generalizing s with
  | nil =>
      rw [runSteps_nil, Except.ok.injEq] at h
      rw [h, List.nil_append]
  | cons a as ih =>
      obtain ⟨r, hr, hrest⟩ := runSteps_cons_ok_iff.mp h
      rw [List.cons_append, runSteps_cons_of_ok hr]
      exact ih hrest

/-- A run over `as ++ bs` succeeds exactly when it passes through a state after `as`. -/
theorem runSteps_append_ok_iff :
    runSteps step s (as ++ bs) = .ok t ↔
      ∃ s', runSteps step s as = .ok s' ∧ runSteps step s' bs = .ok t := by
  induction as generalizing s with
  | nil => simp
  | cons a as ih =>
      simp only [List.cons_append, runSteps_cons_ok_iff, ih]
      constructor
      · rintro ⟨r, hr, s', hs', ht⟩
        exact ⟨s', ⟨r, hr, hs'⟩, ht⟩
      · rintro ⟨s', ⟨r, hr, hs'⟩, ht⟩
        exact ⟨r, hr, s', hs', ht⟩

/-! ## Conditions met by every step -/

@[simp] theorem stepsMeet_nil : StepsMeet step P s [] := trivial

/-- A condition that can be decided at each step can be decided along a run. -/
instance decidableStepsMeet [∀ s a, Decidable (P s a)] :
    (s : σ) → (as : List α) → Decidable (StepsMeet step P s as)
  | _, [] => isTrue trivial
  | s, a :: as =>
      match h : step s a with
      | .ok s' =>
          -- the rest is decided from the state this step reaches
          haveI := decidableStepsMeet s' as
          decidable_of_iff (P s a ∧ StepsMeet step P s' as) <| by
            simp only [StepsMeet, h, Except.ok.injEq, forall_eq']
      | .error _ =>
          -- the run stops here, so nothing is asked of the inputs left
          decidable_of_iff (P s a) <| by
            simp only [StepsMeet, h, reduceCtorEq, false_implies, implies_true, and_true]

/-- A condition on the inputs alone is met by every step once it holds of every input. -/
theorem stepsMeet_of_forall_mem {p : α → Prop} (h : ∀ a ∈ as, p a) :
    StepsMeet step (fun _ a => p a) s as := by
  induction as generalizing s with
  | nil => exact stepsMeet_nil
  | cons a as ih =>
      refine ⟨h a List.mem_cons_self, fun s' _ => ih fun b hb => h b ?_⟩
      exact List.mem_cons_of_mem a hb

/-- What holds of every input may be added to a condition on the steps. -/
theorem stepsMeet_and_iff {p : α → Prop} (h : ∀ a ∈ as, p a) :
    StepsMeet step (fun s a => p a ∧ P s a) s as ↔ StepsMeet step P s as := by
  induction as generalizing s with
  | nil => exact Iff.rfl
  | cons a as ih =>
      have hrest : ∀ s', StepsMeet step (fun s a => p a ∧ P s a) s' as ↔ StepsMeet step P s' as :=
        fun s' => ih fun b hb => h b (List.mem_cons_of_mem a hb)
      simp only [StepsMeet, hrest, h a List.mem_cons_self, true_and]

/-- A condition that follows from another under an invariant is met by the runs that meet that. -/
theorem StepsMeet.mono (Inv : σ → Prop) (hQP : ∀ s a, Inv s → Q s a → P s a)
    (hstep : ∀ s a s', Inv s → Q s a → step s a = .ok s' → Inv s') (hs : Inv s)
    (h : StepsMeet step Q s as) : StepsMeet step P s as := by
  induction as generalizing s with
  | nil => exact stepsMeet_nil
  | cons a as ih =>
      exact ⟨hQP s a hs h.1, fun s' hs' => ih (hstep s a s' hs h.1 hs') (h.2 s' hs')⟩

/-- Two conditions that say the same under an invariant are met by the same runs. -/
theorem stepsMeet_congr (Inv : σ → Prop) (hPQ : ∀ s a, Inv s → (P s a ↔ Q s a))
    (hstep : ∀ s a s', Inv s → Q s a → step s a = .ok s' → Inv s') (hs : Inv s) :
    StepsMeet step P s as ↔ StepsMeet step Q s as := by
  constructor
  · refine StepsMeet.mono Inv (fun s a hs => (hPQ s a hs).mp) (fun s a s' hs hP => ?_) hs
    exact hstep s a s' hs ((hPQ s a hs).mp hP)
  · exact StepsMeet.mono Inv (fun s a hs => (hPQ s a hs).mpr) hstep hs

/-- They are when no step fails and what the second asks of a step keeps the invariant. -/
theorem stepsMeet_congr_of_next (Inv : σ → Prop) {next : σ → α → σ}
    (hnext : ∀ s a, step s a = .ok (next s a)) (hPQ : ∀ s a, Inv s → (P s a ↔ Q s a))
    (hkeep : ∀ s a, Inv s → Q s a → Inv (next s a)) (hs : Inv s) :
    StepsMeet step P s as ↔ StepsMeet step Q s as := by
  refine stepsMeet_congr Inv hPQ (fun s a s' hInv hQ hstep => ?_) hs
  rw [hnext, Except.ok.injEq] at hstep
  exact hstep ▸ hkeep s a hInv hQ

/-! ## From one step to a run -/

/-- **Invariant rule.** An invariant that every step meeting the condition keeps is kept by every
run whose steps all meet it. -/
theorem runSteps_preserves (Inv : σ → Prop)
    (hstep : ∀ s a s', Inv s → P s a → step s a = .ok s' → Inv s')
    (hs : Inv s) (hP : StepsMeet step P s as) (h : runSteps step s as = .ok t) : Inv t := by
  induction as generalizing s with
  | nil =>
      rw [runSteps_nil, Except.ok.injEq] at h
      exact h ▸ hs
  | cons a as ih =>
      obtain ⟨s', hs', hrest⟩ := runSteps_cons_ok_iff.mp h
      exact ih (hstep s a s' hs hP.1 hs') (hP.2 s' hs') hrest

/-- **Exactness rule.** When a property holds after each step exactly when it held before and the
step met a condition, it holds at the end of a run exactly when it held at the start and every step
met the condition. -/
theorem runSteps_iff (Inv Good : σ → Prop)
    (hstep : ∀ s a s', Inv s → step s a = .ok s' → Inv s' ∧ (Good s' ↔ Good s ∧ P s a))
    (hs : Inv s) (h : runSteps step s as = .ok t) :
    Good t ↔ Good s ∧ StepsMeet step P s as := by
  induction as generalizing s with
  | nil =>
      rw [runSteps_nil, Except.ok.injEq] at h
      rw [h]
      exact (and_iff_left stepsMeet_nil).symm
  | cons a as ih =>
      obtain ⟨s', hs', hrest⟩ := runSteps_cons_ok_iff.mp h
      obtain ⟨hInv, hgood⟩ := hstep s a s' hs hs'
      rw [ih hInv hrest, hgood, and_assoc]
      refine and_congr_right fun _ => and_congr_right fun _ => ?_
      simp only [hs', Except.ok.injEq, forall_eq']

/-- **Progress rule.** When no step that meets the condition fails under the invariant, no run
whose steps all meet it fails, and the invariant holds at its end. -/
theorem runSteps_total (Inv : σ → Prop)
    (hstep : ∀ s a, Inv s → P s a → ∃ s', step s a = .ok s' ∧ Inv s')
    (hs : Inv s) (hP : StepsMeet step P s as) :
    ∃ t, runSteps step s as = .ok t ∧ Inv t := by
  induction as generalizing s with
  | nil => exact ⟨s, runSteps_nil, hs⟩
  | cons a as ih =>
      obtain ⟨s', hs', hInv⟩ := hstep s a hs hP.1
      obtain ⟨t, ht, htInv⟩ := ih hInv (hP.2 s' hs')
      exact ⟨t, by rw [runSteps_cons_of_ok hs', ht], htInv⟩

/-- **Simulation rule.** When every step under the invariant commutes with an abstraction, so does
every run, in its failures as well. -/
theorem runSteps_map (Inv : σ → Prop) (abs : σ → τ) {absStep : τ → α → Except ε τ}
    (hstep : ∀ s a, Inv s → (step s a).map abs = absStep (abs s) a)
    (hinv : ∀ s a s', Inv s → step s a = .ok s' → Inv s') (hs : Inv s) (as : List α) :
    (runSteps step s as).map abs = runSteps absStep (abs s) as := by
  induction as generalizing s with
  | nil => rfl
  | cons a as ih =>
      have hhead := hstep s a hs
      cases h : step s a with
      | ok s' =>
          rw [h] at hhead
          rw [runSteps_cons_of_ok h, runSteps_cons_of_ok hhead.symm, ih (hinv s a s' hs h)]
      | error e =>
          rw [h] at hhead
          -- both runs stop here, with the same error
          rw [runSteps_cons_of_error h, runSteps_cons_of_error hhead.symm]
          rfl

/-! ## Two machines side by side -/

/-- Two outcomes that agree: both fail with the same error, or both succeed in related states. -/
def OutcomesAgree (R : σ → τ → Prop) : Except ε σ → Except ε τ → Prop
  | .ok s, .ok t => R s t
  | .error e, .error e' => e = e'
  | .ok _, .error _ | .error _, .ok _ => False

/-- What is read of agreeing outcomes is the same when it is the same in related states. -/
theorem OutcomesAgree.map_eq {R : σ → τ → Prop} {x : Except ε σ} {y : Except ε τ} {β : Type*}
    {f : σ → β} {g : τ → β} (h : OutcomesAgree R x y) (hfg : ∀ s t, R s t → f s = g t) :
    x.map f = y.map g := by
  cases x with
  | ok s =>
      cases y with
      | ok t => exact congrArg Except.ok (hfg s t h)
      | error e => exact h.elim
  | error e =>
      cases y with
      | ok t => exact h.elim
      | error e' => exact congrArg Except.error h

/-- **Relational rule.** Two machines whose steps agree on related states make runs that agree. -/
theorem runSteps_agree (R : σ → τ → Prop) {step' : τ → α → Except ε τ} {t : τ}
    (hstep : ∀ s t a, R s t → OutcomesAgree R (step s a) (step' t a)) (h : R s t) (as : List α) :
    OutcomesAgree R (runSteps step s as) (runSteps step' t as) := by
  induction as generalizing s t with
  | nil => exact h
  | cons a as ih =>
      have hhead := hstep s t a h
      cases hs : step s a with
      | ok s' =>
          cases ht : step' t a with
          | ok t' =>
              rw [hs, ht] at hhead
              rw [runSteps_cons_of_ok hs, runSteps_cons_of_ok ht]
              exact ih hhead
          | error e =>
              rw [hs, ht] at hhead
              exact hhead.elim
      | error e =>
          cases ht : step' t a with
          | ok t' =>
              rw [hs, ht] at hhead
              exact hhead.elim
          | error e' =>
              rw [hs, ht] at hhead
              rw [runSteps_cons_of_error hs, runSteps_cons_of_error ht]
              exact hhead

/-- **Forward simulation.** When the second machine can follow every step that the first one makes
from a related state, it can follow every run. -/
theorem exists_runSteps (R : σ → τ → Prop) {step' : τ → α → Except ε τ} {t : τ}
    (hstep : ∀ s t a s', R s t → step s a = .ok s' → ∃ t', step' t a = .ok t' ∧ R s' t')
    (h : R s t) (hrun : runSteps step s as = .ok s') :
    ∃ t', runSteps step' t as = .ok t' ∧ R s' t' := by
  induction as generalizing s t with
  | nil =>
      cases hrun
      exact ⟨t, rfl, h⟩
  | cons a as ih =>
      obtain ⟨r, hr, hrest⟩ := runSteps_cons_ok_iff.mp hrun
      obtain ⟨q, hq, hnext⟩ := hstep s t a r h hr
      rw [runSteps_cons_of_ok hq]
      exact ih hnext hrest

end Foundations
