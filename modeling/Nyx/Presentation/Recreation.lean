import Mathlib.Tactic.Common
import Nyx.Presentation.FrameSteps

/-! # Skipped frames

`acquire` sets the skip flag when it creates the swapchain anew, and the submit that the flag makes
skip its `presentKHR` sets the flag once more instead of clearing it. Once an acquire was refused no
submit presents again, and with a second submit on one new swapchain more than one frame is skipped.

* **`Resumes`** — on each recreated swapchain, at most the first submit of one of its own images is
  skipped.
* **`Unsettled`** — no refused acquire is followed by two granted ones, the last call not counted.
* **`Swapchain.Paced`** — the invariant of the runs that relates the two.
* **`RenderPass.skips_at_most_one`** — a run of frames resumes presenting just when its acquires are
  unsettled. -/

namespace Nyx

/-! ## Submits of a swapchain's own images -/

/-- Whether the event is a submit to swapchain number `generation` of an image acquired on it. -/
def FrameEvent.submitsOwn (generation : Nat) : FrameEvent → Bool
  | .presented swapchain _ source _ => swapchain == some generation && source == some generation
  | .skipped swapchain _ source => swapchain == some generation && source == some generation
  | _ => false

/-- Whether the event is a submit that made no `presentKHR` call. -/
def FrameEvent.isSkipped : FrameEvent → Bool
  | .skipped _ _ _ => true
  | _ => false

/-- The submits to swapchain number `generation` of images acquired on it. -/
def ownSubmits (generation : Nat) (log : List FrameEvent) : List FrameEvent :=
  log.filter (FrameEvent.submitsOwn generation)

/-- On each swapchain that replaced another, every submit of an image acquired on it calls
`presentKHR`, except possibly the first. -/
def Resumes (log : List FrameEvent) : Prop :=
  ∀ generation, 0 < generation → ∀ event ∈ (ownSubmits generation log).tail, event.isSkipped = false

/-- A record without skipped frames resumes presenting, for there is nothing to resume from. -/
theorem resumes_of_presented {log : List FrameEvent}
    (presented : ∀ event ∈ log, event.isSkipped = false) : Resumes log := by
  intro generation _ event later
  exact presented event (List.mem_of_mem_filter (List.mem_of_mem_tail later))

/-- The own submits of a longer record are those of its parts, one after the other. -/
theorem ownSubmits_append (generation : Nat) (log more : List FrameEvent) :
    ownSubmits generation (log ++ more) = ownSubmits generation log ++ ownSubmits generation more :=
  List.filter_append _ _

/-- An event that is no own submit of a swapchain adds none to those of the record. -/
theorem ownSubmits_append_of_not {generation : Nat} {event : FrameEvent}
    (other : event.submitsOwn generation = false) (log : List FrameEvent) :
    ownSubmits generation (log ++ [event]) = ownSubmits generation log := by
  rw [ownSubmits_append]
  unfold ownSubmits
  rw [List.filter_cons_of_neg (by rw [other]; exact Bool.false_ne_true), List.filter_nil,
    List.append_nil]

/-- An own submit of a swapchain becomes the last one of the longer record. -/
theorem ownSubmits_append_own {generation : Nat} {event : FrameEvent}
    (own : event.submitsOwn generation = true) (log : List FrameEvent) :
    ownSubmits generation (log ++ [event]) = ownSubmits generation log ++ [event] := by
  rw [ownSubmits_append]
  unfold ownSubmits
  rw [List.filter_cons_of_pos own, List.filter_nil]

/-- An acquire adds no own submit to any swapchain. -/
theorem ownSubmits_append_acquire {event : FrameEvent}
    (other : ∀ generation, event.submitsOwn generation = false) (generation : Nat)
    (log : List FrameEvent) : ownSubmits generation (log ++ [event]) = ownSubmits generation log :=
  ownSubmits_append_of_not (other generation) log

/-- An acquire at the end of a record does not change whether presenting resumes in it. -/
theorem resumes_append_acquire {log : List FrameEvent} {event : FrameEvent}
    (other : ∀ generation, event.submitsOwn generation = false) :
    Resumes (log ++ [event]) ↔ Resumes log := by
  unfold Resumes
  simp only [ownSubmits_append_acquire other]

/-- A record resumes presenting if a longer record that begins with it does. -/
theorem resumes_of_append {log more : List FrameEvent} (resumes : Resumes (log ++ more)) :
    Resumes log := by
  intro generation positive event tail
  refine resumes generation positive event ?_
  rw [ownSubmits_append]
  cases first : ownSubmits generation log with
  | nil =>
      rw [first] at tail
      cases tail
  | cons head rest =>
      rw [first] at tail
      exact List.mem_append_left _ tail

/-- With a skipped submit at its end, a record resumes presenting exactly when it did before and
that submit is the first of its swapchain. -/
theorem resumes_append_skipped {log : List FrameEvent} {generation : Nat} (later : 0 < generation)
    (image : Nat) :
    Resumes (log ++ [.skipped (some generation) image (some generation)]) ↔
      Resumes log ∧ ownSubmits generation log = [] := by
  have own : (FrameEvent.skipped (some generation) image (some generation)).submitsOwn generation =
      true := by
    simp [FrameEvent.submitsOwn]
  have others : ∀ other, other ≠ generation →
      (FrameEvent.skipped (some generation) image (some generation)).submitsOwn other = false := by
    intro other different
    simp [FrameEvent.submitsOwn, Ne.symm different]
  constructor
  · intro resumes
    refine ⟨resumes_of_append resumes, ?_⟩
    -- behind an earlier submit the skipped one would be a later one
    by_contra earlier
    have skipped := resumes generation later
      (.skipped (some generation) image (some generation)) (by
        rw [ownSubmits_append_own own, List.tail_append_of_ne_nil earlier]
        exact List.mem_append_right _ (List.mem_singleton_self _))
    cases skipped
  · rintro ⟨resumes, first⟩ other positive event tail
    by_cases same : other = generation
    · subst same
      rw [ownSubmits_append_own own, first] at tail
      cases tail
    · rw [ownSubmits_append_of_not (others other same)] at tail
      exact resumes other positive event tail

/-! ## Refused acquires -/

/-- Whether the presentation engine refuses the acquire with number `call`. -/
def Driver.Refuses (driver : Driver) (call : Nat) : Prop :=
  (driver.acquireResult call).recreates = true

/-- Among the first `calls` acquires but the last, none is refused and followed by two granted
ones. -/
def Unsettled (driver : Driver) (calls : Nat) : Prop :=
  ∀ call, call + 3 < calls → driver.Refuses call →
    driver.Refuses (call + 1) ∨ driver.Refuses (call + 2)

section Unsettled

variable {driver : Driver} {calls : Nat}

/-- The acquires are unsettled when none of them was refused, the last three left aside. -/
theorem unsettled_of_granted (granted : ∀ call, call + 3 < calls → ¬driver.Refuses call) :
    Unsettled driver calls :=
  fun call before refused => absurd refused (granted call before)

/-- A refused acquire, and the answer of its recovery, add nothing. -/
theorem unsettled_of_refused (refused : driver.Refuses calls) :
    Unsettled driver (calls + 2) ↔ Unsettled driver (calls + 1) := by
  constructor
  · intro unsettled call before
    exact unsettled call (Nat.lt_succ_of_lt before)
  · intro unsettled call before earlier
    rcases Nat.lt_or_ge (call + 3) (calls + 1) with settled | last
    · exact unsettled call settled earlier
    · -- the pair of answers after this call ends with the refused one
      have last : call + 2 = calls := by omega
      exact Or.inr (last.symm ▸ refused)

/-- After a refused acquire, a granted one and `k` more granted ones, the record of answers stays
unsettled just when there was none yet. -/
theorem unsettled_succ {refused k : Nat} (refuses : driver.Refuses refused)
    (granted : ∀ r ≤ k, ¬driver.Refuses (refused + 1 + r)) :
    Unsettled driver (refused + 2 + k + 1) ↔ Unsettled driver (refused + 2 + k) ∧ k = 0 := by
  constructor
  · intro unsettled
    refine ⟨fun call before => unsettled call (Nat.lt_succ_of_lt before), ?_⟩
    by_contra some
    rcases unsettled refused (by omega) refuses with next | second
    · exact granted 0 (Nat.zero_le k) next
    · exact granted 1 (Nat.one_le_iff_ne_zero.mpr some) second
  · rintro ⟨unsettled, rfl⟩ call before earlier
    rcases Nat.lt_or_ge (call + 3) (refused + 2) with settled | last
    · exact unsettled call settled earlier
    · have last : call + 1 = refused := by omega
      exact Or.inl (last.symm ▸ refuses)

end Unsettled

namespace Swapchain

/-! ## The invariant -/

/-- What a run of frames keeps, besides `Framed`: submits are recorded for swapchains that exist; as
long as the skip flag is clear no acquire was refused and no submit skipped; with the flag set in a
frame, the acquires after the last refused one were granted, and all but the last of their images
submitted; and presenting resumes just when the acquires are unsettled. -/
structure Paced (driver : Driver) (swapchain : Swapchain) : Prop where
  below : ∀ generation, swapchain.creations ≤ generation →
    ownSubmits generation swapchain.log = []
  calm : swapchain.skipFrame = false →
    (∀ call < swapchain.acquires, ¬driver.Refuses call) ∧
      ∀ event ∈ swapchain.log, event.isSkipped = false
  lags : swapchain.skipFrame = true → swapchain.acquired ≠ [] →
    ∃ refused k generation, swapchain.acquires = refused + 2 + k ∧ driver.Refuses refused ∧
      (∀ r ≤ k, ¬driver.Refuses (refused + 1 + r)) ∧
      swapchain.swapchain = some generation ∧ 0 < generation ∧
      (ownSubmits generation swapchain.log).length = k
  resumes_iff : Resumes swapchain.log ↔ Unsettled driver swapchain.acquires

/-- What holds when the swapchain is about to be reopened. -/
structure Recovering (driver : Driver) (swapchain : Swapchain) : Prop where
  empty : swapchain.acquired = []
  below : ∀ generation, swapchain.creations ≤ generation →
    ownSubmits generation swapchain.log = []
  calm : swapchain.skipFrame = false →
    (∀ call < swapchain.acquires, ¬driver.Refuses call) ∧
      ∀ event ∈ swapchain.log, event.isSkipped = false
  refused : swapchain.skipFrame = true →
    0 < swapchain.creations ∧
      ∃ call, swapchain.acquires = call + 1 ∧ driver.Refuses call
  resumes_iff : Resumes swapchain.log ↔ Unsettled driver (swapchain.acquires + 1)

variable {driver : Driver} {swapchain : Swapchain}

/-! ## Submits in a run -/

/-- The submit of a frame is one of an own image of its swapchain, and of no other swapchain. -/
theorem submitsOwn_submission {generation : Nat} (handle : swapchain.swapchain = some generation)
    (image other : Nat) :
    (swapchain.submission image swapchain.swapchain).submitsOwn other =
      (generation == other) := by
  unfold submission
  rw [handle]
  by_cases plays : swapchain.skipFrame = false
  · rw [if_pos plays]
    exact Bool.and_self _
  · rw [if_neg plays]
    exact Bool.and_self _

/-- The submission of one swapchain leaves the own submits of the others as they are. -/
theorem ownSubmits_submission_of_ne {generation other : Nat}
    (handle : swapchain.swapchain = some generation) (different : other ≠ generation)
    (image : Nat) (log : List FrameEvent) :
    ownSubmits other (log ++ [swapchain.submission image swapchain.swapchain]) =
      ownSubmits other log := by
  refine ownSubmits_append_of_not ?_ log
  rw [submitsOwn_submission handle, beq_eq_false_iff_ne]
  exact Ne.symm different

/-- Swapchains yet to be created have no submits after another frame either. -/
theorem Paced.below_submission (paced : swapchain.Paced driver) (framed : swapchain.Framed)
    (image : Nat) {generation : Nat} (later : swapchain.creations ≤ generation) :
    ownSubmits generation
      (swapchain.log ++ [swapchain.submission image swapchain.swapchain]) = [] := by
  obtain ⟨current, handle, newest⟩ := framed.newest
  rw [ownSubmits_submission_of_ne handle (by omega)]
  exact paced.below generation later

/-- With the skip flag clear, the submit of a frame is no skipped one. -/
theorem Paced.calm_submission (paced : swapchain.Paced driver) (plays : swapchain.skipFrame = false)
    (image : Nat) : ∀ event ∈ swapchain.log ++ [swapchain.submission image swapchain.swapchain],
      event.isSkipped = false := by
  intro event recorded
  rcases List.mem_append.mp recorded with earlier | last
  · exact (paced.calm plays).2 event earlier
  · rw [List.mem_singleton.mp last, submission_of_plays _ _ _ plays]
    rfl

/-- The submit of a frame keeps presenting resumed just when the acquires stay unsettled. -/
theorem Paced.resumes_submission (paced : swapchain.Paced driver) (framed : swapchain.Framed)
    (image : Nat) :
    Resumes (swapchain.log ++ [swapchain.submission image swapchain.swapchain]) ↔
      Unsettled driver (swapchain.acquires + 1) := by
  by_cases plays : swapchain.skipFrame = false
  · -- nothing was skipped and nothing refused, so both sides hold
    refine iff_of_true (resumes_of_presented (paced.calm_submission plays image)) ?_
    exact unsettled_of_granted fun call before => (paced.calm plays).1 call (by omega)
  · -- one more skipped submit on the current swapchain, after `k` of them
    obtain ⟨_, _, front⟩ := framed.front
    have holds : swapchain.acquired ≠ [] := by
      rw [front]
      exact List.cons_ne_nil _ _
    obtain ⟨refused, k, generation, calls, refuses, granted, handle, later, length⟩ :=
      paced.lags (eq_true_of_ne_false plays) holds
    unfold submission
    rw [if_neg plays, handle, resumes_append_skipped later, paced.resumes_iff, calls,
      unsettled_succ refuses granted, ← length, List.length_eq_zero_iff]

/-! ## Steps -/

/-- **Reopening** a swapchain that is recovering leads to one that keeps the pace. -/
theorem Recovering.reopen (recovering : swapchain.Recovering driver) {after : Swapchain}
    (reopened : swapchain.reopen driver = .ok after) : after.Paced driver := by
  obtain ⟨-, ⟨-, rfl⟩ | ⟨granted, rfl⟩⟩ := reopen_cases driver reopened
  · exact
      { below := by
          intro generation later
          rw [log_refused, ownSubmits_append_acquire fun _ => rfl]
          exact recovering.below generation (by
            rw [creations_refused, creations_initializeSwapchain] at later
            omega)
        calm := fun plays => by cases plays
        lags := fun _ holds => absurd recovering.empty holds
        resumes_iff := by
          rw [log_refused, resumes_append_acquire fun _ => rfl]
          exact recovering.resumes_iff }
  · exact
      { below := by
          intro generation later
          rw [log_granted, ownSubmits_append_acquire fun _ => rfl]
          exact recovering.below generation (Nat.le_of_succ_le later)
        calm := by
          intro plays
          obtain ⟨earlier, presented⟩ := recovering.calm plays
          constructor
          · intro call before
            rcases Nat.lt_succ_iff_lt_or_eq.mp before with before | rfl
            · exact earlier call before
            · exact granted
          · rw [log_granted]
            intro event recorded
            rcases List.mem_append.mp recorded with recorded | last
            · exact presented event recorded
            · rw [List.mem_singleton.mp last]
              rfl
        lags := by
          intro flag _
          -- the acquire before this one was the refused one, and the new swapchain has no submits
          obtain ⟨positive, call, calls, refused⟩ := recovering.refused flag
          refine ⟨call, 0, swapchain.creations, ?_, refused, ?_, rfl, positive, ?_⟩
          · rw [acquires_granted, acquires_initializeSwapchain, calls]
          · intro r none
            rw [Nat.le_zero.mp none, Nat.add_zero, ← calls]
            exact granted
          · rw [log_granted, ownSubmits_append_acquire fun _ => rfl,
              log_initializeSwapchain, recovering.below _ (Nat.le_refl _)]
            rfl
        resumes_iff := by
          rw [log_granted, resumes_append_acquire fun _ => rfl]
          exact recovering.resumes_iff }

/-- After a submit that was asked for a new swapchain, the swapchain is recovering. -/
theorem Paced.lapsed (paced : swapchain.Paced driver) (framed : swapchain.Framed)
    (plays : swapchain.skipFrame = false) (image : Nat) :
    (swapchain.lapsed driver image swapchain.swapchain).Recovering driver := by
  have log : (swapchain.lapsed driver image swapchain.swapchain).log =
      swapchain.log ++ [swapchain.submission image swapchain.swapchain] := by
    rw [submission_of_plays _ _ _ plays]
    rfl
  exact
    { empty := rfl
      below := by
        intro generation later
        rw [log]
        exact paced.below_submission framed image (Nat.le_of_succ_le later)
      calm := by
        intro _
        rw [log]
        exact ⟨(paced.calm plays).1, paced.calm_submission plays image⟩
      -- a submit that is asked for a new swapchain leaves the flag clear
      refused := by
        intro flag
        rw [skipFrame_lapsed, plays] at flag
        cases flag
      resumes_iff := by
        rw [log]
        exact paced.resumes_submission framed image }

/-- After an acquire that was refused at the end of a frame, the swapchain is recovering. -/
theorem Paced.refused (paced : swapchain.Paced driver) (framed : swapchain.Framed) (image : Nat)
    (refuses : driver.Refuses swapchain.acquires) :
    ((swapchain.closed image swapchain.swapchain).refused driver).Recovering driver where
  empty := by rw [acquired_refused, acquired_closed]
  below := by
    intro generation later
    rw [creations_refused, creations_closed] at later
    rw [log_refused, ownSubmits_append_acquire fun _ => rfl, log_closed]
    exact paced.below_submission framed image (Nat.le_of_succ_le later)
  -- the refused acquire has set the flag, and is the last one so far
  calm := fun plays => by cases plays
  refused := by
    intro _
    refine ⟨Nat.succ_pos _, swapchain.acquires, ?_, refuses⟩
    rw [acquires_refused, acquires_closed]
  resumes_iff := by
    rw [log_refused, resumes_append_acquire fun _ => rfl, log_closed, acquires_refused,
      acquires_closed, unsettled_of_refused refuses]
    exact paced.resumes_submission framed image

/-- After an acquire that was granted at the end of a frame, the swapchain keeps the pace. -/
theorem Paced.granted (paced : swapchain.Paced driver) (framed : swapchain.Framed) (image : Nat)
    (granted : ¬driver.Refuses swapchain.acquires) :
    ((swapchain.closed image swapchain.swapchain).granted driver).Paced driver where
  below := by
    intro generation later
    rw [creations_granted, creations_closed] at later
    rw [log_granted, ownSubmits_append_acquire fun _ => rfl, log_closed]
    exact paced.below_submission framed image later
  calm := by
    intro plays
    rw [skipFrame_granted, skipFrame_closed] at plays
    constructor
    · intro call before
      rw [acquires_granted, acquires_closed] at before
      rcases Nat.lt_succ_iff_lt_or_eq.mp before with before | rfl
      · exact (paced.calm plays).1 call before
      · exact granted
    · rw [log_granted, log_closed]
      intro event recorded
      rcases List.mem_append.mp recorded with recorded | last
      · exact paced.calm_submission plays image event recorded
      · rw [List.mem_singleton.mp last]
        rfl
  lags := by
    intro flag _
    rw [skipFrame_granted, skipFrame_closed] at flag
    obtain ⟨_, _, front⟩ := framed.front
    have holds : swapchain.acquired ≠ [] := by
      rw [front]
      exact List.cons_ne_nil _ _
    obtain ⟨refused, k, generation, calls, refuses, before, handle, later, length⟩ :=
      paced.lags flag holds
    refine ⟨refused, k + 1, generation, ?_, refuses, ?_, ?_, later, ?_⟩
    · rw [acquires_granted, acquires_closed, calls]
      omega
    · intro r bound
      rcases Nat.lt_succ_iff_lt_or_eq.mp (Nat.lt_succ_of_le bound) with earlier | rfl
      · exact before r (Nat.le_of_lt_succ earlier)
      · have last : refused + 1 + (k + 1) = swapchain.acquires := by omega
        rw [last]
        exact granted
    · rw [swapchain_granted, swapchain_closed]
      exact handle
    · -- the frame's own submit is one more on this swapchain
      have own : (swapchain.submission image swapchain.swapchain).submitsOwn generation = true := by
        rw [submitsOwn_submission handle, beq_self_eq_true]
      rw [log_granted, ownSubmits_append_acquire fun _ => rfl, log_closed,
        ownSubmits_append_own own, List.length_append, length]
      rfl
  resumes_iff := by
    rw [log_granted, resumes_append_acquire fun _ => rfl, log_closed, acquires_granted,
      acquires_closed]
    exact paced.resumes_submission framed image

/-- **Step lemma.** A present that returns leaves a swapchain that keeps the pace. -/
theorem Paced.turn (paced : swapchain.Paced driver) (opened : swapchain.Opened) {after : Swapchain}
    (turned : swapchain.turn driver = .ok after) : after.Paced driver := by
  rcases opened with framed | ⟨empty, -⟩
  · obtain ⟨image, -, front⟩ := framed.front
    rcases turn_cases driver framed front turned with
      ⟨lapses, -, reopened⟩ | ⟨-, refuses, reopened⟩ | ⟨-, granted, rfl⟩
    · exact (paced.lapsed framed lapses.1 image).reopen reopened
    · exact (paced.refused framed image refuses).reopen reopened
    · exact paced.granted framed image granted
  · rw [turn_of_empty driver empty] at turned
    cases turned

/-- A new swapchain that is about to be opened counts as recovering. -/
theorem recovering_new : ({} : Swapchain).Recovering driver where
  empty := rfl
  below := fun _ _ => rfl
  calm := fun _ => ⟨fun call before => absurd before (Nat.not_lt_zero call),
    fun _ recorded => absurd recorded List.not_mem_nil⟩
  refused := fun flag => by cases flag
  resumes_iff := by
    refine iff_of_true (resumes_of_presented fun _ recorded => absurd recorded List.not_mem_nil) ?_
    exact unsettled_of_granted fun call before => absurd before (by
      show ¬call + 3 < 1
      omega)

/-- **Run lemma.** A run of frames that returns leaves a swapchain that keeps the pace. -/
theorem paced_turns {k : Nat} {reached : Swapchain}
    (run : ({} : Swapchain).turns driver k = .ok reached) : reached.Paced driver := by
  induction k generalizing reached with
  | zero => exact recovering_new.reopen run
  | succ k ih =>
      obtain ⟨before, earlier, turned⟩ := turns_succ_ok driver run
      exact (ih earlier).turn (opened_turns driver rfl earlier) turned

end Swapchain

namespace RenderPass

/-- **Presenting resumes just when the acquires are unsettled.** In every run of
`initialize( device, window )` and any number of presents with a new swapchain: on each recreated
swapchain all submits of its own images but the first call `presentKHR` if and only if no acquire of
the run that was refused was followed by two that were granted, the last acquire of the run not
counted. -/
theorem skips_at_most_one (driver : Driver) (renderPass : RenderPass)
    (fresh : renderPass.swapchain = {}) {device windowId k : Nat} {reached : RenderPass}
    (run : renderPass.frames driver device windowId k = .ok reached) :
    Resumes reached.swapchain.log ↔ Unsettled driver reached.swapchain.acquires := by
  have empty : renderPass.swapchain.acquired = [] := by rw [fresh]
  have attached : renderPass.attachments ≠ [] := by
    intro none
    rw [frames_of_no_attachments driver none] at run
    cases run
  have turns := turns_of_frames driver attached empty run
  rw [fresh] at turns
  exact (Swapchain.paced_turns turns).resumes_iff

/-- The second acquire is refused, its recovery granted, and the run ends with the next present. -/
theorem skips_at_most_one_recovered :
    ∃ reached, oneColour.frames
        (.scripted (fun _ => 3) (fun _ => by decide) 0 [.success, .suboptimalKHR] []) 0 0 2 =
          .ok reached ∧
      (Resumes reached.swapchain.log ↔
        Unsettled (.scripted (fun _ => 3) (fun _ => by decide) 0 [.success, .suboptimalKHR] [])
          reached.swapchain.acquires) :=
  ⟨_, rfl, skips_at_most_one _ oneColour rfl (show oneColour.frames _ 0 0 2 = _ from rfl)⟩

/-- The second acquire is refused and everything else succeeds: both the second and the third submit
on the new swapchain, number 2, are skipped. -/
theorem not_skips_at_most_one :
    ∃ reached, oneColour.frames
        (.scripted (fun _ => 3) (fun _ => by decide) 0 [.success, .errorOutOfDateKHR] []) 0 0 3 =
          .ok reached ∧
      ownSubmits 2 reached.swapchain.log =
        [.skipped (some 2) 2 (some 2), .skipped (some 2) 0 (some 2)] ∧
      ¬Resumes reached.swapchain.log :=
  ⟨_, rfl, rfl, fun resumes => absurd
    (resumes 2 (by decide) (.skipped (some 2) 0 (some 2)) (List.mem_singleton_self _)) (by decide)⟩

end RenderPass

end Nyx
