import Mathlib.Tactic.Common
import Nyx.Presentation.FrameSteps

/-! # The bounds of the frame bookkeeping

A run of `initialize( device, window )` and presents leaves its tables in three ways: the first
acquire after a recreation is refused, so that the next `submit` finds the queue of acquired images
empty; a new swapchain has no more images than the frame counter says; or `submit` retires an image
index that the swapchain it has just created anew does not have.

* **`Swapchain.Settles`** — the next present does none of these.
* **`Swapchain.framed_turn`**, **`Swapchain.settles_of_turn`** — the step, in both directions.
* **`RenderPass.frames_in_bounds`** — the runs. -/

namespace Nyx

namespace Swapchain

variable (driver : Driver)

/-- What the next present needs of the answers it gets. If its submit is asked for a new swapchain,
that one has the image index the submit retires, the one the recovery creates after it has the frame
counter, and the recovery's acquire is not refused; if only its acquire asks for a new swapchain,
the same holds of the recovery. -/
def Settles (swapchain : Swapchain) : Prop :=
  if swapchain.Lapses driver then
    (∀ entry ∈ swapchain.acquired, entry.image < driver.imageCount swapchain.creations) ∧
      swapchain.currentFrame < driver.imageCount (swapchain.creations + 1) ∧
      (driver.acquireResult swapchain.acquires).recreates = false
  else
    (driver.acquireResult swapchain.acquires).recreates = true →
      swapchain.currentFrame < driver.imageCount (swapchain.creations + 1) ∧
        (driver.acquireResult (swapchain.acquires + 1)).recreates = false

/-! ## Reopening -/

/-- Reopening starts a frame when the new swapchain has the frame counter and its acquire is not
refused. -/
theorem framed_reopen {swapchain : Swapchain} (empty : swapchain.acquired = [])
    (inside : swapchain.currentFrame < driver.imageCount swapchain.creations)
    (granted : (driver.acquireResult swapchain.acquires).recreates = false) :
    ∃ after, swapchain.reopen driver = .ok after ∧ after.Framed := by
  refine ⟨_, ?_, framed_reopened driver inside empty⟩
  rw [(reopen_eq driver swapchain).1 inside, granted]
  rfl

/-- Conversely, reopening that leaves an acquired image needs both. -/
theorem of_framed_reopen {swapchain after : Swapchain} (empty : swapchain.acquired = [])
    (reopened : swapchain.reopen driver = .ok after) (holds : after.acquired ≠ []) :
    swapchain.currentFrame < driver.imageCount swapchain.creations ∧
      (driver.acquireResult swapchain.acquires).recreates = false := by
  obtain ⟨inside, ⟨-, rfl⟩ | ⟨granted, -⟩⟩ := reopen_cases driver reopened
  · -- a refused acquire leaves the queue as empty as it was
    exact absurd empty holds
  · exact ⟨inside, Bool.eq_false_iff.mpr granted⟩

/-! ## One present -/

/-- **Step lemma.** A present that settles returns and ends in a frame. -/
theorem framed_turn {swapchain : Swapchain} (framed : swapchain.Framed)
    (settles : swapchain.Settles driver) :
    ∃ after, swapchain.turn driver = .ok after ∧ after.Framed := by
  obtain ⟨image, -, front⟩ := framed.front
  unfold Settles at settles
  rw [turn_eq driver framed front]
  by_cases lapses : swapchain.Lapses driver
  · rw [if_pos lapses] at settles
    obtain ⟨fits, inside, granted⟩ := settles
    have fits : image < driver.imageCount swapchain.creations :=
      fits _ (front ▸ List.mem_singleton_self _)
    rw [if_pos lapses, if_pos fits]
    exact framed_reopen driver rfl inside granted
  · rw [if_neg lapses] at settles ⊢
    by_cases refuses : (driver.acquireResult swapchain.acquires).recreates = true
    · obtain ⟨inside, granted⟩ := settles refuses
      rw [if_pos refuses]
      refine framed_reopen driver ?_ ?_ ?_
      · rw [acquired_refused, acquired_closed]
      · rw [currentFrame_refused, currentFrame_closed, creations_refused, creations_closed]
        exact inside
      · rw [acquires_refused, acquires_closed]
        exact granted
    · rw [if_neg refuses]
      exact ⟨_, rfl, framed_closed_granted driver framed image⟩

/-- Conversely, a present that returns with an acquired image settles. -/
theorem settles_of_turn {swapchain after : Swapchain} (framed : swapchain.Framed)
    (turned : swapchain.turn driver = .ok after) (holds : after.acquired ≠ []) :
    swapchain.Settles driver := by
  obtain ⟨image, -, front⟩ := framed.front
  unfold Settles
  rcases turn_cases driver framed front turned with
    ⟨lapses, fits, reopened⟩ | ⟨closes, -, reopened⟩ | ⟨closes, granted, -⟩
  · rw [if_pos lapses]
    refine ⟨?_, of_framed_reopen driver rfl reopened holds⟩
    intro entry held
    rw [front, List.mem_singleton] at held
    rw [held]
    exact fits
  · rw [if_neg closes]
    intro _
    have empty : ((swapchain.closed image swapchain.swapchain).refused driver).acquired = [] := by
      rw [acquired_refused, acquired_closed]
    have recovers := of_framed_reopen driver empty reopened holds
    rw [currentFrame_refused, currentFrame_closed, creations_refused, creations_closed,
      acquires_refused, acquires_closed] at recovers
    exact recovers
  · rw [if_neg closes]
    exact fun refuses => absurd refuses granted

/-! ## Runs -/

/-- In runs of which every next present settles, every length is reached, in a frame. -/
theorem framed_turns {swapchain : Swapchain} (empty : swapchain.acquired = [])
    (inside : swapchain.currentFrame < driver.imageCount swapchain.creations)
    (granted : (driver.acquireResult swapchain.acquires).recreates = false)
    (settles : ∀ k reached, swapchain.turns driver k = .ok reached → reached.Settles driver)
    (k : Nat) : ∃ reached, swapchain.turns driver k = .ok reached ∧ reached.Framed := by
  induction k with
  | zero => exact framed_reopen driver empty inside granted
  | succ k ih =>
      obtain ⟨reached, run, framed⟩ := ih
      rw [turns_succ driver run]
      exact framed_turn driver framed (settles k reached run)

/-- In a run that can be continued without end there is always an acquired image. -/
theorem acquired_of_turns {swapchain : Swapchain}
    (runs : ∀ k, ∃ reached, swapchain.turns driver k = .ok reached) {k : Nat} {reached : Swapchain}
    (run : swapchain.turns driver k = .ok reached) : reached.acquired ≠ [] := by
  -- the next present would read the front of the empty queue
  intro empty
  obtain ⟨after, next⟩ := runs (k + 1)
  rw [turns_succ driver run, turn_of_empty driver empty] at next
  cases next

/-- A swapchain reaches presents in any number just when its first acquire is granted and every
present it reaches settles. -/
theorem turns_total_iff {swapchain : Swapchain} (empty : swapchain.acquired = [])
    (inside : swapchain.currentFrame < driver.imageCount swapchain.creations) :
    (∀ k, ∃ reached, swapchain.turns driver k = .ok reached) ↔
      (driver.acquireResult swapchain.acquires).recreates = false ∧
        ∀ k reached, swapchain.turns driver k = .ok reached → reached.Settles driver := by
  constructor
  · intro runs
    constructor
    · obtain ⟨opened, run⟩ := runs 0
      exact (of_framed_reopen driver empty run (acquired_of_turns driver runs run)).2
    · intro k reached run
      obtain ⟨after, next⟩ := runs (k + 1)
      -- every state the run goes on from is in a frame, so the present after it has settled
      have framed : reached.Framed :=
        (opened_turns driver empty run).resolve_right
          fun stuck => acquired_of_turns driver runs run stuck.1
      have turned : reached.turn driver = .ok after := (turns_succ driver run).symm.trans next
      exact settles_of_turn driver framed turned (acquired_of_turns driver runs next)
  · rintro ⟨granted, settles⟩ k
    obtain ⟨reached, run, -⟩ := framed_turns driver empty inside granted settles k
    exact ⟨reached, run⟩

/-! ## Failures

The swapchain itself fails only by leaving its tables. -/

/-- `acquire` fails at the tables of the swapchain only, never for lack of attachments. -/
theorem acquire_ne_attachments (swapchain : Swapchain) :
    swapchain.acquire driver ≠ .error .attachments := by
  intro fails
  simp only [acquire] at fails
  split at fails
  · cases fails
  · cases fails
  · by_cases refuses : (driver.acquireResult swapchain.acquires).recreates = true
    · rw [if_pos refuses] at fails
      cases fails
    · rw [if_neg refuses] at fails
      cases fails

/-- `retire` fails at the table of the synchronization only. -/
theorem retire_ne_attachments (swapchain : Swapchain) (index : Nat) (rest : List Acquired)
    (result : Vulkan.Error) : swapchain.retire index rest result ≠ .error .attachments := by
  unfold retire
  cases swapchain.syncs[index]? with
  | none => exact fun fails => by cases fails
  | some sync => exact fun fails => by cases fails

/-- `submit` fails at the queue or at a table of the swapchain, never for lack of attachments. -/
theorem submit_ne_attachments (swapchain : Swapchain) :
    swapchain.submit driver ≠ .error .attachments := by
  unfold submit
  cases swapchain.acquired with
  | nil => exact fun fails => by cases fails
  | cons entry rest =>
      dsimp only
      by_cases plays : swapchain.skipFrame = false
      · rw [if_pos plays]
        cases swapchain.syncs[entry.image]? with
        | none => exact fun fails => by cases fails
        | some sync =>
            dsimp only
            by_cases stale : Vulkan.convertResult (driver.presentResult swapchain.presents) =
                .recreateSwapchain
            · rw [if_pos stale]
              exact retire_ne_attachments _ _ _ _
            · rw [if_neg stale]
              exact retire_ne_attachments _ _ _ _
      · rw [if_neg plays]
        exact retire_ne_attachments _ _ _ _

/-- Reopening the swapchain fails at its tables only. -/
theorem reopen_ne_attachments (swapchain : Swapchain) :
    swapchain.reopen driver ≠ .error .attachments := by
  have safe := acquire_ne_attachments driver (swapchain.initializeSwapchain driver)
  unfold reopen
  cases acquired : (swapchain.initializeSwapchain driver).acquire driver with
  | error failure =>
      rw [acquired] at safe
      exact fun fails => safe (by cases fails; rfl)
  | ok result => exact fun fails => by cases fails

/-- A present that is seen at the swapchain fails there only, never for lack of attachments. -/
theorem turn_ne_attachments (swapchain : Swapchain) :
    swapchain.turn driver ≠ .error .attachments := by
  have safe := submit_ne_attachments driver swapchain
  unfold turn
  rcases submit : swapchain.submit driver with failure | ⟨submitted, answer⟩
  · rw [submit] at safe
    exact fun fails => safe (by cases fails; rfl)
  · cases answer with
    | recreateSwapchain => exact reopen_ne_attachments driver submitted
    | _ =>
        have safe := acquire_ne_attachments driver submitted
        dsimp only
        rcases acquire : submitted.acquire driver with failure | ⟨acquired, answer⟩
        · rw [acquire] at safe
          exact fun fails => safe (by cases fails; rfl)
        · cases answer with
          | recreateSwapchain => exact reopen_ne_attachments driver acquired
          | _ => exact fun fails => by cases fails

/-- However often a swapchain submits and acquires, it fails at its own tables only, never for lack
of attachments. -/
theorem turns_ne_attachments (swapchain : Swapchain) (k : Nat) :
    swapchain.turns driver k ≠ .error .attachments := by
  induction k with
  | zero => exact reopen_ne_attachments driver swapchain
  | succ k ih =>
      cases run : swapchain.turns driver k with
      | error failure =>
          rw [run] at ih
          simp only [turns, run]
          exact ih
      | ok reached =>
          rw [turns_succ driver run]
          exact turn_ne_attachments driver reached

end Swapchain

namespace RenderPass

/-- **The frame bookkeeping stays in its tables just when every present settles.** In runs of
`initialize( device, window )` and any number of presents, with a new swapchain, no `submit` finds
the queue of acquired images empty and no index into `syncs` and `fences` is past their end if and
only if, unless there is no attachment to set, the first acquire is not refused and each state
reached settles. -/
theorem frames_in_bounds (driver : Driver) (renderPass : RenderPass)
    (fresh : renderPass.swapchain = {}) (device windowId : Nat) :
    (∀ k failure, renderPass.frames driver device windowId k = .error failure →
        failure = .attachments) ↔
      (renderPass.attachments ≠ [] →
        (driver.acquireResult 0).recreates = false ∧
          ∀ k reached, renderPass.frames driver device windowId k = .ok reached →
            reached.swapchain.Settles driver) := by
  by_cases attached : renderPass.attachments = []
  · refine ⟨fun _ some => absurd attached some, fun _ k failure fails => ?_⟩
    rw [frames_of_no_attachments driver attached] at fails
    cases fails
    rfl
  · have empty : renderPass.swapchain.acquired = [] := by rw [fresh]
    -- a new swapchain starts with frame counter 0, which every image count admits
    have inside : renderPass.swapchain.currentFrame <
        driver.imageCount renderPass.swapchain.creations := by
      rw [fresh]
      exact driver.imageCount_pos 0
    have bounded := Swapchain.turns_total_iff driver empty inside
    have first : renderPass.swapchain.acquires = 0 := by rw [fresh]
    rw [first] at bounded
    constructor
    · intro safe _
      obtain ⟨granted, settles⟩ := bounded.mp fun k => by
        -- with attachments, the render pass fails just when its swapchain does
        have projects := (frames_swapchain driver attached empty device windowId k).1
        cases run : renderPass.frames driver device windowId k with
        | ok reached => exact ⟨_, turns_of_frames driver attached empty run⟩
        | error failure =>
            rw [run, safe k failure run] at projects
            exact absurd projects.symm (Swapchain.turns_ne_attachments driver _ k)
      exact ⟨granted, fun k reached run =>
        settles k _ (turns_of_frames driver attached empty run)⟩
    · intro condition k failure fails
      obtain ⟨granted, settles⟩ := condition attached
      obtain ⟨reached, run⟩ := bounded.mpr ⟨granted, fun k reached run => by
        obtain ⟨framed, frames, same⟩ := frames_of_turns driver attached empty device windowId run
        rw [← same]
        exact settles k framed frames⟩ k
      obtain ⟨framed, frames, -⟩ := frames_of_turns driver attached empty device windowId run
      rw [frames] at fails
      cases fails

/-- A window that never asks for a new swapchain: its frames are in bounds, as the condition
says. -/
theorem frames_in_bounds_inOrder :
    (∀ k failure, oneColour.frames (.inOrder 3 (by decide)) 0 0 k = .error failure →
        failure = .attachments) ↔
      (oneColour.attachments ≠ [] →
        VkResult.success.recreates = false ∧
          ∀ k reached, oneColour.frames (.inOrder 3 (by decide)) 0 0 k = .ok reached →
            reached.swapchain.Settles (.inOrder 3 (by decide))) :=
  frames_in_bounds (.inOrder 3 (by decide)) oneColour rfl 0 0

/-- When the first acquire is refused, the first present reads the front of an empty queue; and when
a present of the second image creates the swapchain anew and the new one ends up with a single
image, `acquire` indexes it by the frame counter 2. -/
theorem not_frames_in_bounds :
    oneColour.frames (.scripted (fun _ => 3) (fun _ => by decide) 0 [.errorOutOfDateKHR] []) 0 0 1 =
        .error .acquired ∧
      oneColour.frames (.scripted (fun k => if k < 2 then 3 else 1)
        (fun k => by split <;> decide) 0 [] [.success, .errorOutOfDateKHR]) 0 0 2 =
          .error (.fences 2 1) :=
  ⟨rfl, rfl⟩

end RenderPass

end Nyx
