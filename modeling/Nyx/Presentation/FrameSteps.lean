import Nyx.Presentation.Framebuffers

/-! # What acquire, submit and present do

The operations of a frame, reduced to equations between states.

* **`Swapchain.granted`**, **`Swapchain.refused`** — the two outcomes of `acquire`.
* **`Swapchain.closed`**, **`Swapchain.lapsed`** — the two outcomes of `submit`.
* **`Swapchain.Framed`** — the invariant of a run of frames: tables as long as the image list, a
  frame counter inside them, and one acquired image of the current swapchain waiting.
* **`Swapchain.turn_eq`** — what `RenderPass::present` does to a framed swapchain;
  **`Swapchain.reopen_cases`**, **`Swapchain.turn_cases`** — the ways in which it can return.
* **`RenderPass.frames_swapchain`** — a run of frames acts on the swapchain as `Swapchain.turns`,
  whatever the attachments are. -/

namespace Nyx

namespace Swapchain

variable (driver : Driver)

/-! ## Initialising -/

/-- There is a synchronization and a fence for each image. -/
structure Tabled (swapchain : Swapchain) : Prop where
  syncs : swapchain.syncs.length = swapchain.images
  fences : swapchain.fences.length = swapchain.images

/-- `Swapchain::initialize` sizes the tables of the synchronization by the new list of images. -/
theorem tabled_initializeSwapchain (swapchain : Swapchain) :
    (swapchain.initializeSwapchain driver).Tabled where
  syncs := by
    show ((List.takeD _ _ _).mapIdx _).length = _
    rw [List.length_mapIdx, List.takeD_length]
    rfl
  fences := List.length_replicate

section Fields

variable (swapchain : Swapchain)

@[simp] theorem creations_initializeSwapchain :
    (swapchain.initializeSwapchain driver).creations = swapchain.creations + 1 := rfl

@[simp] theorem acquires_initializeSwapchain :
    (swapchain.initializeSwapchain driver).acquires = swapchain.acquires := rfl

@[simp] theorem log_initializeSwapchain :
    (swapchain.initializeSwapchain driver).log = swapchain.log := rfl

end Fields

/-! ## Acquiring -/

/-- The synchronization of an image or frame, the default one past the end of the table. -/
def sync (swapchain : Swapchain) (index : Nat) : Synchronization := swapchain.syncs.getD index {}

/-- Inside the table, the synchronization of an index is the entry there. -/
theorem getElem?_syncs {swapchain : Swapchain} {index : Nat}
    (inside : index < swapchain.syncs.length) :
    swapchain.syncs[index]? = some (swapchain.sync index) := by
  unfold sync
  rw [List.getD_eq_getElem?_getD, List.getElem?_eq_getElem inside, Option.getD_some]

/-- The swapchain after an acquire that asked for a new one. -/
def refused (swapchain : Swapchain) : Swapchain :=
  let failed := { swapchain with
    acquires := swapchain.acquires + 1
    log := swapchain.log ++ [FrameEvent.acquireFailed swapchain.swapchain] }
  { failed.initializeSwapchain driver with skipFrame := true }

/-- The swapchain after an acquire that returned an image. -/
def granted (swapchain : Swapchain) : Swapchain :=
  let index := swapchain.currentFrame
  let image := driver.acquireImage swapchain.acquires swapchain.images
  { swapchain with
    acquires := swapchain.acquires + 1
    log := swapchain.log ++
      [FrameEvent.acquired swapchain.swapchain image (swapchain.sync index).signal]
    fences := swapchain.fences.set index (swapchain.sync index).signalFence
    acquired := swapchain.acquired ++ [⟨image, swapchain.swapchain⟩]
    currentFrame := (index + 1) % swapchain.syncs.length
    syncs := swapchain.syncs.set index ((swapchain.sync index).waitOn (swapchain.sync index)) }

/-- With the frame counter inside the tables, `acquire` is granted or refused as the presentation
engine answers. -/
theorem acquire_eq {swapchain : Swapchain} (tabled : swapchain.Tabled)
    (inside : swapchain.currentFrame < swapchain.images) :
    swapchain.acquire driver =
      if (driver.acquireResult swapchain.acquires).recreates then
        .ok (swapchain.refused driver, .recreateSwapchain)
      else .ok (swapchain.granted driver, .success) := by
  have fence : swapchain.currentFrame < swapchain.fences.length := tabled.fences ▸ inside
  have sync : swapchain.currentFrame < swapchain.syncs.length := tabled.syncs ▸ inside
  simp only [acquire, List.getElem?_eq_getElem fence, getElem?_syncs sync]
  rfl

/-- With the frame counter outside the tables, `acquire` reads past the end of the fences. -/
theorem acquire_outside {swapchain : Swapchain} (tabled : swapchain.Tabled)
    (outside : swapchain.images ≤ swapchain.currentFrame) :
    ∃ failure, swapchain.acquire driver = .error failure := by
  have fence := List.getElem?_eq_none (Nat.le_trans (Nat.le_of_eq tabled.fences) outside)
  simp only [acquire, fence]
  exact ⟨_, rfl⟩

section Fields

variable (swapchain : Swapchain)

@[simp] theorem creations_refused :
    (swapchain.refused driver).creations = swapchain.creations + 1 := rfl

@[simp] theorem currentFrame_refused :
    (swapchain.refused driver).currentFrame = swapchain.currentFrame := rfl

@[simp] theorem acquired_refused :
    (swapchain.refused driver).acquired = swapchain.acquired := rfl

@[simp] theorem acquires_refused :
    (swapchain.refused driver).acquires = swapchain.acquires + 1 := rfl

@[simp] theorem log_refused :
    (swapchain.refused driver).log =
      swapchain.log ++ [.acquireFailed swapchain.swapchain] := rfl

@[simp] theorem images_granted : (swapchain.granted driver).images = swapchain.images := rfl

@[simp] theorem swapchain_granted :
    (swapchain.granted driver).swapchain = swapchain.swapchain := rfl

@[simp] theorem creations_granted :
    (swapchain.granted driver).creations = swapchain.creations := rfl

@[simp] theorem currentFrame_granted :
    (swapchain.granted driver).currentFrame =
      (swapchain.currentFrame + 1) % swapchain.syncs.length := rfl

@[simp] theorem acquired_granted :
    (swapchain.granted driver).acquired = swapchain.acquired ++
      [⟨driver.acquireImage swapchain.acquires swapchain.images, swapchain.swapchain⟩] := rfl

@[simp] theorem skipFrame_granted :
    (swapchain.granted driver).skipFrame = swapchain.skipFrame := rfl

@[simp] theorem acquires_granted :
    (swapchain.granted driver).acquires = swapchain.acquires + 1 := rfl

@[simp] theorem presents_granted :
    (swapchain.granted driver).presents = swapchain.presents := rfl

@[simp] theorem log_granted :
    (swapchain.granted driver).log = swapchain.log ++
      [.acquired swapchain.swapchain (driver.acquireImage swapchain.acquires swapchain.images)
        (swapchain.sync swapchain.currentFrame).signal] := rfl

end Fields

/-! ## Submitting -/

/-- The swapchain after a submit of `image` that made its `presentKHR` call, before the image is
retired. -/
def shown (swapchain : Swapchain) (image : Nat) (source : Option Nat) : Swapchain :=
  { swapchain with
    presents := swapchain.presents + 1
    log := swapchain.log ++
      [FrameEvent.presented swapchain.swapchain image source (swapchain.sync image).waitSems] }

/-- The swapchain after a submit of `image` that made no call, before the image is retired. -/
def skipped (swapchain : Swapchain) (image : Nat) (source : Option Nat) : Swapchain :=
  { swapchain with
    skipFrame := true
    log := swapchain.log ++ [FrameEvent.skipped swapchain.swapchain image source] }

/-- The swapchain once `image` left the queue of those that were acquired, and its synchronization
was cleared. -/
def retired (swapchain : Swapchain) (image : Nat) (rest : List Acquired) : Swapchain :=
  { swapchain with
    acquired := rest
    syncs := swapchain.syncs.set image (swapchain.sync image).clear }

/-- Retiring an image succeeds exactly when its index is in the table of the synchronization. -/
theorem retire_eq (swapchain : Swapchain) (image : Nat) (rest : List Acquired)
    (result : Vulkan.Error) :
    swapchain.retire image rest result =
      if image < swapchain.syncs.length then .ok (swapchain.retired image rest, result)
      else .error (.syncs image swapchain.syncs.length) := by
  unfold retire
  by_cases inside : image < swapchain.syncs.length
  · rw [if_pos inside, getElem?_syncs inside]
    rfl
  · rw [if_neg inside, List.getElem?_eq_none (Nat.le_of_not_lt inside)]

/-- Whether the next submit presents and is asked for a new swapchain. -/
def Lapses (swapchain : Swapchain) : Prop :=
  swapchain.skipFrame = false ∧ (driver.presentResult swapchain.presents).recreates = true

instance (swapchain : Swapchain) : Decidable (swapchain.Lapses driver) := instDecidableAnd

/-- The swapchain after a submit that leaves it in place. -/
def closed (swapchain : Swapchain) (image : Nat) (source : Option Nat) : Swapchain :=
  if swapchain.skipFrame = false then (swapchain.shown image source).retired image []
  else (swapchain.skipped image source).retired image []

/-- The swapchain after a submit that was asked for a new one. -/
def lapsed (swapchain : Swapchain) (image : Nat) (source : Option Nat) : Swapchain :=
  ((swapchain.shown image source).initializeSwapchain driver).retired image []

/-- **Submitting the one acquired image.** It stays in range unless `submit` itself creates the
swapchain anew with too few images. -/
theorem submit_eq {swapchain : Swapchain} (tabled : swapchain.Tabled) {image : Nat}
    {source : Option Nat} (front : swapchain.acquired = [⟨image, source⟩])
    (inside : image < swapchain.images) :
    swapchain.submit driver =
      if swapchain.Lapses driver then
        if image < driver.imageCount swapchain.creations then
          .ok (swapchain.lapsed driver image source, .recreateSwapchain)
        else .error (.syncs image (driver.imageCount swapchain.creations))
      else .ok (swapchain.closed image source, .success) := by
  have entry : image < swapchain.syncs.length := tabled.syncs ▸ inside
  unfold submit
  rw [front]
  by_cases flag : swapchain.skipFrame = false
  · simp only [if_pos flag, getElem?_syncs entry]
    by_cases stale : (driver.presentResult swapchain.presents).recreates = true
    · -- the image is retired from the tables of the swapchain just created
      rw [if_pos ((VkResult.recreates_iff _).mp stale), if_pos ⟨flag, stale⟩, retire_eq,
        (tabled_initializeSwapchain driver _).syncs]
      rfl
    · rw [if_neg fun converted => stale ((VkResult.recreates_iff _).mpr converted),
        if_neg fun lapses => stale lapses.2, retire_eq, if_pos entry]
      unfold closed
      rw [if_pos flag]
      rfl
  · -- a skipped submit asks the presentation engine nothing
    simp only [if_neg flag]
    rw [if_neg fun lapses : swapchain.Lapses driver => flag lapses.1, retire_eq, if_pos entry]
    unfold closed
    rw [if_neg flag]
    rfl

/-- Without an acquired image, `submit` reads the front of an empty queue. -/
theorem submit_of_empty {swapchain : Swapchain} (empty : swapchain.acquired = []) :
    swapchain.submit driver = .error .acquired := by
  unfold submit
  rw [empty]

section Fields

variable (swapchain : Swapchain) (image : Nat) (source : Option Nat)

/-- What a submit adds to the record of events: a present, or a frame that is skipped. -/
def submission : FrameEvent :=
  if swapchain.skipFrame = false then
    .presented swapchain.swapchain image source (swapchain.sync image).waitSems
  else .skipped swapchain.swapchain image source

/-- A closed frame differs from the one before in the synchronization of its image, the queue, the
record and the count of presents. -/
theorem closed_eq :
    swapchain.closed image source =
      { swapchain with
        acquired := []
        syncs := swapchain.syncs.set image (swapchain.sync image).clear
        presents := swapchain.presents + (if swapchain.skipFrame = false then 1 else 0)
        log := swapchain.log ++ [swapchain.submission image source] } := by
  unfold closed submission
  by_cases flag : swapchain.skipFrame = false
  · simp only [if_pos flag]
    rfl
  · simp only [if_neg flag]
    -- setting the flag changes nothing, it is set already
    have set : swapchain.skipFrame = true := by simpa using flag
    simp only [retired, skipped, set, sync, Nat.add_zero]

@[simp] theorem images_closed : (swapchain.closed image source).images = swapchain.images := by
  rw [closed_eq]

@[simp] theorem swapchain_closed :
    (swapchain.closed image source).swapchain = swapchain.swapchain := by
  rw [closed_eq]

@[simp] theorem creations_closed :
    (swapchain.closed image source).creations = swapchain.creations := by
  rw [closed_eq]

@[simp] theorem currentFrame_closed :
    (swapchain.closed image source).currentFrame = swapchain.currentFrame := by
  rw [closed_eq]

@[simp] theorem acquired_closed : (swapchain.closed image source).acquired = [] := by
  rw [closed_eq]

@[simp] theorem skipFrame_closed :
    (swapchain.closed image source).skipFrame = swapchain.skipFrame := by
  rw [closed_eq]

@[simp] theorem acquires_closed :
    (swapchain.closed image source).acquires = swapchain.acquires := by
  rw [closed_eq]

@[simp] theorem log_closed :
    (swapchain.closed image source).log =
      swapchain.log ++ [swapchain.submission image source] := by
  rw [closed_eq]

/-- A submit that is not skipped makes one call of `presentKHR` more. -/
theorem presents_closed (plays : swapchain.skipFrame = false) :
    (swapchain.closed image source).presents = swapchain.presents + 1 := by
  rw [closed_eq, if_pos plays]

/-- A submit that is not skipped is recorded as a present, with the semaphores that it waits for. -/
theorem submission_of_plays (plays : swapchain.skipFrame = false) :
    swapchain.submission image source =
      .presented swapchain.swapchain image source (swapchain.sync image).waitSems :=
  if_pos plays

@[simp] theorem acquired_lapsed : (swapchain.lapsed driver image source).acquired = [] := rfl

@[simp] theorem skipFrame_lapsed :
    (swapchain.lapsed driver image source).skipFrame = swapchain.skipFrame := rfl

end Fields

/-- A submit that leaves the swapchain in place leaves the tables in place. -/
theorem Tabled.closed {swapchain : Swapchain} (tabled : swapchain.Tabled) (image : Nat)
    (source : Option Nat) : (swapchain.closed image source).Tabled := by
  rw [closed_eq]
  exact ⟨List.length_set.trans tabled.syncs, tabled.fences⟩

/-! ## Frames

`RenderPass::present` and `RenderPass::initialize` act on the swapchain alone, apart from the
render pass and framebuffers made again. -/

/-- The swapchain part of `RenderPass::initialize( device, window_id )`. -/
def reopen (swapchain : Swapchain) : Except FrameFailure Swapchain :=
  match (swapchain.initializeSwapchain driver).acquire driver with
  | .error failure => .error failure
  | .ok (swapchain, _) => .ok swapchain

/-- The swapchain part of `RenderPass::present`: a submit, and then an acquire or the recovery. -/
def turn (swapchain : Swapchain) : Except FrameFailure Swapchain :=
  match swapchain.submit driver with
  | .error failure => .error failure
  | .ok (submitted, .recreateSwapchain) => submitted.reopen driver
  | .ok (submitted, _) =>
      match submitted.acquire driver with
      | .error failure => .error failure
      | .ok (acquired, .recreateSwapchain) => acquired.reopen driver
      | .ok (acquired, _) => .ok acquired

/-- The swapchain part of a run of `initialize( device, window_id )` and `k` presents. -/
def turns (swapchain : Swapchain) : Nat → Except FrameFailure Swapchain
  | 0 => swapchain.reopen driver
  | k + 1 =>
      match swapchain.turns k with
      | .error failure => .error failure
      | .ok swapchain => swapchain.turn driver

/-- From a run of `turns` that returned, a run of one more is one more `turn`. -/
theorem turns_succ {swapchain reached : Swapchain} {k : Nat}
    (run : swapchain.turns driver k = .ok reached) :
    swapchain.turns driver (k + 1) = reached.turn driver := by
  simp only [turns, run]

/-- A run of `k + 1` presents that returned is a run of `k` that returned, and one more. -/
theorem turns_succ_ok {swapchain after : Swapchain} {k : Nat}
    (run : swapchain.turns driver (k + 1) = .ok after) :
    ∃ reached, swapchain.turns driver k = .ok reached ∧ reached.turn driver = .ok after := by
  cases earlier : swapchain.turns driver k with
  | error failure =>
      simp only [turns, earlier] at run
      cases run
  | ok reached => exact ⟨reached, rfl, (turns_succ driver earlier).symm.trans run⟩

/-- **Reopening.** The new swapchain needs more images than the frame counter says; its first
acquire is granted or refused. -/
theorem reopen_eq (swapchain : Swapchain) :
    (swapchain.currentFrame < driver.imageCount swapchain.creations →
      swapchain.reopen driver =
        if (driver.acquireResult swapchain.acquires).recreates then
          .ok ((swapchain.initializeSwapchain driver).refused driver)
        else .ok ((swapchain.initializeSwapchain driver).granted driver)) ∧
    (driver.imageCount swapchain.creations ≤ swapchain.currentFrame →
      ∃ failure, swapchain.reopen driver = .error failure) := by
  have tabled := tabled_initializeSwapchain driver swapchain
  constructor
  · intro inside
    unfold reopen
    rw [acquire_eq driver tabled inside]
    by_cases refuses : (driver.acquireResult swapchain.acquires).recreates = true
    · rw [if_pos refuses, acquires_initializeSwapchain, if_pos refuses]
    · rw [if_neg refuses, acquires_initializeSwapchain, if_neg refuses]
  · intro outside
    obtain ⟨failure, fails⟩ := acquire_outside driver tabled outside
    refine ⟨failure, ?_⟩
    unfold reopen
    rw [fails]

/-- **What reopening did**, if it returned: the frame counter is inside the new tables, and the
acquire was refused or granted. -/
theorem reopen_cases {swapchain after : Swapchain}
    (reopened : swapchain.reopen driver = .ok after) :
    swapchain.currentFrame < driver.imageCount swapchain.creations ∧
      ((driver.acquireResult swapchain.acquires).recreates = true ∧
          after = (swapchain.initializeSwapchain driver).refused driver ∨
        ¬(driver.acquireResult swapchain.acquires).recreates = true ∧
          after = (swapchain.initializeSwapchain driver).granted driver) := by
  by_cases inside : swapchain.currentFrame < driver.imageCount swapchain.creations
  · refine ⟨inside, ?_⟩
    rw [(reopen_eq driver swapchain).1 inside] at reopened
    by_cases refuses : (driver.acquireResult swapchain.acquires).recreates = true
    · rw [if_pos refuses] at reopened
      cases reopened
      exact Or.inl ⟨refuses, rfl⟩
    · rw [if_neg refuses] at reopened
      cases reopened
      exact Or.inr ⟨refuses, rfl⟩
  · obtain ⟨failure, fails⟩ := (reopen_eq driver swapchain).2 (Nat.le_of_not_lt inside)
    rw [fails] at reopened
    cases reopened

/-- The invariant of a run of frames: the tables have their sizes, and one image of the current
swapchain waits to be presented. -/
structure Framed (swapchain : Swapchain) : Prop extends swapchain.Tabled where
  currentFrame_lt : swapchain.currentFrame < swapchain.images
  front : ∃ image < swapchain.images, swapchain.acquired = [⟨image, swapchain.swapchain⟩]
  newest : ∃ generation, swapchain.swapchain = some generation ∧
    swapchain.creations = generation + 1

/-- An acquire that is granted while the queue is empty starts a frame. -/
theorem framed_granted {swapchain : Swapchain} (tabled : swapchain.Tabled)
    (inside : swapchain.currentFrame < swapchain.images) (empty : swapchain.acquired = [])
    (newest : ∃ generation, swapchain.swapchain = some generation ∧
      swapchain.creations = generation + 1) :
    (swapchain.granted driver).Framed where
  syncs := List.length_set.trans tabled.syncs
  fences := List.length_set.trans tabled.fences
  currentFrame_lt := by
    rw [currentFrame_granted, images_granted, tabled.syncs]
    exact Nat.mod_lt _ (Nat.zero_lt_of_lt inside)
  front := by
    refine ⟨driver.acquireImage swapchain.acquires swapchain.images,
      driver.acquireImage_lt _ _ (Nat.zero_lt_of_lt inside), ?_⟩
    rw [acquired_granted, empty]
    rfl
  newest := newest

/-- The acquire that is granted at the end of a reopening starts a frame. -/
theorem framed_reopened {swapchain : Swapchain}
    (inside : swapchain.currentFrame < driver.imageCount swapchain.creations)
    (empty : swapchain.acquired = []) :
    ((swapchain.initializeSwapchain driver).granted driver).Framed :=
  framed_granted driver (tabled_initializeSwapchain driver swapchain) inside empty
    ⟨swapchain.creations, rfl, rfl⟩

/-- The image that waits to be presented is one of the images of the swapchain. -/
theorem Framed.front_lt {swapchain : Swapchain} (framed : swapchain.Framed) {image : Nat}
    {source : Option Nat} (front : swapchain.acquired = [⟨image, source⟩]) :
    image < swapchain.images := by
  obtain ⟨other, inside, queue⟩ := framed.front
  rw [front] at queue
  cases queue
  exact inside

/-- The acquire that follows the submit of a frame never fails: it is granted, or asks for a new
swapchain. -/
theorem Framed.acquire_closed {swapchain : Swapchain} (framed : swapchain.Framed) (image : Nat) :
    (swapchain.closed image swapchain.swapchain).acquire driver =
      if (driver.acquireResult swapchain.acquires).recreates then
        .ok ((swapchain.closed image swapchain.swapchain).refused driver, .recreateSwapchain)
      else .ok ((swapchain.closed image swapchain.swapchain).granted driver, .success) := by
  have counter : (swapchain.closed image swapchain.swapchain).currentFrame <
      (swapchain.closed image swapchain.swapchain).images := by
    rw [currentFrame_closed, images_closed]
    exact framed.currentFrame_lt
  rw [acquire_eq driver (framed.toTabled.closed image _) counter, acquires_closed]

/-- **One present of a framed swapchain.** It fails when a submit that is asked for a new swapchain
gets one with too few images for the index it still retires; otherwise it reopens the swapchain
that `submit` or `acquire` gave up, or is granted the next image. -/
theorem turn_eq {swapchain : Swapchain} (framed : swapchain.Framed) {image : Nat}
    (front : swapchain.acquired = [⟨image, swapchain.swapchain⟩]) :
    swapchain.turn driver =
      if swapchain.Lapses driver then
        if image < driver.imageCount swapchain.creations then
          (swapchain.lapsed driver image swapchain.swapchain).reopen driver
        else .error (.syncs image (driver.imageCount swapchain.creations))
      else if (driver.acquireResult swapchain.acquires).recreates then
        ((swapchain.closed image swapchain.swapchain).refused driver).reopen driver
      else .ok ((swapchain.closed image swapchain.swapchain).granted driver) := by
  unfold turn
  rw [submit_eq driver framed.toTabled front (framed.front_lt front)]
  by_cases lapses : swapchain.Lapses driver
  · rw [if_pos lapses, if_pos lapses]
    by_cases fits : image < driver.imageCount swapchain.creations
    · rw [if_pos fits, if_pos fits]
    · rw [if_neg fits, if_neg fits]
  · rw [if_neg lapses, if_neg lapses]
    simp only [framed.acquire_closed driver image]
    by_cases refuses : (driver.acquireResult swapchain.acquires).recreates = true
    · rw [if_pos refuses, if_pos refuses]
    · rw [if_neg refuses, if_neg refuses]

/-- **What a present did** to a framed swapchain, if it returned: it reopened the swapchain that
`submit` or `acquire` gave up, or was granted the next image. -/
theorem turn_cases {swapchain after : Swapchain} (framed : swapchain.Framed) {image : Nat}
    (front : swapchain.acquired = [⟨image, swapchain.swapchain⟩])
    (turned : swapchain.turn driver = .ok after) :
    (swapchain.Lapses driver ∧ image < driver.imageCount swapchain.creations ∧
        (swapchain.lapsed driver image swapchain.swapchain).reopen driver = .ok after) ∨
      (¬swapchain.Lapses driver ∧ (driver.acquireResult swapchain.acquires).recreates = true ∧
        ((swapchain.closed image swapchain.swapchain).refused driver).reopen driver = .ok after) ∨
      (¬swapchain.Lapses driver ∧ ¬(driver.acquireResult swapchain.acquires).recreates = true ∧
        after = (swapchain.closed image swapchain.swapchain).granted driver) := by
  rw [turn_eq driver framed front] at turned
  by_cases lapses : swapchain.Lapses driver
  · rw [if_pos lapses] at turned
    by_cases fits : image < driver.imageCount swapchain.creations
    · rw [if_pos fits] at turned
      exact Or.inl ⟨lapses, fits, turned⟩
    · rw [if_neg fits] at turned
      cases turned
  · rw [if_neg lapses] at turned
    by_cases refuses : (driver.acquireResult swapchain.acquires).recreates = true
    · rw [if_pos refuses] at turned
      exact Or.inr (Or.inl ⟨lapses, refuses, turned⟩)
    · rw [if_neg refuses] at turned
      cases turned
      exact Or.inr (Or.inr ⟨lapses, refuses, rfl⟩)

/-- Where a run of frames can be between two presents: in a frame, or without an image because the
acquire that followed a recreation was refused. -/
def Opened (swapchain : Swapchain) : Prop :=
  swapchain.Framed ∨ (swapchain.acquired = [] ∧ swapchain.initialized = true)

/-- Reopening with an empty queue ends in a frame or without an image. -/
theorem opened_reopen {swapchain after : Swapchain} (empty : swapchain.acquired = [])
    (reopened : swapchain.reopen driver = .ok after) : after.Opened := by
  obtain ⟨inside, ⟨refuses, rfl⟩ | ⟨granted, rfl⟩⟩ := reopen_cases driver reopened
  · exact Or.inr ⟨empty, rfl⟩
  · exact Or.inl (framed_reopened driver inside empty)

/-- A present without an acquired image fails at the queue. -/
theorem turn_of_empty {swapchain : Swapchain} (empty : swapchain.acquired = []) :
    swapchain.turn driver = .error .acquired := by
  unfold turn
  rw [submit_of_empty driver empty]

/-- A present of a framed swapchain without a recreation ends in the next frame. -/
theorem framed_closed_granted {swapchain : Swapchain} (framed : swapchain.Framed) (image : Nat) :
    ((swapchain.closed image swapchain.swapchain).granted driver).Framed := by
  refine framed_granted driver (framed.toTabled.closed image _) ?_ (acquired_closed _ _ _) ?_
  · rw [currentFrame_closed, images_closed]
    exact framed.currentFrame_lt
  · rw [swapchain_closed, creations_closed]
    exact framed.newest

/-- A present that returns leaves a frame that is started, or a swapchain without an acquired
image. -/
theorem opened_turn {swapchain after : Swapchain} (opened : swapchain.Opened)
    (turned : swapchain.turn driver = .ok after) : after.Opened := by
  -- without an image the present would fail, so the run is in a frame
  rcases opened with framed | ⟨empty, -⟩
  · obtain ⟨image, -, front⟩ := framed.front
    rcases turn_cases driver framed front turned with
      ⟨-, -, reopened⟩ | ⟨-, -, reopened⟩ | ⟨-, -, rfl⟩
    · exact opened_reopen driver (acquired_lapsed driver _ _ _) reopened
    · refine opened_reopen driver ?_ reopened
      rw [acquired_refused, acquired_closed]
    · exact Or.inl (framed_closed_granted driver framed image)
  · rw [turn_of_empty driver empty] at turned
    cases turned

/-- **Run lemma.** Between two presents a run of frames is in a frame or without an image. -/
theorem opened_turns {swapchain : Swapchain} (empty : swapchain.acquired = []) {k : Nat}
    {reached : Swapchain} (run : swapchain.turns driver k = .ok reached) : reached.Opened := by
  induction k generalizing reached with
  | zero => exact opened_reopen driver empty run
  | succ k ih =>
      obtain ⟨before, earlier, turned⟩ := turns_succ_ok driver run
      exact opened_turn driver (ih earlier) turned

/-- Between two presents of a run there is a swapchain. -/
theorem Opened.initialized {swapchain : Swapchain} (opened : swapchain.Opened) :
    swapchain.initialized = true := by
  rcases opened with framed | ⟨-, initialized⟩
  · obtain ⟨generation, handle, -⟩ := framed.newest
    unfold Swapchain.initialized
    rw [handle]
    rfl
  · exact initialized

end Swapchain

/-! ## The render pass around the swapchain -/

namespace RenderPass

variable (driver : Driver)

@[simp] theorem swapchain_makeRenderPass (renderPass : RenderPass) :
    renderPass.makeRenderPass.swapchain = renderPass.swapchain := rfl

@[simp] theorem attachments_makeRenderPass (renderPass : RenderPass) :
    renderPass.makeRenderPass.attachments = renderPass.attachments := rfl

/-- What `initialize( device, window_id )` sets before it makes the render pass, given all the
attachments but the last and the last. -/
def windowed (renderPass : RenderPass) (device windowId : Nat) (others : List Attachment)
    (last : Attachment) : RenderPass :=
  let swapchain := renderPass.swapchain.initializeSwapchain driver
  { renderPass with
    device := some device
    swapchain := swapchain
    windowId := windowId
    area := swapchain.extent
    attachments := others ++
      [{ last with format := swapchain.surfaceFormat, finalLayout := .presentSrcKHR }] }

@[simp] theorem swapchain_windowed (renderPass : RenderPass) (device windowId : Nat)
    (others : List Attachment) (last : Attachment) :
    (renderPass.windowed driver device windowId others last).swapchain =
      renderPass.swapchain.initializeSwapchain driver := rfl

/-- `prepareWindow` on a render pass that has attachments goes by the last one of them. -/
theorem prepareWindow_eq {renderPass : RenderPass} {others : List Attachment} {last : Attachment}
    (attached : renderPass.attachments = others ++ [last]) (device windowId : Nat) :
    renderPass.prepareWindow driver device windowId =
      some (renderPass.windowed driver device windowId others last).makeRenderPass.makeFramebuffers
    := by
  unfold prepareWindow
  rw [attached, List.getLast?_concat, List.dropLast_concat]
  rfl

/-- A list of attachments that is not empty ends in its last element. -/
theorem exists_attachments_concat {renderPass : RenderPass}
    (attached : renderPass.attachments ≠ []) :
    ∃ others last, renderPass.attachments = others ++ [last] :=
  ⟨_, _, (List.dropLast_append_getLast attached).symm⟩

/-- `initialize( device, window_id )` acts on the swapchain as `reopen`. -/
theorem initializeWindow_swapchain {renderPass : RenderPass}
    (attached : renderPass.attachments ≠ []) (device windowId : Nat) :
    (renderPass.initializeWindow driver device windowId).map RenderPass.swapchain =
      renderPass.swapchain.reopen driver := by
  obtain ⟨others, last, split⟩ := exists_attachments_concat attached
  unfold initializeWindow Swapchain.reopen
  simp only [prepareWindow_eq driver split, swapchain_makeFramebuffers, swapchain_makeRenderPass,
    swapchain_windowed]
  cases (renderPass.swapchain.initializeSwapchain driver).acquire driver with
  | error failure => rfl
  | ok acquired => rfl

/-- `initialize( device, window_id )` keeps the attachments in number. -/
theorem initializeWindow_attachments {renderPass opened : RenderPass}
    (attached : renderPass.attachments ≠ []) {device windowId : Nat}
    (initialized : renderPass.initializeWindow driver device windowId = .ok opened) :
    opened.attachments ≠ [] := by
  obtain ⟨others, last, split⟩ := exists_attachments_concat attached
  unfold initializeWindow at initialized
  simp only [prepareWindow_eq driver split] at initialized
  have kept : (renderPass.windowed driver device windowId others
      last).makeRenderPass.makeFramebuffers.attachments ≠ [] := by
    rw [attachments_makeFramebuffers, attachments_makeRenderPass]
    exact List.append_ne_nil_of_right_ne_nil _ (List.cons_ne_nil _ _)
  cases acquire : (renderPass.windowed driver device windowId others
      last).makeRenderPass.makeFramebuffers.swapchain.acquire driver with
  | error failure =>
      rw [acquire] at initialized
      cases initialized
  | ok acquired =>
      rw [acquire] at initialized
      cases initialized
      exact kept

/-- The render pass as the recovery of `present` initialises it again. -/
def cleared (renderPass : RenderPass) : RenderPass :=
  { renderPass with images := [], framebuffers := [], currentFramebuffer := 0 }

/-- The recovery of `present` is `initialize( device, window_id )` of the cleared render pass. -/
theorem recreate_eq (renderPass : RenderPass) :
    renderPass.recreate driver =
      (renderPass.cleared.initializeWindow driver (renderPass.device.getD 0)
        renderPass.windowId).map (·, true) := by
  unfold recreate cleared
  dsimp only
  cases initializeWindow driver _ (renderPass.device.getD 0) renderPass.windowId with
  | error failure => rfl
  | ok opened => rfl

/-- The recovery of `present` acts on the swapchain as `reopen` does. -/
theorem recreate_swapchain {renderPass : RenderPass} (attached : renderPass.attachments ≠ []) :
    (renderPass.recreate driver).map (·.1.swapchain) = renderPass.swapchain.reopen driver := by
  have kept : renderPass.cleared.attachments ≠ [] := attached
  have reopened := initializeWindow_swapchain driver kept (renderPass.device.getD 0)
    renderPass.windowId
  -- clearing the framebuffers leaves the swapchain alone
  rw [recreate_eq, show renderPass.swapchain = renderPass.cleared.swapchain from rfl, ← reopened]
  cases renderPass.cleared.initializeWindow driver (renderPass.device.getD 0)
      renderPass.windowId with
  | error failure => rfl
  | ok opened => rfl

/-- The recovery of `present` does not remove all attachments. -/
theorem recreate_attachments {renderPass : RenderPass} (attached : renderPass.attachments ≠ [])
    {result : RenderPass × Bool} (recreated : renderPass.recreate driver = .ok result) :
    result.1.attachments ≠ [] := by
  have kept : renderPass.cleared.attachments ≠ [] := attached
  rw [recreate_eq] at recreated
  cases reopened : renderPass.cleared.initializeWindow driver (renderPass.device.getD 0)
      renderPass.windowId with
  | error failure =>
      rw [reopened] at recreated
      cases recreated
  | ok opened =>
      rw [reopened] at recreated
      cases recreated
      exact initializeWindow_attachments driver kept reopened

/-- `present` acts on the swapchain as `turn` does, if there are attachments and a swapchain. -/
theorem present_swapchain {renderPass : RenderPass} (attached : renderPass.attachments ≠ [])
    (initialized : renderPass.swapchain.initialized = true) :
    (renderPass.present driver).map (·.1.swapchain) = renderPass.swapchain.turn driver := by
  unfold present Swapchain.turn
  rw [if_pos initialized]
  -- both sides go the same way after each answer of the swapchain
  rcases renderPass.swapchain.submit driver with failure | ⟨submitted, answer⟩
  · rfl
  · cases answer with
    | recreateSwapchain => exact recreate_swapchain driver attached
    | _ =>
        dsimp only
        rcases submitted.acquire driver with failure | ⟨acquired, answer⟩
        · rfl
        · cases answer with
          | recreateSwapchain => exact recreate_swapchain driver attached
          | _ => rfl

/-- `present` does not remove all attachments. -/
theorem present_attachments {renderPass : RenderPass} (attached : renderPass.attachments ≠ [])
    {result : RenderPass × Bool} (presented : renderPass.present driver = .ok result) :
    result.1.attachments ≠ [] := by
  unfold present at presented
  by_cases initialized : renderPass.swapchain.initialized = true
  · rw [if_pos initialized] at presented
    rcases submit : renderPass.swapchain.submit driver with failure | ⟨submitted, answer⟩
    · rw [submit] at presented
      cases presented
    · rw [submit] at presented
      have attached' : { renderPass with swapchain := submitted }.attachments ≠ [] := attached
      cases answer with
      | recreateSwapchain => exact recreate_attachments driver attached' presented
      | _ =>
          rcases acquire : submitted.acquire driver with failure | ⟨acquired, answer⟩
          · simp only [acquire] at presented
            cases presented
          · simp only [acquire] at presented
            have attached' : { renderPass with swapchain := acquired }.attachments ≠ [] :=
              attached
            cases answer with
            | recreateSwapchain => exact recreate_attachments driver attached' presented
            | _ =>
                cases presented
                exact attached
  · rw [if_neg initialized] at presented
    cases presented
    exact attached

/-- Without attachments, `initialize( device, window_id )` stops before its first acquire. -/
theorem frames_of_no_attachments {renderPass : RenderPass}
    (none : renderPass.attachments = []) (device windowId k : Nat) :
    renderPass.frames driver device windowId k = .error .attachments := by
  induction k with
  | zero =>
      unfold frames initializeWindow prepareWindow
      rw [none]
      rfl
  | succ k ih => simp only [frames, ih]

/-- **The swapchain of a run of frames.** A run of `initialize( device, window_id )` and presents
acts on the swapchain as `Swapchain.turns`. -/
theorem frames_swapchain {renderPass : RenderPass} (attached : renderPass.attachments ≠ [])
    (empty : renderPass.swapchain.acquired = []) (device windowId k : Nat) :
    (renderPass.frames driver device windowId k).map RenderPass.swapchain =
        renderPass.swapchain.turns driver k ∧
      ∀ reached, renderPass.frames driver device windowId k = .ok reached →
        reached.attachments ≠ [] := by
  induction k with
  | zero =>
      exact ⟨initializeWindow_swapchain driver attached device windowId,
        fun reached run => initializeWindow_attachments driver attached run⟩
  | succ k ih =>
      obtain ⟨projects, attaches⟩ := ih
      cases run : renderPass.frames driver device windowId k with
      | error failure =>
          rw [run] at projects
          have fails : renderPass.swapchain.turns driver k = .error failure := projects.symm
          -- neither run goes on after a failure
          simp only [frames, Swapchain.turns, run, fails]
          exact ⟨rfl, fun reached ran => by cases ran⟩
      | ok before =>
          rw [run] at projects
          have turns : renderPass.swapchain.turns driver k = .ok before.swapchain :=
            projects.symm
          -- `present` needs the swapchain it checks for, which the run so far has opened
          have attached' := attaches before run
          have presented := present_swapchain driver attached'
            (Swapchain.opened_turns driver empty turns).initialized
          simp only [frames, Swapchain.turns, run, turns]
          rw [← presented]
          cases present : before.present driver with
          | error failure => exact ⟨rfl, fun reached ran => by cases ran⟩
          | ok result =>
              refine ⟨rfl, fun reached ran => ?_⟩
              cases ran
              exact present_attachments driver attached' present

/-- A run of frames that returned is, seen at the swapchain, a run of `turns` that returned. -/
theorem turns_of_frames {renderPass reached : RenderPass}
    (attached : renderPass.attachments ≠ []) (empty : renderPass.swapchain.acquired = [])
    {device windowId k : Nat} (run : renderPass.frames driver device windowId k = .ok reached) :
    renderPass.swapchain.turns driver k = .ok reached.swapchain := by
  rw [← (frames_swapchain driver attached empty device windowId k).1, run]
  rfl

/-- A run at the swapchain that returned is that of a run of frames. -/
theorem frames_of_turns {renderPass : RenderPass} {reached : Swapchain}
    (attached : renderPass.attachments ≠ []) (empty : renderPass.swapchain.acquired = [])
    (device windowId : Nat) {k : Nat} (run : renderPass.swapchain.turns driver k = .ok reached) :
    ∃ framed, renderPass.frames driver device windowId k = .ok framed ∧
      framed.swapchain = reached := by
  rw [← (frames_swapchain driver attached empty device windowId k).1] at run
  cases frames : renderPass.frames driver device windowId k with
  | error failure =>
      rw [frames] at run
      cases run
  | ok framed =>
      rw [frames] at run
      cases run
      exact ⟨framed, rfl, rfl⟩

end RenderPass

end Nyx
