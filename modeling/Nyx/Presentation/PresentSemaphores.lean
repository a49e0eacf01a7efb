import Mathlib.Tactic.Common
import Nyx.Presentation.FrameSteps

/-! # The semaphore a present waits for

A run of alternating successful `acquire` and `submit` calls. `acquire` files the semaphore it hands
to the presentation engine under the frame counter; `submit` looks its waits up, and clears them,
under the image index.

* **`Swapchain.rounds`** — the run.
* **`OwnWaits`** — each present waits for exactly the semaphore its own acquire was told to signal.
* **`Swapchain.Steady`** — the invariant after `k` rounds: as long as each present had its own
  waits, no wait list holds anything.
* **`Swapchain.presents_wait_own`** — a run has its own waits just when the presentation engine
  hands the images out in order, from image 0 on. -/

namespace Nyx

/-! ## Runs -/

/-- A run of `k` calls of `acquire`, each followed by a `submit`. -/
def Swapchain.rounds (driver : Driver) (swapchain : Swapchain) :
    Nat → Except FrameFailure Swapchain
  | 0 => .ok swapchain
  | k + 1 =>
      match swapchain.rounds driver k with
      | .error failure => .error failure
      | .ok swapchain =>
          match swapchain.acquire driver with
          | .error failure => .error failure
          | .ok (acquired, _) =>
              match acquired.submit driver with
              | .error failure => .error failure
              | .ok (submitted, _) => .ok submitted

/-- The image an acquire returned and the semaphores it was told to signal. -/
def FrameEvent.signalled : FrameEvent → Option (Nat × List Nat)
  | .acquired _ image signal => some (image, signal.toList)
  | _ => none

/-- The image a present was for and the semaphores it waits for. -/
def FrameEvent.awaited : FrameEvent → Option (Nat × List Nat)
  | .presented _ image _ waits => some (image, waits)
  | _ => none

/-- Present for present, the record waits for what the acquire of the presented image was told to
signal, and for nothing else. -/
def OwnWaits (log : List FrameEvent) : Prop :=
  log.filterMap FrameEvent.awaited = log.filterMap FrameEvent.signalled

instance (log : List FrameEvent) : Decidable (OwnWaits log) :=
  inferInstanceAs (Decidable (_ = _))

/-- A round adds to own waits just when its present waits for the semaphore of its acquire. -/
theorem ownWaits_round (log : List FrameEvent) (swapchain source : Option Nat)
    (image semaphore : Nat) (waits : List Nat) :
    OwnWaits (log ++ [.acquired swapchain image (some semaphore)] ++
        [.presented swapchain image source waits]) ↔
      OwnWaits log ∧ waits = [semaphore] := by
  unfold OwnWaits
  simp only [List.filterMap_append]
  -- the acquire adds to the right-hand side alone, the present to the left-hand side alone
  show (_ ++ [] ++ [(image, waits)] = _ ++ [(image, [semaphore])] ++ []) ↔ _
  rw [List.append_nil, List.append_nil, List.append_singleton_inj]
  simp only [Prod.mk.injEq, true_and]

namespace Swapchain

variable (driver : Driver)

/-! ## Synchronizations of images -/

/-- Padding a list to a length keeps its entries and fills up with the default. -/
theorem getD_takeD {α : Type*} (fill : α) :
    ∀ (n i : Nat) (l : List α), i < n → (l.takeD n fill)[i]? = some (l.getD i fill)
  | 0, i, _, inside => absurd inside (Nat.not_lt_zero i)
  | n + 1, 0, l, _ => by
      rw [List.takeD_succ]
      cases l <;> rfl
  | n + 1, i + 1, l, inside => by
      rw [List.takeD_succ, List.getElem?_cons_succ,
        getD_takeD fill n i l.tail (Nat.lt_of_succ_lt_succ inside)]
      cases l <;> rfl

/-- `initialize` gives each image a fresh signal semaphore and keeps what it waits on. -/
theorem sync_initializeSwapchain (swapchain : Swapchain) {index : Nat}
    (inside : index < driver.imageCount swapchain.creations) :
    (swapchain.initializeSwapchain driver).sync index =
      (swapchain.sync index).initializeSync 1 (swapchain.handles + 2 * index) := by
  show (((swapchain.syncs.takeD (driver.imageCount swapchain.creations) {}).mapIdx fun i sync =>
    sync.initializeSync 1 (swapchain.handles + 2 * i)).getD index {}) = _
  rw [List.getD_eq_getElem?_getD, List.getElem?_mapIdx, getD_takeD _ _ _ _ inside]
  rfl

/-- After the synchronization of one image was set, that image has the new one, and the others have
theirs. -/
theorem getD_set_syncs (swapchain : Swapchain) {index : Nat}
    (inside : index < swapchain.syncs.length) (sync : Synchronization) (other : Nat) :
    (swapchain.syncs.set index sync).getD other {} =
      if other = index then sync else swapchain.sync other := by
  unfold Swapchain.sync
  rw [List.getD_eq_getElem?_getD, List.getD_eq_getElem?_getD, List.getElem?_set]
  by_cases same : index = other
  · rw [if_pos same, if_pos inside, if_pos same.symm, Option.getD_some]
  · rw [if_neg same, if_neg (Ne.symm same)]

/-! ## The invariant -/

/-- The invariant after `k` rounds on a swapchain of `n` images: image `i` signals semaphore
`2 * i`, and as long as every present had its own waits nothing is left to wait for. -/
structure Steady (n k : Nat) (swapchain : Swapchain) : Prop extends swapchain.Tabled where
  images_eq : swapchain.images = n
  currentFrame_eq : swapchain.currentFrame = k % n
  empty : swapchain.acquired = []
  plays : swapchain.skipFrame = false
  acquires_eq : swapchain.acquires = k
  presents_eq : swapchain.presents = k
  signals : ∀ i < n, (swapchain.sync i).signalSems = [2 * i]
  waits : OwnWaits swapchain.log → ∀ i < n, (swapchain.sync i).waitSems = []
  own : OwnWaits swapchain.log ↔
    ∀ t < k, driver.acquireImage t n = t % n

/-- A swapchain that was just initialised is steady, and has made no round. -/
theorem steady_initializeSwapchain :
    (({} : Swapchain).initializeSwapchain driver).Steady driver (driver.imageCount 0) 0 where
  toTabled := tabled_initializeSwapchain driver {}
  images_eq := rfl
  currentFrame_eq := (Nat.zero_mod _).symm
  empty := rfl
  plays := rfl
  acquires_eq := rfl
  presents_eq := rfl
  signals := by
    intro i inside
    rw [sync_initializeSwapchain driver {} inside]
    show [0 + 2 * i] = [2 * i]
    rw [Nat.zero_add]
  waits := by
    intro _ i inside
    rw [sync_initializeSwapchain driver {} inside]
    rfl
  own := ⟨fun _ t before => absurd before (Nat.not_lt_zero t), fun _ => rfl⟩

/-! ## A round -/

/-- The image that the next acquire returns, when it succeeds. -/
def nextImage (swapchain : Swapchain) : Nat :=
  driver.acquireImage swapchain.acquires swapchain.images

/-- The swapchain after a round of two successful calls. -/
def played (swapchain : Swapchain) : Swapchain :=
  (swapchain.granted driver).closed (swapchain.nextImage driver) swapchain.swapchain

/-- A granted acquire lets the synchronization of the frame wait for its own signal. -/
theorem sync_granted (swapchain : Swapchain)
    (inside : swapchain.currentFrame < swapchain.syncs.length) (index : Nat) :
    (swapchain.granted driver).sync index =
      if index = swapchain.currentFrame then
        (swapchain.sync swapchain.currentFrame).waitOn (swapchain.sync swapchain.currentFrame)
      else swapchain.sync index :=
  getD_set_syncs swapchain inside _ index

/-- A closed frame clears the synchronization of its image, and of no other. -/
theorem sync_closed (swapchain : Swapchain) {image : Nat}
    (inside : image < swapchain.syncs.length) (source : Option Nat) (index : Nat) :
    (swapchain.closed image source).sync index =
      if index = image then (swapchain.sync image).clear else swapchain.sync index := by
  rw [closed_eq]
  exact getD_set_syncs swapchain inside _ index

section Round

variable {driver} {n k : Nat} {swapchain : Swapchain}

/-- The frame counter of a steady swapchain is an index of the table of the synchronization. -/
theorem Steady.currentFrame_lt (steady : swapchain.Steady driver n k) (positive : 0 < n) :
    swapchain.currentFrame < swapchain.syncs.length := by
  rw [steady.syncs, steady.images_eq, steady.currentFrame_eq]
  exact Nat.mod_lt k positive

/-- The next image of a steady swapchain is an index of the table of the synchronization. -/
theorem Steady.nextImage_lt (steady : swapchain.Steady driver n k) (positive : 0 < n) :
    swapchain.nextImage driver < swapchain.syncs.length := by
  rw [steady.syncs]
  exact driver.acquireImage_lt _ _ (steady.images_eq ▸ positive)

/-- A round of two successful calls returns, and leaves the swapchain that `played` says. -/
theorem Steady.round (steady : swapchain.Steady driver n k) (positive : 0 < n)
    (acquired : driver.acquireResult k = .success)
    (presented : driver.presentResult k = .success) :
    swapchain.acquire driver = .ok (swapchain.granted driver, .success) ∧
      (swapchain.granted driver).submit driver = .ok (swapchain.played driver, .success) := by
  have frame := steady.currentFrame_lt positive
  have image := steady.nextImage_lt positive
  have accepted : (driver.acquireResult swapchain.acquires).recreates ≠ true := by
    rw [steady.acquires_eq, acquired]
    decide
  -- the submit finds its image in range and presents it without a recreation
  have keeps : ¬(swapchain.granted driver).Lapses driver := by
    rintro ⟨-, stale⟩
    rw [presents_granted, steady.presents_eq, presented] at stale
    cases stale
  have tabled : (swapchain.granted driver).Tabled :=
    ⟨List.length_set.trans steady.syncs, List.length_set.trans steady.fences⟩
  have front : (swapchain.granted driver).acquired =
      [⟨swapchain.nextImage driver, swapchain.swapchain⟩] := by
    rw [acquired_granted, steady.empty]
    rfl
  constructor
  · rw [acquire_eq driver steady.toTabled (steady.syncs ▸ frame), if_neg accepted]
  · rw [submit_eq driver tabled front (steady.syncs ▸ image), if_neg keeps]
    rfl

/-- What a round adds to the record: the acquire, and a present that waits for whatever the
synchronization of the *image* waits for by then. -/
theorem Steady.log_played (steady : swapchain.Steady driver n k) (positive : 0 < n) :
    (swapchain.played driver).log = swapchain.log ++
      [.acquired swapchain.swapchain (swapchain.nextImage driver)
        (some (2 * swapchain.currentFrame))] ++
      [.presented swapchain.swapchain (swapchain.nextImage driver) swapchain.swapchain
        ((swapchain.granted driver).sync (swapchain.nextImage driver)).waitSems] := by
  have signal : (swapchain.sync swapchain.currentFrame).signal =
      some (2 * swapchain.currentFrame) := by
    have inside : swapchain.currentFrame < n :=
      steady.images_eq ▸ steady.syncs ▸ steady.currentFrame_lt positive
    unfold Synchronization.signal
    rw [steady.signals _ inside]
    rfl
  have plays : (swapchain.granted driver).skipFrame = false := steady.plays
  unfold played
  rw [log_closed, log_granted, signal, submission_of_plays _ _ _ plays]
  rfl

/-- With nothing left to wait for, a present waits for its own acquire just when its image is the
one the frame counter says. -/
theorem Steady.waitSems_eq_iff (steady : swapchain.Steady driver n k) (positive : 0 < n)
    (own : OwnWaits swapchain.log) :
    ((swapchain.granted driver).sync (swapchain.nextImage driver)).waitSems =
        [2 * swapchain.currentFrame] ↔
      swapchain.nextImage driver = swapchain.currentFrame := by
  have frame := steady.currentFrame_lt positive
  have image := steady.nextImage_lt positive
  have size : swapchain.syncs.length = n := steady.syncs.trans steady.images_eq
  rw [size] at frame image
  rw [sync_granted driver swapchain (size.symm ▸ frame)]
  by_cases same : swapchain.nextImage driver = swapchain.currentFrame
  · -- the entry the acquire filed the semaphore in, and nothing else is left in it
    rw [if_pos same, Synchronization.waitSems_waitOn, steady.waits own _ frame,
      steady.signals _ frame]
    exact ⟨fun _ => same, fun _ => rfl⟩
  · -- another entry, with nothing to wait for
    rw [if_neg same, steady.waits own _ image]
    exact ⟨fun none => (List.cons_ne_nil _ _ none.symm).elim, fun equal => absurd equal same⟩

/-- A round clears the lists of the image it presents, and leaves the others to the acquire. -/
theorem Steady.sync_played (steady : swapchain.Steady driver n k) (positive : 0 < n) (i : Nat) :
    (swapchain.played driver).sync i =
      if i = swapchain.nextImage driver then
        ((swapchain.granted driver).sync (swapchain.nextImage driver)).clear
      else (swapchain.granted driver).sync i := by
  have image : swapchain.nextImage driver < (swapchain.granted driver).syncs.length := by
    rw [show (swapchain.granted driver).syncs.length = swapchain.syncs.length from List.length_set]
    exact steady.nextImage_lt positive
  exact sync_closed (swapchain.granted driver) image swapchain.swapchain i

/-- Up to a round own waits left the lists empty, so the round decides for itself. -/
theorem Steady.ownWaits_played (steady : swapchain.Steady driver n k) (positive : 0 < n) :
    OwnWaits (swapchain.played driver).log ↔
      OwnWaits swapchain.log ∧ swapchain.nextImage driver = swapchain.currentFrame := by
  rw [steady.log_played positive, ownWaits_round]
  exact and_congr_right fun own => steady.waitSems_eq_iff positive own

/-- An entry keeps the one semaphore that it signals, through all rounds. -/
theorem Steady.signals_played (steady : swapchain.Steady driver n k) (positive : 0 < n) {i : Nat}
    (inside : i < n) : ((swapchain.played driver).sync i).signalSems = [2 * i] := by
  have granted : ((swapchain.granted driver).sync i).signalSems = [2 * i] := by
    rw [sync_granted driver swapchain (steady.currentFrame_lt positive)]
    by_cases same : i = swapchain.currentFrame
    · rw [if_pos same, Synchronization.signalSems_waitOn, ← same]
      exact steady.signals i inside
    · rw [if_neg same]
      exact steady.signals i inside
  rw [steady.sync_played positive]
  by_cases same : i = swapchain.nextImage driver
  · rw [if_pos same, Synchronization.signalSems_clear, ← same]
    exact granted
  · rw [if_neg same]
    exact granted

/-- When all presents so far waited for their own semaphores, no entry has one left to wait for. -/
theorem Steady.waits_played (steady : swapchain.Steady driver n k) (positive : 0 < n)
    (own : OwnWaits (swapchain.played driver).log) {i : Nat} (inside : i < n) :
    ((swapchain.played driver).sync i).waitSems = [] := by
  obtain ⟨before, same⟩ := (steady.ownWaits_played positive).mp own
  rw [steady.sync_played positive]
  by_cases presented : i = swapchain.nextImage driver
  · rw [if_pos presented, Synchronization.waitSems_clear]
  · -- the only entry the acquire waited on is the one just cleared
    rw [if_neg presented, sync_granted driver swapchain (steady.currentFrame_lt positive),
      if_neg (same ▸ presented)]
    exact steady.waits before i inside

/-- **Step lemma.** A round of two successful calls keeps the invariant. -/
theorem Steady.played (steady : swapchain.Steady driver n k) (positive : 0 < n) :
    (swapchain.played driver).Steady driver n (k + 1) := by
  have size : swapchain.syncs.length = n := steady.syncs.trans steady.images_eq
  have nextImage : swapchain.nextImage driver = driver.acquireImage k n := by
    unfold Swapchain.nextImage
    rw [steady.acquires_eq, steady.images_eq]
  exact
    { toTabled := Tabled.closed
        ⟨List.length_set.trans steady.syncs, List.length_set.trans steady.fences⟩ _ _
      images_eq := by
        unfold Swapchain.played
        rw [images_closed]
        exact steady.images_eq
      currentFrame_eq := by
        unfold Swapchain.played
        rw [currentFrame_closed, currentFrame_granted, size, steady.currentFrame_eq,
          Nat.mod_add_mod]
      empty := acquired_closed _ _ _
      plays := by
        unfold Swapchain.played
        rw [skipFrame_closed]
        exact steady.plays
      acquires_eq := by
        unfold Swapchain.played
        rw [acquires_closed, acquires_granted, steady.acquires_eq]
      presents_eq := by
        have plays : (swapchain.granted driver).skipFrame = false := steady.plays
        unfold Swapchain.played
        rw [presents_closed _ _ _ plays, presents_granted, steady.presents_eq]
      signals := fun i inside => steady.signals_played positive inside
      waits := fun own i inside => steady.waits_played positive own inside
      own := by
        rw [steady.ownWaits_played positive, steady.own, nextImage, steady.currentFrame_eq]
        constructor
        · rintro ⟨before, now⟩ t inside
          rcases Nat.lt_succ_iff_lt_or_eq.mp inside with earlier | rfl
          · exact before t earlier
          · exact now
        · intro all
          exact ⟨fun t earlier => all t (Nat.lt_succ_of_lt earlier), all k (Nat.lt_succ_self k)⟩ }

end Round

/-- **Run lemma.** A run of successful rounds returns, in a steady state. -/
theorem steady_rounds (T : Nat) (acquired : ∀ t < T, driver.acquireResult t = .success)
    (presented : ∀ t < T, driver.presentResult t = .success) :
    ∃ reached, (({} : Swapchain).initializeSwapchain driver).rounds driver T = .ok reached ∧
      reached.Steady driver (driver.imageCount 0) T := by
  induction T with
  | zero => exact ⟨_, rfl, steady_initializeSwapchain driver⟩
  | succ T ih =>
      obtain ⟨reached, run, steady⟩ := ih (fun t before => acquired t (Nat.lt_succ_of_lt before))
        (fun t before => presented t (Nat.lt_succ_of_lt before))
      have positive := driver.imageCount_pos 0
      obtain ⟨acquire, submit⟩ := steady.round positive (acquired T (Nat.lt_succ_self T))
        (presented T (Nat.lt_succ_self T))
      refine ⟨reached.played driver, ?_, steady.played positive⟩
      simp only [rounds, run, acquire, submit]

/-- **A present waits for its own acquire just when images come in order.** Every run of successful
rounds from a new swapchain returns, and each of its presents waits for exactly the semaphore that
the acquire of its image was told to signal if and only if the `t`-th acquire returned image `t`
modulo the number of images, for each `t`: then the frame counter that files the semaphore and the
image index that looks it up are one. -/
theorem presents_wait_own (T : Nat) (acquired : ∀ t < T, driver.acquireResult t = .success)
    (presented : ∀ t < T, driver.presentResult t = .success) :
    ∃ reached, (({} : Swapchain).initializeSwapchain driver).rounds driver T = .ok reached ∧
      (OwnWaits reached.log ↔
        ∀ t < T, driver.acquireImage t (driver.imageCount 0) = t % driver.imageCount 0) := by
  obtain ⟨reached, run, steady⟩ := steady_rounds driver T acquired presented
  exact ⟨reached, run, steady.own⟩

/-- Three images in order, for four rounds: every present waits for its own semaphores. -/
theorem presents_wait_own_inOrder :
    ∃ reached, (({} : Swapchain).initializeSwapchain (.inOrder 3 (by decide))).rounds
        (.inOrder 3 (by decide)) 4 = .ok reached ∧
      (OwnWaits reached.log ↔ ∀ t < 4, (t + 0) % 3 = t % 3) :=
  presents_wait_own (.inOrder 3 (by decide)) 4 (fun _ _ => rfl) (fun _ _ => rfl)

/-- Two images, the second of which comes first: the first present waits for nothing. -/
theorem not_presents_wait_own :
    ∃ reached, (({} : Swapchain).initializeSwapchain
        (.scripted (fun _ => 2) (fun _ => by decide) 1 [] [])).rounds
        (.scripted (fun _ => 2) (fun _ => by decide) 1 [] []) 1 = .ok reached ∧
      reached.log = [.acquired (some 0) 1 (some 0), .presented (some 0) 1 (some 0) []] ∧
      ¬OwnWaits reached.log :=
  ⟨_, rfl, rfl, by decide⟩

end Swapchain

end Nyx
