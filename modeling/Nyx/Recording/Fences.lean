import Nyx.Foundations.StepMachines
import Nyx.Recording.CommandBuffers

/-! # The fences of a command buffer ring

The host knows one bit about a fence, `is_signaled`, while the GPU moves the fence through three
states at times of its own choosing. This file runs a primary command buffer through any sequence
of its operations, with completions by the GPU anywhere in between, and shows the fence discipline:

* **`RingOp`**, **`RingOp.step`** — the operations on the ring, and the GPU completing a submission.
* **`Event.FenceLawful`** — what Vulkan asks of each call that touches a fence.
* **`FencesTracked`** — the invariant: the bit is clear exactly while the fence is unsignaled with
  nothing outstanding, and it is clear from a `record` on until the submit.
* **`fence_discipline`** — every run in which only recorded and stopped slots are submitted makes
  lawful calls only. -/

namespace Nyx

open Foundations

/-! ## The machine -/

/-- An operation on the ring, or the GPU completing what was submitted from a slot. -/
inductive RingOp
  | record
  | recordPass (renderPass : RenderPass)
  | recordSubpass (renderPass : RenderPass) (index : Nat)
  | stop
  | advance
  | setActive (index : Nat)
  | submit
  | complete (slot : Nat)
  deriving DecidableEq

/-- One step of the ring, in which it operates or the GPU completes; none of them can fail. -/
def RingOp.step (cmd : CommandBuffer) : RingOp → Except Empty CommandBuffer
  | .record => .ok cmd.record
  | .recordPass renderPass => .ok (cmd.recordPass renderPass)
  | .recordSubpass renderPass index => .ok (cmd.recordSubpass renderPass index)
  | .stop => .ok cmd.stop
  | .advance => .ok cmd.advance
  | .setActive index => .ok (cmd.setActive index)
  | .submit => .ok (Queue.submit cmd)
  | .complete i => .ok (cmd.complete i)

/-! ## The law -/

/-- What Vulkan asks of a call: a wait is for a fence that is signaled or will be, a fence is not
reset and a buffer not begun under an outstanding submission, and a submit is given a fence that is
unsignaled and not in use. -/
def Event.FenceLawful (event : Event) : Prop :=
  match event.call with
  | .waitForFences => event.before.fence ≠ .unsignaled
  | .resetFences => event.before.fence ≠ .outstanding
  | .beginBuffer _ => event.before.fence ≠ .outstanding
  | .submit => event.before.fence = .unsignaled
  | .command _ | .endBuffer => True

/-- How far a slot has come since its last submission. -/
inductive Readiness
  | idle | begun | ready
  deriving DecidableEq, Repr

/-- Follow slot `i` through one event: a `begin`, then an `end`, then a submit. -/
def Readiness.after (i : Nat) (readiness : Readiness) (event : Event) : Readiness :=
  if event.slot = i then
    match event.call, readiness with
    -- anything out of this order leaves the slot as far as it was
    | .beginBuffer _, .idle => .begun
    | .endBuffer, .begun => .ready
    | .submit, _ => .idle
    | _, readiness => readiness
  else readiness

/-- How far slot `i` has come since its last submission. -/
def readiness (log : List Event) (i : Nat) : Readiness := log.foldl (Readiness.after i) .idle

/-- A submit targets a slot that was recorded and stopped since its last submission. -/
def SubmitsReady (cmd : CommandBuffer) (op : RingOp) : Prop :=
  op = .submit → readiness cmd.log cmd.current = .ready

instance (cmd : CommandBuffer) (op : RingOp) : Decidable (SubmitsReady cmd op) :=
  inferInstanceAs (Decidable (op = .submit → readiness cmd.log cmd.current = .ready))

/-- Events on other slots do not change how far slot `i` has come. -/
theorem readiness_append_of_ne {log events : List Event} {i : Nat}
    (h : ∀ event ∈ events, event.slot ≠ i) : readiness (log ++ events) i = readiness log i := by
  unfold readiness
  rw [List.foldl_append]
  generalize log.foldl (Readiness.after i) .idle = start
  induction events with
  | nil => rfl
  | cons event events ih =>
      have hskip : start.after i event = start := if_neg (h event List.mem_cons_self)
      rw [List.foldl_cons, hskip]
      exact ih fun e he => h e (List.mem_cons_of_mem event he)

/-- A slot that is idle since its last submission stays so with further commands and an `end`. -/
theorem readiness_stop_idle {log : List Event} {i : Nat} (slot : Slot)
    (h : readiness log i = .idle) :
    readiness (log ++ SlotAction.stop.events i slot) i = .idle := by
  unfold readiness at h ⊢
  rw [List.foldl_append, h]
  cases hs : slot.startedRenderPass <;>
    simp [SlotAction.events, SlotAction.stop, hs, callEvents, Readiness.after]

/-- A slot is idle right after a submit of it, however far it had come. -/
theorem readiness_submit {log : List Event} {i : Nat} (slot : Slot) :
    readiness (log ++ SlotAction.submit.events i slot) i = .idle := by
  unfold readiness
  rw [List.foldl_append]
  simp [SlotAction.events, SlotAction.submit, callEvents, Readiness.after]

/-! ## What the host bit says about the fence -/

/-- The bit is clear exactly while the fence is unsignaled and nothing is outstanding. -/
def Slot.FenceTracked (slot : Slot) : Prop :=
  slot.isSignaled = true ↔ slot.vk.fence ≠ .unsignaled

/-- A `record` of a slot whose fence is tracked leaves this fence unsignaled. -/
theorem fence_begin {slot : Slot} (h : slot.FenceTracked) (info : BeginInfo)
    (opening : List Command) (started : Bool) :
    ((SlotAction.begin info opening started).apply slot).vk.fence = .unsignaled := by
  have hframe := fun vk => (foldl_perform_commands_frame vk opening).2
  cases hs : slot.isSignaled with
  | true => simp [SlotAction.apply, SlotAction.begin, hs, VkSlot.perform, hframe]
  | false =>
      have hfence : slot.vk.fence = .unsignaled := by
        by_contra hne
        rw [h.mpr hne] at hs
        cases hs
      simp [SlotAction.apply, SlotAction.begin, hs, VkSlot.perform, hframe, hfence]

/-- To stop a slot leaves its fence alone, whatever state it is in. -/
theorem fence_stop (slot : Slot) : (SlotAction.stop.apply slot).vk.fence = slot.vk.fence := by
  cases hs : slot.startedRenderPass <;>
    simp only [SlotAction.apply, SlotAction.stop, hs, VkSlot.perform, List.nil_append,
      List.cons_append, List.foldl_cons, List.foldl_nil, if_true, Bool.false_eq_true, if_false] <;>
    split <;> rfl

/-- Commands are lawful whatever the state of the fence of their slot. -/
theorem fenceLawful_of_mem_commands {i : Nat} {vk : VkSlot} {commands : List Command}
    {event : Event} (h : event ∈ callEvents i vk (commands.map .command)) :
    event.FenceLawful := by
  induction commands generalizing vk with
  | nil => exact absurd h List.not_mem_nil
  | cons command commands ih =>
      rw [List.map_cons, callEvents, List.mem_cons] at h
      rcases h with h | h
      · rw [h]
        trivial
      · exact ih h

/-- A `record` makes lawful calls: it waits for a fence that is signaled or will be, and begins the
buffer when nothing is outstanding. -/
theorem fenceLawful_begin {slot : Slot} (h : slot.FenceTracked) {info : BeginInfo}
    {opening : List Command} {started : Bool} {i : Nat} {event : Event}
    (hevent : event ∈ (SlotAction.begin info opening started).events i slot) :
    event.FenceLawful := by
  rw [SlotAction.events, SlotAction.begin] at hevent
  cases hs : slot.isSignaled with
  | true =>
      have hwait := h.mp hs
      simp only [hs, if_true, List.cons_append, List.nil_append, callEvents, List.mem_cons]
        at hevent
      rcases hevent with rfl | rfl | rfl | hevent
      · exact hwait
      · simp [Event.FenceLawful, VkSlot.perform]
      · simp [Event.FenceLawful, VkSlot.perform]
      · exact fenceLawful_of_mem_commands hevent
  -- no wait, no reset: a clear bit says that the fence is unsignaled with nothing outstanding
  | false =>
      have hidle : slot.vk.fence = .unsignaled := by
        by_contra hne
        rw [h.mpr hne] at hs
        cases hs
      simp only [hs, Bool.false_eq_true, if_false, List.nil_append, callEvents, List.mem_cons]
        at hevent
      rcases hevent with rfl | hevent
      · simp [Event.FenceLawful, hidle]
      · exact fenceLawful_of_mem_commands hevent

/-! ## The invariant -/

/-- **Fences are tracked.** The host bits agree with the fences, a slot that was begun since its
last submission has its bit clear, and every call so far was lawful. -/
structure FencesTracked (cmd : CommandBuffer) : Prop where
  level : cmd.level = .primary
  tracked : ∀ i, (cmd.slots i).FenceTracked
  begun : ∀ i, readiness cmd.log i ≠ .idle → (cmd.slots i).isSignaled = false
  lawful : ∀ event ∈ cmd.log, event.FenceLawful

/-- A freshly initialised primary ring: all fences are signaled and all bits set. -/
theorem fencesTracked_fresh (queue : Queue) (n : Nat) (multiPass : Bool) :
    FencesTracked (({} : CommandBuffer).initializeBuffers queue n .primary multiPass) where
  level := rfl
  tracked _ := by simp [CommandBuffer.initializeBuffers, Slot.FenceTracked]
  begun i h := absurd rfl h
  lawful event h := absurd h List.not_mem_nil

variable {cmd : CommandBuffer}

/-- An action keeps the fences tracked when it does so on its slot. -/
theorem FencesTracked.act (h : FencesTracked cmd) {action : SlotAction}
    (htracked : (action.apply cmd.active).FenceTracked)
    (hbegun : readiness (cmd.log ++ action.events cmd.current cmd.active) cmd.current ≠ .idle →
      (action.apply cmd.active).isSignaled = false)
    (hlawful : ∀ event ∈ action.events cmd.current cmd.active, event.FenceLawful) :
    FencesTracked (cmd.act action) where
  level := h.level
  tracked i := by
    by_cases hi : i = cmd.current
    · simpa only [CommandBuffer.act, hi, Function.update_self] using htracked
    · simpa only [CommandBuffer.act, Function.update_of_ne hi] using h.tracked i
  begun i hne := by
    by_cases hi : i = cmd.current
    · subst hi
      simpa only [CommandBuffer.act, Function.update_self] using hbegun hne
    · have hsame : readiness (cmd.act action).log i = readiness cmd.log i :=
        readiness_append_of_ne fun event hevent => by
          rw [slot_of_mem_callEvents hevent]
          exact Ne.symm hi
      simp only [CommandBuffer.act, Function.update_of_ne hi]
      exact h.begun i (hsame ▸ hne)
  lawful event hevent := by
    rcases List.mem_append.mp hevent with hold | hnew
    · exact h.lawful event hold
    · exact hlawful event hnew

/-- Each form of `record` on a primary ring keeps the fences tracked. -/
theorem FencesTracked.begin (h : FencesTracked cmd) (info : BeginInfo) (opening : List Command)
    (started : Bool) : FencesTracked (cmd.act (.begin info opening started)) := by
  have htracked := h.tracked cmd.current
  refine h.act ?_ (fun _ => rfl) fun event hevent => fenceLawful_begin htracked hevent
  have hfence := fence_begin htracked info opening started
  constructor
  · -- after a `record` the bit is clear and the fence unsignaled, whatever they were
    intro hbit
    cases hbit
  · intro hne
    exact absurd hfence hne

/-- A `stop` of the slot under the cursor keeps the fences of the ring tracked. -/
theorem FencesTracked.stop (h : FencesTracked cmd) : FencesTracked (cmd.act .stop) := by
  have htracked := h.tracked cmd.current
  refine h.act ?_ ?_ ?_
  · rw [Slot.FenceTracked, fence_stop]
    exact htracked
  · intro hne
    refine h.begun cmd.current fun hidle => hne ?_
    exact readiness_stop_idle cmd.active hidle
  · intro event hevent
    rw [SlotAction.events, SlotAction.stop] at hevent
    cases hs : cmd.active.startedRenderPass <;> simp [hs, callEvents] at hevent
    · rw [hevent]
      trivial
    · rcases hevent with rfl | rfl <;> trivial

/-- A submit of a slot that was recorded since its last submission keeps the fences tracked. -/
theorem FencesTracked.submit (h : FencesTracked cmd)
    (hready : readiness cmd.log cmd.current ≠ .idle) : FencesTracked (cmd.act .submit) := by
  refine h.act ?_ (fun hne => absurd (readiness_submit cmd.active) hne) ?_
  · simp [Slot.FenceTracked, SlotAction.apply, SlotAction.submit, VkSlot.perform]
  · intro event hevent
    simp only [SlotAction.events, SlotAction.submit, callEvents, List.mem_singleton] at hevent
    -- the bit is clear since the slot was begun, and a clear bit means an idle fence
    have hbit := h.begun cmd.current hready
    have hidle : cmd.active.vk.fence = .unsignaled := by
      by_contra hne
      rw [(h.tracked cmd.current).mpr hne] at hbit
      cases hbit
    rw [hevent]
    exact hidle

/-- A completion by the GPU keeps the fences tracked: only a set bit goes with a fence it moves. -/
theorem FencesTracked.complete (h : FencesTracked cmd) (i : Nat) :
    FencesTracked (cmd.complete i) where
  level := h.level
  tracked j := by
    by_cases hj : j = i
    · subst hj
      have hold := h.tracked j
      simp only [CommandBuffer.complete, Function.update_self, Slot.FenceTracked] at hold ⊢
      -- a completion signals only fences that were not unsignaled, so both sides stay as they were
      rw [hold]
      cases (cmd.slots j).vk.fence <;> decide
    · simpa only [CommandBuffer.complete, Function.update_of_ne hj] using h.tracked j
  begun j hne := by
    have hold := h.begun j hne
    by_cases hj : j = i
    · subst hj
      simpa only [CommandBuffer.complete, Function.update_self] using hold
    · simpa only [CommandBuffer.complete, Function.update_of_ne hj] using hold
  lawful := h.lawful

/-- One step of the ring never fails and keeps the fences tracked. -/
theorem FencesTracked.step (h : FencesTracked cmd) (op : RingOp) (hready : SubmitsReady cmd op) :
    ∃ cmd', RingOp.step cmd op = .ok cmd' ∧ FencesTracked cmd' := by
  -- `recording`, `bound` and the cursor are not part of the invariant
  have frame : ∀ {a b : CommandBuffer}, FencesTracked a → b.level = a.level → b.slots = a.slots →
      b.log = a.log → FencesTracked b := by
    intro a b ha hlevel hslots hlog
    exact ⟨hlevel.trans ha.level, hslots ▸ ha.tracked, hslots ▸ hlog ▸ ha.begun, hlog ▸ ha.lawful⟩
  cases op with
  | record =>
      refine ⟨_, rfl, ?_⟩
      rw [CommandBuffer.record_eq]
      exact frame (h.begin cmd.beginInfo [] false) rfl rfl rfl
  | recordPass renderPass =>
      refine ⟨_, rfl, ?_⟩
      rw [CommandBuffer.recordPass, if_pos h.level, CommandBuffer.recordPrimary_eq]
      exact frame (h.begin _ _ _) rfl rfl rfl
  | recordSubpass renderPass index =>
      refine ⟨_, rfl, ?_⟩
      rw [CommandBuffer.recordSubpass, if_pos h.level, CommandBuffer.recordPrimary_eq]
      exact frame (h.begin _ _ _) rfl rfl rfl
  | stop =>
      refine ⟨_, rfl, ?_⟩
      rw [CommandBuffer.stop_eq]
      exact frame h.stop rfl rfl rfl
  | advance => exact ⟨_, rfl, frame h rfl rfl rfl⟩
  | setActive index => exact ⟨_, rfl, frame h rfl rfl rfl⟩
  | submit =>
      refine ⟨_, rfl, ?_⟩
      have hne : readiness cmd.log cmd.current ≠ .idle := by
        rw [hready rfl]
        decide
      rw [CommandBuffer.submit_eq cmd h.level]
      exact frame (h.submit hne) rfl rfl rfl
  | complete i => exact ⟨_, rfl, h.complete i⟩

/-- **The fence discipline.** For every primary ring, every sequence of operations in which each
submit targets a slot recorded and stopped since its last submission, and every order and time of
completions, the run goes through and all its calls are lawful. -/
theorem fence_discipline (queue : Queue) (n : Nat) (multiPass : Bool) (ops : List RingOp)
    (h : StepsMeet RingOp.step SubmitsReady
      (({} : CommandBuffer).initializeBuffers queue n .primary multiPass) ops) :
    ∃ cmd, runSteps RingOp.step
        (({} : CommandBuffer).initializeBuffers queue n .primary multiPass) ops = .ok cmd ∧
      ∀ event ∈ cmd.log, event.FenceLawful := by
  obtain ⟨cmd, hrun, htracked⟩ := runSteps_total FencesTracked
    (fun _ op hinv hready => hinv.step op hready) (fencesTracked_fresh queue n multiPass) h
  exact ⟨cmd, hrun, htracked.lawful⟩

/-- Two slots, each submitted twice, with a completion between the rounds. -/
theorem fence_discipline_two_rounds :
    ∃ cmd, runSteps RingOp.step (({} : CommandBuffer).initializeBuffers {} 2 .primary false)
        [.record, .stop, .submit, .recordPass {}, .stop, .submit, .complete 0, .record, .stop,
          .submit, .recordSubpass {} 1, .stop, .submit] = .ok cmd ∧
      ∀ event ∈ cmd.log, event.FenceLawful :=
  fence_discipline {} 2 false _ (by decide +kernel)

end Nyx
