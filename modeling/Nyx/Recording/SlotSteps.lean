import Mathlib.Logic.Relation
import Nyx.Recording.Subpasses

/-! # Operations as steps on slots

Whatever an operation of a chain does to its ring is a sequence of steps, each on one slot: the slot
is begun, something is recorded into it or it is ended, or it is submitted. An invariant of the
slots and the log that these steps keep is therefore kept by every operation.

* **`SlotAction.Quiet`** — an action without a wait, a begin or a submit.
* **`SlotStep`** — the steps.
* **`Op.slotSteps`** — every operation of a chain on its ring is a sequence of them. -/

namespace Nyx

open Foundations

/-- An action that neither waits for the slot nor begins or submits it. -/
structure SlotAction.Quiet (action : SlotAction) : Prop where
  calls : ∀ slot, ∀ call ∈ action.calls slot, (∃ command, call = .command command) ∨
    call = .endBuffer
  isSignaled : ∀ slot, action.isSignaled slot = slot.isSignaled

/-- To record commands into a slot is quiet. -/
theorem SlotAction.quiet_emit (commands : List Command) : (SlotAction.emit commands).Quiet := by
  refine ⟨fun slot call hcall => Or.inl ?_, fun _ => rfl⟩
  obtain ⟨command, -, rfl⟩ := List.mem_map.mp hcall
  exact ⟨command, rfl⟩

/-- To end a slot is quiet, with an open render pass or without. -/
theorem SlotAction.quiet_stop : SlotAction.stop.Quiet := by
  refine ⟨fun slot call hcall => ?_, fun _ => rfl⟩
  cases hstarted : slot.startedRenderPass <;> simp [SlotAction.stop, hstarted] at hcall
  · exact Or.inr hcall
  · exact hcall.imp_left fun heq => ⟨_, heq⟩

/-- To move to the next subpass is quiet. -/
theorem SlotAction.quiet_nextSubpass (contents : SubpassContents) :
    (SlotAction.nextSubpass contents).Quiet := by
  refine ⟨fun slot call hcall => Or.inl ?_, fun _ => rfl⟩
  cases hstarted : slot.startedRenderPass <;> simp [SlotAction.nextSubpass, hstarted] at hcall
  exact ⟨_, hcall⟩

/-- The slots of a ring, and the log of all calls on them. -/
abbrev RingState := (Nat → Slot) × List Event

/-- The ring after an action on slot `i`, whose calls are logged. -/
def RingState.act (ring : RingState) (i : Nat) (action : SlotAction) : RingState :=
  (Function.update ring.1 i (action.apply (ring.1 i)), ring.2 ++ action.events i (ring.1 i))

/-- The ring after the GPU completed the submissions of some slots. -/
def RingState.complete (ring : RingState) (done : Nat → Bool) : RingState :=
  (fun i =>
    let slot := ring.1 i
    if done i then { slot with vk := { slot.vk with fence := slot.vk.fence.complete } } else slot,
    ring.2)

/-- **One step** on a ring: a slot is begun, submitted or acted on quietly, or submissions
complete. -/
inductive SlotStep : RingState → RingState → Prop
  | begin (ring : RingState) (i : Nat) (info : BeginInfo) (opening : List Command)
      (started : Bool) : SlotStep ring (ring.act i (.begin info opening started))
  | quiet (ring : RingState) (i : Nat) {action : SlotAction} (h : action.Quiet) :
      SlotStep ring (ring.act i action)
  | submit (ring : RingState) (i : Nat) : SlotStep ring (ring.act i .submit)
  | complete (ring : RingState) (done : Nat → Bool) : SlotStep ring (ring.complete done)

/-- Some steps on a ring, one after the other. -/
abbrev SlotSteps : RingState → RingState → Prop := Relation.ReflTransGen SlotStep

/-- What every step on a ring keeps, some steps keep. -/
theorem SlotSteps.preserves (Inv : RingState → Prop) {ring ring' : RingState}
    (hstep : ∀ ring ring', SlotStep ring ring' → Inv ring → Inv ring')
    (h : SlotSteps ring ring') (hring : Inv ring) : Inv ring' := by
  induction h with
  | refl => exact hring
  | tail _ hlast ih => exact hstep _ _ hlast ih

namespace CommandBuffer

/-- The slots of a command buffer, and its log. -/
def ring (cmd : CommandBuffer) : RingState := (cmd.slots, cmd.log)

variable {cmd : CommandBuffer} {body : CommandBuffer → CommandBuffer} {action : SlotAction}
  {flag : Bool → Bool}

/-- A loop over a body whose action makes a step is a sequence of steps. -/
theorem slotSteps_forEach (hbody : cmd.Performs body action flag)
    (haction : ∀ ring i, SlotStep ring (ring.act i action)) (n : Nat) :
    SlotSteps cmd.ring (cmd.forEach n body).ring := by
  induction n generalizing cmd with
  | zero => exact .refl
  | succ n ih =>
      obtain ⟨hslots, hlog, -, -⟩ := hbody.step
      have hround : (body cmd).advance.ring = cmd.ring.act cmd.current action :=
        Prod.ext hslots hlog
      rw [forEach_succ]
      refine .head ?_ (ih hbody.next)
      rw [hround]
      exact haction _ _

end CommandBuffer

namespace ChainData

variable {data : ChainData} {body : CommandBuffer → CommandBuffer} {action : SlotAction}
  {flag : Bool → Bool}

/-- A broadcast of a body whose action makes a step is a sequence of steps. -/
theorem slotSteps_broadcast (hbody : data.cmd.Performs body action flag)
    (haction : ∀ ring i, SlotStep ring (ring.act i action)) :
    SlotSteps data.cmd.ring (data.broadcast body).cmd.ring :=
  CommandBuffer.slotSteps_forEach hbody haction data.numCmd

/-- A `record` of a chain on its ring is a sequence of steps. -/
theorem OnRing.slotSteps_record (h : data.OnRing) (passes : PassId → RenderPass)
    (useRenderPass : Bool) :
    SlotSteps data.cmd.ring (data.record passes useRenderPass).cmd.ring := by
  cases hrec : data.cmd.recording with
  | true =>
      rw [record_of_recording hrec]
      exact .refl
  | false =>
      rw [record_of_not_recording hrec]
      exact slotSteps_broadcast (h.performs_recordBody passes useRenderPass)
        fun ring i => .begin ring i ..

/-- An `end` of a chain is a sequence of steps. -/
theorem slotSteps_stop : SlotSteps data.cmd.ring data.stop.cmd.ring := by
  unfold ChainData.stop
  split
  · exact slotSteps_broadcast CommandBuffer.performs_stop
      fun ring i => .quiet ring i SlotAction.quiet_stop
  · exact .refl

/-- A wait for a device, which completes what was submitted to it, is a sequence of steps. -/
theorem slotSteps_deviceSynchronize (device : Option Nat) :
    SlotSteps data.cmd.ring (data.deviceSynchronize device).cmd.ring := by
  rcases data.deviceSynchronize_cases device with same | same
  · rw [same]
    exact .single (.complete data.cmd.ring fun _ => true)
  · rw [same]

/-- The moves of an operation of a chain on its ring are a sequence of steps. -/
theorem OnRing.slotSteps_moves (h : data.OnRing) (passes : PassId → RenderPass)
    (moves : List Move) : SlotSteps data.cmd.ring (data.moves passes moves).cmd.ring := by
  induction moves generalizing data with
  | nil => exact .refl
  | cons move moves ih =>
      refine Relation.ReflTransGen.trans ?_ (ih (h.keeps_move passes move).ring)
      cases move with
      | storeImageBarrier | storeBufferBarrier | markRecord => exact .refl
      | record useRenderPass => exact h.slotSteps_record passes useRenderPass
      | each bound commands =>
          exact slotSteps_broadcast (CommandBuffer.performs_issueBound bound commands)
            fun ring i => .quiet ring i (SlotAction.quiet_emit commands)
      | synchronize device => exact slotSteps_deviceSynchronize _

end ChainData

namespace Session

variable {s t : Session}

/-- A `submit` of a chain on its ring is a sequence of steps. -/
theorem slotSteps_submit (env : Environment) (h : s.data.OnRing) :
    SlotSteps s.data.cmd.ring (s.submit env).data.cmd.ring := by
  have hstop : SlotSteps s.data.cmd.ring s.data.stop.cmd.ring := ChainData.slotSteps_stop
  by_cases hready : s.data.stop.parent = none ∧ s.data.stop.hasRecord = true ∧
      s.data.stop.dirty = true
  · rw [submit_of_ready env hready, CommandBuffer.submit_eq _ h.keeps_stop.ring.level]
    exact hstop.tail (.submit s.data.stop.cmd.ring s.data.stop.cmd.current)
  · rw [submit_of_not_ready env hready]
    exact hstop

/-- A `combine` of a chain on its ring is a sequence of steps, if it returns. -/
theorem slotSteps_combine (h : s.data.OnRing) {childId : ChainId} {child : ChainData}
    (hstep : s.combine childId child = .ok t) : SlotSteps s.data.cmd.ring t.data.cmd.ring := by
  rcases combine_ok hstep with ⟨-, -, -, pass, -, rfl⟩ | rfl
  · have hbody := performs_combine s.data.cmd childId child.cmd
    have hexecuted : SlotSteps s.data.cmd.ring
        (({ s.data with hasRecord := true } : ChainData).broadcast
          (·.combine childId child.cmd)).cmd.ring :=
      @ChainData.slotSteps_broadcast { s.data with hasRecord := true } _ _ _ hbody
        fun ring i => .quiet ring i (SlotAction.quiet_emit _)
    dsimp only
    split
    · refine hexecuted.trans (ChainData.slotSteps_broadcast (performs_nextSubpass ?_)
        fun ring i => .quiet ring i (SlotAction.quiet_nextSubpass _))
      exact (h.broadcast hbody fun _ => rfl).level
    · exact hexecuted
  · exact .refl

end Session

/-- **Every operation** of a chain on its ring is a sequence of steps. -/
theorem Op.slotSteps {env : Environment} {s t : Session} {op : Op} (h : s.data.OnRing)
    (hstep : op.step env s = .ok t) : SlotSteps s.data.cmd.ring t.data.cmd.ring := by
  cases op with
  | begin =>
      cases hstep
      rw [Session.begin, h.parent]
      exact h.slotSteps_record s.world.passes s.data.pass.isSome
  | advance =>
      cases hstep
      exact .refl
  | setMode mode =>
      cases hstep
      cases mode <;> exact .refl
  | stop =>
      cases hstep
      exact ChainData.slotSteps_stop
  | submit =>
      cases hstep
      exact Session.slotSteps_submit env h
  | synchronize =>
      cases hstep
      unfold Session.synchronize
      split
      · exact .single (.complete s.data.cmd.ring fun _ => true)
      · exact .refl
  | recording op =>
      obtain ⟨recipe, -, rfl⟩ := op.exists_recipe hstep
      exact h.slotSteps_moves s.world.passes recipe.1
  | combine childId child => exact Session.slotSteps_combine h hstep

end Nyx
