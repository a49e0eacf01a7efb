import Nyx.Recording.Broadcasts
import Nyx.Recording.CommandLists
import Nyx.Recording.RecordingDiscipline

/-! # Sequential chains are command lists

A chain left in `Sequential` mode keeps two cursors, three flags and a ring of four buffers. This
file ties all of them to one command list:

* **`ledger`** — the submissions and the commands issued, read off the log of Vulkan calls.
* **`ChainData.Sequential`** — the invariant of the mode: both cursors agree, and only the slot
  under them is being recorded or holds commands that wait for a submit.
* **`ChainData.tape`**, **`Session.list`** — the command list a sequential chain stands for.
* **`Session.step_list`**, **`Session.run_list`** — every operation, and every run, of a sequential
  chain is the operation, or the run, of that list. -/

namespace Nyx

open Foundations

/-! ## The ledger of a log -/

/-- What one Vulkan call adds to the ledger: a command is issued, a buffer is submitted, and other
calls add nothing. -/
def Ledger.after (ledger : Ledger) (event : Event) : Ledger :=
  match event.call with
  | .command command => ledger.issue [command]
  | .submit => ledger.submit event.slot event.before.state event.before.commands
  | .waitForFences | .resetFences | .beginBuffer _ | .endBuffer => ledger

/-- The submissions and the commands issued since the last one, as the log tells them. -/
def ledger (log : List Event) : Ledger := log.foldl Ledger.after {}

theorem ledger_append (log events : List Event) :
    ledger (log ++ events) = events.foldl Ledger.after (ledger log) :=
  List.foldl_append

/-- Commands that are recorded one by one into a slot are issued, in order. -/
theorem foldl_after_commands (start : Ledger) (i : Nat) (vk : VkSlot) (commands : List Command) :
    (callEvents i vk (commands.map .command)).foldl Ledger.after start = start.issue commands := by
  induction commands generalizing start vk with
  | nil => exact (Ledger.issue_nil start).symm
  | cons command commands ih =>
      rw [List.map_cons, callEvents, List.foldl_cons, ih]
      exact Ledger.issue_issue start [command] commands

namespace SlotAction

variable (start : Ledger) (i : Nat) (slot : Slot) (info : BeginInfo)
  (opening commands : List Command) (started : Bool)

/-- To begin a slot issues what opens the recording. -/
theorem ledger_begin :
    ((begin info opening started).events i slot).foldl Ledger.after start
      = start.issue opening := by
  cases hs : slot.isSignaled with
  | true =>
      simp only [events, begin, hs, if_true, List.cons_append, List.nil_append, callEvents,
        List.foldl_cons]
      exact foldl_after_commands _ i _ opening
  | false =>
      simp only [events, begin, hs, Bool.false_eq_true, if_false, List.nil_append, callEvents,
        List.foldl_cons]
      exact foldl_after_commands _ i _ opening

/-- To record commands into a slot issues them, in order. -/
theorem ledger_emit :
    ((emit commands).events i slot).foldl Ledger.after start = start.issue commands :=
  foldl_after_commands start i slot.vk commands

/-- To stop a slot issues the end of its render pass, if one was started there. -/
theorem ledger_stop :
    (stop.events i slot).foldl Ledger.after start
      = start.issue (if slot.startedRenderPass then [.endRenderPass] else []) := by
  cases hs : slot.startedRenderPass <;>
    simp [events, stop, hs, callEvents, Ledger.after]

/-- To begin a slot replaces what it held by what opens the recording. -/
theorem commands_begin :
    ((begin info opening started).apply slot).vk.commands = opening := by
  cases hs : slot.isSignaled with
  | true =>
      simp only [apply, begin, hs, if_true, List.cons_append, List.nil_append, List.foldl_cons,
        VkSlot.perform]
      rw [foldl_perform_commands _ rfl, List.nil_append]
  | false =>
      simp only [apply, begin, hs, Bool.false_eq_true, if_false, List.nil_append, List.foldl_cons,
        VkSlot.perform]
      rw [foldl_perform_commands _ rfl, List.nil_append]

variable {slot}

/-- Commands are appended to what a slot holds, if it is being recorded. -/
theorem commands_emit (h : slot.vk.state = .recording) :
    ((emit commands).apply slot).vk.commands = slot.vk.commands ++ commands := by
  rw [apply, emit]
  simp only [foldl_perform_commands _ h]

/-- Stopping a slot that is being recorded appends the end of its render pass. -/
theorem commands_stop (h : slot.vk.state = .recording) :
    (stop.apply slot).vk.commands
      = slot.vk.commands ++ if slot.startedRenderPass then [.endRenderPass] else [] := by
  cases hs : slot.startedRenderPass <;> simp [apply, stop, hs, VkSlot.perform, h]

end SlotAction

/-! ## The invariant -/

namespace ChainData

/-- **Sequential.** One buffer at a time, the one under both cursors: it is the one that is
recorded, only it may have a render pass open, and when the chain is dirty without recording it is
ended and waits for the submit. -/
structure Sequential (data : ChainData) : Prop extends data.OnRing where
  one : data.numCmd = 1
  home : data.cmd.current = data.current
  state : data.cmd.recording = true → data.cmd.active.vk.state = .recording
  started : ∀ i, (data.cmd.slots i).startedRenderPass = true →
    data.cmd.recording = true ∧ i = data.current
  ended : data.dirty = true → data.cmd.recording = false →
    data.hasRecord = true ∧ data.cmd.active.vk.state = .executable

/-- A chain that is fresh is sequential. -/
theorem Fresh.sequential_data {data : ChainData} (h : data.Fresh) : data.Sequential where
  toOnRing := h.toOnRing
  one := h.sequential
  home := h.home
  state hrec := by
    rw [h.idle] at hrec
    cases hrec
  started i hstarted := by
    rw [h.slots i] at hstarted
    cases hstarted
  ended hdirty := by
    rw [h.clean] at hdirty
    cases hdirty

/-- The tape a chain stands for: what the slot under the cursor holds, while it is recorded or waits
for the submit. -/
def tape (data : ChainData) : Tape where
  recording := data.cmd.recording
  inPass := data.cmd.active.startedRenderPass
  commands :=
    if data.cmd.recording = true ∨ data.dirty = true then data.cmd.active.vk.commands else []
  dirty := data.dirty
  hasRecord := data.hasRecord
  cursor := data.current
  ledger := ledger data.cmd.log

/-- The tape of a fresh chain is empty; `has_record` is the one field in which fresh chains may
differ. -/
theorem Fresh.tape_eq {data : ChainData} (h : data.Fresh) :
    data.tape = { hasRecord := data.hasRecord } := by
  have hslot : data.cmd.active = {} := h.slots _
  simp only [tape, hslot, h.idle, h.clean, h.zero, h.log, Bool.false_eq_true, or_self, if_false]
  rfl

variable {data : ChainData} {body : CommandBuffer → CommandBuffer} {action : SlotAction}
  {flag : Bool → Bool}

/-- In `Sequential` mode a broadcast is one round of its body, on the slot under the cursor. -/
theorem Sequential.broadcast_eq (h : data.Sequential) (hbody : data.cmd.Performs body action flag) :
    data.broadcast body = { data with cmd := body data.cmd } := by
  have hagree := (hbody data.cmd rfl).1
  have hsize : (body data.cmd).size = commandBufferCount :=
    (CommandBuffer.size_eq_of_setup hagree.setup).trans h.size
  have hcursor : (body data.cmd).current = data.current := hagree.current.trans h.home
  -- one round of the loop advances the cursor, and `setActive` takes it back
  have hround : data.cmd.forEach data.numCmd body = (body data.cmd).advance := by
    rw [h.one]
    rfl
  have hback : ((body data.cmd).advance).setActive data.current = body data.cmd := by
    have hlt : data.current < (body data.cmd).advance.size := by
      show data.current < (body data.cmd).size
      rw [hsize]
      exact h.current
    rw [CommandBuffer.setActive, if_pos hlt, ← hcursor]
    rfl
  rw [broadcast, hround, hback]

/-- After one round the slot under the cursor is the one from before, after the action. -/
theorem active_of_performs (hbody : data.cmd.Performs body action flag) :
    (body data.cmd).active = action.apply data.cmd.active := by
  have hagree := (hbody data.cmd rfl).1
  rw [CommandBuffer.active, hagree.slots, hagree.current]
  exact CommandBuffer.active_act data.cmd action

/-- After one round the log has the events of the action on the slot under the cursor, after those
from before. -/
theorem log_of_performs (hbody : data.cmd.Performs body action flag) :
    (body data.cmd).log = data.cmd.log ++ action.events data.cmd.current data.cmd.active :=
  (hbody data.cmd rfl).1.log

/-- After one round all slots but the one under the cursor are as they were. -/
theorem slots_of_performs (hbody : data.cmd.Performs body action flag) {i : Nat}
    (hi : i ≠ data.cmd.current) : (body data.cmd).slots i = data.cmd.slots i := by
  rw [(hbody data.cmd rfl).1.slots]
  exact Function.update_of_ne hi _ _

/-! ## Moves -/

/-- What a recording of the chain begins with does not depend on its command buffers, their setup
apart. -/
theorem opening_congr {data' : ChainData} (passes : PassId → RenderPass)
    (hpass : data'.pass = data.pass) (hsetup : data'.cmd.setup = data.cmd.setup) :
    data'.opening passes = data.opening passes := by
  funext useRenderPass
  rw [opening, opening, hpass, CommandBuffer.subpassFlags_eq_of_setup hsetup]

/-- A recording opens a render pass exactly when it begins with a command. -/
theorem opens_eq (passes : PassId → RenderPass) (useRenderPass : Bool) :
    data.opens passes useRenderPass = !(data.opening passes useRenderPass).isEmpty := by
  unfold opens opening
  cases data.pass with
  | none => rfl
  | some pass => cases huse : (passes pass).initialized && useRenderPass <;> simp [huse]

/-- A step of a chain that keeps it sequential, does `f` to its tape and leaves its pass, its queue
and its setup alone. -/
structure Tapes (data data' : ChainData) (f : Tape → Tape) : Prop where
  sequential : data'.Sequential
  tape : data'.tape = f data.tape
  pass : data'.pass = data.pass
  queue : data'.queue = data.queue
  setup : data'.cmd.setup = data.cmd.setup

/-- While a sequential chain is not recording, no render pass is open in any of its slots. -/
theorem Sequential.not_started (h : data.Sequential) (hidle : data.cmd.recording = false)
    (i : Nat) : (data.cmd.slots i).startedRenderPass = false := by
  cases hs : (data.cmd.slots i).startedRenderPass with
  | false => rfl
  | true => cases hidle.symm.trans (h.started i hs).1

/-- A `record` of a sequential chain begins its tape, with what the render pass opens. -/
theorem Sequential.record (h : data.Sequential) (passes : PassId → RenderPass)
    (useRenderPass : Bool) :
    data.Tapes (data.record passes useRenderPass)
      (·.record (data.opening passes useRenderPass)) := by
  cases hrec : data.cmd.recording with
  | true =>
      -- both cursors agree, so putting the buffer cursor back moves nothing
      have hstay : data.cmd.setActive data.current = data.cmd := by
        rw [CommandBuffer.setActive, if_pos (by rw [h.size]; exact h.current), ← h.home]
      rw [record_of_recording hrec, hstay]
      refine ⟨h, ?_, rfl, rfl, rfl⟩
      have htape : data.tape.recording = true := hrec
      show data.tape = data.tape.record _
      rw [Tape.record, if_pos htape]
  | false =>
      have hbody := h.toOnRing.performs_recordBody passes useRenderPass
      have hactive := active_of_performs hbody
      have hflag := (hbody data.cmd rfl).2
      rw [record_of_not_recording hrec, h.broadcast_eq hbody]
      have hring : ({ data with cmd := data.recordBody passes useRenderPass data.cmd } :
          ChainData).OnRing := h.broadcast_eq hbody ▸ h.toOnRing.broadcast hbody fun _ => rfl
      -- no render pass was open, so the slot has one now just when its opening is not empty
      have hclosed := h.not_started hrec
      refine ⟨⟨hring, h.one, ?_, ?_, ?_, ?_⟩, ?_, rfl, rfl, (hbody data.cmd rfl).1.setup⟩
      · exact (hbody data.cmd rfl).1.current.trans h.home
      · intro _
        show (data.recordBody passes useRenderPass data.cmd).active.vk.state = .recording
        rw [hactive]
        exact SlotAction.state_begin ..
      · intro i hstarted
        refine ⟨hflag, ?_⟩
        by_contra hi
        have hslot : (data.recordBody passes useRenderPass data.cmd).slots i = data.cmd.slots i :=
          slots_of_performs hbody (by rw [h.home]; exact hi)
        have hold : ((data.recordBody passes useRenderPass data.cmd).slots i).startedRenderPass
            = true := hstarted
        rw [hslot, hclosed i] at hold
        cases hold
      · intro _ hidle
        cases hflag.symm.trans hidle
      · have hstarted : data.cmd.active.startedRenderPass = false := hclosed _
        have hnot : ¬ data.tape.recording = true := by
          show ¬ data.cmd.recording = true
          rw [hrec]
          exact Bool.false_ne_true
        rw [Tape.record, if_neg hnot]
        simp only [tape, hactive, hflag, log_of_performs hbody, ledger_append,
          SlotAction.ledger_begin, SlotAction.commands_begin, true_or, if_true]
        simp only [SlotAction.apply, SlotAction.begin, hstarted, Bool.or_false, opens_eq]

/-- To record commands while a sequential chain is recording appends them to its tape. -/
theorem Sequential.each (h : data.Sequential) (hrec : data.cmd.recording = true)
    (bound : Option PipelineState) (commands : List Command) :
    data.Tapes { data.broadcast (·.issueBound bound commands) with dirty := true }
      (·.emit commands) := by
  have hbody : data.cmd.Performs (·.issueBound bound commands) (.emit commands) id :=
    CommandBuffer.performs_issueBound bound commands
  have hactive := active_of_performs hbody
  have hflag : (data.cmd.issueBound bound commands).recording = true :=
    (hbody data.cmd rfl).2.trans hrec
  have hstate := h.state hrec
  have hring := h.toOnRing.broadcast hbody fun _ => rfl
  rw [h.broadcast_eq hbody] at hring ⊢
  refine ⟨⟨⟨hring.parent, hring.level, hring.size, hring.current, hring.cursor, hring.numCmd⟩,
    h.one, ?_, ?_, ?_, ?_⟩, ?_, rfl, rfl, (hbody data.cmd rfl).1.setup⟩
  · exact (hbody data.cmd rfl).1.current.trans h.home
  · intro _
    show (data.cmd.issueBound bound commands).active.vk.state = .recording
    rw [hactive, SlotAction.state_emit]
    exact hstate
  · intro i hstarted
    have hnew : ((data.cmd.issueBound bound commands).slots i).startedRenderPass = true := hstarted
    refine ⟨hflag, ?_⟩
    by_cases hi : i = data.cmd.current
    · exact hi.trans h.home
    · rw [slots_of_performs hbody hi] at hnew
      exact (h.started i hnew).2
  · intro _ hidle
    cases hflag.symm.trans hidle
  · simp only [tape, Tape.emit, hactive, hflag, hrec, log_of_performs hbody, ledger_append,
      SlotAction.ledger_emit, SlotAction.commands_emit commands hstate, true_or, or_true, if_true]
    rfl

/-- `end` on the tape. A list that nothing was appended to is dropped: its slot is neither recorded
nor waiting for a submit. -/
theorem Sequential.stop (h : data.Sequential) : data.Tapes data.stop Tape.stop := by
  unfold ChainData.stop
  cases hrec : data.cmd.recording with
  | false =>
      have htape : ¬ data.tape.recording = true := by
        show ¬ data.cmd.recording = true
        rw [hrec]
        exact Bool.false_ne_true
      simp only [Bool.false_eq_true, if_false]
      refine ⟨h, ?_, rfl, rfl, rfl⟩
      rw [Tape.stop, if_neg htape]
  | true =>
      have hbody : data.cmd.Performs CommandBuffer.stop .stop (fun _ => false) :=
        CommandBuffer.performs_stop
      have hactive := active_of_performs hbody
      have hflag : data.cmd.stop.recording = false := (hbody data.cmd rfl).2
      have hstate := h.state hrec
      have hring := h.toOnRing.broadcast hbody fun _ => rfl
      have htape : data.tape.recording = true := hrec
      simp only [if_true]
      rw [h.broadcast_eq hbody] at hring ⊢
      refine ⟨⟨⟨hring.parent, hring.level, hring.size, hring.current, hring.cursor,
        hring.numCmd⟩, h.one, ?_, ?_, ?_, ?_⟩, ?_, rfl, rfl, (hbody data.cmd rfl).1.setup⟩
      · exact (hbody data.cmd rfl).1.current.trans h.home
      · intro hrec'
        cases hflag.symm.trans hrec'
      · intro i hstarted
        exfalso
        have hnew : (data.cmd.stop.slots i).startedRenderPass = true := hstarted
        by_cases hi : i = data.cmd.current
        · have hslot : data.cmd.stop.slots i = SlotAction.stop.apply data.cmd.active := by
            rw [hi, ← hactive, CommandBuffer.active, (hbody data.cmd rfl).1.current]
            rfl
          rw [hslot] at hnew
          cases hnew
        · rw [slots_of_performs hbody hi] at hnew
          -- only the slot under the cursor can have had a render pass open
          exact hi ((h.started i hnew).2.trans h.home.symm)
      · intro _ _
        refine ⟨rfl, ?_⟩
        show data.cmd.stop.active.vk.state = .executable
        rw [hactive]
        exact SlotAction.state_stop _ hstate
      · rw [Tape.stop, if_pos htape]
        simp only [tape, hactive, hflag, hrec, log_of_performs hbody, ledger_append,
          SlotAction.ledger_stop, SlotAction.commands_stop hstate, Tape.closing,
          Bool.false_eq_true, false_or, true_or, if_true]
        rfl

/-- A submit of the slot under the cursor hands what it holds to the queue, in the ledger as on the
device. -/
theorem ledger_submit (start : Ledger) (i : Nat) (slot : Slot) :
    (SlotAction.submit.events i slot).foldl Ledger.after start
      = start.submit i slot.vk.state slot.vk.commands :=
  rfl

/-- The submit of a sequential chain that has ended, has a record and is dirty delivers its tape. -/
theorem Sequential.deliver (h : data.Sequential) (hidle : data.cmd.recording = false)
    (hrecord : data.hasRecord = true) (hdirty : data.dirty = true) :
    data.Tapes
      { data with
        cmd := Queue.submit data.cmd
        current := (Queue.submit data.cmd).current
        dirty := false }
      Tape.deliver := by
  have hsubmit := CommandBuffer.submit_eq data.cmd h.level
  have hcurrent : (Queue.submit data.cmd).current = ringNext commandBufferCount data.current := by
    rw [hsubmit, ← h.home, ← h.size]
    rfl
  have hlt : (Queue.submit data.cmd).current < commandBufferCount := by
    rw [hcurrent]
    exact ringNext_lt _ (by decide)
  have hrec : (Queue.submit data.cmd).recording = false := by
    rw [hsubmit]
    exact hidle
  have hsetup : (Queue.submit data.cmd).setup = data.cmd.setup := by
    rw [hsubmit]
    rfl
  have hready : data.tape.Ready := ⟨hrecord, hdirty⟩
  have hclosed : ∀ i, ((Queue.submit data.cmd).slots i).startedRenderPass = false := by
    intro i
    have hslots : (Queue.submit data.cmd).slots = Function.update data.cmd.slots data.cmd.current
        (SlotAction.submit.apply data.cmd.active) := by
      rw [hsubmit]
      rfl
    rw [hslots]
    by_cases hi : i = data.cmd.current
    · subst hi
      rw [Function.update_self]
      exact h.not_started hidle _
    · rw [Function.update_of_ne hi]
      exact h.not_started hidle i
  refine ⟨⟨⟨h.parent, ?_, ?_, hlt, hlt, h.numCmd⟩, h.one, rfl, ?_, ?_, ?_⟩, ?_, rfl, rfl, hsetup⟩
  · exact (CommandBuffer.level_eq_of_setup hsetup).trans h.level
  · exact (CommandBuffer.size_eq_of_setup hsetup).trans h.size
  · intro hrec'
    cases hrec.symm.trans hrec'
  · intro i hstarted
    cases (hclosed i).symm.trans hstarted
  · intro hdirty'
    cases hdirty'
  · have hlog : (Queue.submit data.cmd).log
        = data.cmd.log ++ SlotAction.submit.events data.cmd.current data.cmd.active := by
      rw [hsubmit]
      rfl
    have hended := (h.ended hdirty hidle).2
    have hinPass : (Queue.submit data.cmd).active.startedRenderPass = false := hclosed _
    have hwas : data.cmd.active.startedRenderPass = false := h.not_started hidle _
    -- the next slot is neither recorded nor waiting, so its old commands are not on the tape
    rw [Tape.deliver, if_pos hready]
    simp only [tape, hrec, hcurrent, hlog, ledger_append, ledger_submit, hdirty, hidle, hinPass,
      hwas, hended, h.home, Bool.false_eq_true, or_self, or_true, if_true, if_false]

/-- Two steps in a row do to the tape first what the one does, and then what the other does. -/
theorem Tapes.trans {data' data'' : ChainData} {f g : Tape → Tape} (h : data.Tapes data' f)
    (h' : data'.Tapes data'' g) : data.Tapes data'' (g ∘ f) where
  sequential := h'.sequential
  tape := by rw [h'.tape, h.tape, Function.comp_apply]
  pass := h'.pass.trans h.pass
  queue := h'.queue.trans h.queue
  setup := h'.setup.trans h.setup

/-- To store barriers leaves the tape of a sequential chain alone. -/
theorem Sequential.store (h : data.Sequential) (images : List ImageMemoryBarrier)
    (buffers : List BufferMemoryBarrier) :
    data.Tapes { data with imageBarriers := images, bufferBarriers := buffers } id where
  sequential := ⟨⟨h.parent, h.level, h.size, h.current, h.cursor, h.numCmd⟩, h.one, h.home,
    h.state, h.started, h.ended⟩
  tape := rfl
  pass := rfl
  queue := rfl
  setup := rfl

/-- To set `has_record` sets it on the tape of a sequential chain. -/
theorem Sequential.markRecord (h : data.Sequential) :
    data.Tapes { data with hasRecord := true } fun tape => { tape with hasRecord := true } where
  sequential := ⟨⟨h.parent, h.level, h.size, h.current, h.cursor, h.numCmd⟩, h.one, h.home,
    h.state, h.started, fun hdirty hidle => ⟨rfl, (h.ended hdirty hidle).2⟩⟩
  tape := rfl
  pass := rfl
  queue := rfl
  setup := rfl

/-- Completions on the GPU leave the tape of a sequential chain alone. -/
theorem Sequential.complete (h : data.Sequential) :
    data.Tapes { data with cmd := data.cmd.completeAll } id where
  sequential := ⟨⟨h.parent, h.level, h.size, h.current, h.cursor, h.numCmd⟩, h.one, h.home,
    h.state, h.started, h.ended⟩
  tape := rfl
  pass := rfl
  queue := rfl
  setup := rfl

/-- **The moves of an operation on the tape**; `recorded` says that the chain is recording
already. -/
theorem Sequential.moves (h : data.Sequential) (passes : PassId → RenderPass) {moves : List Move}
    {recorded : Bool} (hmoves : Recorded recorded moves)
    (hrec : recorded = true → data.cmd.recording = true) :
    data.Tapes (data.moves passes moves) (·.moves (data.opening passes) moves) := by
  induction moves generalizing data recorded with
  | nil => exact ⟨h, rfl, rfl, rfl, rfl⟩
  | cons move moves ih =>
      have next : ∀ {data' : ChainData} {f : Tape → Tape} {recorded' : Bool},
          data.Tapes data' f → f data.tape = data.tape.move (data.opening passes) move →
          Recorded recorded' moves → (recorded' = true → data'.cmd.recording = true) →
          data.Tapes (data'.moves passes moves)
            (·.moves (data.opening passes) (move :: moves)) := by
        -- the opening is that of the chain before the move, which left pass and setup alone
        intro data' f recorded' hstep hf hrest hrec'
        have htail := ih hstep.sequential hrest hrec'
        rw [opening_congr passes hstep.pass hstep.setup] at htail
        refine ⟨htail.sequential, ?_, htail.pass.trans hstep.pass,
          htail.queue.trans hstep.queue, htail.setup.trans hstep.setup⟩
        rw [htail.tape, hstep.tape, hf]
        rfl
      cases move with
      | storeImageBarrier barrier => exact next (h.store _ _) rfl hmoves hrec
      | storeBufferBarrier barrier => exact next (h.store _ _) rfl hmoves hrec
      | markRecord => exact next h.markRecord rfl hmoves hrec
      | synchronize device =>
          show data.Tapes ((data.deviceSynchronize _).moves passes moves) _
          rcases data.deviceSynchronize_cases (device.or data.cmd.queue.device) with same | same
          · rw [same]
            exact next h.complete rfl hmoves hrec
          · rw [same]
            exact next (show data.Tapes data id from ⟨h, rfl, rfl, rfl, rfl⟩) rfl hmoves hrec
      | record useRenderPass =>
          have hrest : Recorded true moves := hmoves
          refine next (h.record passes useRenderPass) rfl hrest fun _ => ?_
          have htape := (h.record passes useRenderPass).tape
          have hrecording : (data.record passes useRenderPass).tape.recording = true := by
            rw [htape, Tape.recording_record]
          exact hrecording
      | each bound commands =>
          obtain ⟨htrue, hrest⟩ := hmoves
          have hnow := hrec htrue
          refine next (h.each hnow bound commands) rfl hrest fun _ => ?_
          have htape := (h.each hnow bound commands).tape
          have hrecording := congrArg Tape.recording htape
          exact hrecording.trans hnow

end ChainData

/-! ## Operations -/

/-- The command list that a chain stands for, in its world. -/
def Session.list (s : Session) : CommandList where
  pass := s.data.pass
  device := s.data.queue.device
  contents := s.data.cmd.subpassFlags
  tape := s.data.tape
  world := s.world

namespace Session

variable {s : Session}

/-- The list of a chain after a step that its tape follows is the one from before, with the tape and
the world after the step. -/
theorem list_eq_of_tapes {data' : ChainData} {f : Tape → Tape} (h : s.data.Tapes data' f)
    (world : World) :
    ({ s with data := data', world := world } : Session).list
      = { s.list with tape := f s.data.tape, world := world } := by
  simp only [list, h.tape, h.pass, h.queue, CommandBuffer.subpassFlags_eq_of_setup h.setup]

/-- A `submit` of a sequential chain leaves it sequential, and is the submit of its command list. -/
theorem list_submit (env : Environment) (h : s.data.Sequential) :
    (s.submit env).data.Sequential ∧ (s.submit env).list = s.list.submit env := by
  have hstop := h.stop
  have htape : s.data.stop.tape = s.list.tape.stop := hstop.tape
  have hidle : s.data.stop.cmd.recording = false :=
    (congrArg Tape.recording htape).trans (Tape.recording_stop s.list.tape)
  have hflags : s.list.tape.stop.Ready ↔
      s.data.stop.hasRecord = true ∧ s.data.stop.dirty = true := by
    rw [← htape]
    exact Iff.rfl
  by_cases hready : s.list.tape.stop.Ready
  · obtain ⟨hrecord, hdirty⟩ := hflags.mp hready
    have hdeliver := hstop.sequential.deliver hidle hrecord hdirty
    have hsubmit := hstop.trans (hdeliver.trans (hdeliver.sequential.store [] []))
    have hcommands : s.data.stop.cmd.active.vk.commands = s.list.tape.stop.commands := by
      rw [← congrArg Tape.commands htape]
      exact (if_pos (Or.inr hdirty)).symm
    rw [submit_of_ready env ⟨hstop.sequential.parent, hrecord, hdirty⟩, CommandList.submit]
    refine ⟨hsubmit.sequential, ?_⟩
    rw [list_eq_of_tapes hsubmit, if_pos hready, hcommands, hstop.pass]
    rfl
  · have hnot : ¬ (s.data.stop.parent = none ∧ s.data.stop.hasRecord = true ∧
        s.data.stop.dirty = true) := fun hall => hready (hflags.mpr hall.2)
    have hsubmit := hstop.trans (hstop.sequential.store [] [])
    rw [submit_of_not_ready env hnot, CommandList.submit]
    refine ⟨hsubmit.sequential, ?_⟩
    rw [list_eq_of_tapes hsubmit, if_neg hready]
    rfl

/-- **Every operation of a sequential chain is the operation of its list**, and keeps the chain
sequential. -/
theorem step_refines (env : Environment) (h : s.data.Sequential) (op : ListOp) :
    (∃ failure, op.op.step env s = .error failure ∧ s.list.step env op = .error failure) ∨
      ∃ s', op.op.step env s = .ok s' ∧ s'.data.Sequential ∧ s.list.step env op = .ok s'.list := by
  cases op with
  | begin =>
      have hrecord := h.record s.world.passes s.data.pass.isSome
      refine Or.inr ⟨_, rfl, ?_, ?_⟩
      · rw [Session.begin, h.parent]
        exact hrecord.sequential
      · rw [Session.begin, h.parent]
        exact congrArg Except.ok (list_eq_of_tapes hrecord s.world).symm
  | stop =>
      exact Or.inr ⟨_, rfl, h.stop.sequential,
        congrArg Except.ok (list_eq_of_tapes h.stop s.world).symm⟩
  | submit =>
      obtain ⟨hseq, hlist⟩ := list_submit env h
      exact Or.inr ⟨_, rfl, hseq, congrArg Except.ok hlist.symm⟩
  | synchronize =>
      refine Or.inr ⟨_, rfl, ?_, ?_⟩
      · unfold Session.synchronize
        split
        · exact h.complete.sequential
        · exact h
      · unfold Session.synchronize
        split
        · exact congrArg Except.ok (list_eq_of_tapes h.complete s.world).symm
        · rfl
  | recording op =>
      show (∃ failure, op.step env s = .error failure ∧ _) ∨ ∃ s', op.step env s = .ok s' ∧ _ ∧ _
      rw [op.step_eq]
      cases hrecipe : op.recipe env s.data.pass s.data.queue.device s.world with
      | error failure =>
          refine Or.inl ⟨failure, rfl, ?_⟩
          show (op.recipe env s.data.pass s.data.queue.device s.world).map _ = _
          rw [hrecipe]
          rfl
      | ok recipe =>
          have hmoves := h.moves s.world.passes (RecordingOp.recorded hrecipe)
            (fun hfalse => absurd hfalse Bool.false_ne_true)
          refine Or.inr ⟨_, rfl, hmoves.sequential, ?_⟩
          show (op.recipe env s.data.pass s.data.queue.device s.world).map _ = _
          rw [hrecipe]
          exact congrArg Except.ok (list_eq_of_tapes hmoves recipe.2).symm

end Session

/-- One operation of a chain left in `Sequential` mode. -/
def ListOp.step (env : Environment) (s : Session) (op : ListOp) : Except ChainFailure Session :=
  op.op.step env s

namespace Session

variable {env : Environment} {s t : Session} {op : ListOp} {ops : List ListOp}

/-- Every operation that returns keeps a sequential chain sequential. -/
theorem sequential_step (h : s.data.Sequential) (hstep : op.step env s = .ok t) :
    t.data.Sequential := by
  rcases step_refines env h op with ⟨failure, hfail, -⟩ | ⟨s', hok, hseq, -⟩
  · cases hstep.symm.trans hfail
  · cases hstep.symm.trans hok
    exact hseq

/-- Every operation of a sequential chain, failures included, is the operation of its list. -/
theorem step_list (h : s.data.Sequential) :
    (op.step env s).map Session.list = s.list.step env op := by
  rcases step_refines env h op with ⟨failure, hfail, hlist⟩ | ⟨s', hok, -, hlist⟩
  · rw [ListOp.step, hfail, hlist]
    rfl
  · rw [ListOp.step, hok, hlist]
    rfl

/-- **Every run of a sequential chain, failures included, is the run of its list.** -/
theorem run_list (h : s.data.Sequential) (ops : List ListOp) :
    (runSteps (ListOp.step env) s ops).map Session.list
      = runSteps (CommandList.step env) s.list ops :=
  runSteps_map (fun s => s.data.Sequential) Session.list (fun _ _ hs => step_list hs)
    (fun _ _ _ hs hstep => sequential_step hs hstep) h ops

/-- A run of operations keeps a sequential chain sequential. -/
theorem sequential_run (h : s.data.Sequential) (hrun : runSteps (ListOp.step env) s ops = .ok t) :
    t.data.Sequential :=
  runSteps_preserves (fun s => s.data.Sequential)
    (fun _ _ _ hs _ hstep => sequential_step hs hstep) h
    (stepsMeet_of_forall_mem fun _ _ => trivial) hrun

/-- The list of a sequential chain after a run is what the same run makes of its list. -/
theorem list_run (h : s.data.Sequential) (hrun : runSteps (ListOp.step env) s ops = .ok t) :
    runSteps (CommandList.step env) s.list ops = .ok t.list := by
  rw [← run_list h, hrun]
  rfl

/-- A run of the list of a sequential chain is one of the chain, and leads to the list of it. -/
theorem exists_run_of_list {list : CommandList} (h : s.data.Sequential)
    (hrun : runSteps (CommandList.step env) s.list ops = .ok list) :
    ∃ t, runSteps (ListOp.step env) s ops = .ok t ∧ t.list = list := by
  rw [← run_list h] at hrun
  obtain ⟨t, hok, hlist⟩ := exists_of_map_eq_ok hrun
  exact ⟨t, hok, hlist.symm⟩

/-- An operation of a sequential chain keeps the discipline of its slots. -/
theorem disciplined_listStep (h : s.data.Sequential) (hdisc : s.data.Disciplined)
    (hstep : op.step env s = .ok t) : t.data.Disciplined := by
  have hsteady : op.op.Steady s := by
    cases op with
    | synchronize => trivial
    -- the mode never changes and the cursors always agree
    | begin | stop | submit | recording => exact fun _ => Or.inr h.home
  exact Op.disciplined_step hdisc hsteady hstep

end Session

end Nyx
