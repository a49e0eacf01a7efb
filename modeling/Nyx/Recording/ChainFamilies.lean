import Mathlib.Data.List.Iterate
import Nyx.Recording.ChainLives
import Nyx.Recording.SlotSteps

/-! # Families of chains

A chain and its children. A child records into a ring of secondary command buffers of its own, and
the parent records the execution of a child's buffer into its own buffers, which are what is
submitted.

* **`Family`** — a parent, its children and the trace of the Vulkan calls on all their buffers.
* **`FamilyOp`**, **`FamilyOp.step`** — the operations of the members in any interleaving, and the
  completions of the GPU.
* **`MemberOp.begunSlots`** — the buffers that an operation of a child begins;
  **`MemberOp.appends_step`** — that it begins just these. -/

namespace Nyx

open Foundations

/-! ## The machine -/

/-- What a member of a family does on its own: it begins, records, ends, changes its mode and
advances. -/
inductive MemberOp
  | begin
  | record (op : RecordingOp)
  | stop
  | setMode (mode : ChainMode)
  | advance
  deriving DecidableEq, Repr

/-- The operation of the chain that a member carries out, as the chain itself knows it. -/
def MemberOp.toOp : MemberOp → Op
  | .begin => .begin
  | .record op => .recording op
  | .stop => .stop
  | .setMode mode => .setMode mode
  | .advance => .advance

/-- The device that a download waits for at its end: that of the array, or of the queue for an
image. -/
def MemberOp.device (data : ChainData) : MemberOp → Option Nat
  | .record (.download src _ _ _ _ _) => some src.device
  | .record (.downloadImage _ _) => data.cmd.queue.device
  | _ => none

/-- A call on a buffer of the parent or of a child, or a wait for all that the parent submitted. -/
inductive TraceItem
  | parent (event : Event)
  | child (id : ChainId) (event : Event)
  | synchronized
  deriving DecidableEq, Repr

/-- A parent with its children, by name, and the calls made so far. -/
structure Family where
  parent : Session
  children : ChainId → ChainData
  trace : List TraceItem

namespace Family

/-- A child as a chain of its own, in the world of the family. -/
def member (f : Family) (id : ChainId) : Session := ⟨id, f.children id, f.parent.world⟩

/-- A parent with new children, each for some subpass. -/
def start (parent : Session) (subpass : ChainId → Nat) : Family where
  parent := parent
  children id := ({} : ChainData).initializeChild parent.self parent.data (subpass id)
  trace := []

/-- The calls that were made between two states of a chain. -/
def newEvents (s t : Session) : List Event := t.data.cmd.log.drop s.data.cmd.log.length

/-- An operation of the parent, after which the calls that it added to the log of the parent stand
in the trace. -/
def parentStep (env : Environment) (f : Family) (op : Op) : Except ChainFailure Family :=
  (op.step env f.parent).map fun t =>
    { f with parent := t, trace := f.trace ++ (newEvents f.parent t).map .parent }

/-- An operation of a child, after which the calls that it added to the log of this child stand in
the trace. -/
def childStep (env : Environment) (f : Family) (id : ChainId) (op : Op) :
    Except ChainFailure Family :=
  (op.step env (f.member id)).map fun t =>
    { f with
      parent.world := t.world
      children := Function.update f.children id t.data
      trace := f.trace ++ (newEvents (f.member id) t).map (.child id) }

/-- Everything the parent submitted has completed, and the host has waited for it. -/
def synchronized (f : Family) : Family :=
  { f with parent.data.cmd := f.parent.data.cmd.completeAll, trace := f.trace ++ [.synchronized] }

/-- The host waits for a device, and all submissions of the parent complete if it is that of the
parent. -/
def waitFor (f : Family) : Option Nat → Family
  | none => f
  | some device => if f.parent.data.queue.device = some device then f.synchronized else f

end Family

/-- What happens in a family: operations of its members, the combinations of a child into the
parent, submits, and completions on the GPU. -/
inductive FamilyOp
  | parent (op : MemberOp)
  | submit
  | synchronize
  | combine (id : ChainId)
  | child (id : ChainId) (op : MemberOp)
  /-- The GPU completes the submission of a buffer of the parent. -/
  | complete (slot : Nat)
  deriving DecidableEq, Repr

/-- One step of a family. A download of a member waits for its device after it was recorded. -/
def FamilyOp.step (env : Environment) (f : Family) : FamilyOp → Except ChainFailure Family
  | .parent op => (f.parentStep env op.toOp).map (·.waitFor (op.device f.parent.data))
  | .submit => f.parentStep env .submit
  | .synchronize => .ok (if f.parent.data.initialized then f.synchronized else f)
  | .combine id => f.parentStep env (.combine id (f.children id))
  | .child id op => (f.childStep env id op.toOp).map (·.waitFor (op.device (f.children id)))
  | .complete slot => .ok { f with parent.data.cmd := f.parent.data.cmd.complete slot }

namespace Family

variable {env : Environment} {f g : Family}

/-- The new calls of a chain are those that its log has at the end, after the calls from before. -/
theorem newEvents_of_log_eq {s t : Session} {events : List Event}
    (h : t.data.cmd.log = s.data.cmd.log ++ events) : newEvents s t = events := by
  rw [newEvents, h, List.drop_left]

/-- A wait for some device completes all submissions of the parent, or leaves the family alone. -/
theorem waitFor_cases (f : Family) (device : Option Nat) :
    f.waitFor device = f ∨ f.waitFor device = f.synchronized := by
  cases device with
  | none => exact Or.inl rfl
  | some device => exact (ite_eq_or_eq _ _ _).symm

/-- An operation of the parent that returned is one of its chain, and its new calls were traced. -/
theorem exists_of_parentStep {op : Op} (h : f.parentStep env op = .ok g) :
    ∃ t, op.step env f.parent = .ok t ∧
      g = { f with parent := t, trace := f.trace ++ (newEvents f.parent t).map .parent } :=
  exists_of_map_eq_ok h

/-- An operation of a child that returned is one of its chain, in the world of the family, and its
new calls were traced. -/
theorem exists_of_childStep {id : ChainId} {op : Op} (h : f.childStep env id op = .ok g) :
    ∃ t, op.step env (f.member id) = .ok t ∧
      g = { f with
        parent.world := t.world
        children := Function.update f.children id t.data
        trace := f.trace ++ (newEvents (f.member id) t).map (.child id) } :=
  exists_of_map_eq_ok h

end Family

/-- The buffers that an operation of a child begins: in `begin` from the one after its cursor on,
and when it records without a `begin`, from the one under the cursor on. -/
def MemberOp.begunSlots (child : ChainData) (op : MemberOp) : List Nat :=
  let next := ringNext child.cmd.size
  if child.cmd.recording then []
  else
    match op with
    | .begin => List.iterate next (next child.cmd.current) child.numCmd
    | .record _ => List.iterate next child.cmd.current child.numCmd
    | .stop | .setMode _ | .advance => []

/-! ## What calls are appended -/

/-- Whether a call begins a command buffer. -/
def Call.isBegin : Call → Bool
  | .beginBuffer _ => true
  | _ => false

/-- Whether a call of the driver waits for a fence. -/
def Call.isWait : Call → Bool
  | .waitForFences => true
  | _ => false

/-- The slots that some calls begin, in the order in which they are begun. -/
def begins (events : List Event) : List Nat :=
  (events.filter (·.call.isBegin)).map Event.slot

@[simp] theorem begins_append (xs ys : List Event) :
    begins (xs ++ ys) = begins xs ++ begins ys := by
  simp [begins]

/-- The begins of the calls on one slot are as many as the calls have begins, all on this slot. -/
theorem begins_callEvents (i : Nat) (vk : VkSlot) (calls : List Call) :
    begins (callEvents i vk calls) = (calls.filter Call.isBegin).map fun _ => i := by
  induction calls generalizing vk with
  | nil => rfl
  | cons call calls ih =>
      have htail := ih (vk.perform call)
      unfold begins at htail ⊢
      cases hbegin : call.isBegin <;> simp [callEvents, hbegin, htail]

namespace CommandBuffer

/-- Some calls were appended to a ring, and they begin the given slots. -/
def Appends (cmd cmd' : CommandBuffer) (slots : List Nat) : Prop :=
  ∃ events, cmd'.log = cmd.log ++ events ∧ begins events = slots

variable {cmd cmd' cmd'' : CommandBuffer} {body : CommandBuffer → CommandBuffer}
  {xs ys : List Nat}

theorem Appends.of_log_eq (h : cmd'.log = cmd.log) : cmd.Appends cmd' [] :=
  ⟨[], h.trans (List.append_nil _).symm, rfl⟩

theorem Appends.trans (h : cmd.Appends cmd' xs) (h' : cmd'.Appends cmd'' ys) :
    cmd.Appends cmd'' (xs ++ ys) := by
  obtain ⟨events, hlog, rfl⟩ := h
  obtain ⟨events', hlog', rfl⟩ := h'
  exact ⟨events ++ events', by rw [hlog', hlog, List.append_assoc], begins_append _ _⟩

/-- A quiet action, which makes no begin call, appends no begin. -/
theorem appends_quiet {action : SlotAction} (h : action.Quiet) :
    cmd.Appends (cmd.act action) [] := by
  refine ⟨_, rfl, ?_⟩
  rw [SlotAction.events, begins_callEvents]
  have hnone : (action.calls cmd.active).filter Call.isBegin = [] := by
    refine List.filter_eq_nil_iff.mpr fun call hcall => ?_
    rcases h.calls cmd.active call hcall with ⟨command, rfl⟩ | rfl <;> exact Bool.false_ne_true
  rw [hnone]
  rfl

/-- To begin the slot under the cursor appends a begin of this slot, and none else. -/
theorem appends_begin (info : BeginInfo) (opening : List Command) (started : Bool) :
    cmd.Appends (cmd.act (.begin info opening started)) [cmd.current] := by
  refine ⟨_, rfl, ?_⟩
  rw [SlotAction.events, begins_callEvents]
  have hcommands : (opening.map Call.command).filter Call.isBegin = [] := by
    simp [List.filter_eq_nil_iff, Call.isBegin]
  cases hsignaled : cmd.active.isSignaled <;>
    simp [SlotAction.begin, hsignaled, hcommands, List.filter_cons, Call.isBegin]

/-- To begin the slot under the cursor for a subpass appends a begin of this slot too, and leaves
the cursor and the size alone. -/
theorem appends_recordSubpass (cmd : CommandBuffer) (renderPass : RenderPass) (index : Nat) :
    cmd.Appends (cmd.recordSubpass renderPass index) [cmd.current] ∧
      (cmd.recordSubpass renderPass index).current = cmd.current ∧
        (cmd.recordSubpass renderPass index).size = cmd.size := by
  unfold recordSubpass
  split
  · rw [recordPrimary_eq]
    exact ⟨appends_begin _ _ _, rfl, rfl⟩
  · exact ⟨⟨_, rfl, rfl⟩, rfl, rfl⟩

/-- A loop over a body that begins the slot under the cursor begins as many slots as it has rounds,
from the cursor on around the ring. -/
theorem appends_forEach_begin (hbody : ∀ cmd : CommandBuffer, cmd.Appends (body cmd) [cmd.current] ∧
      (body cmd).current = cmd.current ∧ (body cmd).size = cmd.size) (n : Nat) :
    cmd.Appends (cmd.forEach n body) (List.iterate (ringNext cmd.size) cmd.current n) := by
  induction n generalizing cmd with
  | zero => exact .of_log_eq rfl
  | succ n ih =>
      obtain ⟨happends, hcurrent, hsize⟩ := hbody cmd
      have hrest := @ih (body cmd).advance
      have hround : (body cmd).advance.current = ringNext cmd.size cmd.current := by
        rw [advance, hcurrent, hsize]
      have hsize' : (body cmd).advance.size = cmd.size := hsize
      rw [hround, hsize'] at hrest
      exact happends.trans hrest

/-- A loop over a body that begins nothing begins nothing, however many rounds it has. -/
theorem appends_forEach_quiet (hbody : ∀ cmd : CommandBuffer, cmd.Appends (body cmd) [])
    (n : Nat) :
    cmd.Appends (cmd.forEach n body) [] := by
  induction n generalizing cmd with
  | zero => exact .of_log_eq rfl
  | succ n ih => exact (hbody cmd).trans (@ih (body cmd).advance)

end CommandBuffer

/-! ## What a child begins -/

namespace ChainData

variable {data : ChainData} {passes : PassId → RenderPass}

/-- The body of a `record` of a child begins the slot under the cursor, and leaves the cursor and
the size alone. -/
theorem appends_recordBody (hparent : data.parent ≠ none) (useRenderPass : Bool)
    (cmd : CommandBuffer) :
    cmd.Appends (data.recordBody passes useRenderPass cmd) [cmd.current] ∧
      (data.recordBody passes useRenderPass cmd).current = cmd.current ∧
        (data.recordBody passes useRenderPass cmd).size = cmd.size := by
  have hplain : cmd.Appends cmd.record [cmd.current] ∧ cmd.record.current = cmd.current ∧
      cmd.record.size = cmd.size := by
    rw [CommandBuffer.record_eq]
    exact ⟨CommandBuffer.appends_begin _ _ _, rfl, rfl⟩
  obtain ⟨parentId, hparent⟩ := Option.ne_none_iff_exists'.mp hparent
  unfold recordBody
  rw [hparent]
  cases data.pass with
  | none => exact hplain
  | some pass =>
      dsimp only
      split
      · exact cmd.appends_recordSubpass (passes pass) data.subpassId
      · exact hplain

/-- The slots that a `record` of a child begins: none while it is recording, else one or all from
the cursor on. -/
def recordedSlots (data : ChainData) : List Nat :=
  if data.cmd.recording then []
  else List.iterate (ringNext data.cmd.size) data.cmd.current data.numCmd

/-- A `record` of a child begins the slots that it has to, with a render pass or without. -/
theorem appends_record (passes : PassId → RenderPass) (hparent : data.parent ≠ none)
    (useRenderPass : Bool) :
    data.cmd.Appends (data.record passes useRenderPass).cmd data.recordedSlots := by
  cases hrec : data.cmd.recording with
  | true =>
      rw [record_of_recording hrec, recordedSlots, if_pos hrec]
      exact .of_log_eq rfl
  | false =>
      rw [record_of_not_recording hrec, recordedSlots, if_neg (Bool.eq_false_iff.mp hrec)]
      exact CommandBuffer.appends_forEach_begin (appends_recordBody hparent useRenderPass) _

/-- To end a chain begins none of its command buffers. -/
theorem appends_stop : data.cmd.Appends data.stop.cmd [] := by
  unfold ChainData.stop
  split
  · refine CommandBuffer.appends_forEach_quiet (fun cmd => ?_) data.numCmd
    rw [CommandBuffer.stop_eq]
    exact CommandBuffer.appends_quiet SlotAction.quiet_stop
  · exact .of_log_eq rfl

/-- A move that is no `record` begins none of the command buffers. -/
theorem appends_move (passes : PassId → RenderPass) {move : Move}
    (hmove : ∀ useRenderPass, move ≠ .record useRenderPass) :
    data.cmd.Appends (data.move passes move).cmd [] := by
  cases move with
  | record useRenderPass => exact absurd rfl (hmove useRenderPass)
  | storeImageBarrier | storeBufferBarrier | markRecord => exact .of_log_eq rfl
  | each bound commands =>
      refine CommandBuffer.appends_forEach_quiet (fun cmd => ?_) data.numCmd
      rw [CommandBuffer.issueBound, CommandBuffer.issue_eq]
      exact CommandBuffer.appends_quiet (SlotAction.quiet_emit commands)
  | synchronize device =>
      rw [ChainData.move]
      rcases data.deviceSynchronize_cases (device.or data.cmd.queue.device) with same | same
      all_goals
        rw [same]
        exact .of_log_eq rfl

/-- While a child is recording, further moves begin none of its command buffers. -/
theorem appends_moves_of_recording (hparent : data.parent ≠ none)
    (hrec : data.cmd.recording = true) (moves : List Move) :
    data.cmd.Appends (data.moves passes moves).cmd [] := by
  induction moves generalizing data with
  | nil => exact .of_log_eq rfl
  | cons move moves ih =>
      obtain ⟨hparent', -⟩ := data.frame_move passes move
      have hmove : data.cmd.Appends (data.move passes move).cmd [] := by
        cases move with
        | record useRenderPass =>
            have hrecord := appends_record passes hparent useRenderPass
            rw [recordedSlots, if_pos hrec] at hrecord
            exact hrecord
        | each | storeImageBarrier | storeBufferBarrier | markRecord | synchronize =>
            exact appends_move passes fun _ => Move.noConfusion
      exact hmove.trans (ih (hparent' ▸ hparent) (recording_move hrec move))

/-- Moves that start with a `record` begin the slots that this `record` begins, and no others. -/
theorem appends_moves {moves : List Move} {useRenderPass : Bool}
    (hfirst : firstRecord moves = some useRenderPass) (hmoves : Recorded false moves)
    (hparent : data.parent ≠ none) (hnum : data.numCmd = 1 ∨ data.numCmd = commandBufferCount) :
    data.cmd.Appends (data.moves passes moves).cmd data.recordedSlots := by
  induction moves generalizing data with
  | nil => cases hfirst
  | cons move moves ih =>
      obtain ⟨hparent', hnum'⟩ := data.frame_move passes move
      have htail : firstRecord moves = some useRenderPass ∧ Recorded false moves →
          (data.move passes move).recordedSlots = data.recordedSlots →
            (data.move passes move).cmd.Appends ((data.move passes move).moves passes moves).cmd
              data.recordedSlots := by
        rintro ⟨hfirst, hmoves⟩ hsame
        rw [← hsame]
        exact ih hfirst hmoves (hparent' ▸ hparent) (hnum' ▸ hnum)
      cases move with
      | record use =>
          have hrec : (data.record passes use).cmd.recording = true :=
            recording_record hnum (fun hnone _ => absurd hnone hparent) use
          have hboth := (appends_record passes hparent use).trans
            (@appends_moves_of_recording (data.record passes use) passes hparent hrec moves)
          rwa [List.append_nil] at hboth
      | each bound commands => exact absurd hmoves.1 Bool.false_ne_true
      | storeImageBarrier | storeBufferBarrier | markRecord =>
          exact htail ⟨hfirst, hmoves⟩ rfl
      | synchronize device =>
          have hwait : data.cmd.Appends (data.move passes (.synchronize device)).cmd [] :=
            appends_move passes fun _ => Move.noConfusion
          refine hwait.trans (htail ⟨hfirst, hmoves⟩ ?_)
          rw [ChainData.move]
          rcases data.deviceSynchronize_cases (device.or data.cmd.queue.device) with same | same
          · rw [same]
            rfl
          · rw [same]

end ChainData

/-- What holds of every child of a family: it has a parent, and it visits one command buffer or
all. -/
structure ChainData.IsChild (data : ChainData) : Prop where
  parent : data.parent ≠ none
  numCmd : data.numCmd = 1 ∨ data.numCmd = commandBufferCount

/-- **An operation of a child** begins the slots that it says, and leaves it a child. -/
theorem MemberOp.appends_step {env : Environment} {s t : Session} {op : MemberOp}
    (h : s.data.IsChild) (hstep : op.toOp.step env s = .ok t) :
    s.data.cmd.Appends t.data.cmd (op.begunSlots s.data) ∧ t.data.IsChild := by
  cases op with
  | begin =>
      cases hstep
      obtain ⟨parentId, hparent⟩ := Option.ne_none_iff_exists'.mp h.parent
      let moved : ChainData :=
        { s.data with cmd := s.data.cmd.advance, current := s.data.cmd.advance.current }
      have hbegin : s.begin.data = moved.record s.world.passes s.data.pass.isSome := by
        rw [Session.begin, hparent]
        rfl
      rw [hbegin]
      exact ⟨@ChainData.appends_record moved s.world.passes h.parent _, h.parent, h.numCmd⟩
  | record op =>
      obtain ⟨recipe, hrecipe, rfl⟩ := op.exists_recipe hstep
      obtain ⟨hparent, hnum⟩ := s.data.frame_moves s.world.passes recipe.1
      exact ⟨ChainData.appends_moves (RecordingOp.stretch hrecipe).first
        (RecordingOp.recorded hrecipe) h.parent h.numCmd, hparent ▸ h.parent, hnum ▸ h.numCmd⟩
  | stop =>
      cases hstep
      obtain ⟨hnum, hparent, -, -⟩ := s.data.stop_flags
      refine ⟨?_, hparent ▸ h.parent, hnum ▸ h.numCmd⟩
      rw [MemberOp.begunSlots, ite_self]
      exact ChainData.appends_stop
  | setMode mode =>
      cases hstep
      rw [MemberOp.begunSlots, ite_self]
      cases mode
      · exact ⟨.of_log_eq rfl, h.parent, Or.inl rfl⟩
      · exact ⟨.of_log_eq rfl, h.parent, Or.inr rfl⟩
  | advance =>
      cases hstep
      rw [MemberOp.begunSlots, ite_self]
      exact ⟨.of_log_eq rfl, h.parent, h.numCmd⟩

end Nyx
