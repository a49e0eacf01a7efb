import Nyx.Recording.Broadcasts

/-! # The discipline of recording

One recording flag stands for four command buffers. This file says when that is enough for every
command to go to a buffer that is being recorded:

* **`Event.Lawful`** — a command and an `end` target a buffer that was begun and not ended, a
  `begin` one that is not being recorded.
* **`ChainData.Disciplined`** — the invariant: exactly the open slots are being recorded. In `All`
  mode these are all slots, in `Sequential` mode the one under the chain's cursor.
* **`Op.Steady`** — the condition on a step: the mode does not change during a recording, a child is
  combined only during one, and the buffer cursor is at home where a recording starts or ends. A
  buffer cursor that `advance` moved away breaks it, and so does a `combine` before the parent was
  begun.
* **`disciplined_run`** — every run whose steps are steady makes lawful calls only. -/

namespace Nyx

open Foundations

/-! ## The law -/

/-- What Vulkan asks of the calls on a command buffer. -/
def Event.Lawful (event : Event) : Prop :=
  match event.call with
  | .command _ | .endBuffer => event.before.state = .recording
  | .beginBuffer _ => event.before.state ≠ .recording
  | .waitForFences | .resetFences | .submit => True

instance : DecidablePred Event.Lawful
  | ⟨.command _, _, before⟩ => inferInstanceAs (Decidable (before.state = .recording))
  | ⟨.endBuffer, _, before⟩ => inferInstanceAs (Decidable (before.state = .recording))
  | ⟨.beginBuffer _, _, before⟩ => inferInstanceAs (Decidable (before.state ≠ .recording))
  | ⟨.waitForFences, _, _⟩ => isTrue trivial
  | ⟨.resetFences, _, _⟩ => isTrue trivial
  | ⟨.submit, _, _⟩ => isTrue trivial

/-- Commands recorded into a buffer that is being recorded are lawful. -/
theorem lawful_commands {i : Nat} {vk : VkSlot} (h : vk.state = .recording)
    {commands : List Command} {event : Event}
    (hevent : event ∈ callEvents i vk (commands.map .command)) : event.Lawful := by
  induction commands generalizing vk with
  | nil => exact absurd hevent List.not_mem_nil
  | cons command commands ih =>
      rw [List.map_cons, callEvents, List.mem_cons] at hevent
      rcases hevent with rfl | hevent
      · exact h
      · exact ih ((foldl_perform_commands_frame vk [command]).1.trans h) hevent

/-! ## What each action does to a slot -/

namespace SlotAction

variable (slot : Slot) (info : BeginInfo) (opening commands : List Command) (started : Bool)

/-- A slot that was just begun is being recorded. -/
theorem state_begin : ((begin info opening started).apply slot).vk.state = .recording := by
  have hframe := fun vk => (foldl_perform_commands_frame vk opening).1
  cases hs : slot.isSignaled <;> simp [apply, begin, hs, VkSlot.perform, hframe]

/-- Commands leave the lifecycle state of their slot alone. -/
theorem state_emit : ((emit commands).apply slot).vk.state = slot.vk.state :=
  (foldl_perform_commands_frame slot.vk commands).1

/-- A slot that was being recorded is executable after a `stop`. -/
theorem state_stop (h : slot.vk.state = .recording) :
    (stop.apply slot).vk.state = .executable := by
  cases hs : slot.startedRenderPass <;> simp [apply, stop, hs, VkSlot.perform, h]

variable {slot info opening commands started} {i : Nat} {event : Event}

/-- To begin a slot that is not being recorded is lawful in all its calls. -/
theorem lawful_begin (h : slot.vk.state ≠ .recording)
    (hevent : event ∈ (begin info opening started).events i slot) : event.Lawful := by
  rw [events, begin] at hevent
  cases hs : slot.isSignaled with
  | true =>
      simp only [hs, if_true, List.cons_append, List.nil_append, callEvents, List.mem_cons]
        at hevent
      rcases hevent with rfl | rfl | rfl | hevent
      · trivial
      · trivial
      · exact h
      · exact lawful_commands rfl hevent
  | false =>
      simp only [hs, Bool.false_eq_true, if_false, List.nil_append, callEvents, List.mem_cons]
        at hevent
      rcases hevent with rfl | hevent
      · exact h
      · exact lawful_commands rfl hevent

/-- Recording commands into a slot that is being recorded is lawful. -/
theorem lawful_emit (h : slot.vk.state = .recording)
    (hevent : event ∈ (emit commands).events i slot) : event.Lawful :=
  lawful_commands h hevent

/-- To stop a slot that is being recorded is lawful in all its calls. -/
theorem lawful_stop (h : slot.vk.state = .recording)
    (hevent : event ∈ stop.events i slot) : event.Lawful := by
  rw [events, stop] at hevent
  cases hs : slot.startedRenderPass <;> simp [hs, callEvents] at hevent
  · rw [hevent]
    exact h
  · rcases hevent with rfl | rfl
    · exact h
    · exact (foldl_perform_commands_frame slot.vk [.endRenderPass]).1.trans h

end SlotAction

/-! ## The invariant -/

namespace ChainData

/-- Whether slot `i` is meant to be recorded into: the chain is recording, and visits all slots or
has its cursor there. -/
def Open (data : ChainData) (i : Nat) : Prop :=
  data.cmd.recording = true ∧ (data.numCmd = commandBufferCount ∨ i = data.current)

/-- The buffer cursor is where the chain's cursor is, or it does not matter where it is. -/
def Home (data : ChainData) : Prop :=
  data.numCmd = commandBufferCount ∨ data.cmd.current = data.current

instance (data : ChainData) : Decidable data.Home := inferInstanceAs (Decidable (_ ∨ _))

/-- **The discipline.** Exactly the open slots are being recorded, only these may have a render pass
open, and every call so far was lawful. -/
structure Disciplined (data : ChainData) : Prop extends data.OnRing where
  state : ∀ i < commandBufferCount,
    (data.cmd.slots i).vk.state = .recording ↔ data.Open i
  started : ∀ i < commandBufferCount,
    (data.cmd.slots i).startedRenderPass = true → data.Open i
  lawful : ∀ event ∈ data.cmd.log, event.Lawful

/-- A fresh chain is disciplined: nothing is open and nothing was called. -/
theorem Fresh.disciplined {data : ChainData} (h : data.Fresh) : data.Disciplined where
  toOnRing := h.toOnRing
  state i _ := by
    rw [h.slots i, Open, h.idle]
    simp
  started i _ hstarted := by
    rw [h.slots i] at hstarted
    cases hstarted
  lawful event hevent := by
    rw [h.log] at hevent
    exact absurd hevent List.not_mem_nil

variable {data : ChainData} {body : CommandBuffer → CommandBuffer} {action : SlotAction}

/-- The discipline does not look at the flags, the stored barriers or the world. -/
theorem Disciplined.of_eq (h : data.Disciplined) {data' : ChainData} (hcmd : data'.cmd = data.cmd)
    (hparent : data'.parent = data.parent) (hcurrent : data'.current = data.current)
    (hnum : data'.numCmd = data.numCmd) : data'.Disciplined := by
  refine ⟨⟨hparent.trans h.parent, hcmd ▸ h.level, hcmd ▸ h.size, hcurrent ▸ h.current,
    hcmd ▸ h.cursor, hnum ▸ h.numCmd⟩, ?_, ?_, hcmd ▸ h.lawful⟩
  · intro i hi
    rw [Open, hcmd, hnum, hcurrent]
    exact h.state i hi
  · intro i hi
    rw [Open, hcmd, hnum, hcurrent]
    exact h.started i hi

/-- With the cursor at home an operation visits the slots that are open during a recording. -/
theorem visits_iff_of_home (h : data.Home) (i : Nat) :
    data.Visits i ↔ data.numCmd = commandBufferCount ∨ i = data.current := by
  unfold Visits
  rcases h with hall | hcursor
  · exact iff_of_true (Or.inl hall) (Or.inl hall)
  · rw [hcursor]

/-- A broadcast that leaves every slot's lifecycle state alone keeps the discipline when its calls
are lawful. -/
theorem Disciplined.broadcast (h : data.Disciplined)
    (hbody : data.cmd.Performs body action id)
    (hstate : ∀ slot, (action.apply slot).vk.state = slot.vk.state)
    (hstarted : ∀ slot, (action.apply slot).startedRenderPass = slot.startedRenderPass)
    (hlawful : ∀ i < commandBufferCount, data.Visits i →
      ∀ event ∈ action.events i (data.cmd.slots i), event.Lawful) :
    (data.broadcast body).Disciplined := by
  have hspec := broadcast_spec h.toOnRing hbody (fun _ => rfl)
  have hopen : ∀ i, (data.broadcast body).Open i ↔ data.Open i := by
    intro i
    unfold Open
    rw [hspec.recording]
    exact Iff.rfl
  refine ⟨h.toOnRing.broadcast hbody (fun _ => rfl), ?_, ?_, ?_⟩
  · intro i hi
    rw [hopen, ← h.state i hi, hspec.slots i hi]
    split
    · rw [hstate]
    · rfl
  · intro i hi
    rw [hopen, hspec.slots i hi]
    split
    · rw [hstarted]
      exact h.started i hi
    · exact h.started i hi
  · exact hspec.log _ h.lawful hlawful

/-- `record` keeps the discipline when it is called at home. After it the chain is recording and the
cursor is at home. -/
theorem Disciplined.record (h : data.Disciplined) (passes : PassId → RenderPass)
    (useRenderPass : Bool) (hhome : data.cmd.recording = false → data.Home) :
    (data.record passes useRenderPass).Disciplined ∧
      (data.record passes useRenderPass).cmd.recording = true ∧
      (data.record passes useRenderPass).cmd.current = data.current := by
  cases hrec : data.cmd.recording with
  | true =>
      rw [record_of_recording hrec]
      -- already recording: `record` only puts the cursor back
      have hcursor : (data.cmd.setActive data.current).current = data.current :=
        if_pos (by rw [h.size]; exact h.current)
      refine ⟨⟨⟨h.parent, h.level, h.size, h.current, ?_, h.numCmd⟩, h.state, h.started, h.lawful⟩,
        hrec, hcursor⟩
      show (data.cmd.setActive data.current).current < commandBufferCount
      rw [hcursor]
      exact h.current
  | false =>
      rw [record_of_not_recording hrec]
      have hbody := h.toOnRing.performs_recordBody passes useRenderPass
      have hspec := broadcast_spec h.toOnRing hbody (fun _ => rfl)
      -- no slot is open before, and at home the visited slots are those open afterwards
      have hidle : ∀ i < commandBufferCount, (data.cmd.slots i).vk.state ≠ .recording := by
        intro i hi hstate
        have hopen := ((h.state i hi).mp hstate).1
        rw [hrec] at hopen
        cases hopen
      have hopen : ∀ i, (data.broadcast (data.recordBody passes useRenderPass)).Open i ↔
          data.Visits i := by
        intro i
        rw [visits_iff_of_home (hhome hrec), Open, hspec.recording]
        exact and_iff_right rfl
      refine ⟨⟨h.toOnRing.broadcast hbody (fun _ => rfl), ?_, ?_, ?_⟩, hspec.recording,
        hspec.cursor⟩
      · intro i hi
        rw [hopen, hspec.slots i hi]
        by_cases hvisit : data.Visits i
        · rw [if_pos hvisit]
          exact iff_of_true (SlotAction.state_begin ..) hvisit
        · rw [if_neg hvisit]
          exact iff_of_false (hidle i hi) hvisit
      · intro i hi hstarted
        rw [hopen]
        by_contra hvisit
        rw [hspec.slots i hi, if_neg hvisit] at hstarted
        have hwas := (h.started i hi hstarted).1
        rw [hrec] at hwas
        cases hwas
      · exact hspec.log _ h.lawful fun i hi _ event hevent =>
          SlotAction.lawful_begin (hidle i hi) hevent

/-- Recording commands keeps the discipline while the chain is recording at home. -/
theorem Disciplined.each (h : data.Disciplined) (hrec : data.cmd.recording = true)
    (hhome : data.Home) (bound : Option PipelineState) (commands : List Command) :
    (data.broadcast (·.issueBound bound commands)).Disciplined := by
  refine h.broadcast (CommandBuffer.performs_issueBound bound commands)
    (fun slot => SlotAction.state_emit slot commands) (fun _ => rfl) ?_
  intro i hi hvisit event hevent
  have hopen : data.Open i := ⟨hrec, (visits_iff_of_home hhome i).mp hvisit⟩
  exact SlotAction.lawful_emit ((h.state i hi).mpr hopen) hevent

/-- `end` keeps the discipline when it is called at home, and leaves the chain not recording. -/
theorem Disciplined.stop (h : data.Disciplined) (hhome : data.cmd.recording = true → data.Home) :
    data.stop.Disciplined ∧ data.stop.cmd.recording = false := by
  unfold ChainData.stop
  cases hrec : data.cmd.recording with
  | false =>
      simp only [Bool.false_eq_true, if_false]
      exact ⟨h, hrec⟩
  | true =>
      simp only [if_true]
      have hbody : data.cmd.Performs CommandBuffer.stop .stop (fun _ => false) :=
        CommandBuffer.performs_stop
      have hspec := broadcast_spec h.toOnRing hbody (fun _ => rfl)
      have hring := h.toOnRing.broadcast hbody (fun _ => rfl)
      have hvisits : ∀ i, data.Visits i ↔ data.Open i := by
        intro i
        rw [visits_iff_of_home (hhome hrec), Open]
        exact (and_iff_right hrec).symm
      -- at home the loop visits just the open slots, so none is being recorded afterwards
      have hclosed : ∀ i, ¬ (data.broadcast CommandBuffer.stop).Open i := by
        intro i hopen
        have hflag := hopen.1
        rw [hspec.recording] at hflag
        cases hflag
      refine ⟨⟨⟨hring.parent, hring.level, hring.size, hring.current, hring.cursor, hring.numCmd⟩,
        ?_, ?_, ?_⟩, hspec.recording⟩
      · intro i hi
        refine iff_of_false ?_ (hclosed i)
        show ((data.broadcast CommandBuffer.stop).cmd.slots i).vk.state ≠ .recording
        rw [hspec.slots i hi]
        by_cases hvisit : data.Visits i
        · have hwas := (h.state i hi).mpr ((hvisits i).mp hvisit)
          rw [if_pos hvisit, SlotAction.state_stop _ hwas]
          decide
        · rw [if_neg hvisit]
          exact fun hstate => hvisit ((hvisits i).mpr ((h.state i hi).mp hstate))
      · intro i hi hstarted
        exfalso
        have hslot : ((data.broadcast CommandBuffer.stop).cmd.slots i).startedRenderPass = true :=
          hstarted
        rw [hspec.slots i hi] at hslot
        by_cases hvisit : data.Visits i
        · rw [if_pos hvisit] at hslot
          cases hslot
        · rw [if_neg hvisit] at hslot
          exact hvisit ((hvisits i).mpr (h.started i hi hslot))
      · exact hspec.log _ h.lawful fun i hi hvisit event hevent =>
          SlotAction.lawful_stop ((h.state i hi).mpr ((hvisits i).mp hvisit)) hevent

/-- Completions on the GPU keep the discipline, for they leave alone all that it is about. -/
theorem Disciplined.complete (h : data.Disciplined) :
    ({ data with cmd := data.cmd.completeAll } : ChainData).Disciplined where
  toOnRing := ⟨h.parent, h.level, h.size, h.current, h.cursor, h.numCmd⟩
  state := h.state
  started := h.started
  lawful := h.lawful

/-- The moves of an operation keep the discipline; `recorded` says that the chain is recording at
home already. -/
theorem Disciplined.moves (h : data.Disciplined) (passes : PassId → RenderPass)
    {moves : List Move} {recorded : Bool} (hmoves : Recorded recorded moves)
    (hrecorded : recorded = true → data.cmd.recording = true ∧ data.Home)
    (hhome : data.cmd.recording = false → data.Home) :
    (data.moves passes moves).Disciplined := by
  induction moves generalizing data recorded with
  | nil => exact h
  | cons move moves ih =>
      cases move with
      | storeImageBarrier barrier =>
          exact ih (h.of_eq rfl rfl rfl rfl) hmoves hrecorded hhome
      | storeBufferBarrier barrier =>
          exact ih (h.of_eq rfl rfl rfl rfl) hmoves hrecorded hhome
      | markRecord => exact ih (h.of_eq rfl rfl rfl rfl) hmoves hrecorded hhome
      | synchronize device =>
          show ((data.deviceSynchronize _).moves passes moves).Disciplined
          rcases data.deviceSynchronize_cases (device.or data.cmd.queue.device) with same | same
          · rw [same]
            exact ih h.complete hmoves hrecorded hhome
          · rw [same]
            exact ih h hmoves hrecorded hhome
      | record useRenderPass =>
          -- from here on the chain is recording at home
          obtain ⟨hstep, hrec, hcursor⟩ := h.record passes useRenderPass hhome
          have hrest : Recorded true moves := hmoves
          refine ih hstep hrest (fun _ => ⟨hrec, Or.inr hcursor⟩) ?_
          intro hidle
          cases hrec.symm.trans hidle
      | each bound commands =>
          obtain ⟨htrue, hrest⟩ := hmoves
          obtain ⟨hrec, hhome'⟩ := hrecorded htrue
          have hstep := h.each hrec hhome' bound commands
          have hbody : data.cmd.Performs (·.issueBound bound commands) (.emit commands) id :=
            CommandBuffer.performs_issueBound bound commands
          have hspec := broadcast_spec h.toOnRing hbody (fun _ => rfl)
          have hhome'' : (data.broadcast (·.issueBound bound commands)).Home :=
            Or.inr hspec.cursor
          exact ih (hstep.of_eq rfl rfl rfl rfl) hrest
            (fun _ => ⟨hspec.recording.trans hrec, hhome''⟩) fun _ => hhome''

end ChainData

/-! ## Operations -/

/-- Whether `combine` records the child's buffer, and not only moves to the next subpass. -/
def Session.Executes (s : Session) (child : ChainData) : Prop :=
  child.parent = some s.self ∧ child.cmd.recording = false ∧ child.cmd.level = .secondary ∧
    s.data.cmd.subpassFlags = .secondaryCommandBuffers

instance (s : Session) (child : ChainData) : Decidable (s.Executes child) :=
  inferInstanceAs (Decidable (_ ∧ _ ∧ _ ∧ _))

/-- **The condition on a step.** A recording starts and ends with the buffer cursor at home, the
mode does not change during one, and a child is executed only during one. -/
def Op.Steady (s : Session) : Op → Prop
  | .begin | .recording _ => s.data.cmd.recording = false → s.data.Home
  | .stop | .submit => s.data.cmd.recording = true → s.data.Home
  | .setMode mode => s.data.cmd.recording = true → (s.data.setMode mode).numCmd = s.data.numCmd
  | .combine _ child => s.Executes child → s.data.cmd.recording = true ∧ s.data.Home
  | .advance | .synchronize => True

instance (s : Session) : (op : Op) → Decidable (op.Steady s)
  | .begin => inferInstanceAs (Decidable (_ → _))
  | .recording _ => inferInstanceAs (Decidable (_ → _))
  | .stop => inferInstanceAs (Decidable (_ → _))
  | .submit => inferInstanceAs (Decidable (_ → _))
  | .setMode _ => inferInstanceAs (Decidable (_ → _))
  | .combine _ _ => inferInstanceAs (Decidable (_ → _ ∧ _))
  | .advance => isTrue trivial
  | .synchronize => isTrue trivial

namespace ChainData

variable {data : ChainData}

/-- A chain that is not recording has no open slot, whatever its cursor and its mode. -/
theorem Disciplined.of_idle (h : data.Disciplined) (hidle : data.cmd.recording = false)
    {data' : ChainData} (hring : data'.OnRing)
    (hslots : ∀ i < commandBufferCount,
      (data'.cmd.slots i).vk.state = (data.cmd.slots i).vk.state ∧
        (data'.cmd.slots i).startedRenderPass = (data.cmd.slots i).startedRenderPass)
    (hrec : data'.cmd.recording = false) (hlog : ∀ event ∈ data'.cmd.log, event.Lawful) :
    data'.Disciplined := by
  have hclosed : ∀ d : ChainData, d.cmd.recording = false → ∀ i, ¬ d.Open i := by
    intro d hd i hopen
    cases hd.symm.trans hopen.1
  refine ⟨hring, ?_, ?_, hlog⟩
  · intro i hi
    rw [(hslots i hi).1, h.state i hi]
    exact iff_of_false (hclosed data hidle i) (hclosed data' hrec i)
  · intro i hi hstarted
    rw [(hslots i hi).2] at hstarted
    exact absurd (h.started i hi hstarted) (hclosed data hidle i)

/-- The submit of the buffer under the cursor keeps the discipline of a chain that is not
recording. -/
theorem Disciplined.queueSubmit (h : data.Disciplined) (hidle : data.cmd.recording = false) :
    ({ data with
      cmd := Queue.submit data.cmd
      current := (Queue.submit data.cmd).current
      dirty := false } : ChainData).Disciplined := by
  have hsubmit := CommandBuffer.submit_eq data.cmd h.level
  have hsetup := CommandBuffer.setup_submit h.level
  have hcursor := h.current_submit
  have hslots : (Queue.submit data.cmd).slots = (data.cmd.act .submit).slots := by rw [hsubmit]; rfl
  refine h.of_idle hidle ⟨h.parent, (CommandBuffer.level_eq_of_setup hsetup).trans h.level,
    (CommandBuffer.size_eq_of_setup hsetup).trans h.size, hcursor, hcursor, h.numCmd⟩ ?_ ?_ ?_
  · intro i _
    show ((Queue.submit data.cmd).slots i).vk.state = _ ∧
      ((Queue.submit data.cmd).slots i).startedRenderPass = _
    rw [hslots, CommandBuffer.act]
    by_cases hi : i = data.cmd.current
    · subst hi
      simp only [Function.update_self]
      exact ⟨rfl, rfl⟩
    · simp only [Function.update_of_ne hi, and_self]
  · show (Queue.submit data.cmd).recording = false
    rw [hsubmit]
    exact hidle
  · intro event hevent
    have hlog : (Queue.submit data.cmd).log
        = data.cmd.log ++ [⟨.submit, data.cmd.current, data.cmd.active.vk⟩] := by rw [hsubmit]; rfl
    have hmem : event ∈ data.cmd.log ++ [⟨.submit, data.cmd.current, data.cmd.active.vk⟩] :=
      hlog ▸ hevent
    rcases List.mem_append.mp hmem with hold | hnew
    · exact h.lawful event hold
    · rw [List.mem_singleton.mp hnew]
      trivial

end ChainData

/-- Moving to the next subpass, where a render pass is open. -/
def SlotAction.nextSubpass (contents : SubpassContents) : SlotAction where
  calls slot := if slot.startedRenderPass then [.command (.nextSubpass contents)] else []

namespace Session

variable {s : Session}

/-- A submit that reaches the queue submits the slot under the cursor of the ended chain, and moves
both cursors on. -/
theorem submit_of_ready (env : Environment)
    (h : s.data.stop.parent = none ∧ s.data.stop.hasRecord = true ∧ s.data.stop.dirty = true) :
    s.submit env =
      { s with
        data :=
          { s.data.stop with
            cmd := Queue.submit s.data.stop.cmd
            current := (Queue.submit s.data.stop.cmd).current
            dirty := false
            imageBarriers := []
            bufferBarriers := [] }
        world := { s.world with
          memory := executeCommands env.effect s.data.stop.cmd.active.vk.commands
            s.world.memory }.advancePass s.data.stop.pass } := by
  have hended : s.stop.data = s.data.stop := rfl
  simp only [submit, hended, h, and_self, if_true]
  rfl

/-- A submit that does not reach the queue ends the chain, and drops its barriers. -/
theorem submit_of_not_ready (env : Environment)
    (h : ¬ (s.data.stop.parent = none ∧ s.data.stop.hasRecord = true ∧ s.data.stop.dirty = true)) :
    s.submit env =
      { s with data := { s.data.stop with imageBarriers := [], bufferBarriers := [] } } := by
  have hended : s.stop.data = s.data.stop := rfl
  simp only [submit, hended, h, if_false]
  rfl

/-- A `submit` keeps the discipline when a recording that it ends is at home. -/
theorem disciplined_submit (env : Environment) (h : s.data.Disciplined)
    (hhome : s.data.cmd.recording = true → s.data.Home) :
    (s.submit env).data.Disciplined := by
  obtain ⟨hstop, hidle⟩ := h.stop hhome
  by_cases hready : s.data.stop.parent = none ∧ s.data.stop.hasRecord = true ∧
      s.data.stop.dirty = true
  · rw [submit_of_ready env hready]
    exact (hstop.queueSubmit hidle).of_eq rfl rfl rfl rfl
  · rw [submit_of_not_ready env hready]
    exact hstop.of_eq rfl rfl rfl rfl

/-- Executing the child is an action on each slot, possibly an empty one. -/
theorem performs_combine (cmd : CommandBuffer) (childId : ChainId) (child : CommandBuffer) :
    cmd.Performs (·.combine childId child)
      (.emit (if cmd.level = .primary ∧ child.level = .secondary ∧
        cmd.subpassFlags = .secondaryCommandBuffers
        then [.executeCommands childId child.current] else [])) id := by
  intro c hc
  show (c.combine childId child).Agrees _ ∧ (c.combine childId child).recording = _
  rw [CommandBuffer.combine, CommandBuffer.level_eq_of_setup hc,
    CommandBuffer.subpassFlags_eq_of_setup hc]
  split
  · rw [CommandBuffer.issue_eq]
    exact ⟨⟨rfl, rfl, rfl, rfl⟩, rfl⟩
  · rw [← CommandBuffer.issue_eq]
    exact ⟨⟨rfl, rfl, rfl, rfl⟩, rfl⟩

/-- To move to the next subpass is an action on the slot under the cursor of a primary ring. -/
theorem performs_nextSubpass {cmd : CommandBuffer} (h : cmd.level = .primary) :
    cmd.Performs CommandBuffer.nextSubpass (.nextSubpass cmd.subpassFlags) id := by
  intro c hc
  rw [CommandBuffer.nextSubpass, if_pos ((CommandBuffer.level_eq_of_setup hc).trans h),
    CommandBuffer.subpassFlags_eq_of_setup hc]
  cases hs : c.active.startedRenderPass with
  | true =>
      simp only [if_true]
      rw [CommandBuffer.issue_eq]
      refine ⟨⟨?_, ?_, rfl, rfl⟩, rfl⟩ <;>
        simp only [CommandBuffer.act, SlotAction.apply, SlotAction.events, SlotAction.emit,
          SlotAction.nextSubpass, hs, if_true, List.map_cons, List.map_nil]
  | false =>
      have hcalls : (SlotAction.nextSubpass cmd.subpassFlags).calls c.active = [] :=
        if_neg (by rw [hs]; exact Bool.false_ne_true)
      simp only [Bool.false_eq_true, if_false]
      refine ⟨⟨?_, ?_, rfl, rfl⟩, rfl⟩
      · rw [CommandBuffer.act, SlotAction.apply, hcalls]
        exact (Function.update_eq_self c.current c.slots).symm
      · simp only [CommandBuffer.act, SlotAction.events, SlotAction.nextSubpass, hs,
          Bool.false_eq_true, if_false, callEvents, List.append_nil]

/-- `nextSubpass` on each command buffer keeps the discipline: it is recorded only where a render
pass is open. -/
theorem disciplined_nextSubpass {data : ChainData} (h : data.Disciplined) :
    (data.broadcast CommandBuffer.nextSubpass).Disciplined := by
  refine h.broadcast (performs_nextSubpass h.level) ?_ (fun _ => rfl) ?_
  · intro slot
    cases hs : slot.startedRenderPass with
    | true =>
        simp only [SlotAction.apply, SlotAction.nextSubpass, hs, if_true]
        exact (foldl_perform_commands_frame slot.vk [_]).1
    | false =>
        simp only [SlotAction.apply, SlotAction.nextSubpass, hs, Bool.false_eq_true, if_false,
          List.foldl_nil]
  · intro i hi _ event hevent
    cases hs : (data.cmd.slots i).startedRenderPass with
    | true =>
        -- a slot with a render pass open is open, hence being recorded
        have hstate := (h.state i hi).mpr (h.started i hi hs)
        simp only [SlotAction.events, SlotAction.nextSubpass, hs, if_true] at hevent
        exact lawful_commands hstate
          (show event ∈ callEvents i _ ([Command.nextSubpass _].map .command) from hevent)
    | false =>
        simp only [SlotAction.events, SlotAction.nextSubpass, hs, Bool.false_eq_true, if_false,
          callEvents, List.not_mem_nil] at hevent

/-- Executing a child keeps the discipline during a recording at home. -/
theorem disciplined_execute {data : ChainData} (h : data.Disciplined) (childId : ChainId)
    (child : CommandBuffer)
    (hopen : child.level = .secondary ∧ data.cmd.subpassFlags = .secondaryCommandBuffers →
      data.cmd.recording = true ∧ data.Home) :
    (data.broadcast (·.combine childId child)).Disciplined := by
  refine h.broadcast (performs_combine data.cmd childId child)
    (fun slot => SlotAction.state_emit slot _) (fun _ => rfl) ?_
  intro i hi hvisit event hevent
  by_cases hexec : data.cmd.level = .primary ∧ child.level = .secondary ∧
      data.cmd.subpassFlags = .secondaryCommandBuffers
  · obtain ⟨hrec, hhome⟩ := hopen hexec.2
    have hslot : data.Open i := ⟨hrec, (ChainData.visits_iff_of_home hhome i).mp hvisit⟩
    exact SlotAction.lawful_emit ((h.state i hi).mpr hslot) hevent
  · rw [if_neg hexec] at hevent
    exact absurd hevent List.not_mem_nil

/-- A `combine` keeps the discipline when it executes a child only during a recording at home. -/
theorem disciplined_combine {s' : Session} (h : s.data.Disciplined) {childId : ChainId}
    {child : ChainData}
    (hopen : s.Executes child → s.data.cmd.recording = true ∧ s.data.Home)
    (hstep : s.combine childId child = .ok s') : s'.data.Disciplined := by
  rw [combine] at hstep
  by_cases hacts : s.data.parent = none ∧ child.parent = some s.self ∧
      child.cmd.recording = false
  · rw [if_pos hacts] at hstep
    have hmarked : ({ s.data with hasRecord := true } : ChainData).Disciplined :=
      h.of_eq rfl rfl rfl rfl
    have hexecuted := disciplined_execute hmarked childId child.cmd fun hexec =>
      hopen ⟨hacts.2.1, hacts.2.2, hexec.1, hexec.2⟩
    cases hpass : s.data.pass with
    | none =>
        have hnone : (({ s.data with hasRecord := true } : ChainData).broadcast
            (·.combine childId child.cmd)).pass = none := hpass
        simp only [hnone, reduceCtorEq] at hstep
    | some pass =>
        have hsome : (({ s.data with hasRecord := true } : ChainData).broadcast
            (·.combine childId child.cmd)).pass = some pass := hpass
        simp only [hsome, Except.ok.injEq] at hstep
        subst hstep
        split
        · exact (disciplined_nextSubpass hexecuted).of_eq rfl rfl rfl rfl
        · exact hexecuted.of_eq rfl rfl rfl rfl
  · rw [if_neg hacts, Except.ok.injEq] at hstep
    exact hstep ▸ h

end Session

/-- **A steady step keeps the discipline** of a chain, whatever operation it is. -/
theorem Op.disciplined_step {env : Environment} {s s' : Session} {op : Op}
    (h : s.data.Disciplined) (hsteady : op.Steady s) (hstep : op.step env s = .ok s') :
    s'.data.Disciplined := by
  cases op with
  | begin =>
      cases hstep
      rw [Session.begin, h.parent]
      exact (h.record s.world.passes s.data.pass.isSome hsteady).1
  | advance =>
      cases hstep
      -- `advance` moves the buffer cursor alone; the law only suffers when a recording starts there
      refine ⟨⟨h.parent, h.level, h.size, h.current, ?_, h.numCmd⟩, h.state, h.started, h.lawful⟩
      show ringNext s.data.cmd.size s.data.cmd.current < commandBufferCount
      rw [h.size]
      exact ringNext_lt _ (by decide)
  | setMode mode =>
      cases hstep
      cases hrec : s.data.cmd.recording with
      | true =>
          -- during a recording the condition rules out a change of the mode
          cases mode <;> exact h.of_eq rfl rfl rfl (hsteady hrec)
      | false =>
          refine h.of_idle hrec ?_ ?_ ?_ ?_ <;> cases mode
          · exact ⟨h.parent, h.level, h.size, h.current, h.cursor, Or.inl rfl⟩
          · exact ⟨h.parent, h.level, h.size, h.current, h.cursor, Or.inr rfl⟩
          · exact fun _ _ => ⟨rfl, rfl⟩
          · exact fun _ _ => ⟨rfl, rfl⟩
          · exact hrec
          · exact hrec
          · exact h.lawful
          · exact h.lawful
  | stop =>
      cases hstep
      exact (h.stop hsteady).1
  | submit =>
      cases hstep
      exact Session.disciplined_submit env h hsteady
  | synchronize =>
      cases hstep
      unfold Session.synchronize
      split
      · exact h.complete
      · exact h
  | recording op =>
      obtain ⟨recipe, hrecipe, rfl⟩ := op.exists_recipe hstep
      exact h.moves s.world.passes (RecordingOp.recorded hrecipe)
        (fun hfalse => absurd hfalse Bool.false_ne_true) hsteady
  | combine childId child => exact Session.disciplined_combine h hsteady hstep

/-- **Steady runs keep the discipline**: if every step of a run is steady, the chain is disciplined
after it. -/
theorem disciplined_run {env : Environment} {s t : Session} {ops : List Op}
    (h : s.data.Disciplined) (hsteady : StepsMeet (Op.step env) (fun s op => op.Steady s) s ops)
    (hrun : runSteps (Op.step env) s ops = .ok t) : t.data.Disciplined :=
  runSteps_preserves (fun s => s.data.Disciplined)
    (fun _ _ _ hs hop hstep => Op.disciplined_step hs hop hstep) h hsteady hrun

/-- **Every command goes to a recording buffer**, in every run of a freshly initialised chain
without a parent whose steps are steady. -/
theorem commands_target_recording (env : Environment) (s t : Session) (ops : List Op)
    (hinit : s.data.JustInitialized env s.world.passes)
    (hsteady : StepsMeet (Op.step env) (fun s op => op.Steady s) s ops)
    (hrun : runSteps (Op.step env) s ops = .ok t) : ∀ event ∈ t.data.cmd.log, event.Lawful :=
  (disciplined_run hinit.fresh.disciplined hsteady hrun).lawful

/-- Operations in both modes, with the cursor moved while nothing is recorded. -/
def bothModes : List Op :=
  [.begin, .recording (.pipelineBarrier .transfer .host), .submit, .setMode .all, .advance,
    .recording (.copyBuffer ⟨.array 0, 0⟩ ⟨.array 1, 0⟩ 4 1 0 0), .stop, .submit]

/-- The run of a new graphics chain in both modes is steady, and all its calls are lawful. -/
theorem commands_target_recording_bothModes :
    ∃ t, runSteps (Op.step .inert) .newGraphics bothModes = .ok t ∧
      ∀ event ∈ t.data.cmd.log, event.Lawful :=
  ⟨_, rfl, commands_target_recording .inert .newGraphics _ bothModes (.type 0 .graphics)
    (by decide +kernel) rfl⟩

/-- Without the condition a command goes to a buffer that was never begun: after `advance` a copy
begins the buffer under the moved cursor and is recorded into the one under the chain's cursor. -/
theorem not_commands_target_recording :
    ¬ ∀ (env : Environment) (s t : Session) (ops : List Op),
      s.data.JustInitialized env s.world.passes → runSteps (Op.step env) s ops = .ok t →
        ∀ event ∈ t.data.cmd.log, event.Lawful := by
  intro h
  have hlaw := h .inert .newGraphics _
    [.advance, .recording (.copyBuffer ⟨.array 0, 0⟩ ⟨.array 1, 0⟩ 4 1 0 0)] (.type 0 .graphics) rfl
  revert hlaw
  decide +kernel

end Nyx
