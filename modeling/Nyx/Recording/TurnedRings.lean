import Nyx.Recording.Subpasses

/-! # Turned rings

Two chains that differ only in where on the ring their cursors stand make the same calls, on slots
that are turned against each other. What a chain forgets between two recordings, such as the
pipeline that was bound last, makes no difference either.

* **`CommandBuffer.Turned`**, **`ChainData.Turned`** — the relation between the two, for the ring
  and for the chain.
* **`CommandBuffer.Turned.forEach`** — the loop over the command buffers keeps it.
* **`Op.turned_step`** — so does every operation, and the two chains fail alike. -/

namespace Nyx

open Foundations

/-- The call that an event tells of, on the turned slot. -/
def Event.turn (c : Nat) (event : Event) : Event :=
  { event with slot := ringTurn commandBufferCount c event.slot }

/-- Calls on the turned slot make the events of calls on the other one, turned. -/
theorem callEvents_turn (c i : Nat) (vk : VkSlot) (calls : List Call) :
    callEvents (ringTurn commandBufferCount c i) vk calls =
      (callEvents i vk calls).map (Event.turn c) := by
  induction calls generalizing vk with
  | nil => rfl
  | cons call calls ih =>
      rw [callEvents, callEvents, ih]
      rfl

namespace CommandBuffer

/-! ## The ring -/

/-- **Turned.** A ring that agrees with another one on the ring turned by `c` slots. What pipeline
is bound does not matter. -/
structure Turned (c : Nat) (cmd cmd' : CommandBuffer) : Prop where
  size : cmd'.size = commandBufferCount
  cursor : cmd'.current < commandBufferCount
  setup : cmd.setup = cmd'.setup
  recording : cmd.recording = cmd'.recording
  queue : cmd.queue = cmd'.queue
  slots : ∀ i < commandBufferCount, cmd.slots (ringTurn commandBufferCount c i) = cmd'.slots i
  current : cmd.current = ringTurn commandBufferCount c cmd'.current
  log : cmd.log = cmd'.log.map (Event.turn c)

variable {c : Nat} {cmd cmd' : CommandBuffer} {body : CommandBuffer → CommandBuffer}
  {action : SlotAction} {flag : Bool → Bool}

/-- On turned rings the slots under the two cursors are the same. -/
theorem Turned.active (h : cmd.Turned c cmd') : cmd.active = cmd'.active := by
  rw [CommandBuffer.active, h.current]
  exact h.slots _ h.cursor

/-- An action on the slots under both cursors leaves the rings turned as they are. -/
theorem Turned.act (h : cmd.Turned c cmd') (action : SlotAction) :
    (cmd.act action).Turned c (cmd'.act action) where
  size := h.size
  cursor := h.cursor
  setup := h.setup
  recording := h.recording
  queue := h.queue
  slots i hi := by
    rw [CommandBuffer.act, CommandBuffer.act, h.active, h.current]
    by_cases hcursor : i = cmd'.current
    · subst hcursor
      simp
    · have hne : ringTurn commandBufferCount c i ≠ ringTurn commandBufferCount c cmd'.current :=
        fun heq => hcursor (ringTurn_inj hi h.cursor heq)
      simp [hcursor, hne, h.slots i hi]
  current := h.current
  log := by
    show cmd.log ++ _ = (cmd'.log ++ _).map (Event.turn c)
    rw [List.map_append, h.log, h.active, h.current]
    exact congrArg _ (callEvents_turn c _ _ _)

/-- When both cursors move on, the rings stay turned as they are. -/
theorem Turned.advance (h : cmd.Turned c cmd') : cmd.advance.Turned c cmd'.advance where
  size := h.size
  cursor := by
    show ringNext cmd'.size cmd'.current < commandBufferCount
    rw [h.size]
    exact ringNext_lt _ (by decide)
  setup := h.setup
  recording := h.recording
  queue := h.queue
  slots := h.slots
  current := by
    show ringNext cmd.size cmd.current = ringTurn commandBufferCount c (ringNext cmd'.size _)
    rw [size_eq_of_setup h.setup, h.size, h.current, ringTurn_next h.cursor]
  log := h.log

/-- When both cursors are put on slots that are turned alike, the rings stay turned as they are. -/
theorem Turned.setActive (h : cmd.Turned c cmd') {i : Nat} (hi : i < commandBufferCount) :
    (cmd.setActive (ringTurn commandBufferCount c i)).Turned c (cmd'.setActive i) := by
  have hsize : cmd.size = commandBufferCount := (size_eq_of_setup h.setup).trans h.size
  have hturned := ringTurn_lt c i (show 0 < commandBufferCount by decide)
  rw [CommandBuffer.setActive, CommandBuffer.setActive, if_pos (hsize ▸ hturned),
    if_pos (h.size ▸ hi)]
  exact ⟨h.size, hi, h.setup, h.recording, h.queue, h.slots, rfl, h.log⟩

/-- Completions on both rings leave them turned as they are. -/
theorem Turned.completeAll (h : cmd.Turned c cmd') :
    cmd.completeAll.Turned c cmd'.completeAll where
  size := h.size
  cursor := h.cursor
  setup := h.setup
  recording := h.recording
  queue := h.queue
  slots i hi := by
    show (let slot := cmd.slots _; ({ slot with
      vk := { slot.vk with fence := slot.vk.fence.complete } } : Slot)) = _
    rw [h.slots i hi]
    rfl
  current := h.current
  log := h.log

/-- A body that performs an action leaves both rings turned as they are. -/
theorem Turned.performs (h : cmd.Turned c cmd') (hbody : cmd'.Performs body action flag)
    (hqueue : ∀ cmd, (body cmd).queue = cmd.queue) : (body cmd).Turned c (body cmd') := by
  have hact := h.act action
  obtain ⟨hleft, hflag⟩ := hbody cmd h.setup
  obtain ⟨hright, hflag'⟩ := hbody cmd' rfl
  refine ⟨(size_eq_of_setup hright.setup).trans hact.size, hright.current ▸ hact.cursor,
    hleft.setup.trans (hact.setup.trans hright.setup.symm), ?_, ?_, ?_, ?_, ?_⟩
  · rw [hflag, hflag', h.recording]
  · rw [hqueue, hqueue, h.queue]
  · intro i hi
    rw [hleft.slots, hright.slots]
    exact hact.slots i hi
  · rw [hleft.current, hright.current]
    exact hact.current
  · rw [hleft.log, hright.log]
    exact hact.log

/-- **The loop on both rings** leaves them turned as they are, however many rounds it has. -/
theorem Turned.forEach (h : cmd.Turned c cmd') (hbody : cmd'.Performs body action flag)
    (hqueue : ∀ cmd, (body cmd).queue = cmd.queue) (n : Nat) :
    (cmd.forEach n body).Turned c (cmd'.forEach n body) := by
  induction n generalizing cmd cmd' with
  | zero => exact h
  | succ n ih =>
      rw [forEach_succ, forEach_succ]
      exact ih (h.performs hbody hqueue).advance hbody.next

/-! ## Bodies leave the queue alone -/

/-- To record commands leaves the queue of the command buffer alone. -/
theorem queue_issue (cmd : CommandBuffer) (commands : List Command) :
    (cmd.issue commands).queue = cmd.queue := by
  rw [issue_eq]
  rfl

/-- To end a command buffer leaves its queue alone. -/
theorem queue_stop (cmd : CommandBuffer) : cmd.stop.queue = cmd.queue := by
  rw [stop_eq]
  rfl

/-- To execute a child leaves the queue of the command buffer alone. -/
theorem queue_combine (cmd : CommandBuffer) (childId : ChainId) (child : CommandBuffer) :
    (cmd.combine childId child).queue = cmd.queue := by
  unfold combine
  split
  · exact queue_issue ..
  · rfl

/-- To move to the next subpass leaves the queue of the command buffer alone. -/
theorem queue_nextSubpass (cmd : CommandBuffer) : cmd.nextSubpass.queue = cmd.queue := by
  unfold nextSubpass
  split
  · split
    · exact queue_issue ..
    · rfl
  · rfl

end CommandBuffer

/-- To begin a command buffer of a chain without a parent leaves its queue alone. -/
theorem ChainData.queue_recordBody {data : ChainData} (h : data.parent = none)
    (passes : PassId → RenderPass) (useRenderPass : Bool) (cmd : CommandBuffer) :
    (data.recordBody passes useRenderPass cmd).queue = cmd.queue := by
  have hplain : ∀ cmd : CommandBuffer, cmd.record.queue = cmd.queue := fun cmd => by
    rw [CommandBuffer.record_eq]
    rfl
  unfold recordBody
  rw [h]
  cases data.pass with
  | none => exact hplain cmd
  | some pass =>
      dsimp only
      split
      · show (if cmd.level = .primary then cmd.recordPrimary (passes pass) else cmd).queue = _
        split
        · rw [CommandBuffer.recordPrimary_eq]
          rfl
        · rfl
      · exact hplain cmd

namespace ChainData

/-! ## The chain -/

/-- **Turned.** A chain that agrees with another one, which is on its ring, up to the turn. The
stored barriers do not matter, nor does `has_record` while nothing was appended. -/
structure Turned (c : Nat) (data data' : ChainData) : Prop where
  ring : data'.OnRing
  cmd : data.cmd.Turned c data'.cmd
  parent : data.parent = none
  current : data.current = ringTurn commandBufferCount c data'.current
  pass : data.pass = data'.pass
  numCmd : data.numCmd = data'.numCmd
  queue : data.queue = data'.queue
  dirty : data.dirty = data'.dirty
  ready : data.dirty = true → data.cmd.recording = true ∨
    data.hasRecord = true ∧ data'.hasRecord = true

variable {c : Nat} {data data' : ChainData} {body : CommandBuffer → CommandBuffer}
  {action : SlotAction} {flag : Bool → Bool}

/-- A turned chain is on its ring, for the other one is. -/
theorem Turned.onRing (h : data.Turned c data') : data.OnRing where
  parent := h.parent
  level := (CommandBuffer.level_eq_of_setup h.cmd.setup).trans h.ring.level
  size := (CommandBuffer.size_eq_of_setup h.cmd.setup).trans h.ring.size
  current := h.current ▸ ringTurn_lt c _ (by decide)
  cursor := h.cmd.current ▸ ringTurn_lt c _ (by decide)
  numCmd := h.numCmd ▸ h.ring.numCmd

/-- A broadcast of the same action by both chains leaves their rings turned as they are. -/
theorem Turned.broadcast_cmd (h : data.Turned c data') (hbody : data'.cmd.Performs body action flag)
    (hqueue : ∀ cmd, (body cmd).queue = cmd.queue) :
    (data.broadcast body).cmd.Turned c (data'.broadcast body).cmd := by
  have hloop := (h.cmd.forEach hbody hqueue data'.numCmd).setActive h.ring.current
  rw [← h.current] at hloop
  show ((data.cmd.forEach data.numCmd body).setActive data.current).Turned c _
  rw [h.numCmd]
  exact hloop

/-- A `record` of both chains leaves them turned as they are, and recording. -/
theorem Turned.record (h : data.Turned c data') (passes : PassId → RenderPass)
    (useRenderPass : Bool) :
    (data.record passes useRenderPass).Turned c (data'.record passes useRenderPass) ∧
      (data'.record passes useRenderPass).cmd.recording = true := by
  have hring := (h.ring.keeps_record passes useRenderPass).ring
  cases hrec : data'.cmd.recording with
  | true =>
      have hleft : data.cmd.recording = true := h.cmd.recording.trans hrec
      have hback := h.cmd.setActive h.ring.current
      rw [record_of_recording hrec] at hring ⊢
      rw [record_of_recording hleft]
      rw [← h.current] at hback
      exact ⟨⟨hring, hback, h.parent, h.current, h.pass, h.numCmd, h.queue, h.dirty,
        fun _ => Or.inl hleft⟩, hrec⟩
  | false =>
      have hleft : data.cmd.recording = false := h.cmd.recording.trans hrec
      have hbody := h.ring.performs_recordBody passes useRenderPass
      have hspec := broadcast_spec h.ring hbody fun _ => rfl
      -- without a parent the body does not look at the subpass
      have hsame : data.recordBody passes useRenderPass
          = data'.recordBody passes useRenderPass := by
        unfold recordBody
        rw [h.parent, h.ring.parent, h.pass]
      have hcmd := h.broadcast_cmd hbody (queue_recordBody h.ring.parent passes useRenderPass)
      rw [record_of_not_recording hrec] at hring ⊢
      rw [record_of_not_recording hleft, hsame]
      exact ⟨⟨hring, hcmd, h.parent, h.current, h.pass, h.numCmd, h.queue, h.dirty,
        fun _ => Or.inl (hcmd.recording.trans hspec.recording)⟩, hspec.recording⟩

/-- To record commands on both chains, which are recording, leaves them turned as they are. -/
theorem Turned.each (h : data.Turned c data') (hrec : data'.cmd.recording = true)
    (bound : Option PipelineState) (commands : List Command) :
    Turned c { data.broadcast (·.issueBound bound commands) with dirty := true }
      { data'.broadcast (·.issueBound bound commands) with dirty := true } := by
  have hbody : data'.cmd.Performs (·.issueBound bound commands) (.emit commands) id :=
    CommandBuffer.performs_issueBound bound commands
  have hspec := broadcast_spec h.ring hbody fun _ => rfl
  have hring := h.ring.broadcast hbody fun _ => rfl
  have hcmd := h.broadcast_cmd hbody fun cmd => CommandBuffer.queue_issue ..
  exact ⟨hring.congr rfl hring.cursor rfl hring.current rfl, hcmd, h.parent, h.current, h.pass,
    h.numCmd, h.queue, rfl, fun _ => Or.inl (hcmd.recording.trans (hspec.recording.trans hrec))⟩

/-- Completions on the GPU, as after a wait for a device, leave both chains turned as they are. -/
theorem Turned.complete (h : data.Turned c data') :
    Turned c { data with cmd := data.cmd.completeAll }
      { data' with cmd := data'.cmd.completeAll } :=
  ⟨h.ring.congr rfl h.ring.cursor rfl h.ring.current rfl, h.cmd.completeAll, h.parent, h.current,
    h.pass, h.numCmd, h.queue, h.dirty, h.ready⟩

/-- Waiting for a device keeps two chains turned against each other: their queues are the same, so
that both complete what they submitted or neither does. -/
theorem Turned.deviceSynchronize (h : data.Turned c data') (device : Option Nat) :
    (data.deviceSynchronize device).Turned c (data'.deviceSynchronize device) := by
  unfold ChainData.deviceSynchronize
  by_cases hown : data'.queue.device.isSome ∧ data'.queue.device = device
  · rw [if_pos hown, if_pos (h.queue ▸ hown)]
    exact h.complete
  · rw [if_neg hown, if_neg (h.queue ▸ hown)]
    exact h

/-- The fields that the calls of a chain depend on, which leave the stored barriers out. -/
def core (data : ChainData) :
    CommandBuffer × Option ChainId × Nat × Option PassId × Nat × Queue × Bool :=
  (data.cmd, data.parent, data.current, data.pass, data.numCmd, data.queue, data.dirty)

/-- The other fields do not matter, as long as no record is forgotten. -/
theorem Turned.congr (h : data.Turned c data') {left right : ChainData}
    (hleft : left.core = data.core) (hright : right.core = data'.core)
    (hrecord : data.hasRecord = true → left.hasRecord = true)
    (hrecord' : data'.hasRecord = true → right.hasRecord = true) : left.Turned c right := by
  simp only [core, Prod.mk.injEq] at hleft hright
  obtain ⟨hcmd, hparent, hcurrent, hpass, hnum, hqueue, hdirty⟩ := hleft
  obtain ⟨hcmd', hparent', hcurrent', hpass', hnum', hqueue', hdirty'⟩ := hright
  refine ⟨h.ring.congr (congrArg _ hcmd') (hcmd' ▸ h.ring.cursor) hparent'
    (hcurrent' ▸ h.ring.current) hnum', ?_, hparent.trans h.parent, ?_, ?_, ?_, ?_, ?_,
    fun hmarked => ?_⟩
  · rw [hcmd, hcmd']
    exact h.cmd
  · rw [hcurrent, hcurrent', h.current]
  · rw [hpass, hpass', h.pass]
  · rw [hnum, hnum', h.numCmd]
  · rw [hqueue, hqueue', h.queue]
  · rw [hdirty, hdirty', h.dirty]
  · rw [hcmd]
    exact (h.ready (hdirty.symm.trans hmarked)).imp_right fun hboth =>
      ⟨hrecord hboth.1, hrecord' hboth.2⟩

/-- The moves of an operation on both chains; `recorded` says that they are recording already. -/
theorem Turned.moves (h : data.Turned c data') (passes : PassId → RenderPass) {moves : List Move}
    {recorded : Bool} (hmoves : Recorded recorded moves)
    (hrec : recorded = true → data'.cmd.recording = true) :
    (data.moves passes moves).Turned c (data'.moves passes moves) := by
  induction moves generalizing data data' recorded with
  | nil => exact h
  | cons move moves ih =>
      cases move with
      | storeImageBarrier | storeBufferBarrier =>
          exact ih (h.congr rfl rfl id id) hmoves hrec
      | markRecord =>
          exact ih (h.congr rfl rfl (fun _ => rfl) fun _ => rfl) hmoves hrec
      | synchronize device =>
          have hwait := h.deviceSynchronize (device.or data'.cmd.queue.device)
          have hsame : data.move passes (.synchronize device) =
              data.deviceSynchronize (device.or data'.cmd.queue.device) := by
            rw [ChainData.move, h.cmd.queue]
          show ((data.move passes (.synchronize device)).moves passes moves).Turned c _
          rw [hsame]
          refine ih hwait hmoves fun htrue => ?_
          rw [ChainData.move]
          rcases data'.deviceSynchronize_cases (device.or data'.cmd.queue.device) with same | same
          all_goals
            rw [same]
            exact hrec htrue
      | record useRenderPass =>
          have hboth := h.record passes useRenderPass
          exact ih hboth.1 (show Recorded true moves from hmoves) fun _ => hboth.2
      | each bound commands =>
          obtain ⟨htrue, hrest⟩ := hmoves
          have hbody : data'.cmd.Performs (·.issueBound bound commands) (.emit commands) id :=
            CommandBuffer.performs_issueBound bound commands
          refine ih (h.each (hrec htrue) bound commands) hrest fun _ => ?_
          exact (broadcast_spec h.ring hbody fun _ => rfl).recording.trans (hrec htrue)

/-- An `end` of both chains leaves them turned as they are, and not recording. -/
theorem Turned.stop (h : data.Turned c data') :
    data.stop.Turned c data'.stop ∧ data'.stop.cmd.recording = false := by
  unfold ChainData.stop
  rw [h.cmd.recording]
  split
  next hrec =>
    have hbody : data'.cmd.Performs CommandBuffer.stop .stop (fun _ => false) :=
      CommandBuffer.performs_stop
    have hspec := broadcast_spec h.ring hbody fun _ => rfl
    have hring := h.ring.broadcast hbody fun _ => rfl
    have hcmd := h.broadcast_cmd hbody CommandBuffer.queue_stop
    exact ⟨⟨hring.congr rfl hring.cursor rfl hring.current rfl, hcmd, h.parent, h.current, h.pass,
      h.numCmd, h.queue, h.dirty, fun _ => Or.inr ⟨rfl, rfl⟩⟩, hspec.recording⟩
  next hidle => exact ⟨h, Bool.eq_false_iff.mpr hidle⟩

end ChainData

namespace Session

/-! ## Sessions -/

/-- Two chains of one name in one world, one of which is turned. -/
structure Turned (c : Nat) (s t : Session) : Prop where
  self : s.self = t.self
  world : s.world = t.world
  data : s.data.Turned c t.data

variable {c : Nat} {s t : Session}

/-- A `submit` of both chains leaves them turned as they are. -/
theorem Turned.submit (env : Environment) (h : s.Turned c t) :
    (s.submit env).Turned c (t.submit env) := by
  obtain ⟨hstop, hidle⟩ := h.data.stop
  -- a chain that was appended to and ended has a record
  have hready : (s.data.stop.parent = none ∧ s.data.stop.hasRecord = true ∧
      s.data.stop.dirty = true) ↔ (t.data.stop.parent = none ∧ t.data.stop.hasRecord = true ∧
        t.data.stop.dirty = true) := by
    rw [hstop.parent, hstop.ring.parent, hstop.dirty]
    refine and_congr_right fun _ => and_congr_left fun hdirty => ?_
    rcases hstop.ready (hstop.dirty.trans hdirty) with hrec | ⟨hleft, hright⟩
    · cases hidle.symm.trans (hstop.cmd.recording.symm.trans hrec)
    · exact iff_of_true hleft hright
  by_cases hsubmits : t.data.stop.parent = none ∧ t.data.stop.hasRecord = true ∧
      t.data.stop.dirty = true
  · have hcmd : (Queue.submit s.data.stop.cmd).Turned c (Queue.submit t.data.stop.cmd) := by
      rw [CommandBuffer.submit_eq _ hstop.onRing.level, CommandBuffer.submit_eq _ hstop.ring.level]
      exact (hstop.cmd.act .submit).advance
    rw [submit_of_ready env (hready.mpr hsubmits), submit_of_ready env hsubmits]
    refine ⟨h.self, ?_, ?_⟩
    · rw [hstop.cmd.active, hstop.pass, h.world]
    · exact ⟨hstop.ring.congr (CommandBuffer.setup_submit hstop.ring.level)
        hstop.ring.current_submit rfl hstop.ring.current_submit rfl, hcmd, hstop.parent,
        hcmd.current, hstop.pass, hstop.numCmd, hstop.queue, rfl, fun hdirty => nomatch hdirty⟩
  · rw [submit_of_not_ready env (mt hready.mp hsubmits), submit_of_not_ready env hsubmits]
    exact ⟨h.self, h.world,
      hstop.congr rfl rfl id id⟩

/-- `combine` on both: the child is executed on both rings, or on neither. -/
theorem Turned.combine (h : s.Turned c t) (childId : ChainId) (child : ChainData) :
    OutcomesAgree (Turned c) (s.combine childId child) (t.combine childId child) := by
  have hacts : (s.data.parent = none ∧ child.parent = some s.self ∧ child.cmd.recording = false) ↔
      (t.data.parent = none ∧ child.parent = some t.self ∧ child.cmd.recording = false) := by
    rw [h.data.parent, h.data.ring.parent, h.self]
  rw [Session.combine, Session.combine]
  by_cases hboth : t.data.parent = none ∧ child.parent = some t.self ∧ child.cmd.recording = false
  · have hmarked : ({ s.data with hasRecord := true } : ChainData).Turned c
        { t.data with hasRecord := true } := h.data.congr rfl rfl (fun _ => rfl) fun _ => rfl
    have hbody := performs_combine t.data.cmd childId child.cmd
    have hexecuted := hmarked.broadcast_cmd hbody fun cmd => cmd.queue_combine childId child.cmd
    have hring := hmarked.ring.broadcast hbody fun _ => rfl
    rw [if_pos (hacts.mpr hboth), if_pos hboth]
    cases hpass : t.data.pass with
    | none =>
        have hleft : s.data.pass = none := h.data.pass.trans hpass
        simp only [ChainData.broadcast, hleft, hpass]
        rfl
    | some pass =>
        have hleft : s.data.pass = some pass := h.data.pass.trans hpass
        have hdone : (({ s.data with hasRecord := true } : ChainData).broadcast
            (·.combine childId child.cmd)).Turned c
              (({ t.data with hasRecord := true } : ChainData).broadcast
                (·.combine childId child.cmd)) :=
          ⟨hring, hexecuted, hmarked.parent, hmarked.current, hmarked.pass, hmarked.numCmd,
            hmarked.queue, hmarked.dirty, fun _ => Or.inr ⟨rfl, rfl⟩⟩
        have hnext := performs_nextSubpass hring.level
        have hmoved := hdone.broadcast_cmd hnext CommandBuffer.queue_nextSubpass
        have hring' := hring.broadcast hnext fun _ => rfl
        simp only [ChainData.broadcast, hleft, hpass, h.world]
        refine ⟨h.self, rfl, ?_⟩
        split
        · exact ⟨hring'.congr rfl hring'.cursor rfl hring'.current rfl, hmoved, hmarked.parent,
            hmarked.current, rfl, hmarked.numCmd, hmarked.queue, rfl, fun _ => Or.inr ⟨rfl, rfl⟩⟩
        · exact ⟨hring.congr rfl hring.cursor rfl hring.current rfl, hexecuted, hmarked.parent,
            hmarked.current, rfl, hmarked.numCmd, hmarked.queue, rfl, fun _ => Or.inr ⟨rfl, rfl⟩⟩
  · rw [if_neg (mt hacts.mp hboth), if_neg hboth]
    exact h

end Session

/-- **Every operation on both**: the two chains fail alike, or stay turned against each other. -/
theorem Op.turned_step (env : Environment) {c : Nat} {s t : Session} (h : s.Turned c t) (op : Op) :
    OutcomesAgree (Session.Turned c) (op.step env s) (op.step env t) := by
  cases op with
  | begin =>
      show (s.begin).Turned c t.begin
      rw [Session.begin, Session.begin, h.data.parent, h.data.ring.parent]
      refine ⟨h.self, h.world, ?_⟩
      show (s.data.record s.world.passes s.data.pass.isSome).Turned c _
      rw [h.world, h.data.pass]
      exact (h.data.record t.world.passes t.data.pass.isSome).1
  | advance =>
      have hcmd := h.data.cmd.advance
      exact ⟨h.self, h.world, h.data.ring.congr rfl hcmd.cursor rfl h.data.ring.current rfl, hcmd,
        h.data.parent, h.data.current, h.data.pass, h.data.numCmd, h.data.queue, h.data.dirty,
        h.data.ready⟩
  | setMode mode =>
      have hring := h.data.ring
      cases mode
      · exact ⟨h.self, h.world, ⟨hring.parent, hring.level, hring.size, hring.current, hring.cursor,
          Or.inl rfl⟩, h.data.cmd, h.data.parent, h.data.current, h.data.pass, rfl, h.data.queue,
          h.data.dirty, h.data.ready⟩
      · exact ⟨h.self, h.world, ⟨hring.parent, hring.level, hring.size, hring.current, hring.cursor,
          Or.inr rfl⟩, h.data.cmd, h.data.parent, h.data.current, h.data.pass, rfl, h.data.queue,
          h.data.dirty, h.data.ready⟩
  | stop => exact ⟨h.self, h.world, h.data.stop.1⟩
  | submit => exact h.submit env
  | synchronize =>
      show s.synchronize.Turned c t.synchronize
      have hsame : s.data.initialized = t.data.initialized := by
        rw [ChainData.initialized, ChainData.initialized, CommandBuffer.initialized,
          CommandBuffer.initialized, CommandBuffer.size_eq_of_setup h.data.cmd.setup]
      rw [Session.synchronize, Session.synchronize, hsame]
      split
      · exact ⟨h.self, h.world, h.data.complete⟩
      · exact h
  | recording op =>
      rw [Op.step, Op.step, op.step_eq, op.step_eq, h.data.pass, h.data.queue, h.world]
      cases hrecipe : op.recipe env t.data.pass t.data.queue.device t.world with
      | error failure => exact rfl
      | ok recipe =>
          refine ⟨h.self, rfl, ?_⟩
          show (s.data.moves s.world.passes recipe.1).Turned c _
          rw [h.world]
          exact h.data.moves t.world.passes (RecordingOp.recorded hrecipe)
            fun hfalse => absurd hfalse Bool.false_ne_true
  | combine childId child => exact h.combine childId child

end Nyx
