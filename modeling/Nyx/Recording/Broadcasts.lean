import Nyx.Foundations.RingSweeps
import Nyx.Recording.Moves

/-! # Broadcasting over the command buffers

An operation of a chain runs a body on `num_cmd` command buffers, from the cursor on, and puts the
cursor back. When the body is an action on the slot under the cursor, this is a sweep of the ring:

* **`CommandBuffer.Agrees`** — equality up to the recording flag, the bound pipeline and the queue.
* **`Performs`** — a body that agrees with an action on every ring of the same setup; the bodies of
  the chain's operations do.
* **`forEach_slots`**, **`forEach_log_iff`** — what the loop does to the slots and to the log.
* **`ChainData.broadcast_spec`** — the same for `ChainData.broadcast`, slot by slot. -/

namespace Nyx

open Foundations

namespace CommandBuffer

/-! ## Actions as bodies -/

/-- The fields of a ring that recording into it never changes. -/
def setup (cmd : CommandBuffer) : Level × SubpassContents × BeginInfo × Nat :=
  (cmd.level, cmd.subpassFlags, cmd.beginInfo, cmd.size)

/-- Equality up to the recording flag, the bound pipeline and the queue. -/
structure Agrees (cmd other : CommandBuffer) : Prop where
  slots : cmd.slots = other.slots
  log : cmd.log = other.log
  current : cmd.current = other.current
  setup : cmd.setup = other.setup

/-- A body that does the action on every ring with the setup of `cmd`, and turns the recording flag
as `flag` says. -/
def Performs (cmd : CommandBuffer) (body : CommandBuffer → CommandBuffer) (action : SlotAction)
    (flag : Bool → Bool) : Prop :=
  ∀ c : CommandBuffer, c.setup = cmd.setup →
    (body c).Agrees (c.act action) ∧ (body c).recording = flag c.recording

variable {cmd : CommandBuffer} {body : CommandBuffer → CommandBuffer} {action : SlotAction}
  {flag : Bool → Bool}

@[simp] theorem setup_act (c : CommandBuffer) (action : SlotAction) :
    (c.act action).setup = c.setup := rfl

@[simp] theorem setup_advance (c : CommandBuffer) : c.advance.setup = c.setup := rfl

/-- A submit leaves the setup of a primary command buffer alone. -/
theorem setup_submit (h : cmd.level = .primary) : (Queue.submit cmd).setup = cmd.setup := by
  rw [submit_eq cmd h]
  rfl

/-- Two rings of the same setup have the same number of slots. -/
theorem size_eq_of_setup {c : CommandBuffer} (h : c.setup = cmd.setup) : c.size = cmd.size :=
  congrArg (·.2.2.2) h

/-- Two rings of the same setup begin their Vulkan command buffers with the same info. -/
theorem beginInfo_eq_of_setup {c : CommandBuffer} (h : c.setup = cmd.setup) :
    c.beginInfo = cmd.beginInfo :=
  congrArg (·.2.2.1) h

/-- Two rings of the same setup begin render passes with the same subpass contents. -/
theorem subpassFlags_eq_of_setup {c : CommandBuffer} (h : c.setup = cmd.setup) :
    c.subpassFlags = cmd.subpassFlags :=
  congrArg (·.2.1) h

/-- Two rings of the same setup are both primary or both secondary. -/
theorem level_eq_of_setup {c : CommandBuffer} (h : c.setup = cmd.setup) : c.level = cmd.level :=
  congrArg (·.1) h

/-- Recording commands, with what is bound, is an action on the current slot. -/
theorem performs_issueBound (bound : Option PipelineState) (commands : List Command) :
    cmd.Performs (·.issueBound bound commands) (.emit commands) id := by
  intro c _
  show (CommandBuffer.issue _ commands).Agrees _ ∧ (CommandBuffer.issue _ commands).recording = _
  rw [issue_eq]
  exact ⟨⟨rfl, rfl, rfl, rfl⟩, rfl⟩

/-- `record()` is an action on the current slot: it begins the buffer there. -/
theorem performs_record :
    cmd.Performs record (.begin cmd.beginInfo [] false) (fun _ => true) := by
  intro c hc
  rw [record_eq, beginInfo_eq_of_setup hc]
  exact ⟨⟨rfl, rfl, rfl, rfl⟩, rfl⟩

/-- `record( render_pass )` on a primary ring is an action on the current slot: it begins the buffer
and the render pass. -/
theorem performs_recordPass (h : cmd.level = .primary) (renderPass : RenderPass) :
    cmd.Performs (·.recordPass renderPass)
      (.begin cmd.beginInfo [.beginRenderPass renderPass.beginInfo cmd.subpassFlags] true)
      (fun _ => true) := by
  intro c hc
  have hlevel := (level_eq_of_setup hc).trans h
  have hbody : c.recordPass renderPass = c.recordPrimary renderPass := if_pos hlevel
  show (c.recordPass renderPass).Agrees _ ∧ (c.recordPass renderPass).recording = _
  rw [hbody, recordPrimary_eq, beginInfo_eq_of_setup hc, subpassFlags_eq_of_setup hc]
  exact ⟨⟨rfl, rfl, rfl, rfl⟩, rfl⟩

/-- `stop` is an action on the current slot: it ends the buffer there. -/
theorem performs_stop : cmd.Performs stop .stop (fun _ => false) := by
  intro c _
  rw [stop_eq]
  exact ⟨⟨rfl, rfl, rfl, rfl⟩, rfl⟩

/-! ## The loop -/

/-- A loop of `n + 1` rounds is one round, an advance, and a loop of `n` rounds. -/
theorem forEach_succ (n : Nat) : cmd.forEach (n + 1) body = ((body cmd).advance).forEach n body :=
  rfl

/-- A body performs its action on the ring one round later as well. -/
theorem Performs.next (h : cmd.Performs body action flag) :
    (body cmd).advance.Performs body action flag := by
  -- the body saw nothing but the setup, which one round leaves alone
  intro c hc
  refine h c (hc.trans ?_)
  rw [setup_advance, (h cmd rfl).1.setup, setup_act]

/-- After one round of the loop the action was done on the slot that was current, and the next one
is current. -/
theorem Performs.step (h : cmd.Performs body action flag) :
    (body cmd).advance.slots
        = Function.update cmd.slots cmd.current (action.apply (cmd.slots cmd.current)) ∧
      (body cmd).advance.log = cmd.log ++ action.events cmd.current (cmd.slots cmd.current) ∧
      (body cmd).advance.current = ringNext cmd.size cmd.current ∧
      (body cmd).advance.setup = cmd.setup := by
  have hagree := (h cmd rfl).1
  have hsize : (body cmd).size = cmd.size := size_eq_of_setup hagree.setup
  refine ⟨hagree.slots, hagree.log, ?_, hagree.setup⟩
  rw [advance, hsize, hagree.current]
  rfl

/-- **The slots after the loop** are those of a sweep of the ring. -/
theorem forEach_slots (h : cmd.Performs body action flag) (n : Nat) :
    (cmd.forEach n body).slots = sweep cmd.size action.apply n cmd.current cmd.slots ∧
      (cmd.forEach n body).setup = cmd.setup := by
  induction n generalizing cmd with
  | zero => exact ⟨rfl, rfl⟩
  | succ n ih =>
      obtain ⟨hslots, -, hcurrent, hsetup⟩ := h.step
      obtain ⟨ihslots, ihsetup⟩ := ih h.next
      rw [forEach_succ, ihslots, ihsetup, hslots, hcurrent, size_eq_of_setup hsetup]
      exact ⟨rfl, hsetup⟩

/-- After the loop the recording flag is what the rounds have made of it, one after another. -/
theorem forEach_recording (h : cmd.Performs body action flag) (n : Nat) :
    (cmd.forEach n body).recording = flag^[n] cmd.recording := by
  induction n generalizing cmd with
  | zero => rfl
  | succ n ih =>
      rw [forEach_succ, ih h.next, Function.iterate_succ_apply]
      exact congrArg flag^[n] (h cmd rfl).2

/-- **The log after the loop.** In at most one round, the log has a property exactly when it had it
before and the events on every visited slot have it. -/
theorem forEach_log_iff {P : Event → Prop} (h : cmd.Performs body action flag) {n : Nat}
    (hn : n ≤ cmd.size) (hcurrent : cmd.current < cmd.size) :
    (∀ event ∈ (cmd.forEach n body).log, P event) ↔ (∀ event ∈ cmd.log, P event) ∧
      ∀ i < cmd.size, ringDistance cmd.size cmd.current i < n →
        ∀ event ∈ action.events i (cmd.slots i), P event := by
  induction n generalizing cmd with
  | zero =>
      refine (and_iff_left ?_).symm
      exact fun i _ hdist => absurd hdist (Nat.not_lt_zero _)
  | succ n ih =>
      obtain ⟨hslots, hlog', hcurrent', hsetup⟩ := h.step
      have hsize : (body cmd).advance.size = cmd.size := size_eq_of_setup hsetup
      -- the cursor of the next round is on the ring as well
      have hnext : (body cmd).advance.current < (body cmd).advance.size := by
        rw [hcurrent', hsize]
        exact ringNext_lt _ (by omega)
      rw [forEach_succ, ih h.next (by omega) hnext, hlog', hsize, hcurrent',
        List.forall_mem_append, and_assoc]
      refine and_congr_right fun _ => ?_
      constructor
      · rintro ⟨hround, hrest⟩ i hi hdist
        by_cases hne : cmd.current = i
        · exact hne ▸ hround
        · have hnear := ringDistance_next hcurrent hi hne
          have hlater := hrest i hi (by omega)
          rwa [hslots, Function.update_of_ne (Ne.symm hne)] at hlater
      · intro hall
        refine ⟨hall cmd.current hcurrent ?_, fun i hi hdist => ?_⟩
        · rw [ringDistance_self]
          exact Nat.succ_pos n
        · -- a slot that is still to be visited has not been visited before
          have hne : cmd.current ≠ i := by
            rintro rfl
            rw [ringDistance_next_self hcurrent] at hdist
            omega
          rw [hslots, Function.update_of_ne (Ne.symm hne)]
          have hnear := ringDistance_next hcurrent hi hne
          exact hall i hi (by omega)

end CommandBuffer

/-! ## Broadcasts of a chain -/

namespace ChainData

/-- A chain without a parent whose ring was initialised: `COMMAND_BUFFER_COUNT` primary buffers,
both cursors among them, and one of the two modes. -/
structure OnRing (data : ChainData) : Prop where
  parent : data.parent = none
  level : data.cmd.level = .primary
  size : data.cmd.size = commandBufferCount
  current : data.current < commandBufferCount
  cursor : data.cmd.current < commandBufferCount
  numCmd : data.numCmd = 1 ∨ data.numCmd = commandBufferCount

/-- The slots an operation visits: all of them in `All` mode, else the one under the cursor. -/
def Visits (data : ChainData) (i : Nat) : Prop :=
  data.numCmd = commandBufferCount ∨ i = data.cmd.current

instance (data : ChainData) (i : Nat) : Decidable (data.Visits i) :=
  inferInstanceAs (Decidable (_ ∨ _))

variable {data : ChainData} {body : CommandBuffer → CommandBuffer} {action : SlotAction}
  {flag : Bool → Bool}

/-- The slots within `num_cmd` steps of the cursor are the visited ones. -/
theorem OnRing.ringDistance_lt_iff (h : data.OnRing) {i : Nat} (hi : i < commandBufferCount) :
    ringDistance commandBufferCount data.cmd.current i < data.numCmd ↔ data.Visits i := by
  unfold Visits
  rcases h.numCmd with hone | hall
  · rw [hone, Nat.lt_one_iff, ringDistance_eq_zero_iff h.cursor hi]
    constructor
    · intro heq
      exact Or.inr heq.symm
    · rintro (heq | heq)
      · exact absurd heq (by decide)
      · exact heq.symm
  · rw [hall]
    exact iff_of_true (ringDistance_lt _ _ (by decide)) (Or.inl rfl)

/-- **What a broadcast does.** Each visited slot goes through the action, the others stay; the
cursor is put back; and a property of the log is kept when the events on the visited slots have
it. -/
structure Broadcasted (data data' : ChainData) (action : SlotAction) (flag : Bool → Bool) :
    Prop where
  slots : ∀ i < commandBufferCount, data'.cmd.slots i =
    if data.Visits i then action.apply (data.cmd.slots i) else data.cmd.slots i
  recording : data'.cmd.recording = flag data.cmd.recording
  cursor : data'.cmd.current = data.current
  setup : data'.cmd.setup = data.cmd.setup
  log : ∀ P : Event → Prop, (∀ event ∈ data.cmd.log, P event) →
    (∀ i < commandBufferCount, data.Visits i →
      ∀ event ∈ action.events i (data.cmd.slots i), P event) →
    ∀ event ∈ data'.cmd.log, P event

/-- A broadcast visits no more slots than there are on the ring. -/
theorem OnRing.numCmd_le (h : data.OnRing) : data.numCmd ≤ data.cmd.size := by
  rw [h.size]
  rcases h.numCmd with hone | hall
  · rw [hone]
    decide
  · exact Nat.le_of_eq hall

/-- A submit moves the cursor on around the ring, and never off it. -/
theorem OnRing.current_submit (h : data.OnRing) :
    (Queue.submit data.cmd).current < commandBufferCount := by
  rw [CommandBuffer.submit_eq data.cmd h.level]
  show ringNext data.cmd.size data.cmd.current < commandBufferCount
  rw [h.size]
  exact ringNext_lt _ (by decide)

/-- A property holds of all calls after a broadcast exactly when it held before and holds of the
calls on each slot that is visited. -/
theorem broadcast_log_iff {P : Event → Prop} (h : data.OnRing)
    (hbody : data.cmd.Performs body action flag) :
    (∀ event ∈ (data.broadcast body).cmd.log, P event) ↔ (∀ event ∈ data.cmd.log, P event) ∧
      ∀ i < commandBufferCount, data.Visits i →
        ∀ event ∈ action.events i (data.cmd.slots i), P event := by
  show (∀ event ∈ (data.cmd.forEach data.numCmd body).log, P event) ↔ _
  rw [CommandBuffer.forEach_log_iff hbody h.numCmd_le (h.size ▸ h.cursor), h.size]
  refine and_congr_right fun _ => forall_congr' fun i => imp_congr_right fun hi => ?_
  rw [h.ringDistance_lt_iff hi]

/-- A broadcast of a body that performs an action does the action on each slot that is visited, and
on no other. -/
theorem broadcast_spec (h : data.OnRing) (hbody : data.cmd.Performs body action flag)
    (hflag : ∀ b, flag (flag b) = flag b) :
    data.Broadcasted (data.broadcast body) action flag := by
  have hcursor : data.cmd.current < data.cmd.size := h.size ▸ h.cursor
  obtain ⟨hslots, hsetup⟩ := CommandBuffer.forEach_slots hbody data.numCmd
  refine ⟨?_, ?_, ?_, hsetup, ?_⟩
  · intro i hi
    have hdist := h.ringDistance_lt_iff hi
    show (data.cmd.forEach data.numCmd body).slots i = _
    rw [hslots, sweep_apply _ _ h.numCmd_le hcursor (h.size ▸ hi), h.size]
    simp only [hdist]
  · show (data.cmd.forEach data.numCmd body).recording = _
    rw [CommandBuffer.forEach_recording hbody]
    rcases h.numCmd with hone | hall
    · rw [hone, Function.iterate_one]
    · rw [hall]
      -- four rounds turn the flag no further than one does
      simp only [commandBufferCount, Function.iterate_succ_apply, Function.iterate_zero_apply,
        hflag]
  · have hnewsize : (data.cmd.forEach data.numCmd body).size = data.cmd.size :=
      CommandBuffer.size_eq_of_setup hsetup
    -- `setActive( current )` finds the chain's cursor on the ring
    exact if_pos (by rw [hnewsize, h.size]; exact h.current)
  · exact fun P hlog hevents => (broadcast_log_iff h hbody).mpr ⟨hlog, hevents⟩

/-! ## Beginning a recording -/

/-- Whether `record` opens a render pass instance in the buffers that it begins. -/
def opens (passes : PassId → RenderPass) (data : ChainData) (useRenderPass : Bool) : Bool :=
  match data.pass with
  | none => false
  | some pass => (passes pass).initialized && useRenderPass

/-- The commands `record` starts a command buffer with. -/
def opening (passes : PassId → RenderPass) (data : ChainData) (useRenderPass : Bool) :
    List Command :=
  match data.pass with
  | none => []
  | some pass =>
      if (passes pass).initialized && useRenderPass then
        [.beginRenderPass (passes pass).beginInfo data.cmd.subpassFlags]
      else []

/-- A chain without a parent begins its command buffers by an action on the slots, with a render
pass instance if it opens one. -/
theorem OnRing.performs_recordBody (h : data.OnRing) (passes : PassId → RenderPass)
    (useRenderPass : Bool) :
    data.cmd.Performs (data.recordBody passes useRenderPass)
      (.begin data.cmd.beginInfo (data.opening passes useRenderPass)
        (data.opens passes useRenderPass)) (fun _ => true) := by
  unfold recordBody opening opens
  rw [h.parent]
  cases data.pass with
  | none => exact CommandBuffer.performs_record
  | some pass =>
      cases huse : (passes pass).initialized && useRenderPass with
      | false =>
          simp only [huse, Bool.false_eq_true, if_false]
          exact CommandBuffer.performs_record
      | true =>
          simp only [huse, if_true]
          exact CommandBuffer.performs_recordPass h.level (passes pass)

/-- While the chain is recording, `record` only puts the cursor back. -/
theorem record_of_recording {passes : PassId → RenderPass} {useRenderPass : Bool}
    (h : data.cmd.recording = true) :
    data.record passes useRenderPass = { data with cmd := data.cmd.setActive data.current } := by
  rw [record]
  simp only [h, if_true]

/-- When the chain is not recording, `record` begins the command buffers of a broadcast. -/
theorem record_of_not_recording {passes : PassId → RenderPass} {useRenderPass : Bool}
    (h : data.cmd.recording = false) :
    data.record passes useRenderPass = data.broadcast (data.recordBody passes useRenderPass) := by
  rw [record, broadcast]
  simp only [h, Bool.false_eq_true, if_false]

/-- A broadcast of an action keeps the chain on the ring, with its parent, its level, its size and
both cursors as they must be. -/
theorem OnRing.broadcast (h : data.OnRing) (hbody : data.cmd.Performs body action flag)
    (hflag : ∀ b, flag (flag b) = flag b) : (data.broadcast body).OnRing where
  parent := h.parent
  level := (CommandBuffer.level_eq_of_setup (broadcast_spec h hbody hflag).setup).trans h.level
  size := (CommandBuffer.size_eq_of_setup (broadcast_spec h hbody hflag).setup).trans h.size
  current := h.current
  cursor := by
    rw [(broadcast_spec h hbody hflag).cursor]
    exact h.current
  numCmd := h.numCmd

/-! ## Freshly initialised chains -/

/-- The states of a new chain after one of the `initialize` calls that give it no parent; the ones
with a window need that window. -/
inductive JustInitialized (env : Environment) (passes : PassId → RenderPass) : ChainData → Prop
  | type (gpu : Nat) (type : ChainType) :
      JustInitialized env passes (({} : ChainData).initializeType gpu type)
  | window (gpu windowId : Nat) (h : env.hasWindow windowId = true) :
      JustInitialized env passes (({} : ChainData).initializeWindow env gpu windowId)
  | pass (pass : PassId) (type : ChainType) (multiPass : Bool) :
      JustInitialized env passes
        (({} : ChainData).initializePass pass (passes pass) type multiPass)
  | passWindow (pass : PassId) (windowId : Nat) (multiPass : Bool)
      (h : env.hasWindow windowId = true) :
      JustInitialized env passes
        (({} : ChainData).initializePassWindow env pass (passes pass) windowId multiPass)

/-- What the four ways of initialising a new chain have in common. -/
structure Fresh (data : ChainData) : Prop extends data.OnRing where
  sequential : data.numCmd = 1
  home : data.cmd.current = data.current
  zero : data.current = 0
  idle : data.cmd.recording = false
  clean : data.dirty = false
  slots : ∀ i, data.cmd.slots i = {}
  log : data.cmd.log = []

/-- A chain that was just initialised, in any form, is fresh. -/
theorem JustInitialized.fresh {env : Environment} {passes : PassId → RenderPass} {data : ChainData}
    (h : data.JustInitialized env passes) : data.Fresh := by
  have hlt : 0 < commandBufferCount := by decide
  cases h with
  | type gpu type =>
      exact ⟨⟨rfl, rfl, rfl, hlt, hlt, Or.inl rfl⟩, rfl, rfl, rfl, rfl, rfl, fun _ => rfl, rfl⟩
  | window gpu windowId h =>
      rw [initializeWindow, if_pos h]
      exact ⟨⟨rfl, rfl, rfl, hlt, hlt, Or.inl rfl⟩, rfl, rfl, rfl, rfl, rfl, fun _ => rfl, rfl⟩
  | pass pass type multiPass =>
      exact ⟨⟨rfl, rfl, rfl, hlt, hlt, Or.inl rfl⟩, rfl, rfl, rfl, rfl, rfl, fun _ => rfl, rfl⟩
  | passWindow pass windowId multiPass h =>
      rw [initializePassWindow, if_pos h]
      exact ⟨⟨rfl, rfl, rfl, hlt, hlt, Or.inl rfl⟩, rfl, rfl, rfl, rfl, rfl, fun _ => rfl, rfl⟩

end ChainData

end Nyx
