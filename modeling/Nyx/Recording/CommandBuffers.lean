import Mathlib.Logic.Function.Iterate
import Nyx.Presentation.RenderPasses

/-! # Command buffers

`vkg::CommandBuffer`: a ring of Vulkan command buffers with a fence each, a cursor, and host flags
that say which fence has to be waited for and which buffer has a render pass open.

* **`VkSlot.perform`** — what a Vulkan call does to a command buffer and its fence.
* **`CommandBuffer.record`**, **`CommandBuffer.recordPass`**, **`CommandBuffer.recordSubpass`**,
  **`CommandBuffer.stop`**, **`Queue.submit`** — the methods of the source.
* **`SlotAction`**, **`CommandBuffer.act`** — every method makes some calls on the slot under the
  cursor and sets its flags. The lemmas `record_eq`, `stop_eq`, … put each method into this form,
  and `act` carries the facts about the ring.

`CommandBuffer.log` records each Vulkan call with the slot it was made on and that slot's state
before the call; it is what the laws about command buffers are stated over. -/

namespace Nyx

open Foundations

/-! ## Vulkan's side of a slot -/

/-- `CommandBuffer::Level`: whether a command buffer is submitted or executed by another one. -/
inductive Level
  | primary | secondary
  deriving DecidableEq, Repr

/-- The state of a `vk::CommandBuffer` in its lifecycle. -/
inductive BufferState
  | initial | recording | executable
  deriving DecidableEq, Repr

/-- A `vk::Fence`: signaled, unsignaled and idle, or unsignaled with a submission that will signal
it. -/
inductive FenceState
  | signaled | unsignaled | outstanding
  deriving DecidableEq, Repr

/-- A `vk::CommandBuffer` with the commands recorded into it, and the fence of its slot. -/
structure VkSlot where
  state : BufferState := .initial
  commands : List Command := []
  fence : FenceState := .signaled
  deriving DecidableEq, Repr

/-- The Vulkan calls that are made on a slot, and what they are given. -/
inductive Call
  | waitForFences
  | resetFences
  | beginBuffer (info : BeginInfo)
  | command (command : Command)
  | endBuffer
  | submit
  deriving DecidableEq, Repr

/-- The effect of a call. A wait returns once the fence is signaled; `begin` discards what the
buffer held; a command or an `end` outside a recording is invalid and changes nothing. -/
def VkSlot.perform (vk : VkSlot) : Call → VkSlot
  | .waitForFences => { vk with fence := .signaled }
  | .resetFences => { vk with fence := .unsignaled }
  | .beginBuffer _ => { vk with state := .recording, commands := [] }
  | .command command =>
      if vk.state = .recording then { vk with commands := vk.commands ++ [command] } else vk
  | .endBuffer => if vk.state = .recording then { vk with state := .executable } else vk
  | .submit => { vk with fence := .outstanding }

/-- The GPU completes the submission of a fence, when there is one. -/
def FenceState.complete : FenceState → FenceState
  | .outstanding => .signaled
  | fence => fence

/-- A Vulkan call, the slot it was made on and the state of that slot before it. -/
structure Event where
  call : Call
  slot : Nat
  before : VkSlot
  deriving DecidableEq, Repr

/-- The events of a sequence of calls on slot `i`, each with the state that the slot was in. -/
def callEvents (i : Nat) : VkSlot → List Call → List Event
  | _, [] => []
  | vk, call :: calls => ⟨call, i, vk⟩ :: callEvents i (vk.perform call) calls

/-- Whatever the state, the events of calls on slot `i` are on slot `i`. -/
theorem slot_of_mem_callEvents {i : Nat} {vk : VkSlot} {calls : List Call} {event : Event}
    (h : event ∈ callEvents i vk calls) : event.slot = i := by
  induction calls generalizing vk with
  | nil => exact absurd h List.not_mem_nil
  | cons call calls ih =>
      rw [callEvents, List.mem_cons] at h
      rcases h with h | h
      · rw [h]
      · exact ih h

/-- Commands recorded into a buffer that is being recorded are appended to it. -/
theorem foldl_perform_commands (vk : VkSlot) (h : vk.state = .recording) (cs : List Command) :
    (cs.map Call.command).foldl VkSlot.perform vk = { vk with commands := vk.commands ++ cs } := by
  induction cs generalizing vk with
  | nil => rw [List.map_nil, List.foldl_nil, List.append_nil]
  | cons c cs ih =>
      have hstep : vk.perform (.command c) = { vk with commands := vk.commands ++ [c] } := by
        rw [VkSlot.perform, if_pos h]
      rw [List.map_cons, List.foldl_cons, hstep, ih { vk with commands := vk.commands ++ [c] } h,
        List.append_assoc, List.singleton_append]

/-- Commands never change a fence or the lifecycle state of a buffer. -/
theorem foldl_perform_commands_frame (vk : VkSlot) (cs : List Command) :
    ((cs.map Call.command).foldl VkSlot.perform vk).state = vk.state ∧
      ((cs.map Call.command).foldl VkSlot.perform vk).fence = vk.fence := by
  induction cs generalizing vk with
  | nil => exact ⟨rfl, rfl⟩
  | cons c cs ih =>
      have hstep : (vk.perform (.command c)).state = vk.state ∧
          (vk.perform (.command c)).fence = vk.fence := by
        rw [VkSlot.perform]
        split <;> exact ⟨rfl, rfl⟩
      rw [List.map_cons, List.foldl_cons]
      exact ⟨(ih _).1.trans hstep.1, (ih _).2.trans hstep.2⟩

/-! ## The library's side -/

/-- A slot of the ring: Vulkan's side and the two host flags of `CommandBufferData`. -/
structure Slot where
  vk : VkSlot := {}
  /-- `is_signaled`: the fence has to be waited for before the buffer is recorded again. -/
  isSignaled : Bool := true
  startedRenderPass : Bool := false
  deriving DecidableEq, Repr

/-- What the library reads of a `vkg::Pipeline`: its kind, its handle and its layout. -/
structure Pipeline where
  isGraphics : Bool
  pipeline : Nat
  layout : Nat
  deriving DecidableEq, Repr

/-- What the library reads of a `vkg::Descriptor`: its set, `none` when null. -/
structure Descriptor where
  set : Option Nat
  deriving DecidableEq, Repr

/-- The state `CommandBuffer::bind( pipeline )` remembers. -/
def Pipeline.boundState (pipeline : Pipeline) : PipelineState where
  bindPoint := if pipeline.isGraphics then .graphics else .compute
  pipeline := pipeline.pipeline
  layout := pipeline.layout

/-- Which of the queues of a device `Vulkan` hands out. -/
inductive QueueKind
  | graphics | compute
  | present (window : Nat)
  deriving DecidableEq, Repr

/-- A queue, by its device and its kind. Before a queue was assigned both are `none`: the
constructor `QueueData()` leaves `dev_id` uninitialised, so that no device can be told. -/
structure Queue where
  device : Option Nat := none
  kind : Option QueueKind := none
  deriving DecidableEq, Repr

/-- `CommandBufferData`: a ring of command buffers with their slots, the cursor, and all calls that
were made. -/
structure CommandBuffer where
  level : Level := .primary
  subpassFlags : SubpassContents := .inline
  /-- `bind_point`, `pipeline` and `pipeline_layout`, `none` before the first `bind`. -/
  bound : Option PipelineState := none
  beginInfo : BeginInfo := {}
  queue : Queue := {}
  /-- `cmd_buffers.size()`. -/
  size : Nat := 0
  slots : Nat → Slot := fun _ => {}
  recording : Bool := false
  current : Nat := 0
  log : List Event := []

namespace CommandBuffer

/-- The slot that is under the cursor of the ring. -/
def active (cmd : CommandBuffer) : Slot := cmd.slots cmd.current

/-- A Vulkan call on the command buffer, or the fence, under the cursor. -/
def perform (cmd : CommandBuffer) (call : Call) : CommandBuffer :=
  { cmd with
    slots := Function.update cmd.slots cmd.current
      { cmd.active with vk := cmd.active.vk.perform call }
    log := cmd.log ++ [⟨call, cmd.current, cmd.active.vk⟩] }

/-- `is_signaled[ current ] = value`, for the slot under the cursor. -/
def setSignaled (cmd : CommandBuffer) (value : Bool) : CommandBuffer :=
  { cmd with
    slots := Function.update cmd.slots cmd.current { cmd.active with isSignaled := value } }

/-- `started_render_pass[ current ] = value`, for the slot under the cursor. -/
def setStartedRenderPass (cmd : CommandBuffer) (value : Bool) : CommandBuffer :=
  { cmd with
    slots := Function.update cmd.slots cmd.current { cmd.active with startedRenderPass := value } }

/-! ### Initialisation -/

/-- `CommandBuffer::initialized`: whether the ring has slots. -/
def initialized (cmd : CommandBuffer) : Bool := cmd.size != 0

/-- `CommandBuffer::initialize( queue, count, level, multi_pass )`: fresh buffers, and fences that
are created signaled. The cursor and the recording flag stay. -/
def initializeBuffers (cmd : CommandBuffer) (queue : Queue) (count : Nat) (level : Level)
    (multiPass : Bool) : CommandBuffer :=
  { cmd with
    queue := queue
    level := level
    size := count
    slots := fun _ => {}
    subpassFlags := if multiPass then .secondaryCommandBuffers else .inline }

/-- `CommandBuffer::initialize( parent )`, which makes as many secondary command buffers as the
parent has. -/
def initializeChild (cmd parent : CommandBuffer) : CommandBuffer :=
  { cmd with
    queue := parent.queue
    level := .secondary
    size := parent.size
    slots := fun _ => {}
    subpassFlags := .secondaryCommandBuffers }

/-- `CommandBuffer::reset`, which drops the command buffers and leaves the cursor. -/
def reset (cmd : CommandBuffer) : CommandBuffer := { cmd with size := 0 }

/-! ### The cursor -/

/-- `CommandBuffer::advance`, which moves the cursor on around the ring. -/
def advance (cmd : CommandBuffer) : CommandBuffer :=
  { cmd with current := ringNext cmd.size cmd.current }

/-- `CommandBuffer::setActive`, which moves the cursor to a slot of the ring, if there is such a
one. -/
def setActive (cmd : CommandBuffer) (index : Nat) : CommandBuffer :=
  { cmd with current := if index < cmd.size then index else cmd.current }

/-- The loop every operation of a chain makes: `for( index < n ) { body ; cmd.advance() ; }`. -/
def forEach (n : Nat) (body : CommandBuffer → CommandBuffer) (cmd : CommandBuffer) :
    CommandBuffer :=
  (fun cmd => (body cmd).advance)^[n] cmd

/-- The GPU completes the submission of slot `i`, which signals its fence. -/
def complete (cmd : CommandBuffer) (i : Nat) : CommandBuffer :=
  let slot := cmd.slots i
  { cmd with
    slots := Function.update cmd.slots i
      { slot with vk := { slot.vk with fence := slot.vk.fence.complete } } }

/-- Everything that was submitted from the ring has completed. -/
def completeAll (cmd : CommandBuffer) : CommandBuffer :=
  { cmd with
    slots := fun i =>
      let slot := cmd.slots i
      { slot with vk := { slot.vk with fence := slot.vk.fence.complete } } }

/-! ### Recording -/

/-- The wait for the fence of the slot, which each of the three `record` methods starts with. -/
def awaitFence (cmd : CommandBuffer) : CommandBuffer :=
  if cmd.active.isSignaled then
    ((cmd.perform .waitForFences).perform .resetFences).setSignaled false
  else cmd

/-- `CommandBuffer::record()`, which waits for the slot under the cursor and begins it. -/
def record (cmd : CommandBuffer) : CommandBuffer :=
  { cmd.awaitFence.perform (.beginBuffer cmd.beginInfo) with recording := true }

/-- `CommandBuffer::record( render_pass )` on a primary command buffer. -/
def recordPrimary (cmd : CommandBuffer) (renderPass : RenderPass) : CommandBuffer :=
  let begun := cmd.awaitFence.perform (.beginBuffer cmd.beginInfo)
  -- the framebuffer is the one under the render pass's cursor at this moment
  let opened := begun.perform (.command (.beginRenderPass renderPass.beginInfo cmd.subpassFlags))
  { opened with recording := true }.setStartedRenderPass true

/-- `CommandBuffer::record( render_pass )`: on a secondary command buffer it does nothing. -/
def recordPass (cmd : CommandBuffer) (renderPass : RenderPass) : CommandBuffer :=
  if cmd.level = .primary then cmd.recordPrimary renderPass else cmd

/-- `CommandBuffer::record( render_pass, index )`. A secondary buffer is begun without a wait. -/
def recordSubpass (cmd : CommandBuffer) (renderPass : RenderPass) (index : Nat) : CommandBuffer :=
  if cmd.level = .primary then cmd.recordPrimary renderPass
  else
    -- `begin_info` keeps the inheritance for every later `begin` of the object
    let info : BeginInfo := { inheritance := some ⟨renderPass.pass, index⟩ }
    { { cmd with beginInfo := info }.perform (.beginBuffer info) with recording := true }

/-- `CommandBuffer::stop`, which ends the slot under the cursor, with its render pass. -/
def stop (cmd : CommandBuffer) : CommandBuffer :=
  let stopped := { cmd with recording := false }
  -- the flag of the slot under the cursor, whichever slot was begun with a render pass
  let closed :=
    if stopped.active.startedRenderPass then stopped.perform (.command .endRenderPass) else stopped
  (closed.perform .endBuffer).setStartedRenderPass false

/-! ### Commands -/

/-- Record commands into the buffer under the cursor, one Vulkan call each. -/
def issue (cmd : CommandBuffer) (commands : List Command) : CommandBuffer :=
  commands.foldl (fun cmd command => cmd.perform (.command command)) cmd

/-- `CommandBuffer::bind( pipeline )`, which records the pipeline and keeps it for later pushes. -/
def bindPipeline (cmd : CommandBuffer) (pipeline : Pipeline) : CommandBuffer :=
  let state := pipeline.boundState
  { cmd with bound := some state }.issue [.bindPipeline state.bindPoint state.pipeline]

/-- `CommandBuffer::bind( descriptor )`: nothing when the set is null. -/
def bindDescriptor (cmd : CommandBuffer) (descriptor : Descriptor) : CommandBuffer :=
  match descriptor.set with
  | some set => cmd.issue [.bindDescriptorSets cmd.bound set]
  | none => cmd

/-- `CommandBuffer::pushConstantBase`: the value goes through a buffer of 256 bytes, and all bytes
of it from `offset` to the end of the range are pushed. -/
def pushConstantBase (cmd : CommandBuffer) (value : List UInt8) (offset : Nat) : CommandBuffer :=
  if value.length < 256 then
    cmd.issue [.pushConstants (cmd.bound.map PipelineState.layout) offset
      -- `256 - offset` in 32 bits
      ((256 + 2 ^ 32 - offset) % 2 ^ 32) value]
  else cmd

/-- `CommandBuffer::drawBase`, which binds the vertices and draws them once. -/
def drawBase (cmd : CommandBuffer) (buffer : Buffer) (count offset : Nat) : CommandBuffer :=
  cmd.issue [.bindVertexBuffers buffer.handle offset, .draw count 1 0 0]

/-- `CommandBuffer::drawIndexedBase`, with the default offset. -/
def drawIndexedBase (cmd : CommandBuffer) (index vert : Buffer) (indexCount : Nat) :
    CommandBuffer :=
  cmd.issue [.bindVertexBuffers vert.handle 0, .bindIndexBuffer index.handle,
    .drawIndexed indexCount 1 0 0 0]

/-- `CommandBuffer::drawInstanced( vertices, … )`, with the default offsets. -/
def drawInstanced (cmd : CommandBuffer) (vertices : Buffer) (vertCount instanceCount : Nat) :
    CommandBuffer :=
  cmd.issue [.bindVertexBuffers vertices.handle 0, .draw vertCount instanceCount 0 0]

/-- `CommandBuffer::drawInstanced( indices, …, vertices, … )`, with the default offsets. -/
def drawInstancedIndexed (cmd : CommandBuffer) (indices : Buffer) (indexCount : Nat)
    (vertices : Buffer) (instanceCount : Nat) : CommandBuffer :=
  cmd.issue [.bindVertexBuffers vertices.handle 0, .bindIndexBuffer indices.handle,
    .drawIndexed indexCount instanceCount 0 0 0]

/-- `CommandBuffer::barrier( read, write )`, for a buffer or an image to write. -/
def barrier (cmd : CommandBuffer) (read : Buffer) : CommandBuffer :=
  cmd.issue [.bufferBarrier ⟨read.handle⟩]

/-- `CommandBuffer::nextSubpass`, which moves on in a primary command buffer whose render pass was
started. -/
def nextSubpass (cmd : CommandBuffer) : CommandBuffer :=
  if cmd.level = .primary then
    if cmd.active.startedRenderPass then cmd.issue [.nextSubpass cmd.subpassFlags] else cmd
  else cmd

/-- `CommandBuffer::combine`: execute the buffer under the cursor of `child`. -/
def combine (cmd : CommandBuffer) (childId : ChainId) (child : CommandBuffer) : CommandBuffer :=
  if cmd.level = .primary ∧ child.level = .secondary ∧ cmd.subpassFlags = .secondaryCommandBuffers
  then cmd.issue [.executeCommands childId child.current]
  else cmd

end CommandBuffer

/-- `Queue::submit( cmd_buff )`, with `cmd_buff.fence()` marking the fence as one to wait for. -/
def Queue.submit (cmd : CommandBuffer) : CommandBuffer :=
  let fenced := cmd.setSignaled true
  -- a secondary buffer is marked and passed over, but not submitted
  (if fenced.level = .primary then fenced.perform .submit else fenced).advance

/-! ## Actions on the slot under the cursor -/

/-- Vulkan calls on one slot, chosen by the state of that slot, and the flags it has after them. -/
structure SlotAction where
  calls : Slot → List Call
  isSignaled : Slot → Bool := Slot.isSignaled
  startedRenderPass : Slot → Bool := Slot.startedRenderPass

/-- The slot after an action: its calls were performed, and its two flags are as the action says. -/
def SlotAction.apply (action : SlotAction) (slot : Slot) : Slot where
  vk := (action.calls slot).foldl VkSlot.perform slot.vk
  isSignaled := action.isSignaled slot
  startedRenderPass := action.startedRenderPass slot

/-- The events of an action on slot `i`, which is in the given state. -/
def SlotAction.events (action : SlotAction) (i : Nat) (slot : Slot) : List Event :=
  callEvents i slot.vk (action.calls slot)

/-- Do an action on the slot under the cursor, and log its calls. -/
def CommandBuffer.act (cmd : CommandBuffer) (action : SlotAction) : CommandBuffer :=
  { cmd with
    slots := Function.update cmd.slots cmd.current (action.apply cmd.active)
    log := cmd.log ++ action.events cmd.current cmd.active }

/-- Begin the slot, after the wait for its fence, and record `opening` into it. -/
def SlotAction.begin (info : BeginInfo) (opening : List Command) (started : Bool) :
    SlotAction where
  calls slot :=
    (if slot.isSignaled then [.waitForFences, .resetFences] else []) ++
      .beginBuffer info :: opening.map .command
  isSignaled _ := false
  startedRenderPass slot := started || slot.startedRenderPass

/-- Close the render pass that is open, if there is one, and end the slot. -/
def SlotAction.stop : SlotAction where
  calls slot := (if slot.startedRenderPass then [.command .endRenderPass] else []) ++ [.endBuffer]
  startedRenderPass _ := false

/-- Record some commands into the slot, whatever its state is. -/
def SlotAction.emit (commands : List Command) : SlotAction where
  calls _ := commands.map .command

/-- Submit the slot with its fence, and mark the fence as in use. -/
def SlotAction.submit : SlotAction where
  calls _ := [.submit]
  isSignaled _ := true

namespace CommandBuffer

variable (cmd : CommandBuffer)

@[simp] theorem active_act (action : SlotAction) :
    (cmd.act action).active = action.apply cmd.active :=
  Function.update_self ..

/-- To record commands one by one is one action, which records them all. -/
theorem issue_eq (commands : List Command) : cmd.issue commands = cmd.act (.emit commands) := by
  induction commands generalizing cmd with
  | nil =>
      rw [act, SlotAction.events, SlotAction.emit, List.map_nil, callEvents, List.append_nil]
      simp only [issue, List.foldl_nil, SlotAction.apply, List.foldl_nil]
      rw [active, Function.update_eq_self]
  | cons c commands ih =>
      -- the log of the first command comes before that of the others, and the slot is updated twice
      have hissue : cmd.issue (c :: commands) = (cmd.perform (.command c)).issue commands := rfl
      rw [hissue, ih]
      simp only [act, perform, active, SlotAction.apply, SlotAction.events, SlotAction.emit,
        Function.update_self, Function.update_idem, List.map_cons, List.foldl_cons, callEvents,
        List.append_assoc, List.singleton_append]

/-- Waiting for the fence of the slot, and beginning it after that. -/
theorem perform_awaitFence (info : BeginInfo) :
    cmd.awaitFence.perform (.beginBuffer info) = cmd.act (.begin info [] false) := by
  cases h : (cmd.slots cmd.current).isSignaled <;>
    simp [awaitFence, perform, setSignaled, act, active, SlotAction.apply, SlotAction.events,
      SlotAction.begin, callEvents, h]

/-- `record()` is the action that begins the slot under the cursor, with nothing opened. -/
theorem record_eq :
    cmd.record = { cmd.act (.begin cmd.beginInfo [] false) with recording := true } := by
  rw [record, perform_awaitFence]

/-- `record( render_pass )` on a primary command buffer as an action. -/
theorem recordPrimary_eq (renderPass : RenderPass) :
    cmd.recordPrimary renderPass =
      { cmd.act (.begin cmd.beginInfo [.beginRenderPass renderPass.beginInfo cmd.subpassFlags] true)
        with recording := true } := by
  rw [recordPrimary, perform_awaitFence]
  cases h : (cmd.slots cmd.current).isSignaled <;>
    simp [perform, setStartedRenderPass, act, active, SlotAction.apply, SlotAction.events,
      SlotAction.begin, callEvents, h]

/-- `stop` is the action that ends the slot under the cursor. -/
theorem stop_eq : cmd.stop = { cmd.act .stop with recording := false } := by
  cases h : (cmd.slots cmd.current).startedRenderPass <;>
    simp [stop, perform, setStartedRenderPass, act, active, SlotAction.apply, SlotAction.events,
      SlotAction.stop, callEvents, h]

/-- `Queue::submit` of a primary command buffer is the action that submits the slot under the
cursor, and moves on. -/
theorem submit_eq (h : cmd.level = .primary) : Queue.submit cmd = (cmd.act .submit).advance := by
  rw [Queue.submit]
  simp [setSignaled, h, perform, act, active, SlotAction.apply, SlotAction.events,
    SlotAction.submit, callEvents]

end CommandBuffer

end Nyx
