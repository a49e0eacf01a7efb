import Nyx.Devices.Devices
import Nyx.Foundations.FilledTables
import Nyx.Foundations.StepMachines
import Nyx.Recording.CommandBuffers

/-! # Command pools

Every `vkg::CommandBuffer` allocates its buffers from a pool that all command buffers of a thread and
a queue family share. The pool is made when the thread first asks for the family, on the device that
it asks for then.

* **`CommandPool`**, **`VkCommandBuffer`**, **`PoolUse`** — the driver's side: pools, the buffers that
  were allocated from them, and the calls that use both.
* **`PoolWorld.pool`** — the map of pools that the threads share.
* **`BufferOp`**, **`PoolWorld.step`** — the functions of command buffers, called by any threads in
  any order.
* **`PoolClient`** — what the callers know: the queue of each object, and the thread that holds it.
* **`PoolWorld.lawful_iff`** — buffers are allocated, freed and submitted on the device of their pool
  exactly when no thread asks for the same family of two devices.
* **`PoolWorld.threads_iff`** — a pool is used by the thread that made it alone exactly when each
  object is used by the thread that holds it. -/

namespace Nyx

open Foundations

/-! ## The driver's side -/

/-- A `vk::CommandPool`: the thread and the device that `createCommandPool` was called by and on, and
the family it is for. -/
structure CommandPool where
  id : Nat
  thread : Nat
  device : Nat
  family : Nat
  deriving DecidableEq, Repr

/-- A `vk::CommandBuffer`, with the pool it was allocated from. -/
structure VkCommandBuffer where
  id : Nat
  pool : CommandPool
  deriving DecidableEq, Repr

/-- A call of the driver that uses a pool or its command buffers. -/
inductive PoolUse
  /-- `allocateCommandBuffers` on a device. -/
  | allocate (device : Nat) (pool : CommandPool) (level : Level) (buffers : List VkCommandBuffer)
  /-- `freeCommandBuffers` on a device. -/
  | free (device : Nat) (pool : CommandPool) (buffers : List VkCommandBuffer)
  /-- `begin`, the commands and `end`. -/
  | record (buffer : VkCommandBuffer)
  /-- `submit` on a queue. -/
  | submit (queue : QueueData) (buffer : VkCommandBuffer)
  deriving DecidableEq, Repr

/-- What the driver asks of a call: a pool is used on its device, buffers are freed to their pool,
and submitted to queues of the device and the family of it. -/
def PoolUse.Lawful : PoolUse → Prop
  | .allocate device pool _ _ => pool.device = device
  | .free device pool buffers => pool.device = device ∧ ∀ buffer ∈ buffers, buffer.pool = pool
  | .record _ => True
  | .submit queue buffer =>
      buffer.pool.device = queue.devId ∧ buffer.pool.family = queue.family

/-- The pool that a call changes, which no two threads may do at once. Submitting changes none. -/
def PoolUse.changed : PoolUse → Option CommandPool
  | .allocate _ pool _ _ => some pool
  | .free _ pool _ => some pool
  | .record buffer => some buffer.pool
  | .submit _ _ => none

/-- A call of the driver, and the thread that made it. -/
structure PoolEvent where
  thread : Nat
  use : PoolUse
  deriving DecidableEq, Repr

/-- The pool that a call changes, if it changes one, is of the thread that makes the call. -/
def PoolEvent.OwnPool (event : PoolEvent) : Prop :=
  ∀ pool, event.use.changed = some pool → event.thread = pool.thread

/-! ## Objects -/

/-- `CommandBufferData`, as far as it is about the buffers. -/
structure PooledBuffers where
  queue : QueueData := {}
  level : Level := .primary
  device : Nat := 0
  /-- `vk_pool`, `none` when null. -/
  vkPool : Option CommandPool := none
  cmdBuffers : List VkCommandBuffer := []
  current : Nat := 0
  deriving DecidableEq, Repr

/-- What goes wrong in a call before the driver is called. -/
inductive PoolFailure
  /-- A queue whose device was never set. -/
  | queue
  /-- A read past the end of the vector of buffers. -/
  | buffers
  /-- A pool that is null. -/
  | pool
  deriving DecidableEq, Repr

/-- The static maps, the objects, and what the driver was called with. -/
structure PoolWorld where
  /-- `thread_map`: a pool for each thread and family. -/
  threadMap : FilledTable (Nat × Nat) CommandPool := {}
  objects : Nat → PooledBuffers := fun _ => {}
  /-- How many buffers were allocated. -/
  allocated : Nat := 0
  log : List PoolEvent := []

namespace PoolWorld

/-- `CommandBufferData::pool`, called by a thread for an object on a device. -/
def pool (world : PoolWorld) (thread device family : Nat) : PoolWorld × CommandPool :=
  let (threadMap, pool) :=
    -- a pool found under the thread and the family may be one of another device
    world.threadMap.ask (thread, family) fun id => ⟨id, thread, device, family⟩
  ({ world with threadMap := threadMap }, pool)

/-- What both forms of `CommandBuffer::initialize` do, once the queue, the level and the number of
buffers are known. -/
def allocateBuffers (world : PoolWorld) (thread object : Nat) (queue : QueueData) (level : Level)
    (count : Nat) : PoolWorld :=
  -- the pool is asked for twice: for the allocation, and to keep it
  let (world, pool) := world.pool thread queue.devId queue.family
  let (world, vkPool) := world.pool thread queue.devId queue.family
  let buffers := (List.range' world.allocated count).map (⟨·, pool⟩)
  let data := world.objects object
  { world with
    objects := Function.update world.objects object
      { data with
        queue := queue
        level := level
        device := queue.devId
        vkPool := some vkPool
        cmdBuffers := buffers }
    allocated := world.allocated + count
    log := world.log ++ [⟨thread, .allocate queue.devId pool level buffers⟩] }

/-- `CommandBuffer::initialize( queue, count, level, multi_pass )`, which allocates for a queue that
is initialised. -/
def initializeQueue (world : PoolWorld) (thread object : Nat) (queue : QueueData) (count : Nat)
    (level : Level) : Except PoolFailure PoolWorld :=
  if queue.initialized then .ok (world.allocateBuffers thread object queue level count)
  else .error .queue

/-- `CommandBuffer::initialize( parent )`, which allocates as many as the parent has, for its
queue. -/
def initializeChild (world : PoolWorld) (thread object parent : Nat) :
    Except PoolFailure PoolWorld :=
  let parent := world.objects parent
  if parent.queue.initialized then
    .ok (world.allocateBuffers thread object parent.queue .secondary parent.cmdBuffers.length)
  else .error .queue

/-- `CommandBuffer::record`, any commands, and `CommandBuffer::stop`. -/
def record (world : PoolWorld) (thread object : Nat) : Except PoolFailure PoolWorld :=
  let data := world.objects object
  match data.cmdBuffers[data.current]? with
  | none => .error .buffers
  | some buffer => .ok { world with log := world.log ++ [⟨thread, .record buffer⟩] }

/-- `Queue::submit( cmd_buff )` on the queue of the object, as `Chain::submit` calls it. Secondary
buffers are not submitted, but the object advances. -/
def submit (world : PoolWorld) (thread object : Nat) : Except PoolFailure PoolWorld :=
  let data := world.objects object
  match data.cmdBuffers[data.current]? with
  | none => .error .buffers
  | some buffer =>
      let log := if data.level = .primary then [⟨thread, .submit data.queue buffer⟩] else []
      let current := if data.current + 1 ≥ data.cmdBuffers.length then 0 else data.current + 1
      .ok { world with
        objects := Function.update world.objects object { data with current := current }
        log := world.log ++ log }

/-- `CommandBuffer::setActive`, which moves the cursor to a buffer of the object, if there is such a
one. -/
def setActive (world : PoolWorld) (object index : Nat) : PoolWorld :=
  let data := world.objects object
  let current := if index < data.cmdBuffers.length then index else data.current
  { world with objects := Function.update world.objects object { data with current := current } }

/-- `CommandBuffer::reset`, which frees the buffers to the pool they are from. -/
def reset (world : PoolWorld) (thread object : Nat) : Except PoolFailure PoolWorld :=
  let data := world.objects object
  if data.cmdBuffers = [] then .ok world
  else
    match data.vkPool with
    | none => .error .pool
    | some pool =>
        .ok { world with
          -- `vk_pool` stays, as does the position in the ring
          objects := Function.update world.objects object { data with cmdBuffers := [] }
          log := world.log ++ [⟨thread, .free data.device pool data.cmdBuffers⟩] }

/-- `CommandBuffer::operator=`, and the copy constructor. -/
def assign (world : PoolWorld) (object source : Nat) : PoolWorld :=
  { world with objects := Function.update world.objects object (world.objects source) }

/-- The destructor and the default constructor: the buffers are not freed. -/
def construct (world : PoolWorld) (object : Nat) : PoolWorld :=
  { world with objects := Function.update world.objects object {} }

end PoolWorld

/-- The functions of command buffers that reach a pool, on the objects of all threads. -/
inductive BufferOp
  | initializeQueue (object : Nat) (queue : QueueData) (count : Nat) (level : Level)
  | initializeChild (object parent : Nat)
  | record (object : Nat)
  | submit (object : Nat)
  | setActive (object index : Nat)
  | reset (object : Nat)
  | assign (object source : Nat)
  | construct (object : Nat)
  deriving DecidableEq, Repr

/-- A thread, and the function that it calls. -/
structure ThreadOp where
  thread : Nat
  op : BufferOp
  deriving DecidableEq, Repr

/-- One call of a thread, with the failure that it may come to. -/
def PoolWorld.step (world : PoolWorld) (call : ThreadOp) : Except PoolFailure PoolWorld :=
  match call.op with
  | .initializeQueue object queue count level =>
      world.initializeQueue call.thread object queue count level
  | .initializeChild object parent => world.initializeChild call.thread object parent
  | .record object => world.record call.thread object
  | .submit object => world.submit call.thread object
  | .setActive object index => .ok (world.setActive object index)
  | .reset object => world.reset call.thread object
  | .assign object source => .ok (world.assign object source)
  | .construct object => .ok (world.construct object)

/-! ## What the callers know -/

/-- The queue that each object was initialised for, and the thread that holds it: the one that
allocated the buffers it has. -/
structure PoolClient where
  queues : Nat → QueueData := fun _ => {}
  holders : Nat → Option Nat := fun _ => none

/-- What a thread wants of a pool: the device, and the family. -/
structure PoolRequest where
  thread : Nat
  device : Nat
  family : Nat
  deriving DecidableEq, Repr

/-- What a pool is found by in the map: the thread and the queue family. -/
def PoolRequest.key (request : PoolRequest) : Nat × Nat := (request.thread, request.family)

/-- The pool that is made for a request, on the device of it. -/
def PoolRequest.make (request : PoolRequest) (id : Nat) : CommandPool :=
  ⟨id, request.thread, request.device, request.family⟩

namespace PoolClient

/-- The queues and the holders of the objects after a call of a thread. -/
def next (client : PoolClient) (call : ThreadOp) : PoolClient :=
  match call.op with
  | .initializeQueue object queue count _ =>
      { queues := Function.update client.queues object queue
        holders := Function.update client.holders object
          (if count = 0 then none else some call.thread) }
  | .initializeChild object parent =>
      { queues := Function.update client.queues object (client.queues parent)
        holders := Function.update client.holders object
          ((client.holders parent).map fun _ => call.thread) }
  | .reset object => { client with holders := Function.update client.holders object none }
  | .assign object source =>
      { queues := Function.update client.queues object (client.queues source)
        holders := Function.update client.holders object (client.holders source) }
  | .construct object =>
      { queues := Function.update client.queues object {}
        holders := Function.update client.holders object none }
  | .record _ | .submit _ | .setActive _ _ => client

/-- What a call wants of a pool, when it allocates: the thread that calls, and the device and family
of the queue. -/
def request (client : PoolClient) (call : ThreadOp) : Option PoolRequest :=
  match call.op with
  | .initializeQueue _ queue _ _ => some ⟨call.thread, queue.devId, queue.family⟩
  | .initializeChild _ parent =>
      let queue := client.queues parent
      some ⟨call.thread, queue.devId, queue.family⟩
  | _ => none

/-- What the calls of a run want of pools, in order. -/
def requests (client : PoolClient) : List ThreadOp → List PoolRequest
  | [] => []
  | call :: calls => (client.request call).toList ++ (client.next call).requests calls

/-- Recording and resetting are done by the thread that holds the object. -/
def Holds (client : PoolClient) (call : ThreadOp) : Prop :=
  match call.op with
  | .record object | .reset object => ∀ thread ∈ client.holders object, call.thread = thread
  | _ => True

/-- Whether a call is made by the thread that holds its object can be decided. -/
instance decidableHolds (client : PoolClient) (call : ThreadOp) :
    Decidable (client.Holds call) := by
  unfold Holds
  split <;> infer_instance

/-- Every call of a run is made by a thread that holds the object. -/
def HoldsEach (client : PoolClient) : List ThreadOp → Prop
  | [] => True
  | call :: calls => client.Holds call ∧ (client.next call).HoldsEach calls

/-- Whether every call of a run is made by the thread that holds its object can be decided. -/
instance decidableHoldsEach (client : PoolClient) :
    (calls : List ThreadOp) → Decidable (client.HoldsEach calls)
  | [] => isTrue trivial
  | call :: calls =>
      haveI := (client.next call).decidableHoldsEach calls
      inferInstanceAs (Decidable (client.Holds call ∧ (client.next call).HoldsEach calls))

end PoolClient

/-! ## Invariant -/

/-- The devices and the pools of the allocations among some calls of the driver, in order. -/
def allocations (log : List PoolEvent) : List (Nat × CommandPool) :=
  log.filterMap fun event =>
    match event.use with
    | .allocate device pool _ _ => some (device, pool)
    | _ => none

/-- The allocations are made on the devices of their pools. -/
def AllocatedOn (log : List PoolEvent) : Prop :=
  ∀ allocation ∈ allocations log, allocation.2.device = allocation.1

/-- An object has the buffers of one allocation from a pool. -/
structure PooledBuffers.From (data : PooledBuffers) (log : List PoolEvent) (pool : CommandPool) :
    Prop where
  vkPool : data.vkPool = some pool
  device : data.device = data.queue.devId
  family : pool.family = data.queue.family
  buffers : ∀ buffer ∈ data.cmdBuffers, buffer.pool = pool
  allocated : (data.device, pool) ∈ allocations log

/-- An object has no buffers, or has those that a thread allocated. -/
def PooledBuffers.HeldBy (data : PooledBuffers) (log : List PoolEvent) : Option Nat → Prop
  | none => data.cmdBuffers = []
  | some thread => data.cmdBuffers ≠ [] ∧ ∃ pool, data.From log pool ∧ pool.thread = thread

/-- **The invariant.** The pools are those of their keys, the objects are what the callers know of
them, and no call but an allocation is ever made on the wrong device. -/
structure PoolWorld.Knows (world : PoolWorld) (client : PoolClient) : Prop where
  entries : ∀ key pool, world.threadMap.entries key = some pool → (pool.thread, pool.family) = key
  queue : ∀ object, (world.objects object).queue = client.queues object
  held : ∀ object, (world.objects object).HeldBy world.log (client.holders object)
  log : AllocatedOn world.log → ∀ event ∈ world.log, event.use.Lawful

/-- The allocations among the calls of a longer log come one after the other. -/
@[simp] theorem allocations_append (log events : List PoolEvent) :
    allocations (log ++ events) = allocations log ++ allocations events :=
  List.filterMap_append

/-- Where all allocations of a longer log are on the devices of their pools, the earlier ones
are. -/
theorem AllocatedOn.of_append {log events : List PoolEvent} (h : AllocatedOn (log ++ events)) :
    AllocatedOn log := fun allocation hmem =>
  h allocation (by rw [allocations_append]; exact List.mem_append_left _ hmem)

namespace PooledBuffers

variable {data : PooledBuffers} {log : List PoolEvent} {pool : CommandPool} {holder : Option Nat}

/-- An object has its buffers from a pool, also once further calls were made. -/
theorem From.append (h : data.From log pool) (events : List PoolEvent) :
    data.From (log ++ events) pool :=
  { h with allocated := by rw [allocations_append]; exact List.mem_append_left _ h.allocated }

/-- An object is held by the same thread once further calls were made. -/
theorem HeldBy.append (h : data.HeldBy log holder) (events : List PoolEvent) :
    data.HeldBy (log ++ events) holder := by
  cases holder with
  | none => exact h
  | some thread =>
      obtain ⟨hsome, pool, hfrom, hthread⟩ := h
      exact ⟨hsome, pool, hfrom.append events, hthread⟩

/-- An object is held by the same thread wherever its cursor is. -/
theorem HeldBy.withCurrent (h : data.HeldBy log holder) (current : Nat) :
    HeldBy { data with current := current } log holder := by
  cases holder with
  | none => exact h
  | some thread =>
      obtain ⟨hsome, pool, hfrom, hthread⟩ := h
      exact ⟨hsome, pool, ⟨hfrom.vkPool, hfrom.device, hfrom.family, hfrom.buffers,
        hfrom.allocated⟩, hthread⟩

/-- An object with buffers is held, and they come from a pool of the thread that holds it. -/
theorem HeldBy.exists_from (h : data.HeldBy log holder) (hsome : data.cmdBuffers ≠ []) :
    ∃ pool, data.From log pool ∧ holder = some pool.thread := by
  cases holder with
  | none => exact absurd h hsome
  | some thread =>
      obtain ⟨-, pool, hfrom, rfl⟩ := h
      exact ⟨pool, hfrom, rfl⟩

/-- An object without buffers is held by no thread. -/
theorem HeldBy.eq_none (h : data.HeldBy log holder) (hnone : data.cmdBuffers = []) :
    holder = none := by
  cases holder with
  | none => rfl
  | some thread => exact absurd hnone h.1

end PooledBuffers

/-- To write down once more what is known of an object changes nothing. -/
theorem PoolClient.update_eq_self (client : PoolClient) (object : Nat) :
    { queues := Function.update client.queues object (client.queues object)
      holders := Function.update client.holders object (client.holders object) } = client := by
  simp only [Function.update_eq_self]

namespace PoolWorld

variable {world world' : PoolWorld} {client : PoolClient} {call : ThreadOp}

/-- In a new world no pool was made, no object has buffers, and that is what the callers know. -/
theorem knows_new : ({} : PoolWorld).Knows {} where
  entries _ _ h := absurd h (Option.some_ne_none _).symm
  queue _ := rfl
  held _ := rfl
  log _ _ hmem := absurd hmem List.not_mem_nil

/-- The invariant stays when one object is replaced by one that the callers know, and the calls that
were made for it are lawful if the allocations are. -/
theorem Knows.set (h : world.Knows client) (object allocated : Nat)
    {threadMap : FilledTable (Nat × Nat) CommandPool} {data : PooledBuffers} {queue : QueueData}
    {holder : Option Nat} {events : List PoolEvent}
    (hentries : ∀ key pool, threadMap.entries key = some pool → (pool.thread, pool.family) = key)
    (hqueue : data.queue = queue) (hheld : data.HeldBy (world.log ++ events) holder)
    (hlog : AllocatedOn (world.log ++ events) → ∀ event ∈ events, event.use.Lawful) :
    Knows
      { threadMap := threadMap
        objects := Function.update world.objects object data
        allocated := allocated
        log := world.log ++ events }
      { queues := Function.update client.queues object queue
        holders := Function.update client.holders object holder } where
  entries := hentries
  queue other := by
    by_cases hother : other = object
    · subst hother
      simpa only [Function.update_self] using hqueue
    · simp only [Function.update_of_ne hother, h.queue]
  held other := by
    by_cases hother : other = object
    · subst hother
      simpa only [Function.update_self] using hheld
    · simpa only [Function.update_of_ne hother] using (h.held other).append events
  log hallocated event hevent := by
    rcases List.mem_append.mp hevent with hevent | hevent
    · exact h.log hallocated.of_append event hevent
    · exact hlog hallocated event hevent

/-- The invariant stays when one object is replaced by one that the callers know, and no call is
made. -/
theorem Knows.replace (h : world.Knows client) (object : Nat) {data : PooledBuffers}
    {queue : QueueData} {holder : Option Nat} (hqueue : data.queue = queue)
    (hheld : data.HeldBy world.log holder) :
    Knows { world with objects := Function.update world.objects object data }
      { queues := Function.update client.queues object queue
        holders := Function.update client.holders object holder } := by
  have hset := h.set object world.allocated h.entries hqueue (hheld.append []) fun _ event hevent =>
    absurd hevent List.not_mem_nil
  rw [List.append_nil] at hset
  exact hset

/-- To allocate buffers asks the map of pools once, for the thread, the device and the family of the
queue, and logs one allocation. -/
theorem allocateBuffers_eq (world : PoolWorld) (thread object : Nat) (queue : QueueData)
    (level : Level) (count : Nat) {request : PoolRequest}
    (hrequest : request = ⟨thread, queue.devId, queue.family⟩) :
    world.allocateBuffers thread object queue level count =
      { threadMap := (world.threadMap.ask request.key request.make).1
        objects := Function.update world.objects object
          { world.objects object with
            queue := queue
            level := level
            device := queue.devId
            vkPool := some (world.threadMap.ask request.key request.make).2
            cmdBuffers := (List.range' world.allocated count).map
              (⟨·, (world.threadMap.ask request.key request.make).2⟩) }
        allocated := world.allocated + count
        log := world.log ++ [⟨thread, .allocate queue.devId
          (world.threadMap.ask request.key request.make).2 level
          ((List.range' world.allocated count).map
            (⟨·, (world.threadMap.ask request.key request.make).2⟩))⟩] } := by
  subst hrequest
  simp only [allocateBuffers, pool]
  rw [FilledTable.ask_ask]
  rfl

/-- What a call does: the invariant is kept, the calls of the driver change pools of the thread
exactly when the thread holds the object, and the pools of allocations are answers of the map. -/
structure Follows (world : PoolWorld) (client : PoolClient) (call : ThreadOp)
    (world' : PoolWorld) : Prop where
  knows : world'.Knows (client.next call)
  log : ∃ events, world'.log = world.log ++ events ∧
    ((∀ event ∈ events, event.OwnPool) ↔ client.Holds call)
  threadMap : world'.threadMap = (world.threadMap.asks PoolRequest.key PoolRequest.make
    (client.request call).toList).1
  allocations : allocations world'.log = allocations world.log ++
    ((client.request call).toList.map PoolRequest.device).zip
      (world.threadMap.asks PoolRequest.key PoolRequest.make (client.request call).toList).2

/-! ## One call -/

/-- A call that asks for no pool does what calls do, if it keeps the invariant, leaves the map alone
and logs no allocation. -/
theorem follows_of_none {events : List PoolEvent} (hrequest : client.request call = none)
    (hknows : world'.Knows (client.next call)) (hthreadMap : world'.threadMap = world.threadMap)
    (hlog : world'.log = world.log ++ events) (hevents : Nyx.allocations events = [])
    (hown : (∀ event ∈ events, event.OwnPool) ↔ client.Holds call) :
    world.Follows client call world' where
  knows := hknows
  log := ⟨events, hlog, hown⟩
  threadMap := by simpa [hrequest, FilledTable.asks] using hthreadMap
  allocations := by simp [hrequest, FilledTable.asks, hlog, hevents]

/-- A call that only replaces objects does what calls do, if it keeps the invariant and its thread
holds the object. -/
theorem follows_of_no_call {objects : Nat → PooledBuffers} (hrequest : client.request call = none)
    (hknows : Knows { world with objects := objects } (client.next call))
    (hholds : client.Holds call) :
    world.Follows client call { world with objects := objects } :=
  follows_of_none hrequest hknows rfl (List.append_nil _).symm rfl
    (iff_of_true (fun _ hevent => absurd hevent List.not_mem_nil) hholds)

/-- Both forms of `initialize`, which allocate, do what calls do. -/
theorem Knows.follows_allocateBuffers (h : world.Knows client) {object : Nat} {queue : QueueData}
    {level : Level} {count : Nat}
    (hnext : client.next call =
      { queues := Function.update client.queues object queue
        holders := Function.update client.holders object
          (if count = 0 then none else some call.thread) })
    (hrequest : client.request call = some ⟨call.thread, queue.devId, queue.family⟩)
    (hholds : client.Holds call) :
    world.Follows client call (world.allocateBuffers call.thread object queue level count) := by
  generalize hr : (⟨call.thread, queue.devId, queue.family⟩ : PoolRequest) = request at hrequest
  have hdevice : request.device = queue.devId := by rw [← hr]
  have hkey : request.key = (call.thread, queue.family) := by rw [← hr]; rfl
  -- the pool is one of the thread and the family
  have hmake : ((request.make world.threadMap.made).thread,
      (request.make world.threadMap.made).family) = request.key := rfl
  obtain ⟨hpool, hentries⟩ := FilledTable.ask_induction (P := fun key (pool : CommandPool) =>
    (pool.thread, pool.family) = key) h.entries hmake
  have hthread := congrArg Prod.fst (hpool.trans hkey)
  have hfamily := congrArg Prod.snd (hpool.trans hkey)
  rw [allocateBuffers_eq _ _ _ _ _ _ hr.symm]
  refine ⟨?_, ⟨_, rfl, ?_⟩, ?_, ?_⟩
  · rw [hnext]
    refine h.set _ _ hentries rfl ?_ ?_
    -- an object without buffers is held by no thread
    · by_cases hcount : count = 0
      · simp [hcount, PooledBuffers.HeldBy]
      · rw [if_neg hcount]
        refine ⟨by simp [hcount], _, ⟨rfl, rfl, hfamily, ?_, ?_⟩, hthread⟩
        · intro buffer hbuffer
          obtain ⟨id, -, rfl⟩ := List.mem_map.mp hbuffer
          rfl
        · simp [Nyx.allocations]
    · intro hallocated event hevent
      rw [List.mem_singleton] at hevent
      subst hevent
      exact hallocated (queue.devId, _) (by simp [Nyx.allocations])
  · simp only [List.mem_singleton, forall_eq, PoolEvent.OwnPool, PoolUse.changed,
      Option.some.injEq, forall_eq']
    exact iff_of_true hthread.symm hholds
  · simp [hrequest, FilledTable.asks]
  · simp [hrequest, FilledTable.asks, hdevice, Nyx.allocations]

/-- `CommandBuffer::initialize( queue, count, level, multi_pass )`, which allocates for the queue,
does what calls do. -/
theorem Knows.follows_initializeQueue (h : world.Knows client) {thread object count : Nat}
    {queue : QueueData} {level : Level}
    (hstep : world.initializeQueue thread object queue count level = .ok world') :
    world.Follows client ⟨thread, .initializeQueue object queue count level⟩ world' := by
  unfold initializeQueue at hstep
  split at hstep
  · cases hstep
    exact h.follows_allocateBuffers rfl rfl trivial
  · cases hstep

/-- `CommandBuffer::initialize( parent )`, which allocates for the queue of the parent, does what
calls do. -/
theorem Knows.follows_initializeChild (h : world.Knows client) {thread object parent : Nat}
    (hstep : world.initializeChild thread object parent = .ok world') :
    world.Follows client ⟨thread, .initializeChild object parent⟩ world' := by
  have hqueue := h.queue parent
  -- a child has as many buffers as its parent, which may be none
  have hholder : (client.holders parent).map (fun _ => thread) =
      if (world.objects parent).cmdBuffers.length = 0 then none else some thread := by
    have hheld := h.held parent
    split
    · next hnone => rw [hheld.eq_none (List.length_eq_zero_iff.mp hnone)]; rfl
    · next hsome =>
        obtain ⟨pool, -, hholder⟩ := hheld.exists_from fun hnil => hsome (by simp [hnil])
        rw [hholder]
        rfl
  simp only [initializeChild] at hstep
  split at hstep
  · cases hstep
    refine h.follows_allocateBuffers ?_ ?_ trivial
    · simp only [PoolClient.next, hqueue, hholder]
    · simp only [PoolClient.request, hqueue]
  · cases hstep

/-- A buffer of an object is one of an allocation, from a pool of the thread that holds the
object. -/
theorem Knows.exists_from (h : world.Knows client) {object index : Nat} {buffer : VkCommandBuffer}
    (hbuffer : (world.objects object).cmdBuffers[index]? = some buffer) :
    (world.objects object).From world.log buffer.pool ∧
      client.holders object = some buffer.pool.thread := by
  have hmem := List.mem_of_getElem? hbuffer
  obtain ⟨pool, hfrom, hholder⟩ := (h.held object).exists_from (List.ne_nil_of_mem hmem)
  rw [hfrom.buffers buffer hmem]
  exact ⟨hfrom, hholder⟩

/-- `CommandBuffer::record`, any commands, and `CommandBuffer::stop`. -/
theorem Knows.follows_record (h : world.Knows client) {thread object : Nat}
    (hstep : world.record thread object = .ok world') :
    world.Follows client ⟨thread, .record object⟩ world' := by
  simp only [record] at hstep
  split at hstep
  · cases hstep
  · next buffer hbuffer =>
      cases hstep
      obtain ⟨-, hholder⟩ := h.exists_from hbuffer
      refine follows_of_none rfl ?_ rfl rfl rfl ?_
      · refine { h with
          held := fun other => (h.held other).append _
          log := fun hallocated event hevent => ?_ }
        rcases List.mem_append.mp hevent with hevent | hevent
        · exact h.log hallocated.of_append event hevent
        · rw [List.mem_singleton.mp hevent]
          trivial
      · simp [PoolEvent.OwnPool, PoolUse.changed, PoolClient.Holds, hholder]

/-- `Queue::submit( cmd_buff )`, which changes no pool, does what calls do. -/
theorem Knows.follows_submit (h : world.Knows client) {thread object : Nat}
    (hstep : world.submit thread object = .ok world') :
    world.Follows client ⟨thread, .submit object⟩ world' := by
  simp only [submit] at hstep
  split at hstep
  · cases hstep
  · next buffer hbuffer =>
      cases hstep
      obtain ⟨hfrom, -⟩ := h.exists_from hbuffer
      refine follows_of_none rfl ?_ rfl rfl ?_ ?_
      · rw [PoolClient.next, ← client.update_eq_self object]
        refine h.set _ _ h.entries (h.queue object) (((h.held object).append _).withCurrent _) ?_
        intro hallocated event hevent
        -- only primary buffers are handed to the driver
        split at hevent
        · rw [List.mem_singleton.mp hevent]
          have hdevice := hallocated.of_append _ hfrom.allocated
          exact ⟨hdevice.trans hfrom.device, hfrom.family⟩
        · exact absurd hevent List.not_mem_nil
      · split <;> rfl
      · refine iff_of_true (fun event hevent => ?_) trivial
        split at hevent
        · rw [List.mem_singleton.mp hevent]
          exact fun pool hpool => absurd hpool (Option.some_ne_none pool).symm
        · exact absurd hevent List.not_mem_nil

/-- `CommandBuffer::reset`, which frees the buffers to their pool, does what calls do. -/
theorem Knows.follows_reset (h : world.Knows client) {thread object : Nat}
    (hstep : world.reset thread object = .ok world') :
    world.Follows client ⟨thread, .reset object⟩ world' := by
  simp only [reset] at hstep
  split at hstep
  -- there is nothing to free
  · next hnone =>
      cases hstep
      have hholder := (h.held object).eq_none hnone
      refine follows_of_no_call rfl ?_ ?_
      · change world.Knows { client with holders := Function.update client.holders object none }
        rw [← hholder, Function.update_eq_self]
        exact h
      · simp [PoolClient.Holds, hholder]
  · next hsome =>
      obtain ⟨pool, hfrom, hholder⟩ := (h.held object).exists_from hsome
      rw [hfrom.vkPool] at hstep
      cases hstep
      refine follows_of_none rfl ?_ rfl rfl rfl ?_
      · have hqueues : client.queues =
            Function.update client.queues object (client.queues object) := by
          rw [Function.update_eq_self]
        rw [PoolClient.next, hqueues]
        refine h.set _ _ h.entries (h.queue object) rfl fun hallocated event hevent => ?_
        rw [List.mem_singleton.mp hevent]
        exact ⟨hallocated.of_append _ hfrom.allocated, hfrom.buffers⟩
      · simp [PoolEvent.OwnPool, PoolUse.changed, PoolClient.Holds, hholder]

/-- **Step lemma.** Every call that does not fail does what calls do. -/
theorem Knows.follows (h : world.Knows client) (hstep : world.step call = .ok world') :
    world.Follows client call world' := by
  obtain ⟨thread, op⟩ := call
  cases op with
  | initializeQueue object queue count level => exact h.follows_initializeQueue hstep
  | initializeChild object parent => exact h.follows_initializeChild hstep
  | record object => exact h.follows_record hstep
  | submit object => exact h.follows_submit hstep
  | reset object => exact h.follows_reset hstep
  | setActive object index =>
      cases hstep
      refine follows_of_no_call rfl ?_ trivial
      rw [PoolClient.next, ← client.update_eq_self object]
      exact h.replace object (h.queue object) ((h.held object).withCurrent _)
  | assign object source =>
      cases hstep
      refine follows_of_no_call rfl ?_ trivial
      exact h.replace object (h.queue source) (h.held source)
  | construct object =>
      cases hstep
      exact follows_of_no_call rfl (h.replace object rfl rfl) trivial

/-! ## Runs -/

variable {calls : List ThreadOp}

/-- **Run lemma.** The pools of allocations are the answers of the map to what the calls want. -/
theorem Knows.follows_run (h : world.Knows client)
    (hrun : runSteps PoolWorld.step world calls = .ok world') :
    (∃ client', world'.Knows client') ∧
      Nyx.allocations world'.log = Nyx.allocations world.log ++
        ((client.requests calls).map PoolRequest.device).zip
          (world.threadMap.asks PoolRequest.key PoolRequest.make (client.requests calls)).2 := by
  induction calls generalizing world client with
  | nil =>
      rw [runSteps_nil, Except.ok.injEq] at hrun
      subst hrun
      exact ⟨⟨client, h⟩, by simp [PoolClient.requests]⟩
  | cons call calls ih =>
      obtain ⟨middle, hstep, hrest⟩ := runSteps_cons_ok_iff.mp hrun
      have hfollows := h.follows hstep
      obtain ⟨hknows, hallocations⟩ := ih hfollows.knows hrest
      refine ⟨hknows, ?_⟩
      rw [hallocations, hfollows.allocations, hfollows.threadMap, PoolClient.requests,
        FilledTable.asks_append, List.map_append, List.append_assoc, List.zip_append (by simp)]

/-- **Run lemma.** Threads use pools of their own exactly when they hold the objects. -/
theorem Knows.ownPool_run (h : world.Knows client)
    (hrun : runSteps PoolWorld.step world calls = .ok world') :
    (∀ event ∈ world'.log, event.OwnPool) ↔
      (∀ event ∈ world.log, event.OwnPool) ∧ client.HoldsEach calls := by
  induction calls generalizing world client with
  | nil =>
      rw [runSteps_nil, Except.ok.injEq] at hrun
      subst hrun
      exact (and_iff_left trivial).symm
  | cons call calls ih =>
      obtain ⟨middle, hstep, hrest⟩ := runSteps_cons_ok_iff.mp hrun
      have hfollows := h.follows hstep
      obtain ⟨events, hlog, hown⟩ := hfollows.log
      rw [ih hfollows.knows hrest, hlog, PoolClient.HoldsEach, ← hown, ← and_assoc]
      simp only [List.mem_append, or_imp, forall_and]

/-- All calls of the driver are lawful exactly when the allocations are made on the devices of their
pools. -/
theorem Knows.lawful_iff_allocatedOn (h : world.Knows client) :
    (∀ event ∈ world.log, event.use.Lawful) ↔ AllocatedOn world.log := by
  refine ⟨fun hlawful allocation hmem => ?_, h.log⟩
  obtain ⟨event, hevent, hallocation⟩ := List.mem_filterMap.mp hmem
  have hthis := hlawful event hevent
  obtain ⟨thread, use⟩ := event
  cases use with
  | allocate device pool level buffers =>
      cases hallocation
      exact hthis
  | free device pool buffers => cases hallocation
  | record buffer => cases hallocation
  | submit queue buffer => cases hallocation

/-- **Pools are used on their devices exactly when no thread asks for one family of two devices.**
Then buffers are freed to the pool they are from, and submitted to queues of its family. -/
theorem lawful_iff (calls : List ThreadOp) (hrun : runSteps PoolWorld.step {} calls = .ok world) :
    (∀ event ∈ world.log, event.use.Lawful) ↔
      AgreeOn PoolRequest.key PoolRequest.device (PoolClient.requests {} calls) := by
  obtain ⟨⟨client, hknows⟩, hallocations⟩ := knows_new.follows_run hrun
  have hempty : Nyx.allocations ({} : PoolWorld).log = [] := rfl
  rw [hempty, List.nil_append] at hallocations
  have hmake : ∀ (request : PoolRequest) (id : Nat),
      (request.make id).device = request.device := fun _ _ => rfl
  -- a pool is on the device of the request that it was made for, and answers all others like it
  have hanswers : List.Forall₂ (fun request (pool : CommandPool) =>
        pool.device = PoolRequest.device request) (PoolClient.requests {} calls)
        (({} : FilledTable (Nat × Nat) CommandPool).asks PoolRequest.key PoolRequest.make
          (PoolClient.requests {} calls)).2 ↔
      AgreeOn PoolRequest.key PoolRequest.device (PoolClient.requests {} calls) :=
    FilledTable.forall₂_asks_iff hmake _
  rw [hknows.lawful_iff_allocatedOn, ← hanswers, AllocatedOn, hallocations, List.forall₂_iff_zip,
    List.zip_map_left, List.forall_mem_map]
  constructor
  · intro hall
    exact ⟨(FilledTable.length_asks _).symm, fun hmem => hall _ hmem⟩
  · rintro ⟨-, hall⟩ ⟨request, pool⟩ hmem
    exact hall hmem

/-- Objects for two families of one device, and a child of one that another thread makes. -/
def twoFamilies : List ThreadOp :=
  [⟨0, .initializeQueue 0 ⟨0, some ⟨0, 0⟩, 0, 1⟩ 3 .primary⟩,
    ⟨0, .initializeQueue 1 ⟨0, some ⟨1, 0⟩, 1, 2⟩ 3 .primary⟩, ⟨1, .initializeChild 2 0⟩,
    ⟨1, .record 2⟩, ⟨0, .record 0⟩, ⟨1, .submit 0⟩, ⟨0, .reset 0⟩]

/-- One thread makes objects for the first queue families of two devices. -/
def twoDevices : List ThreadOp :=
  [⟨0, .initializeQueue 0 ⟨0, some ⟨0, 0⟩, 0, 1⟩ 3 .primary⟩,
    ⟨0, .initializeQueue 1 ⟨1, some ⟨0, 0⟩, 0, 1⟩ 3 .primary⟩]

/-- The buffers for the second device are allocated from the pool of the first. -/
theorem lawful_iff_twoDevices :
    (∃ world, runSteps PoolWorld.step {} twoFamilies = .ok world ∧
        ∀ event ∈ world.log, event.use.Lawful) ∧
      ∃ world, runSteps PoolWorld.step {} twoDevices = .ok world ∧
        ¬ ∀ event ∈ world.log, event.use.Lawful :=
  ⟨⟨_, rfl, (lawful_iff twoFamilies rfl).mpr (by decide)⟩,
    ⟨_, rfl, mt (lawful_iff twoDevices rfl).mp (by decide)⟩⟩

/-- **A pool is used by the thread that made it alone exactly when each object is recorded and reset
by the thread that holds it.** -/
theorem threads_iff (calls : List ThreadOp) (hrun : runSteps PoolWorld.step {} calls = .ok world) :
    (∀ event ∈ world.log, event.OwnPool) ↔ PoolClient.HoldsEach {} calls := by
  rw [knows_new.ownPool_run hrun]
  exact and_iff_right fun event hevent => absurd hevent List.not_mem_nil

/-- Each thread uses its own pools, until the first thread records the child that the second one
made. -/
theorem threads_iff_twoFamilies :
    (∃ world, runSteps PoolWorld.step {} twoFamilies = .ok world ∧
        ∀ event ∈ world.log, event.OwnPool) ∧
      ∃ world, runSteps PoolWorld.step {} (twoFamilies ++ [⟨0, .record 2⟩]) = .ok world ∧
        ¬ ∀ event ∈ world.log, event.OwnPool :=
  ⟨⟨_, rfl, (threads_iff twoFamilies rfl).mpr (by decide)⟩,
    ⟨_, rfl, mt (threads_iff (twoFamilies ++ [⟨0, .record 2⟩]) rfl).mp (by decide)⟩⟩

end PoolWorld

end Nyx
