import Nyx.Recording.TurnedRings
import Nyx.Transfers.ReadyPools

/-! # The devices of staging buffers

The staging pool belongs to all chains of a program, on whatever devices they were initialised. A
copy between the host and the GPU takes the first buffer of the pool that is not locked; a buffer is
initialised on the device of the queue of the chain that made the pool grow. The queue of a chain
that was only ever initialised as a child was never set, and says no device.

* **`HostCopy`** — the four copies that go through a staging buffer.
* **`ChainSet`**, **`ChainSet.step`** — the chains of a program, and their copies in any order.
* **`ChainSet.Matches`** — the staging buffer a copy gets is on the device of its chain.
* **`ChainSet.matches_iff`** — the first copy decides: all get a matching buffer exactly when the
  queue of the chain that issues the first was set, and all are issued by chains on its device. -/

namespace Nyx

open Foundations

/-- A copy between the host and the GPU, of an array or of an image. -/
inductive HostCopy
  | upload (src : List UInt8) (dst : Buffer) (copyAmt elementSize srcOffset dstOffset : Nat)
  | uploadImage (src : List UInt8) (dst : Image)
  | download (src : Buffer) (dst : Nat) (copyAmt elementSize srcOffset dstOffset : Nat)
  | downloadImage (src : Image) (dst : Nat)
  deriving DecidableEq, Repr

/-- The operation of the chain that such a copy is. -/
def HostCopy.op : HostCopy → RecordingOp
  | .upload src dst copyAmt elementSize srcOffset dstOffset =>
      .upload src dst copyAmt elementSize srcOffset dstOffset
  | .uploadImage src dst => .uploadImage src dst
  | .download src dst copyAmt elementSize srcOffset dstOffset =>
      .download src dst copyAmt elementSize srcOffset dstOffset
  | .downloadImage src dst => .downloadImage src dst

/-- The device a chain was initialised on: that of its command buffers, which for a child is that
of the parent's. -/
def ChainData.device (data : ChainData) : Option Nat := data.cmd.queue.device

/-- A device that was chosen, and is the one a chain was initialised on. -/
def ChainData.IsOn (data : ChainData) (device : Option Nat) : Prop :=
  device.isSome ∧ data.device = device

instance (data : ChainData) (device : Option Nat) : Decidable (data.IsOn device) :=
  inferInstanceAs (Decidable (_ ∧ _))

/-- The chains of a program, and the world they share. -/
structure ChainSet where
  chains : ChainId → ChainData
  world : World

/-- A copy between the host and the GPU, and the chain that issues it. -/
structure ChainCopy where
  chain : ChainId
  copy : HostCopy
  deriving DecidableEq, Repr

namespace ChainSet

/-- One of the chains as a chain of its own, in the world that all share. -/
def session (s : ChainSet) (id : ChainId) : Session := ⟨id, s.chains id, s.world⟩

/-- One copy by one of the chains, with the failure that it may come to. -/
def step (env : Environment) (s : ChainSet) (c : ChainCopy) : Except ChainFailure ChainSet :=
  (c.copy.op.step env (s.session c.chain)).map fun t =>
    ⟨Function.update s.chains c.chain t.data, t.world⟩

/-- **Matching.** The staging buffer that `findStaging` hands to the copy was initialised on the
device of the chain. A buffer initialised on the device of a queue that was never set matches no
chain. -/
def Matches (env : Environment) (s : ChainSet) (c : ChainCopy) : Prop :=
  ∀ world staging, s.world.findStaging env (s.chains c.chain).queue.device = some (world, staging) →
    (s.chains c.chain).IsOn staging.device

end ChainSet

/-! ## Chains keep their queues -/

namespace CommandBuffer

/-- A loop whose body leaves the queue alone leaves it alone, however many rounds it has. -/
theorem queue_forEach {body : CommandBuffer → CommandBuffer}
    (hbody : ∀ cmd, (body cmd).queue = cmd.queue) (n : Nat) (cmd : CommandBuffer) :
    (cmd.forEach n body).queue = cmd.queue := by
  induction n generalizing cmd with
  | zero => rfl
  | succ n ih =>
      rw [forEach_succ, ih]
      exact hbody cmd

end CommandBuffer

namespace ChainData

variable (passes : PassId → RenderPass) (data : ChainData)

/-- The queue a chain was given, and that of its command buffers. -/
def queues (data : ChainData) : Queue × Queue := (data.queue, data.cmd.queue)

/-- To begin a command buffer leaves its queue alone, for a child as for a chain without a
parent. -/
theorem queue_recordBody_all (useRenderPass : Bool) (cmd : CommandBuffer) :
    (data.recordBody passes useRenderPass cmd).queue = cmd.queue := by
  have hprimary : ∀ (cmd : CommandBuffer) (renderPass : RenderPass),
      (cmd.recordPrimary renderPass).queue = cmd.queue := fun cmd renderPass => by
    rw [CommandBuffer.recordPrimary_eq]
    rfl
  have hplain : cmd.record.queue = cmd.queue := by
    rw [CommandBuffer.record_eq]
    rfl
  cases hparent : data.parent with
  | none => exact queue_recordBody hparent passes useRenderPass cmd
  | some parent =>
      unfold recordBody
      rw [hparent]
      cases data.pass with
      | none => exact hplain
      | some pass =>
          dsimp only
          split
          · simp only [CommandBuffer.recordSubpass]
            split
            · exact hprimary ..
            · rfl
          · exact hplain

/-- A move of an operation leaves the queues of the chain alone. -/
theorem queues_move (move : Move) : (data.move passes move).queues = data.queues := by
  cases move with
  | storeImageBarrier | storeBufferBarrier | markRecord => rfl
  | record useRenderPass =>
      simp only [ChainData.move, record, queues, Prod.mk.injEq, true_and]
      show (if data.cmd.recording then data.cmd else _ : CommandBuffer).queue = _
      split
      · rfl
      · exact CommandBuffer.queue_forEach (data.queue_recordBody_all passes useRenderPass) ..
  | each bound commands =>
      have hbody : ∀ cmd : CommandBuffer, (cmd.issueBound bound commands).queue = cmd.queue :=
        fun cmd => CommandBuffer.queue_issue _ commands
      simp only [ChainData.move, broadcast, queues, Prod.mk.injEq, true_and]
      exact CommandBuffer.queue_forEach hbody ..
  | synchronize device =>
      rw [ChainData.move]
      rcases data.deviceSynchronize_cases (device.or data.cmd.queue.device) with h | h
      · rw [h]
        rfl
      · rw [h]

/-- Any moves of an operation leave the queues of the chain alone. -/
theorem queues_moves (moves : List Move) : (data.moves passes moves).queues = data.queues := by
  induction moves generalizing data with
  | nil => rfl
  | cons move moves ih => exact (ih _).trans (data.queues_move passes move)

end ChainData

/-! ## The devices of the pool -/

namespace World

/-- The devices of the staging buffers, in the order of the pool. -/
def devices (world : World) : List (Option Nat) := world.staging.map (·.device)

/-- To lock or unlock a buffer leaves the devices of the pool alone. -/
@[simp] theorem devices_setLocked (world : World) (id : Nat) (locked : Bool) :
    (world.setLocked id locked).devices = world.devices := by
  simp only [devices, setLocked, List.map_map]
  refine List.map_congr_left fun staging _ => ?_
  rw [Function.comp_apply]
  split <;> rfl

/-- To read a buffer back leaves the devices of the pool alone. -/
@[simp] theorem devices_syncToHost (world : World) (staging : StagingBuffer) :
    (world.syncToHost staging).1.devices = world.devices := by
  simp only [devices, syncToHost, List.map_map]
  refine List.map_congr_left fun entry _ => ?_
  rw [Function.comp_apply]
  split <;> rfl

variable {world : World} {env : Environment} {device : Option Nat}

/-- The end of a download leaves the devices of the pool alone. -/
theorem devices_readBackRecipe (waited : Option Nat) (staging : StagingBuffer)
    (dst byteSize : Nat) :
    (readBackRecipe waited world staging dst byteSize).2.devices = world.devices :=
  (devices_setLocked ..).trans (devices_syncToHost world staging)

/-- A copy from a buffer to an image leaves the devices of the pool alone. -/
theorem devices_copyBufferToImageRecipe (src : BufferHandle) (dst : Image) (dstOffset : Nat) :
    (copyBufferToImageRecipe world src dst dstOffset).2.devices = world.devices := by
  obtain ⟨layouts, hworld⟩ := exists_copyBufferToImageRecipe world src dst dstOffset
  rw [hworld]
  rfl

/-- **A copy leaves the pool as `findStaging` looked at it**, as far as the devices go. -/
theorem Ready.devices_recipe (h : world.Ready) {pass : Option PassId} {copy : HostCopy}
    {recipe : List Move × World} (hrecipe : copy.op.recipe env pass device world = .ok recipe) :
    recipe.2.devices = (world.primed env device).devices := by
  obtain ⟨head, rest, -, hfind⟩ := h.findStaging env device
  cases copy with
  | upload src dst copyAmt elementSize srcOffset dstOffset =>
      rw [HostCopy.op, RecordingOp.recipe, hfind] at hrecipe
      cases hrecipe
      exact (devices_setLocked ..).trans (devices_setLocked ..)
  | uploadImage src dst =>
      rw [HostCopy.op, RecordingOp.recipe, hfind] at hrecipe
      cases hrecipe
      simp only [devices_setLocked, devices_copyBufferToImageRecipe]
      exact devices_setLocked ..
  | download src dst copyAmt elementSize srcOffset dstOffset =>
      obtain ⟨found, staging, hfound, -, rfl⟩ := exists_of_recipe_download hrecipe
      cases hfind.symm.trans hfound
      exact (devices_readBackRecipe (some src.device) ..).trans (devices_setLocked ..)
  | downloadImage src dst =>
      obtain ⟨found, staging, hfound, -, rfl⟩ := exists_of_recipe_downloadImage hrecipe
      cases hfind.symm.trans hfound
      exact (devices_readBackRecipe none ..).trans (devices_setLocked ..)

/-- On a ready pool the device of the buffer that is handed out is that of the first one. -/
theorem Ready.device_findStaging (h : world.Ready) {found : World} {staging : StagingBuffer}
    (hfind : world.findStaging env device = some (found, staging)) :
    (world.primed env device).devices.head? = some staging.device := by
  obtain ⟨head, rest, hpool, hfound⟩ := h.findStaging env device
  cases hfind.symm.trans hfound
  rw [devices, hpool]
  rfl

end World

namespace ChainSet

/-! ## One copy -/

/-- Between two copies: the pool is ready, its first buffer is on `device`, and all chains have the
queues they had. -/
structure Pooled (device : Option Nat) (s t : ChainSet) : Prop where
  ready : t.world.Ready
  head : t.world.devices.head? = some device
  queues : ∀ id, (t.chains id).queues = (s.chains id).queues

variable {env : Environment} {s t t' : ChainSet} {c : ChainCopy} {device : Option Nat}

/-- A copy leaves the pool ready, with a first buffer on the device of the chain if it was empty and
no other one, and leaves all queues alone. -/
theorem step_cases (hready : t.world.Ready) (hstep : t.step env c = .ok t') :
    t'.world.Ready ∧
      t'.world.devices = (t.world.primed env (t.chains c.chain).queue.device).devices ∧
      ∀ id, (t'.chains id).queues = (t.chains id).queues := by
  rw [step, RecordingOp.step_eq] at hstep
  cases hrecipe : c.copy.op.recipe env (t.chains c.chain).pass (t.chains c.chain).queue.device
      t.world with
  | error failure =>
      simp only [session, hrecipe] at hstep
      cases hstep
  | ok recipe =>
      simp only [session, hrecipe] at hstep
      cases hstep
      refine ⟨hready.recipe hrecipe, hready.devices_recipe hrecipe, fun id => ?_⟩
      simp only [Function.update_apply]
      split
      · rename_i heq
        rw [heq]
        exact ChainData.queues_moves ..
      · rfl

/-- A pool that is not empty is what `findStaging` looks at, for any device. -/
theorem Pooled.primed (h : Pooled device s t) (other : Option Nat) :
    t.world.primed env other = t.world := by
  have hne : t.world.staging ≠ [] := by
    intro hempty
    have hhead := h.head
    simp [World.devices, hempty] at hhead
  rw [World.primed, if_neg hne]

/-- A copy keeps the pool as it is between two copies. -/
theorem Pooled.step (h : Pooled device s t) (hstep : t.step env c = .ok t') :
    Pooled device s t' := by
  obtain ⟨hready, hdevices, hqueues⟩ := step_cases h.ready hstep
  refine ⟨hready, ?_, fun id => (hqueues id).trans (h.queues id)⟩
  rw [hdevices, h.primed]
  exact h.head

/-- A copy on such a pool is handed a buffer on the device of the first one. -/
theorem Pooled.copy_matches_iff (h : Pooled device s t) :
    t.Matches env c ↔ (s.chains c.chain).IsOn device := by
  obtain ⟨head, rest, hpool, hfind⟩ := h.ready.findStaging env (t.chains c.chain).queue.device
  have hdevice : (t.chains c.chain).device = (s.chains c.chain).device :=
    congrArg (·.2.device) (h.queues c.chain)
  have hhead : head.device = device := by
    have hfirst := h.ready.device_findStaging hfind
    rw [h.primed, h.head] at hfirst
    exact (Option.some.inj hfirst).symm
  have hison : (t.chains c.chain).IsOn head.device ↔ (s.chains c.chain).IsOn device := by
    rw [ChainData.IsOn, ChainData.IsOn, hdevice, hhead]
  constructor
  · intro hmatches
    exact hison.mp (hmatches _ { head with locked := true } hfind)
  · intro hon world staging hfound
    cases hfind.symm.trans hfound
    exact hison.mpr hon

/-! ## Whole runs -/

/-- The first copy on an empty pool: the buffer is on the device of the queue of its chain. -/
theorem matches_first (hempty : s.world.staging = []) :
    s.Matches env c ↔ (s.chains c.chain).IsOn (s.chains c.chain).queue.device := by
  have hready : s.world.Ready := World.ready_of_nil hempty
  obtain ⟨head, rest, hpool, hfind⟩ := hready.findStaging env (s.chains c.chain).queue.device
  have hhead : head.device = (s.chains c.chain).queue.device := by
    rw [World.primed, if_pos hempty, World.insertStaging, hempty] at hpool
    cases hpool
    rfl
  constructor
  · intro hmatches
    have hon := hmatches _ _ hfind
    rwa [← hhead]
  · intro hon world staging hfound
    cases hfind.symm.trans hfound
    exact hhead ▸ hon

/-- A child whose own queue was never set does not match when it copies first: the pool makes its
first buffer on the device of that queue, which is none. -/
theorem not_matches_first_of_child (hempty : s.world.staging = []) {data parent : ChainData}
    {parentId : ChainId} {subpassId : Nat}
    (hchild : s.chains c.chain = data.initializeChild parentId parent subpassId)
    (hunset : data.queue.device = none) : ¬ s.Matches env c := by
  rw [matches_first hempty, hchild]
  rintro ⟨hset, -⟩
  rw [show (data.initializeChild parentId parent subpassId).queue = data.queue from rfl,
    hunset] at hset
  cases hset

/-- The first copy leaves a pool whose first buffer is on the device of the chain that made it. -/
theorem pooled_first (hempty : s.world.staging = []) (hstep : s.step env c = .ok t) :
    Pooled (s.chains c.chain).queue.device s t := by
  obtain ⟨hready, hdevices, hqueues⟩ := step_cases (World.ready_of_nil hempty) hstep
  refine ⟨hready, ?_, hqueues⟩
  rw [hdevices, World.primed, if_pos hempty, World.devices, World.insertStaging, hempty]
  rfl

/-- **The devices of staging buffers.** In a program whose staging pool is empty, each copy between
the host and the GPU gets a staging buffer on the device of its chain exactly when the queue of the
chain that issues the first copy was set, to some device, and every copy is issued by a chain that
was initialised on that device. So no copy matches in a run that begins with a copy by a child whose
own queue was never set. -/
theorem matches_iff (env : Environment) (s : ChainSet) (hempty : s.world.staging = [])
    (copies : List ChainCopy) :
    StepsMeet (step env) (Matches env) s copies ↔
      StepsMeet (step env) (fun _ c => ∀ first, copies.head? = some first →
        (s.chains c.chain).IsOn (s.chains first.chain).queue.device) s copies := by
  cases copies with
  | nil => exact Iff.rfl
  | cons first copies =>
      simp only [List.head?_cons, Option.some.injEq, forall_eq']
      refine and_congr (matches_first hempty) (forall_congr' fun t => ?_)
      refine imp_congr_right fun hstep => ?_
      -- from here on the pool has the buffer of the first copy in front
      exact stepsMeet_congr (Pooled (s.chains first.chain).queue.device s)
        (fun _ _ h => h.copy_matches_iff) (fun _ _ _ h _ hstep => h.step hstep)
        (pooled_first hempty hstep)

/-- Chain `0` on device `0`, chain `1` on device `1`, at the start of a program. -/
def onTwoDevices : ChainSet where
  chains id := ({} : ChainData).initializeType id .graphics
  world := .start

/-- Chain `1` copies to the GPU and back, and gets a staging buffer on its device both times. -/
theorem matches_iff_one :
    StepsMeet (step .inert) (Matches .inert) onTwoDevices
        [⟨1, .upload [7] ⟨.array 0, 1⟩ 1 1 0 0⟩, ⟨1, .download ⟨.array 0, 1⟩ 0 1 1 0 0⟩] ↔
      StepsMeet (step .inert) (fun _ c => ∀ first,
        [(⟨1, .upload [7] ⟨.array 0, 1⟩ 1 1 0 0⟩ : ChainCopy),
          ⟨1, .download ⟨.array 0, 1⟩ 0 1 1 0 0⟩].head? = some first →
        (onTwoDevices.chains c.chain).IsOn (onTwoDevices.chains first.chain).queue.device)
        onTwoDevices
        [⟨1, .upload [7] ⟨.array 0, 1⟩ 1 1 0 0⟩, ⟨1, .download ⟨.array 0, 1⟩ 0 1 1 0 0⟩] :=
  matches_iff .inert onTwoDevices rfl _

/-- After a copy by chain `0`, one by chain `1` gets a staging buffer on device `0`. -/
theorem not_matches : ¬ ∀ (env : Environment) (s : ChainSet) (copies : List ChainCopy),
    s.world.staging = [] → StepsMeet (step env) (Matches env) s copies := by
  intro h
  have hcopies := h .inert onTwoDevices
    [⟨0, .upload [7] ⟨.array 0, 0⟩ 1 1 0 0⟩, ⟨1, .upload [7] ⟨.array 1, 1⟩ 1 1 0 0⟩] rfl
  obtain ⟨-, hrest⟩ := hcopies
  have hsecond := (hrest _ rfl).1
  exact absurd (hsecond _ _ rfl) (by decide)

end ChainSet

end Nyx
