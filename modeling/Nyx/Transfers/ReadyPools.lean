import Nyx.Recording.SequentialChains

/-! # Ready staging pools

Between two operations no staging buffer is locked, so `findStaging` always hands out the first one
of the pool: the copies of a chain share a single staging buffer.

* **`World.Ready`** — no staging buffer is locked, and each is backed by as much memory as it says.
* **`World.primed`** — the pool `findStaging` looks at, which is never empty.
* **`World.Ready.findStaging`** — what `findStaging` hands out.
* **`CommandList.ready_run`** — every run keeps the pool ready. -/

namespace Nyx

open Foundations

namespace World

/-- **Ready.** No staging buffer is locked, each has the size it was asked for, the memory behind it
is that large, and the next one gets a new id. -/
structure Ready (world : World) : Prop where
  free : ∀ staging ∈ world.staging, staging.locked = false
  large : ∀ staging ∈ world.staging, stagingBufferSize ≤ staging.byteSize
  backed : ∀ staging ∈ world.staging, (world.memory (.staging staging.id)).size = staging.byteSize
  fresh : ∀ staging ∈ world.staging, staging.id < world.nextId

variable {world world' : World} {env : Environment} {device : Option Nat}

/-- An empty pool is ready, for what is asked of each buffer is asked of none. -/
theorem ready_of_nil (h : world.staging = []) : world.Ready := by
  constructor <;> intro staging hmem <;> rw [h] at hmem <;> cases hmem

/-- A pool whose buffers keep their ids and sizes and are not locked stays ready while no memory
changes its size. -/
theorem Ready.of_map (h : world.Ready) {f : StagingBuffer → StagingBuffer}
    (hf : ∀ staging ∈ world.staging, (f staging).locked = false ∧
      (f staging).byteSize = staging.byteSize ∧ (f staging).id = staging.id)
    (hstaging : world'.staging = world.staging.map f) (hnext : world'.nextId = world.nextId)
    (hsize : ∀ handle, (world'.memory handle).size = (world.memory handle).size) :
    world'.Ready := by
  have hback : ∀ entry ∈ world'.staging, ∃ staging ∈ world.staging, entry.locked = false ∧
      entry.byteSize = staging.byteSize ∧ entry.id = staging.id := by
    intro entry hmem
    rw [hstaging] at hmem
    obtain ⟨staging, hold, rfl⟩ := List.mem_map.mp hmem
    exact ⟨staging, hold, hf staging hold⟩
  constructor
  · intro entry hmem
    obtain ⟨staging, hold, hfree, -, -⟩ := hback entry hmem
    exact hfree
  · intro entry hmem
    obtain ⟨staging, hold, -, hbytes, -⟩ := hback entry hmem
    rw [hbytes]
    exact h.large staging hold
  · intro entry hmem
    obtain ⟨staging, hold, -, hbytes, hid⟩ := hback entry hmem
    rw [hsize, hbytes, hid]
    exact h.backed staging hold
  · intro entry hmem
    obtain ⟨staging, hold, -, -, hid⟩ := hback entry hmem
    rw [hid, hnext]
    exact h.fresh staging hold

/-- A world with the same pool is ready while no memory changes its size. -/
theorem Ready.congr (h : world.Ready) (hstaging : world'.staging = world.staging)
    (hnext : world'.nextId = world.nextId)
    (hsize : ∀ handle, (world'.memory handle).size = (world.memory handle).size) :
    world'.Ready :=
  h.of_map (f := id) (fun staging hmem => ⟨h.free staging hmem, rfl, rfl⟩)
    (by rw [hstaging, List.map_id]) hnext hsize

/-! ## What `findStaging` hands out -/

/-- The pool `findStaging` looks at: an empty one gets its first buffer. -/
def primed (env : Environment) (world : World) (device : Option Nat) : World :=
  if world.staging = [] then (world.insertStaging env device false).1 else world

/-- The first buffer of a pool does not touch the memory of an array. -/
theorem memory_primed_array (env : Environment) (world : World) (device : Option Nat) (id : Nat) :
    (world.primed env device).memory (.array id) = world.memory (.array id) := by
  rw [primed]
  split
  · simp only [insertStaging, Function.update_of_ne (BufferHandle.array_ne_staging id _)]
  · rfl

/-- A pool that is ready is so with its first buffer. -/
theorem Ready.primed (h : world.Ready) : (world.primed env device).Ready := by
  rw [World.primed]
  by_cases hempty : world.staging = []
  · rw [if_pos hempty]
    have hpool : (world.insertStaging env device false).1.staging
        = [⟨world.nextId, false, device, env.requirements world.nextId stagingBufferSize, []⟩] := by
      rw [insertStaging, hempty]
      rfl
    constructor <;> intro staging hmem <;> rw [hpool] at hmem <;>
      obtain rfl := List.mem_singleton.mp hmem
    · rfl
    · exact env.le_requirements world.nextId stagingBufferSize
    · simp [insertStaging]
    · exact Nat.lt_succ_self world.nextId
  · rw [if_neg hempty]
    exact h

/-- **What `findStaging` hands out.** On a ready pool it is the first buffer. -/
theorem Ready.findStaging (h : world.Ready) (env : Environment) (device : Option Nat) :
    ∃ staging rest, (world.primed env device).staging = staging :: rest ∧
      world.findStaging env device
        = some ((world.primed env device).setLocked staging.id true,
          { staging with locked := true }) := by
  have hprimed : (world.primed env device).Ready := h.primed
  cases hpool : (world.primed env device).staging with
  | nil =>
      exfalso
      rw [World.primed] at hpool
      by_cases hempty : world.staging = []
      · rw [if_pos hempty, insertStaging, hempty] at hpool
        cases hpool
      · rw [if_neg hempty] at hpool
        exact hempty hpool
  -- the first buffer is not locked, so the search ends with it
  | cons staging rest =>
      have hfree : staging.locked = false :=
        hprimed.free staging (by rw [hpool]; exact List.mem_cons_self)
      refine ⟨staging, rest, rfl, ?_⟩
      have hfind : (world.primed env device).staging.find? (fun staging => !staging.locked)
          = some staging := by
        rw [hpool, List.find?_cons, hfree]
        rfl
      rw [World.findStaging]
      simp only [World.primed] at hfind
      simp only [hfind, World.primed]

/-- Locking a buffer of a ready pool and unlocking it again does nothing. -/
theorem Ready.setLocked_setLocked (h : world.Ready) (id : Nat) :
    (world.setLocked id true).setLocked id false = world := by
  have hmap : (world.setLocked id true).staging.map (fun staging =>
      if staging.id = id then { staging with locked := false } else staging) = world.staging := by
    rw [setLocked, List.map_map]
    refine (List.map_congr_left fun staging hmem => ?_).trans (List.map_id _)
    by_cases hid : staging.id = id
    · simp only [Function.comp_apply, hid, if_true, ← h.free staging hmem]
      rw [← hid]
      rfl
    · simp only [Function.comp_apply, hid, if_false]
      rfl
  rw [setLocked, hmap]
  rfl

/-- A write to one buffer changes the size of none. -/
theorem size_update_write (memory : DeviceMemory) (dst handle : BufferHandle) (off : Nat)
    (bytes : List UInt8) :
    (Function.update memory dst ((memory dst).write off bytes) handle).size
      = (memory handle).size := by
  by_cases h : handle = dst
  · subst h
    rw [Function.update_self, Block.size_write]
  · rw [Function.update_of_ne h]

/-- A transition changes the layout of an image and nothing else of the world. -/
theorem exists_transitionRecipe (world : World) (image : Image) (layout : ImageLayout) :
    ∃ layouts, (transitionRecipe world image layout).2 = { world with layouts := layouts } := by
  by_cases h : Vulkan.convertLayout layout = .undefined
  · exact ⟨world.layouts, by simp only [transitionRecipe, h, ne_eq, not_true_eq_false, if_false]⟩
  · exact ⟨_, by simp only [transitionRecipe, h, ne_eq, not_false_eq_true, if_true]; rfl⟩

/-- A copy from a buffer to an image changes layouts and nothing else of the world. -/
theorem exists_copyBufferToImageRecipe (world : World) (src : BufferHandle) (dst : Image)
    (dstOffset : Nat) : ∃ layouts,
      (copyBufferToImageRecipe world src dst dstOffset).2 = { world with layouts := layouts } := by
  obtain ⟨layouts, hto⟩ := exists_transitionRecipe world dst .transferDst
  obtain ⟨layouts', hback⟩ := exists_transitionRecipe
    (transitionRecipe world dst .transferDst).2 dst (world.imageLayout dst)
  exact ⟨layouts', by rw [copyBufferToImageRecipe, hback, hto]⟩

/-- An upload to a staging buffer leaves a ready pool ready. -/
theorem Ready.copyToDevice (h : world.Ready) (staging : StagingBuffer) (src : List UInt8)
    (byteAmt srcOffset : Nat) : (world.copyToDevice staging src byteAmt srcOffset).Ready :=
  h.congr rfl rfl fun _ => size_update_write ..

/-- A download, which locks its buffer and unlocks it when it reads it back, leaves a ready pool
ready. -/
theorem Ready.readBack (h : world.Ready) (device : Option Nat) (staging : StagingBuffer)
    (dst byteSize : Nat) :
    (readBackRecipe device (world.setLocked staging.id true) staging dst byteSize).2.Ready := by
  refine h.of_map (f := fun entry =>
    let bytes := (world.memory (.staging staging.id)).read 0 staging.byteSize
    if entry.id = staging.id then { entry with locked := false, hostData := bytes } else entry)
    ?_ ?_ rfl fun _ => rfl
  · intro entry hmem
    by_cases hid : entry.id = staging.id
    · simp only [hid, if_true, and_self]
    · simp only [hid, if_false, h.free entry hmem, and_self]
  · -- lock, read back and unlock are three passes over the pool, and one together
    show List.map _ (List.map _ (List.map _ world.staging)) = _
    rw [List.map_map, List.map_map]
    refine List.map_congr_left fun entry _ => ?_
    by_cases hid : entry.id = staging.id <;> simp [hid, setLocked]

/-- **Recording operations keep the pool ready**, whatever operation it is, if it returns. -/
theorem Ready.recipe (h : world.Ready) {pass : Option PassId} {op : RecordingOp}
    {recipe : List Move × World} (hrecipe : op.recipe env pass device world = .ok recipe) :
    recipe.2.Ready := by
  have hprimed : (world.primed env device).Ready := h.primed
  obtain ⟨head, rest, -, hfind⟩ := h.findStaging env device
  cases op with
  | transition image layout =>
      cases hrecipe
      obtain ⟨layouts, hworld⟩ := exists_transitionRecipe world image layout
      rw [hworld]
      exact h.congr rfl rfl fun _ => rfl
  | copyBufferToImage src dst dstOffset =>
      cases hrecipe
      obtain ⟨layouts, hworld⟩ := exists_copyBufferToImageRecipe world src.handle dst dstOffset
      rw [hworld]
      exact h.congr rfl rfl fun _ => rfl
  | upload src dst copyAmt elementSize srcOffset dstOffset =>
      rw [RecordingOp.recipe, hfind] at hrecipe
      cases hrecipe
      -- the bytes go to the locked buffer; locking and unlocking it leaves the pool as it was
      have hwritten := hprimed.copyToDevice { head with locked := true } src
        (copyAmt * elementSize % 2 ^ 32) srcOffset
      exact hwritten.setLocked_setLocked head.id ▸ hwritten
  | uploadImage src dst =>
      rw [RecordingOp.recipe, hfind] at hrecipe
      cases hrecipe
      have hwritten := hprimed.copyToDevice { head with locked := true } src dst.byteSize 0
      obtain ⟨layouts, hworld⟩ := exists_copyBufferToImageRecipe
        (((world.primed env device).setLocked head.id true).copyToDevice
          { head with locked := true } src dst.byteSize 0)
        ({ head with locked := true } : StagingBuffer).handle dst 0
      dsimp only
      rw [hworld]
      have hlayouts : ({ (world.primed env device).copyToDevice { head with locked := true } src
          dst.byteSize 0 with layouts := layouts } : World).Ready :=
        hwritten.congr rfl rfl fun _ => rfl
      exact hlayouts.setLocked_setLocked head.id ▸ hlayouts
  | download src dst copyAmt elementSize srcOffset dstOffset =>
      obtain ⟨found, staging, hfound, -, rfl⟩ := exists_of_recipe_download hrecipe
      cases hfind.symm.trans hfound
      exact hprimed.readBack (some src.device) { head with locked := true } dst _
  | downloadImage src dst =>
      obtain ⟨found, staging, hfound, -, rfl⟩ := exists_of_recipe_downloadImage hrecipe
      cases hfind.symm.trans hfound
      exact hprimed.readBack none { head with locked := true } dst _
  | copyImage | copyBuffer | copyImageToBuffer | memoryBarrier | memoryBarrierImage
  | pipelineBarrier | push | draw | drawIndexed | drawInstancedIndexed | drawInstanced =>
      cases hrecipe
      exact h

end World

/-- Commands on the GPU change the bytes of buffers, and no size of one. -/
theorem Environment.size_executeCommands (env : Environment) (commands : List Command)
    (memory : DeviceMemory) (handle : BufferHandle) :
    (executeCommands env.effect commands memory handle).size = (memory handle).size := by
  induction commands generalizing memory with
  | nil => rfl
  | cons command commands ih =>
      refine (ih _).trans ?_
      cases command with
      | copyBuffer src dst region => exact World.size_update_write ..
      | _ => exact env.size_effect ..

namespace CommandList

variable {env : Environment} {list list' : CommandList} {op : ListOp} {ops : List ListOp}

/-- An operation of a chain that returns keeps the pool ready. -/
theorem ready_step (h : list.world.Ready) (hstep : list.step env op = .ok list') :
    list'.world.Ready := by
  cases op with
  | begin | stop | synchronize =>
      cases hstep
      exact h
  | submit =>
      cases hstep
      rw [submit]
      split
      · refine h.congr ?_ ?_ ?_ <;> cases list.pass
        · rfl
        · rfl
        · rfl
        · rfl
        · exact env.size_executeCommands _ _
        · exact env.size_executeCommands _ _
      · exact h
  | recording op =>
      obtain ⟨recipe, hrecipe, rfl⟩ := exists_of_map_eq_ok hstep
      exact h.recipe hrecipe

/-- **Every run keeps the pool ready**, whatever operations it is made of. -/
theorem ready_run (h : list.world.Ready) (hrun : runSteps (step env) list ops = .ok list') :
    list'.world.Ready :=
  runSteps_preserves (fun list => list.world.Ready)
    (fun _ _ _ hs _ hstep => ready_step hs hstep) h
    (stepsMeet_of_forall_mem fun _ _ => trivial) hrun

end CommandList

/-- A new chain in a world with an empty pool, where every buffer has eight bytes of one value. -/
def Session.newWithArrays (value : UInt8) : Session :=
  { newGraphics with world := { World.start with memory := fun _ => ⟨8, fun _ => value⟩ } }

end Nyx
