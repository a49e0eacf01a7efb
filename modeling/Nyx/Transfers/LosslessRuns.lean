import Nyx.Recording.Scripts
import Nyx.Transfers.ReadyPools

/-! # Runs that lose no list

A list that is ended and begun again before the submit is gone: its commands were recorded and never
execute. To say what an array holds after *all* recorded commands have executed, this file runs the
same operations on a machine that loses nothing.

* **`CommandList.submitAll`**, **`CommandList.stepAll`** — the machine of a command list, except
  that a submission executes every command recorded since the submission before.
* **`World.Alike`** — two worlds that differ in the bytes of their buffers only.
* **`CommandList.exists_runAll`** — every run is beside a run that loses nothing: it records the
  same tape in an alike world.
* **`CommandList.runAll_eq`** — without an explicit end and without a render pass no list is ever
  lost, and the two runs are the same. -/

namespace Nyx

open Foundations

namespace CommandList

/-- A submit that executes every command recorded since the submission before, those of lost lists
included. Everything else is as in `CommandList.submit`. -/
def submitAll (env : Environment) (list : CommandList) : CommandList :=
  let stopped := list.tape.stop
  if stopped.Ready then
    let memory := executeCommands env.effect stopped.ledger.issued list.world.memory
    { list with
      tape := stopped.deliver
      world := { list.world with memory := memory }.advancePass list.pass }
  else { list with tape := stopped }

/-- One operation of the machine that loses no list, which differs in the submit only. -/
def stepAll (env : Environment) (list : CommandList) : ListOp → Except ChainFailure CommandList
  | .submit => .ok (list.submitAll env)
  | op => list.step env op

end CommandList

/-! ## Alike worlds -/

/-- A staging buffer without what its host block holds. -/
def StagingBuffer.blank (staging : StagingBuffer) : StagingBuffer := { staging with hostData := [] }

namespace World

/-- **Alike.** The two worlds differ at most in the bytes of their buffers, in what the host blocks
of the staging buffers hold, and in the host memory that downloads wrote to. -/
structure Alike (world world' : World) : Prop where
  passes : world'.passes = world.passes
  layouts : world'.layouts = world.layouts
  staging : world'.staging.map StagingBuffer.blank = world.staging.map StagingBuffer.blank
  nextId : world'.nextId = world.nextId
  size : ∀ handle, (world'.memory handle).size = (world.memory handle).size

variable {world world' found : World} {staging : StagingBuffer}

/-- Every world is alike itself, in all that is compared. -/
theorem Alike.refl (world : World) : world.Alike world := ⟨rfl, rfl, rfl, rfl, fun _ => rfl⟩

/-- An image is in the same layout in two alike worlds. -/
theorem Alike.imageLayout (h : world.Alike world') (image : Image) :
    world'.imageLayout image = world.imageLayout image := by
  rw [World.imageLayout, World.imageLayout, h.layouts]

/-- The pools of two alike worlds are both empty, or neither is. -/
theorem Alike.staging_eq_nil_iff (h : world.Alike world') :
    world'.staging = [] ↔ world.staging = [] := by
  rw [← List.map_eq_nil_iff (f := StagingBuffer.blank), h.staging, List.map_eq_nil_iff]

/-- The pools of two alike worlds have the same number of buffers. -/
theorem Alike.length_staging (h : world.Alike world') :
    world'.staging.length = world.staging.length := by
  rw [← List.length_map (f := StagingBuffer.blank), h.staging, List.length_map]

/-- A change of the staging buffers that does the same to alike ones keeps the worlds alike. -/
theorem Alike.map (h : world.Alike world') {f f' g : StagingBuffer → StagingBuffer}
    (hf : ∀ staging, (f staging).blank = g staging.blank)
    (hf' : ∀ staging, (f' staging).blank = g staging.blank) :
    { world with staging := world.staging.map f }.Alike
      { world' with staging := world'.staging.map f' } where
  passes := h.passes
  layouts := h.layouts
  staging := by
    have hmap : ∀ {f : StagingBuffer → StagingBuffer} (pool : List StagingBuffer),
        (∀ staging, (f staging).blank = g staging.blank) →
          (pool.map f).map StagingBuffer.blank = (pool.map StagingBuffer.blank).map g := by
      intro f pool hf
      rw [List.map_map, List.map_map]
      exact List.map_congr_left fun staging _ => hf staging
    rw [hmap _ hf, hmap _ hf', h.staging]
  nextId := h.nextId
  size := h.size

/-- To lock or unlock a buffer in two worlds keeps them alike. -/
theorem Alike.setLocked (h : world.Alike world') (id : Nat) (locked : Bool) :
    (world.setLocked id locked).Alike (world'.setLocked id locked) := by
  let lock (staging : StagingBuffer) : StagingBuffer :=
    if staging.id = id then { staging with locked := locked } else staging
  have hblank : ∀ staging, (lock staging).blank = lock staging.blank := by
    intro staging
    by_cases hid : staging.id = id
    · simp only [lock, StagingBuffer.blank, hid, if_true]
    · simp only [lock, StagingBuffer.blank, hid, if_false]
  exact h.map hblank hblank

/-- Inserting a staging buffer inserts the same one into both worlds, and keeps them alike. -/
theorem Alike.insertStaging (h : world.Alike world') (env : Environment) (device : Option Nat)
    (locked : Bool) :
    (world.insertStaging env device locked).1.Alike (world'.insertStaging env device locked).1 ∧
      (world'.insertStaging env device locked).2 = (world.insertStaging env device locked).2 := by
  have hsame : (world'.insertStaging env device locked).2
      = (world.insertStaging env device locked).2 := by
    simp only [World.insertStaging, h.nextId]
  refine ⟨⟨h.passes, h.layouts, ?_, congrArg (· + 1) h.nextId, fun handle => ?_⟩, hsame⟩
  · show (world'.staging ++ [(world'.insertStaging env device locked).2]).map _ = _
    rw [hsame, List.map_append, h.staging, ← List.map_append]
    rfl
  · simp only [World.insertStaging, h.nextId]
    by_cases hnew : handle = .staging world.nextId
    · rw [hnew, Function.update_self, Function.update_self]
    · rw [Function.update_of_ne hnew, Function.update_of_ne hnew, h.size]

/-- The pools that `findStaging` looks at in two alike worlds keep the worlds alike. -/
theorem Alike.primed (h : world.Alike world') (env : Environment) (device : Option Nat) :
    (world.primed env device).Alike (world'.primed env device) := by
  rw [World.primed, World.primed]
  by_cases hempty : world.staging = []
  · rw [if_pos hempty, if_pos (h.staging_eq_nil_iff.mpr hempty)]
    exact (h.insertStaging env device false).1
  · rw [if_neg hempty, if_neg (mt h.staging_eq_nil_iff.mp hempty)]
    exact h

/-- The first buffer that is not locked is the same one in the pools of two alike worlds, up to its
host block. -/
theorem Alike.find?_unlocked (h : world.Alike world') :
    (world'.staging.find? fun staging => !staging.locked).map StagingBuffer.blank
      = (world.staging.find? fun staging => !staging.locked).map StagingBuffer.blank := by
  -- whether a buffer is locked can be told without its host block
  have hblank : ∀ pool : List StagingBuffer,
      (pool.find? fun staging => !staging.locked).map StagingBuffer.blank
        = (pool.map StagingBuffer.blank).find? fun staging => !staging.locked := by
    intro pool
    rw [List.find?_map]
    rfl
  rw [hblank, hblank, h.staging]

/-- **`findStaging` hands out the same buffer in alike worlds**, with the same id and size. -/
theorem Alike.findStaging (h : world.Alike world') {env : Environment} {device : Option Nat}
    (hfind : world.findStaging env device = some (found, staging)) :
    ∃ found' staging', world'.findStaging env device = some (found', staging') ∧
      found.Alike found' ∧ staging'.id = staging.id ∧ staging'.byteSize = staging.byteSize := by
  have hpools := h.primed env device
  have hsearch := hpools.find?_unlocked
  rw [World.findStaging, ← World.primed] at hfind ⊢
  generalize world.primed env device = pool at hfind hpools hsearch
  generalize world'.primed env device = pool' at hpools hsearch
  cases hfirst : pool.staging.find? fun staging => !staging.locked with
  | some head =>
      rw [hfirst, Option.map_some, Option.map_eq_some_iff] at hsearch
      obtain ⟨head', hfirst', hhead⟩ := hsearch
      have hid : head'.blank.id = head.blank.id := by rw [hhead]
      have hsize : head'.blank.byteSize = head.blank.byteSize := by rw [hhead]
      simp only [hfirst] at hfind
      cases hfind
      refine ⟨pool'.setLocked head'.id true, { head' with locked := true }, ?_, ?_, hid, hsize⟩
      · simp only [hfirst']
      · rw [show head'.id = head.id from hid]
        exact hpools.setLocked head.id true
  | none =>
      rw [hfirst, Option.map_none, Option.map_eq_none_iff] at hsearch
      simp only [hfirst] at hfind
      simp only [hsearch, hpools.length_staging]
      split at hfind
      · cases hfind
        obtain ⟨hinsert, hsame⟩ := hpools.insertStaging env device true
        rw [if_pos ‹_›]
        exact ⟨_, _, rfl, hinsert, congrArg _ hsame, congrArg _ hsame⟩
      · cases hfind

/-- To lay out an image in two worlds keeps them alike. -/
theorem Alike.setLayout (h : world.Alike world') (image : Image) (layout : ImageLayout) :
    (world.setLayout image layout).Alike (world'.setLayout image layout) :=
  ⟨h.passes, by simp only [World.setLayout, h.layouts], h.staging, h.nextId, h.size⟩

/-- To advance the render pass in two worlds keeps them alike. -/
theorem Alike.advancePass (h : world.Alike world') (pass : Option PassId) :
    (world.advancePass pass).Alike (world'.advancePass pass) := by
  cases pass with
  | none => exact h
  | some pass =>
      exact ⟨by simp only [World.advancePass, h.passes], h.layouts, h.staging, h.nextId, h.size⟩

/-- What the GPU or the host writes to buffers of fixed sizes keeps the worlds alike. -/
theorem Alike.of_size (h : world.Alike world') {memory memory' : DeviceMemory}
    (hmemory : ∀ handle, (memory handle).size = (world.memory handle).size)
    (hmemory' : ∀ handle, (memory' handle).size = (world'.memory handle).size) :
    { world with memory := memory }.Alike { world' with memory := memory' } :=
  ⟨h.passes, h.layouts, h.staging, h.nextId, fun handle =>
    (hmemory' handle).trans ((h.size handle).trans (hmemory handle).symm)⟩

/-- An upload to a staging buffer in two worlds keeps them alike, also when the buffers hold
different bytes. -/
theorem Alike.copyToDevice (h : world.Alike world') (staging staging' : StagingBuffer)
    (src : List UInt8) (byteAmt srcOffset : Nat) :
    (world.copyToDevice staging src byteAmt srcOffset).Alike
      (world'.copyToDevice staging' src byteAmt srcOffset) :=
  h.of_size (fun _ => size_update_write ..) fun _ => size_update_write ..

/-- Reading a staging buffer back changes what its host block holds, and keeps the worlds alike. -/
theorem Alike.syncToHost (h : world.Alike world') {staging staging' : StagingBuffer}
    (hstaging : staging'.id = staging.id) :
    (world.syncToHost staging).1.Alike (world'.syncToHost staging').1 := by
  have hblank : ∀ (bytes : List UInt8) (entry : StagingBuffer),
      (if entry.id = staging.id then { entry with hostData := bytes } else entry).blank
        = id entry.blank := by
    intro bytes entry
    by_cases hid : entry.id = staging.id
    · rw [if_pos hid]
      rfl
    · rw [if_neg hid]
      rfl
  rw [World.syncToHost, World.syncToHost, hstaging]
  exact h.map (hblank _) (hblank _)

/-- What is written to a host pointer is not compared, so that two worlds stay alike whatever it
is. -/
theorem Alike.writeHost (h : world.Alike world') (dst : Nat) (bytes bytes' : List UInt8) :
    (world.writeHost dst bytes).Alike (world'.writeHost dst bytes') :=
  ⟨h.passes, h.layouts, h.staging, h.nextId, h.size⟩

/-- The end of a download in two worlds keeps them alike, though it may read different bytes
back. -/
theorem Alike.readBack (h : world.Alike world') {staging staging' : StagingBuffer}
    (hstaging : staging'.id = staging.id) (device : Option Nat) (dst byteSize : Nat) :
    (readBackRecipe device world staging dst byteSize).2.Alike
      (readBackRecipe device world' staging' dst byteSize).2 := by
  have hwritten := (h.syncToHost hstaging).writeHost dst
    ((world.syncToHost staging).2.take byteSize) ((world'.syncToHost staging').2.take byteSize)
  have hunlocked := hwritten.setLocked staging.id false
  rw [readBackRecipe, readBackRecipe, hstaging]
  exact hunlocked

/-! ## Recording in alike worlds -/

/-- A transition makes the same moves in alike worlds, and keeps them alike. -/
theorem Alike.transitionRecipe (h : world.Alike world') (image : Image) (layout : ImageLayout) :
    (transitionRecipe world' image layout).1 = (transitionRecipe world image layout).1 ∧
      (transitionRecipe world image layout).2.Alike (transitionRecipe world' image layout).2 := by
  by_cases hlayout : Vulkan.convertLayout layout = .undefined
  · simp only [Nyx.transitionRecipe, hlayout, h.imageLayout, ne_eq, not_true_eq_false, if_false]
    exact ⟨trivial, h⟩
  · simp only [Nyx.transitionRecipe, hlayout, h.imageLayout, ne_eq, not_false_eq_true, if_true]
    exact ⟨trivial, h.setLayout image _⟩

/-- A copy from a buffer to an image makes the same moves in two alike worlds, and keeps them
alike. -/
theorem Alike.copyBufferToImageRecipe (h : world.Alike world') (src : BufferHandle) (dst : Image)
    (dstOffset : Nat) :
    (copyBufferToImageRecipe world' src dst dstOffset).1
        = (copyBufferToImageRecipe world src dst dstOffset).1 ∧
      (copyBufferToImageRecipe world src dst dstOffset).2.Alike
        (copyBufferToImageRecipe world' src dst dstOffset).2 := by
  obtain ⟨hto, hcopied⟩ := h.transitionRecipe dst .transferDst
  obtain ⟨hback, hdone⟩ := hcopied.transitionRecipe dst (world.imageLayout dst)
  rw [Nyx.copyBufferToImageRecipe, Nyx.copyBufferToImageRecipe, h.imageLayout, hto, hback]
  exact ⟨rfl, hdone⟩

/-- **A recording operation makes the same moves in alike worlds, and keeps them alike**: the
commands it appends do not depend on what buffers hold. -/
theorem Alike.recipe (h : world.Alike world') {env : Environment} {pass : Option PassId}
    {device : Option Nat} {op : RecordingOp} {recipe : List Move × World}
    (hrecipe : op.recipe env pass device world = .ok recipe) :
    ∃ recipe', op.recipe env pass device world' = .ok recipe' ∧ recipe'.1 = recipe.1 ∧
      recipe.2.Alike recipe'.2 := by
  cases op with
  | transition image layout =>
      cases hrecipe
      exact ⟨_, rfl, h.transitionRecipe image layout⟩
  | copyBufferToImage src dst dstOffset =>
      cases hrecipe
      exact ⟨_, rfl, h.copyBufferToImageRecipe src.handle dst dstOffset⟩
  | copyImage src dst srcOffset dstOffset =>
      cases hrecipe
      exact ⟨_, rfl, by simp only [h.imageLayout], h⟩
  | upload src dst copyAmt elementSize srcOffset dstOffset =>
      rw [RecordingOp.recipe] at hrecipe
      cases hfind : world.findStaging env device <;> rw [hfind] at hrecipe <;> cases hrecipe
      obtain ⟨found', staging', hfind', hfound, hid, -⟩ := h.findStaging hfind
      rw [RecordingOp.recipe, hfind']
      simp only [StagingBuffer.handle, hid]
      exact ⟨_, rfl, rfl, (hfound.copyToDevice ..).setLocked ..⟩
  | uploadImage src dst =>
      rw [RecordingOp.recipe] at hrecipe
      cases hfind : world.findStaging env device <;> rw [hfind] at hrecipe <;> cases hrecipe
      obtain ⟨found', staging', hfind', hfound, hid, -⟩ := h.findStaging hfind
      rw [RecordingOp.recipe, hfind']
      simp only [StagingBuffer.handle, hid]
      obtain ⟨hmoves, hcopied⟩ :=
        (hfound.copyToDevice _ staging' src dst.byteSize 0).copyBufferToImageRecipe _ dst 0
      exact ⟨_, rfl, hmoves, hcopied.setLocked ..⟩
  | download src dst copyAmt elementSize srcOffset dstOffset =>
      obtain ⟨found, staging, hfind, hfits, rfl⟩ := exists_of_recipe_download hrecipe
      obtain ⟨found', staging', hfind', hfound, hid, hsize⟩ := h.findStaging hfind
      have hback := hfound.readBack hid (some src.device) dst (copyAmt * elementSize % 2 ^ 32)
      rw [RecordingOp.recipe, hfind']
      simp only [hsize, if_neg (Nat.not_lt.mpr hfits)]
      exact ⟨_, rfl, by rw [StagingBuffer.handle, hid]; rfl, hback⟩
  | downloadImage src dst =>
      obtain ⟨found, staging, hfind, hfits, rfl⟩ := exists_of_recipe_downloadImage hrecipe
      obtain ⟨found', staging', hfind', hfound, hid, hsize⟩ := h.findStaging hfind
      have hback := hfound.readBack hid none dst src.byteSize
      rw [RecordingOp.recipe, hfind']
      simp only [hsize, if_neg (Nat.not_lt.mpr hfits)]
      exact ⟨_, rfl, by rw [StagingBuffer.handle, hid]; rfl, hback⟩
  | copyBuffer | copyImageToBuffer | memoryBarrier | memoryBarrierImage | pipelineBarrier | push
  | draw | drawIndexed | drawInstancedIndexed | drawInstanced =>
      cases hrecipe
      exact ⟨_, rfl, rfl, h⟩

end World

/-! ## Running without losing a list -/

namespace CommandList

/-- Two command lists with the same tape, in alike worlds. -/
structure Alike (list list' : CommandList) : Prop where
  pass : list'.pass = list.pass
  device : list'.device = list.device
  contents : list'.contents = list.contents
  tape : list'.tape = list.tape
  world : list.world.Alike list'.world

variable {env : Environment} {list list' all : CommandList} {op : ListOp} {ops : List ListOp}

/-- Every command list is alike itself, in its own world. -/
theorem Alike.refl (list : CommandList) : list.Alike list := ⟨rfl, rfl, rfl, rfl, .refl _⟩

/-- Recordings of two alike lists begin with the same commands. -/
theorem Alike.opening (h : list.Alike all) : all.opening = list.opening :=
  opening_congr h.pass h.contents h.world.passes

/-- A submit keeps the lists alike, whether or not commands that were lost are executed. -/
theorem Alike.submitAll (h : list.Alike all) (env : Environment) :
    (list.submit env).Alike (all.submitAll env) := by
  rw [submit, CommandList.submitAll, h.tape, h.pass]
  by_cases hready : list.tape.stop.Ready
  · rw [if_pos hready, if_pos hready]
    -- what is executed changes bytes, not sizes
    have hexecuted := h.world.of_size
      (env.size_executeCommands list.tape.stop.commands list.world.memory)
      (env.size_executeCommands list.tape.stop.ledger.issued all.world.memory)
    exact ⟨rfl, h.device, h.contents, rfl, hexecuted.advancePass list.pass⟩
  · rw [if_neg hready, if_neg hready]
    exact ⟨rfl, h.device, h.contents, rfl, h.world⟩

/-- **Every operation can be made without losing a list**, and keeps the lists alike. -/
theorem Alike.stepAll (h : list.Alike all) (hstep : list.step env op = .ok list') :
    ∃ all', all.stepAll env op = .ok all' ∧ list'.Alike all' := by
  cases op with
  | begin =>
      cases hstep
      exact ⟨_, rfl, h.pass, h.device, h.contents, by rw [h.tape, h.opening, h.pass], h.world⟩
  | stop =>
      cases hstep
      exact ⟨_, rfl, h.pass, h.device, h.contents, by rw [h.tape], h.world⟩
  | submit =>
      cases hstep
      exact ⟨_, rfl, h.submitAll env⟩
  | synchronize =>
      cases hstep
      exact ⟨_, rfl, h⟩
  | recording op =>
      obtain ⟨recipe, hrecipe, rfl⟩ := exists_of_map_eq_ok hstep
      obtain ⟨recipe', hrecipe', hmoves, hworld⟩ := h.world.recipe hrecipe
      refine ⟨all.follow recipe', ?_, h.pass, h.device, h.contents, ?_, hworld⟩
      · show (op.recipe env all.pass all.device all.world).map all.follow = _
        rw [h.pass, h.device, hrecipe']
        rfl
      · show all.tape.moves all.opening recipe'.1 = list.tape.moves list.opening recipe.1
        rw [h.tape, h.opening, hmoves]

/-- **Beside every run is one that loses no list**: the same operations, with the same tape at the
end, in a world that differs from that of the run in bytes only. -/
theorem exists_runAll (hrun : runSteps (step env) list ops = .ok list') :
    ∃ all, runSteps (stepAll env) list ops = .ok all ∧ list'.Alike all :=
  exists_runSteps Alike (fun _ _ _ _ h hstep => h.stepAll hstep) (.refl list) hrun

end CommandList

/-! ## Runs that lose nothing anyway -/

namespace Tape

/-- **Whole.** What a submit would hand over is everything that was recorded since the submit
before, no render pass is open, a list to which commands were appended is still being recorded, and
one that is not being recorded, or to which nothing was appended, is empty. -/
structure Whole (tape : Tape) : Prop where
  issued : tape.ledger.issued = tape.commands
  closed : tape.inPass = false
  dirty : tape.dirty = true → tape.recording = true
  idle : tape.recording = false → tape.commands = []
  clean : tape.dirty = false → tape.commands = []

variable {tape : Tape}

/-- The end of a recording with no render pass open appends nothing. -/
theorem Whole.closing (h : tape.Whole) : tape.closing = [] := by
  rw [Tape.closing, h.closed]
  rfl

/-- To begin a list with nothing in it keeps it whole. -/
theorem Whole.record (h : tape.Whole) : (tape.record []).Whole := by
  by_cases hrec : tape.recording = true
  · rw [Tape.record, if_pos hrec]
    exact h
  · have hempty := h.idle (Bool.eq_false_iff.mpr hrec)
    rw [Tape.record, if_neg hrec]
    refine ⟨?_, rfl, fun _ => rfl, fun _ => rfl, fun _ => rfl⟩
    show tape.ledger.issued ++ [] = []
    rw [h.issued, hempty]
    rfl

/-- Appending commands to a list that is being recorded keeps it whole. -/
theorem Whole.emit (h : tape.Whole) (hrec : tape.recording = true) (commands : List Command) :
    (tape.emit commands).Whole := by
  refine ⟨?_, h.closed, fun _ => hrec, fun hidle => ?_, fun hclean => ?_⟩
  · show tape.ledger.issued ++ commands = tape.commands ++ commands
    rw [h.issued]
  · cases hrec.symm.trans hidle
  · cases hclean

/-- To set `has_record` on a whole list keeps it whole. -/
theorem Whole.markRecord (h : tape.Whole) : ({ tape with hasRecord := true } : Tape).Whole :=
  ⟨h.issued, h.closed, h.dirty, h.idle, h.clean⟩

/-- The moves of an operation keep the list whole when no recording begins with a render pass. -/
theorem Whole.moves (h : tape.Whole) {opening : Bool → List Command}
    (hopening : ∀ useRenderPass, opening useRenderPass = []) {moves : List Move} {recorded : Bool}
    (hmoves : Recorded recorded moves) (hrec : recorded = true → tape.recording = true) :
    (tape.moves opening moves).Whole := by
  induction moves generalizing tape recorded with
  | nil => exact h
  | cons move moves ih =>
      cases move with
      | storeImageBarrier | storeBufferBarrier | synchronize => exact ih h hmoves hrec
      | markRecord => exact ih h.markRecord hmoves hrec
      | record useRenderPass =>
          have hbegun : (tape.move opening (.record useRenderPass)).Whole := by
            rw [Tape.move, hopening]
            exact h.record
          exact ih hbegun (show Recorded true moves from hmoves) fun _ => recording_record ..
      | each bound commands => exact ih (h.emit (hrec hmoves.1) commands) hmoves.2 hrec

/-- When the list is ended, a submit would still hand over everything that was recorded. -/
theorem Whole.issued_stop (h : tape.Whole) : tape.stop.ledger.issued = tape.stop.commands := by
  rw [stop]
  split
  · simp only [Ledger.issue, h.closing, List.append_nil, h.issued]
    cases hdirty : tape.dirty with
    | true => rfl
    | false => exact h.clean hdirty
  · exact h.issued

/-- A submit of a whole list, which hands over all of it or nothing, keeps it whole. -/
theorem Whole.submit (h : tape.Whole) : tape.stop.deliver.Whole := by
  cases hdirty : tape.dirty with
  | true =>
      rw [submit_of_dirty (h.dirty hdirty) hdirty]
      exact ⟨rfl, rfl, fun hfalse => absurd hfalse Bool.false_ne_true, fun _ => rfl, fun _ => rfl⟩
  | false =>
      cases hrec : tape.recording with
      | true =>
          rw [submit_of_clean hrec hdirty]
          refine ⟨?_, rfl, fun htrue => ?_, fun _ => rfl, fun _ => rfl⟩
          · show tape.ledger.issued ++ tape.closing = []
            rw [h.closing, h.issued, h.clean hdirty]
            rfl
          · cases hdirty.symm.trans htrue
      | false =>
          rw [submit_of_idle hrec hdirty]
          exact h

end Tape

/-- The list of a chain that is fresh is whole, for it is empty. -/
theorem ChainData.Fresh.whole {data : ChainData} (h : data.Fresh) : data.tape.Whole := by
  rw [h.tape_eq]
  exact ⟨rfl, rfl, fun hfalse => absurd hfalse Bool.false_ne_true, fun _ => rfl, fun _ => rfl⟩

namespace CommandList

variable {env : Environment} {list list' : CommandList} {op : ListOp} {ops : List ListOp}

/-- A recording of a chain without a render pass begins with nothing. -/
theorem opening_of_pass_none (h : list.pass = none) (useRenderPass : Bool) :
    list.opening useRenderPass = [] := by
  unfold opening
  rw [h]

/-- An operation other than `end` keeps the list of a chain without a render pass whole. -/
theorem whole_step (h : list.pass = none ∧ list.tape.Whole) (hop : op ≠ .stop)
    (hstep : list.step env op = .ok list') : list'.pass = none ∧ list'.tape.Whole := by
  have hopening := opening_of_pass_none h.1
  cases op with
  | begin =>
      cases hstep
      refine ⟨h.1, ?_⟩
      rw [hopening]
      exact h.2.record
  | stop => exact absurd rfl hop
  | submit =>
      cases hstep
      refine ⟨?_, ?_⟩
      · rw [submit]
        split <;> exact h.1
      · rw [tape_submit]
        exact h.2.submit
  | synchronize =>
      cases hstep
      exact h
  | recording op =>
      obtain ⟨recipe, hrecipe, rfl⟩ := exists_of_map_eq_ok hstep
      exact ⟨h.1, h.2.moves hopening (RecordingOp.recorded hrecipe)
        fun hfalse => absurd hfalse Bool.false_ne_true⟩

/-- On a whole list the machine that loses no list makes the step that the chain makes. -/
theorem stepAll_eq_step (h : list.tape.Whole) (op : ListOp) :
    list.stepAll env op = list.step env op := by
  cases op with
  | submit =>
      show Except.ok (list.submitAll env) = .ok (list.submit env)
      rw [submitAll, submit, h.issued_stop]
  | begin | stop | synchronize | recording => rfl

/-- **Nothing is lost without an explicit `end`.** On a whole list of a chain without a render pass,
operations other than `end` run on both machines alike, in their failures as well. -/
theorem runAll_eq (hpass : list.pass = none) (h : list.tape.Whole) (hops : ∀ op ∈ ops, op ≠ .stop) :
    runSteps (stepAll env) list ops = runSteps (step env) list ops := by
  induction ops generalizing list with
  | nil => rfl
  | cons op ops ih =>
      have hsame : list.stepAll env op = list.step env op := stepAll_eq_step h op
      cases hstep : list.step env op with
      | error failure =>
          rw [runSteps_cons_of_error hstep, runSteps_cons_of_error (hsame.trans hstep)]
      | ok next =>
          obtain ⟨hnone, hwhole⟩ := whole_step ⟨hpass, h⟩ (hops op List.mem_cons_self) hstep
          rw [runSteps_cons_of_ok hstep, runSteps_cons_of_ok (hsame.trans hstep)]
          exact ih hnone hwhole fun op hmem => hops op (List.mem_cons_of_mem _ hmem)

end CommandList

end Nyx
