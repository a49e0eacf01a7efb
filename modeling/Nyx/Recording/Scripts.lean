import Nyx.Recording.SequentialChains

/-! # Scripts

What a sequence of recording operations adds up to on the tape of a sequential chain: the first of
them begins the list, if it is not being recorded, and all of them append commands to it.

* **`emitted`**, **`firstRecord`** — the commands that moves append, and how the first `record`
  among them begins the list.
* **`Tape.Extends`**, **`Tape.moves_extends`** — a tape after the moves of recording operations.
* **`RecordingOp.script`** — the moves of a sequence of operations, and the world after it.
* **`CommandList.run_recordings`** — a run over recording operations follows their script.
* **`Tape.Ended`**, **`Tape.cut_of_idle`** — what a list holds that was recorded and ended. -/

namespace Nyx

open Foundations

/-! ## What moves add up to -/

/-- The commands that a move appends, if it appends some. -/
def Move.emitted : Move → List Command
  | .each _ commands => commands
  | .storeImageBarrier _ | .storeBufferBarrier _ | .record _ | .markRecord
  | .synchronize _ => []

/-- The commands that a list of moves appends, in order. -/
def emitted (moves : List Move) : List Command := moves.flatMap Move.emitted

/-- Whether the first `record` of some moves uses the render pass, if there is one. -/
def firstRecord : List Move → Option Bool
  | [] => none
  | .record useRenderPass :: _ => some useRenderPass
  | .storeImageBarrier _ :: moves | .storeBufferBarrier _ :: moves | .markRecord :: moves
  | .each _ _ :: moves | .synchronize _ :: moves => firstRecord moves

/-- What is recorded by the moves is not empty, and opens no render pass. -/
def Plain (moves : List Move) : Prop :=
  ∀ bound commands, Move.each bound commands ∈ moves →
    commands ≠ [] ∧ ∀ command ∈ commands, command.opensPass = false

@[simp] theorem emitted_nil : emitted [] = [] := rfl

@[simp] theorem emitted_cons (move : Move) (moves : List Move) :
    emitted (move :: moves) = move.emitted ++ emitted moves := List.flatMap_cons

@[simp] theorem emitted_append (xs ys : List Move) :
    emitted (xs ++ ys) = emitted xs ++ emitted ys := List.flatMap_append

/-- The first `record` of two lists of moves is that of the first one, or else that of the
second. -/
theorem firstRecord_append (xs ys : List Move) :
    firstRecord (xs ++ ys) = (firstRecord xs).or (firstRecord ys) := by
  induction xs with
  | nil => rfl
  | cons move xs ih =>
      cases move with
      | record useRenderPass => rfl
      | each | markRecord | storeImageBarrier | storeBufferBarrier | synchronize => exact ih

theorem Plain.append {xs ys : List Move} (hxs : Plain xs) (hys : Plain ys) : Plain (xs ++ ys) := by
  intro bound commands hmem
  rcases List.mem_append.mp hmem with h | h
  · exact hxs bound commands h
  · exact hys bound commands h

/-- What comes after the first of plain moves is plain. -/
theorem Plain.tail {move : Move} {moves : List Move} (h : Plain (move :: moves)) : Plain moves :=
  fun bound commands hmem => h bound commands (List.mem_cons_of_mem _ hmem)

/-- No command that plain moves append opens a render pass. -/
theorem Plain.opensPass {moves : List Move} (h : Plain moves) :
    ∀ command ∈ emitted moves, command.opensPass = false := by
  intro command hmem
  obtain ⟨move, hmove, hcommand⟩ := List.mem_flatMap.mp hmem
  cases move with
  | each bound commands => exact (h bound commands hmove).2 command hcommand
  | record | markRecord | storeImageBarrier | storeBufferBarrier | synchronize => cases hcommand

namespace Tape

/-- A tape that goes on another one by some commands, with the same submissions so far. -/
structure Extends (tape' tape : Tape) (added : List Command) : Prop where
  recording : tape'.recording = tape.recording
  inPass : tape'.inPass = tape.inPass
  commands : tape'.commands = tape.commands ++ added
  dirty : tape'.dirty = (tape.dirty || !added.isEmpty)
  deliveries : tape'.ledger.deliveries = tape.ledger.deliveries

variable {tape tape' tape'' : Tape} {xs ys : List Command}

/-- A list is dirtied by what is appended, and it makes no difference whether this comes in one part
or in two. -/
theorem dirty_append (dirty : Bool) (xs ys : List Command) :
    (dirty || !(xs ++ ys).isEmpty) = (dirty || !xs.isEmpty || !ys.isEmpty) := by
  rw [Bool.or_assoc]
  cases xs <;> rfl

theorem Extends.refl (tape : Tape) : tape.Extends tape [] :=
  ⟨rfl, rfl, (List.append_nil _).symm, (Bool.or_false _).symm, rfl⟩

theorem Extends.trans (h : tape'.Extends tape xs) (h' : tape''.Extends tape' ys) :
    tape''.Extends tape (xs ++ ys) where
  recording := h'.recording.trans h.recording
  inPass := h'.inPass.trans h.inPass
  commands := by rw [h'.commands, h.commands, List.append_assoc]
  dirty := by rw [h'.dirty, h.dirty, dirty_append]
  deliveries := h'.deliveries.trans h.deliveries

/-- To append some commands goes on the tape by them. -/
theorem extends_emit (tape : Tape) (h : xs ≠ []) : (tape.emit xs).Extends tape xs where
  recording := rfl
  inPass := rfl
  commands := rfl
  dirty := by simp [emit, h]
  deliveries := rfl

/-- A move on a tape that is being recorded goes on it by what it emits. -/
theorem move_extends (opening : Bool → List Command) (move : Move) (hrec : tape.recording = true)
    (hne : ∀ bound commands, move = .each bound commands → commands ≠ []) :
    (tape.move opening move).Extends tape move.emitted := by
  cases move with
  | record useRenderPass =>
      rw [Tape.move, Tape.record, if_pos hrec]
      exact Extends.refl tape
  | each bound commands => exact extends_emit tape (hne bound commands rfl)
  | markRecord => exact ⟨rfl, rfl, (List.append_nil _).symm, (Bool.or_false _).symm, rfl⟩
  | storeImageBarrier | storeBufferBarrier | synchronize => exact Extends.refl tape

/-- Moves on a tape that is being recorded go on it by what they emit. -/
theorem moves_extends_of_recording (opening : Bool → List Command) {moves : List Move}
    (hplain : Plain moves) (hrec : tape.recording = true) :
    (tape.moves opening moves).Extends tape (emitted moves) := by
  induction moves generalizing tape with
  | nil => exact Extends.refl tape
  | cons move moves ih =>
      have hhead : (tape.move opening move).Extends tape move.emitted := by
        refine move_extends opening move hrec fun bound commands heach => ?_
        exact (hplain bound commands (by rw [heach]; exact List.mem_cons_self)).1
      have htail := ih hplain.tail (hhead.recording.trans hrec)
      rw [emitted_cons]
      exact hhead.trans htail

/-- **Moves on a tape.** Moves that record before they emit begin the tape, unless it is being
recorded, and go on it by what they emit. -/
theorem moves_extends {opening : Bool → List Command} {moves : List Move} {useRenderPass : Bool}
    (hplain : Plain moves) (hrecorded : Recorded false moves)
    (hfirst : firstRecord moves = some useRenderPass) :
    (tape.moves opening moves).Extends (tape.record (opening useRenderPass)) (emitted moves) := by
  induction moves generalizing tape with
  | nil => cases hfirst
  | cons move moves ih =>
      cases move with
      -- the first `record` begins the list; the moves after it find it being recorded
      | record use =>
          cases hfirst
          exact moves_extends_of_recording opening hplain.tail (recording_record ..)
      | each bound commands => exact absurd hrecorded.1 Bool.false_ne_true
      | storeImageBarrier | storeBufferBarrier | synchronize =>
          exact ih hplain.tail hrecorded hfirst
      | markRecord =>
          -- `has_record` is none of the fields that the tape goes on
          have hmark : (({ tape with hasRecord := true } : Tape).moves opening moves).Extends _ _ :=
            ih hplain.tail hrecorded hfirst
          refine Extends.trans ⟨?_, ?_, ?_, ?_, ?_⟩ hmark <;> unfold Tape.record <;> split <;>
            simp [Move.emitted]

end Tape

/-! ## Recording operations -/

/-- Whether an operation begins the chain with its render pass. -/
def RecordingOp.usesRenderPass (pass : Option PassId) : RecordingOp → Bool
  | .draw .. | .drawIndexed .. | .drawInstancedIndexed .. | .drawInstanced .. => true
  | .push .. => pass.isSome
  | .transition .. | .copyImage .. | .copyBuffer .. | .copyImageToBuffer .. | .copyBufferToImage ..
  | .upload .. | .uploadImage .. | .download .. | .downloadImage .. | .memoryBarrier ..
  | .memoryBarrierImage .. | .pipelineBarrier .. => false

/-- An operation that appends no command: a transition to the layout `Undefined`. -/
def RecordingOp.Silent : RecordingOp → Prop
  | .transition _ layout => layout = .undefined
  | _ => False

/-- The moves of some recording operations on a chain with render pass `pass`. -/
structure Stretch (pass : Option PassId) (ops : List RecordingOp) (moves : List Move) : Prop where
  recorded : Recorded false moves
  plain : Plain moves
  first : firstRecord moves = ops.head?.map (·.usesRenderPass pass)
  silent : emitted moves = [] ↔ ∀ op ∈ ops, op.Silent
  empty : ops = [] → moves = []

namespace Stretch

variable {pass : Option PassId} {xs ys : List RecordingOp} {moves moves' : List Move}

theorem nil : Stretch pass [] [] :=
  ⟨trivial, fun _ _ hmem => absurd hmem List.not_mem_nil, rfl,
    iff_of_true rfl fun _ hmem => absurd hmem List.not_mem_nil, fun _ => rfl⟩

theorem append (hxs : Stretch pass xs moves) (hys : Stretch pass ys moves') :
    Stretch pass (xs ++ ys) (moves ++ moves') where
  recorded := hxs.recorded.append hys.recorded
  plain := hxs.plain.append hys.plain
  first := by
    rw [firstRecord_append, hxs.first, hys.first, List.head?_append]
    cases xs.head? <;> rfl
  silent := by
    rw [emitted_append, List.append_eq_nil_iff, hxs.silent, hys.silent, List.forall_mem_append]
  empty hnil := by
    obtain ⟨hx, hy⟩ := List.append_eq_nil_iff.mp hnil
    rw [hxs.empty hx, hys.empty hy]
    rfl

/-- If some operations make no moves, there are no operations. -/
theorem ops_eq_nil (h : Stretch pass xs moves) (hnil : moves = []) : xs = [] := by
  have hfirst := h.first
  rw [hnil] at hfirst
  cases xs with
  | nil => rfl
  | cons op ops => cases hfirst

end Stretch

/-- The moves of a transition are the stretch of this one operation. -/
theorem stretch_transitionRecipe (pass : Option PassId) (world : World) (image : Image)
    (layout : ImageLayout) :
    Stretch pass [.transition image layout] (transitionRecipe world image layout).1 := by
  have hsilent : Vulkan.convertLayout layout = .undefined ↔ layout = .undefined :=
    Vulkan.convertLayout_eq_undefined_iff layout
  refine ⟨recorded_transitionRecipe world image layout, ?_, ?_, ?_, fun h => by cases h⟩
  · by_cases h : Vulkan.convertLayout layout = .undefined <;>
      simp [Plain, transitionRecipe, h, Command.opensPass]
  · by_cases h : Vulkan.convertLayout layout = .undefined <;>
      simp [transitionRecipe, h, firstRecord, RecordingOp.usesRenderPass]
  · by_cases h : Vulkan.convertLayout layout = .undefined <;>
      simp [transitionRecipe, h, Move.emitted, RecordingOp.Silent, ← hsilent]

/-- The moves of an operation that is not silent are its stretch, if they record, are plain and
begin as the operation says. -/
theorem Stretch.of_not_silent {pass : Option PassId} {op : RecordingOp} {moves : List Move}
    (hrecorded : Recorded false moves) (hplain : Plain moves)
    (hfirst : firstRecord moves = some (op.usesRenderPass pass)) (hne : emitted moves ≠ [])
    (hnot : ¬ op.Silent) : Stretch pass [op] moves where
  recorded := hrecorded
  plain := hplain
  first := hfirst
  silent := iff_of_false hne fun h => hnot (h op List.mem_cons_self)
  empty h := by cases h

/-- The moves of a copy to an image are plain, begin without a render pass and emit commands. -/
theorem plain_copyBufferToImageRecipe (world : World) (src : BufferHandle) (dst : Image)
    (dstOffset : Nat) :
    Plain (copyBufferToImageRecipe world src dst dstOffset).1 ∧
      firstRecord (copyBufferToImageRecipe world src dst dstOffset).1 = some false ∧
      emitted (copyBufferToImageRecipe world src dst dstOffset).1 ≠ [] := by
  have hto := stretch_transitionRecipe none world dst .transferDst
  have hback := stretch_transitionRecipe none (transitionRecipe world dst .transferDst).2 dst
    (world.imageLayout dst)
  refine ⟨hto.plain.append fun bound commands hmem => ?_, ?_, ?_⟩
  · rcases List.mem_cons.mp hmem with heq | hmem
    · cases heq
      simp [Command.opensPass]
    · exact hback.plain bound commands hmem
  · -- the transition to `TransferDst` comes first, and records without the render pass
    rw [copyBufferToImageRecipe, firstRecord_append, hto.first]
    rfl
  · simp [copyBufferToImageRecipe, Move.emitted]

/-- A copy from a buffer to an image leaves the render passes of the world alone. -/
theorem passes_copyBufferToImageRecipe (world : World) (src : BufferHandle) (dst : Image)
    (dstOffset : Nat) :
    (copyBufferToImageRecipe world src dst dstOffset).2.passes = world.passes :=
  (passes_transitionRecipe ..).trans (passes_transitionRecipe ..)

/-- The end of a download appends no command at all. -/
theorem plain_readBackRecipe (device : Option Nat) (world : World) (staging : StagingBuffer)
    (dst byteSize : Nat) : Plain (readBackRecipe device world staging dst byteSize).1 := by
  simp [readBackRecipe, Plain]

/-- **Every recording operation is a stretch**: it records before it emits, opens no render pass of
its own, and emits something unless it is silent. -/
theorem RecordingOp.stretch {env : Environment} {pass : Option PassId} {device : Option Nat}
    {world : World} {op : RecordingOp} {recipe : List Move × World}
    (h : op.recipe env pass device world = .ok recipe) : Stretch pass [op] recipe.1 := by
  have hrecorded := RecordingOp.recorded h
  cases op with
  | transition image layout =>
      cases h
      exact stretch_transitionRecipe pass world image layout
  | copyBufferToImage src dst dstOffset =>
      cases h
      obtain ⟨hplain, hfirst, hne⟩ := plain_copyBufferToImageRecipe world src.handle dst dstOffset
      exact .of_not_silent hrecorded hplain hfirst hne not_false
  | upload src dst copyAmt elementSize srcOffset dstOffset =>
      rw [RecordingOp.recipe] at h
      cases hfind : world.findStaging env device <;> rw [hfind] at h <;> cases h
      exact .of_not_silent hrecorded (by simp [Plain, copyBufferMoves, Command.opensPass]) rfl
        (by simp [copyBufferMoves, Move.emitted]) not_false
  | uploadImage src dst =>
      rw [RecordingOp.recipe] at h
      cases hfind : world.findStaging env device <;> rw [hfind] at h <;> cases h
      obtain ⟨hplain, hfirst, hne⟩ := plain_copyBufferToImageRecipe _ _ dst 0
      exact .of_not_silent hrecorded hplain hfirst hne not_false
  | download src dst copyAmt elementSize srcOffset dstOffset =>
      obtain ⟨found, staging, -, -, rfl⟩ := exists_of_recipe_download h
      refine .of_not_silent hrecorded (Plain.append ?_ (plain_readBackRecipe _ _ _ _ _)) rfl ?_
        not_false
      · simp [Plain, copyBufferMoves, Command.opensPass]
      · simp [copyBufferMoves, Move.emitted]
  | downloadImage src dst =>
      obtain ⟨found, staging, -, -, rfl⟩ := exists_of_recipe_downloadImage h
      refine .of_not_silent hrecorded (Plain.append ?_ (plain_readBackRecipe _ _ _ _ _)) rfl ?_
        not_false
      · simp [Plain, copyImageToBufferMoves, Command.opensPass]
      · simp [copyImageToBufferMoves, Move.emitted]
  | push renderer value offset =>
      cases h
      refine .of_not_silent hrecorded ?_ rfl (by simp [pushCommands, Move.emitted]) not_false
      by_cases hlen : value.length < 256 <;>
        simp [Plain, pushCommands, hlen, Command.opensPass]
  | draw | drawIndexed | drawInstancedIndexed | drawInstanced =>
      cases h
      refine .of_not_silent hrecorded ?_ rfl
        (by simp [drawMoves, Renderer.bindCommands, Move.emitted]) not_false
      simp [Plain, drawMoves, Renderer.bindCommands, Command.opensPass, or_imp, forall_and]
  | copyImage | copyBuffer | copyImageToBuffer | memoryBarrier | memoryBarrierImage
  | pipelineBarrier =>
      cases h
      exact .of_not_silent hrecorded
        (by simp [Plain, copyBufferMoves, copyImageToBufferMoves, Command.opensPass]) rfl
        (by simp [copyBufferMoves, copyImageToBufferMoves, Move.emitted]) not_false

/-- Recording operations leave the render passes of the world alone. -/
theorem RecordingOp.passes_recipe {env : Environment} {pass : Option PassId} {device : Option Nat}
    {world : World} {op : RecordingOp} {recipe : List Move × World}
    (h : op.recipe env pass device world = .ok recipe) : recipe.2.passes = world.passes := by
  cases op with
  | transition image layout =>
      cases h
      exact passes_transitionRecipe ..
  | copyBufferToImage src dst dstOffset =>
      cases h
      exact passes_copyBufferToImageRecipe ..
  | upload src dst copyAmt elementSize srcOffset dstOffset =>
      rw [RecordingOp.recipe] at h
      cases hfind : world.findStaging env device <;> rw [hfind] at h <;> cases h
      have hfound := World.passes_findStaging hfind
      exact hfound
  | uploadImage src dst =>
      rw [RecordingOp.recipe] at h
      cases hfind : world.findStaging env device <;> rw [hfind] at h <;> cases h
      have hfound := World.passes_findStaging hfind
      exact (passes_copyBufferToImageRecipe ..).trans hfound
  | download src dst copyAmt elementSize srcOffset dstOffset =>
      obtain ⟨found, staging, hfind, -, rfl⟩ := exists_of_recipe_download h
      have hfound := World.passes_findStaging hfind
      exact hfound
  | downloadImage src dst =>
      obtain ⟨found, staging, hfind, -, rfl⟩ := exists_of_recipe_downloadImage h
      have hfound := World.passes_findStaging hfind
      exact hfound
  | copyImage | copyBuffer | copyImageToBuffer | memoryBarrier | memoryBarrierImage
  | pipelineBarrier | push | draw | drawIndexed | drawInstancedIndexed | drawInstanced =>
      cases h
      rfl

/-! ## Sequences of operations -/

/-- The moves of a sequence of operations and the world after it. -/
def RecordingOp.script (env : Environment) (pass : Option PassId) (device : Option Nat) :
    World → List RecordingOp → Except ChainFailure (List Move × World)
  | world, [] => .ok ([], world)
  | world, op :: ops =>
      match op.recipe env pass device world with
      | .error failure => .error failure
      | .ok recipe =>
          (script env pass device recipe.2 ops).map fun rest => (recipe.1 ++ rest.1, rest.2)

section Script

variable {env : Environment} {pass : Option PassId} {device : Option Nat} {world : World}
  {op : RecordingOp} {ops xs ys : List RecordingOp} {script : List Move × World}

/-- The script of a nonempty sequence is the recipe of its first operation, and the script of the
rest in the world after that. -/
theorem script_cons_ok_iff :
    RecordingOp.script env pass device world (op :: ops) = .ok script ↔
      ∃ recipe rest, op.recipe env pass device world = .ok recipe ∧
        RecordingOp.script env pass device recipe.2 ops = .ok rest ∧
        script = (recipe.1 ++ rest.1, rest.2) := by
  rw [RecordingOp.script]
  cases hrecipe : op.recipe env pass device world with
  | error failure => simp
  | ok recipe =>
      cases hrest : RecordingOp.script env pass device recipe.2 ops with
      | error failure => simp [hrest, Except.map]
      | ok rest =>
          simp only [hrest, Except.map, Except.ok.injEq]
          constructor
          · rintro rfl
            exact ⟨recipe, rest, rfl, hrest, rfl⟩
          · rintro ⟨_, rest', rfl, hrest', rfl⟩
            cases hrest.symm.trans hrest'
            rfl

/-- The script of two sequences in a row is that of the first one, and that of the second in the
world after it. -/
theorem script_append_ok_iff :
    RecordingOp.script env pass device world (xs ++ ys) = .ok script ↔
      ∃ first second, RecordingOp.script env pass device world xs = .ok first ∧
        RecordingOp.script env pass device first.2 ys = .ok second ∧
        script = (first.1 ++ second.1, second.2) := by
  induction xs generalizing world script with
  | nil =>
      constructor
      · exact fun h => ⟨([], world), script, rfl, h, rfl⟩
      · rintro ⟨_, second, ⟨⟩, hsecond, rfl⟩
        exact hsecond
  | cons op xs ih =>
      simp only [List.cons_append, script_cons_ok_iff, ih]
      constructor
      · rintro ⟨recipe, _, hrecipe, ⟨first, second, hfirst, hsecond, rfl⟩, rfl⟩
        exact ⟨_, second, ⟨recipe, first, hrecipe, hfirst, rfl⟩, hsecond,
          by rw [List.append_assoc]⟩
      · rintro ⟨_, second, ⟨recipe, first, hrecipe, hfirst, rfl⟩, hsecond, rfl⟩
        exact ⟨recipe, _, hrecipe, ⟨first, second, hfirst, hsecond, rfl⟩,
          by rw [List.append_assoc]⟩

/-- The moves of a sequence of operations are a stretch, and leave the render passes alone. -/
theorem stretch_script (h : RecordingOp.script env pass device world ops = .ok script) :
    Stretch pass ops script.1 ∧ script.2.passes = world.passes := by
  induction ops generalizing world script with
  | nil =>
      cases h
      exact ⟨.nil, rfl⟩
  | cons op ops ih =>
      obtain ⟨recipe, rest, hrecipe, hrest, rfl⟩ := script_cons_ok_iff.mp h
      obtain ⟨hstretch, hpasses⟩ := ih hrest
      exact ⟨(RecordingOp.stretch hrecipe).append hstretch,
        hpasses.trans (RecordingOp.passes_recipe hrecipe)⟩

end Script

namespace CommandList

/-- What a recording begins with depends on the world only through its render passes. -/
theorem opening_congr {list list' : CommandList} (hpass : list'.pass = list.pass)
    (hcontents : list'.contents = list.contents)
    (hpasses : list'.world.passes = list.world.passes) : list'.opening = list.opening := by
  funext useRenderPass
  rw [opening, opening, hpass, hcontents, hpasses]

/-- **A run over recording operations follows their script**, or fails as that does. -/
theorem run_recordings (env : Environment) (list : CommandList) (ops : List RecordingOp) :
    runSteps (step env) list (ops.map .recording)
      = (RecordingOp.script env list.pass list.device list.world ops).map list.follow := by
  induction ops generalizing list with
  | nil => rfl
  | cons op ops ih =>
      rw [List.map_cons, RecordingOp.script]
      cases hrecipe : op.recipe env list.pass list.device list.world with
      | error failure =>
          refine runSteps_cons_of_error ?_
          rw [step, hrecipe]
          rfl
      | ok recipe =>
          have hstep : list.step env (.recording op) = .ok (list.follow recipe) := by
            rw [step, hrecipe]
            rfl
          -- the render passes are the same, and so is what the rest of the run begins lists with
          have hopening : (list.follow recipe).opening = list.opening :=
            opening_congr rfl rfl (RecordingOp.passes_recipe hrecipe)
          rw [runSteps_cons_of_ok hstep, ih]
          show (RecordingOp.script env list.pass list.device recipe.2 ops).map _
            = ((RecordingOp.script env list.pass list.device recipe.2 ops).map _).map _
          cases RecordingOp.script env list.pass list.device recipe.2 ops with
          | error failure => rfl
          | ok rest =>
              refine congrArg Except.ok ?_
              show (list.follow recipe).follow rest = list.follow (recipe.1 ++ rest.1, rest.2)
              simp only [follow, Tape.moves, List.foldl_append]
              rw [← hopening]
              rfl

end CommandList

/-! ## Ended lists -/

/-- Whether the first of some operations begins the chain with its render pass. -/
def firstUse (pass : Option PassId) (ops : List RecordingOp) : Bool :=
  ops.head?.any (·.usesRenderPass pass)

/-- The command that closes a render pass, if what a recording began with opens one. -/
def passEnd (opening : List Command) : List Command :=
  if opening.isEmpty then [] else [.endRenderPass]

namespace Tape

/-- A list that was being recorded and has been ended. -/
structure Ended (tape : Tape) (list : List Command) (touched : Bool)
    (deliveries : List Delivery) : Prop where
  recording : tape.recording = false
  hasRecord : tape.hasRecord = true
  dirty : tape.dirty = touched
  commands : tape.commands = if touched then list else []
  deliveries : tape.ledger.deliveries = deliveries

/-- The list after some moves and the end of the recording. -/
def cut (opening : Bool → List Command) (tape : Tape) (moves : List Move) : Tape :=
  (tape.moves opening moves).stop

variable {tape tape' : Tape} {pass : Option PassId}

/-- To end a list that is not being recorded does nothing. -/
theorem stop_of_idle (h : tape.recording = false) : tape.stop = tape := by
  rw [stop, h]
  rfl

/-- To end a list twice is the same as to end it once. -/
theorem stop_stop (tape : Tape) : tape.stop.stop = tape.stop :=
  stop_of_idle tape.recording_stop

/-- The end of a list that went on one that is being recorded has the commands of this one, those
added, and what closes the pass. -/
theorem Extends.ended {added : List Command} (h : tape'.Extends tape added)
    (hrec : tape.recording = true) :
    tape'.stop.Ended (tape.commands ++ added ++ tape.closing) (tape.dirty || !added.isEmpty)
      tape.ledger.deliveries := by
  have hclosing : tape'.closing = tape.closing := by
    rw [closing, closing, h.inPass]
  rw [stop, if_pos (h.recording.trans hrec)]
  refine ⟨rfl, rfl, h.dirty, ?_, h.deliveries⟩
  show (if tape'.dirty then tape'.commands ++ tape'.closing else []) = _
  rw [hclosing, h.commands, h.dirty]

/-- At the beginning of a recording the tape holds what it opens, and is otherwise as before. -/
theorem record_of_idle (opening : List Command) (h : tape.recording = false) :
    (tape.record opening).commands = opening ∧ (tape.record opening).closing = passEnd opening ∧
      (tape.record opening).dirty = tape.dirty ∧
      (tape.record opening).ledger.deliveries = tape.ledger.deliveries := by
  have hnot : ¬ tape.recording = true := by
    rw [h]
    exact Bool.false_ne_true
  rw [record, if_neg hnot]
  refine ⟨rfl, ?_, rfl, rfl⟩
  cases opening <;> rfl

/-- Operations and an `end`, on a list that is not being recorded. -/
theorem cut_of_idle (opening : Bool → List Command) {ops : List RecordingOp} {moves : List Move}
    (hops : Stretch pass ops moves) (hne : ops ≠ []) (hidle : tape.recording = false) :
    (tape.cut opening moves).Ended
      (opening (firstUse pass ops) ++ emitted moves ++ passEnd (opening (firstUse pass ops)))
      (tape.dirty || !(emitted moves).isEmpty) tape.ledger.deliveries := by
  have hfirst : firstRecord moves = some (firstUse pass ops) := by
    rw [hops.first, firstUse]
    cases ops with
    | nil => exact absurd rfl hne
    | cons op ops => rfl
  obtain ⟨hcommands, hclosing, hdirty, hdeliveries⟩ :=
    record_of_idle (opening (firstUse pass ops)) hidle
  have hextends : (tape.moves opening moves).Extends _ _ :=
    moves_extends hops.plain hops.recorded hfirst
  have hended := hextends.ended (recording_record ..)
  rw [hcommands, hclosing, hdirty, hdeliveries] at hended
  exact hended

end Tape

/-- The memory after a submit of an ended list is that after its commands, if something was
appended, and else the one before. -/
theorem CommandList.memory_submit (env : Environment) (list : CommandList) {commands : List Command}
    {touched : Bool} {deliveries : List Delivery}
    (h : list.tape.stop.Ended commands touched deliveries) :
    (list.submit env).world.memory
      = if touched then executeCommands env.effect commands list.world.memory
        else list.world.memory := by
  cases touched with
  | true =>
      have hready : list.tape.stop.Ready := ⟨h.hasRecord, h.dirty⟩
      have hcommands : list.tape.stop.commands = commands := h.commands
      -- advancing the render pass does not touch memory
      simp only [submit, hready, if_true, hcommands]
      cases list.pass <;> rfl
  | false =>
      have hnot : ¬ list.tape.stop.Ready := fun hready => by
        cases h.dirty.symm.trans hready.2
      simp only [submit, hnot, if_false]
      rfl

end Nyx
