import Mathlib.Data.List.Forall2
import Nyx.Recording.Scripts
import Nyx.Recording.SubmittedLists

/-! # What is drawn

A draw of Vulkan uses whatever was bound before it in its command buffer. A chain binds the pipeline,
the descriptor, the vertices and the indices of each of its draws anew, so that what is recorded in
between, and in which buffer, makes no difference.

* **`Bindings`**, **`DrawCall`** — what is bound in a command buffer, and what a draw uses.
* **`drawn`** — the draws that the commands of a buffer make.
* **`RecordingOp.Asks`** — the draw that an operation of a chain asks for.
* **`RecordingOp.drawn_recipe`** — an operation makes the draw it asks for, after any commands.
* **`Session.executed_draws`** — the draws that all submissions of a run execute. -/

namespace Nyx

open Foundations

/-! ## Draws of Vulkan -/

/-- What a draw covers: some vertices, or the vertices that some indices name. -/
inductive DrawRange
  | vertices (count instances first firstInstance : Nat)
  | indices (buffer : Option BufferHandle) (count instances first vertexOffset firstInstance : Nat)
  deriving DecidableEq, Repr

/-- A draw, with all that was bound for it in its command buffer. -/
structure DrawCall where
  pipeline : Option Nat
  set : Option Nat
  /-- The buffer of vertices, and where in it they start. -/
  vertices : Option (BufferHandle × Nat)
  range : DrawRange
  deriving DecidableEq, Repr

/-- What is bound in a command buffer, at each of the bind points. -/
structure Bindings where
  pipeline : PipelineBindPoint → Option Nat := fun _ => none
  set : PipelineBindPoint → Option Nat := fun _ => none
  vertices : Option (BufferHandle × Nat) := none
  indices : Option BufferHandle := none

/-- What is bound after a command, where these were bound before it. -/
def Command.bind (bindings : Bindings) : Command → Bindings
  | .bindPipeline bindPoint pipeline =>
      { bindings with pipeline := Function.update bindings.pipeline bindPoint (some pipeline) }
  | .bindDescriptorSets (some state) set =>
      { bindings with set := Function.update bindings.set state.bindPoint (some set) }
  | .bindVertexBuffers buffer offset => { bindings with vertices := some (buffer, offset) }
  | .bindIndexBuffer buffer => { bindings with indices := some buffer }
  -- nothing is bound after the commands of another buffer
  | .executeCommands _ _ => {}
  | .bindDescriptorSets none _ | .beginRenderPass .. | .endRenderPass | .nextSubpass _
  | .copyBuffer .. | .copyImage .. | .copyImageToBuffer .. | .copyBufferToImage ..
  | .imageBarrier _ | .bufferBarrier _ | .pipelineBarrier .. | .draw .. | .drawIndexed ..
  | .pushConstants .. => bindings

/-- The draw that a command makes with what is bound, if it makes one. -/
def Command.drawCall? (bindings : Bindings) : Command → Option DrawCall
  | .draw count instances first firstInstance =>
      some ⟨bindings.pipeline .graphics, bindings.set .graphics, bindings.vertices,
        .vertices count instances first firstInstance⟩
  | .drawIndexed count instances first vertexOffset firstInstance =>
      some ⟨bindings.pipeline .graphics, bindings.set .graphics, bindings.vertices,
        .indices bindings.indices count instances first vertexOffset firstInstance⟩
  | .bindPipeline .. | .bindDescriptorSets .. | .bindVertexBuffers .. | .bindIndexBuffer _
  | .executeCommands .. | .beginRenderPass .. | .endRenderPass | .nextSubpass _
  | .copyBuffer .. | .copyImage .. | .copyImageToBuffer .. | .copyBufferToImage ..
  | .imageBarrier _ | .bufferBarrier _ | .pipelineBarrier .. | .pushConstants .. => none

/-- The draws of some commands, in order, where these are bound at first. -/
def drawnFrom : Bindings → List Command → List DrawCall
  | _, [] => []
  | bindings, command :: commands =>
      (command.drawCall? bindings).toList ++ drawnFrom (command.bind bindings) commands

/-- **The draws of a command buffer**, which starts with nothing bound. -/
def drawn (commands : List Command) : List DrawCall := drawnFrom {} commands

/-- The draws of two lists of commands, the second with what the first one leaves bound. -/
theorem drawnFrom_append (bindings : Bindings) (xs ys : List Command) :
    drawnFrom bindings (xs ++ ys)
      = drawnFrom bindings xs ++ drawnFrom (xs.foldl Command.bind bindings) ys := by
  induction xs generalizing bindings with
  | nil => rfl
  | cons command xs ih =>
      rw [List.cons_append, drawnFrom, drawnFrom, ih, List.foldl_cons, List.append_assoc]

/-- A command that draws nothing, whatever is bound when it is executed. -/
def Command.Drawless (command : Command) : Prop :=
  ∀ bindings, command.drawCall? bindings = none

/-- Commands each of which draws nothing draw nothing together, whatever is bound. -/
theorem drawnFrom_of_drawless {commands : List Command} (h : ∀ command ∈ commands, command.Drawless)
    (bindings : Bindings) : drawnFrom bindings commands = [] := by
  induction commands generalizing bindings with
  | nil => rfl
  | cons command commands ih =>
      rw [drawnFrom, h command List.mem_cons_self bindings,
        ih fun other hother => h other (List.mem_cons_of_mem _ hother)]
      rfl

/-- What a recording begins with draws nothing, whether it opens a render pass or not. -/
theorem Opening.drawn_eq_nil {commands : List Command} (h : Opening commands) :
    drawn commands = [] := by
  rcases h with rfl | ⟨info, contents, rfl⟩ <;> rfl

/-! ## Draws of a chain -/

/-- A draw uses the pipeline of a renderer, when that is a graphics pipeline, and its descriptor,
when it has one. -/
def DrawCall.Uses (call : DrawCall) (renderer : Renderer) : Prop :=
  renderer.pipeline.isGraphics = true → call.pipeline = some renderer.pipeline.pipeline ∧
    ∀ set ∈ renderer.descriptor.set, call.set = some set

/-- **The draw that an operation asks for**: of its renderer, with its vertices and indices, as many
as it says. -/
def RecordingOp.Asks (call : DrawCall) : RecordingOp → Prop
  | .draw renderer vertices count offset =>
      call.Uses renderer ∧ call.vertices = some (vertices.handle, offset) ∧
        call.range = .vertices count 1 0 0
  | .drawIndexed renderer indices indexCount vertices =>
      call.Uses renderer ∧ call.vertices = some (vertices.handle, 0) ∧
        call.range = .indices (some indices.handle) indexCount 1 0 0 0
  | .drawInstancedIndexed instanceCount renderer indices indexCount vertices =>
      call.Uses renderer ∧ call.vertices = some (vertices.handle, 0) ∧
        call.range = .indices (some indices.handle) indexCount instanceCount 0 0 0
  | .drawInstanced instanceCount renderer vertices vertexCount =>
      call.Uses renderer ∧ call.vertices = some (vertices.handle, 0) ∧
        call.range = .vertices vertexCount instanceCount 0 0
  | .transition .. | .copyImage .. | .copyBuffer .. | .copyImageToBuffer .. | .copyBufferToImage ..
  | .upload .. | .uploadImage .. | .download .. | .downloadImage .. | .memoryBarrier ..
  | .memoryBarrierImage .. | .pipelineBarrier .. | .push .. => False

/-- The operation, if it is a draw, and none for any other one. -/
def RecordingOp.draws (op : RecordingOp) : List RecordingOp :=
  match op with
  | .draw .. | .drawIndexed .. | .drawInstancedIndexed .. | .drawInstanced .. => [op]
  | .transition .. | .copyImage .. | .copyBuffer .. | .copyImageToBuffer .. | .copyBufferToImage ..
  | .upload .. | .uploadImage .. | .download .. | .downloadImage .. | .memoryBarrier ..
  | .memoryBarrierImage .. | .pipelineBarrier .. | .push .. => []

/-- The draws among the operations on a list: the recording operation, if it is a draw. -/
def ListOp.draws : ListOp → List RecordingOp
  | .recording op => op.draws
  | .begin | .stop | .submit | .synchronize => []

/-- After the commands that bind a renderer a draw uses this renderer, whatever was bound before. -/
theorem uses_bindCommands (renderer : Renderer) (bindings : Bindings)
    (vertices : Option (BufferHandle × Nat)) (range : DrawRange) :
    (⟨(renderer.bindCommands.foldl Command.bind bindings).pipeline .graphics,
      (renderer.bindCommands.foldl Command.bind bindings).set .graphics, vertices, range⟩ :
        DrawCall).Uses renderer := by
  intro hgraphics
  -- only what is bound at the point for graphics matters to a draw
  have hpoint : renderer.pipeline.boundState.bindPoint = .graphics := by
    rw [Pipeline.boundState, hgraphics]
    rfl
  cases hset : renderer.descriptor.set with
  | none =>
      simp [Renderer.bindCommands, hset, hpoint, Command.bind]
      rfl
  | some set =>
      simp [Renderer.bindCommands, hset, hpoint, Command.bind]
      rfl

/-- The commands that bind a renderer draw nothing, whatever is bound. -/
theorem drawless_bindCommands (renderer : Renderer) :
    ∀ command ∈ renderer.bindCommands, command.Drawless := by
  intro command hmem bindings
  rw [Renderer.bindCommands] at hmem
  cases hset : renderer.descriptor.set <;> simp [hset] at hmem
  · rw [hmem]
    rfl
  · rcases hmem with rfl | rfl <;> rfl

/-- The draws of the moves of a draw are those of its own commands, behind the bindings of its
renderer. -/
theorem drawnFrom_drawMoves (bindings : Bindings) (renderer : Renderer) (commands : List Command) :
    drawnFrom bindings (emitted (drawMoves renderer commands))
      = drawnFrom (renderer.bindCommands.foldl Command.bind bindings) commands := by
  have hemitted : emitted (drawMoves renderer commands) = renderer.bindCommands ++ commands := by
    simp [drawMoves, Move.emitted]
  rw [hemitted, drawnFrom_append, drawnFrom_of_drawless (drawless_bindCommands renderer),
    List.nil_append]

/-- The commands of a transition of an image draw nothing. -/
theorem drawless_transitionRecipe (world : World) (image : Image) (layout : ImageLayout) :
    ∀ command ∈ emitted (transitionRecipe world image layout).1, command.Drawless := by
  intro command hmem
  by_cases h : Vulkan.convertLayout layout = .undefined
  · simp [transitionRecipe, h, Move.emitted] at hmem
  · simp [transitionRecipe, h, Move.emitted] at hmem
    exact hmem ▸ fun _ => rfl

/-- The commands of a copy from a buffer to an image draw nothing. -/
theorem drawless_copyBufferToImageRecipe (world : World) (src : BufferHandle) (dst : Image)
    (dstOffset : Nat) :
    ∀ command ∈ emitted (copyBufferToImageRecipe world src dst dstOffset).1,
      command.Drawless := by
  intro command hmem
  rw [copyBufferToImageRecipe, emitted_append, emitted_cons, Move.emitted, List.mem_append,
    List.mem_append, List.mem_singleton] at hmem
  rcases hmem with hto | rfl | hback
  · exact drawless_transitionRecipe _ _ _ command hto
  · exact fun _ => rfl
  · exact drawless_transitionRecipe _ _ _ command hback

/-- **An operation makes the draw it asks for**, after any commands. -/
theorem RecordingOp.drawn_recipe {env : Environment} {pass : Option PassId} {device : Option Nat}
    {world : World} {op : RecordingOp} {recipe : List Move × World}
    (h : op.recipe env pass device world = .ok recipe) (bindings : Bindings) :
    List.Forall₂ (fun op call => op.Asks call) op.draws
      (drawnFrom bindings (emitted recipe.1)) := by
  have hnone : ∀ {moves : List Move}, (∀ command ∈ emitted moves, command.Drawless) →
      List.Forall₂ (fun (op : RecordingOp) call => op.Asks call) []
        (drawnFrom bindings (emitted moves)) := by
    intro moves hdrawless
    rw [drawnFrom_of_drawless hdrawless]
    exact .nil
  cases op with
  | draw renderer vertices count offset =>
      cases h
      rw [drawnFrom_drawMoves]
      exact .cons ⟨uses_bindCommands renderer bindings _ _, rfl, rfl⟩ .nil
  | drawIndexed renderer indices indexCount vertices =>
      cases h
      rw [drawnFrom_drawMoves]
      exact .cons ⟨uses_bindCommands renderer bindings _ _, rfl, rfl⟩ .nil
  | drawInstancedIndexed instanceCount renderer indices indexCount vertices =>
      cases h
      rw [drawnFrom_drawMoves]
      exact .cons ⟨uses_bindCommands renderer bindings _ _, rfl, rfl⟩ .nil
  | drawInstanced instanceCount renderer vertices vertexCount =>
      cases h
      rw [drawnFrom_drawMoves]
      exact .cons ⟨uses_bindCommands renderer bindings _ _, rfl, rfl⟩ .nil
  | transition image layout =>
      cases h
      exact hnone (drawless_transitionRecipe world image layout)
  | copyBufferToImage src dst dstOffset =>
      cases h
      exact hnone (drawless_copyBufferToImageRecipe world src.handle dst dstOffset)
  -- copies go through a staging buffer, by commands that draw nothing
  | upload src dst copyAmt elementSize srcOffset dstOffset =>
      rw [RecordingOp.recipe] at h
      cases hfind : world.findStaging env device <;> rw [hfind] at h <;> cases h
      refine hnone fun command hmem => ?_
      simp [copyBufferMoves, Move.emitted] at hmem
      exact hmem ▸ fun _ => rfl
  | uploadImage src dst =>
      rw [RecordingOp.recipe] at h
      cases hfind : world.findStaging env device <;> rw [hfind] at h <;> cases h
      exact hnone (drawless_copyBufferToImageRecipe _ _ dst 0)
  | download src dst copyAmt elementSize srcOffset dstOffset =>
      obtain ⟨found, staging, -, -, rfl⟩ := exists_of_recipe_download h
      refine hnone fun command hmem => ?_
      simp [copyBufferMoves, readBackRecipe, Move.emitted] at hmem
      exact hmem ▸ fun _ => rfl
  | downloadImage src dst =>
      obtain ⟨found, staging, -, -, rfl⟩ := exists_of_recipe_downloadImage h
      refine hnone fun command hmem => ?_
      simp [copyImageToBufferMoves, readBackRecipe, Move.emitted] at hmem
      exact hmem ▸ fun _ => rfl
  | push renderer value offset =>
      cases h
      refine hnone fun command hmem => ?_
      by_cases hlen : value.length < 256 <;> simp [pushCommands, hlen, Move.emitted] at hmem
      · rcases hmem with rfl | rfl <;> exact fun _ => rfl
      · exact hmem ▸ fun _ => rfl
  | copyImage | copyBuffer | copyImageToBuffer | memoryBarrier | memoryBarrierImage
  | pipelineBarrier =>
      cases h
      refine hnone fun command hmem => ?_
      simp [copyBufferMoves, copyImageToBufferMoves, Move.emitted] at hmem
      exact hmem ▸ fun _ => rfl

/-! ## Draws of a list -/

namespace Tape

/-- The draws that were handed over, and those that wait for a submit. -/
def drawn (tape : Tape) : List DrawCall :=
  (tape.ledger.deliveries.flatMap fun delivery => Nyx.drawn delivery.commands) ++
    Nyx.drawn tape.commands

variable {tape tape' : Tape}

/-- To begin an exact list draws nothing, and loses no draw. -/
theorem drawn_record (h : tape.Exact) {opening : List Command} (hopening : Opening opening) :
    (tape.record opening).drawn = tape.drawn := by
  by_cases hrec : tape.recording = true
  · rw [record, if_pos hrec]
  · have hempty := (h.idle (Bool.eq_false_iff.mpr hrec)).1
    -- a list that is begun is empty up to its opening commands
    rw [drawn, drawn, deliveries_record, hempty, record, if_neg hrec]
    exact congrArg _ hopening.drawn_eq_nil

/-- Commands that go on a list add their draws, with what the commands before them bound. -/
theorem Extends.drawn {added : List Command} (h : tape'.Extends tape added) :
    tape'.drawn = tape.drawn ++ drawnFrom (tape.commands.foldl Command.bind {}) added := by
  rw [Tape.drawn, Tape.drawn, h.deliveries, h.commands, Nyx.drawn, drawnFrom_append,
    List.append_assoc]
  rfl

/-- A submit of an exact list draws nothing that did not wait for it, and loses no draw. -/
theorem drawn_submit (h : tape.Exact) : tape.stop.deliver.drawn = tape.drawn := by
  have hclosing : ∀ commands : List Command,
      Nyx.drawn (commands ++ tape.closing) = Nyx.drawn commands := by
    intro commands
    rw [Nyx.drawn, drawnFrom_append, closing]
    -- the end of a render pass is no draw
    cases tape.inPass <;> simp [drawnFrom, Command.drawCall?, Nyx.drawn]
  cases hdirty : tape.dirty with
  | true =>
      rw [submit_of_dirty (h.dirty hdirty) hdirty]
      simp only [drawn, Ledger.submit, Ledger.issue, List.flatMap_append, List.flatMap_cons,
        List.flatMap_nil, List.append_nil, hclosing]
      exact List.append_nil _
  | false =>
      cases hrec : tape.recording with
      | true =>
          -- a list that is dropped holds the beginning of a render pass at most
          rw [submit_of_clean hrec hdirty, drawn, drawn, (h.clean hdirty).1.drawn_eq_nil]
          rfl
      | false => rw [submit_of_idle hrec hdirty]

end Tape

/-! ## Runs -/

/-- The draws that some operations ask for, call by call. -/
def Asked (asked : List RecordingOp) (calls : List DrawCall) : Prop :=
  List.Forall₂ (fun op call => RecordingOp.Asks call op) asked calls

namespace CommandList

variable {env : Environment} {list list' : CommandList} {op : ListOp} {ops : List ListOp}

/-- **Step lemma.** An operation other than an explicit end adds the draw that it asks for, if it
asks for one. -/
theorem drawn_step (h : list.tape.Exact) (hop : op ≠ .stop) (hstep : list.step env op = .ok list') :
    ∃ calls, list'.tape.drawn = list.tape.drawn ++ calls ∧ Asked op.draws calls := by
  cases op with
  | begin =>
      cases hstep
      exact ⟨[], by rw [Tape.drawn_record h (list.opening_spec _), List.append_nil], .nil⟩
  | stop => exact absurd rfl hop
  | submit =>
      cases hstep
      exact ⟨[], by rw [tape_submit, Tape.drawn_submit h, List.append_nil], .nil⟩
  | synchronize =>
      cases hstep
      exact ⟨[], by rw [List.append_nil], .nil⟩
  | recording op =>
      obtain ⟨recipe, hrecipe, rfl⟩ := exists_of_map_eq_ok hstep
      have hstretch := RecordingOp.stretch hrecipe
      have hextends : (list.tape.moves list.opening recipe.1).Extends _ _ :=
        Tape.moves_extends hstretch.plain hstretch.recorded hstretch.first
      have hdrawn := hextends.drawn
      rw [Tape.drawn_record h (list.opening_spec _)] at hdrawn
      exact ⟨_, hdrawn, RecordingOp.drawn_recipe hrecipe _⟩

/-- **Run lemma.** A run adds the draws that its operations ask for. -/
theorem drawn_run (h : list.tape.Exact) (hops : ∀ op ∈ ops, op ≠ .stop)
    (hrun : runSteps (step env) list ops = .ok list') :
    ∃ calls, list'.tape.drawn = list.tape.drawn ++ calls ∧
      Asked (ops.flatMap ListOp.draws) calls := by
  induction ops generalizing list with
  | nil =>
      cases hrun
      exact ⟨[], (List.append_nil _).symm, .nil⟩
  | cons op ops ih =>
      obtain ⟨next, hstep, hrest⟩ := runSteps_cons_ok_iff.mp hrun
      obtain ⟨hop, hops⟩ := List.forall_mem_cons.mp hops
      obtain ⟨first, hfirst, hasked⟩ := drawn_step h hop hstep
      obtain ⟨rest, hdrawn, hrestAsked⟩ := ih (exact_step h hop hstep) hops hrest
      refine ⟨first ++ rest, by rw [hdrawn, hfirst, List.append_assoc], ?_⟩
      exact List.rel_append hasked hrestAsked

end CommandList

namespace Session

/-- The draws that the submissions of a chain executed. -/
def executed (s : Session) : List DrawCall :=
  (ledger s.data.cmd.log).deliveries.flatMap fun delivery => drawn delivery.commands

/-- When the chain is not being recorded, nothing waits for a submit. -/
theorem Submits.drawn_of_idle {s : Session} (h : s.Submits)
    (hidle : s.data.cmd.recording = false) : s.data.tape.drawn = s.executed := by
  have hnone := (h.exact.idle hidle).1
  rw [Tape.drawn, hnone]
  exact List.append_nil _

/-- **A run that ends with a submit** executes the draws that were asked for in it. -/
theorem Submits.executed_run {env : Environment} {s t : Session} {ops : List ListOp}
    (h : s.Submits) (hidle : s.data.cmd.recording = false) (hops : ∀ op ∈ ops, op ≠ .stop)
    (hrun : runSteps (ListOp.step env) s (ops ++ [.submit]) = .ok t) :
    ∃ calls, t.executed = s.executed ++ calls ∧ Asked (ops.flatMap ListOp.draws) calls := by
  have hops' : ∀ op ∈ ops ++ [.submit], op ≠ .stop :=
    List.forall_mem_append.mpr ⟨hops, List.forall_mem_singleton.mpr ListOp.noConfusion⟩
  have hend := h.run hops' hrun
  -- a submit leaves the chain idle, so all draws have been handed over
  have hlast := h.idle_of_getLast? hidle hops' hrun (Or.inr (by simp))
  have hexact : s.list.tape.Exact := h.exact
  obtain ⟨calls, hcalls, hasked⟩ :=
    CommandList.drawn_run hexact hops' (list_run h.sequential hrun)
  refine ⟨calls, ?_, by simpa [List.flatMap_append, ListOp.draws] using hasked⟩
  rw [← h.drawn_of_idle hidle, ← hend.drawn_of_idle hlast]
  exact hcalls

/-- **Every draw is executed once, in order.** In every run of a freshly initialised chain that is
left in `Sequential` mode and never ended explicitly, the submissions up to any submit execute
exactly the draws that were asked for before it, in order: each with its own vertices and indices
and numbers, with the pipeline of its renderer if that is a graphics pipeline, and then with the
descriptor of its renderer if there is one. -/
theorem executed_draws (env : Environment) (s t : Session) (ops : List ListOp)
    (hinit : s.data.JustInitialized env s.world.passes) (hops : ∀ op ∈ ops, op ≠ .stop)
    (hrun : runSteps (ListOp.step env) s (ops ++ [.submit]) = .ok t) :
    Asked (ops.flatMap ListOp.draws) t.executed := by
  have hempty : s.executed = [] := by
    rw [executed, hinit.fresh.log]
    rfl
  obtain ⟨calls, hcalls, hasked⟩ :=
    (submits_of_justInitialized hinit).executed_run hinit.fresh.idle hops hrun
  rw [hcalls, hempty, List.nil_append]
  exact hasked

/-- A renderer with a graphics pipeline and without a descriptor. -/
def plainRenderer : Renderer := ⟨⟨true, 7, 8⟩, ⟨none⟩⟩

/-- A copy and two draws, with a submit after the first. -/
def drawTwice : List ListOp :=
  [.recording (.copyBuffer ⟨.array 0, 0⟩ ⟨.array 1, 0⟩ 4 1 0 0),
    .recording (.drawIndexed plainRenderer ⟨.array 2, 0⟩ 3 ⟨.array 1, 0⟩), .submit,
    .recording (.draw plainRenderer ⟨.array 1, 0⟩ 3 60)]

/-- Both draws of two operations are executed once they are submitted. -/
theorem executed_draws_drawTwice :
    ∃ t, runSteps (ListOp.step .inert) .newGraphics (drawTwice ++ [.submit]) = .ok t ∧
      Asked (drawTwice.flatMap ListOp.draws) t.executed :=
  ⟨_, rfl, executed_draws .inert .newGraphics _ drawTwice (.type 0 .graphics)
    (by decide +kernel) rfl⟩

end Session

end Nyx
