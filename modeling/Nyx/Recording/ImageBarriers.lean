import Mathlib.Data.List.Induction
import Nyx.Recording.Scripts

/-! # Chains of image barriers

`Chain::transition` records a barrier from the layout an image tracks to the layout it is asked for,
and tracks the new one. The tracked layout is stored as a Vulkan layout and goes through both
conversions; `DepthStencil` does not survive them.

* **`barriersOf`** — the barriers of an image among the commands of a log.
* **`Linked`**, **`lastLayout`** — barriers each of which starts where the one before it ended, and
  where the last one ends.
* **`Tracks`** — the invariant: the barriers recorded for an image are linked, and the image tracks
  the layout in which they leave it.
* **`ListOp.KeepsBarriers`**, **`barriers_linked_iff`** — what an operation has to do with the
  barriers of an image, and the runs in which all operations do. -/

namespace Nyx

open Foundations

/-! ## Linked barriers -/

/-- Barriers each of which starts where the one before it ended, the first in `layout`. -/
def Linked (layout : VkImageLayout) : List ImageMemoryBarrier → Prop
  | [] => True
  | barrier :: barriers => barrier.oldLayout = layout ∧ Linked barrier.newLayout barriers

/-- Where barriers leave an image that was in `layout`. -/
def lastLayout (layout : VkImageLayout) : List ImageMemoryBarrier → VkImageLayout
  | [] => layout
  | barrier :: barriers => lastLayout barrier.newLayout barriers

@[simp] theorem linked_nil (layout : VkImageLayout) : Linked layout [] := trivial

@[simp] theorem lastLayout_nil (layout : VkImageLayout) : lastLayout layout [] = layout := rfl

/-- Barriers in two parts are linked when those of the first part are, and those of the second from
where the first ends. -/
theorem linked_append (layout : VkImageLayout) (xs ys : List ImageMemoryBarrier) :
    Linked layout (xs ++ ys) ↔ Linked layout xs ∧ Linked (lastLayout layout xs) ys := by
  induction xs generalizing layout with
  | nil => simp
  | cons barrier xs ih => simp [Linked, lastLayout, ih, and_assoc]

/-- Barriers in two parts end where those of the second end, from where the first ends. -/
theorem lastLayout_append (layout : VkImageLayout) (xs ys : List ImageMemoryBarrier) :
    lastLayout layout (xs ++ ys) = lastLayout (lastLayout layout xs) ys := by
  induction xs generalizing layout with
  | nil => rfl
  | cons barrier xs ih => exact ih barrier.newLayout

/-! ## The barriers of an image -/

/-- The barrier of an image that a command records, if it records one of this image. -/
def Command.barrierOf (image : Image) : Command → Option ImageMemoryBarrier
  | .imageBarrier barrier => if barrier.image = image.handle then some barrier else none
  | _ => none

/-- The barriers of an image among some commands, in order. -/
def barriersIn (image : Image) (commands : List Command) : List ImageMemoryBarrier :=
  commands.filterMap (Command.barrierOf image)

/-- The command that an event records, if its call is one. -/
def Event.command? (event : Event) : Option Command :=
  match event.call with
  | .command command => some command
  | _ => none

/-- The barriers of an image in the log of a chain, in order. -/
def barriersOf (image : Image) (log : List Event) : List ImageMemoryBarrier :=
  barriersIn image (log.filterMap Event.command?)

@[simp] theorem barriersIn_nil (image : Image) : barriersIn image [] = [] := rfl

@[simp] theorem barriersIn_append (image : Image) (xs ys : List Command) :
    barriersIn image (xs ++ ys) = barriersIn image xs ++ barriersIn image ys :=
  List.filterMap_append

/-- What a list begins with is no barrier of any image. -/
theorem Opening.barriersIn {commands : List Command} (h : Opening commands) (image : Image) :
    barriersIn image commands = [] := by
  rcases h with rfl | ⟨info, contents, rfl⟩ <;> rfl

/-- What closes the render pass of a list is no barrier of any image. -/
theorem Tape.barriersIn_closing (tape : Tape) (image : Image) :
    barriersIn image tape.closing = [] := by
  unfold closing
  split <;> rfl

/-- All commands of a ledger: those handed over, and those issued since. -/
def Ledger.all (ledger : Ledger) : List Command :=
  ledger.deliveries.flatMap Delivery.issued ++ ledger.issued

@[simp] theorem Ledger.all_issue (ledger : Ledger) (commands : List Command) :
    (ledger.issue commands).all = ledger.all ++ commands := by
  simp [all, issue]

@[simp] theorem Ledger.all_submit (ledger : Ledger) (slot : Nat) (state : BufferState)
    (commands : List Command) : (ledger.submit slot state commands).all = ledger.all := by
  simp [all, submit]

/-- The ledger of a log has the commands of the log, submitted or not. -/
theorem all_ledger (log : List Event) : (ledger log).all = log.filterMap Event.command? := by
  induction log using List.reverseRecOn with
  | nil => rfl
  | append_singleton log event ih =>
      obtain ⟨call, slot, before⟩ := event
      rw [ledger_append, List.foldl_cons, List.foldl_nil, List.filterMap_append, ← ih]
      cases call <;> simp [Ledger.after, Event.command?]

/-- The barriers of an image that were recorded on a tape so far, submitted or not. -/
def Tape.barriers (image : Image) (tape : Tape) : List ImageMemoryBarrier :=
  barriersIn image tape.ledger.all

namespace Tape

variable (image : Image) (tape : Tape)

/-- To begin a list records no barrier of any image. -/
theorem barriers_record {opening : List Command} (h : Opening opening) :
    (tape.record opening).barriers image = tape.barriers image := by
  unfold record
  split
  · rfl
  · simp [barriers, h.barriersIn]

/-- To end a list records no barrier of any image. -/
theorem barriers_stop : tape.stop.barriers image = tape.barriers image := by
  unfold stop
  split
  · simp [barriers, barriersIn_closing]
  · rfl

/-- To hand a list over records no barrier of any image. -/
theorem barriers_deliver : tape.deliver.barriers image = tape.barriers image := by
  unfold deliver
  split
  · simp [barriers]
  · rfl

/-- Moves record the barriers of an image that are among the commands they emit. -/
theorem barriers_moves {opening : Bool → List Command} (h : ∀ use, Opening (opening use))
    (moves : List Move) :
    (tape.moves opening moves).barriers image
      = tape.barriers image ++ barriersIn image (emitted moves) := by
  induction moves generalizing tape with
  | nil => simp [Tape.moves]
  | cons move moves ih =>
      have htail := ih (tape.move opening move)
      have hhead : (tape.move opening move).barriers image
          = tape.barriers image ++ barriersIn image move.emitted := by
        cases move with
        | record useRenderPass => simp [move, Move.emitted, barriers_record image tape (h _)]
        | each bound commands => simp [move, Move.emitted, barriers, emit]
        | markRecord | storeImageBarrier | storeBufferBarrier | synchronize =>
            simp [move, Move.emitted, barriers]
      rw [hhead, List.append_assoc, ← barriersIn_append, ← emitted_cons] at htail
      exact htail

end Tape

/-! ## What an operation does to an image -/

/-- The Vulkan layout that a world tracks for an image. -/
def World.vkLayout (world : World) (image : Image) : VkImageLayout :=
  Vulkan.convertLayout (world.imageLayout image)

/-- Commands whose barriers of an image lead from what it tracks in one world to what it tracks in
the other. -/
structure Leads (image : Image) (world : World) (commands : List Command) (world' : World) :
    Prop where
  linked : Linked (world.vkLayout image) (barriersIn image commands)
  last : lastLayout (world.vkLayout image) (barriersIn image commands) = world'.vkLayout image

namespace Leads

variable {image : Image} {world world' world'' : World} {xs ys : List Command}

/-- Commands without a barrier of the image, and a world that tracks the same layout. -/
theorem of_none (hcommands : barriersIn image xs = []) (hworld : world'.layouts = world.layouts) :
    Leads image world xs world' := by
  have hsame : world'.vkLayout image = world.vkLayout image := by
    rw [World.vkLayout, World.vkLayout, World.imageLayout, World.imageLayout, hworld]
  exact ⟨by simp [hcommands], by simp [hcommands, hsame]⟩

theorem append (h : Leads image world xs world') (h' : Leads image world' ys world'') :
    Leads image world (xs ++ ys) world'' where
  linked := by
    rw [barriersIn_append, linked_append, h.last]
    exact ⟨h.linked, h'.linked⟩
  last := by rw [barriersIn_append, lastLayout_append, h.last, h'.last]

end Leads

/-- The layout that a world tracks for an image is never `DepthStencil`, for no Vulkan layout is
read back as this one. -/
theorem imageLayout_ne_depthStencil (world : World) (image : Image) :
    world.imageLayout image ≠ .depthStencil := by
  unfold World.imageLayout
  cases world.layouts image.handle <;> decide

/-- So what it tracks never converts to the Vulkan layout of `DepthStencil`. -/
theorem vkLayout_ne_depthStencil (world : World) (image : Image) :
    world.vkLayout image ≠ .depthStencilAttachmentOptimal := by
  unfold World.vkLayout World.imageLayout
  cases world.layouts image.handle <;> decide

/-- Every layout but `DepthStencil` survives the conversion to a Vulkan layout and back. -/
theorem convertVkLayout_convertLayout {layout : ImageLayout} (h : layout ≠ .depthStencil) :
    Vulkan.convertVkLayout (Vulkan.convertLayout layout) = layout := by
  cases layout <;> first | rfl | exact absurd rfl h

/-- After a layout was set, the world tracks it for the image it was set on, as it comes out of both
conversions, and for others what it did. -/
theorem imageLayout_setLayout (world : World) (image target : Image) (layout : ImageLayout) :
    (world.setLayout target layout).imageLayout image =
      if target.handle = image.handle
      then Vulkan.convertVkLayout (Vulkan.convertLayout layout)
      else world.imageLayout image := by
  unfold World.imageLayout World.setLayout
  by_cases h : target.handle = image.handle
  · simp [h]
  · simp [h, Function.update_of_ne (Ne.symm h)]

/-- After a transition to a layout other than `DepthStencil`, the world tracks it for the image,
unless it is `Undefined`, and for others what it did. -/
theorem imageLayout_transition (world : World) (image target : Image) {layout : ImageLayout}
    (h : layout ≠ .depthStencil) :
    (transitionRecipe world target layout).2.imageLayout image =
      if target.handle = image.handle ∧ layout ≠ .undefined then layout
      else world.imageLayout image := by
  unfold transitionRecipe
  by_cases hundefined : layout = .undefined
  · simp [hundefined, Vulkan.convertLayout]
  · have hvk : Vulkan.convertLayout layout ≠ .undefined :=
      (Vulkan.convertLayout_eq_undefined_iff layout).not.mpr hundefined
    simp only [hvk, ne_eq, not_false_eq_true, if_true, imageLayout_setLayout,
      convertVkLayout_convertLayout h, hundefined, and_true]

/-- A transition emits one barrier, from the tracked layout to the new one, and none if that is
`Undefined`. -/
theorem emitted_transition (world : World) (target : Image) (layout : ImageLayout) :
    emitted (transitionRecipe world target layout).1 =
      if layout = .undefined then []
      else [.imageBarrier ⟨world.vkLayout target, Vulkan.convertLayout layout, target.handle,
        target.layers⟩] := by
  unfold transitionRecipe
  by_cases hundefined : layout = .undefined
  · simp [hundefined, Vulkan.convertLayout, Move.emitted]
  · have hvk : Vulkan.convertLayout layout ≠ .undefined :=
      (Vulkan.convertLayout_eq_undefined_iff layout).not.mpr hundefined
    simp [hvk, hundefined, Move.emitted, World.vkLayout]

/-- A transition leads from one tracked layout to the next, unless it is one of this image to
`DepthStencil`. -/
theorem leads_transition (world : World) (image target : Image) {layout : ImageLayout}
    (h : target.handle = image.handle → layout ≠ .depthStencil) :
    Leads image world (emitted (transitionRecipe world target layout).1)
      (transitionRecipe world target layout).2 := by
  rw [emitted_transition]
  by_cases hundefined : layout = .undefined
  · subst hundefined
    exact Leads.of_none rfl rfl
  rw [if_neg hundefined]
  by_cases hsame : target.handle = image.handle
  · have hlayout := h hsame
    have htracked : world.vkLayout target = world.vkLayout image := by
      rw [World.vkLayout, World.vkLayout, World.imageLayout, World.imageLayout, hsame]
    constructor
    · simp [barriersIn, Command.barrierOf, hsame, Linked, htracked]
    · simp [barriersIn, Command.barrierOf, hsame, lastLayout, World.vkLayout,
        imageLayout_transition world image target hlayout, hundefined]
  · -- a barrier of another image
    have hvk : Vulkan.convertLayout layout ≠ .undefined :=
      (Vulkan.convertLayout_eq_undefined_iff layout).not.mpr hundefined
    have hworld : (transitionRecipe world target layout).2.vkLayout image
        = world.vkLayout image := by
      simp [transitionRecipe, hvk, World.vkLayout, imageLayout_setLayout, hsame]
    constructor <;> simp [barriersIn, Command.barrierOf, hsame, hworld]

/-- A copy to an image leads from what it tracks to what it tracks after it. -/
theorem leads_copyBufferToImage (world : World) (image : Image) (src : BufferHandle) (dst : Image)
    (dstOffset : Nat) :
    Leads image world (emitted (copyBufferToImageRecipe world src dst dstOffset).1)
      (copyBufferToImageRecipe world src dst dstOffset).2 := by
  have hto : Leads image world (emitted (transitionRecipe world dst .transferDst).1)
      (transitionRecipe world dst .transferDst).2 :=
    leads_transition world image dst fun _ => by decide
  have hback := leads_transition (transitionRecipe world dst .transferDst).2 image dst
    fun _ => imageLayout_ne_depthStencil world dst
  rw [copyBufferToImageRecipe, emitted_append, emitted_cons]
  exact hto.append (Leads.append (Leads.of_none rfl rfl) hback)

/-- It leaves alone what the image tracked, unless that was `Undefined`. -/
theorem imageLayout_copyBufferToImage (world : World) (image : Image) (src : BufferHandle)
    (dst : Image) (dstOffset : Nat) (hdst : dst.handle = image.handle)
    (h : world.imageLayout image ≠ .undefined) :
    (copyBufferToImageRecipe world src dst dstOffset).2.imageLayout image
      = world.imageLayout image := by
  have htracked : world.imageLayout dst = world.imageLayout image := by
    rw [World.imageLayout, World.imageLayout, hdst]
  have hne := imageLayout_ne_depthStencil world dst
  show (transitionRecipe _ dst (world.imageLayout dst)).2.imageLayout image = _
  rw [imageLayout_transition _ image dst hne, if_pos ⟨hdst, htracked ▸ h⟩, htracked]

/-! ## Operations -/

/-- An operation is a transition of the image to a layout. -/
def RecordingOp.TransitionsTo (image : Image) (layout : ImageLayout) : RecordingOp → Prop
  | .transition target newLayout => target.handle = image.handle ∧ newLayout = layout
  | _ => False

instance (image : Image) (layout : ImageLayout) :
    DecidablePred (RecordingOp.TransitionsTo image layout)
  | .transition target newLayout =>
      inferInstanceAs (Decidable (target.handle = image.handle ∧ newLayout = layout))
  | .copyImage .. | .copyBuffer .. | .copyImageToBuffer .. | .copyBufferToImage .. | .upload ..
  | .uploadImage .. | .download .. | .downloadImage .. | .memoryBarrier .. | .memoryBarrierImage ..
  | .pipelineBarrier .. | .push .. | .draw .. | .drawIndexed .. | .drawInstancedIndexed ..
  | .drawInstanced .. => isFalse id

/-- A copy from a buffer to the image, or from the host through a staging buffer. -/
def RecordingOp.CopiesTo (image : Image) : RecordingOp → Prop
  | .copyBufferToImage _ dst _ | .uploadImage _ dst => dst.handle = image.handle
  | _ => False

section

variable {env : Environment} {pass : Option PassId} {device : Option Nat} {world : World}
  {op : RecordingOp} {recipe : List Move × World} (image : Image)

/-- Binding a renderer and what is recorded after it has no barrier. -/
theorem barriersIn_drawMoves (renderer : Renderer) (commands : List Command)
    (h : barriersIn image commands = []) :
    barriersIn image (emitted (drawMoves renderer commands)) = [] := by
  simp only [drawMoves, emitted_cons, emitted_nil, Move.emitted, List.nil_append, List.append_nil,
    barriersIn_append, h, Renderer.bindCommands]
  cases renderer.descriptor.set <;> rfl

/-- An upload to an image that returned found a staging buffer, copied the bytes to it, and is the
copy from there. -/
theorem exists_of_recipe_uploadImage {src : List UInt8} {dst : Image}
    (h : (RecordingOp.uploadImage src dst).recipe env pass device world = .ok recipe) :
    ∃ found staging, world.findStaging env device = some (found, staging) ∧
      recipe =
        ((copyBufferToImageRecipe (found.copyToDevice staging src dst.byteSize 0) staging.handle
            dst 0).1,
          (copyBufferToImageRecipe (found.copyToDevice staging src dst.byteSize 0) staging.handle
            dst 0).2.setLocked staging.id false) := by
  rw [RecordingOp.recipe] at h
  cases hfind : world.findStaging env device with
  | none =>
      rw [hfind] at h
      cases h
  | some pair =>
      obtain ⟨found, staging⟩ := pair
      rw [hfind] at h
      exact ⟨found, staging, rfl, (Except.ok.inj h).symm⟩

/-- **Every operation but a transition to `DepthStencil` leads from what the image tracks to what it
tracks after it.** -/
theorem RecordingOp.leads (h : op.recipe env pass device world = .ok recipe)
    (hop : ¬ op.TransitionsTo image .depthStencil) :
    Leads image world (emitted recipe.1) recipe.2 := by
  cases op with
  | transition target layout =>
      cases h
      exact leads_transition world image target fun hsame heq => hop ⟨hsame, heq⟩
  | copyBufferToImage src dst dstOffset =>
      cases h
      exact leads_copyBufferToImage world image src.handle dst dstOffset
  | upload src dst copyAmt elementSize srcOffset dstOffset =>
      rw [RecordingOp.recipe] at h
      cases hfind : world.findStaging env device <;> rw [hfind] at h <;> cases h
      have hfound := World.layouts_findStaging hfind
      exact Leads.of_none rfl hfound
  | uploadImage src dst =>
      obtain ⟨found, staging, hfind, rfl⟩ := exists_of_recipe_uploadImage h
      have hfound := World.layouts_findStaging hfind
      have hwritten : Leads image world [] (found.copyToDevice staging src dst.byteSize 0) :=
        Leads.of_none rfl hfound
      have hcopied := leads_copyBufferToImage (found.copyToDevice staging src dst.byteSize 0) image
        staging.handle dst 0
      exact hwritten.append ⟨hcopied.linked, hcopied.last⟩
  | download src dst copyAmt elementSize srcOffset dstOffset =>
      obtain ⟨found, staging, hfind, -, rfl⟩ := exists_of_recipe_download h
      have hfound := World.layouts_findStaging hfind
      exact Leads.of_none rfl hfound
  | downloadImage src dst =>
      obtain ⟨found, staging, hfind, -, rfl⟩ := exists_of_recipe_downloadImage h
      have hfound := World.layouts_findStaging hfind
      exact Leads.of_none rfl hfound
  | copyImage | copyBuffer | copyImageToBuffer | memoryBarrier | memoryBarrierImage
  | pipelineBarrier =>
      cases h
      exact Leads.of_none rfl rfl
  | push renderer value offset =>
      cases h
      refine Leads.of_none ?_ rfl
      simp only [emitted_cons, emitted_nil, Move.emitted, pushCommands]
      split <;> rfl
  | draw | drawIndexed | drawInstancedIndexed | drawInstanced =>
      cases h
      exact Leads.of_none (barriersIn_drawMoves image _ _ rfl) rfl

/-- A copy to the image leaves alone what it tracked, unless that was `Undefined`. -/
theorem RecordingOp.imageLayout_copiesTo (h : op.recipe env pass device world = .ok recipe)
    (hop : op.CopiesTo image) (hlayout : world.imageLayout image ≠ .undefined) :
    recipe.2.imageLayout image = world.imageLayout image := by
  cases op with
  | copyBufferToImage src dst dstOffset =>
      cases h
      exact imageLayout_copyBufferToImage world image src.handle dst dstOffset hop hlayout
  | uploadImage src dst =>
      obtain ⟨found, staging, hfind, rfl⟩ := exists_of_recipe_uploadImage h
      have hfound : (found.copyToDevice staging src dst.byteSize 0).imageLayout image
          = world.imageLayout image := by
        show Vulkan.convertVkLayout (found.layouts image.handle) = _
        rw [World.layouts_findStaging hfind, World.imageLayout]
      exact (imageLayout_copyBufferToImage _ image staging.handle dst 0 hop
        (hfound ▸ hlayout)).trans hfound
  | _ => exact absurd hop id

end

/-! ## Runs -/

/-- **The invariant.** The barriers of the image are linked from `Undefined` on, and the image
tracks the layout in which they leave it. -/
structure Session.Tracks (s : Session) (image : Image) : Prop where
  linked : Linked .undefined (barriersOf image s.data.cmd.log)
  last : s.world.vkLayout image = lastLayout .undefined (barriersOf image s.data.cmd.log)

/-- What an operation has to do: it keeps the barriers of the image linked and what it tracks in
step with them, and as a copy to the image it restores what the image tracked, unless that was
`Undefined`. -/
def ListOp.KeepsBarriers (env : Environment) (image : Image) (s : Session) (op : ListOp) : Prop :=
  ∀ t, op.step env s = .ok t → t.Tracks image ∧
    ∀ copy, op = .recording copy → copy.CopiesTo image → s.world.imageLayout image ≠ .undefined →
      t.world.imageLayout image = s.world.imageLayout image

/-- A transition of the image to `DepthStencil`, whose Vulkan layout converts back to
`Undefined`. -/
def ListOp.ToDepthStencil (image : Image) : ListOp → Prop
  | .recording op => op.TransitionsTo image .depthStencil
  | _ => False

instance (image : Image) : DecidablePred (ListOp.ToDepthStencil image)
  | .recording op => inferInstanceAs (Decidable (op.TransitionsTo image .depthStencil))
  | .begin | .stop | .submit | .synchronize => isFalse id

/-- The barriers of an image in the log of a chain are those that were recorded on its tape. -/
theorem barriersOf_log (image : Image) (data : ChainData) :
    barriersOf image data.cmd.log = data.tape.barriers image := by
  rw [barriersOf, ← all_ledger]
  rfl

/-- To hand a list to the queue changes no layout that the world tracks. -/
theorem layouts_submit (env : Environment) (list : CommandList) :
    (list.submit env).world.layouts = list.world.layouts := by
  by_cases h : list.tape.stop.Ready
  · simp only [CommandList.submit, h, if_true, World.advancePass]
    cases list.pass <;> rfl
  · simp only [CommandList.submit, h, if_false]

/-- An operation of a list that is no transition to `DepthStencil` leads from what the image tracks
to what it tracks after it. -/
theorem CommandList.leads_step {env : Environment} {list list' : CommandList} {op : ListOp}
    (image : Image) (hop : ¬ op.ToDepthStencil image) (h : list.step env op = .ok list') :
    ∃ commands, Leads image list.world commands list'.world ∧
      list'.tape.barriers image = list.tape.barriers image ++ barriersIn image commands := by
  cases op with
  | begin =>
      cases h
      exact ⟨[], Leads.of_none rfl rfl,
        by simp [Tape.barriers_record image list.tape (list.opening_spec _)]⟩
  | stop =>
      cases h
      exact ⟨[], Leads.of_none rfl rfl, by simp [Tape.barriers_stop]⟩
  | submit =>
      cases h
      refine ⟨[], Leads.of_none rfl (layouts_submit env list), ?_⟩
      simp [tape_submit, Tape.barriers_deliver, Tape.barriers_stop]
  | synchronize =>
      cases h
      exact ⟨[], Leads.of_none rfl rfl, by simp⟩
  | recording op =>
      obtain ⟨recipe, hrecipe, rfl⟩ := exists_of_map_eq_ok h
      exact ⟨emitted recipe.1, RecordingOp.leads image hrecipe hop,
        Tape.barriers_moves image list.tape list.opening_spec recipe.1⟩

/-- An operation that is no transition to `DepthStencil` keeps the invariant. -/
theorem Session.Tracks.step {env : Environment} {s t : Session} {op : ListOp} {image : Image}
    (hseq : s.data.Sequential) (h : s.Tracks image) (hop : ¬ op.ToDepthStencil image)
    (hstep : op.step env s = .ok t) : t.Tracks image := by
  have hlist : s.list.step env op = .ok t.list := by
    rw [← Session.step_list hseq, hstep]
    rfl
  obtain ⟨commands, hleads, hbarriers⟩ := CommandList.leads_step image hop hlist
  have hall : barriersOf image t.data.cmd.log
      = barriersOf image s.data.cmd.log ++ barriersIn image commands := by
    rw [barriersOf_log, barriersOf_log]
    exact hbarriers
  have hfrom : lastLayout .undefined (barriersOf image s.data.cmd.log) = s.world.vkLayout image :=
    h.last.symm
  constructor
  · rw [hall, linked_append, hfrom]
    exact ⟨h.linked, hleads.linked⟩
  · rw [hall, lastLayout_append, hfrom]
    exact hleads.last.symm

/-- An operation does with the barriers of an image what it has to, unless it is a transition of
the image to `DepthStencil`. -/
theorem ListOp.keepsBarriers_iff {env : Environment} {s : Session} {image : Image}
    (hseq : s.data.Sequential) (h : s.Tracks image) (op : ListOp) :
    op.KeepsBarriers env image s ↔ ¬ op.ToDepthStencil image := by
  constructor
  · intro hkeeps hto
    cases op with
    | recording op =>
        cases op with
        | transition target layout =>
            obtain ⟨hsame, rfl⟩ := hto
            obtain ⟨htracks, -⟩ := hkeeps _ rfl
            have hlist : (s.transition target .depthStencil).list
                = s.list.follow (transitionRecipe s.world target .depthStencil) :=
              Except.ok.inj
                (@Session.step_list env s (.recording (.transition target .depthStencil)) hseq)
            have hbarriers : barriersOf image (s.transition target .depthStencil).data.cmd.log
                = barriersOf image s.data.cmd.log ++ barriersIn image
                  (emitted (transitionRecipe s.world target .depthStencil).1) := by
              rw [barriersOf_log, barriersOf_log]
              exact (congrArg (fun list => list.tape.barriers image) hlist).trans
                (Tape.barriers_moves image _ s.list.opening_spec _)
            -- the barrier leaves the image in a layout that no image tracks
            have hlast := htracks.last
            rw [hbarriers, lastLayout_append, emitted_transition, if_neg (by decide)] at hlast
            simp only [barriersIn, List.filterMap_cons, Command.barrierOf, hsame, if_true] at hlast
            exact vkLayout_ne_depthStencil _ image hlast
        | _ => exact hto
    | _ => exact hto
  · intro hop t hstep
    refine ⟨h.step hseq hop hstep, ?_⟩
    rintro copy rfl hcopy hlayout
    have hlist : s.list.step env (.recording copy) = .ok t.list := by
      rw [← Session.step_list hseq, hstep]
      rfl
    rw [CommandList.step] at hlist
    cases hrecipe : copy.recipe env s.list.pass s.list.device s.list.world with
    | error failure =>
        rw [hrecipe] at hlist
        cases hlist
    | ok recipe =>
        rw [hrecipe] at hlist
        have hworld : t.world = recipe.2 := congrArg CommandList.world (Except.ok.inj hlist).symm
        rw [hworld]
        exact RecordingOp.imageLayout_copiesTo image hrecipe hcopy hlayout

/-- A chain that was just initialised tracks an image whose layout is undefined. -/
theorem tracks_justInitialized {env : Environment} {s : Session} {image : Image}
    (hinit : s.data.JustInitialized env s.world.passes)
    (hlayout : s.world.layouts image.handle = .undefined) : s.Tracks image := by
  have hlog : barriersOf image s.data.cmd.log = [] := by
    rw [hinit.fresh.log]
    rfl
  constructor
  · rw [hlog]
    exact linked_nil _
  · rw [hlog, World.vkLayout, World.imageLayout, hlayout]
    rfl

/-- **Image barriers are linked.** In a run of a chain left in `Sequential` mode, each operation
keeps the barriers of an image linked, what the image tracks in step with them, and a copy to the
image what it tracked, if and only if no operation is a transition of the image to
`DepthStencil`. -/
theorem barriers_linked_iff (env : Environment) (s : Session) (image : Image) (ops : List ListOp)
    (hinit : s.data.JustInitialized env s.world.passes)
    (hlayout : s.world.layouts image.handle = .undefined) :
    StepsMeet (ListOp.step env) (fun s op => op.KeepsBarriers env image s) s ops ↔
      StepsMeet (ListOp.step env) (fun _ op => ¬ op.ToDepthStencil image) s ops :=
  stepsMeet_congr (fun s => s.data.Sequential ∧ s.Tracks image)
    (fun _ op h => op.keepsBarriers_iff h.1 h.2)
    (fun _ _ _ h hop hstep => ⟨Session.sequential_step h.1 hstep, h.2.step h.1 hop hstep⟩)
    ⟨hinit.fresh.sequential_data, tracks_justInitialized hinit hlayout⟩

/-- An image is laid out for a shader, copied to in a recording of its own, and laid out again. -/
def layoutOps (image : Image) : List ListOp :=
  [.recording (.transition image .shaderRead), .submit,
    .recording (.copyBufferToImage ⟨.array 0, 0⟩ image 0),
    .recording (.transition image .presentSrc)]

/-- Each of these operations keeps the barriers of the image linked. -/
theorem barriers_linked_layoutOps :
    StepsMeet (ListOp.step .inert)
      (fun s op => op.KeepsBarriers .inert ⟨0, 2, 2, 1, 16, ⟨0, 1⟩⟩ s) .newGraphics
      (layoutOps ⟨0, 2, 2, 1, 16, ⟨0, 1⟩⟩) :=
  (barriers_linked_iff .inert .newGraphics ⟨0, 2, 2, 1, 16, ⟨0, 1⟩⟩ _ (.type 0 .graphics) rfl).mpr
    (by decide +kernel)

/-- A transition to `DepthStencil` leaves the image with the layout `Undefined`. -/
theorem not_barriers_linked :
    ¬ ∀ (env : Environment) (s : Session) (image : Image) (ops : List ListOp),
      s.data.JustInitialized env s.world.passes → s.world.layouts image.handle = .undefined →
        StepsMeet (ListOp.step env) (fun s op => op.KeepsBarriers env image s) s ops := by
  intro h
  have hkeeps := (h .inert .newGraphics ⟨0, 2, 2, 1, 16, ⟨0, 1⟩⟩
    [.recording (.transition ⟨0, 2, 2, 1, 16, ⟨0, 1⟩⟩ .depthStencil)] (.type 0 .graphics) rfl).1
  have hlast := (hkeeps _ rfl).1.last
  revert hlast
  decide +kernel

end Nyx
