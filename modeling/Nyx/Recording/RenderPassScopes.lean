import Nyx.Recording.Pages
import Nyx.Recording.SubmittedLists

/-! # Draws and transfers between render passes

A recording is begun by whichever operation comes first, with or without the render pass of the
chain; the operations after it only look at the recording flag. This file says for which sequences
of operations every draw is recorded inside a render pass and every copy and image barrier outside.

* **`passActive`** — whether a render pass is active after some commands.
* **`Event.PassLawful`** — a draw needs an active render pass, a transfer none.
* **`Phase`**, **`Separated`** — the condition: in each stretch from the operation that begins a
  recording to the next end or submit, draws come only where the first one uses the render pass, and
  transfers only where it does not.
* **`pass_lawful_iff`** — exactly the separated sequences record lawfully. -/

namespace Nyx

open Foundations

/-! ## The law -/

/-- Whether a render pass is active after a command, when one was active before or not. -/
def Command.scope (active : Bool) : Command → Bool
  | .beginRenderPass _ _ => true
  | .endRenderPass => false
  | _ => active

/-- Whether a render pass is active after some commands. -/
def passActive (commands : List Command) : Bool := commands.foldl Command.scope false

/-- Whether a command is a draw command. -/
def Command.isDraw : Command → Bool
  | .draw .. | .drawIndexed .. => true
  | _ => false

/-- Whether a command is a copy command or an image barrier. -/
def Command.isTransfer : Command → Bool
  | .copyBuffer .. | .copyImage .. | .copyImageToBuffer .. | .copyBufferToImage ..
  | .imageBarrier .. => true
  | _ => false

/-- Whether a command may be recorded while a render pass is active, or while none is. -/
def Command.Allowed (active : Bool) (command : Command) : Prop :=
  (command.isDraw = true → active = true) ∧ (command.isTransfer = true → active = false)

instance (active : Bool) (command : Command) : Decidable (command.Allowed active) :=
  inferInstanceAs (Decidable (_ ∧ _))

/-- A command is recorded into a buffer where it is allowed. -/
def Event.PassLawful (event : Event) : Prop :=
  match event.call with
  | .command command => command.Allowed (passActive event.before.commands)
  | .waitForFences | .resetFences | .beginBuffer _ | .endBuffer | .submit => True

instance : DecidablePred Event.PassLawful
  | ⟨.command command, _, before⟩ =>
      inferInstanceAs (Decidable (command.Allowed (passActive before.commands)))
  | ⟨.waitForFences, _, _⟩ | ⟨.resetFences, _, _⟩ | ⟨.beginBuffer _, _, _⟩ | ⟨.endBuffer, _, _⟩
  | ⟨.submit, _, _⟩ => isTrue trivial

/-- A command that neither begins nor ends a render pass. -/
def Command.Inner (command : Command) : Prop := ∀ active, command.scope active = active

theorem passActive_append (xs ys : List Command) :
    passActive (xs ++ ys) = ys.foldl Command.scope (passActive xs) :=
  List.foldl_append

/-- Commands that neither begin nor end a render pass change nothing about which one is active. -/
theorem passActive_append_inner {xs ys : List Command} (h : ∀ command ∈ ys, command.Inner) :
    passActive (xs ++ ys) = passActive xs := by
  rw [passActive_append]
  generalize passActive xs = active
  induction ys with
  | nil => rfl
  | cons command ys ih =>
      rw [List.foldl_cons, h command List.mem_cons_self]
      exact ih fun command hmem => h command (List.mem_cons_of_mem _ hmem)

/-! ## The calls of each action -/

/-- Commands that are allowed in a render pass and outside of it are recorded lawfully, whatever the
slot holds. -/
theorem passLawful_of_allowed {i : Nat} {vk : VkSlot} {commands : List Command}
    (h : ∀ command ∈ commands, ∀ active, command.Allowed active) {event : Event}
    (hevent : event ∈ callEvents i vk (commands.map .command)) : event.PassLawful := by
  induction commands generalizing vk with
  | nil => exact absurd hevent List.not_mem_nil
  | cons command commands ih =>
      rw [List.map_cons, callEvents, List.mem_cons] at hevent
      rcases hevent with rfl | hevent
      · exact h command List.mem_cons_self _
      · exact ih (fun command hmem => h command (List.mem_cons_of_mem _ hmem)) hevent

/-- Inner commands are recorded lawfully exactly when each is allowed. -/
theorem passLawful_commands_iff {i : Nat} {vk : VkSlot} {commands : List Command}
    (hrec : vk.state = .recording) (hinner : ∀ command ∈ commands, command.Inner) :
    (∀ event ∈ callEvents i vk (commands.map .command), event.PassLawful) ↔
      ∀ command ∈ commands, command.Allowed (passActive vk.commands) := by
  induction commands generalizing vk with
  | nil => simp [callEvents]
  | cons command commands ih =>
      have hnext : vk.perform (.command command)
          = { vk with commands := vk.commands ++ [command] } := by
        rw [VkSlot.perform, if_pos hrec]
      have hsame : passActive (vk.commands ++ [command]) = passActive vk.commands :=
        passActive_append_inner fun other hmem => by
          rw [List.mem_singleton.mp hmem]
          exact hinner command List.mem_cons_self
      have htail := @ih { vk with commands := vk.commands ++ [command] } hrec
        fun other hmem => hinner other (List.mem_cons_of_mem _ hmem)
      rw [List.map_cons, callEvents, List.forall_mem_cons, List.forall_mem_cons, hnext, htail,
        hsame]
      exact Iff.rfl

/-- What a recording begins with is allowed in a render pass and outside of it. -/
theorem Opening.allowed {commands : List Command} (h : Opening commands) :
    ∀ command ∈ commands, ∀ active, command.Allowed active := by
  rcases h with rfl | ⟨info, contents, rfl⟩
  · simp
  · simp [Command.Allowed, Command.isDraw, Command.isTransfer]

/-- To begin a slot makes lawful calls, whatever it held. -/
theorem SlotAction.passLawful_begin {info : BeginInfo} {opening : List Command} {started : Bool}
    (h : Opening opening) {i : Nat} {slot : Slot} {event : Event}
    (hevent : event ∈ (begin info opening started).events i slot) : event.PassLawful := by
  rw [events, begin] at hevent
  cases hs : slot.isSignaled with
  | true =>
      simp only [hs, if_true, List.cons_append, List.nil_append, callEvents, List.mem_cons]
        at hevent
      rcases hevent with rfl | rfl | rfl | hevent
      · trivial
      · trivial
      · trivial
      · exact passLawful_of_allowed h.allowed hevent
  | false =>
      simp only [hs, Bool.false_eq_true, if_false, List.nil_append, callEvents, List.mem_cons]
        at hevent
      rcases hevent with rfl | hevent
      · trivial
      · exact passLawful_of_allowed h.allowed hevent

/-- To stop a slot makes lawful calls, whatever it holds. -/
theorem SlotAction.passLawful_stop {i : Nat} {slot : Slot} {event : Event}
    (hevent : event ∈ stop.events i slot) : event.PassLawful := by
  rw [events, stop] at hevent
  cases hs : slot.startedRenderPass <;> simp [hs, callEvents] at hevent
  · rw [hevent]
    trivial
  · rcases hevent with rfl | rfl
    · exact ⟨fun h => absurd h (by decide), fun h => absurd h (by decide)⟩
    · trivial

/-! ## Moves -/

/-- A move that neither begins a recording nor emits a command. -/
def Move.Quiet : Move → Prop
  | .record _ | .each _ _ => False
  | .storeImageBarrier _ | .storeBufferBarrier _ | .markRecord | .synchronize _ => True

instance : DecidablePred Move.Quiet
  | .record _ | .each _ _ => isFalse not_false
  | .storeImageBarrier _ | .storeBufferBarrier _ | .markRecord | .synchronize _ => isTrue trivial

/-- A page whose render pass is the one its commands leave active. -/
def Page.Scoped (page : Page) : Prop :=
  page.state = .recording → passActive page.commands = page.inPass

/-- Beginning a page leaves the render pass of its opening active. -/
theorem Page.Scoped.record {page : Page} (h : page.Scoped) {opening : List Command}
    (hopening : Opening opening) :
    (page.record opening).Scoped := by
  unfold Page.record
  split
  · exact h
  · rintro -
    rcases hopening with rfl | ⟨info, contents, rfl⟩ <;> rfl

namespace ChainData

variable {data : ChainData} {page : Page}

/-- A recording of a chain begins with nothing or with its render pass. -/
theorem opening_spec (data : ChainData) (passes : PassId → RenderPass) (useRenderPass : Bool) :
    Opening (data.opening passes useRenderPass) := by
  unfold opening
  split
  · exact Or.inl rfl
  · split
    · exact Or.inr ⟨_, _, rfl⟩
    · exact Or.inl rfl

/-- A `record` of a chain makes lawful calls, and leaves those from before as they were. -/
theorem Paged.passLawful_record (h : data.Paged page) (passes : PassId → RenderPass)
    (useRenderPass : Bool) :
    (∀ event ∈ (data.record passes useRenderPass).cmd.log, event.PassLawful) ↔
      ∀ event ∈ data.cmd.log, event.PassLawful := by
  cases hrec : data.cmd.recording with
  | true =>
      rw [record_of_recording hrec]
      exact Iff.rfl
  | false =>
      rw [record_of_not_recording hrec, broadcast_log_iff h.toOnRing
        (h.toOnRing.performs_recordBody passes useRenderPass)]
      exact and_iff_left fun i _ _ event hevent =>
        SlotAction.passLawful_begin (data.opening_spec passes useRenderPass) hevent

/-- Recording inner commands is lawful exactly when each is allowed on the page. -/
theorem Paged.passLawful_each (h : data.Paged page) (hrec : data.cmd.recording = true)
    (hscoped : page.Scoped) (bound : Option PipelineState) {commands : List Command}
    (hinner : ∀ command ∈ commands, command.Inner) :
    (∀ event ∈ (data.broadcast (·.issueBound bound commands)).cmd.log, event.PassLawful) ↔
      (∀ event ∈ data.cmd.log, event.PassLawful) ∧
        ∀ command ∈ commands, command.Allowed page.inPass := by
  have hstate := h.recording.mp hrec
  have hslot : ∀ i < commandBufferCount, data.Visits i →
      ((∀ event ∈ (SlotAction.emit commands).events i (data.cmd.slots i), event.PassLawful) ↔
        ∀ command ∈ commands, command.Allowed page.inPass) := by
    intro i hi hvisit
    have hpage := h.pages i hi hvisit
    have hcommands : (data.cmd.slots i).vk.commands = page.commands := congrArg Page.commands hpage
    have hlaw := passLawful_commands_iff (i := i)
      ((congrArg Page.state hpage).trans hstate) hinner
    rw [hcommands, hscoped hstate] at hlaw
    exact hlaw
  rw [broadcast_log_iff h.toOnRing (CommandBuffer.performs_issueBound bound commands)]
  refine and_congr_right fun _ => ⟨fun hall => ?_, fun hall i hi hvisit => ?_⟩
  · -- the slot under the cursor is always visited
    exact (hslot _ h.cursor (Or.inr rfl)).mp (hall _ h.cursor (Or.inr rfl))
  · exact (hslot i hi hvisit).mpr hall

/-- An `end` of a chain makes lawful calls, and leaves those from before as they were. -/
theorem Paged.passLawful_stop (h : data.Paged page) :
    (∀ event ∈ data.stop.cmd.log, event.PassLawful) ↔ ∀ event ∈ data.cmd.log, event.PassLawful := by
  unfold ChainData.stop
  split
  · have hbody : data.cmd.Performs CommandBuffer.stop .stop (fun _ => false) :=
      CommandBuffer.performs_stop
    exact (broadcast_log_iff h.toOnRing hbody).trans
      (and_iff_left fun _ _ _ _ hevent => SlotAction.passLawful_stop hevent)
  · exact Iff.rfl

/-- A quiet move leaves the page of a chain and its log alone. -/
theorem Paged.quiet (h : data.Paged page) (passes : PassId → RenderPass) {move : Move}
    (hquiet : move.Quiet) :
    data.Turns (data.move passes move) (page.move (data.opening passes) move) ∧
      page.move (data.opening passes) move = page ∧
      (data.move passes move).cmd.log = data.cmd.log ∧ move.emitted = [] := by
  cases move with
  | storeImageBarrier | storeBufferBarrier | markRecord =>
      exact ⟨⟨h.of_eq rfl rfl rfl rfl, rfl, rfl, rfl, rfl⟩, rfl, rfl, rfl⟩
  | synchronize device =>
      rw [ChainData.move]
      rcases data.deviceSynchronize_cases (device.or data.cmd.queue.device) with same | same
      · rw [same]
        exact ⟨h.complete, rfl, rfl, rfl⟩
      · rw [same]
        exact ⟨h.refl, rfl, rfl, rfl⟩
  | record | each => exact hquiet.elim

/-- The moves of an operation on a chain that is being recorded are lawful exactly when the commands
they emit are allowed on the page. -/
theorem Paged.passLawful_moves_of_recording (h : data.Paged page) (passes : PassId → RenderPass)
    {moves : List Move} (hrec : data.cmd.recording = true) (hscoped : page.Scoped)
    (hinner : ∀ command ∈ emitted moves, command.Inner) :
    ((∀ event ∈ (data.moves passes moves).cmd.log, event.PassLawful) ↔
        (∀ event ∈ data.cmd.log, event.PassLawful) ∧
          ∀ command ∈ emitted moves, command.Allowed page.inPass) ∧
      (page.moves (data.opening passes) moves).Scoped ∧
      (page.moves (data.opening passes) moves).inPass = page.inPass := by
  induction moves generalizing data page with
  | nil => exact ⟨by simp [ChainData.moves], hscoped, rfl⟩
  | cons move moves ih =>
      have hrest : ∀ command ∈ emitted moves, command.Inner := fun command hmem =>
        hinner command (by simp [hmem])
      have next : ∀ {page' : Page}, data.Turns (data.move passes move) page' →
          page' = page.move (data.opening passes) move →
          page'.state = .recording → page'.Scoped → page'.inPass = page.inPass →
          ((∀ event ∈ (data.move passes move).cmd.log, event.PassLawful) ↔
            (∀ event ∈ data.cmd.log, event.PassLawful) ∧
              ∀ command ∈ move.emitted, command.Allowed page.inPass) →
          ((∀ event ∈ (data.moves passes (move :: moves)).cmd.log, event.PassLawful) ↔
              (∀ event ∈ data.cmd.log, event.PassLawful) ∧
                ∀ command ∈ emitted (move :: moves), command.Allowed page.inPass) ∧
            (page.moves (data.opening passes) (move :: moves)).Scoped ∧
            (page.moves (data.opening passes) (move :: moves)).inPass = page.inPass := by
        rintro page' hturn rfl hstate hscoped' hpass hlaw
        obtain ⟨htail, hscoped'', hpass'⟩ :=
          ih hturn.paged (hturn.paged.recording.mpr hstate) hscoped' hrest
        rw [opening_congr passes hturn.pass hturn.setup] at hscoped'' hpass'
        refine ⟨?_, hscoped'', hpass'.trans hpass⟩
        rw [emitted_cons, List.forall_mem_append, ← and_assoc, ← hlaw, ← hpass]
        exact htail
      have hstate := h.recording.mp hrec
      by_cases hquiet : move.Quiet
      · obtain ⟨hturn, hsame, hlog, hemitted⟩ := h.quiet passes hquiet
        rw [hsame] at hturn
        exact next hturn hsame.symm hstate hscoped rfl (by rw [hlog, hemitted]; simp)
      cases move with
      | storeImageBarrier | storeBufferBarrier | markRecord | synchronize =>
          exact absurd trivial hquiet
      | record useRenderPass =>
          have hturn := h.record passes useRenderPass
          have hkeep : page.record (data.opening passes useRenderPass) = page := by
            rw [Page.record, if_pos hstate]
          rw [hkeep] at hturn
          refine next hturn hkeep.symm hstate hscoped rfl ?_
          rw [ChainData.move, h.passLawful_record]
          simp [Move.emitted]
      | each bound commands =>
          have hcommands : ∀ command ∈ commands, command.Inner := fun command hmem =>
            hinner command (by simp [Move.emitted, hmem])
          refine next (h.each hrec bound commands) rfl hstate ?_ rfl
            (h.passLawful_each hrec hscoped bound hcommands)
          intro _
          show passActive (page.commands ++ commands) = page.inPass
          rw [passActive_append_inner hcommands, hscoped hstate]

/-- **The moves of an operation** are lawful exactly when the commands they emit are allowed on the
page that their first `record` leaves. -/
theorem Paged.passLawful_moves (h : data.Paged page) (passes : PassId → RenderPass)
    {moves : List Move} {useRenderPass : Bool} (hscoped : page.Scoped)
    (hfirst : firstRecord moves = some useRenderPass) (hmoves : Recorded false moves)
    (hinner : ∀ command ∈ emitted moves, command.Inner) :
    ((∀ event ∈ (data.moves passes moves).cmd.log, event.PassLawful) ↔
        (∀ event ∈ data.cmd.log, event.PassLawful) ∧
          ∀ command ∈ emitted moves,
            command.Allowed (page.record (data.opening passes useRenderPass)).inPass) ∧
      (page.moves (data.opening passes) moves).Scoped ∧
      (page.moves (data.opening passes) moves).inPass
        = (page.record (data.opening passes useRenderPass)).inPass := by
  induction moves generalizing data page with
  | nil => cases hfirst
  | cons move moves ih =>
      have hrest : ∀ command ∈ emitted moves, command.Inner := fun command hmem =>
        hinner command (by simp [hmem])
      by_cases hquiet : move.Quiet
      · -- the first `record` is still to come
        obtain ⟨hturn, hsame, hlog, hemitted⟩ := h.quiet passes hquiet
        rw [hsame] at hturn
        have htail : firstRecord moves = some useRenderPass ∧ Recorded false moves := by
          cases move with
          | storeImageBarrier | storeBufferBarrier | markRecord | synchronize =>
              exact ⟨hfirst, hmoves⟩
          | record | each => exact hquiet.elim
        have hnext := ih hturn.paged hscoped htail.1 htail.2 hrest
        rw [opening_congr passes hturn.pass hturn.setup, hlog] at hnext
        rw [emitted_cons, hemitted, List.nil_append]
        show _ ∧ (Page.moves _ (page.move _ move) moves).Scoped ∧
          (Page.moves _ (page.move _ move) moves).inPass = _
        rw [hsame]
        exact hnext
      cases move with
      | storeImageBarrier | storeBufferBarrier | markRecord | synchronize =>
          exact absurd trivial hquiet
      | each bound commands => exact absurd hmoves.1 Bool.false_ne_true
      | record use =>
          cases hfirst
          have hturn := h.record passes useRenderPass
          have hnow := hturn.paged.recording.mpr (Page.state_record ..)
          have hnext := hturn.paged.passLawful_moves_of_recording passes hnow
            (hscoped.record (data.opening_spec passes useRenderPass)) hrest
          rw [opening_congr passes hturn.pass hturn.setup, h.passLawful_record] at hnext
          exact hnext

end ChainData

/-! ## What the operations emit -/

/-- An operation is one of the four draws. -/
def RecordingOp.Draws : RecordingOp → Prop
  | .draw .. | .drawIndexed .. | .drawInstancedIndexed .. | .drawInstanced .. => True
  | .transition .. | .copyImage .. | .copyBuffer .. | .copyImageToBuffer .. | .copyBufferToImage ..
  | .upload .. | .uploadImage .. | .download .. | .downloadImage .. | .memoryBarrier ..
  | .memoryBarrierImage .. | .pipelineBarrier .. | .push .. => False

instance : DecidablePred RecordingOp.Draws
  | .draw .. | .drawIndexed .. | .drawInstancedIndexed .. | .drawInstanced .. => isTrue trivial
  | .transition .. | .copyImage .. | .copyBuffer .. | .copyImageToBuffer .. | .copyBufferToImage ..
  | .upload .. | .uploadImage .. | .download .. | .downloadImage .. | .memoryBarrier ..
  | .memoryBarrierImage .. | .pipelineBarrier .. | .push .. => isFalse not_false

/-- The copies, and the transitions that are not to the layout `Undefined`. -/
def RecordingOp.Transfers : RecordingOp → Prop
  | .transition _ layout => layout ≠ .undefined
  | .copyImage .. | .copyBuffer .. | .copyImageToBuffer .. | .copyBufferToImage ..
  | .upload .. | .uploadImage .. | .download .. | .downloadImage .. => True
  | .memoryBarrier .. | .memoryBarrierImage .. | .pipelineBarrier .. | .push ..
  | .draw .. | .drawIndexed .. | .drawInstancedIndexed .. | .drawInstanced .. => False

instance : DecidablePred RecordingOp.Transfers
  | .transition _ layout => inferInstanceAs (Decidable (layout ≠ .undefined))
  | .copyImage .. | .copyBuffer .. | .copyImageToBuffer .. | .copyBufferToImage ..
  | .upload .. | .uploadImage .. | .download .. | .downloadImage .. => isTrue trivial
  | .memoryBarrier .. | .memoryBarrierImage .. | .pipelineBarrier .. | .push ..
  | .draw .. | .drawIndexed .. | .drawInstancedIndexed .. | .drawInstanced .. => isFalse not_false

/-- The commands of an operation: they are inner, there is a draw command among them when it draws,
and a copy or an image barrier when it transfers. -/
structure RecordingOp.Emits (op : RecordingOp) (commands : List Command) : Prop where
  inner : ∀ command ∈ commands, command.Inner
  draws : (∃ command ∈ commands, command.isDraw = true) ↔ op.Draws
  transfers : (∃ command ∈ commands, command.isTransfer = true) ↔ op.Transfers

/-- The commands of an operation are allowed where it may draw or transfer. -/
theorem RecordingOp.Emits.allowed_iff {op : RecordingOp} {commands : List Command}
    (h : op.Emits commands) (active : Bool) :
    (∀ command ∈ commands, command.Allowed active) ↔
      (op.Draws → active = true) ∧ (op.Transfers → active = false) := by
  rw [← h.draws, ← h.transfers]
  constructor
  · intro hall
    exact ⟨fun ⟨command, hmem, hdraw⟩ => (hall command hmem).1 hdraw,
      fun ⟨command, hmem, htransfer⟩ => (hall command hmem).2 htransfer⟩
  · rintro ⟨hdraws, htransfers⟩ command hmem
    exact ⟨fun hdraw => hdraws ⟨command, hmem, hdraw⟩,
      fun htransfer => htransfers ⟨command, hmem, htransfer⟩⟩

/-- A transition emits its barrier, unless it is to the layout `Undefined`. -/
theorem emits_transitionRecipe (world : World) (image : Image) (layout : ImageLayout) :
    (RecordingOp.transition image layout).Emits
      (emitted (transitionRecipe world image layout).1) := by
  have hsilent := Vulkan.convertLayout_eq_undefined_iff layout
  by_cases h : Vulkan.convertLayout layout = .undefined
  · have hnone : emitted (transitionRecipe world image layout).1 = [] := by
      simp [transitionRecipe, h, Move.emitted]
    rw [hnone]
    constructor <;> simp [hsilent.mp h, RecordingOp.Draws, RecordingOp.Transfers]
  · have hdefined := mt hsilent.mpr h
    constructor <;> simp [transitionRecipe, h, hdefined, Move.emitted, RecordingOp.Draws,
      RecordingOp.Transfers, Command.Inner, Command.scope, Command.isDraw, Command.isTransfer]

/-- A copy to an image emits its command between two transitions, as is right for any operation
that transfers and does not draw. -/
theorem emits_copyBufferToImageRecipe {op : RecordingOp} (hdraws : ¬ op.Draws)
    (htransfers : op.Transfers) (world : World) (src : BufferHandle) (dst : Image)
    (dstOffset : Nat) :
    op.Emits (emitted (copyBufferToImageRecipe world src dst dstOffset).1) := by
  have hto := emits_transitionRecipe world dst .transferDst
  have hback := emits_transitionRecipe (transitionRecipe world dst .transferDst).2 dst
    (world.imageLayout dst)
  have hcopy : emitted (copyBufferToImageRecipe world src dst dstOffset).1 =
      emitted (transitionRecipe world dst .transferDst).1 ++
        .copyBufferToImage src dst.handle .transferDstOptimal
          ⟨⟨dst.width, dst.height, dst.layers⟩, dstOffset, dst.subresource⟩ ::
        emitted (transitionRecipe (transitionRecipe world dst .transferDst).2 dst
          (world.imageLayout dst)).1 := by
    simp only [copyBufferToImageRecipe, emitted_append, emitted_cons, Move.emitted,
      List.singleton_append]
  rw [hcopy]
  refine ⟨fun command hmem => ?_, iff_of_false ?_ hdraws, iff_of_true ?_ htransfers⟩
  · rcases List.mem_append.mp hmem with hmem | hmem
    · exact hto.inner command hmem
    · rcases List.mem_cons.mp hmem with rfl | hmem
      · exact fun _ => rfl
      · exact hback.inner command hmem
  · -- neither of the transitions draws
    rintro ⟨command, hmem, hdraw⟩
    rcases List.mem_append.mp hmem with hmem | hmem
    · exact hto.draws.mp ⟨command, hmem, hdraw⟩
    · rcases List.mem_cons.mp hmem with rfl | hmem
      · cases hdraw
      · exact hback.draws.mp ⟨command, hmem, hdraw⟩
  · exact ⟨_, List.mem_append_right _ List.mem_cons_self, rfl⟩

/-- A draw emits the commands that bind its renderer, and its own. -/
theorem emits_drawMoves {op : RecordingOp} (renderer : Renderer) {commands : List Command}
    (hdraws : op.Draws) (htransfers : ¬ op.Transfers)
    (hinner : ∀ command ∈ commands, command.Inner ∧ command.isTransfer = false)
    (hdraw : ∃ command ∈ commands, command.isDraw = true) :
    op.Emits (emitted (drawMoves renderer commands)) := by
  have hbind : ∀ command ∈ renderer.bindCommands, command.Inner ∧ command.isTransfer = false := by
    simp [Renderer.bindCommands, Command.Inner, Command.scope, Command.isTransfer]
  have hemitted : emitted (drawMoves renderer commands) = renderer.bindCommands ++ commands := by
    simp [drawMoves, Move.emitted]
  have hall := List.forall_mem_append.mpr ⟨hbind, hinner⟩
  rw [hemitted]
  refine ⟨fun command hmem => (hall command hmem).1, iff_of_true ?_ hdraws,
    iff_of_false ?_ htransfers⟩
  · obtain ⟨command, hmem, hdraw⟩ := hdraw
    exact ⟨command, List.mem_append_right _ hmem, hdraw⟩
  · rintro ⟨command, hmem, htransfer⟩
    cases (hall command hmem).2.symm.trans htransfer

/-- **What every operation emits**: commands as its kind says, a draw command if it draws, a copy or
an image barrier if it transfers. -/
theorem RecordingOp.emits {env : Environment} {pass : Option PassId} {device : Option Nat}
    {world : World} {op : RecordingOp} {recipe : List Move × World}
    (h : op.recipe env pass device world = .ok recipe) : op.Emits (emitted recipe.1) := by
  cases op with
  | transition image layout =>
      cases h
      exact emits_transitionRecipe world image layout
  | copyBufferToImage src dst dstOffset =>
      cases h
      refine emits_copyBufferToImageRecipe ?_ ?_ world src.handle dst dstOffset
      · exact not_false
      · exact trivial
  | upload src dst copyAmt elementSize srcOffset dstOffset =>
      rw [RecordingOp.recipe] at h
      cases hfind : world.findStaging env device <;> rw [hfind] at h <;> cases h
      constructor <;> simp [copyBufferMoves, Move.emitted, Draws, Transfers, Command.Inner,
        Command.scope, Command.isDraw, Command.isTransfer]
  | uploadImage src dst =>
      rw [RecordingOp.recipe] at h
      cases hfind : world.findStaging env device <;> rw [hfind] at h <;> cases h
      refine emits_copyBufferToImageRecipe ?_ ?_ ..
      · exact not_false
      · exact trivial
  | download src dst copyAmt elementSize srcOffset dstOffset =>
      obtain ⟨found, staging, -, -, rfl⟩ := exists_of_recipe_download h
      constructor <;> simp [copyBufferMoves, readBackRecipe, Move.emitted, Draws, Transfers,
        Command.Inner, Command.scope, Command.isDraw, Command.isTransfer]
  | downloadImage src dst =>
      obtain ⟨found, staging, -, -, rfl⟩ := exists_of_recipe_downloadImage h
      constructor <;> simp [copyImageToBufferMoves, readBackRecipe, Move.emitted, Draws, Transfers,
        Command.Inner, Command.scope, Command.isDraw, Command.isTransfer]
  | push renderer value offset =>
      cases h
      by_cases hlen : value.length < 256 <;> constructor <;>
        simp [pushCommands, hlen, Move.emitted, Draws, Transfers, Command.Inner, Command.scope,
          Command.isDraw, Command.isTransfer]
  | draw | drawIndexed | drawInstancedIndexed | drawInstanced =>
      cases h
      refine emits_drawMoves _ trivial not_false ?_ ?_ <;>
        simp [Command.Inner, Command.scope, Command.isDraw, Command.isTransfer]
  | copyImage | copyBuffer | copyImageToBuffer | memoryBarrier | memoryBarrierImage
  | pipelineBarrier =>
      cases h
      constructor <;>
        simp [copyBufferMoves, copyImageToBufferMoves, Move.emitted, Draws, Transfers,
          Command.Inner, Command.scope, Command.isDraw, Command.isTransfer]

/-! ## Phases -/

/-- Where a chain is: not recording, recording without its render pass, or recording in it. -/
inductive Phase
  | idle | outside | inside
  deriving DecidableEq, Repr

/-- The phase after `record`, which only begins a chain that is idle. -/
def Phase.record (useRenderPass : Bool) : Phase → Phase
  | .idle => if useRenderPass then .inside else .outside
  | .outside => .outside
  | .inside => .inside

/-- The phase after an operation of a chain with render pass `pass`. -/
def Phase.after (pass : Option PassId) (phase : Phase) : ListOp → Phase
  | .begin => phase.record pass.isSome
  | .stop | .submit => .idle
  | .synchronize => phase
  | .recording op => phase.record (op.usesRenderPass pass)

/-- A draw does not come where the recording was begun without the render pass, nor a transfer where
it was begun with it. -/
def ListOp.Fits (phase : Phase) : ListOp → Prop
  | .recording op => (op.Draws → phase ≠ .outside) ∧ (op.Transfers → phase ≠ .inside)
  | .begin | .stop | .submit | .synchronize => True

instance (phase : Phase) : DecidablePred (ListOp.Fits phase)
  | .recording op => inferInstanceAs
      (Decidable ((op.Draws → phase ≠ .outside) ∧ (op.Transfers → phase ≠ .inside)))
  | .begin | .stop | .submit | .synchronize => isTrue trivial

/-- **Separated.** Every operation of a chain with render pass `pass` fits the phase it comes in. -/
def Separated (pass : Option PassId) : Phase → List ListOp → Prop
  | _, [] => True
  | phase, op :: ops => op.Fits phase ∧ Separated pass (phase.after pass op) ops

instance decidableSeparated (pass : Option PassId) :
    (phase : Phase) → (ops : List ListOp) → Decidable (Separated pass phase ops)
  | _, [] => isTrue trivial
  | phase, op :: ops =>
      haveI := decidableSeparated pass (phase.after pass op) ops
      inferInstanceAs (Decidable (op.Fits phase ∧ Separated pass (phase.after pass op) ops))

/-- The phase of a page: idle, or recording with or without an open render pass. -/
def Page.phase (page : Page) : Phase :=
  if page.state = .recording then if page.inPass then .inside else .outside else .idle

/-- The phase of a page that was begun is that of the phase before, begun with a render pass if
something was opened. -/
theorem Page.phase_record (page : Page) (opening : List Command) :
    (page.record opening).phase = page.phase.record !opening.isEmpty := by
  unfold Page.record
  split
  next hrec =>
      cases hpass : page.inPass <;> simp [phase, hrec, hpass, Phase.record]
  next hidle => simp [phase, hidle, Phase.record]

/-- The phase of a page that is not being recorded is idle. -/
theorem Page.phase_of_not_recording {page : Page} (h : page.state ≠ .recording) :
    page.phase = .idle := if_neg h

/-- Draws use the render pass and transfers do not, so an operation that begins the recording
fits. -/
theorem RecordingOp.fits_iff (op : RecordingOp) (pass : Option PassId) (phase : Phase) :
    (ListOp.recording op).Fits phase ↔
      (op.Draws → phase.record (op.usesRenderPass pass) = .inside) ∧
        (op.Transfers → phase.record (op.usesRenderPass pass) = .outside) := by
  cases phase <;> cases op <;>
    simp [ListOp.Fits, Draws, Transfers, usesRenderPass, Phase.record]

/-- A page that is being recorded is inside when its render pass is open, and outside when it is
not. -/
theorem Page.phase_eq_iff {page : Page} (h : page.state = .recording) :
    (page.phase = .inside ↔ page.inPass = true) ∧
      (page.phase = .outside ↔ page.inPass = false) := by
  cases hpass : page.inPass <;> simp [phase, h, hpass]

/-- The phase looks at the state and at whether a render pass was started. -/
theorem Page.phase_congr {page page' : Page} (hstate : page.state = page'.state)
    (hpass : page.inPass = page'.inPass) : page.phase = page'.phase := by
  simp only [phase, hstate, hpass]

namespace Session

variable {env : Environment} {s t : Session} {pass : PassId} {phase : Phase}

/-- A session in a phase: its render pass is initialised, and its command buffers hold a page of the
phase. -/
structure InPhase (s : Session) (pass : PassId) (phase : Phase) : Prop where
  chainPass : s.data.pass = some pass
  initialized : (s.world.passes pass).initialized = true
  paged : ∃ page, s.data.Paged page ∧ page.Scoped ∧ page.phase = phase

/-- The chain of a session begins with its render pass when it uses it. -/
theorem InPhase.isEmpty_opening (h : s.InPhase pass phase) (useRenderPass : Bool) :
    (!(s.data.opening s.world.passes useRenderPass).isEmpty) = useRenderPass := by
  rw [ChainData.opening, h.chainPass]
  cases useRenderPass <;> simp [h.initialized]

/-- The calls of a submit are lawful exactly when those of the end before it are. -/
theorem passLawful_submit (env : Environment) (hlevel : s.data.stop.cmd.level = .primary) :
    (∀ event ∈ (s.submit env).data.cmd.log, event.PassLawful) ↔
      ∀ event ∈ s.data.stop.cmd.log, event.PassLawful := by
  by_cases hready : s.data.stop.parent = none ∧ s.data.stop.hasRecord = true ∧
      s.data.stop.dirty = true
  · rw [submit_of_ready env hready]
    have hlog : (Queue.submit s.data.stop.cmd).log
        = s.data.stop.cmd.log ++
          [⟨.submit, s.data.stop.cmd.current, s.data.stop.cmd.active.vk⟩] := by
      rw [CommandBuffer.submit_eq _ hlevel]
      rfl
    show (∀ event ∈ (Queue.submit s.data.stop.cmd).log, event.PassLawful) ↔ _
    rw [hlog, List.forall_mem_append]
    exact and_iff_left (List.forall_mem_singleton.mpr trivial)
  · rw [submit_of_not_ready env hready]

/-- To advance a render pass leaves every render pass initialised, or not, as it was. -/
theorem initialized_advancePass (world : World) (own : Option PassId) (pass : PassId) :
    ((world.advancePass own).passes pass).initialized = (world.passes pass).initialized := by
  cases own with
  | none => rfl
  | some own =>
      by_cases hown : pass = own
      · subst hown
        simp [World.advancePass, RenderPass.advance, RenderPass.initialized]
      · simp [World.advancePass, hown]

/-- A submit leaves every render pass initialised, or not, as it was. -/
theorem initialized_submit (env : Environment) (pass : PassId) :
    ((s.submit env).world.passes pass).initialized = (s.world.passes pass).initialized := by
  by_cases hready : s.data.stop.parent = none ∧ s.data.stop.hasRecord = true ∧
      s.data.stop.dirty = true
  · rw [submit_of_ready env hready]
    exact initialized_advancePass _ _ pass
  · rw [submit_of_not_ready env hready]

/-- **A recording operation** makes lawful calls exactly when it fits the phase: what it records
first decides whether a render pass is active. -/
theorem InPhase.step_recording {op : RecordingOp} (h : s.InPhase pass phase)
    (hstep : ListOp.step env s (.recording op) = .ok t) :
    ((∀ event ∈ t.data.cmd.log, event.PassLawful) ↔
      (∀ event ∈ s.data.cmd.log, event.PassLawful) ∧ (ListOp.recording op).Fits phase) ∧
      t.InPhase pass (phase.after (some pass) (.recording op)) := by
  obtain ⟨page, hpaged, hscoped, rfl⟩ := h.paged
  obtain ⟨recipe, hrecipe, rfl, hturn⟩ := paged_recording hpaged hstep
  have hstretch := RecordingOp.stretch hrecipe
  have hemits := RecordingOp.emits hrecipe
  obtain ⟨hlaw, hscoped', hpass⟩ := hpaged.passLawful_moves s.world.passes hscoped
    hstretch.first hstretch.recorded hemits.inner
  have hphase := page.phase_record
    (s.data.opening s.world.passes (op.usesRenderPass s.data.pass))
  rw [h.isEmpty_opening] at hphase
  have hactive := Page.phase_eq_iff (page.state_record
    (s.data.opening s.world.passes (op.usesRenderPass s.data.pass)))
  rw [hphase] at hactive
  refine ⟨?_, hturn.pass.trans h.chainPass, ?_, _, hturn.paged, hscoped', ?_⟩
  · rw [RecordingOp.fits_iff op s.data.pass, hactive.1, hactive.2, ← hemits.allowed_iff]
    exact hlaw
  · show (recipe.2.passes pass).initialized = true
    rw [RecordingOp.passes_recipe hrecipe]
    exact h.initialized
  · rw [← h.chainPass]
    refine (Page.phase_congr ?_ hpass).trans hphase
    rw [Page.state_moves hstretch.first, Page.state_record]

/-- **One step.** An operation makes lawful calls exactly when it fits the phase. -/
theorem InPhase.step {op : ListOp} (h : s.InPhase pass phase) (hstep : op.step env s = .ok t) :
    ((∀ event ∈ t.data.cmd.log, event.PassLawful) ↔
      (∀ event ∈ s.data.cmd.log, event.PassLawful) ∧ op.Fits phase) ∧
      t.InPhase pass (phase.after (some pass) op) := by
  obtain ⟨page, hpaged, hscoped, rfl⟩ := h.paged
  cases op with
  | begin =>
      cases hstep
      have hturn := paged_begin hpaged
      have hrecord : s.begin.data = s.data.record s.world.passes s.data.pass.isSome := by
        rw [Session.begin, hpaged.parent]
        rfl
      refine ⟨?_, hturn.pass.trans h.chainPass, ?_, _, hturn.paged,
        hscoped.record (s.data.opening_spec _ _), ?_⟩
      · rw [hrecord, hpaged.passLawful_record]
        exact (and_iff_left trivial).symm
      · rw [Session.begin, hpaged.parent]
        exact h.initialized
      · rw [Page.phase_record, h.isEmpty_opening, h.chainPass]
        rfl
  | stop =>
      cases hstep
      have hidle := page.state_stop
      exact ⟨hpaged.passLawful_stop.trans (and_iff_left trivial).symm,
        hpaged.stop.pass.trans h.chainPass, h.initialized, _, hpaged.stop.paged,
        fun hrec => absurd hrec hidle, Page.phase_of_not_recording hidle⟩
  | submit =>
      cases hstep
      obtain ⟨page', hturn, hidle, -⟩ := paged_submit env hpaged
      refine ⟨?_, hturn.pass.trans h.chainPass,
        (initialized_submit env pass).trans h.initialized, page',
        hturn.paged, fun hrec => absurd hrec hidle, Page.phase_of_not_recording hidle⟩
      show (∀ event ∈ (s.submit env).data.cmd.log, event.PassLawful) ↔ _
      rw [passLawful_submit env hpaged.stop.paged.level, hpaged.passLawful_stop]
      exact (and_iff_left trivial).symm
  | synchronize =>
      cases hstep
      have hturn := paged_synchronize hpaged
      have hlog : s.synchronize.data.cmd.log = s.data.cmd.log := by
        unfold Session.synchronize
        split <;> rfl
      refine ⟨?_, hturn.pass.trans h.chainPass, ?_, page, hturn.paged, hscoped, rfl⟩
      · rw [hlog]
        exact (and_iff_left trivial).symm
      · unfold Session.synchronize
        split <;> exact h.initialized
  | recording op => exact h.step_recording hstep

/-- **A run**: the calls are lawful exactly when the operations are separated. -/
theorem InPhase.run {ops : List ListOp} (h : s.InPhase pass phase)
    (hrun : runSteps (ListOp.step env) s ops = .ok t) :
    (∀ event ∈ t.data.cmd.log, event.PassLawful) ↔
      (∀ event ∈ s.data.cmd.log, event.PassLawful) ∧ Separated (some pass) phase ops := by
  induction ops generalizing s phase with
  | nil =>
      cases hrun
      exact (and_iff_left trivial).symm
  | cons op ops ih =>
      obtain ⟨s', hstep, hrest⟩ := runSteps_cons_ok_iff.mp hrun
      obtain ⟨hlaw, hnext⟩ := h.step hstep
      rw [ih hnext hrest, hlaw, and_assoc]
      rfl

end Session

/-- **Draws inside, transfers outside the render pass.** A chain is initialised with an initialised
render pass, and any operations follow, in either mode. Every draw is recorded while a render pass
is active, and every copy and image barrier while none is, exactly when the operations are
separated. -/
theorem pass_lawful_iff (env : Environment) (s t : Session) (mode : ChainMode) (pass : PassId)
    (ops : List ListOp) (hinit : s.data.JustInitialized env s.world.passes)
    (hpass : s.data.pass = some pass) (hinitialized : (s.world.passes pass).initialized = true)
    (hrun : runSteps (ListOp.step env) (s.setMode mode) ops = .ok t) :
    (∀ event ∈ t.data.cmd.log, event.PassLawful) ↔ Separated (some pass) .idle ops := by
  have hfresh := hinit.fresh
  have hlog : (s.setMode mode).data.cmd.log = [] := by
    cases mode <;> exact hfresh.log
  have hstart : (s.setMode mode).InPhase pass .idle := by
    refine ⟨?_, hinitialized, {}, hfresh.paged mode, fun hrec => BufferState.noConfusion hrec, rfl⟩
    cases mode <;> exact hpass
  rw [hstart.run hrun, hlog]
  exact and_iff_right fun _ hmem => absurd hmem List.not_mem_nil

/-- A copy and a submit, a draw, a push and an end, and a transition. -/
def separatedOps : List ListOp :=
  [.recording (.copyBuffer ⟨.array 0, 0⟩ ⟨.array 1, 0⟩ 4 1 0 0), .submit,
    .recording (.draw ⟨⟨true, 0, 0⟩, ⟨some 0⟩⟩ ⟨.array 0, 0⟩ 3 0),
    .recording (.push ⟨⟨true, 0, 0⟩, ⟨some 0⟩⟩ [1, 2, 3, 4] 0), .stop,
    .recording (.transition ⟨0, 2, 2, 1, 16, ⟨0, 1⟩⟩ .general)]

/-- They are separated, so in `All` mode as well they record lawfully. -/
theorem pass_lawful_iff_separatedOps :
    ∃ t, runSteps (ListOp.step .inert) (Session.newWithPass.setMode .all) separatedOps = .ok t ∧
      ((∀ event ∈ t.data.cmd.log, event.PassLawful) ↔ Separated (some 0) .idle separatedOps) :=
  ⟨_, rfl, pass_lawful_iff .inert .newWithPass _ .all 0 separatedOps (.pass 0 .graphics false) rfl
    rfl rfl⟩

example : Separated (some 0) .idle separatedOps := by decide

/-- A copy begins the recording without the render pass, and the draw after it is recorded outside
of any. -/
theorem not_pass_lawful :
    ¬ ∀ (env : Environment) (s t : Session) (mode : ChainMode) (pass : PassId) (ops : List ListOp),
      s.data.JustInitialized env s.world.passes → s.data.pass = some pass →
        (s.world.passes pass).initialized = true →
          runSteps (ListOp.step env) (s.setMode mode) ops = .ok t →
            ∀ event ∈ t.data.cmd.log, event.PassLawful := by
  intro h
  have hlaw := h .inert .newWithPass _ .sequential 0
    [.recording (.copyBuffer ⟨.array 0, 0⟩ ⟨.array 1, 0⟩ 4 1 0 0),
      .recording (.draw ⟨⟨true, 0, 0⟩, ⟨some 0⟩⟩ ⟨.array 0, 0⟩ 3 0), .submit]
    (.pass 0 .graphics false) rfl rfl rfl
  revert hlaw
  decide +kernel

end Nyx
