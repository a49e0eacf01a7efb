import Mathlib.Data.List.Forall2
import Nyx.Presentation.FrameSteps
import Nyx.Recording.Scripts

/-! # The image presented and the image rendered

A frame of a window: draws are recorded into a chain with the window's render pass, the chain is
submitted once, and the render pass presents. The render pass is begun with the framebuffer under
`current_framebuffer`, which `Chain::submit` advances modulo three; the image presented is the one
the presentation engine returned.

* **`Session.frame`** — one frame.
* **`CommandList.run_draws`** — what the chain hands to the queue in a frame.
* **`Renders`** — the framebuffer a submission was begun with shows the image that was presented.
* **`Session.Rendering`** — the invariant after `t` frames.
* **`Session.presents_rendered`** — when every frame of a run presents what it rendered. -/

namespace Nyx

open Foundations

/-! ## Frames -/

/-- What goes wrong in a frame: recording and submitting, or presenting. -/
inductive RunFailure
  | chain (failure : ChainFailure)
  | frame (failure : FrameFailure)
  deriving DecidableEq, Repr

namespace Session

/-- The session with another state of render pass `pass`. -/
def setPass (s : Session) (pass : PassId) (renderPass : RenderPass) : Session :=
  { s with world := { s.world with passes := Function.update s.world.passes pass renderPass } }

@[simp] theorem passes_setPass (s : Session) (pass : PassId) (renderPass : RenderPass) :
    (s.setPass pass renderPass).world.passes pass = renderPass := by
  show Function.update s.world.passes pass renderPass pass = renderPass
  rw [Function.update_self]

/-- `RenderPass::present` of render pass `pass`, as a step of the session. -/
def present (driver : Driver) (pass : PassId) (s : Session) : Except RunFailure Session :=
  match (s.world.passes pass).present driver with
  | .error failure => .error (.frame failure)
  | .ok (renderPass, _) => .ok (s.setPass pass renderPass)

/-- One frame: record the draws, `Chain::submit`, `RenderPass::present`. -/
def frame (env : Environment) (driver : Driver) (pass : PassId) (s : Session)
    (draws : List RecordingOp) : Except RunFailure Session :=
  match runSteps (ListOp.step env) s (draws.map .recording ++ [.submit]) with
  | .error failure => .error (.chain failure)
  | .ok submitted => submitted.present driver pass

end Session

/-! ## What a frame is about -/

/-- The framebuffer a command begins a render pass with; the inner `none` is a read past the end of
the framebuffers. -/
def Command.begunWith : Command → Option (Option Framebuffer)
  | .beginRenderPass info _ => some info.framebuffer
  | _ => none

/-- The framebuffers the render passes of a submission were begun with. -/
def Delivery.framebuffers (delivery : Delivery) : List (Option Framebuffer) :=
  delivery.commands.filterMap Command.begunWith

/-- The image an event presents, with the swapchain it was acquired on. -/
def FrameEvent.shown : FrameEvent → Option Acquired
  | .presented _ image source _ => some ⟨image, source⟩
  | _ => none

/-- The one framebuffer that a frame begins with shows the image that was acquired. -/
def Shows (framebuffers : List (Option Framebuffer)) (entry : Acquired) : Prop :=
  ∃ framebuffer, framebuffers = [some framebuffer] ∧
    ImageView.swapchain entry.source entry.image ∈ framebuffer.views

instance (framebuffers : List (Option Framebuffer)) (entry : Acquired) :
    Decidable (Shows framebuffers entry) :=
  match framebuffers with
  | [some framebuffer] =>
      decidable_of_iff (ImageView.swapchain entry.source entry.image ∈ framebuffer.views)
        ⟨fun viewed => ⟨framebuffer, rfl, viewed⟩, fun ⟨_, begun, viewed⟩ => by
          cases begun
          exact viewed⟩
  | [] => isFalse fun ⟨_, begun, _⟩ => by cases begun
  | none :: _ => isFalse fun ⟨_, begun, _⟩ => by cases begun
  | some _ :: _ :: _ => isFalse fun ⟨_, begun, _⟩ => by cases begun

/-- The render pass of the submission was begun, once, with a framebuffer that shows the image. -/
def Renders (delivery : Delivery) (entry : Acquired) : Prop := Shows delivery.framebuffers entry

instance (delivery : Delivery) (entry : Acquired) : Decidable (Renders delivery entry) :=
  inferInstanceAs (Decidable (Shows delivery.framebuffers entry))

/-! ## Draws -/

/-- An operation that uses the render pass fails nowhere and leaves the world alone. -/
theorem RecordingOp.recipe_of_usesRenderPass (env : Environment) {pass : Option PassId}
    (device : Option Nat) (world : World) {op : RecordingOp} (uses : op.usesRenderPass pass = true) :
    ∃ moves, op.recipe env pass device world = .ok (moves, world) := by
  cases op with
  | push | draw | drawIndexed | drawInstancedIndexed | drawInstanced => exact ⟨_, rfl⟩
  | _ => cases uses

/-- An operation that draws with the render pass of the chain is not silent. -/
theorem RecordingOp.not_silent_of_usesRenderPass {pass : Option PassId} {op : RecordingOp}
    (uses : op.usesRenderPass pass = true) : ¬op.Silent := by
  cases op with
  | transition => cases uses
  | _ => exact not_false

/-- A sequence of operations that draw with the render pass of the chain has a script, and leaves
the world as it is. -/
theorem script_draws (env : Environment) {pass : Option PassId} (device : Option Nat)
    (world : World)
    {draws : List RecordingOp} (uses : ∀ op ∈ draws, op.usesRenderPass pass = true) :
    ∃ moves, RecordingOp.script env pass device world draws = .ok (moves, world) := by
  induction draws with
  | nil => exact ⟨[], rfl⟩
  | cons op draws ih =>
      obtain ⟨moves, recipe⟩ :=
        op.recipe_of_usesRenderPass env device world (uses op List.mem_cons_self)
      obtain ⟨rest, script⟩ := ih fun op listed => uses op (List.mem_cons_of_mem _ listed)
      exact ⟨moves ++ rest, script_cons_ok_iff.mpr ⟨_, _, recipe, script, rfl⟩⟩

/-- A command that opens no render pass is begun with no framebuffer. -/
theorem Command.begunWith_eq_none {command : Command} (plain : command.opensPass = false) :
    command.begunWith = none := by
  cases command with
  | beginRenderPass => cases plain
  | _ => rfl

/-- Handing a list that is ready over delivers all of its commands, and leaves the tape empty. -/
theorem Tape.deliver_of_ready {tape : Tape} (ready : tape.Ready) :
    tape.deliver = { tape with
      commands := []
      dirty := false
      cursor := ringNext commandBufferCount tape.cursor
      ledger := tape.ledger.submit tape.cursor .executable tape.commands } := by
  unfold Tape.deliver
  exact if_pos ready

namespace CommandList

variable {list : CommandList} {pass : PassId}

/-- With an initialised render pass, a recording that uses it begins with it. -/
theorem opening_true (has : list.pass = some pass)
    (initialized : (list.world.passes pass).initialized = true) :
    list.opening true = [.beginRenderPass (list.world.passes pass).beginInfo list.contents] := by
  unfold opening
  rw [has]
  simp only [initialized, Bool.and_self, if_true]

/-- Submitting a list that is ready executes all of its commands, and leaves the tape empty. -/
theorem submit_of_ready (env : Environment) (ready : list.tape.stop.Ready) :
    list.submit env = { list with
      tape := list.tape.stop.deliver
      world := World.advancePass
        { list.world with
          memory := executeCommands env.effect list.tape.stop.commands list.world.memory }
        list.pass } := by
  unfold submit
  rw [if_pos ready]

/-- **The chain in a frame.** From an idle list, draws and a submit hand over one more buffer; its
render pass is begun with the current framebuffer, and the render pass then advances. -/
theorem run_draws (env : Environment) (has : list.pass = some pass)
    (initialized : (list.world.passes pass).initialized = true)
    (idle : list.tape.recording = false) {draws : List RecordingOp} (nonempty : draws ≠ [])
    (uses : ∀ op ∈ draws, op.usesRenderPass list.pass = true) :
    ∃ after delivery, runSteps (step env) list (draws.map .recording ++ [.submit]) = .ok after ∧
      after.pass = list.pass ∧ after.tape.recording = false ∧ after.tape.dirty = false ∧
      after.tape.ledger.deliveries = list.tape.ledger.deliveries ++ [delivery] ∧
      delivery.framebuffers = [(list.world.passes pass).current] ∧
      after.world.passes =
        Function.update list.world.passes pass (list.world.passes pass).advance := by
  obtain ⟨moves, script⟩ := script_draws env list.device list.world uses
  obtain ⟨stretch, -⟩ := stretch_script script
  have recorded : runSteps (step env) list (draws.map .recording) =
      .ok (list.follow (moves, list.world)) := by
    rw [run_recordings, script]
    rfl
  have first : firstUse list.pass draws = true := by
    unfold firstUse
    cases draws with
    | nil => exact absurd rfl nonempty
    | cons op draws => exact uses op List.mem_cons_self
  -- the draws emit something, so the chain is dirty and the submit hands the buffer over
  have touched : (emitted moves).isEmpty = false := by
    rw [List.isEmpty_eq_false_iff, ne_eq, stretch.silent]
    intro silent
    cases draws with
    | nil => exact nonempty rfl
    | cons op draws =>
        exact op.not_silent_of_usesRenderPass (uses op List.mem_cons_self)
          (silent op List.mem_cons_self)
  have ended := Tape.cut_of_idle list.opening stretch nonempty idle
  rw [first, touched, opening_true has initialized, Bool.not_false, Bool.or_true] at ended
  -- the list after the draws, as the submit finds it
  have ready : (list.tape.cut list.opening moves).Ready := ⟨ended.hasRecord, ended.dirty⟩
  have delivered := Tape.deliver_of_ready ready
  have submitted : (list.follow (moves, list.world)).submit env = _ := submit_of_ready env ready
  -- the submission: what the recording was opened with, the draws, and the end of the render pass
  refine ⟨(list.follow (moves, list.world)).submit env,
    ⟨(list.tape.cut list.opening moves).cursor, .executable,
      (list.tape.cut list.opening moves).commands,
      (list.tape.cut list.opening moves).ledger.issued⟩, ?_, ?_, ?_, ?_, ?_, ?_, ?_⟩
  · rw [runSteps_append_of_ok recorded, runSteps_singleton]
    rfl
  · rw [submitted]
    rfl
  · rw [submitted]
    exact (congrArg Tape.recording delivered).trans ended.recording
  · rw [submitted]
    exact congrArg Tape.dirty delivered
  · rw [submitted]
    exact (congrArg (·.ledger.deliveries) delivered).trans (congrArg (· ++ [_]) ended.deliveries)
  · -- only the command that opened the recording begins a render pass
    have plain : (emitted moves).filterMap Command.begunWith = [] :=
      List.filterMap_eq_nil_iff.mpr fun command listed =>
        Command.begunWith_eq_none (stretch.plain.opensPass command listed)
    unfold Delivery.framebuffers
    rw [ended.commands, if_pos rfl, List.filterMap_append, List.filterMap_append, plain]
    rfl
  · rw [submitted]
    show (World.advancePass _ list.pass).passes = _
    rw [has]
    rfl

end CommandList

/-! ## The window -/

/-- The framebuffers of a window, and the swapchain image each of them shows. -/
structure RenderPass.Windowed (driver : Driver) (opened : RenderPass) : Prop where
  initialized : opened.initialized = true
  start : opened.currentFramebuffer = 0
  size : opened.framebuffers.length = RenderPass.numBuffers
  shows : ∀ index < RenderPass.numBuffers, ∃ framebuffer,
    opened.framebuffers[index]? = some framebuffer ∧
      ∀ source image, ImageView.swapchain source image ∈ framebuffer.views ↔
        source = some 0 ∧ image = if index < driver.imageCount 0 then index else 0
  swapchain : opened.swapchain = (({} : Swapchain).initializeSwapchain driver).granted driver

/-- The surface format of a window is never that of depth and stencil. -/
theorem Swapchain.surfaceFormat_ne (driver : Driver) :
    (({} : Swapchain).initializeSwapchain driver).surfaceFormat ≠ .d24UnormS8Uint := by
  show (if driver.offersSrgb 0 then VkFormat.b8g8r8a8Srgb else .undefined) ≠ .d24UnormS8Uint
  cases driver.offersSrgb 0 <;> decide

/-- **A new window render pass** whose first acquire is granted has an image and is ready for a
frame. -/
theorem RenderPass.windowed_of_initializeWindow {driver : Driver} {renderPass opened : RenderPass}
    (fresh : renderPass.swapchain = {}) (start : renderPass.currentFramebuffer = 0)
    (granted : driver.acquireResult 0 = .success) {device windowId : Nat}
    (initialized : renderPass.initializeWindow driver device windowId = .ok opened) :
    opened.Windowed driver := by
  have attached : renderPass.attachments ≠ [] := by
    intro none
    unfold initializeWindow prepareWindow at initialized
    rw [none] at initialized
    cases initialized
  obtain ⟨others, last, split⟩ := exists_attachments_concat attached
  have accepted : ¬(driver.acquireResult 0).recreates = true := by
    rw [granted]
    decide
  have acquired : (({} : Swapchain).initializeSwapchain driver).acquire driver =
      .ok ((({} : Swapchain).initializeSwapchain driver).granted driver, .success) := by
    rw [Swapchain.acquire_eq driver (Swapchain.tabled_initializeSwapchain driver {})
      (driver.imageCount_pos 0)]
    exact if_neg accepted
  unfold initializeWindow at initialized
  simp only [prepareWindow_eq driver split, swapchain_makeFramebuffers, swapchain_makeRenderPass,
    swapchain_windowed, fresh, acquired] at initialized
  obtain ⟨_, _, _, frame⟩ := makeFramebuffers_frame
    (renderPass.windowed driver device windowId others last).makeRenderPass
  have handle : (renderPass.windowed driver device windowId others last).makeRenderPass.swapchain =
      ({} : Swapchain).initializeSwapchain driver := by
    rw [swapchain_makeRenderPass, swapchain_windowed, fresh]
  have there : (renderPass.windowed driver device windowId others
      last).makeRenderPass.swapchain.initialized = true := by
    rw [handle]
    rfl
  obtain ⟨size, shows⟩ := attaches_makeFramebuffers there
  cases initialized
  refine ⟨?_, ?_, size, ?_, rfl⟩
  · rw [frame]
    rfl
  · rw [frame]
    exact start
  · intro index inside
    obtain ⟨framebuffer, attaches, made⟩ := shows index inside
    refine ⟨framebuffer, made, fun source image => ?_⟩
    -- the attachment that shows the swapchain is the last one, whose format is the surface's
    have colour : ∃ attachment ∈ (renderPass.windowed driver device windowId others
        last).makeRenderPass.attachments, attachment.format ≠ .d24UnormS8Uint := by
      refine ⟨{ last with
        format := (renderPass.swapchain.initializeSwapchain driver).surfaceFormat
        finalLayout := .presentSrcKHR }, List.mem_append_right _ (List.mem_singleton_self _), ?_⟩
      rw [fresh]
      exact Swapchain.surfaceFormat_ne driver
    rw [attaches source image, handle]
    exact and_iff_right colour

/-- A present without a recreation changes the swapchain of the render pass alone. -/
theorem RenderPass.present_of_framed (driver : Driver) {renderPass : RenderPass}
    (framed : renderPass.swapchain.Framed) {image : Nat}
    (front : renderPass.swapchain.acquired = [⟨image, renderPass.swapchain.swapchain⟩])
    (keeps : ¬renderPass.swapchain.Lapses driver)
    (granted : ¬(driver.acquireResult renderPass.swapchain.acquires).recreates = true) :
    renderPass.present driver = .ok ({ renderPass with
      swapchain := (renderPass.swapchain.closed image renderPass.swapchain.swapchain).granted
        driver }, false) := by
  have initialized : renderPass.swapchain.initialized = true :=
    Swapchain.Opened.initialized (Or.inl framed)
  unfold present
  rw [if_pos initialized,
    Swapchain.submit_eq driver framed.toTabled front (framed.front_lt front), if_neg keeps]
  simp only [framed.acquire_closed driver image, if_neg granted]

namespace Session

variable {env : Environment} {driver : Driver} {opened : RenderPass} {pass : PassId}

/-! ## The invariant -/

/-- What holds after `t` frames: the chain is idle, the render pass is as it was opened but for its
cursor and its swapchain, the image of frame `t` waits, and so far each submission was begun with
the framebuffer under the cursor and each present was of the image acquired for it. -/
structure Rendering (driver : Driver) (opened : RenderPass) (pass : PassId) (t : Nat)
    (s : Session) : Prop where
  sequential : s.data.Sequential
  idle : s.data.cmd.recording = false
  has : s.data.pass = some pass
  window : s.world.passes pass = { opened with
    currentFramebuffer := t % RenderPass.numBuffers
    swapchain := (s.world.passes pass).swapchain }
  framed : (s.world.passes pass).swapchain.Framed
  front : (s.world.passes pass).swapchain.acquired =
    [⟨driver.acquireImage t (driver.imageCount 0), some 0⟩]
  handle : (s.world.passes pass).swapchain.swapchain = some 0
  images : (s.world.passes pass).swapchain.images = driver.imageCount 0
  plays : (s.world.passes pass).swapchain.skipFrame = false
  acquires : (s.world.passes pass).swapchain.acquires = t + 1
  presents : (s.world.passes pass).swapchain.presents = t
  deliveries : (ledger s.data.cmd.log).deliveries.map Delivery.framebuffers =
    (List.range t).map fun u => [opened.framebuffers[u % RenderPass.numBuffers]?]
  shown : (s.world.passes pass).swapchain.log.filterMap FrameEvent.shown =
    (List.range t).map fun u => ⟨driver.acquireImage u (driver.imageCount 0), some 0⟩

/-- A chain just initialised with a new window has rendered nothing. -/
theorem rendering_zero {s : Session} (hinit : s.data.JustInitialized env s.world.passes)
    (has : s.data.pass = some pass) (world : s.world.passes pass = opened)
    (windowed : opened.Windowed driver) : s.Rendering driver opened pass 0 where
  sequential := hinit.fresh.sequential_data
  idle := hinit.fresh.idle
  has := has
  window := by
    rw [world, Nat.zero_mod, ← windowed.start]
  framed := by
    rw [world, windowed.swapchain]
    exact Swapchain.framed_reopened driver (driver.imageCount_pos 0) rfl
  front := by
    rw [world, windowed.swapchain]
    rfl
  handle := by
    rw [world, windowed.swapchain]
    rfl
  images := by
    rw [world, windowed.swapchain]
    rfl
  plays := by
    rw [world, windowed.swapchain]
    rfl
  acquires := by
    rw [world, windowed.swapchain]
    rfl
  presents := by
    rw [world, windowed.swapchain]
    rfl
  deliveries := by
    rw [hinit.fresh.log]
    rfl
  shown := by
    rw [world, windowed.swapchain]
    rfl

/-! ## A frame -/

variable (env) in
/-- The draws and the submit of a frame: one more submission, begun with the framebuffer under the
cursor, which moves on. -/
theorem Rendering.submit {s : Session} {t : Nat} (rendering : s.Rendering driver opened pass t)
    (windowed : opened.Windowed driver) {draws : List RecordingOp} (nonempty : draws ≠ [])
    (uses : ∀ op ∈ draws, op.usesRenderPass (some pass) = true) :
    ∃ submitted delivery,
      runSteps (ListOp.step env) s (draws.map .recording ++ [.submit]) = .ok submitted ∧
      submitted.data.Sequential ∧ submitted.data.cmd.recording = false ∧
      submitted.data.pass = some pass ∧
      (ledger submitted.data.cmd.log).deliveries =
        (ledger s.data.cmd.log).deliveries ++ [delivery] ∧
      delivery.framebuffers = [opened.framebuffers[t % RenderPass.numBuffers]?] ∧
      submitted.world.passes pass = { opened with
        currentFramebuffer := (t + 1) % RenderPass.numBuffers
        swapchain := (s.world.passes pass).swapchain } := by
  have ready : (s.list.world.passes pass).initialized = true := by
    show (s.world.passes pass).initialized = true
    rw [rendering.window]
    exact windowed.initialized
  have uses : ∀ op ∈ draws, op.usesRenderPass s.list.pass = true := by
    show ∀ op ∈ draws, op.usesRenderPass s.data.pass = true
    rw [rendering.has]
    exact uses
  obtain ⟨after, delivery, run, kept, idle, -, deliveries, framebuffers, passes⟩ :=
    CommandList.run_draws env rendering.has ready rendering.idle nonempty uses
  obtain ⟨submitted, chain, same⟩ := exists_run_of_list rendering.sequential run
  subst same
  refine ⟨submitted, delivery, chain, sequential_run rendering.sequential chain, idle,
    kept.trans rendering.has, deliveries, ?_, ?_⟩
  · rw [framebuffers]
    show [(s.world.passes pass).current] = _
    rw [rendering.window]
    rfl
  · -- one submit advances the render pass once, modulo the three framebuffers
    have world : submitted.world.passes pass = (s.world.passes pass).advance := by
      have updated := congrFun passes pass
      rw [Function.update_self] at updated
      exact updated
    rw [world]
    refine (congrArg RenderPass.advance rendering.window).trans ?_
    show ({ opened with
      currentFramebuffer := ringNext opened.framebuffers.length (t % RenderPass.numBuffers)
      swapchain := (s.world.passes pass).swapchain } : RenderPass) = _
    rw [windowed.size, ringNext_eq_mod (Nat.mod_lt t (by decide)), Nat.mod_add_mod]

/-- The present of a frame whose calls succeed, once its draws are submitted: the swapchain closes
the frame and acquires the next image. -/
theorem Rendering.frame_eq {s submitted : Session} {t : Nat}
    (rendering : s.Rendering driver opened pass t)
    (acquired : driver.acquireResult (t + 1) = .success)
    (presented : driver.presentResult t = .success) {draws : List RecordingOp}
    (chain : runSteps (ListOp.step env) s (draws.map .recording ++ [.submit]) = .ok submitted)
    (swapchain : (submitted.world.passes pass).swapchain = (s.world.passes pass).swapchain) :
    s.frame env driver pass draws = .ok (submitted.setPass pass
      { submitted.world.passes pass with
        swapchain := ((s.world.passes pass).swapchain.closed
          (driver.acquireImage t (driver.imageCount 0))
          (s.world.passes pass).swapchain.swapchain).granted driver }) := by
  -- recording and submitting left the swapchain alone, so its answers are those of frame `t`
  have keeps : ¬(submitted.world.passes pass).swapchain.Lapses driver := by
    rintro ⟨-, stale⟩
    rw [swapchain, rendering.presents, presented] at stale
    cases stale
  have granted : ¬(driver.acquireResult
      (submitted.world.passes pass).swapchain.acquires).recreates = true := by
    rw [swapchain, rendering.acquires, acquired]
    decide
  have front : (submitted.world.passes pass).swapchain.acquired =
      [⟨driver.acquireImage t (driver.imageCount 0),
        (submitted.world.passes pass).swapchain.swapchain⟩] := by
    rw [swapchain, rendering.handle]
    exact rendering.front
  have present := RenderPass.present_of_framed driver (swapchain ▸ rendering.framed) front keeps
    granted
  rw [swapchain] at present
  unfold Session.frame Session.present
  simp only [chain, present]

variable (env) in
/-- **Step lemma.** A frame whose calls succeed returns, shows the image that was acquired, and
keeps the invariant. -/
theorem Rendering.frame {s : Session} {t : Nat} (rendering : s.Rendering driver opened pass t)
    (windowed : opened.Windowed driver) (acquired : driver.acquireResult (t + 1) = .success)
    (presented : driver.presentResult t = .success) {draws : List RecordingOp}
    (nonempty : draws ≠ []) (uses : ∀ op ∈ draws, op.usesRenderPass (some pass) = true) :
    ∃ s', s.frame env driver pass draws = .ok s' ∧ s'.Rendering driver opened pass (t + 1) := by
  obtain ⟨submitted, delivery, chain, sequential, idle, has, deliveries, framebuffers, window⟩ :=
    rendering.submit env windowed nonempty uses
  have swapchain : (submitted.world.passes pass).swapchain = (s.world.passes pass).swapchain := by
    rw [window]
  refine ⟨_, rendering.frame_eq acquired presented chain swapchain, ?_⟩
  exact
    { sequential := sequential
      idle := idle
      has := has
      window := by
        rw [passes_setPass, window]
      framed := by
        rw [passes_setPass]
        exact Swapchain.framed_closed_granted driver rendering.framed _
      front := by
        rw [passes_setPass]
        dsimp only
        rw [Swapchain.acquired_granted, Swapchain.acquired_closed, Swapchain.acquires_closed,
          Swapchain.images_closed, Swapchain.swapchain_closed, rendering.acquires, rendering.images,
          rendering.handle]
        rfl
      handle := by
        rw [passes_setPass]
        dsimp only
        rw [Swapchain.swapchain_granted, Swapchain.swapchain_closed, rendering.handle]
      images := by
        rw [passes_setPass]
        dsimp only
        rw [Swapchain.images_granted, Swapchain.images_closed, rendering.images]
      plays := by
        rw [passes_setPass]
        dsimp only
        rw [Swapchain.skipFrame_granted, Swapchain.skipFrame_closed, rendering.plays]
      acquires := by
        rw [passes_setPass]
        dsimp only
        rw [Swapchain.acquires_granted, Swapchain.acquires_closed, rendering.acquires]
      presents := by
        rw [passes_setPass]
        dsimp only
        rw [Swapchain.presents_granted, Swapchain.presents_closed _ _ _ rendering.plays,
          rendering.presents]
      deliveries := by
        show (ledger submitted.data.cmd.log).deliveries.map Delivery.framebuffers = _
        rw [deliveries, List.map_append, rendering.deliveries, List.range_succ, List.map_append,
          List.map_singleton, List.map_singleton, framebuffers]
      shown := by
        rw [passes_setPass]
        dsimp only
        rw [Swapchain.log_granted, Swapchain.log_closed,
          Swapchain.submission_of_plays _ _ _ rendering.plays, List.filterMap_append,
          List.filterMap_append, rendering.shown, List.range_succ, List.map_append,
          List.map_singleton, rendering.handle]
        exact List.append_nil _ }

/-- **Run lemma.** A run of frames returns, and keeps the invariant. -/
theorem Rendering.frames {T t : Nat} {frames : List (List RecordingOp)} {s : Session}
    (rendering : s.Rendering driver opened pass t) (windowed : opened.Windowed driver)
    (total : t + frames.length = T)
    (acquired : ∀ k ≤ T, driver.acquireResult k = .success)
    (presented : ∀ k < T, driver.presentResult k = .success)
    (draws : ∀ draws ∈ frames,
      draws ≠ [] ∧ ∀ op ∈ draws, op.usesRenderPass (some pass) = true) :
    ∃ s', runSteps (Session.frame env driver pass) s frames = .ok s' ∧
      s'.Rendering driver opened pass T := by
  induction frames generalizing s t with
  | nil =>
      rw [List.length_nil, Nat.add_zero] at total
      subst total
      exact ⟨s, rfl, rendering⟩
  | cons first rest ih =>
      rw [List.length_cons] at total
      obtain ⟨nonempty, uses⟩ := draws first List.mem_cons_self
      obtain ⟨next, frame, rendering'⟩ := rendering.frame env windowed
        (acquired (t + 1) (by omega)) (presented t (by omega)) nonempty uses
      obtain ⟨s', run, rendering''⟩ := ih rendering' (by omega)
        fun later listed => draws later (List.mem_cons_of_mem _ listed)
      exact ⟨s', (runSteps_cons_of_ok frame).trans run, rendering''⟩

/-! ## Whole runs -/

/-- The framebuffer of frame `t` shows the image presented in it just when the presentation engine
returned that image. -/
theorem shows_iff (windowed : opened.Windowed driver) (t image : Nat) :
    Shows [opened.framebuffers[t % RenderPass.numBuffers]?] ⟨image, some 0⟩ ↔
      image = if t % RenderPass.numBuffers < driver.imageCount 0 then t % RenderPass.numBuffers
        else 0 := by
  obtain ⟨framebuffer, made, views⟩ :=
    windowed.shows (t % RenderPass.numBuffers) (Nat.mod_lt t (by decide))
  rw [made]
  constructor
  · rintro ⟨other, begun, viewed⟩
    cases begun
    exact ((views _ _).mp viewed).2
  · intro same
    exact ⟨framebuffer, rfl, (views _ _).mpr ⟨rfl, same⟩⟩

/-- **A frame presents what it rendered just when images come in the order of the framebuffers.**
For a new window render pass with an attachment and a chain just initialised with it, in a run of
frames whose acquires and presents succeed: the run returns, and its submissions and presents, one
of each a frame and in the same order, agree on the image if and only if the `t`-th acquire returned
image `t` modulo three, or image `0` where the swapchain has no such image. -/
theorem presents_rendered (env : Environment) (driver : Driver) (renderPass opened : RenderPass)
    (fresh : renderPass.swapchain = {}) (start : renderPass.currentFramebuffer = 0)
    (device windowId : Nat)
    (initialized : renderPass.initializeWindow driver device windowId = .ok opened)
    (s : Session) (pass : PassId) (hinit : s.data.JustInitialized env s.world.passes)
    (has : s.data.pass = some pass) (world : s.world.passes pass = opened)
    (frames : List (List RecordingOp))
    (draws : ∀ draws ∈ frames,
      draws ≠ [] ∧ ∀ op ∈ draws, op.usesRenderPass (some pass) = true)
    (acquired : ∀ t ≤ frames.length, driver.acquireResult t = .success)
    (presented : ∀ t < frames.length, driver.presentResult t = .success) :
    ∃ s', runSteps (Session.frame env driver pass) s frames = .ok s' ∧
      (List.Forall₂ Renders (ledger s'.data.cmd.log).deliveries
          ((s'.world.passes pass).swapchain.log.filterMap FrameEvent.shown) ↔
        ∀ t < frames.length, driver.acquireImage t (driver.imageCount 0) =
          if t % RenderPass.numBuffers < driver.imageCount 0 then t % RenderPass.numBuffers
          else 0) := by
  have windowed := RenderPass.windowed_of_initializeWindow fresh start
    (acquired 0 (Nat.zero_le _)) initialized
  obtain ⟨s', run, rendering⟩ := (rendering_zero hinit has world windowed).frames windowed
    (Nat.zero_add _) acquired presented draws
  refine ⟨s', run, ?_⟩
  -- `Renders` looks at the framebuffers of a submission alone
  have begun : List.Forall₂ Renders (ledger s'.data.cmd.log).deliveries
      ((s'.world.passes pass).swapchain.log.filterMap FrameEvent.shown) ↔
      List.Forall₂ Shows ((ledger s'.data.cmd.log).deliveries.map Delivery.framebuffers)
        ((s'.world.passes pass).swapchain.log.filterMap FrameEvent.shown) := by
    rw [List.forall₂_map_left_iff]
    exact Iff.rfl
  rw [begun, rendering.deliveries, rendering.shown, List.forall₂_map_left_iff,
    List.forall₂_map_right_iff, List.forall₂_same]
  simp only [List.mem_range, shows_iff windowed]

/-- The window render pass with one attachment, opened. -/
def openedWindow (driver : Driver) : RenderPass :=
  match RenderPass.oneColour.initializeWindow driver 0 0 with
  | .error _ => .oneColour
  | .ok opened => opened

/-- A chain that was just initialised with a render pass for such a window. -/
def newWithWindow (driver : Driver) : Session :=
  let world : World := { World.start with passes := fun _ => openedWindow driver }
  ⟨0, ({} : ChainData).initializePass 0 (world.passes 0) .graphics false, world⟩

/-- The draws of a frame: a single one, of three vertices. -/
def oneDraw : List RecordingOp := [.draw ⟨⟨true, 0, 0⟩, ⟨some 0⟩⟩ ⟨.array 0, 0⟩ 3 0]

/-- A driver with three images that come in order and never lapse. -/
def threeInOrder : Driver := .inOrder 3 (by decide)

/-- Two frames of a swapchain with three images that come in order. -/
theorem presents_rendered_inOrder :
    ∃ s', runSteps (Session.frame .inert threeInOrder 0) (newWithWindow threeInOrder)
        [oneDraw, oneDraw] = .ok s' ∧
      (List.Forall₂ Renders (ledger s'.data.cmd.log).deliveries
          ((s'.world.passes 0).swapchain.log.filterMap FrameEvent.shown) ↔
        ∀ t < [oneDraw, oneDraw].length, threeInOrder.acquireImage t (threeInOrder.imageCount 0) =
          if t % RenderPass.numBuffers < threeInOrder.imageCount 0 then t % RenderPass.numBuffers
          else 0) := by
  have hopen : RenderPass.oneColour.initializeWindow threeInOrder 0 0 =
      .ok (openedWindow threeInOrder) := rfl
  have hinit : (newWithWindow threeInOrder).data.JustInitialized .inert
      (newWithWindow threeInOrder).world.passes := .pass 0 .graphics false
  exact presents_rendered .inert threeInOrder .oneColour (openedWindow threeInOrder) rfl rfl 0 0
    hopen (newWithWindow threeInOrder) 0 hinit rfl rfl [oneDraw, oneDraw] (by decide)
    (fun _ _ => rfl) (fun _ _ => rfl)

/-- A driver with four images that come in order and never lapse. -/
def fourInOrder : Driver := .inOrder 4 (by decide)

/-- With four images that come in order, the fourth image is presented while the chain has gone back
to the framebuffer of the first. -/
theorem not_presents_rendered :
    ∃ s', runSteps (Session.frame .inert fourInOrder 0) (newWithWindow fourInOrder)
        [oneDraw, oneDraw, oneDraw, oneDraw] = .ok s' ∧
      ¬List.Forall₂ Renders (ledger s'.data.cmd.log).deliveries
        ((s'.world.passes 0).swapchain.log.filterMap FrameEvent.shown) := by
  have check : (runSteps (Session.frame .inert fourInOrder 0) (newWithWindow fourInOrder)
      [oneDraw, oneDraw, oneDraw, oneDraw]).map (fun s' =>
        decide (List.Forall₂ Renders (ledger s'.data.cmd.log).deliveries
          ((s'.world.passes 0).swapchain.log.filterMap FrameEvent.shown))) = .ok false := by
    -- the run is evaluated once, together with the comparison
    decide +kernel
  obtain ⟨s', run, differs⟩ := exists_of_map_eq_ok check
  exact ⟨s', run, of_decide_eq_false differs.symm⟩

end Session

end Nyx
