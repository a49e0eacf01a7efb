import Nyx.Recording.RecordingDiscipline
import Nyx.Recording.Scripts

/-! # Pages

The command buffers a chain visits all hold the same: the state, the commands since the last `begin`
and whether a render pass was started. This file gives that a name and follows it through the
operations of a chain, in either mode.

* **`Page`** — what a command buffer holds; **`Page.record`**, **`Page.emit`**, **`Page.stop`** —
  what the operations do to it.
* **`ChainData.Shares`**, **`ChainData.Paged`** — the invariant: both cursors agree, and every
  visited command buffer holds the same page.
* **`ChainData.Turns`** — a step from one page to another, with what it leaves alone.
* **`all_mode_broadcast`** — in `All` mode all four command buffers hold the same after each
  operation. -/

namespace Nyx

open Foundations

/-! ## What a command buffer holds -/

/-- The state of a command buffer, its commands since the last `begin`, and whether a render pass
was started in it. -/
structure Page where
  state : BufferState := .initial
  commands : List Command := []
  inPass : Bool := false
  deriving DecidableEq, Repr

/-- What a slot holds: the state of its command buffer, the commands, and whether a render pass is
open. -/
def Slot.page (slot : Slot) : Page := ⟨slot.vk.state, slot.vk.commands, slot.startedRenderPass⟩

namespace Page

/-- Begin with some commands, unless it is being recorded. -/
def record (page : Page) (opening : List Command) : Page :=
  if page.state = .recording then page else ⟨.recording, opening, !opening.isEmpty⟩

/-- The page with some commands appended to those that it has. -/
def emit (page : Page) (commands : List Command) : Page :=
  { page with commands := page.commands ++ commands }

/-- The command that closes the render pass of the page, if one is open. -/
def closing (page : Page) : List Command := if page.inPass then [.endRenderPass] else []

/-- The page after its recording is ended, if it is being recorded. -/
def stop (page : Page) : Page :=
  if page.state = .recording then ⟨.executable, page.commands ++ page.closing, false⟩ else page

/-- After `record` a page is being recorded, whether it was before or not. -/
@[simp] theorem state_record (page : Page) (opening : List Command) :
    (page.record opening).state = .recording := by
  unfold record
  split
  · assumption
  · rfl

/-- After `stop` a page is not being recorded, whether it was before or not. -/
theorem state_stop (page : Page) : page.stop.state ≠ .recording := by
  unfold stop
  split
  · exact BufferState.noConfusion
  · assumption

/-- The page after one move of a recording operation. -/
def move (opening : Bool → List Command) (page : Page) : Move → Page
  | .record useRenderPass => page.record (opening useRenderPass)
  | .each _ commands => page.emit commands
  | .markRecord | .storeImageBarrier _ | .storeBufferBarrier _ | .synchronize _ => page

/-- The page after a list of moves, which are done in order. -/
def moves (opening : Bool → List Command) (page : Page) (moves : List Move) : Page :=
  moves.foldl (Page.move opening) page

/-- No move of a recording operation ends a recording. -/
theorem state_moves_of_recording {opening : Bool → List Command} {page : Page}
    (h : page.state = .recording) (moves : List Move) :
    (page.moves opening moves).state = .recording := by
  induction moves generalizing page with
  | nil => exact h
  | cons move moves ih =>
      refine @ih (page.move opening move) ?_
      cases move with
      | record useRenderPass => exact state_record ..
      | each | markRecord | storeImageBarrier | storeBufferBarrier | synchronize => exact h

/-- Moves with a `record` among them leave the page being recorded. -/
theorem state_moves {opening : Bool → List Command} {moves : List Move} {useRenderPass : Bool}
    (h : firstRecord moves = some useRenderPass) (page : Page) :
    (page.moves opening moves).state = .recording := by
  induction moves generalizing page with
  | nil => cases h
  | cons move moves ih =>
      cases move with
      | record useRenderPass => exact state_moves_of_recording (state_record ..) moves
      | each | markRecord | storeImageBarrier | storeBufferBarrier | synchronize =>
          exact ih h (page.move opening _)

end Page

namespace SlotAction

variable {slot : Slot}

/-- Beginning a slot, in which no render pass was started unless one is started now. -/
theorem page_begin (info : BeginInfo) (opening : List Command) (started : Bool)
    (h : slot.startedRenderPass = true → started = true) :
    ((begin info opening started).apply slot).page = ⟨.recording, opening, started⟩ := by
  have hstarted : ((begin info opening started).apply slot).startedRenderPass = started := by
    simpa [apply, begin] using h
  rw [Slot.page, state_begin, commands_begin, hstarted]

/-- To record commands into a slot that is being recorded appends them to its page. -/
theorem page_emit (commands : List Command) (h : slot.vk.state = .recording) :
    ((emit commands).apply slot).page = slot.page.emit commands := by
  rw [Slot.page, state_emit, commands_emit commands h]
  rfl

/-- To stop a slot that is being recorded stops its page. -/
theorem page_stop (h : slot.vk.state = .recording) :
    (stop.apply slot).page = slot.page.stop := by
  have hpage : slot.page.state = .recording := h
  rw [Slot.page, state_stop slot h, commands_stop h, Page.stop, if_pos hpage]
  rfl

end SlotAction

/-! ## The invariant -/

namespace ChainData

/-- **Shares.** Both cursors agree, and every visited slot holds the page. -/
structure Shares (data : ChainData) (page : Page) : Prop extends data.OnRing where
  home : data.cmd.current = data.current
  pages : ∀ i < commandBufferCount, data.Visits i → (data.cmd.slots i).page = page

/-- **Paged.** The visited slots share the page, and no other slot is being recorded or has a render
pass open. -/
structure Paged (data : ChainData) (page : Page) : Prop extends data.Shares page where
  recording : data.cmd.recording = true ↔ page.state = .recording
  closed : data.cmd.recording = false → page.inPass = false
  others : ∀ i < commandBufferCount, ¬ data.Visits i →
    (data.cmd.slots i).vk.state ≠ .recording ∧ (data.cmd.slots i).startedRenderPass = false

variable {data data' : ChainData} {page page' : Page} {body : CommandBuffer → CommandBuffer}
  {action : SlotAction} {flag : Bool → Bool}

/-- The slots of a fresh chain share the empty page, in either mode. -/
theorem Fresh.paged (h : data.Fresh) (mode : ChainMode) : (data.setMode mode).Paged {} := by
  have hslot : ∀ i, ((data.setMode mode).cmd.slots i) = {} := by
    cases mode <;> exact h.slots
  have hidle : (data.setMode mode).cmd.recording = false := by
    cases mode <;> exact h.idle
  refine ⟨⟨?_, ?_, fun i _ _ => by rw [hslot]; rfl⟩, ?_, fun _ => rfl, fun i _ _ => ?_⟩
  · cases mode
    · exact ⟨h.parent, h.level, h.size, h.current, h.cursor, Or.inl rfl⟩
    · exact ⟨h.parent, h.level, h.size, h.current, h.cursor, Or.inr rfl⟩
  · cases mode <;> exact h.home
  · simp [hidle]
  · rw [hslot]
    exact ⟨by decide, rfl⟩

/-- A step from one page to another, and what it leaves alone. -/
structure Turns (data data' : ChainData) (page' : Page) : Prop where
  paged : data'.Paged page'
  pass : data'.pass = data.pass
  queue : data'.queue = data.queue
  setup : data'.cmd.setup = data.cmd.setup
  numCmd : data'.numCmd = data.numCmd

/-- Two steps in a row are a step, to the page of the second one. -/
theorem Turns.trans {data'' : ChainData} {page'' : Page} (h : data.Turns data' page')
    (h' : data'.Turns data'' page'') : data.Turns data'' page'' :=
  ⟨h'.paged, h'.pass.trans h.pass, h'.queue.trans h.queue, h'.setup.trans h.setup,
    h'.numCmd.trans h.numCmd⟩

/-- No render pass is started anywhere while the chain is not recording. -/
theorem Paged.not_started (h : data.Paged page) (hidle : data.cmd.recording = false) {i : Nat}
    (hi : i < commandBufferCount) : (data.cmd.slots i).startedRenderPass = false := by
  by_cases hvisit : data.Visits i
  · have hpage := congrArg Page.inPass (h.pages i hi hvisit)
    exact hpage.trans (h.closed hidle)
  · exact (h.others i hi hvisit).2

/-- The invariant does not look at the flags, the stored barriers or the pass. -/
theorem Paged.of_eq (h : data.Paged page) (hcmd : data'.cmd = data.cmd)
    (hparent : data'.parent = data.parent) (hcurrent : data'.current = data.current)
    (hnum : data'.numCmd = data.numCmd) : data'.Paged page := by
  have hvisits : ∀ i, data'.Visits i ↔ data.Visits i := fun i => by
    rw [Visits, Visits, hcmd, hnum]
  refine ⟨⟨⟨hparent.trans h.parent, hcmd ▸ h.level, hcmd ▸ h.size, hcurrent ▸ h.current,
    hcmd ▸ h.cursor, hnum ▸ h.numCmd⟩, ?_, ?_⟩, hcmd ▸ h.recording, hcmd ▸ h.closed, ?_⟩
  · rw [hcmd, hcurrent, h.home]
  · intro i hi hvisit
    rw [hcmd]
    exact h.pages i hi ((hvisits i).mp hvisit)
  · intro i hi hvisit
    rw [hcmd]
    exact h.others i hi fun hold => hvisit ((hvisits i).mpr hold)

/-- After a broadcast that starts at home the visited slots share the page that the action turns
theirs to. -/
theorem Shares.broadcast (h : data.OnRing) (hhome : data.Home)
    (hbody : data.cmd.Performs body action flag) (hflag : ∀ b, flag (flag b) = flag b)
    (hpage : ∀ i < commandBufferCount, data.Visits i →
      (action.apply (data.cmd.slots i)).page = page') : (data.broadcast body).Shares page' := by
  have hspec := broadcast_spec h hbody hflag
  refine ⟨h.broadcast hbody hflag, hspec.cursor, fun i hi hvisit => ?_⟩
  -- the cursor is put back, so the visited slots are the same as before
  have hold : data.Visits i := by
    rcases hvisit with hall | hcursor
    · exact Or.inl hall
    · exact (visits_iff_of_home hhome i).mpr (Or.inr (hcursor.trans hspec.cursor))
  rw [hspec.slots i hi, if_pos hold]
  exact hpage i hi hold

/-- **A broadcast turns the page** as its action turns that of a visited slot. -/
theorem Paged.broadcast (h : data.Paged page) (hbody : data.cmd.Performs body action flag)
    (hflag : ∀ b, flag (flag b) = flag b)
    (hpage : ∀ slot : Slot, slot.page = page → (action.apply slot).page = page')
    (hrec : flag data.cmd.recording = true ↔ page'.state = .recording)
    (hclosed : flag data.cmd.recording = false → page'.inPass = false) :
    data.Turns (data.broadcast body) page' := by
  have hspec := broadcast_spec h.toOnRing hbody hflag
  have hshares := Shares.broadcast h.toOnRing (Or.inr h.home) hbody hflag
    fun i hi hvisit => hpage _ (h.pages i hi hvisit)
  refine ⟨⟨hshares, ?_, ?_, ?_⟩, rfl, rfl, hspec.setup, rfl⟩
  · rw [hspec.recording]
    exact hrec
  · rw [hspec.recording]
    exact hclosed
  · intro i hi hvisit
    have hold : ¬ data.Visits i := fun hold => hvisit <| hold.imp_right fun hcursor =>
      hcursor.trans (h.home.trans hspec.cursor.symm)
    rw [hspec.slots i hi, if_neg hold]
    exact h.others i hi hold

/-! ## Moves -/

/-- A `record` of a chain records its page, with what the render pass opens. -/
theorem Paged.record (h : data.Paged page) (passes : PassId → RenderPass) (useRenderPass : Bool) :
    data.Turns (data.record passes useRenderPass)
      (page.record (data.opening passes useRenderPass)) := by
  cases hrec : data.cmd.recording with
  | true =>
      have hstay : data.cmd.setActive data.current = data.cmd := by
        rw [CommandBuffer.setActive, if_pos (by rw [h.size]; exact h.current), ← h.home]
      rw [record_of_recording hrec, hstay, Page.record, if_pos (h.recording.mp hrec)]
      exact ⟨h, rfl, rfl, rfl, rfl⟩
  | false =>
      have hbody := h.toOnRing.performs_recordBody passes useRenderPass
      have hidle : ¬ page.state = .recording := fun hstate => by
        cases hrec.symm.trans (h.recording.mpr hstate)
      rw [record_of_not_recording hrec, Page.record, if_neg hidle, ← opens_eq]
      refine h.broadcast hbody (fun _ => rfl) ?_ (by simp) (by simp)
      intro slot hslot
      refine SlotAction.page_begin _ _ _ fun hstarted => ?_
      have hclosed := (congrArg Page.inPass hslot).trans (h.closed hrec)
      cases hstarted.symm.trans hclosed

/-- To record commands while the chain is recording appends them to its page. -/
theorem Paged.each (h : data.Paged page) (hrec : data.cmd.recording = true)
    (bound : Option PipelineState) (commands : List Command) :
    data.Turns { data.broadcast (·.issueBound bound commands) with dirty := true }
      (page.emit commands) := by
  have hbody : data.cmd.Performs (·.issueBound bound commands) (.emit commands) id :=
    CommandBuffer.performs_issueBound bound commands
  have hstate := h.recording.mp hrec
  have hturn := h.broadcast hbody (fun _ => rfl)
    (fun slot hslot => (SlotAction.page_emit commands
      ((congrArg Page.state hslot).trans hstate)).trans (congrArg (Page.emit · commands) hslot))
    (iff_of_true hrec hstate) (fun hidle => by cases hrec.symm.trans hidle)
  exact ⟨hturn.paged.of_eq rfl rfl rfl rfl, rfl, rfl, hturn.setup, rfl⟩

/-- An `end` of a chain stops its page. -/
theorem Paged.stop (h : data.Paged page) : data.Turns data.stop page.stop := by
  unfold ChainData.stop
  cases hrec : data.cmd.recording with
  | false =>
      have hidle : ¬ page.state = .recording := fun hstate => by
        cases hrec.symm.trans (h.recording.mpr hstate)
      simp only [Bool.false_eq_true, if_false]
      rw [Page.stop, if_neg hidle]
      exact ⟨h, rfl, rfl, rfl, rfl⟩
  | true =>
      have hbody : data.cmd.Performs CommandBuffer.stop .stop (fun _ => false) :=
        CommandBuffer.performs_stop
      have hstate := h.recording.mp hrec
      have hclosed : page.stop.inPass = false := by rw [Page.stop, if_pos hstate]
      have hturn := h.broadcast hbody (fun _ => rfl)
        (fun slot hslot => (SlotAction.page_stop
          ((congrArg Page.state hslot).trans hstate)).trans (congrArg Page.stop hslot))
        (iff_of_false Bool.false_ne_true page.state_stop) (fun _ => hclosed)
      simp only [if_true]
      exact ⟨hturn.paged.of_eq rfl rfl rfl rfl, rfl, rfl, hturn.setup, rfl⟩

/-- Completions on the GPU leave the page of a chain alone. -/
theorem Paged.complete (h : data.Paged page) :
    data.Turns { data with cmd := data.cmd.completeAll } page where
  paged := ⟨⟨⟨h.parent, h.level, h.size, h.current, h.cursor, h.numCmd⟩, h.home, h.pages⟩,
    h.recording, h.closed, h.others⟩
  pass := rfl
  queue := rfl
  setup := rfl
  numCmd := rfl

/-- The step that does nothing turns the page of a chain into itself. -/
theorem Paged.refl (h : data.Paged page) : data.Turns data page := ⟨h, rfl, rfl, rfl, rfl⟩

/-- **The moves of an operation on the page**; `recorded` says that the chain is recording
already. -/
theorem Paged.moves (h : data.Paged page) (passes : PassId → RenderPass) {moves : List Move}
    {recorded : Bool} (hmoves : Recorded recorded moves)
    (hrec : recorded = true → data.cmd.recording = true) :
    data.Turns (data.moves passes moves) (page.moves (data.opening passes) moves) := by
  induction moves generalizing data page recorded with
  | nil => exact h.refl
  | cons move moves ih =>
      have next : ∀ {data' : ChainData} {page' : Page} {recorded' : Bool},
          data.Turns data' page' → page' = page.move (data.opening passes) move →
          Recorded recorded' moves → (recorded' = true → data'.cmd.recording = true) →
          data.Turns (data'.moves passes moves)
            (page.moves (data.opening passes) (move :: moves)) := by
        rintro data' page' recorded' hturn rfl hrest hrec'
        have htail := ih hturn.paged hrest hrec'
        rw [opening_congr passes hturn.pass hturn.setup] at htail
        exact hturn.trans htail
      cases move with
      | storeImageBarrier | storeBufferBarrier | markRecord =>
          exact next ⟨h.of_eq rfl rfl rfl rfl, rfl, rfl, rfl, rfl⟩ rfl hmoves hrec
      | synchronize device =>
          show data.Turns ((data.deviceSynchronize _).moves passes moves) _
          rcases data.deviceSynchronize_cases (device.or data.cmd.queue.device) with same | same
          · rw [same]
            exact next h.complete rfl hmoves hrec
          · rw [same]
            exact next h.refl rfl hmoves hrec
      | record useRenderPass =>
          have hrest : Recorded true moves := hmoves
          refine next (h.record passes useRenderPass) rfl hrest fun _ => ?_
          exact (h.record passes useRenderPass).paged.recording.mpr (Page.state_record ..)
      | each bound commands =>
          obtain ⟨htrue, hrest⟩ := hmoves
          have hnow := hrec htrue
          refine next (h.each hnow bound commands) rfl hrest fun _ => ?_
          exact (h.each hnow bound commands).paged.recording.mpr (h.recording.mp hnow)

/-- While a chain is not recording, none of its slots is being recorded. -/
theorem Paged.not_recording (h : data.Paged page) (hidle : data.cmd.recording = false) {i : Nat}
    (hi : i < commandBufferCount) : (data.cmd.slots i).vk.state ≠ .recording := by
  by_cases hvisit : data.Visits i
  · intro hstate
    have hpage := congrArg Page.state (h.pages i hi hvisit)
    cases hidle.symm.trans (h.recording.mpr (hpage.symm.trans hstate))
  · exact (h.others i hi hvisit).1

/-- **A submit turns to the page of the next slot**, which in `All` mode is the same page. -/
theorem Paged.queueSubmit (h : data.Paged page) (hidle : data.cmd.recording = false) :
    ∃ page', data.Turns
        { data with
          cmd := Queue.submit data.cmd
          current := (Queue.submit data.cmd).current
          dirty := false } page' ∧
      page'.state ≠ .recording ∧ (data.numCmd = commandBufferCount → page' = page) := by
  have hsubmit := CommandBuffer.submit_eq data.cmd h.level
  have hsetup := CommandBuffer.setup_submit h.level
  have hcursor := h.current_submit
  have hrec : (Queue.submit data.cmd).recording = false := by
    rw [hsubmit]
    exact hidle
  -- a submit changes the fence of a slot, not what it holds
  have hslots : ∀ i, ((Queue.submit data.cmd).slots i).page = (data.cmd.slots i).page := by
    intro i
    rw [hsubmit]
    show ((Function.update data.cmd.slots data.cmd.current
      (SlotAction.submit.apply data.cmd.active)) i).page = _
    by_cases hi : i = data.cmd.current
    · subst hi
      rw [Function.update_self]
      rfl
    · rw [Function.update_of_ne hi]
  have hopen : ∀ i < commandBufferCount,
      ((Queue.submit data.cmd).slots i).page.state ≠ .recording ∧
        ((Queue.submit data.cmd).slots i).page.inPass = false := by
    intro i hi
    rw [hslots]
    exact ⟨h.not_recording hidle hi, h.not_started hidle hi⟩
  obtain ⟨hstate, hpass⟩ := hopen _ hcursor
  refine ⟨((Queue.submit data.cmd).slots (Queue.submit data.cmd).current).page,
    ⟨⟨⟨⟨h.parent, (CommandBuffer.level_eq_of_setup hsetup).trans h.level,
      (CommandBuffer.size_eq_of_setup hsetup).trans h.size, hcursor, hcursor, h.numCmd⟩, rfl, ?_⟩,
      iff_of_false (by rw [hrec]; exact Bool.false_ne_true) hstate, fun _ => hpass,
      fun i hi _ => hopen i hi⟩, rfl, rfl, hsetup, rfl⟩, hstate, fun hall => ?_⟩
  · rintro i hi (hall | rfl)
    · show ((Queue.submit data.cmd).slots i).page = _
      rw [hslots, hslots, h.pages i hi (Or.inl hall), h.pages _ hcursor (Or.inl hall)]
    · rfl
  · rw [hslots]
    exact h.pages _ hcursor (Or.inl hall)

end ChainData

/-! ## Operations -/

namespace Session

variable {env : Environment} {s t : Session} {page : Page}

/-- A `submit` leaves a page that is not being recorded; in `All` mode it is the page from before,
stopped. -/
theorem paged_submit (env : Environment) (h : s.data.Paged page) :
    ∃ page', s.data.Turns (s.submit env).data page' ∧ page'.state ≠ .recording ∧
      (s.data.numCmd = commandBufferCount → page' = page.stop) := by
  have hstop := h.stop
  have hidle : s.data.stop.cmd.recording = false := by
    rw [Bool.eq_false_iff]
    exact fun hrec => page.state_stop (hstop.paged.recording.mp hrec)
  by_cases hready : s.data.stop.parent = none ∧ s.data.stop.hasRecord = true ∧
      s.data.stop.dirty = true
  · obtain ⟨page', hturn, hstate, hall⟩ := hstop.paged.queueSubmit hidle
    have hboth := hstop.trans hturn
    rw [submit_of_ready env hready]
    exact ⟨page', ⟨hboth.paged.of_eq rfl rfl rfl rfl, hboth.pass, hboth.queue, hboth.setup,
      hboth.numCmd⟩, hstate, fun hnum => hall (hstop.numCmd.trans hnum)⟩
  · rw [submit_of_not_ready env hready]
    exact ⟨page.stop, ⟨hstop.paged.of_eq rfl rfl rfl rfl, hstop.pass, hstop.queue, hstop.setup,
      hstop.numCmd⟩, page.state_stop, fun _ => rfl⟩

/-- A `begin` of a chain without a parent records its page, with the render pass if it has one. -/
theorem paged_begin (h : s.data.Paged page) :
    s.data.Turns s.begin.data (page.record (s.data.opening s.world.passes s.data.pass.isSome)) := by
  rw [Session.begin, h.parent]
  exact h.record s.world.passes s.data.pass.isSome

/-- A recording operation makes the moves of its recipe on the page. -/
theorem paged_recording {op : RecordingOp} (h : s.data.Paged page)
    (hstep : op.step env s = .ok t) :
    ∃ recipe, op.recipe env s.data.pass s.data.queue.device s.world = .ok recipe ∧
      t = s.follow recipe ∧
      s.data.Turns t.data (page.moves (s.data.opening s.world.passes) recipe.1) := by
  obtain ⟨recipe, hrecipe, rfl⟩ := op.exists_recipe hstep
  exact ⟨recipe, hrecipe, rfl, h.moves s.world.passes (RecordingOp.recorded hrecipe)
    (fun hfalse => absurd hfalse Bool.false_ne_true)⟩

/-- A `synchronize` leaves the page of a chain alone. -/
theorem paged_synchronize (h : s.data.Paged page) : s.data.Turns s.synchronize.data page := by
  unfold Session.synchronize
  split
  · exact h.complete
  · exact h.refl

end Session

/-! ## All mode -/

/-- A page that was never begun is that of a chain that made no call. -/
def ChainData.Untouched (data : ChainData) (page : Page) : Prop :=
  page.state = .initial → data.cmd.log = [] ∧ data.dirty = false

/-- **One step in `All` mode** leaves all slots with one page, and tells which calls it makes on
each of them. -/
theorem Session.all_mode_step {env : Environment} {s t : Session} {page : Page} {op : ListOp}
    (h : s.data.Paged page) (hall : s.data.numCmd = commandBufferCount)
    (huntouched : s.data.Untouched page) (hstep : op.step env s = .ok t) :
    ∃ page', t.data.Paged page' ∧ t.data.numCmd = commandBufferCount ∧
      t.data.Untouched page' := by
  have touched : ∀ {data : ChainData} {page' : Page}, page'.state = .recording →
      data.Untouched page' := fun hstate hinitial => by
    cases hstate.symm.trans hinitial
  -- an end without a begin does nothing
  have hstop : page.stop.state = .initial → page.state = .initial ∧ s.data.stop = s.data := by
    unfold Page.stop
    split
    · exact fun hinitial => BufferState.noConfusion hinitial
    next hidle =>
      refine fun hinitial => ⟨hinitial, ?_⟩
      rw [ChainData.stop, if_neg fun hrec => hidle (h.recording.mp hrec)]
  cases op with
  | begin =>
      cases hstep
      have hturn := Session.paged_begin h
      exact ⟨_, hturn.paged, hturn.numCmd.trans hall, touched (Page.state_record ..)⟩
  | stop =>
      cases hstep
      refine ⟨_, h.stop.paged, h.stop.numCmd.trans hall, fun hinitial => ?_⟩
      obtain ⟨hold, hsame⟩ := hstop hinitial
      show s.data.stop.cmd.log = [] ∧ s.data.stop.dirty = false
      rw [hsame]
      exact huntouched hold
  | submit =>
      cases hstep
      obtain ⟨page', hturn, -, hpage⟩ := Session.paged_submit env h
      refine ⟨page', hturn.paged, hturn.numCmd.trans hall, fun hinitial => ?_⟩
      rw [hpage hall] at hinitial
      obtain ⟨hold, hsame⟩ := hstop hinitial
      obtain ⟨hlog, hclean⟩ := huntouched hold
      have hnot : ¬ (s.data.stop.parent = none ∧ s.data.stop.hasRecord = true ∧
          s.data.stop.dirty = true) := by
        rw [hsame, hclean]
        simp
      show (s.submit env).data.cmd.log = [] ∧ (s.submit env).data.dirty = false
      rw [Session.submit_of_not_ready env hnot, hsame]
      exact ⟨hlog, hclean⟩
  | synchronize =>
      cases hstep
      have hturn := Session.paged_synchronize h
      refine ⟨page, hturn.paged, hturn.numCmd.trans hall, fun hinitial => ?_⟩
      unfold Session.synchronize
      split <;> exact huntouched hinitial
  | recording op =>
      obtain ⟨recipe, hrecipe, -, hturn⟩ := Session.paged_recording h hstep
      refine ⟨_, hturn.paged, hturn.numCmd.trans hall, touched ?_⟩
      exact Page.state_moves (RecordingOp.stretch hrecipe).first page

/-- **All-mode broadcast.** A chain that was just initialised is switched to `All` mode, and any
operations follow. Then all command buffers are in the same state and hold the same commands since
their last `begin`: they are all being recorded while the chain is recording, all ended while it is
not, unless no call was made at all. And the cursor of the buffers is that of the chain. -/
theorem all_mode_broadcast (env : Environment) (s t : Session) (ops : List ListOp)
    (hinit : s.data.JustInitialized env s.world.passes)
    (hrun : runSteps (ListOp.step env) (s.setMode .all) ops = .ok t) :
    t.data.cmd.current = t.data.current ∧ ∃ state commands,
      (∀ i < commandBufferCount, (t.data.cmd.slots i).vk.state = state ∧
        (t.data.cmd.slots i).vk.commands = commands) ∧
      (t.data.cmd.recording = true ↔ state = .recording) ∧
      (state = .recording ∨ state = .executable ∨ t.data.cmd.log = []) := by
  have hfresh := hinit.fresh
  have hlog : (s.setMode .all).data.cmd.log = [] := hfresh.log
  have hend : ∃ page, t.data.Paged page ∧ t.data.numCmd = commandBufferCount ∧
      t.data.Untouched page :=
    runSteps_preserves
      (fun s => ∃ page, s.data.Paged page ∧ s.data.numCmd = commandBufferCount ∧
        s.data.Untouched page)
      (fun _ _ _ ⟨_, hpaged, hall, huntouched⟩ _ hstep =>
        Session.all_mode_step hpaged hall huntouched hstep)
      ⟨{}, hfresh.paged .all, rfl, fun _ => ⟨hlog, hfresh.clean⟩⟩
      (stepsMeet_of_forall_mem (p := fun _ => True) fun _ _ => trivial) hrun
  obtain ⟨page, hpaged, hall, huntouched⟩ := hend
  refine ⟨hpaged.home, page.state, page.commands, fun i hi => ?_, hpaged.recording, ?_⟩
  · have hpage := hpaged.pages i hi (Or.inl hall)
    exact ⟨congrArg Page.state hpage, congrArg Page.commands hpage⟩
  · cases hstate : page.state with
    | recording => exact Or.inl rfl
    | executable => exact Or.inr (Or.inl rfl)
    | initial => exact Or.inr (Or.inr (huntouched hstate).1)

/-- A copy, an explicit end and a submit, then a barrier. -/
def broadcastOps : List ListOp :=
  [.recording (.copyBuffer ⟨.array 0, 0⟩ ⟨.array 1, 0⟩ 4 1 0 0), .stop, .submit,
    .recording (.pipelineBarrier .transfer .host)]

/-- After them all four command buffers of a new graphics chain hold the barrier. -/
theorem all_mode_broadcast_broadcastOps :
    ∃ t, runSteps (ListOp.step .inert) (Session.newGraphics.setMode .all) broadcastOps = .ok t ∧
      t.data.cmd.current = t.data.current ∧ ∃ state commands,
        (∀ i < commandBufferCount, (t.data.cmd.slots i).vk.state = state ∧
          (t.data.cmd.slots i).vk.commands = commands) ∧
        (t.data.cmd.recording = true ↔ state = .recording) ∧
        (state = .recording ∨ state = .executable ∨ t.data.cmd.log = []) :=
  ⟨_, rfl, all_mode_broadcast .inert .newGraphics _ broadcastOps (.type 0 .graphics) rfl⟩

end Nyx
