import Nyx.Recording.TurnedRings

/-! # The lives of a chain

A chain object can be reset and initialised again. Neither of the two touches all of its fields:
what the chain was doing when it was reset goes on in its next life. This file says which of the
fields left behind can be seen from outside.

* **`Initialization`**, **`LifeOp`** — the calls that initialise a chain, and all that can happen to
  a chain object.
* **`SameCalls`** — two chains that make the same calls under all operations, up to the slots.
* **`ChainData.Settled`** — the condition: nothing that shows was left behind.
* **`Initialization.apply_reset`** — what a chain that is reset and initialised again keeps.
* **`reset_is_fresh_iff`** — a chain that is reset and initialised makes the calls of a new one
  exactly when it was settled. -/

namespace Nyx

open Foundations

/-! ## Lives -/

/-- The `initialize` calls of a chain without a parent. -/
inductive Initialization
  | ofType (gpu : Nat) (type : ChainType)
  | ofWindow (gpu windowId : Nat)
  | ofPass (pass : PassId) (type : ChainType) (multiPass : Bool)
  | ofPassWindow (pass : PassId) (windowId : Nat) (multiPass : Bool)
  deriving DecidableEq, Repr

/-- The chain as the call of `initialize` leaves it, in a world with these render passes. -/
def Initialization.apply (env : Environment) (passes : PassId → RenderPass) (data : ChainData) :
    Initialization → ChainData
  | .ofType gpu type => data.initializeType gpu type
  | .ofWindow gpu windowId => data.initializeWindow env gpu windowId
  | .ofPass pass type multiPass => data.initializePass pass (passes pass) type multiPass
  | .ofPassWindow pass windowId multiPass =>
      data.initializePassWindow env pass (passes pass) windowId multiPass

/-- The window that the call of `initialize` names is there; a call without a window names none. -/
def Initialization.HasWindow (env : Environment) : Initialization → Prop
  | .ofType _ _ | .ofPass _ _ _ => True
  | .ofWindow _ windowId | .ofPassWindow _ windowId _ => env.hasWindow windowId = true

/-- What happens to a chain object: it is initialised, also as a child of another chain, reset, and
operated on. -/
inductive LifeOp
  | initialization (init : Initialization)
  | initializeChild (parentId : ChainId) (parent : ChainData) (subpassId : Nat)
  | reset
  | operate (op : Op)

/-- What goes wrong in the life of a chain: an operation fails, or one reads command buffers that
are not there. -/
inductive LifeFailure
  | chain (failure : ChainFailure)
  /-- A command buffer is read of a chain that has none. -/
  | noBuffers
  deriving DecidableEq, Repr

/-- Whether an operation reads a command buffer of the chain. -/
def Op.ReadsBuffers (s : Session) : Op → Prop
  | .advance | .setMode _ | .synchronize => False
  | .begin => s.data.cmd.recording = false
  | .stop => s.data.cmd.recording = true
  | .submit => s.data.cmd.recording = true ∨
      s.data.parent = none ∧ s.data.hasRecord = true ∧ s.data.dirty = true
  | .recording _ => True
  | .combine _ child => s.data.parent = none ∧ child.parent = some s.self ∧
      child.cmd.recording = false

instance (s : Session) : DecidablePred (Op.ReadsBuffers s)
  | .advance | .setMode _ | .synchronize => isFalse not_false
  | .begin => inferInstanceAs (Decidable (s.data.cmd.recording = false))
  | .stop => inferInstanceAs (Decidable (s.data.cmd.recording = true))
  | .submit => inferInstanceAs (Decidable (_ ∨ _))
  | .recording _ => isTrue trivial
  | .combine _ child => inferInstanceAs (Decidable (_ ∧ _ ∧ child.cmd.recording = false))

/-- One step of a life: an initialisation, a reset, or an operation, which fails where it reads
command buffers of a chain that has none. -/
def LifeOp.step (env : Environment) (s : Session) : LifeOp → Except LifeFailure Session
  | .initialization init => .ok { s with data := init.apply env s.world.passes s.data }
  | .initializeChild parentId parent subpassId =>
      .ok { s with data := s.data.initializeChild parentId parent subpassId }
  | .reset => .ok { s with data := s.data.reset }
  | .operate op =>
      if op.ReadsBuffers s ∧ s.data.initialized = false then .error .noBuffers
      else (op.step env s).mapError .chain

/-- A chain that is reset and initialised. Its calls are logged from here on. -/
def Session.restart (env : Environment) (init : Initialization) (s : Session) : Session :=
  let data := init.apply env s.world.passes s.data.reset
  { s with data := { data with cmd.log := [] } }

/-- A newly constructed chain, initialised alike in the same world. -/
def Session.construct (env : Environment) (init : Initialization) (s : Session) : Session :=
  { s with data := init.apply env s.world.passes {} }

/-! ## What is compared -/

/-- Whether a call is a begin, an end, a command or a submit. -/
def Call.observed : Call → Bool
  | .beginBuffer _ | .command _ | .endBuffer | .submit => true
  | .waitForFences | .resetFences => false

/-- The begins, ends, commands and submits of a chain, each with its slot. -/
def Session.calls (s : Session) : List (Call × Nat) :=
  (s.data.cmd.log.filter (·.call.observed)).map fun event => (event.call, event.slot)

/-- Whatever operations follow, the two chains fail alike or make the same calls, on slots that are
renamed. -/
def CallsAgree (env : Environment) (rename : Nat → Nat) (s t : Session) : Prop :=
  ∀ ops, (runSteps (Op.step env) s ops).map Session.calls =
    (runSteps (Op.step env) t ops).map fun t => t.calls.map (Prod.map id rename)

/-- **The same calls**, up to a renaming of the slots. -/
def SameCalls (env : Environment) (s t : Session) : Prop :=
  ∃ rename : Nat → Nat,
    (∀ i < commandBufferCount, ∀ j < commandBufferCount, rename i = rename j → i = j) ∧
      CallsAgree env rename s t

/-- **Settled.** The chain is not recording, nothing that was appended to it awaits a submit, it was
never a child, it is in `Sequential` mode, and its two cursors agree. -/
structure ChainData.Settled (data : ChainData) : Prop where
  idle : data.cmd.recording = false
  clean : data.dirty = false
  orphan : data.parent = none
  sequential : data.numCmd = 1
  home : data.cmd.current = data.current

namespace Initialization

variable {env : Environment} {passes : PassId → RenderPass} {init : Initialization}

/-- A new chain that finds the window it names is freshly initialised by the call. -/
theorem HasWindow.justInitialized (h : init.HasWindow env) :
    (init.apply env passes {}).JustInitialized env passes := by
  cases init with
  | ofType gpu type => exact .type gpu type
  | ofWindow gpu windowId => exact .window gpu windowId h
  | ofPass pass type multiPass => exact .pass pass type multiPass
  | ofPassWindow pass windowId multiPass => exact .passWindow pass windowId multiPass h

/-- **What is left behind.** A chain that is reset and initialised is a new chain up to these
fields. -/
theorem HasWindow.apply_reset (h : init.HasWindow env) (data : ChainData) :
    init.apply env passes data.reset =
      { init.apply env passes {} with
        imageBarriers := data.imageBarriers
        bufferBarriers := data.bufferBarriers
        parent := data.parent
        subpassId := data.subpassId
        hasRecord := data.hasRecord
        numCmd := data.numCmd
        current := data.current
        dirty := data.dirty
        cmd := { (init.apply env passes {}).cmd with
          bound := data.cmd.bound
          beginInfo := data.cmd.beginInfo
          recording := data.cmd.recording
          current := data.cmd.current
          log := data.cmd.log } } := by
  cases init with
  | ofType gpu type => rfl
  | ofPass pass type multiPass => rfl
  | ofWindow gpu windowId =>
      have hwindow : env.hasWindow windowId = true := h
      simp only [apply, ChainData.initializeWindow, hwindow, if_true]
      rfl
  | ofPassWindow pass windowId multiPass =>
      have hwindow : env.hasWindow windowId = true := h
      simp only [apply, ChainData.initializePassWindow, hwindow, if_true]
      rfl

end Initialization

/-! ## What holds in every life -/

namespace ChainData

variable {data : ChainData} {passes : PassId → RenderPass}

/-- The ring of a chain that was never a child: a primary one with plain begins, or gone. -/
structure PlainRing (data : ChainData) : Prop where
  level : data.cmd.level = .primary
  beginInfo : data.cmd.beginInfo = {}
  current : data.current < commandBufferCount
  cursor : data.cmd.current < commandBufferCount
  size : data.cmd.size = 0 ∨ data.cmd.size = commandBufferCount

/-- **Lived.** What holds of a chain object whatever happened to it: it visits one command buffer or
all, what was appended to it is recorded still or was ended, and without a parent its ring is
plain. -/
structure Lived (data : ChainData) : Prop where
  numCmd : data.numCmd = 1 ∨ data.numCmd = commandBufferCount
  ready : data.dirty = true → data.cmd.recording = true ∨ data.hasRecord = true
  orphan : data.parent = none → data.PlainRing

/-- Without a parent, a chain that has command buffers is on its ring. -/
theorem Lived.onRing (h : data.Lived) (hparent : data.parent = none)
    (hinitialized : data.initialized = true) : data.OnRing := by
  have hplain := h.orphan hparent
  refine ⟨hparent, hplain.level, hplain.size.resolve_left fun hzero => ?_, hplain.current,
    hplain.cursor, h.numCmd⟩
  rw [initialized, CommandBuffer.initialized, hzero] at hinitialized
  cases hinitialized

/-- A step that keeps the ring of a chain keeps it plain, if the chain began its buffers plainly
before. -/
theorem Keeps.plainRing {data' : ChainData} (h : data.Keeps data')
    (hbegin : data.cmd.beginInfo = {}) : data'.PlainRing :=
  ⟨h.ring.level, (CommandBuffer.beginInfo_eq_of_setup h.setup).trans hbegin, h.ring.current,
    h.ring.cursor, Or.inr h.ring.size⟩

/-- After a `record` a chain is recording, whether it was before or not. -/
theorem recording_record (hnum : data.numCmd = 1 ∨ data.numCmd = commandBufferCount)
    (hring : data.parent = none → data.cmd.recording = false → data.OnRing) (useRenderPass : Bool) :
    (data.record passes useRenderPass).cmd.recording = true := by
  cases hrec : data.cmd.recording with
  | true =>
      rw [record_of_recording hrec]
      exact hrec
  | false =>
      rw [record_of_not_recording hrec]
      cases hparent : data.parent with
      | none =>
          have hon := hring hparent hrec
          have hbody := hon.performs_recordBody passes useRenderPass
          exact (broadcast_spec hon hbody fun _ => rfl).recording
      | some parentId =>
          -- each of the bodies sets the flag, and the last one is run after all others
          have hbody : ∀ cmd, (data.recordBody passes useRenderPass cmd).recording = true := by
            intro cmd
            unfold recordBody
            rw [hparent]
            cases data.pass with
            | none => rfl
            | some pass =>
                dsimp only
                split
                · show (if cmd.level = .primary then cmd.recordPrimary (passes pass)
                    else _).recording = true
                  split
                  · rw [CommandBuffer.recordPrimary_eq]
                  · rfl
                · rfl
          obtain ⟨n, hn⟩ : ∃ n, data.numCmd = n + 1 := by
            rcases hnum with hone | hall
            · exact ⟨0, hone⟩
            · exact ⟨3, hall⟩
          show (data.cmd.forEach data.numCmd (data.recordBody passes useRenderPass)).recording =
            true
          rw [hn, CommandBuffer.forEach, Function.iterate_succ_apply']
          exact hbody _

/-- A chain that is recording is so after any further move. -/
theorem recording_move (h : data.cmd.recording = true) (move : Move) :
    (data.move passes move).cmd.recording = true := by
  cases move with
  | storeImageBarrier | storeBufferBarrier | markRecord => exact h
  | record useRenderPass =>
      rw [ChainData.move, record_of_recording h]
      exact h
  | each bound commands =>
      show (data.cmd.forEach data.numCmd _).recording = true
      rw [CommandBuffer.forEach_recording (CommandBuffer.performs_issueBound bound commands),
        Function.iterate_id]
      exact h
  | synchronize device =>
      rw [ChainData.move]
      rcases data.deviceSynchronize_cases (device.or data.cmd.queue.device) with same | same
      all_goals
        rw [same]
        exact h

/-- A chain that is recording is so after any further moves. -/
theorem recording_moves_of_recording (h : data.cmd.recording = true) (moves : List Move) :
    (data.moves passes moves).cmd.recording = true := by
  induction moves generalizing data with
  | nil => exact h
  | cons move moves ih => exact ih (recording_move h move)

/-- A move leaves the parent and the mode of the chain alone. -/
theorem frame_move (data : ChainData) (passes : PassId → RenderPass) (move : Move) :
    (data.move passes move).parent = data.parent ∧
      (data.move passes move).numCmd = data.numCmd := by
  cases move with
  | synchronize device =>
      rw [ChainData.move]
      rcases data.deviceSynchronize_cases (device.or data.cmd.queue.device) with same | same
      all_goals
        rw [same]
        exact ⟨rfl, rfl⟩
  | record | each | storeImageBarrier | storeBufferBarrier | markRecord => exact ⟨rfl, rfl⟩

/-- Any number of moves leave the parent and the mode of the chain alone. -/
theorem frame_moves (data : ChainData) (passes : PassId → RenderPass) (moves : List Move) :
    (data.moves passes moves).parent = data.parent ∧
      (data.moves passes moves).numCmd = data.numCmd := by
  induction moves generalizing data with
  | nil => exact ⟨rfl, rfl⟩
  | cons move moves ih =>
      obtain ⟨hparent, hnum⟩ := data.frame_move passes move
      obtain ⟨hparent', hnum'⟩ := ih (data.move passes move)
      exact ⟨hparent'.trans hparent, hnum'.trans hnum⟩

/-- Moves the first `record` of which is there leave the chain recording, whatever stands before and
after it. -/
theorem recording_moves {moves : List Move} {useRenderPass : Bool}
    (hfirst : firstRecord moves = some useRenderPass)
    (hnum : data.numCmd = 1 ∨ data.numCmd = commandBufferCount)
    (hring : data.parent = none → data.OnRing) :
    (data.moves passes moves).cmd.recording = true := by
  induction moves generalizing data with
  | nil => cases hfirst
  | cons move moves ih =>
      have htail : firstRecord moves = some useRenderPass →
          ((data.move passes move).moves passes moves).cmd.recording = true := fun hrest => by
        obtain ⟨hparent, hnum'⟩ := data.frame_move passes move
        refine ih hrest (hnum' ▸ hnum) fun hnone => ?_
        exact ((hring (hparent ▸ hnone)).keeps_move passes move).ring
      cases move with
      | record use =>
          exact recording_moves_of_recording
            (recording_record hnum (fun hparent _ => hring hparent) use) moves
      | each | storeImageBarrier | storeBufferBarrier | markRecord | synchronize =>
          exact htail hfirst

/-- A chain that has command buffers keeps its ring plain in every operation. -/
theorem Lived.plainRing_step {env : Environment} {s t : Session} {op : Op} (h : s.data.Lived)
    (hstep : op.step env s = .ok t) (hinitialized : s.data.initialized = true)
    (hparent : s.data.parent = none) : t.data.PlainRing :=
  (Op.keeps_step (h.onRing hparent hinitialized) hstep).plainRing (h.orphan hparent).beginInfo

/-- A newly constructed chain object has lived, for nothing happened to it yet. -/
theorem lived_new : ({} : ChainData).Lived :=
  ⟨Or.inl rfl, fun hdirty => (nomatch hdirty),
    fun _ => ⟨rfl, rfl, by decide, by decide, Or.inl rfl⟩⟩

/-- To end a chain leaves its mode, its parent and the mark of unsubmitted work alone; if it was
recording or has a record, it has one then. -/
theorem stop_flags (data : ChainData) :
    data.stop.numCmd = data.numCmd ∧ data.stop.parent = data.parent ∧
      data.stop.dirty = data.dirty ∧
        (data.cmd.recording = true ∨ data.hasRecord = true → data.stop.hasRecord = true) := by
  unfold ChainData.stop
  split
  next => exact ⟨rfl, rfl, rfl, fun _ => rfl⟩
  next hidle => exact ⟨rfl, rfl, rfl, fun hor => hor.resolve_left hidle⟩

/-- A chain that has lived does so after any call of `initialize`, whether the window of it is there
or not. -/
theorem Lived.apply (h : data.Lived) (env : Environment) (passes : PassId → RenderPass)
    (init : Initialization) : (init.apply env passes data).Lived := by
  have hfresh : ∀ data' : ChainData, data'.numCmd = data.numCmd → data'.dirty = data.dirty →
      data'.cmd.recording = data.cmd.recording → data'.hasRecord = data.hasRecord →
        data'.parent = data.parent → data'.current = data.current →
          data'.cmd.current = data.cmd.current → data'.cmd.beginInfo = data.cmd.beginInfo →
            (data.cmd.level = .primary → data'.cmd.level = .primary) →
              (data'.cmd.size = 0 ∨ data'.cmd.size = commandBufferCount) → data'.Lived := by
    intro data' hnum hdirty hrec hrecord hparent hcurrent hcursor hbegin hlevel hsize
    refine ⟨hnum ▸ h.numCmd, fun hmarked => ?_, fun hnone => ?_⟩
    · rw [hrec, hrecord]
      exact h.ready (hdirty ▸ hmarked)
    · have hplain := h.orphan (hparent ▸ hnone)
      exact ⟨hlevel hplain.level, hbegin.trans hplain.beginInfo, hcurrent ▸ hplain.current,
        hcursor ▸ hplain.cursor, hsize⟩
  cases init with
  | ofType gpu type => exact hfresh _ rfl rfl rfl rfl rfl rfl rfl rfl (fun _ => rfl) (Or.inr rfl)
  | ofPass pass type multiPass =>
      exact hfresh _ rfl rfl rfl rfl rfl rfl rfl rfl (fun _ => rfl) (Or.inr rfl)
  | ofWindow gpu windowId =>
      rw [Initialization.apply, initializeWindow]
      split
      · exact hfresh _ rfl rfl rfl rfl rfl rfl rfl rfl (fun _ => rfl) (Or.inr rfl)
      · exact h
  | ofPassWindow pass windowId multiPass =>
      rw [Initialization.apply, initializePassWindow]
      dsimp only
      split
      · exact hfresh _ rfl rfl rfl rfl rfl rfl rfl rfl (fun _ => rfl) (Or.inr rfl)
      · -- without the window the chain is left without command buffers
        exact hfresh _ rfl rfl rfl rfl rfl rfl rfl rfl id (Or.inl rfl)

/-- A chain that has lived does so after its mode was set. -/
theorem lived_setMode (data : ChainData) (mode : ChainMode) (h : data.Lived) :
    (data.setMode mode).Lived := by
  have hplain : (data.setMode mode).parent = none → (data.setMode mode).PlainRing := by
    intro hparent
    cases mode <;>
      exact ⟨(h.orphan hparent).level, (h.orphan hparent).beginInfo, (h.orphan hparent).current,
        (h.orphan hparent).cursor, (h.orphan hparent).size⟩
  cases mode
  · exact ⟨Or.inl rfl, h.ready, hplain⟩
  · exact ⟨Or.inr rfl, h.ready, hplain⟩

end ChainData

namespace Session

variable {env : Environment} {s : Session}

/-- A chain that has lived does so after `begin`, if it has the command buffers that this reads. -/
theorem lived_begin (h : s.data.Lived)
    (hreads : Op.begin.ReadsBuffers s → s.data.initialized = true) : s.begin.data.Lived := by
  cases hparent : s.data.parent with
  | some parentId =>
      have hbegin : s.begin.data =
          ({ s.data with
            cmd := s.data.cmd.advance
            current := s.data.cmd.advance.current } : ChainData).record s.world.passes
              s.data.pass.isSome := by
        rw [Session.begin, hparent]
        rfl
      have hchild : s.data.parent ≠ none := by
        rw [hparent]
        exact Option.some_ne_none parentId
      rw [hbegin]
      refine ⟨h.numCmd, fun _ => Or.inl ?_, fun hnone => absurd hnone hchild⟩
      refine @ChainData.recording_record ({ s.data with
        cmd := s.data.cmd.advance
        current := s.data.cmd.advance.current } : ChainData) s.world.passes h.numCmd ?_ _
      exact fun hnone _ => absurd hnone hchild
  | none =>
      have hbegin : s.begin.data = s.data.record s.world.passes s.data.pass.isSome := by
        rw [Session.begin, hparent]
        rfl
      rw [hbegin]
      refine ⟨h.numCmd, fun _ => Or.inl ?_, fun _ => ?_⟩
      · exact ChainData.recording_record h.numCmd
          (fun hnone hidle => h.onRing hnone (hreads hidle)) _
      have hplain := h.orphan hparent
      cases hrec : s.data.cmd.recording with
      | false =>
          exact ((h.onRing hparent (hreads hrec)).keeps_record _ _).plainRing hplain.beginInfo
      | true =>
          -- only the cursor is put back, if there is a command buffer
          rw [ChainData.record_of_recording hrec]
          refine ⟨hplain.level, hplain.beginInfo, hplain.current, ?_, hplain.size⟩
          show (if s.data.current < s.data.cmd.size then s.data.current
            else s.data.cmd.current) < commandBufferCount
          split
          · exact hplain.current
          · exact hplain.cursor

/-- `advance` in a life: the cursor stays on the ring, if there is one. -/
theorem lived_advance (h : s.data.Lived) : s.advance.data.Lived := by
  refine ⟨h.numCmd, h.ready, fun hparent => ?_⟩
  have hplain := h.orphan hparent
  refine ⟨hplain.level, hplain.beginInfo, hplain.current, ?_, hplain.size⟩
  show ringNext s.data.cmd.size s.data.cmd.current < commandBufferCount
  rcases hplain.size with hzero | hfour
  · rw [hzero]
    exact (show (0 : Nat) < commandBufferCount by decide)
  · rw [hfour]
    exact ringNext_lt _ (by decide)

/-- A chain that has lived does so after `synchronize`. -/
theorem lived_synchronize (h : s.data.Lived) : s.synchronize.data.Lived := by
  unfold Session.synchronize
  split
  · refine ⟨h.numCmd, h.ready, fun hparent => ?_⟩
    have hplain := h.orphan hparent
    exact ⟨hplain.level, hplain.beginInfo, hplain.current, hplain.cursor, hplain.size⟩
  · exact h

/-- A chain that has lived does so after `end`, if it has the command buffers that this reads. -/
theorem lived_stop (h : s.data.Lived)
    (hreads : Op.stop.ReadsBuffers s → s.data.initialized = true) : s.data.stop.Lived := by
  obtain ⟨hnum, hparent, hdirty, hrecord⟩ := s.data.stop_flags
  refine ⟨hnum ▸ h.numCmd, fun hmarked => Or.inr (hrecord (h.ready (hdirty ▸ hmarked))),
    fun hnone => ?_⟩
  rw [hparent] at hnone
  by_cases hrec : s.data.cmd.recording = true
  · exact (h.onRing hnone (hreads hrec)).keeps_stop.plainRing (h.orphan hnone).beginInfo
  · rw [ChainData.stop, if_neg hrec]
    exact h.orphan hnone

/-- A chain that has lived does so after `submit`, if it has the command buffers that this reads. -/
theorem lived_submit (env : Environment) (h : s.data.Lived)
    (hreads : Op.submit.ReadsBuffers s → s.data.initialized = true) :
    (s.submit env).data.Lived := by
  have hstop := s.lived_stop h fun hrec => hreads (Or.inl hrec)
  by_cases hready : s.data.stop.parent = none ∧ s.data.stop.hasRecord = true ∧
      s.data.stop.dirty = true
  · -- what is submitted was recorded in a command buffer
    have hparent : s.data.parent = none := s.data.stop_flags.2.1 ▸ hready.1
    have hinitialized : s.data.initialized = true := by
      refine hreads ?_
      by_cases hrec : s.data.cmd.recording = true
      · exact Or.inl hrec
      · have hsame : s.data.stop = s.data := if_neg hrec
        exact Or.inr (hsame ▸ hready)
    have hring : (s.submit env).data.PlainRing :=
      (keeps_submit env (h.onRing hparent hinitialized)).plainRing (h.orphan hparent).beginInfo
    rw [submit_of_ready env hready] at hring ⊢
    exact ⟨hstop.numCmd, fun hmarked => (nomatch hmarked), fun _ => hring⟩
  · rw [submit_of_not_ready env hready]
    refine ⟨hstop.numCmd, hstop.ready, fun hnone => ?_⟩
    have hplain := hstop.orphan hnone
    exact ⟨hplain.level, hplain.beginInfo, hplain.current, hplain.cursor, hplain.size⟩

end Session

/-- **One operation in a life** that reads command buffers only where there are some. -/
theorem Op.lived_step {env : Environment} {s t : Session} {op : Op} (h : s.data.Lived)
    (hreads : op.ReadsBuffers s → s.data.initialized = true) (hstep : op.step env s = .ok t) :
    t.data.Lived := by
  have hkeeps := h.plainRing_step hstep
  cases op with
  | begin =>
      cases hstep
      exact s.lived_begin h hreads
  | advance =>
      cases hstep
      exact s.lived_advance h
  | setMode mode =>
      cases hstep
      exact s.data.lived_setMode mode h
  | stop =>
      cases hstep
      exact s.lived_stop h hreads
  | submit =>
      cases hstep
      exact s.lived_submit env h hreads
  | synchronize =>
      cases hstep
      exact s.lived_synchronize h
  | recording op =>
      have hinitialized := hreads trivial
      obtain ⟨recipe, hrecipe, rfl⟩ := op.exists_recipe hstep
      obtain ⟨hparent, hnum⟩ := s.data.frame_moves s.world.passes recipe.1
      refine ⟨hnum ▸ h.numCmd, fun _ => Or.inl ?_,
        fun hnone => hkeeps hinitialized (hparent ▸ hnone)⟩
      exact ChainData.recording_moves (RecordingOp.stretch hrecipe).first h.numCmd
        fun hnone => h.onRing hnone hinitialized
  | combine childId child =>
      rcases Session.combine_ok hstep with ⟨hparent, hchild, hended, pass, -, rfl⟩ | rfl
      · have hring := hkeeps (hreads ⟨hparent, hchild, hended⟩) hparent
        refine ⟨?_, fun _ => Or.inr ?_, fun _ => hring⟩ <;> dsimp only <;> split
        · exact h.numCmd
        · exact h.numCmd
        · rfl
        · rfl
      · exact h

/-- **One step of a life**: a chain that has lived does so after any step that returns. -/
theorem LifeOp.lived_step {env : Environment} {s t : Session} {op : LifeOp} (h : s.data.Lived)
    (hstep : op.step env s = .ok t) : t.data.Lived := by
  cases op with
  | initialization init =>
      cases hstep
      exact h.apply env s.world.passes init
  | initializeChild parentId parent subpassId =>
      cases hstep
      exact ⟨h.numCmd, h.ready, fun hnone => (nomatch hnone)⟩
  | reset =>
      cases hstep
      refine ⟨h.numCmd, h.ready, fun hparent => ?_⟩
      have hplain := h.orphan hparent
      exact ⟨hplain.level, hplain.beginInfo, hplain.current, hplain.cursor, Or.inl rfl⟩
  | operate op =>
      rw [LifeOp.step] at hstep
      by_cases hreads : op.ReadsBuffers s ∧ s.data.initialized = false
      · rw [if_pos hreads] at hstep
        cases hstep
      · rw [if_neg hreads] at hstep
        cases hown : op.step env s with
        | error failure =>
            rw [hown] at hstep
            cases hstep
        | ok s' =>
            rw [hown] at hstep
            cases hstep
            refine Op.lived_step h (fun hread => ?_) hown
            by_contra hinitialized
            exact hreads ⟨hread, Bool.eq_false_iff.mpr hinitialized⟩

/-- **Every life** leaves a chain that has lived, whatever calls it is made of. -/
theorem lived_run {env : Environment} {s t : Session} {history : List LifeOp} (h : s.data.Lived)
    (hrun : runSteps (LifeOp.step env) s history = .ok t) : t.data.Lived :=
  runSteps_preserves (fun s => s.data.Lived) (fun _ _ _ hs _ hstep => LifeOp.lived_step hs hstep) h
    (stepsMeet_of_forall_mem (p := fun _ => True) fun _ _ => trivial) hrun

/-! ## A settled chain -/

namespace Initialization

variable {env : Environment} {passes : PassId → RenderPass} {init : Initialization}

/-- A newly constructed chain begins its buffers plainly after any call of `initialize`. -/
theorem beginInfo_apply : (init.apply env passes {}).cmd.beginInfo = {} := by
  cases init with
  | ofType gpu type => rfl
  | ofPass pass type multiPass => rfl
  | ofWindow gpu windowId =>
      rw [apply, ChainData.initializeWindow]
      split <;> rfl
  | ofPassWindow pass windowId multiPass =>
      simp only [apply, ChainData.initializePassWindow]
      split <;> rfl

end Initialization

namespace Session

variable {env : Environment} {init : Initialization} {s t : Session} {c : Nat}

/-- A chain on a turned ring made the calls that the other one made, on slots that are turned. -/
theorem Turned.calls (h : s.Turned c t) :
    s.calls = t.calls.map (Prod.map id (ringTurn commandBufferCount c)) := by
  rw [Session.calls, Session.calls, h.data.cmd.log]
  simp [List.filter_map, Function.comp_def, Event.turn]

/-- The chain after a reset and an initialisation, by the new chain and what was left behind. -/
theorem restart_data (hwindow : init.HasWindow env) (s : Session) :
    (s.restart env init).data =
      { (s.construct env init).data with
        imageBarriers := s.data.imageBarriers
        bufferBarriers := s.data.bufferBarriers
        parent := s.data.parent
        subpassId := s.data.subpassId
        hasRecord := s.data.hasRecord
        numCmd := s.data.numCmd
        current := s.data.current
        dirty := s.data.dirty
        cmd := { (s.construct env init).data.cmd with
          bound := s.data.cmd.bound
          beginInfo := s.data.cmd.beginInfo
          recording := s.data.cmd.recording
          current := s.data.cmd.current
          log := [] } } := by
  rw [restart, hwindow.apply_reset]
  rfl

/-- A settled chain that is reset and initialised is a new one on a turned ring. -/
theorem turned_restart (hwindow : init.HasWindow env) (h : s.data.Lived)
    (hsettled : s.data.Settled) :
    (s.restart env init).Turned s.data.current (s.construct env init) := by
  have hfresh : (s.construct env init).data.Fresh := hwindow.justInitialized.fresh
  have hplain := h.orphan hsettled.orphan
  refine ⟨rfl, rfl, ?_⟩
  rw [restart_data hwindow s]
  refine ⟨hfresh.toOnRing, ⟨hfresh.size, hfresh.cursor, ?_, ?_, rfl, ?_, ?_, ?_⟩, hsettled.orphan,
    ?_, rfl, ?_, rfl, ?_, fun hdirty => ?_⟩
  · have hbegin : (s.construct env init).data.cmd.beginInfo = {} := Initialization.beginInfo_apply
    simp only [CommandBuffer.setup, hplain.beginInfo, hbegin]
  · exact hsettled.idle.trans hfresh.idle.symm
  · rintro i -
    simp only [hfresh.slots]
  · rw [hfresh.home, hfresh.zero, ringTurn_zero hplain.current]
    exact hsettled.home
  · rw [hfresh.log]
    rfl
  · rw [hfresh.zero, ringTurn_zero hplain.current]
  · exact hsettled.sequential.trans hfresh.sequential.symm
  · exact hsettled.clean.trans hfresh.clean.symm
  · exact absurd (hsettled.clean.symm.trans hdirty) Bool.false_ne_true

/-- **A settled chain makes the calls of a new one** after it is reset and initialised, on slots
that are renamed. -/
theorem sameCalls_of_settled (hwindow : init.HasWindow env) (h : s.data.Lived)
    (hsettled : s.data.Settled) : SameCalls env (s.restart env init) (s.construct env init) := by
  refine ⟨ringTurn commandBufferCount s.data.current,
    fun i hi j hj heq => ringTurn_inj hi hj heq, fun ops => ?_⟩
  have hagree := runSteps_agree (Session.Turned s.data.current)
    (fun s t op h => Op.turned_step env h op) (turned_restart hwindow h hsettled) ops
  exact hagree.map_eq fun s t h => h.calls

end Session

/-! ## What shows

For each condition of `Settled` there are operations that tell a chain on which it fails from a new
one. -/

namespace ChainData

variable {data : ChainData} {body : CommandBuffer → CommandBuffer} {action : SlotAction}
  {flag : Bool → Bool} {event : Event}

/-- The events of a broadcast are those from before and those of the action on each slot that the
chain visits. -/
theorem OnRing.mem_log_broadcast (h : data.OnRing) (hbody : data.cmd.Performs body action flag) :
    event ∈ (data.broadcast body).cmd.log ↔ event ∈ data.cmd.log ∨
      ∃ i < commandBufferCount, data.Visits i ∧ event ∈ action.events i (data.cmd.slots i) := by
  have hlog := broadcast_log_iff (P := (· ≠ event)) h hbody
  have hmem : ∀ events : List Event, (∀ other ∈ events, other ≠ event) ↔ event ∉ events :=
    fun events => ⟨fun hall hin => hall event hin rfl, fun hnot other hin heq => hnot (heq ▸ hin)⟩
  simp only [hmem] at hlog
  rw [← not_iff_not, hlog]
  simp

/-- To begin a slot makes a begin call on this slot, with the begin info that it is given. -/
theorem exists_mem_events_begin (info : BeginInfo) (opening : List Command) (started : Bool)
    (i : Nat) (slot : Slot) : ∃ event ∈ (SlotAction.begin info opening started).events i slot,
      event.call = .beginBuffer info ∧ event.slot = i := by
  cases hsignaled : slot.isSignaled <;>
    simp [SlotAction.events, SlotAction.begin, callEvents, hsignaled]

/-- After a `record` that begins, each visited slot has been begun. -/
theorem OnRing.exists_begun (h : data.OnRing) (hidle : data.cmd.recording = false)
    (passes : PassId → RenderPass) (useRenderPass : Bool) {i : Nat} (hi : i < commandBufferCount)
    (hvisit : data.Visits i) : ∃ event ∈ (data.record passes useRenderPass).cmd.log,
      (∃ info, event.call = .beginBuffer info) ∧ event.slot = i := by
  obtain ⟨event, hevent, hcall, hslot⟩ := exists_mem_events_begin data.cmd.beginInfo
    (data.opening passes useRenderPass) (data.opens passes useRenderPass) i (data.cmd.slots i)
  rw [record_of_not_recording hidle]
  refine ⟨event, ?_, ⟨_, hcall⟩, hslot⟩
  exact (h.mem_log_broadcast (h.performs_recordBody passes useRenderPass)).mpr
    (Or.inr ⟨i, hi, hvisit, hevent⟩)

end ChainData

namespace Session

variable {env : Environment} {init : Initialization} {s t : Session}

/-- A call in the log that is a begin, an end, a command or a submit is among the calls of the
chain, with its slot. -/
theorem mem_calls {event : Event} (hevent : event ∈ s.data.cmd.log)
    (hobserved : event.call.observed = true) : (event.call, event.slot) ∈ s.calls :=
  List.mem_map.mpr ⟨event, List.mem_filter.mpr ⟨hevent, hobserved⟩, rfl⟩

/-- A chain that is recording makes no call when it is told to begin. -/
theorem calls_begin_of_recording (hrec : s.data.cmd.recording = true) :
    s.begin.calls = s.calls := by
  have hlog : s.begin.data.cmd.log = s.data.cmd.log := by
    rw [Session.begin]
    split <;> simp [Session.record, ChainData.record, CommandBuffer.setActive,
      CommandBuffer.advance, hrec]
  rw [Session.calls, Session.calls, hlog]

/-- A chain on its ring that is not recording makes a begin call when it is told to begin. -/
theorem exists_begun_begin (h : s.data.OnRing) (hidle : s.data.cmd.recording = false) :
    ∃ call ∈ s.begin.calls, ∃ info, call.1 = .beginBuffer info := by
  have hbegin : s.begin.data = s.data.record s.world.passes s.data.pass.isSome := by
    rw [Session.begin, h.parent]
    rfl
  obtain ⟨event, hevent, ⟨info, hcall⟩, -⟩ :=
    h.exists_begun hidle s.world.passes s.data.pass.isSome h.cursor (Or.inr rfl)
  exact ⟨_, mem_calls (hbegin ▸ hevent) (hcall ▸ rfl), info, hcall⟩

/-- `submit` of what was appended and recorded makes a submit call. -/
theorem exists_submit_submit (env : Environment) (h : s.data.OnRing)
    (hrecord : s.data.hasRecord = true) (hdirty : s.data.dirty = true) :
    ∃ call ∈ (s.submit env).calls, call.1 = .submit := by
  obtain ⟨-, hparent, hmarked, hended⟩ := s.data.stop_flags
  have hready : s.data.stop.parent = none ∧ s.data.stop.hasRecord = true ∧
      s.data.stop.dirty = true :=
    ⟨hparent.trans h.parent, hended (Or.inr hrecord), hmarked.trans hdirty⟩
  have hlog : (s.submit env).data.cmd.log = s.data.stop.cmd.log ++
      [⟨.submit, s.data.stop.cmd.current, s.data.stop.cmd.active.vk⟩] := by
    rw [submit_of_ready env hready, CommandBuffer.submit_eq _ h.keeps_stop.ring.level]
    rfl
  have hevent : (⟨.submit, s.data.stop.cmd.current, s.data.stop.cmd.active.vk⟩ : Event) ∈
      (s.submit env).data.cmd.log := by
    rw [hlog]
    exact List.mem_append_right _ List.mem_cons_self
  exact ⟨_, mem_calls hevent rfl, rfl⟩

/-- `submit` makes no call when nothing is to be ended or submitted. -/
theorem calls_submit_of_not_ready (env : Environment) (hidle : s.data.cmd.recording = false)
    (h : ¬ (s.data.parent = none ∧ s.data.dirty = true)) : (s.submit env).calls = s.calls := by
  have hstop : s.data.stop = s.data := if_neg (Bool.eq_false_iff.mp hidle)
  rw [submit_of_not_ready env, hstop]
  · rfl
  · rw [hstop]
    exact fun hready => h ⟨hready.1, hready.2.2⟩

/-- A barrier makes a begin call on every visited slot, and a command under the chain's cursor. -/
theorem exists_calls_barrier (h : s.data.OnRing) (hidle : s.data.cmd.recording = false)
    (src dst : GPUStages) {i : Nat} (hi : i < commandBufferCount) (hvisit : s.data.Visits i) :
    (∃ call ∈ (s.pipelineBarrier src dst).calls, call.2 = i) ∧
      ∃ call ∈ (s.pipelineBarrier src dst).calls, call.2 = s.data.current := by
  obtain ⟨event, hevent, ⟨info, hcall⟩, hslot⟩ :=
    h.exists_begun hidle s.world.passes false hi hvisit
  have hring := (h.keeps_record s.world.passes false).ring
  have hcursor : (s.data.record s.world.passes false).cmd.current = s.data.current := by
    rw [ChainData.record_of_not_recording hidle]
    exact (ChainData.broadcast_spec h (h.performs_recordBody s.world.passes false)
      fun _ => rfl).cursor
  have hissue : ∀ event, event ∈ (s.pipelineBarrier src dst).data.cmd.log ↔ _ := fun event =>
    hring.mem_log_broadcast (CommandBuffer.performs_issueBound none [.pipelineBarrier src dst])
  refine ⟨⟨_, mem_calls ((hissue event).mpr (Or.inl hevent)) (hcall ▸ rfl), hslot⟩, ?_⟩
  have hcommand := (hissue _).mpr (Or.inr ⟨_, hring.cursor, Or.inr rfl, List.mem_cons_self⟩)
  exact ⟨_, mem_calls hcommand rfl, hcursor⟩

/-- A new chain records a barrier on its first slot, and makes no call on another. -/
theorem slot_eq_zero_barrier (h : s.data.Fresh) (src dst : GPUStages) :
    ∀ call ∈ (s.pipelineBarrier src dst).calls, call.2 = 0 := by
  have honly : ∀ {data : ChainData}, data.OnRing → data.numCmd = 1 → data.cmd.current = 0 →
      ∀ {body action flag}, data.cmd.Performs body action flag →
        (∀ event ∈ data.cmd.log, event.slot = 0) →
          ∀ event ∈ (data.broadcast body).cmd.log, event.slot = 0 := by
    intro data hring hone hcurrent body action flag hbody hlog
    refine (ChainData.broadcast_log_iff hring hbody).mpr ⟨hlog, fun i _ hvisit event hevent => ?_⟩
    have hzero : i = 0 := by
      rcases hvisit with hall | hcursor
      · cases hone.symm.trans hall
      · exact hcursor.trans hcurrent
    exact (slot_of_mem_callEvents hevent).trans hzero
  have hbody := h.toOnRing.performs_recordBody s.world.passes false
  have hspec := ChainData.broadcast_spec h.toOnRing hbody fun _ => rfl
  have hrecorded : ∀ event ∈ (s.data.record s.world.passes false).cmd.log, event.slot = 0 := by
    rw [ChainData.record_of_not_recording h.idle]
    refine honly h.toOnRing h.sequential (h.home.trans h.zero) hbody ?_
    simp [h.log]
  have hcursor : (s.data.record s.world.passes false).cmd.current = 0 := by
    rw [ChainData.record_of_not_recording h.idle]
    exact hspec.cursor.trans h.zero
  intro call hcall
  obtain ⟨event, hevent, rfl⟩ := List.mem_map.mp hcall
  exact honly (h.toOnRing.keeps_record s.world.passes false).ring h.sequential hcursor
    (CommandBuffer.performs_issueBound none [.pipelineBarrier src dst]) hrecorded event
      (List.mem_filter.mp hevent).1

/-- A chain without a parent submits a child that it has executed. -/
theorem exists_submit_combine (env : Environment) {childId : ChainId} {child : ChainData}
    (h : s.data.OnRing) (hchild : child.parent = some s.self) (hended : child.cmd.recording = false)
    (hstep : s.combine childId child = .ok t) :
    ∃ call ∈ (t.submit env).calls, call.1 = .submit := by
  have hkeeps := Op.keeps_step h (show Op.step env s (.combine childId child) = .ok t from hstep)
  have hmarked : t.data.hasRecord = true ∧ t.data.dirty = true := by
    rw [combine, if_pos ⟨h.parent, hchild, hended⟩] at hstep
    cases hpass : s.data.pass with
    | none => simp [ChainData.broadcast, hpass] at hstep
    | some pass =>
        simp only [ChainData.broadcast, hpass, Except.ok.injEq] at hstep
        subst hstep
        dsimp only
        split <;> exact ⟨rfl, rfl⟩
  exact exists_submit_submit env hkeeps.ring hmarked.1 hmarked.2

end Session

namespace CallsAgree

variable {env : Environment} {rename : Nat → Nat} {s t : Session}

/-- A chain that agrees with a new one is not recording: it would take `begin` for a recording that
goes on. -/
theorem idle (h : CallsAgree env rename s t) (hfresh : t.data.Fresh) (hcalls : s.calls = []) :
    s.data.cmd.recording = false := by
  by_contra hrec
  have hbegin : s.begin.calls = t.begin.calls.map (Prod.map id rename) :=
    Except.ok.inj (h [.begin])
  rw [Session.calls_begin_of_recording (Bool.not_eq_false _ ▸ hrec), hcalls] at hbegin
  obtain ⟨call, hcall, -⟩ := Session.exists_begun_begin hfresh.toOnRing hfresh.idle
  exact List.ne_nil_of_mem hcall (List.map_eq_nil_iff.mp hbegin.symm)

/-- A chain that agrees with a new one has no parent: a child executes no chain, and submits
nothing. -/
theorem orphan (h : CallsAgree env rename s t) (hfresh : t.data.Fresh) (hcalls : s.calls = [])
    (hidle : s.data.cmd.recording = false) : s.data.parent = none := by
  by_contra hparent
  let op : Op := .combine 0 { parent := some t.self }
  have hstays : op.step env s = .ok s := if_neg fun hacts => hparent hacts.1
  have hruns := h [op, .submit]
  rw [runSteps_cons_of_ok hstays, runSteps_singleton] at hruns
  cases hcombine : op.step env t with
  | error failure =>
      rw [runSteps_cons_of_error hcombine] at hruns
      cases hruns
  | ok t' =>
      rw [runSteps_cons_of_ok hcombine, runSteps_singleton] at hruns
      have hsubmit : (s.submit env).calls = (t'.submit env).calls.map (Prod.map id rename) :=
        Except.ok.inj hruns
      rw [Session.calls_submit_of_not_ready env hidle fun hready => hparent hready.1, hcalls]
        at hsubmit
      obtain ⟨call, hcall, -⟩ := Session.exists_submit_combine env hfresh.toOnRing rfl rfl hcombine
      exact List.ne_nil_of_mem hcall (List.map_eq_nil_iff.mp hsubmit.symm)

/-- A chain that agrees with a new one records a barrier in one slot, which is its own. -/
theorem visits (h : CallsAgree env rename s t) (hfresh : t.data.Fresh) (hring : s.data.OnRing)
    (hidle : s.data.cmd.recording = false) {i : Nat} (hi : i < commandBufferCount)
    (hvisit : s.data.Visits i) : i = s.data.current := by
  have hbarrier : (s.pipelineBarrier .top .top).calls =
      (t.pipelineBarrier .top .top).calls.map (Prod.map id rename) :=
    Except.ok.inj (h [.recording (.pipelineBarrier .top .top)])
  have hslot : ∀ call ∈ (s.pipelineBarrier .top .top).calls, call.2 = rename 0 := by
    intro call hcall
    rw [hbarrier] at hcall
    obtain ⟨call', hcall', rfl⟩ := List.mem_map.mp hcall
    exact congrArg rename (Session.slot_eq_zero_barrier hfresh _ _ call' hcall')
  obtain ⟨⟨call, hcall, hcall'⟩, other, hother, hother'⟩ :=
    Session.exists_calls_barrier hring hidle .top .top hi hvisit
  rw [← hcall', ← hother', hslot call hcall, hslot other hother]

/-- A chain that agrees with a new one in every run has nothing that awaits a submit, for the new
one has nothing to submit. -/
theorem clean (h : CallsAgree env rename s t) (hfresh : t.data.Fresh) (hring : s.data.OnRing)
    (hready : s.data.dirty = true → s.data.hasRecord = true) : s.data.dirty = false := by
  by_contra hclean
  have hdirty : s.data.dirty = true := Bool.not_eq_false _ ▸ hclean
  have hsubmit : (s.submit env).calls = (t.submit env).calls.map (Prod.map id rename) :=
    Except.ok.inj (h [.submit])
  have hnothing : ¬ (t.data.parent = none ∧ t.data.dirty = true) := fun hmarked =>
    Bool.false_ne_true (hfresh.clean.symm.trans hmarked.2)
  have hcalls : t.calls = [] := by
    rw [Session.calls, hfresh.log]
    rfl
  rw [Session.calls_submit_of_not_ready env hfresh.idle hnothing, hcalls] at hsubmit
  obtain ⟨call, hcall, -⟩ := Session.exists_submit_submit env hring (hready hdirty) hdirty
  exact List.ne_nil_of_mem hcall hsubmit

end CallsAgree

namespace Session

variable {env : Environment} {init : Initialization} {s : Session}

/-- **What tells a chain from a new one.** A chain that makes the calls of a new one, once it is
reset and initialised, was settled. -/
theorem settled_of_sameCalls (hwindow : init.HasWindow env) (h : s.data.Lived)
    (hsame : SameCalls env (s.restart env init) (s.construct env init)) : s.data.Settled := by
  obtain ⟨rename, -, hagree⟩ := hsame
  have hfresh : (s.construct env init).data.Fresh := hwindow.justInitialized.fresh
  have hdata := restart_data hwindow s
  have hcalls : (s.restart env init).calls = [] := by
    rw [Session.calls, hdata]
    rfl
  have hidle := hagree.idle hfresh hcalls
  have horphan := hagree.orphan hfresh hcalls hidle
  rw [hdata] at hidle horphan
  have hring : (s.restart env init).data.OnRing := by
    have hplain := h.orphan horphan
    rw [hdata]
    exact ⟨horphan, hfresh.level, hfresh.size, hplain.current, hplain.cursor, h.numCmd⟩
  have hvisits : ∀ i < commandBufferCount, (s.restart env init).data.Visits i →
      i = (s.restart env init).data.current := fun i hi hvisit =>
    hagree.visits hfresh hring (by rw [hdata]; exact hidle) hi hvisit
  have hclean := hagree.clean hfresh hring fun hdirty => by
    rw [hdata] at hdirty ⊢
    exact (h.ready hdirty).resolve_left (Bool.eq_false_iff.mp hidle)
  rw [hdata] at hclean
  refine ⟨hidle, hclean, horphan, ?_, ?_⟩
  · -- in `All` mode the first two slots would both be the chain's own
    refine h.numCmd.resolve_right fun hall => ?_
    have hvisit : ∀ i, (s.restart env init).data.Visits i := fun i => Or.inl (by rw [hdata, hall])
    have hzero := hvisits 0 (by decide) (hvisit 0)
    have hone := hvisits 1 (by decide) (hvisit 1)
    omega
  · have hown := hvisits _ hring.cursor (Or.inr rfl)
    rw [hdata] at hown
    exact hown

end Session

/-- **A reset chain and a new one.** Whatever a chain object went through, it makes the calls of a
newly constructed chain, once it is reset and initialised, exactly when it was settled. -/
theorem reset_is_fresh_iff (env : Environment) (self : ChainId) (world : World)
    (history : List LifeOp) (init : Initialization) (hwindow : init.HasWindow env) {s : Session}
    (hrun : runSteps (LifeOp.step env) ⟨self, {}, world⟩ history = .ok s) :
    SameCalls env (s.restart env init) (s.construct env init) ↔ s.data.Settled := by
  have hlived : s.data.Lived := lived_run ChainData.lived_new hrun
  exact ⟨Session.settled_of_sameCalls hwindow hlived,
    Session.sameCalls_of_settled hwindow hlived⟩

/-- A chain that submitted a barrier and is initialised for other work. -/
theorem reset_is_fresh_iff_afterSubmit :
    ∃ s, runSteps (LifeOp.step .inert) ⟨0, {}, .start⟩
        [.initialization (.ofType 0 .graphics), .operate (.recording (.pipelineBarrier .top .host)),
          .operate .submit] = .ok s ∧
      (SameCalls .inert (s.restart .inert (.ofType 0 .compute))
          (s.construct .inert (.ofType 0 .compute)) ↔ s.data.Settled) :=
  ⟨_, rfl, reset_is_fresh_iff .inert 0 .start
    [.initialization (.ofType 0 .graphics), .operate (.recording (.pipelineBarrier .top .host)),
      .operate .submit] (.ofType 0 .compute) trivial rfl⟩

/-- A chain that is reset while it is recording takes the next `begin` for a recording that goes
on. -/
theorem not_reset_is_fresh :
    ¬ ∀ (env : Environment) (self : ChainId) (world : World) (history : List LifeOp)
      (init : Initialization) (s : Session), init.HasWindow env →
        runSteps (LifeOp.step env) ⟨self, {}, world⟩ history = .ok s →
          SameCalls env (s.restart env init) (s.construct env init) := by
  intro h
  have hrun : runSteps (LifeOp.step .inert) ⟨0, {}, .start⟩
      [.initialization (.ofType 0 .graphics), .operate .begin] =
        .ok { Session.newGraphics with data := Session.newGraphics.begin.data } := rfl
  have hwindow : (Initialization.ofType 0 .graphics).HasWindow .inert := trivial
  have hsettled := Session.settled_of_sameCalls hwindow (lived_run ChainData.lived_new hrun)
    (h .inert 0 .start _ (.ofType 0 .graphics) _ hwindow hrun)
  exact Bool.false_ne_true (hsettled.idle.symm.trans rfl)

end Nyx
