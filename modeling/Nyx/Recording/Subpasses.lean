import Nyx.Recording.Pages
import Nyx.Recording.SubmittedLists

/-! # Subpasses

A parent on a render pass with several subpasses executes the buffers of its children, one in each
subpass. `Chain::combine` counts subpasses in a variable that starts over with each call, so it
moves on after every child, the last one included. This file says what that comes to over a whole
recording.

* **`subpassMoves`**, **`executedIn`** — how often a command list moves to the next subpass, and
  which children it executes in which subpass.
* **`ChainData.Keeps`** — what every operation leaves alone, so a recording may follow any history.
* **`Session.InRecording`** — the invariant of a recording after some children were combined.
* **`subpasses_kept_iff`** — the subpasses of a recording are kept exactly when not all of several
  subpasses have a child. -/

namespace Nyx

open Foundations

/-! ## The subpasses of a command list -/

/-- Whether a command moves to the next subpass of the render pass. -/
def Command.isNextSubpass : Command → Bool
  | .nextSubpass _ => true
  | _ => false

/-- How often some commands move to the next subpass of the render pass. -/
def subpassMoves (commands : List Command) : Nat := commands.countP Command.isNextSubpass

@[simp] theorem subpassMoves_cons (command : Command) (commands : List Command) :
    subpassMoves (command :: commands) =
      subpassMoves commands + if command.isNextSubpass then 1 else 0 := List.countP_cons

@[simp] theorem subpassMoves_append (xs ys : List Command) :
    subpassMoves (xs ++ ys) = subpassMoves xs + subpassMoves ys := List.countP_append

/-- A command buffer of a child, executed in a subpass of its parent. -/
structure Execution where
  child : ChainId
  slot : Nat
  subpass : Nat
  deriving DecidableEq, Repr

/-- The command buffers that some commands execute, from a subpass on. -/
def executedIn : Nat → List Command → List Execution
  | _, [] => []
  | _, .beginRenderPass _ _ :: commands => executedIn 0 commands
  | subpass, .nextSubpass _ :: commands => executedIn (subpass + 1) commands
  | subpass, .executeCommands child slot :: commands =>
      ⟨child, slot, subpass⟩ :: executedIn subpass commands
  | subpass, _ :: commands => executedIn subpass commands

/-- **The subpasses are kept**: a command buffer does not leave the last of `count` subpasses, and
executes each child in a subpass of its own, in order. -/
def KeepsSubpasses (count : Nat) (children : List (ChainId × ChainData)) (commands : List Command) :
    Prop :=
  subpassMoves commands ≤ count - 1 ∧
    executedIn 0 commands =
      children.mapIdx fun index child => ⟨child.1, child.2.cmd.current, index⟩

instance (count : Nat) (children : List (ChainId × ChainData)) (commands : List Command) :
    Decidable (KeepsSubpasses count children commands) :=
  inferInstanceAs (Decidable (_ ∧ _))

/-- What a `combine` records for a child, on a render pass with `count` subpasses. -/
def combinedCommands (count : Nat) (child : ChainId × ChainData) : List Command :=
  .executeCommands child.1 child.2.cmd.current ::
    if 1 < count then [.nextSubpass .secondaryCommandBuffers] else []

/-- With several subpasses every child is followed by a move to the next one. -/
theorem subpassMoves_combined {count : Nat} (h : 1 < count)
    (children : List (ChainId × ChainData)) :
    subpassMoves (children.flatMap (combinedCommands count)) = children.length := by
  induction children with
  | nil => rfl
  | cons child children ih =>
      rw [List.flatMap_cons, subpassMoves_append, ih, combinedCommands, if_pos h]
      exact Nat.add_comm 1 children.length

/-- With several subpasses the children are executed in subpasses of their own. -/
theorem executedIn_combined {count : Nat} (h : 1 < count) (subpass : Nat)
    (children : List (ChainId × ChainData)) :
    executedIn subpass (children.flatMap (combinedCommands count) ++ [.endRenderPass]) =
      children.mapIdx fun index child => ⟨child.1, child.2.cmd.current, subpass + index⟩ := by
  induction children generalizing subpass with
  | nil => rfl
  | cons child children ih =>
      have hnext : (fun (index : Nat) (child : ChainId × ChainData) =>
            Execution.mk child.1 child.2.cmd.current (subpass + 1 + index))
          = fun index child => ⟨child.1, child.2.cmd.current, subpass + (index + 1)⟩ := by
        funext index child
        rw [Nat.add_right_comm, Nat.add_assoc]
      simp [combinedCommands, h, executedIn, ih, hnext]

/-- A recording of no more children than subpasses keeps its subpasses exactly when a subpass is
left over or there is only one. -/
theorem keepsSubpasses_iff {count : Nat} (hcount : 1 ≤ count) (info : RenderPassBeginInfo)
    (contents : SubpassContents) {children : List (ChainId × ChainData)}
    (hle : children.length ≤ count) :
    KeepsSubpasses count children (.beginRenderPass info contents ::
        (children.flatMap (combinedCommands count) ++ [.endRenderPass])) ↔
      children.length < count ∨ count = 1 := by
  rcases Nat.lt_or_eq_of_le hcount with hmany | rfl
  · have hmoves : subpassMoves (.beginRenderPass info contents ::
        (children.flatMap (combinedCommands count) ++ [.endRenderPass])) = children.length := by
      rw [subpassMoves_cons, subpassMoves_append, subpassMoves_combined hmany]
      rfl
    have hexecuted : executedIn 0 (.beginRenderPass info contents ::
        (children.flatMap (combinedCommands count) ++ [.endRenderPass])) =
        children.mapIdx fun index child => ⟨child.1, child.2.cmd.current, index⟩ := by
      rw [executedIn, executedIn_combined hmany]
      simp only [Nat.zero_add]
    rw [KeepsSubpasses, hmoves, and_iff_left hexecuted]
    omega
  · -- a single subpass is never left, and holds at most one child
    refine iff_of_true ?_ (Or.inr rfl)
    cases children with
    | nil => exact ⟨Nat.le_refl 0, rfl⟩
    | cons child rest =>
        have hnone : rest = [] := by simpa using hle
        subst hnone
        exact ⟨Nat.le_refl 0, rfl⟩

/-! ## The ring in any run -/

namespace ChainData

variable {data : ChainData}

/-- Being on the ring does not depend on the flags, the barriers, the pass or the slots. -/
theorem OnRing.congr (h : data.OnRing) {data' : ChainData}
    (hsetup : data'.cmd.setup = data.cmd.setup)
    (hcursor : data'.cmd.current < commandBufferCount) (hparent : data'.parent = data.parent)
    (hcurrent : data'.current < commandBufferCount) (hnum : data'.numCmd = data.numCmd) :
    data'.OnRing :=
  ⟨hparent.trans h.parent, (CommandBuffer.level_eq_of_setup hsetup).trans h.level,
    (CommandBuffer.size_eq_of_setup hsetup).trans h.size, hcurrent, hcursor, hnum ▸ h.numCmd⟩

/-- A chain that stays on the ring and keeps the setup of it. -/
structure Keeps (data data' : ChainData) : Prop where
  ring : data'.OnRing
  setup : data'.cmd.setup = data.cmd.setup

variable {data' data'' : ChainData} {body : CommandBuffer → CommandBuffer} {action : SlotAction}
  {flag : Bool → Bool}

theorem Keeps.trans (h : data.Keeps data') (h' : data'.Keeps data'') : data.Keeps data'' :=
  ⟨h'.ring, h'.setup.trans h.setup⟩

/-- A further change of the ring that concerns neither its setup nor a cursor keeps what a step
kept. -/
theorem Keeps.congr (h : data.Keeps data') (hcmd : data''.cmd.setup = data'.cmd.setup)
    (hcursor : data''.cmd.current = data'.cmd.current) (hparent : data''.parent = data'.parent)
    (hcurrent : data''.current = data'.current) (hnum : data''.numCmd = data'.numCmd) :
    data.Keeps data'' :=
  ⟨h.ring.congr hcmd (hcursor ▸ h.ring.cursor) hparent (hcurrent ▸ h.ring.current) hnum,
    hcmd.trans h.setup⟩

theorem OnRing.keeps (h : data.OnRing) : data.Keeps data := ⟨h, rfl⟩

/-- A broadcast of an action keeps the chain on the ring, and the setup of it. -/
theorem OnRing.keeps_broadcast (h : data.OnRing) (hbody : data.cmd.Performs body action flag)
    (hflag : ∀ b, flag (flag b) = flag b) : data.Keeps (data.broadcast body) :=
  ⟨h.broadcast hbody hflag, (broadcast_spec h hbody hflag).setup⟩

/-- A `record` keeps the chain on the ring, and the setup of it. -/
theorem OnRing.keeps_record (h : data.OnRing) (passes : PassId → RenderPass)
    (useRenderPass : Bool) : data.Keeps (data.record passes useRenderPass) := by
  cases hrec : data.cmd.recording with
  | true =>
      rw [record_of_recording hrec]
      refine ⟨h.congr rfl ?_ rfl h.current rfl, rfl⟩
      show (data.cmd.setActive data.current).current < commandBufferCount
      rw [CommandBuffer.setActive, if_pos (by rw [h.size]; exact h.current)]
      exact h.current
  | false =>
      rw [record_of_not_recording hrec]
      exact h.keeps_broadcast (h.performs_recordBody passes useRenderPass) fun _ => rfl

/-- An `end` keeps the chain on the ring, and the setup of it. -/
theorem OnRing.keeps_stop (h : data.OnRing) : data.Keeps data.stop := by
  unfold ChainData.stop
  split
  · have hbody : data.cmd.Performs CommandBuffer.stop .stop (fun _ => false) :=
      CommandBuffer.performs_stop
    exact (h.keeps_broadcast hbody fun _ => rfl).congr rfl rfl rfl rfl rfl
  · exact h.keeps

/-- A move of an operation keeps the chain on the ring, and the setup of it. -/
theorem OnRing.keeps_move (h : data.OnRing) (passes : PassId → RenderPass) (move : Move) :
    data.Keeps (data.move passes move) := by
  cases move with
  | storeImageBarrier | storeBufferBarrier | markRecord => exact h.keeps.congr rfl rfl rfl rfl rfl
  | record useRenderPass => exact h.keeps_record passes useRenderPass
  | each bound commands =>
      have hissued := h.keeps_broadcast (CommandBuffer.performs_issueBound bound commands)
        fun _ => rfl
      exact hissued.congr rfl rfl rfl rfl rfl
  | synchronize device =>
      rw [ChainData.move]
      rcases data.deviceSynchronize_cases (device.or data.cmd.queue.device) with same | same
      · rw [same]
        exact h.keeps.congr rfl rfl rfl rfl rfl
      · rw [same]
        exact h.keeps

/-- Any moves of an operation keep the chain on the ring, and the setup of it. -/
theorem OnRing.keeps_moves (h : data.OnRing) (passes : PassId → RenderPass) (moves : List Move) :
    data.Keeps (data.moves passes moves) := by
  induction moves generalizing data with
  | nil => exact h.keeps
  | cons move moves ih =>
      have hmove := h.keeps_move passes move
      exact hmove.trans (ih hmove.ring)

end ChainData

/-- A submit keeps the chain on the ring, and the setup of it, whether it reaches the queue or
not. -/
theorem Session.keeps_submit {s : Session} (env : Environment) (h : s.data.OnRing) :
    s.data.Keeps (s.submit env).data := by
  have hstop := h.keeps_stop
  have hlevel := hstop.ring.level
  by_cases hready : s.data.stop.parent = none ∧ s.data.stop.hasRecord = true ∧
      s.data.stop.dirty = true
  · rw [submit_of_ready env hready]
    exact ⟨hstop.ring.congr (CommandBuffer.setup_submit hlevel) hstop.ring.current_submit rfl
      hstop.ring.current_submit rfl, (CommandBuffer.setup_submit hlevel).trans hstop.setup⟩
  · rw [submit_of_not_ready env hready]
    exact hstop.congr rfl rfl rfl rfl rfl

/-- A `combine` that returned executed the child on every command buffer and moved on where the
render pass has more subpasses, or did nothing. -/
theorem Session.combine_ok {s t : Session} {childId : ChainId} {child : ChainData}
    (h : s.combine childId child = .ok t) :
    (s.data.parent = none ∧ child.parent = some s.self ∧ child.cmd.recording = false ∧
      ∃ pass, s.data.pass = some pass ∧
        let executed : ChainData :=
          { s.data with hasRecord := true }.broadcast (·.combine childId child.cmd)
        t = { s with data :=
          { if 1 < (s.world.passes pass).subpassCount then executed.broadcast (·.nextSubpass)
            else executed with dirty := true } }) ∨ t = s := by
  rw [combine] at h
  by_cases hacts : s.data.parent = none ∧ child.parent = some s.self ∧ child.cmd.recording = false
  · rw [if_pos hacts] at h
    cases hpass : s.data.pass with
    | none =>
        have hnone : (({ s.data with hasRecord := true } : ChainData).broadcast
            (·.combine childId child.cmd)).pass = none := hpass
        simp only [hnone, reduceCtorEq] at h
    | some pass =>
        have hsome : (({ s.data with hasRecord := true } : ChainData).broadcast
            (·.combine childId child.cmd)).pass = some pass := hpass
        simp only [hsome, Except.ok.injEq] at h
        exact Or.inl ⟨hacts.1, hacts.2.1, hacts.2.2, pass, rfl, h.symm⟩
  · rw [if_neg hacts, Except.ok.injEq] at h
    exact Or.inr h.symm

/-- **Every operation keeps the ring** of a chain, and the setup of it. -/
theorem Op.keeps_step {env : Environment} {s t : Session} {op : Op} (h : s.data.OnRing)
    (hstep : op.step env s = .ok t) : s.data.Keeps t.data := by
  cases op with
  | begin =>
      cases hstep
      rw [Session.begin, h.parent]
      exact h.keeps_record s.world.passes s.data.pass.isSome
  | advance =>
      cases hstep
      refine ⟨h.congr rfl ?_ rfl h.current rfl, rfl⟩
      show ringNext s.data.cmd.size s.data.cmd.current < commandBufferCount
      rw [h.size]
      exact ringNext_lt _ (by decide)
  | setMode mode =>
      cases hstep
      cases mode
      · exact ⟨⟨h.parent, h.level, h.size, h.current, h.cursor, Or.inl rfl⟩, rfl⟩
      · exact ⟨⟨h.parent, h.level, h.size, h.current, h.cursor, Or.inr rfl⟩, rfl⟩
  | stop =>
      cases hstep
      exact h.keeps_stop
  | submit =>
      cases hstep
      exact Session.keeps_submit env h
  | synchronize =>
      cases hstep
      unfold Session.synchronize
      split
      · exact h.keeps.congr rfl rfl rfl rfl rfl
      · exact h.keeps
  | recording op =>
      obtain ⟨recipe, -, rfl⟩ := op.exists_recipe hstep
      exact h.keeps_moves s.world.passes recipe.1
  | combine childId child =>
      rcases Session.combine_ok hstep with ⟨-, -, -, pass, -, rfl⟩ | rfl
      · have hmarked : s.data.Keeps { s.data with hasRecord := true } :=
          h.keeps.congr rfl rfl rfl rfl rfl
        have hexecuted := hmarked.trans (hmarked.ring.keeps_broadcast
          (Session.performs_combine s.data.cmd childId child.cmd) fun _ => rfl)
        dsimp only
        split
        · have hmoved := hexecuted.trans (hexecuted.ring.keeps_broadcast
            (Session.performs_nextSubpass hexecuted.ring.level) fun _ => rfl)
          exact hmoved.congr rfl rfl rfl rfl rfl
        · exact hexecuted.congr rfl rfl rfl rfl rfl
      · exact h.keeps

/-- A chain on its ring is on it after every run. -/
theorem onRing_run {env : Environment} {s t : Session} {ops : List Op} (h : s.data.OnRing)
    (hrun : runSteps (Op.step env) s ops = .ok t) : t.data.OnRing :=
  runSteps_preserves (fun s => s.data.OnRing)
    (fun _ _ _ hs _ hstep => (Op.keeps_step hs hstep).ring)
    h (stepsMeet_of_forall_mem (p := fun _ => True) fun _ _ => trivial) hrun

/-! ## A recording with children -/

/-- A chain that was initialised as a child of `parentId` and is not being recorded. -/
structure ChainData.EndedChild (child : ChainData) (parentId : ChainId) : Prop where
  parent : child.parent = some parentId
  level : child.cmd.level = .secondary
  idle : child.cmd.recording = false

/-- Sharing a page does not depend on the flags, the barriers or the pass. -/
theorem ChainData.Shares.congr {data data' : ChainData} {page : Page} (h : data.Shares page)
    (hcmd : data'.cmd = data.cmd) (hparent : data'.parent = data.parent)
    (hcurrent : data'.current = data.current) (hnum : data'.numCmd = data.numCmd) :
    data'.Shares page := by
  refine ⟨⟨hparent.trans h.parent, hcmd ▸ h.level, hcmd ▸ h.size, hcurrent ▸ h.current,
    hcmd ▸ h.cursor, hnum ▸ h.numCmd⟩, by rw [hcmd, hcurrent, h.home], fun i hi hvisit => ?_⟩
  rw [Visits, hcmd, hnum] at hvisit
  rw [hcmd]
  exact h.pages i hi hvisit

/-- To move on in a slot in which a render pass was started records the move to the next subpass on
its page. -/
theorem SlotAction.page_nextSubpass {slot : Slot} (contents : SubpassContents)
    (h : slot.vk.state = .recording) (hstarted : slot.startedRenderPass = true) :
    ((nextSubpass contents).apply slot).page = slot.page.emit [.nextSubpass contents] := by
  have hsame : (nextSubpass contents).apply slot = (emit [.nextSubpass contents]).apply slot := by
    simp [apply, nextSubpass, emit, hstarted]
  rw [hsame, page_emit _ h]

namespace Session

variable {s : Session} {pass : PassId} {count : Nat} {page : Page}

/-- **In a recording**: the visited command buffers share a page in which the render pass of the
chain was started; it has `count` subpasses, which hold secondary command buffers. -/
structure InRecording (s : Session) (pass : PassId) (count : Nat) (page : Page) : Prop where
  shares : s.data.Shares page
  state : page.state = .recording
  inPass : page.inPass = true
  recording : s.data.cmd.recording = true
  chainPass : s.data.pass = some pass
  contents : s.data.cmd.subpassFlags = .secondaryCommandBuffers
  subpasses : (s.world.passes pass).subpassCount = count

/-- `begin` starts the recording, wherever the history of the chain has left the slots. -/
theorem inRecording_begin (h : s.data.OnRing) (hidle : s.data.cmd.recording = false)
    (hhome : s.data.Home) (hpass : s.data.pass = some pass)
    (hinitialized : (s.world.passes pass).initialized = true)
    (hcontents : s.data.cmd.subpassFlags = .secondaryCommandBuffers) :
    s.begin.InRecording pass (s.world.passes pass).subpassCount ⟨.recording,
      [.beginRenderPass (s.world.passes pass).beginInfo .secondaryCommandBuffers], true⟩ := by
  have hbody := h.performs_recordBody s.world.passes true
  have hopens : s.data.opens s.world.passes true = true := by
    rw [ChainData.opens, hpass]
    simp [hinitialized]
  have hopening : s.data.opening s.world.passes true =
      [.beginRenderPass (s.world.passes pass).beginInfo .secondaryCommandBuffers] := by
    rw [ChainData.opening, hpass, hcontents]
    simp [hinitialized]
  have hbegin : s.begin =
      { s with data := s.data.broadcast (s.data.recordBody s.world.passes true) } := by
    rw [Session.begin, h.parent, ← ChainData.record_of_not_recording hidle, hpass]
    rfl
  have hspec := ChainData.broadcast_spec h hbody fun _ => rfl
  rw [hopens, hopening] at hbody
  rw [hbegin]
  refine ⟨?_, rfl, rfl, hspec.recording, hpass,
    (CommandBuffer.subpassFlags_eq_of_setup hspec.setup).trans hcontents, rfl⟩
  exact ChainData.Shares.broadcast h hhome hbody (fun _ => rfl)
    fun i _ _ => SlotAction.page_begin _ _ _ fun _ => rfl

/-- **One child**: `combine` returns, and records the execution of the child and, on several
subpasses, the move to the next one. -/
theorem InRecording.combine (h : s.InRecording pass count page) {child : ChainId × ChainData}
    (hended : child.2.EndedChild s.self) :
    ∃ t, s.combine child.1 child.2 = .ok t ∧ t.self = s.self ∧
      t.InRecording pass count (page.emit (combinedCommands count child)) := by
  have hstate : ∀ {data : ChainData} {page' : Page}, data.Shares page' → page'.state = .recording →
      ∀ i < commandBufferCount, data.Visits i → (data.cmd.slots i).vk.state = .recording :=
    fun hshares hrec i hi hvisit => (congrArg Page.state (hshares.pages i hi hvisit)).trans hrec
  -- the child is executed on every visited command buffer
  have hmarked : ({ s.data with hasRecord := true } : ChainData).Shares page :=
    h.shares.congr rfl rfl rfl rfl
  have hbody := performs_combine s.data.cmd child.1 child.2.cmd
  rw [if_pos ⟨h.shares.level, hended.level, h.contents⟩] at hbody
  have hspec := ChainData.broadcast_spec hmarked.toOnRing hbody fun _ => rfl
  have hexecuted : (({ s.data with hasRecord := true } : ChainData).broadcast
      (·.combine child.1 child.2.cmd)).Shares
        (page.emit [.executeCommands child.1 child.2.cmd.current]) :=
    ChainData.Shares.broadcast hmarked.toOnRing (Or.inr hmarked.home) hbody (fun _ => rfl)
      fun i hi hvisit => (SlotAction.page_emit _ (hstate hmarked h.state i hi hvisit)).trans
        (congrArg (Page.emit · _) (hmarked.pages i hi hvisit))
  have hacts : s.data.parent = none ∧ child.2.parent = some s.self ∧
      child.2.cmd.recording = false := ⟨h.shares.parent, hended.parent, hended.idle⟩
  have hpass : (({ s.data with hasRecord := true } : ChainData).broadcast
      (·.combine child.1 child.2.cmd)).pass = some pass := h.chainPass
  have hcontents := (CommandBuffer.subpassFlags_eq_of_setup hspec.setup).trans h.contents
  rw [Session.combine, if_pos hacts]
  simp only [hpass, h.subpasses]
  by_cases hmany : 1 < count
  · -- and each of them moves on, a render pass being started in it
    have hnext := performs_nextSubpass hexecuted.level
    rw [hcontents] at hnext
    have hmoved := ChainData.Shares.broadcast hexecuted.toOnRing (Or.inr hexecuted.home) hnext
      (fun _ => rfl) fun i hi hvisit =>
        (SlotAction.page_nextSubpass _ (hstate hexecuted h.state i hi hvisit)
          ((congrArg Page.inPass (hexecuted.pages i hi hvisit)).trans h.inPass)).trans
          (congrArg (Page.emit · _) (hexecuted.pages i hi hvisit))
    have hspec' := ChainData.broadcast_spec hexecuted.toOnRing hnext fun _ => rfl
    rw [if_pos hmany]
    refine ⟨_, rfl, rfl, ?_, h.state, h.inPass,
      hspec'.recording.trans (hspec.recording.trans h.recording), h.chainPass,
      (CommandBuffer.subpassFlags_eq_of_setup hspec'.setup).trans hcontents, h.subpasses⟩
    have hemit : page.emit (combinedCommands count child) =
        (page.emit [.executeCommands child.1 child.2.cmd.current]).emit
          [.nextSubpass .secondaryCommandBuffers] := by
      simp [Page.emit, combinedCommands, hmany]
    rw [hemit]
    exact hmoved.congr rfl rfl rfl rfl
  · rw [if_neg hmany]
    refine ⟨_, rfl, rfl, ?_, h.state, h.inPass, hspec.recording.trans h.recording, h.chainPass,
      hcontents, h.subpasses⟩
    have hemit : page.emit (combinedCommands count child) =
        page.emit [.executeCommands child.1 child.2.cmd.current] := by
      simp [combinedCommands, hmany]
    rw [hemit]
    exact hexecuted.congr rfl rfl rfl rfl

/-- **The children of a recording**, one after the other, are executed each in its subpass. -/
theorem InRecording.combines (env : Environment) (h : s.InRecording pass count page)
    {children : List (ChainId × ChainData)}
    (hended : ∀ child ∈ children, child.2.EndedChild s.self) :
    ∃ t, runSteps (Op.step env) s (children.map fun child => .combine child.1 child.2) = .ok t ∧
      t.InRecording pass count (page.emit (children.flatMap (combinedCommands count))) := by
  induction children generalizing s page with
  | nil => exact ⟨s, rfl, by simpa [Page.emit] using h⟩
  | cons child children ih =>
      obtain ⟨s', hstep, hself, hnext⟩ := h.combine (hended child List.mem_cons_self)
      obtain ⟨t, hrun, hlast⟩ := ih hnext fun other hmem =>
        hself ▸ hended other (List.mem_cons_of_mem _ hmem)
      refine ⟨t, (runSteps_cons_of_ok hstep).trans hrun, ?_⟩
      have hemit : (page.emit (combinedCommands count child)).emit
          (children.flatMap (combinedCommands count)) =
          page.emit ((child :: children).flatMap (combinedCommands count)) := by
        simp [Page.emit]
      rwa [hemit] at hlast

/-- The `end` of a chain in a recording stops the page that its command buffers share. -/
theorem InRecording.stop (h : s.InRecording pass count page) : s.stop.data.Shares page.stop := by
  have hbody : s.data.cmd.Performs CommandBuffer.stop .stop (fun _ => false) :=
    CommandBuffer.performs_stop
  have hstopped := ChainData.Shares.broadcast h.shares.toOnRing (Or.inr h.shares.home) hbody
    (fun _ => rfl) fun i hi hvisit =>
      (SlotAction.page_stop
        ((congrArg Page.state (h.shares.pages i hi hvisit)).trans h.state)).trans
        (congrArg Page.stop (h.shares.pages i hi hvisit))
  show s.data.stop.Shares page.stop
  rw [ChainData.stop, if_pos h.recording]
  exact hstopped.congr rfl rfl rfl rfl

end Session

/-- **The subpass index stays inside the render pass just when a subpass is left over.** A chain was
initialised, and any operations have followed; it is not recording, its buffer cursor is at home,
and its render pass is initialised, has subpasses and holds secondary command buffers. Then a
recording of `begin`, a `combine` for each of no more ended children than there are subpasses, and
`end` returns. Every command buffer of it stays inside the subpasses and executes each child in its
own if and only if there are fewer children than subpasses, or only one subpass. -/
theorem subpasses_kept_iff (env : Environment) (start s : Session) (history : List Op)
    (hinit : start.data.JustInitialized env start.world.passes)
    (hhistory : runSteps (Op.step env) start history = .ok s)
    (hidle : s.data.cmd.recording = false) (hhome : s.data.Home) (pass : PassId)
    (hpass : s.data.pass = some pass) (hinitialized : (s.world.passes pass).initialized = true)
    (hcontents : s.data.cmd.subpassFlags = .secondaryCommandBuffers)
    (hcount : 1 ≤ (s.world.passes pass).subpassCount) (children : List (ChainId × ChainData))
    (hended : ∀ child ∈ children, child.2.EndedChild s.self)
    (hle : children.length ≤ (s.world.passes pass).subpassCount) :
    ∃ t, runSteps (Op.step env) s
        (.begin :: children.map (fun child => .combine child.1 child.2) ++ [.stop]) = .ok t ∧
      ((∀ i < commandBufferCount, t.data.Visits i → KeepsSubpasses
          (s.world.passes pass).subpassCount children (t.data.cmd.slots i).vk.commands) ↔
        children.length < (s.world.passes pass).subpassCount ∨
          (s.world.passes pass).subpassCount = 1) := by
  have hbegun := Session.inRecording_begin (onRing_run hinit.fresh.toOnRing hhistory) hidle hhome
    hpass hinitialized hcontents
  have hself : s.begin.self = s.self := by
    unfold Session.begin
    split <;> rfl
  obtain ⟨t, hrun, hrecording⟩ := hbegun.combines env fun child hmem => hself ▸ hended child hmem
  have hstopped := hrecording.stop
  have hbegin : Op.step env s .begin = .ok s.begin := rfl
  refine ⟨t.stop, ?_, ?_⟩
  · rw [List.cons_append, runSteps_cons_of_ok hbegin, runSteps_append_of_ok hrun]
    rfl
  rw [← keepsSubpasses_iff hcount (s.world.passes pass).beginInfo .secondaryCommandBuffers hle]
  have hcommands : ∀ i < commandBufferCount, t.stop.data.Visits i →
      (t.stop.data.cmd.slots i).vk.commands =
        .beginRenderPass (s.world.passes pass).beginInfo .secondaryCommandBuffers ::
          (children.flatMap (combinedCommands (s.world.passes pass).subpassCount) ++
            [.endRenderPass]) := fun i hi hvisit =>
    congrArg Page.commands (hstopped.pages i hi hvisit)
  constructor
  · intro hall
    have hcursor := hstopped.cursor
    rw [← hcommands _ hcursor (Or.inr rfl)]
    exact hall _ hcursor (Or.inr rfl)
  · intro hkept i hi hvisit
    rw [hcommands i hi hvisit]
    exact hkept

/-- A new chain for the children on a render pass with some subpasses, in a world of such render
passes. -/
def Session.newWithSubpasses (count : Nat) : Session :=
  let world : World :=
    { World.start with passes := fun _ => ({ subpasses := count } : RenderPass).initializeDevice 0 }
  ⟨0, ({} : ChainData).initializePass 0 (world.passes 0) .graphics true, world⟩

/-- A new child of the chain with that many subpasses, for the first one. -/
def Session.newChild (count : Nat) : ChainData :=
  ({} : ChainData).initializeChild 0 (newWithSubpasses count).data 0

/-- One child on a render pass with two subpasses, in `All` mode, is executed in a subpass of its
own, for there are more subpasses than children. -/
theorem subpasses_kept_iff_oneChild :
    ∃ s, runSteps (Op.step .inert) (.newWithSubpasses 2) [.setMode .all] = .ok s ∧
      ∃ t, runSteps (Op.step .inert) s
          (.begin :: [(1, Session.newChild 2)].map (fun child => .combine child.1 child.2)
            ++ [.stop])
          = .ok t ∧
        ((∀ i < commandBufferCount, t.data.Visits i → KeepsSubpasses
            (s.world.passes 0).subpassCount [(1, Session.newChild 2)]
              (t.data.cmd.slots i).vk.commands) ↔
          [((1 : ChainId), Session.newChild 2)].length < (s.world.passes 0).subpassCount ∨
            (s.world.passes 0).subpassCount = 1) :=
  ⟨_, rfl, subpasses_kept_iff .inert (.newWithSubpasses 2) _ [.setMode .all]
    (.pass 0 .graphics true)
    rfl rfl (by decide) 0 rfl rfl rfl (by decide) [(1, Session.newChild 2)]
    (List.forall_mem_singleton.mpr ⟨rfl, rfl, rfl⟩) (by decide)⟩

/-- A new child for each of two subpasses. -/
def twoChildren : List (ChainId × ChainData) := [(1, Session.newChild 2), (2, Session.newChild 2)]

/-- With a child for each of two subpasses the recording moves on from the last subpass. -/
theorem not_subpasses_kept :
    ¬ ∀ (env : Environment) (s : Session) (pass : PassId) (children : List (ChainId × ChainData)),
      s.data.JustInitialized env s.world.passes → s.data.pass = some pass →
        (s.world.passes pass).initialized = true →
          s.data.cmd.subpassFlags = .secondaryCommandBuffers →
            (∀ child ∈ children, child.2.EndedChild s.self) →
              children.length ≤ (s.world.passes pass).subpassCount →
                ∃ t, runSteps (Op.step env) s (.begin ::
                    children.map (fun child => .combine child.1 child.2) ++ [.stop]) = .ok t ∧
                  ∀ i < commandBufferCount, t.data.Visits i → KeepsSubpasses
                    (s.world.passes pass).subpassCount children
                      (t.data.cmd.slots i).vk.commands := by
  intro h
  have hended : ∀ child ∈ twoChildren, child.2.EndedChild 0 :=
    List.forall_mem_cons.mpr ⟨⟨rfl, rfl, rfl⟩, List.forall_mem_singleton.mpr ⟨rfl, rfl, rfl⟩⟩
  obtain ⟨t, hrun, hkept⟩ := h .inert (.newWithSubpasses 2) 0 twoChildren (.pass 0 .graphics true)
    rfl rfl rfl hended (by decide)
  have hcheck : (runSteps (Op.step .inert) (.newWithSubpasses 2) (.begin ::
      twoChildren.map (fun child => .combine child.1 child.2) ++ [.stop])).map (fun t =>
        decide (t.data.Visits 0 ∧ ¬ KeepsSubpasses 2 twoChildren (t.data.cmd.slots 0).vk.commands))
      = .ok true := by decide +kernel
  rw [hrun] at hcheck
  obtain ⟨hvisit, hleft⟩ := of_decide_eq_true (Except.ok.inj hcheck)
  exact hleft (hkept 0 (by decide) hvisit)

end Nyx
