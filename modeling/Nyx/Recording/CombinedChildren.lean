import Nyx.Recording.BuffersInUse
import Nyx.Recording.ChildRounds

/-! # Combined children

`Chain::combine` records into the buffers of a parent the execution of one buffer of a child, the
one under the child's cursor. A child that records rounds leaves this cursor on the buffer of the
latest round.

* **`executions`**, **`CommandBuffer.Executes`** — which calls execute a buffer of a child.
* **`Session.combine_executes`** — what a `combine` executes, and where it leaves the cursors.
* **`ChainData.MultiPass`** — a parent for children; every step of a family keeps it.
* **`combine_executes_latest`** — `combine` executes the buffer of the latest round. -/

namespace Nyx

open Foundations

/-! ## The executions among some calls -/

/-- The buffer of a child that a call executes: the child, and the slot of it. -/
def Call.executes : Call → Option (ChainId × Nat)
  | .command (.executeCommands child slot) => some (child, slot)
  | _ => none

/-- The executions among some calls: the slot that each is recorded into, and what it executes. -/
def executions (events : List Event) : List (Nat × ChainId × Nat) :=
  events.filterMap fun event => event.call.executes.map fun buffer => (event.slot, buffer)

@[simp] theorem executions_append (xs ys : List Event) :
    executions (xs ++ ys) = executions xs ++ executions ys := List.filterMap_append

/-- The executions among calls on one slot are those of the calls, all on this slot. -/
theorem executions_callEvents (i : Nat) (vk : VkSlot) (calls : List Call) :
    executions (callEvents i vk calls) =
      (calls.filterMap Call.executes).map fun buffer => (i, buffer) := by
  induction calls generalizing vk with
  | nil => rfl
  | cons call calls ih =>
      have htail := ih (vk.perform call)
      unfold executions at htail ⊢
      cases hcall : call.executes <;> simp [callEvents, hcall, htail]

namespace CommandBuffer

/-- Some calls were made on a ring, and these are the executions among them. -/
def Executes (cmd cmd' : CommandBuffer) (buffers : List (Nat × ChainId × Nat)) : Prop :=
  ∃ events, cmd'.log = cmd.log ++ events ∧ executions events = buffers

variable {cmd cmd' cmd'' : CommandBuffer} {body : CommandBuffer → CommandBuffer}
  {action : SlotAction} {flag : Bool → Bool} {xs ys : List (Nat × ChainId × Nat)}

theorem Executes.of_log_eq (h : cmd'.log = cmd.log) : cmd.Executes cmd' [] :=
  ⟨[], h.trans (List.append_nil _).symm, rfl⟩

theorem Executes.trans (h : cmd.Executes cmd' xs) (h' : cmd'.Executes cmd'' ys) :
    cmd.Executes cmd'' (xs ++ ys) := by
  obtain ⟨events, hlog, rfl⟩ := h
  obtain ⟨events', hlog', rfl⟩ := h'
  exact ⟨events ++ events', by rw [hlog', hlog, List.append_assoc], executions_append _ _⟩

/-- A loop over a body that executes the same buffers in each slot. -/
theorem executes_forEach (hbody : cmd.Performs body action flag) {buffers : List (ChainId × Nat)}
    (haction : ∀ slot, (action.calls slot).filterMap Call.executes = buffers) (n : Nat) :
    cmd.Executes (cmd.forEach n body) ((List.iterate (ringNext cmd.size) cmd.current n).flatMap
      fun i => buffers.map fun buffer => (i, buffer)) := by
  induction n generalizing cmd with
  | zero => exact .of_log_eq rfl
  | succ n ih =>
      obtain ⟨-, hlog, hcurrent, hsetup⟩ := hbody.step
      have hrest := ih hbody.next
      rw [hcurrent, size_eq_of_setup hsetup] at hrest
      have hround : executions (action.events cmd.current (cmd.slots cmd.current)) =
          buffers.map fun buffer => (cmd.current, buffer) := by
        rw [SlotAction.events, executions_callEvents, haction]
      exact Executes.trans ⟨_, hlog, hround⟩ hrest

end CommandBuffer

/-- A loop of at most one round visits the slot that it starts on once. -/
theorem filter_iterate_ringNext {c n : Nat} (hc : c < commandBufferCount)
    (hn : n = 1 ∨ n = commandBufferCount) :
    (List.iterate (ringNext commandBufferCount) c n).filter (· = c) = [c] := by
  rcases hn with rfl | rfl
  · simp [List.iterate]
  · revert c
    decide

/-! ## What is recorded -/

/-- The executions among the commands that are recorded into a slot come after those that it had. -/
theorem executed_emit {slot : Slot} (commands : List Command) (h : slot.vk.state = .recording) :
    executed ((SlotAction.emit commands).apply slot).vk.commands =
      executed slot.vk.commands ++ executed commands := by
  rw [SlotAction.commands_emit commands h]
  exact List.filterMap_append

/-- To move to the next subpass records no execution of a child. -/
theorem executed_nextSubpass (contents : SubpassContents) (slot : Slot) :
    executed ((SlotAction.nextSubpass contents).apply slot).vk.commands =
      executed slot.vk.commands := by
  cases hstarted : slot.startedRenderPass with
  | false => simp [SlotAction.apply, SlotAction.nextSubpass, hstarted]
  | true =>
      by_cases hstate : slot.vk.state = .recording <;>
        simp [SlotAction.apply, SlotAction.nextSubpass, hstarted, VkSlot.perform, hstate, executed]

/-! ## One child -/

namespace ChainData

/-- **What a `combine` does.** Among the calls on the slot under the cursor is one execution, of the
buffer `slot` of the child; while that slot is being recorded, this execution is what is recorded;
and both cursors are where the cursor of the chain was. -/
structure Combined (data data' : ChainData) (id : ChainId) (slot : Nat) : Prop where
  calls : ∃ buffers, data.cmd.Executes data'.cmd buffers ∧
    buffers.filter (·.1 = data.cmd.current) = [(data.cmd.current, id, slot)]
  recorded : data.cmd.active.vk.state = .recording →
    executed (data'.cmd.slots data.cmd.current).vk.commands =
      executed data.cmd.active.vk.commands ++ [(id, slot)]
  current : data'.current = data.current
  cursor : data'.cmd.current = data.current

variable {data data' : ChainData} {id : ChainId} {slot : Nat}

/-- The loop over the buffers that executes a child does what a `combine` does, from the buffer
under the cursor of the child, and stays on the ring. -/
theorem OnRing.combined (h : data.OnRing)
    (hcontents : data.cmd.subpassFlags = .secondaryCommandBuffers)
    (id : ChainId) {child : CommandBuffer} (hlevel : child.level = .secondary) :
    data.Combined (data.broadcast (·.combine id child)) id child.current ∧
      (data.broadcast (·.combine id child)).OnRing := by
  have hbody := Session.performs_combine data.cmd id child
  rw [if_pos ⟨h.level, hlevel, hcontents⟩] at hbody
  have hspec := broadcast_spec h hbody fun _ => rfl
  have hexecutes : data.cmd.Executes (data.broadcast (·.combine id child)).cmd
      ((List.iterate (ringNext data.cmd.size) data.cmd.current data.numCmd).flatMap
        fun i => [(i, id, child.current)]) :=
    CommandBuffer.executes_forEach hbody (fun _ => rfl) data.numCmd
  refine ⟨⟨⟨_, hexecutes, ?_⟩, ?_, rfl, hspec.cursor⟩, h.broadcast hbody fun _ => rfl⟩
  · have hvisit := filter_iterate_ringNext h.cursor h.numCmd
    rw [h.size, ← List.map_eq_flatMap, List.filter_map]
    exact congrArg (List.map _) hvisit
  · intro hstate
    have hvisits : data.Visits data.cmd.current := Or.inr rfl
    rw [hspec.slots _ h.cursor, if_pos hvisits]
    exact executed_emit _ hstate

/-- The loop that moves to the next subpass executes nothing more. -/
theorem Combined.nextSubpass (h : data.Combined data' id slot)
    (hcursor : data.cmd.current < commandBufferCount)
    (hring : data'.OnRing) : data.Combined (data'.broadcast (·.nextSubpass)) id slot := by
  have hbody := Session.performs_nextSubpass hring.level
  have hspec := broadcast_spec hring hbody fun _ => rfl
  obtain ⟨buffers, hexecutes, honce⟩ := h.calls
  refine ⟨⟨buffers, ?_, honce⟩, fun hstate => ?_, h.current, hspec.cursor.trans h.current⟩
  · have hnone : ∀ slot, ((SlotAction.nextSubpass data'.cmd.subpassFlags).calls slot).filterMap
        Call.executes = [] := by
      intro slot
      cases hstarted : slot.startedRenderPass <;>
        simp [SlotAction.nextSubpass, hstarted, Call.executes]
    have hmoved := CommandBuffer.executes_forEach hbody hnone data'.numCmd
    have hboth := hexecutes.trans hmoved
    have hnothing : ∀ slots : List Nat, (slots.flatMap fun i =>
        ([] : List (ChainId × Nat)).map fun buffer => (i, buffer)) = [] := by simp
    rwa [hnothing, List.append_nil] at hboth
  · rw [← h.recorded hstate, hspec.slots _ hcursor]
    split
    · exact executed_nextSubpass _ _
    · rfl

end ChainData

/-- **One child**: a `combine` of an ended child returns, and executes the buffer under the child's
cursor. -/
theorem Session.combine_executes {s : Session} {pass : PassId} {child : ChainData}
    (h : s.data.OnRing) (hpass : s.data.pass = some pass)
    (hcontents : s.data.cmd.subpassFlags = .secondaryCommandBuffers)
    (hended : child.EndedChild s.self) (id : ChainId) :
    ∃ t, s.combine id child = .ok t ∧ s.data.Combined t.data id child.cmd.current := by
  have hmarked : ({ s.data with hasRecord := true } : ChainData).OnRing :=
    h.congr rfl h.cursor rfl h.current rfl
  obtain ⟨hcombined, hring⟩ := hmarked.combined hcontents id hended.level
  have hpass' : (({ s.data with hasRecord := true } : ChainData).broadcast
      (·.combine id child.cmd)).pass = some pass := hpass
  rw [Session.combine, if_pos ⟨h.parent, hended.parent, hended.idle⟩]
  simp only [hpass']
  refine ⟨_, rfl, ?_⟩
  split
  · have hmoved := hcombined.nextSubpass h.cursor hring
    exact { hmoved with }
  · exact { hcombined with }

/-! ## A parent for children -/

/-- A chain on its ring whose render pass holds secondary command buffers. -/
structure ChainData.MultiPass (data : ChainData) : Prop where
  ring : data.OnRing
  pass : data.pass ≠ none
  contents : data.cmd.subpassFlags = .secondaryCommandBuffers

/-- A chain that was just initialised on a render pass with secondary command buffers is a parent
for children. -/
theorem ChainData.JustInitialized.multiPass {env : Environment} {passes : PassId → RenderPass}
    {data : ChainData} (h : data.JustInitialized env passes)
    (hcontents : data.cmd.subpassFlags = .secondaryCommandBuffers) : data.MultiPass := by
  refine ⟨h.fresh.toOnRing, ?_, hcontents⟩
  cases h with
  | type gpu type => cases hcontents
  | window gpu windowId hwindow =>
      rw [initializeWindow, if_pos hwindow] at hcontents
      cases hcontents
  | pass pass type multiPass => exact Option.some_ne_none pass
  | passWindow pass windowId multiPass hwindow =>
      rw [initializePassWindow, if_pos hwindow]
      exact Option.some_ne_none pass

/-- Every operation of a chain that is a parent for children leaves it one. -/
theorem Op.multiPass_step {env : Environment} {s t : Session} {op : Op} (h : s.data.MultiPass)
    (hstep : op.step env s = .ok t) : t.data.MultiPass := by
  obtain ⟨hring, hsetup⟩ := Op.keeps_step h.ring hstep
  refine ⟨hring, ?_, (CommandBuffer.subpassFlags_eq_of_setup hsetup).trans h.contents⟩
  rw [(Op.frame_step hstep).2]
  exact h.pass

/-! ## The cursor of a parent -/

namespace ChainData

variable {data : ChainData}

/-- After `record` the cursor of the buffers is at home, wherever it was. -/
theorem OnRing.home_record (h : data.OnRing) (passes : PassId → RenderPass)
    (useRenderPass : Bool) : (data.record passes useRenderPass).cmd.current = data.current := by
  cases hrec : data.cmd.recording with
  | true =>
      rw [record_of_recording hrec]
      exact if_pos (by rw [h.size]; exact h.current)
  | false =>
      rw [record_of_not_recording hrec]
      exact (broadcast_spec h (h.performs_recordBody passes useRenderPass) fun _ => rfl).cursor

/-- To end a chain whose cursors are on one slot leaves them on one slot. -/
theorem OnRing.home_stop (h : data.OnRing) (hhome : data.cmd.current = data.current) :
    data.stop.cmd.current = data.stop.current := by
  unfold ChainData.stop
  split
  · have hbody : data.cmd.Performs CommandBuffer.stop .stop (fun _ => false) :=
      CommandBuffer.performs_stop
    exact (broadcast_spec h hbody fun _ => rfl).cursor
  · exact hhome

/-- Any moves of a chain whose cursors are on one slot leave them on one slot. -/
theorem OnRing.home_moves (h : data.OnRing) (hhome : data.cmd.current = data.current)
    (passes : PassId → RenderPass) (moves : List Move) :
    (data.moves passes moves).cmd.current = (data.moves passes moves).current := by
  induction moves generalizing data with
  | nil => exact hhome
  | cons move moves ih =>
      refine ih (h.keeps_move passes move).ring ?_
      cases move with
      | storeImageBarrier | storeBufferBarrier | markRecord => exact hhome
      | record useRenderPass => exact h.home_record passes useRenderPass
      | each bound commands =>
          exact (broadcast_spec h (CommandBuffer.performs_issueBound bound commands)
            fun _ => rfl).cursor
      | synchronize device =>
          rw [ChainData.move]
          rcases data.deviceSynchronize_cases (device.or data.cmd.queue.device) with same | same
          all_goals
            rw [same]
            exact hhome

end ChainData

/-- Every operation but `advance` leaves the cursor of the buffers at home. -/
theorem Op.home_step {env : Environment} {s t : Session} {op : Op} (h : s.data.OnRing)
    (hhome : s.data.cmd.current = s.data.current) (hop : op ≠ .advance)
    (hstep : op.step env s = .ok t) : t.data.cmd.current = t.data.current := by
  cases op with
  | begin =>
      cases hstep
      rw [Session.begin, h.parent]
      exact h.home_record s.world.passes s.data.pass.isSome
  | advance => exact absurd rfl hop
  | setMode mode =>
      cases hstep
      cases mode <;> exact hhome
  | stop =>
      cases hstep
      exact h.home_stop hhome
  | submit =>
      cases hstep
      by_cases hready : s.data.stop.parent = none ∧ s.data.stop.hasRecord = true ∧
          s.data.stop.dirty = true
      · rw [Session.submit_of_ready env hready]
      · rw [Session.submit_of_not_ready env hready]
        exact h.home_stop hhome
  | synchronize =>
      cases hstep
      unfold Session.synchronize
      split <;> exact hhome
  | recording op =>
      obtain ⟨recipe, -, rfl⟩ := op.exists_recipe hstep
      exact h.home_moves hhome s.world.passes recipe.1
  | combine childId child =>
      rcases Session.combine_ok hstep with ⟨-, -, -, pass, -, rfl⟩ | rfl
      · have hmarked : ({ s.data with hasRecord := true } : ChainData).OnRing :=
          h.congr rfl h.cursor rfl h.current rfl
        have hbody := Session.performs_combine s.data.cmd childId child.cmd
        dsimp only
        split
        · have hring := hmarked.broadcast hbody fun _ => rfl
          exact (ChainData.broadcast_spec hring (Session.performs_nextSubpass hring.level)
            fun _ => rfl).cursor
        · exact (ChainData.broadcast_spec hmarked hbody fun _ => rfl).cursor
      · exact hhome

/-! ## The parent of a family -/

/-- The operation of the parent in a step of the family, if there is one. -/
def FamilyOp.ofParent (f : Family) : FamilyOp → Option Op
  | .parent op => some op.toOp
  | .submit => some .submit
  | .combine id => some (.combine id (f.children id))
  | .synchronize | .child _ _ | .complete _ => none

namespace Family

variable {env : Environment} {f g : Family} (Inv : ChainData → Prop)

/-- A wait for a device keeps of the parent whatever does not depend on the state of its slots. -/
theorem parent_waitFor (hslots : ∀ data : ChainData, ∀ slots, Inv data →
      Inv { data with cmd.slots := slots }) (h : Inv f.parent.data) (device : Option Nat) :
    Inv (f.waitFor device).parent.data := by
  rcases f.waitFor_cases device with same | same
  · rw [same]
    exact h
  · rw [same]
    exact hslots _ _ h

/-- **The parent in a step of the family**: what its own operations keep, and completions. -/
theorem parent_step {op : FamilyOp} (hslots : ∀ data : ChainData, ∀ slots, Inv data →
      Inv { data with cmd.slots := slots })
    (hop : ∀ own t, op.ofParent f = some own → own.step env f.parent = .ok t → Inv t.data)
    (h : Inv f.parent.data) (hstep : op.step env f = .ok g) : Inv g.parent.data := by
  have hparent : ∀ {own : Op} {f' : Family}, op.ofParent f = some own →
      f.parentStep env own = .ok f' → Inv f'.parent.data := by
    intro own f' hown hstep
    obtain ⟨t, hrun, rfl⟩ := Family.exists_of_parentStep hstep
    exact hop own t hown hrun
  cases op with
  | parent op =>
      obtain ⟨f', hrun, rfl⟩ := exists_of_map_eq_ok hstep
      exact parent_waitFor Inv hslots (hparent rfl hrun) _
  | submit | combine => exact hparent rfl hstep
  | synchronize =>
      cases hstep
      split
      · exact hslots _ _ h
      · exact h
  | child id op =>
      obtain ⟨f', hown, rfl⟩ := exists_of_map_eq_ok hstep
      obtain ⟨t, -, rfl⟩ := Family.exists_of_childStep hown
      refine parent_waitFor Inv hslots ?_ _
      exact h
  | complete slot =>
      cases hstep
      exact hslots _ _ h

variable {Inv}

/-- A parent for children is one after any run of the family. -/
theorem multiPass_run {ops : List FamilyOp} (h : f.parent.data.MultiPass)
    (hrun : runSteps (FamilyOp.step env) f ops = .ok g) : g.parent.data.MultiPass := by
  refine runSteps_preserves (fun f => f.parent.data.MultiPass) ?_ h
    (stepsMeet_of_forall_mem (p := fun _ => True) fun _ _ => trivial) hrun
  rintro f op g h - hstep
  refine parent_step ChainData.MultiPass ?_ (fun _ _ _ hown => Op.multiPass_step h hown) h hstep
  rintro data slots ⟨hring, hpass, hcontents⟩
  exact ⟨hring.congr rfl hring.cursor rfl hring.current rfl, hpass, hcontents⟩

/-- After a `begin` of the parent both of its cursors are on one slot. -/
theorem home_begin (h : f.parent.data.OnRing)
    (hstep : FamilyOp.step env f (.parent .begin) = .ok g) :
    g.parent.data.cmd.current = g.parent.data.current := by
  cases hstep
  show f.parent.begin.data.cmd.current = f.parent.begin.data.current
  rw [Session.begin, h.parent]
  exact h.home_record f.parent.world.passes f.parent.data.pass.isSome

/-- In any run without an `advance` of the parent, both of its cursors stay on one slot. -/
theorem home_run {ops : List FamilyOp} (h : f.parent.data.MultiPass)
    (hhome : f.parent.data.cmd.current = f.parent.data.current)
    (hops : ∀ op ∈ ops, op ≠ .parent .advance)
    (hrun : runSteps (FamilyOp.step env) f ops = .ok g) :
    g.parent.data.cmd.current = g.parent.data.current := by
  refine (runSteps_preserves (P := fun _ op => op ≠ .parent .advance)
    (fun f => f.parent.data.OnRing ∧ f.parent.data.cmd.current = f.parent.data.current) ?_
    ⟨h.ring, hhome⟩ (stepsMeet_of_forall_mem hops) hrun).2
  rintro f op g ⟨hring, hhome⟩ hop hstep
  refine parent_step (fun data => data.OnRing ∧ data.cmd.current = data.current) ?_ ?_
    ⟨hring, hhome⟩ hstep
  · rintro data slots ⟨hring, hhome⟩
    exact ⟨hring.congr rfl hring.cursor rfl hring.current rfl, hhome⟩
  · intro own t hown hrun
    refine ⟨(Op.keeps_step hring hrun).ring, Op.home_step hring hhome ?_ hrun⟩
    rintro rfl
    cases op with
    | parent op =>
        cases op with
        | advance => exact hop rfl
        | begin | record | stop | setMode => cases hown
    | submit | combine | synchronize | child | complete => cases hown

end Family

/-- **Combine executes the child's latest recording.** A parent is initialised for children on a
render pass, and its children for subpasses of it; the parent is begun, and before and after that
the members record, end, are combined and submitted in any order, the GPU completing submissions
whenever it does. When a child has recorded nothing but rounds of `begin`, recording operations and
`end`, a `combine` of it returns, and executes the buffer of its latest round once in the slot under
the parent's cursor. The cursors of the child stay, and those of the parent do, when it has not
called `advance` since its `begin`. -/
theorem combine_executes_latest (env : Environment) (parent : Session) (subpass : ChainId → Nat)
    (id : ChainId) (before after : List FamilyOp) (rounds : List (List RecordingOp))
    (hinit : parent.data.JustInitialized env parent.world.passes)
    (hcontents : parent.data.cmd.subpassFlags = .secondaryCommandBuffers)
    (hchild : childOps id (before ++ .parent .begin :: after) = rounds.flatMap roundOps)
    {f : Family} (hrun : runSteps (FamilyOp.step env) (.start parent subpass)
      (before ++ .parent .begin :: after) = .ok f) :
    ∃ g slot, FamilyOp.step env f (.combine id) = .ok g ∧
      LatestRound (childCalls id f.trace) rounds.length slot ∧
      f.parent.data.Combined g.parent.data id slot ∧
      ((∀ op ∈ after, op ≠ .parent .advance) →
        g.parent.data.cmd.current = f.parent.data.cmd.current) ∧
      g.children = f.children := by
  have hmulti := hinit.multiPass hcontents
  have hstart : (Family.start parent subpass).InRounds id false 0 :=
    Family.inRounds_start subpass id (by rw [hmulti.ring.size]; decide)
  have hin := hstart.run (hchild ▸ asRounds_flatMap rounds) hrun
  rw [Nat.zero_add] at hin
  have hf : f.parent.data.MultiPass := Family.multiPass_run hmulti hrun
  obtain ⟨pass, hpass⟩ := Option.ne_none_iff_exists'.mp hf.pass
  obtain ⟨t, hstep, hcombined⟩ := Session.combine_executes hf.ring hpass hf.contents
    (⟨hin.atHome.parent, hin.atHome.level, hin.recording⟩ : (f.children id).EndedChild _) id
  have hg : FamilyOp.step env f (.combine id) = .ok
      { f with parent := t, trace := f.trace ++ (Family.newEvents f.parent t).map .parent } := by
    rw [FamilyOp.step, Family.parentStep, Op.step, hstep]
    rfl
  refine ⟨_, _, hg, hin.latest, ?_, fun hafter => ?_, rfl⟩
  · rw [← hin.atHome.home]
    exact hcombined
  · -- the parent was at home when it began, and has been since
    obtain ⟨f₁, hbefore, hrest⟩ := runSteps_append_ok_iff.mp hrun
    obtain ⟨f₂, hbegin, hsince⟩ := runSteps_cons_ok_iff.mp hrest
    have h₁ : f₁.parent.data.MultiPass := Family.multiPass_run hmulti hbefore
    have h₂ := Family.home_begin h₁.ring hbegin
    have h₂' : f₂.parent.data.MultiPass :=
      Family.multiPass_run h₁ (runSteps_singleton.trans hbegin)
    exact hcombined.cursor.trans (Family.home_run h₂' h₂ hafter hsince).symm

/-- A child that records a round before the `begin` of its parent and one after it. -/
theorem combine_executes_latest_twoRounds :
    ∃ f, runSteps (FamilyOp.step .inert) (.start (.newWithSubpasses 1) fun _ => 0)
        ([.child 1 .begin, .child 1 .stop] ++ .parent .begin ::
          [.child 1 .begin, .child 1 (.record (.memoryBarrier ⟨.array 0, 0⟩)), .child 1 .stop]) =
        .ok f ∧
      ∃ g slot, FamilyOp.step .inert f (.combine 1) = .ok g ∧
        LatestRound (childCalls 1 f.trace) 2 slot ∧
        f.parent.data.Combined g.parent.data 1 slot ∧
        ((∀ op ∈ [FamilyOp.child 1 .begin, .child 1 (.record (.memoryBarrier ⟨.array 0, 0⟩)),
            .child 1 .stop], op ≠ .parent .advance) →
          g.parent.data.cmd.current = f.parent.data.cmd.current) ∧
        g.children = f.children :=
  ⟨_, rfl, combine_executes_latest .inert (.newWithSubpasses 1) (fun _ => 0) 1
    [.child 1 .begin, .child 1 .stop]
    [.child 1 .begin, .child 1 (.record (.memoryBarrier ⟨.array 0, 0⟩)), .child 1 .stop]
    [[], [.memoryBarrier ⟨.array 0, 0⟩]] (.pass 0 .graphics true) rfl rfl rfl⟩

end Nyx
