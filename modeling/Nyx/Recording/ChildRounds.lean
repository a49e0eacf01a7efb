import Nyx.Recording.ChainFamilies

/-! # Rounds of a child

A child that is begun moves on to its next buffer, and records a round into it that `end` closes.
Each of its operations works on a second cursor and puts that one back. Over any number of rounds
the cursor stays on the buffer of the latest one.

* **`Works`** — bodies that work on the buffer under the cursor.
* **`ChainData.AtHome`**, **`ChainData.WorksOn`** — a child with both cursors on one buffer, and
  operations that work on this buffer alone.
* **`LatestRound`** — the latest round of a child, in its calls, is on a buffer.
* **`AsRounds`** — operations that make up rounds.
* **`Family.InRounds`** — the invariant of a family in which a child records rounds. -/

namespace Nyx

open Foundations

/-! ## Bodies that work on the buffer under the cursor -/

namespace CommandBuffer

/-- The calls of a body are on the slot under the cursor, and the body leaves the ring alone. -/
structure Works (cmd cmd' : CommandBuffer) : Prop where
  log : ∃ events, cmd'.log = cmd.log ++ events ∧ ∀ event ∈ events, event.slot = cmd.current
  current : cmd'.current = cmd.current
  size : cmd'.size = cmd.size
  level : cmd'.level = cmd.level

/-- An action makes its calls on the slot under the cursor, and leaves the ring alone. -/
theorem works_act (cmd : CommandBuffer) (action : SlotAction) : cmd.Works (cmd.act action) where
  log := ⟨_, rfl, fun _ hevent => slot_of_mem_callEvents hevent⟩
  current := rfl
  size := rfl
  level := rfl

/-- A call that is made on the slot under the cursor leaves the ring alone too. -/
theorem works_perform (cmd : CommandBuffer) (call : Call) : cmd.Works (cmd.perform call) where
  log := ⟨_, rfl, fun _ hevent => congrArg Event.slot (List.mem_singleton.mp hevent)⟩
  current := rfl
  size := rfl
  level := rfl

/-- To record for a subpass makes its calls on the slot under the cursor, and leaves the ring
alone. -/
theorem works_recordSubpass (cmd : CommandBuffer) (renderPass : RenderPass) (index : Nat) :
    cmd.Works (cmd.recordSubpass renderPass index) := by
  unfold recordSubpass
  split
  · rw [recordPrimary_eq]
    exact { cmd.works_act _ with }
  · exact { cmd.works_perform _ with }

end CommandBuffer

/-! ## A child at home -/

namespace ChainData

/-- A child in `Sequential` mode with both cursors on one buffer. -/
structure AtHome (data : ChainData) (parentId : ChainId) : Prop where
  parent : data.parent = some parentId
  level : data.cmd.level = .secondary
  numCmd : data.numCmd = 1
  current : data.current < data.cmd.size
  home : data.cmd.current = data.current

/-- The child stays at home on the same buffer, and all calls are on it. -/
structure WorksOn (data data' : ChainData) (parentId : ChainId) : Prop where
  atHome : data'.AtHome parentId
  current : data'.current = data.current
  log : ∃ events, data'.cmd.log = data.cmd.log ++ events ∧
    ∀ event ∈ events, event.slot = data.current

variable {data data' data'' : ChainData} {parentId : ChainId} {passes : PassId → RenderPass}

/-- A change of a child at home that makes no call and leaves the ring, the parent and the mode
alone leaves it at home. -/
theorem AtHome.worksOn_of_eq (h : data.AtHome parentId) (hlog : data'.cmd.log = data.cmd.log)
    (hcursor : data'.cmd.current = data.cmd.current) (hsize : data'.cmd.size = data.cmd.size)
    (hlevel : data'.cmd.level = data.cmd.level) (hparent : data'.parent = data.parent)
    (hnum : data'.numCmd = data.numCmd) (hcurrent : data'.current = data.current) :
    data.WorksOn data' parentId :=
  ⟨⟨hparent.trans h.parent, hlevel.trans h.level, hnum.trans h.numCmd, by
      rw [hcurrent, hsize]
      exact h.current, by rw [hcursor, hcurrent, h.home]⟩,
    hcurrent, [], by rw [hlog, List.append_nil], fun _ hmem => absurd hmem List.not_mem_nil⟩

theorem WorksOn.trans (h : data.WorksOn data' parentId) (h' : data'.WorksOn data'' parentId) :
    data.WorksOn data'' parentId := by
  obtain ⟨events, hlog, hslot⟩ := h.log
  obtain ⟨events', hlog', hslot'⟩ := h'.log
  refine ⟨h'.atHome, h'.current.trans h.current, events ++ events', ?_, ?_⟩
  · rw [hlog', hlog, List.append_assoc]
  · rw [h.current] at hslot'
    exact List.forall_mem_append.mpr ⟨hslot, hslot'⟩

/-- A broadcast of a child at home works on its buffer: the cursor moves on, and back. -/
theorem AtHome.worksOn_broadcast (h : data.AtHome parentId) (body : CommandBuffer → CommandBuffer)
    (hbody : data.cmd.Works (body data.cmd)) : data.WorksOn (data.broadcast body) parentId := by
  have hdata : data.broadcast body =
      { data with cmd := (body data.cmd).advance.setActive data.current } := by
    rw [broadcast, h.numCmd]
    rfl
  have hsize : (body data.cmd).advance.size = data.cmd.size := hbody.size
  have hback : ((body data.cmd).advance.setActive data.current).current = data.current :=
    if_pos (by rw [hsize]; exact h.current)
  obtain ⟨events, hlog, hslot⟩ := hbody.log
  rw [h.home] at hslot
  rw [hdata]
  refine ⟨⟨h.parent, hbody.level.trans h.level, h.numCmd, ?_, hback⟩, rfl, events, hlog, hslot⟩
  show data.current < (body data.cmd).size
  rw [hbody.size]
  exact h.current

/-- A `record` of a child at home makes its calls on the buffer of the child, and leaves it at home
there. -/
theorem AtHome.worksOn_record (h : data.AtHome parentId) (passes : PassId → RenderPass)
    (useRenderPass : Bool) : data.WorksOn (data.record passes useRenderPass) parentId := by
  cases hrec : data.cmd.recording with
  | true =>
      rw [record_of_recording hrec]
      refine h.worksOn_of_eq rfl ?_ rfl rfl rfl rfl rfl
      exact (if_pos h.current).trans h.home.symm
  | false =>
      rw [record_of_not_recording hrec]
      refine h.worksOn_broadcast _ ?_
      have hplain : data.cmd.Works data.cmd.record := by
        rw [CommandBuffer.record_eq]
        exact { data.cmd.works_act _ with }
      unfold recordBody
      rw [h.parent]
      cases data.pass with
      | none => exact hplain
      | some pass =>
          dsimp only
          split
          · exact data.cmd.works_recordSubpass (passes pass) data.subpassId
          · exact hplain

/-- To end a child at home makes the calls on the buffer of the child, and leaves it at home
there. -/
theorem AtHome.worksOn_stop (h : data.AtHome parentId) : data.WorksOn data.stop parentId := by
  unfold ChainData.stop
  split
  · have hstop : data.cmd.Works data.cmd.stop := by
      rw [CommandBuffer.stop_eq]
      exact { data.cmd.works_act _ with }
    have hworks := h.worksOn_broadcast CommandBuffer.stop hstop
    exact hworks.trans (hworks.atHome.worksOn_of_eq rfl rfl rfl rfl rfl rfl rfl)
  · exact h.worksOn_of_eq rfl rfl rfl rfl rfl rfl rfl

/-- A move of a child at home makes its calls on the buffer of the child, and leaves it at home
there. -/
theorem AtHome.worksOn_move (h : data.AtHome parentId) (passes : PassId → RenderPass)
    (move : Move) : data.WorksOn (data.move passes move) parentId := by
  cases move with
  | storeImageBarrier | storeBufferBarrier | markRecord =>
      exact h.worksOn_of_eq rfl rfl rfl rfl rfl rfl rfl
  | record useRenderPass => exact h.worksOn_record passes useRenderPass
  | each bound commands =>
      have hissue : data.cmd.Works (data.cmd.issueBound bound commands) := by
        rw [CommandBuffer.issueBound, CommandBuffer.issue_eq]
        exact { CommandBuffer.works_act _ _ with }
      have hworks := h.worksOn_broadcast (·.issueBound bound commands) hissue
      exact hworks.trans (hworks.atHome.worksOn_of_eq rfl rfl rfl rfl rfl rfl rfl)
  | synchronize device =>
      rw [ChainData.move]
      rcases data.deviceSynchronize_cases (device.or data.cmd.queue.device) with same | same
      all_goals
        rw [same]
        exact h.worksOn_of_eq rfl rfl rfl rfl rfl rfl rfl

/-- Any moves of a child at home make their calls on the buffer of the child, and leave it at home
there. -/
theorem AtHome.worksOn_moves (h : data.AtHome parentId) (passes : PassId → RenderPass)
    (moves : List Move) : data.WorksOn (data.moves passes moves) parentId := by
  induction moves generalizing data with
  | nil => exact h.worksOn_of_eq rfl rfl rfl rfl rfl rfl rfl
  | cons move moves ih =>
      have hmove := h.worksOn_move passes move
      exact hmove.trans (ih hmove.atHome)

end ChainData

/-! ## The operations of a child at home -/

/-- An operation of a child leaves it at home, and its calls are on the buffer it leaves it on, of
which they begin the slots that it says. -/
structure Session.Stepped (s t : Session) (parentId : ChainId) (slots : List Nat) : Prop where
  atHome : t.data.AtHome parentId
  log : ∃ events, t.data.cmd.log = s.data.cmd.log ++ events ∧ begins events = slots ∧
    ∀ event ∈ events, event.slot = t.data.current

section

variable {env : Environment} {s t : Session} {parentId : ChainId}

/-- A child at home is a child: it has a parent, and visits one command buffer. -/
theorem ChainData.AtHome.isChild {data : ChainData} (h : data.AtHome parentId) : data.IsChild :=
  ⟨h.parent ▸ Option.some_ne_none _, Or.inl h.numCmd⟩

/-- An operation whose work is on the buffer of the child leaves it at home, and begins the slots
that it says. -/
theorem Session.Stepped.of_worksOn {data : ChainData} {op : MemberOp}
    (h : s.data.AtHome parentId) (hstep : op.toOp.step env s = .ok t)
    (hworks : data.WorksOn t.data parentId) (hlog : data.cmd.log = s.data.cmd.log) :
    s.Stepped t parentId (op.begunSlots s.data) := by
  obtain ⟨⟨events, hevents, hbegins⟩, -⟩ := MemberOp.appends_step h.isChild hstep
  obtain ⟨events', hevents', hslot⟩ := hworks.log
  rw [hlog, hevents] at hevents'
  obtain rfl := List.append_cancel_left hevents'
  refine ⟨hworks.atHome, events, hevents, hbegins, ?_⟩
  rw [hworks.current]
  exact hslot

/-- The `begin` of a child at home that is not being recorded moves on to the next buffer, begins
it, and leaves it being recorded. -/
theorem ChainData.AtHome.stepped_begin (h : s.data.AtHome parentId)
    (hidle : s.data.cmd.recording = false) :
    s.Stepped s.begin parentId [s.begin.data.current] ∧ s.begin.data.cmd.recording = true := by
  let moved : ChainData :=
    { s.data with cmd := s.data.cmd.advance, current := s.data.cmd.advance.current }
  have hbegin : s.begin.data = moved.record s.world.passes s.data.pass.isSome := by
    rw [Session.begin, h.parent]
    rfl
  have hpos : 0 < s.data.cmd.size := Nat.lt_of_le_of_lt (Nat.zero_le _) h.current
  have hmoved : moved.AtHome parentId := ⟨h.parent, h.level, h.numCmd, ringNext_lt _ hpos, rfl⟩
  have hworks : moved.WorksOn s.begin.data parentId := by
    rw [hbegin]
    exact hmoved.worksOn_record s.world.passes s.data.pass.isSome
  have hslots : MemberOp.begin.begunSlots s.data = [s.begin.data.current] := by
    rw [MemberOp.begunSlots, hidle, h.numCmd, hworks.current]
    rfl
  have hstep : MemberOp.begin.toOp.step .inert s = .ok s.begin := rfl
  have hstepped := Session.Stepped.of_worksOn h hstep hworks rfl
  refine ⟨hslots ▸ hstepped, ?_⟩
  rw [hbegin]
  have horphan : moved.parent ≠ none := hmoved.isChild.parent
  exact ChainData.recording_record (Or.inl hmoved.numCmd) (fun hnone => absurd hnone horphan) _

/-- A recording operation of a child that is being recorded begins nothing, and leaves it being
recorded on the same buffer. -/
theorem ChainData.AtHome.stepped_record (h : s.data.AtHome parentId)
    (hrec : s.data.cmd.recording = true) {op : RecordingOp} (hstep : op.step env s = .ok t) :
    s.Stepped t parentId [] ∧ t.data.cmd.recording = true ∧ t.data.current = s.data.current := by
  have hsame : (MemberOp.record op).toOp.step env s = .ok t := hstep
  obtain ⟨recipe, -, rfl⟩ := op.exists_recipe hstep
  have hworks := h.worksOn_moves s.world.passes recipe.1
  have hstepped := Session.Stepped.of_worksOn h hsame hworks rfl
  rw [MemberOp.begunSlots, if_pos hrec] at hstepped
  exact ⟨hstepped, ChainData.recording_moves_of_recording hrec recipe.1, hworks.current⟩

/-- The `end` of a child that is being recorded begins nothing, and leaves it on the same buffer, no
longer being recorded. -/
theorem ChainData.AtHome.stepped_stop (h : s.data.AtHome parentId)
    (hrec : s.data.cmd.recording = true) :
    s.Stepped s.stop parentId [] ∧ s.stop.data.cmd.recording = false ∧
      s.stop.data.current = s.data.current := by
  have hworks : s.data.WorksOn s.stop.data parentId := h.worksOn_stop
  have hstep : MemberOp.stop.toOp.step .inert s = .ok s.stop := rfl
  have hstepped := Session.Stepped.of_worksOn h hstep hworks rfl
  rw [MemberOp.begunSlots, if_pos hrec] at hstepped
  refine ⟨hstepped, ?_, hworks.current⟩
  show s.data.stop.cmd.recording = false
  rw [ChainData.stop, if_pos hrec]
  show (s.data.cmd.forEach s.data.numCmd CommandBuffer.stop).recording = false
  rw [CommandBuffer.forEach_recording CommandBuffer.performs_stop, h.numCmd, Function.iterate_one]

end

/-! ## What no operation changes -/

namespace ChainData

/-- Moves leave the render pass of a chain alone. -/
theorem pass_moves (data : ChainData) (passes : PassId → RenderPass) (moves : List Move) :
    (data.moves passes moves).pass = data.pass := by
  induction moves generalizing data with
  | nil => rfl
  | cons move moves ih =>
      refine (ih (data.move passes move)).trans ?_
      cases move with
      | synchronize device =>
          rw [ChainData.move]
          rcases data.deviceSynchronize_cases (device.or data.cmd.queue.device) with same | same
          all_goals
            rw [same]
      | record | each | storeImageBarrier | storeBufferBarrier | markRecord => rfl

/-- To end a chain leaves its render pass alone. -/
theorem pass_stop (data : ChainData) : data.stop.pass = data.pass := by
  unfold ChainData.stop
  split <;> rfl

end ChainData

/-- An operation leaves the name and the render pass of its chain. -/
theorem Op.frame_step {env : Environment} {s t : Session} {op : Op}
    (hstep : op.step env s = .ok t) :
    t.self = s.self ∧ t.data.pass = s.data.pass := by
  cases op with
  | begin =>
      cases hstep
      unfold Session.begin
      split <;> exact ⟨rfl, rfl⟩
  | advance =>
      cases hstep
      exact ⟨rfl, rfl⟩
  | setMode mode =>
      cases hstep
      cases mode <;> exact ⟨rfl, rfl⟩
  | stop =>
      cases hstep
      exact ⟨rfl, s.data.pass_stop⟩
  | submit =>
      cases hstep
      by_cases hready : s.data.stop.parent = none ∧ s.data.stop.hasRecord = true ∧
          s.data.stop.dirty = true
      · rw [Session.submit_of_ready env hready]
        exact ⟨rfl, s.data.pass_stop⟩
      · rw [Session.submit_of_not_ready env hready]
        exact ⟨rfl, s.data.pass_stop⟩
  | synchronize =>
      cases hstep
      unfold Session.synchronize
      split <;> exact ⟨rfl, rfl⟩
  | recording op =>
      obtain ⟨recipe, -, rfl⟩ := op.exists_recipe hstep
      exact ⟨rfl, s.data.pass_moves s.world.passes recipe.1⟩
  | combine childId child =>
      rcases Session.combine_ok hstep with ⟨-, -, -, pass, -, rfl⟩ | rfl
      · dsimp only
        split <;> exact ⟨rfl, rfl⟩
      · exact ⟨rfl, rfl⟩

/-! ## The latest round -/

/-- A child has begun `count` buffers, the last one in slot `slot`, on which all its calls since
then are. -/
structure LatestRound (events : List Event) (count slot : Nat) : Prop where
  length : (begins events).length = count
  latest : count ≠ 0 → ∃ before begun after, events = before ++ begun :: after ∧
    begun.call.isBegin = true ∧ begins after = [] ∧ ∀ event ∈ begun :: after, event.slot = slot

variable {events events' : List Event} {count slot slot' : Nat}

/-- Calls on the same slot that begin nothing belong to the latest round, and make none. -/
theorem LatestRound.append_quiet (h : LatestRound events count slot) (hbegins : begins events' = [])
    (hslot : ∀ event ∈ events', event.slot = slot) :
    LatestRound (events ++ events') count slot := by
  refine ⟨?_, fun hcount => ?_⟩
  · rw [begins_append, hbegins, List.append_nil]
    exact h.length
  · obtain ⟨before, begun, after, rfl, hbegun, hafter, hevents⟩ := h.latest hcount
    refine ⟨before, begun, after ++ events', ?_, hbegun, ?_, ?_⟩
    · rw [List.append_assoc, List.cons_append]
    · rw [begins_append, hafter, hbegins]
      rfl
    · rw [← List.cons_append]
      exact List.forall_mem_append.mpr ⟨hevents, hslot⟩

/-- Calls that begin one slot, all of them on this slot, make one round more, and it is the
latest. -/
theorem LatestRound.append_begin (h : LatestRound events count slot)
    (hbegins : begins events' = [slot']) (hslot : ∀ event ∈ events', event.slot = slot') :
    LatestRound (events ++ events') (count + 1) slot' := by
  refine ⟨?_, fun _ => ?_⟩
  · rw [begins_append, hbegins, List.length_append, h.length]
    rfl
  · obtain ⟨begun, hfilter, -⟩ := List.map_eq_singleton_iff.mp hbegins
    obtain ⟨before, after, rfl, -, hbegun, hafter⟩ := List.filter_eq_cons_iff.mp hfilter
    refine ⟨events ++ before, begun, after, by rw [List.append_assoc], hbegun, ?_, ?_⟩
    · rw [begins, hafter]
      rfl
    · exact (List.forall_mem_append.mp hslot).2

/-! ## Rounds in a family -/

/-- What a child does on its own in a step of the family, if the step is one of this child. -/
def FamilyOp.ofChild (id : ChainId) : FamilyOp → Option MemberOp
  | .child other op => if other = id then some op else none
  | .parent _ | .submit | .synchronize | .combine _ | .complete _ => none

/-- A step in which a child does something on its own is this operation of the child. -/
theorem FamilyOp.eq_child_of_ofChild {id : ChainId} {op : FamilyOp} {own : MemberOp}
    (h : op.ofChild id = some own) : op = .child id own := by
  cases op with
  | child other op =>
      by_cases hother : other = id
      · simp only [FamilyOp.ofChild, hother, if_true, Option.some.injEq] at h
        rw [hother, h]
      · simp [FamilyOp.ofChild, hother] at h
  | parent | submit | synchronize | combine | complete => cases h

/-- The operations that a child does on its own in a run of the family, in order. -/
def childOps (id : ChainId) (ops : List FamilyOp) : List MemberOp :=
  ops.filterMap (FamilyOp.ofChild id)

/-- The calls of a child in the trace of the family, in order. -/
def childCalls (id : ChainId) (trace : List TraceItem) : List Event :=
  trace.filterMap fun item =>
    match item with
    | .child other event => if other = id then some event else none
    | .parent _ | .synchronized => none

@[simp] theorem childCalls_append (id : ChainId) (xs ys : List TraceItem) :
    childCalls id (xs ++ ys) = childCalls id xs ++ childCalls id ys := List.filterMap_append

@[simp] theorem childCalls_parent (id : ChainId) (events : List Event) :
    childCalls id (events.map .parent) = [] := by
  simp [childCalls, List.filterMap_map]

/-- The calls of one child are all calls of this child, and none for any other one. -/
theorem childCalls_child (id other : ChainId) (events : List Event) :
    childCalls id (events.map (.child other)) = if other = id then events else [] := by
  by_cases h : other = id <;> simp [childCalls, List.filterMap_map, h]

/-- A round: `begin`, some recording operations, and `end`. -/
def roundOps (round : List RecordingOp) : List MemberOp := .begin :: round.map .record ++ [.stop]

/-- Operations of a child that is being recorded, or not: they finish its round and make `count`
more. -/
def AsRounds : Bool → Nat → List MemberOp → Prop
  | false, 0, [] => True
  | false, count + 1, .begin :: ops => AsRounds true count ops
  | true, count, .record _ :: ops => AsRounds true count ops
  | true, count, .stop :: ops => AsRounds false count ops
  | _, _, _ => False

/-- The rest of a round, its `end` and the rounds after it finish the round and make those. -/
theorem asRounds_record {count : Nat} {ops : List MemberOp} (h : AsRounds false count ops)
    (round : List RecordingOp) : AsRounds true count (round.map .record ++ .stop :: ops) := by
  induction round with
  | nil => exact h
  | cons op round ih => exact ih

/-- Rounds, one after the other, are as many rounds as there are, for a child that is not being
recorded. -/
theorem asRounds_flatMap (rounds : List (List RecordingOp)) :
    AsRounds false rounds.length (rounds.flatMap roundOps) := by
  induction rounds with
  | nil => trivial
  | cons round rounds ih =>
      have h := asRounds_record ih round
      simpa [roundOps, AsRounds] using h

namespace Family

/-- **In rounds.** The child is at home, is being recorded or not, and has begun `count` rounds, the
latest of them on the buffer under its cursor. -/
structure InRounds (f : Family) (id : ChainId) (recording : Bool) (count : Nat) : Prop where
  atHome : (f.children id).AtHome f.parent.self
  recording : (f.children id).cmd.recording = recording
  latest : LatestRound (childCalls id f.trace) count (f.children id).current

variable {env : Environment} {f g : Family} {id : ChainId} {recording : Bool} {count : Nat}

/-- A step that leaves a child, its parent and its calls in the trace alone leaves its rounds. -/
theorem InRounds.congr (h : f.InRounds id recording count)
    (hchild : g.children id = f.children id) (hself : g.parent.self = f.parent.self)
    (hcalls : childCalls id g.trace = childCalls id f.trace) : g.InRounds id recording count :=
  ⟨by rw [hchild, hself]; exact h.atHome, by rw [hchild]; exact h.recording,
    by rw [hchild, hcalls]; exact h.latest⟩

/-- A wait of the host, which completes the submissions of the parent, leaves the rounds of a
child. -/
theorem InRounds.synchronized (h : f.InRounds id recording count) :
    f.synchronized.InRounds id recording count := by
  refine h.congr rfl rfl ?_
  rw [Family.synchronized, childCalls_append]
  exact List.append_nil _

/-- A wait for a device, be it that of the parent or not, leaves the rounds of a child. -/
theorem InRounds.waitFor (h : f.InRounds id recording count) (device : Option Nat) :
    (f.waitFor device).InRounds id recording count := by
  rcases f.waitFor_cases device with same | same
  · rw [same]
    exact h
  · rw [same]
    exact h.synchronized

/-- An operation of the parent, which makes no call of a child, leaves the rounds of every child. -/
theorem InRounds.parentStep {op : Op} (h : f.InRounds id recording count)
    (hstep : f.parentStep env op = .ok g) : g.InRounds id recording count := by
  obtain ⟨t, hparent, rfl⟩ := Family.exists_of_parentStep hstep
  exact h.congr rfl (Op.frame_step hparent).1 (by simp)

/-- An operation of another child leaves the rounds of this one. -/
theorem InRounds.otherStep {other : ChainId} {op : Op} (h : f.InRounds id recording count)
    (hother : other ≠ id) (hstep : f.childStep env other op = .ok g) :
    g.InRounds id recording count := by
  obtain ⟨t, hchild, rfl⟩ := Family.exists_of_childStep hstep
  refine h.congr (Function.update_of_ne hother.symm _ _) rfl ?_
  rw [childCalls_append, childCalls_child, if_neg hother, List.append_nil]

/-- **A step that the child does not make** leaves its rounds as they were. -/
theorem InRounds.other_step {op : FamilyOp} (h : f.InRounds id recording count)
    (hop : op.ofChild id = none) (hstep : op.step env f = .ok g) :
    g.InRounds id recording count := by
  cases op with
  | parent op =>
      obtain ⟨g', hparent, rfl⟩ := exists_of_map_eq_ok hstep
      exact (h.parentStep hparent).waitFor _
  | submit | combine => exact h.parentStep hstep
  | synchronize =>
      cases hstep
      split
      · exact h.synchronized
      · exact h
  | child other op =>
      have hother : other ≠ id := by simpa [FamilyOp.ofChild] using hop
      obtain ⟨g', hchild, rfl⟩ := exists_of_map_eq_ok hstep
      exact (h.otherStep hother hchild).waitFor _
  | complete slot =>
      cases hstep
      exact h.congr rfl rfl rfl

/-- An operation of the child, by what it does to the child at home. -/
theorem inRounds_of_stepped {op : MemberOp} {recording' : Bool} {count' : Nat}
    (hstep : FamilyOp.step env f (.child id op) = .ok g)
    (hstepped : ∀ t, op.toOp.step env (f.member id) = .ok t →
      ∃ slots, (f.member id).Stepped t f.parent.self slots ∧ t.data.cmd.recording = recording' ∧
        ∀ events, begins events = slots → (∀ event ∈ events, event.slot = t.data.current) →
          LatestRound (childCalls id f.trace ++ events) count' t.data.current) :
    g.InRounds id recording' count' := by
  obtain ⟨f', hown, rfl⟩ := exists_of_map_eq_ok hstep
  obtain ⟨t, hchild, rfl⟩ := Family.exists_of_childStep hown
  obtain ⟨slots, ⟨hhome, events, hlog, hbegins, hslot⟩, hrec, hlatest⟩ := hstepped t hchild
  have hnew : newEvents (f.member id) t = events := newEvents_of_log_eq hlog
  refine InRounds.waitFor ⟨?_, ?_, ?_⟩ _
  · simpa using hhome
  · simpa using hrec
  · simp only [hnew, childCalls_append, childCalls_child, if_true, Function.update_self]
    exact hlatest events hbegins hslot

/-- **A step of the child** leaves it in rounds: it goes on with its round, ends it, or begins the
next one. -/
theorem InRounds.child_step {op : MemberOp} {ops : List MemberOp} {left : Nat}
    (h : f.InRounds id recording count) (hops : AsRounds recording left (op :: ops))
    (hstep : FamilyOp.step env f (.child id op) = .ok g) :
    ∃ recording' count' left', g.InRounds id recording' count' ∧
      AsRounds recording' left' ops ∧ count' + left' = count + left := by
  have hhome : (f.member id).data.AtHome f.parent.self := h.atHome
  have hrec : (f.member id).data.cmd.recording = recording := h.recording
  cases recording with
  | false =>
      cases op with
      | begin =>
          cases left with
          | zero => exact hops.elim
          | succ left =>
              refine ⟨true, count + 1, left, inRounds_of_stepped hstep fun t ht => ?_, hops, ?_⟩
              · cases ht
                obtain ⟨hstepped, hbegun⟩ := hhome.stepped_begin hrec
                exact ⟨_, hstepped, hbegun, fun events => h.latest.append_begin⟩
              · omega
      | record | stop | setMode | advance => cases left <;> exact hops.elim
  | true =>
      cases op with
      | record op =>
          refine ⟨true, count, left, inRounds_of_stepped hstep fun t ht => ?_, hops, rfl⟩
          obtain ⟨hstepped, hstill, hcurrent⟩ := hhome.stepped_record hrec ht
          refine ⟨_, hstepped, hstill, fun events hbegins hslot => ?_⟩
          rw [hcurrent] at hslot ⊢
          exact h.latest.append_quiet hbegins hslot
      | stop =>
          refine ⟨false, count, left, inRounds_of_stepped hstep fun t ht => ?_, hops, rfl⟩
          cases ht
          obtain ⟨hstepped, hended, hcurrent⟩ := hhome.stepped_stop hrec
          refine ⟨_, hstepped, hended, fun events hbegins hslot => ?_⟩
          rw [hcurrent] at hslot ⊢
          exact h.latest.append_quiet hbegins hslot
      | begin | setMode | advance => exact hops.elim

/-- **Any run** in which the child records rounds leaves it with as many rounds more, and not being
recorded. -/
theorem InRounds.run {ops : List FamilyOp} {left : Nat} (h : f.InRounds id recording count)
    (hops : AsRounds recording left (childOps id ops))
    (hrun : runSteps (FamilyOp.step env) f ops = .ok g) : g.InRounds id false (count + left) := by
  induction ops generalizing f recording count left with
  | nil =>
      rw [runSteps_nil, Except.ok.injEq] at hrun
      subst hrun
      cases recording <;> cases left <;> first | exact hops.elim | exact h
  | cons op ops ih =>
      obtain ⟨f', hstep, hrest⟩ := runSteps_cons_ok_iff.mp hrun
      cases hop : op.ofChild id with
      | none =>
          rw [childOps, List.filterMap_cons_none hop] at hops
          exact ih (h.other_step hop hstep) hops hrest
      | some own =>
          rw [childOps, List.filterMap_cons_some hop] at hops
          obtain rfl := FamilyOp.eq_child_of_ofChild hop
          obtain ⟨recording', count', left', hnext, hops', hsum⟩ := h.child_step hops hstep
          rw [← hsum]
          exact ih hnext hops' hrest

/-- A new child, before any step of the family, has recorded no round. -/
theorem inRounds_start {parent : Session} (subpass : ChainId → Nat) (id : ChainId)
    (h : 0 < parent.data.cmd.size) : (start parent subpass).InRounds id false 0 :=
  ⟨⟨rfl, rfl, rfl, h, rfl⟩, rfl, rfl, fun hcount => absurd rfl hcount⟩

end Family

end Nyx
