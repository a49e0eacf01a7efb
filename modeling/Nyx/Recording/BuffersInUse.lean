import Nyx.Recording.ChainFamilies

/-! # Buffers in use

A submission of the parent is outstanding until the host has waited on its fence or synchronised,
and while it is, no buffer of a child that it executes may be recorded again. The parent waits for
its own buffers when it begins them. A child does not wait for its buffers.

* **`outstanding`**, **`held`** — the submissions that were not waited for, and those whose buffer
  the parent has not begun again.
* **`NoRerecording`** — the property of a trace.
* **`Family.Tracked`** — the invariant: the two are the same submissions.
* **`no_rerecording_iff`** — no child begins a buffer in use exactly when every child begins buffers
  that no held submission executes. -/

namespace Nyx

open Foundations

/-! ## Submissions -/

/-- A submission of the buffer `slot` of the parent, and the buffers of children it executes. -/
structure Submission where
  slot : Nat
  executed : List (ChainId × Nat)
  deriving DecidableEq, Repr

/-- The buffers of children that some commands execute. -/
def executed (commands : List Command) : List (ChainId × Nat) :=
  commands.filterMap fun command =>
    match command with
    | .executeCommands child slot => some (child, slot)
    | _ => none

/-- The submissions in flight after an item of the trace, when a call for which `frees` holds frees
the submissions of its slot. -/
def flightAfter (frees : Call → Bool) (flight : List Submission) : TraceItem → List Submission
  | .parent event =>
      if frees event.call then flight.filter (·.slot ≠ event.slot)
      else if event.call = .submit then
        flight ++ [⟨event.slot, executed event.before.commands⟩]
      else flight
  | .child _ _ => flight
  | .synchronized => []

/-- The submissions of the parent whose fence the host has not waited on. -/
def outstanding (trace : List TraceItem) : List Submission :=
  trace.foldl (flightAfter Call.isWait) []

/-- The submissions of the parent whose buffer it has not begun again. -/
def held (trace : List TraceItem) : List Submission :=
  trace.foldl (flightAfter Call.isBegin) []

/-- An item of the trace is not the begin of a child's buffer that a submission in flight
executes. -/
def TraceItem.Clear (flight : List Submission) : TraceItem → Prop
  | .child id event =>
      event.call.isBegin = true → ∀ submission ∈ flight, (id, event.slot) ∉ submission.executed
  | .parent _ | .synchronized => True

instance (flight : List Submission) : DecidablePred (TraceItem.Clear flight)
  | .child _ _ => inferInstanceAs (Decidable (_ → _))
  | .parent _ | .synchronized => isTrue trivial

/-- **No re-recording.** From some outstanding submissions on, no child begins a buffer that an
outstanding submission executes. -/
def NoRerecording : List Submission → List TraceItem → Prop
  | _, [] => True
  | flight, item :: items =>
      item.Clear flight ∧ NoRerecording (flightAfter Call.isWait flight item) items

instance decidableNoRerecording :
    (flight : List Submission) → (items : List TraceItem) → Decidable (NoRerecording flight items)
  | _, [] => isTrue trivial
  | flight, item :: items =>
      haveI := decidableNoRerecording (flightAfter Call.isWait flight item) items
      inferInstanceAs (Decidable (_ ∧ _))

/-- The condition on a step: a child begins only buffers that no held submission executes. -/
def FamilyOp.Reclaims (f : Family) : FamilyOp → Prop
  | .child id op => ∀ slot ∈ op.begunSlots (f.children id), ∀ submission ∈ held f.trace,
      (id, slot) ∉ submission.executed
  | .parent _ | .submit | .synchronize | .combine _ | .complete _ => True

/-! ## Traces -/

/-- A trace with more behind it re-records nothing in flight exactly when its parts do not, the
second one with what the first left in flight. -/
theorem noRerecording_append (flight : List Submission) (xs ys : List TraceItem) :
    NoRerecording flight (xs ++ ys) ↔
      NoRerecording flight xs ∧ NoRerecording (xs.foldl (flightAfter Call.isWait) flight) ys := by
  induction xs generalizing flight with
  | nil => exact (and_iff_right trivial).symm
  | cons item xs ih => simp only [List.cons_append, NoRerecording, ih, and_assoc, List.foldl_cons]

/-- Calls of the parent alone re-record no buffer of a child. -/
theorem noRerecording_parent (flight : List Submission) (events : List Event) :
    NoRerecording flight (events.map .parent) := by
  induction events generalizing flight with
  | nil => trivial
  | cons event events ih => exact ⟨trivial, ih _⟩

/-- Calls of a child re-record nothing in use when they begin no slot in use. -/
theorem noRerecording_child (flight : List Submission) (id : ChainId) (events : List Event) :
    NoRerecording flight (events.map (.child id)) ↔
      ∀ slot ∈ begins events, ∀ submission ∈ flight, (id, slot) ∉ submission.executed := by
  induction events with
  | nil => simp [NoRerecording, begins]
  | cons event events ih =>
      have hbegins : begins (event :: events) =
          (if event.call.isBegin then [event.slot] else []) ++ begins events := by
        cases hbegin : event.call.isBegin <;> simp [begins, hbegin]
      rw [List.map_cons, NoRerecording, hbegins]
      cases hbegin : event.call.isBegin <;> simp [TraceItem.Clear, flightAfter, hbegin, ih]

/-- Calls of a child leave the submissions of the parent in flight. -/
theorem foldl_flightAfter_child (frees : Call → Bool) (flight : List Submission) (id : ChainId)
    (events : List Event) :
    (events.map (.child id)).foldl (flightAfter frees) flight = flight := by
  induction events with
  | nil => rfl
  | cons event events ih => exact ih

/-! ## Calls of the parent -/

variable {frees : Call → Bool} {flight : List Submission} {i : Nat}

/-- The submissions in flight after calls of the parent. -/
def flightCalls (frees : Call → Bool) (flight : List Submission) (events : List Event) :
    List Submission :=
  (events.map .parent).foldl (flightAfter frees) flight

/-- Calls that free nothing and submit nothing leave the submissions in flight. -/
theorem flightCalls_quiet (vk : VkSlot) {calls : List Call}
    (hcalls : ∀ call ∈ calls, frees call = false ∧ call ≠ .submit) :
    flightCalls frees flight (callEvents i vk calls) = flight := by
  induction calls generalizing vk with
  | nil => rfl
  | cons call calls ih =>
      obtain ⟨⟨hfrees, hsubmit⟩, hrest⟩ := List.forall_mem_cons.mp hcalls
      have hhead : flightAfter frees flight (.parent ⟨call, i, vk⟩) = flight := by
        simp [flightAfter, hfrees, hsubmit]
      show flightCalls frees (flightAfter frees flight (.parent ⟨call, i, vk⟩)) _ = flight
      rw [hhead]
      exact ih _ hrest

/-- Beginning a slot frees the submissions of that slot for the parent, and waits for them when the
slot is marked. -/
theorem flightCalls_begin (info : BeginInfo) (opening : List Command) (started : Bool)
    (slot : Slot) :
    flightCalls Call.isBegin flight ((SlotAction.begin info opening started).events i slot) =
        flight.filter (·.slot ≠ i) ∧
      flightCalls Call.isWait flight ((SlotAction.begin info opening started).events i slot) =
        if slot.isSignaled then flight.filter (·.slot ≠ i) else flight := by
  have hcommands : ∀ frees : Call → Bool, (∀ command, frees (.command command) = false) →
      ∀ (flight : List Submission) (vk : VkSlot),
        flightCalls frees flight (callEvents i vk (opening.map .command)) = flight := by
    intro frees hfrees flight vk
    refine flightCalls_quiet vk fun call hcall => ?_
    obtain ⟨command, -, rfl⟩ := List.mem_map.mp hcall
    exact ⟨hfrees command, Call.noConfusion⟩
  have hbegin := hcommands Call.isBegin fun _ => rfl
  have hwait := hcommands Call.isWait fun _ => rfl
  unfold flightCalls at hbegin hwait ⊢
  cases hsignaled : slot.isSignaled <;>
    simp [SlotAction.events, SlotAction.begin, hsignaled, callEvents, flightAfter, Call.isBegin,
      Call.isWait, hbegin, hwait]

/-- Submitting a slot adds a submission of what it executes to those in flight. -/
theorem flightCalls_submit (hfrees : frees .submit = false) (slot : Slot) :
    flightCalls frees flight (SlotAction.submit.events i slot) =
      flight ++ [⟨i, executed slot.vk.commands⟩] := by
  simp [flightCalls, SlotAction.events, SlotAction.submit, callEvents, flightAfter, hfrees]

/-- An action that neither submits nor waits leaves the submissions in flight. -/
theorem SlotAction.Quiet.flightCalls {action : SlotAction} (h : action.Quiet)
    (hcommand : ∀ command, frees (.command command) = false) (hend : frees .endBuffer = false)
    (slot : Slot) : flightCalls frees flight (action.events i slot) = flight := by
  refine flightCalls_quiet slot.vk fun call hcall => ?_
  rcases h.calls slot call hcall with ⟨command, rfl⟩ | rfl
  · exact ⟨hcommand command, Call.noConfusion⟩
  · exact ⟨hend, Call.noConfusion⟩

/-! ## The invariant -/

/-- The submissions that the parent holds are the outstanding ones, and the parent will wait for
each of them when it begins its buffer. -/
structure HoldsOutstanding (slots : Nat → Slot) (trace : List TraceItem) : Prop where
  agree : outstanding trace = held trace
  marked : ∀ submission ∈ held trace, (slots submission.slot).isSignaled = true

/-- More calls of the parent change what is outstanding by its waits, and what is held by its
begins. -/
theorem outstanding_append_parent (trace : List TraceItem) (events : List Event) :
    outstanding (trace ++ events.map .parent) =
        flightCalls Call.isWait (outstanding trace) events ∧
      held (trace ++ events.map .parent) = flightCalls Call.isBegin (held trace) events :=
  ⟨List.foldl_append, List.foldl_append⟩

variable {slots : Nat → Slot} {trace : List TraceItem} {ring ring' : RingState}

/-- An action of the parent on one of its slots keeps what is held and what is outstanding in
agreement. -/
theorem HoldsOutstanding.act (h : HoldsOutstanding slots trace) {action : SlotAction}
    (hagree : flightCalls Call.isWait (held trace) (action.events i (slots i)) =
      flightCalls Call.isBegin (held trace) (action.events i (slots i)))
    (hmarked : ∀ submission ∈ flightCalls Call.isBegin (held trace) (action.events i (slots i)),
      (Function.update slots i (action.apply (slots i)) submission.slot).isSignaled = true) :
    HoldsOutstanding (Function.update slots i (action.apply (slots i)))
      (trace ++ (action.events i (slots i)).map .parent) := by
  obtain ⟨hout, hheld⟩ := outstanding_append_parent trace (action.events i (slots i))
  refine ⟨?_, ?_⟩
  · rw [hout, hheld, h.agree, hagree]
  · rw [hheld]
    exact hmarked

/-- **One step of the parent** keeps what is held and what is outstanding in agreement. -/
theorem HoldsOutstanding.step (h : HoldsOutstanding ring.1 trace) (hstep : SlotStep ring ring') :
    ∃ events, ring'.2 = ring.2 ++ events ∧
      HoldsOutstanding ring'.1 (trace ++ events.map .parent) := by
  cases hstep with
  | begin i info opening started =>
      obtain ⟨hbegin, hwait⟩ := @flightCalls_begin (held trace) i info opening started (ring.1 i)
      refine ⟨_, rfl, h.act ?_ ?_⟩
      · rw [hbegin, hwait]
        split
        · rfl
        · next hclear =>
          -- a slot that is not marked has no submission in flight
          refine (List.filter_eq_self.mpr fun submission hmem => ?_).symm
          refine decide_eq_true fun heq => hclear ?_
          exact heq ▸ h.marked submission hmem
      · rw [hbegin]
        intro submission hmem
        obtain ⟨hmem, hne⟩ := List.mem_filter.mp hmem
        rw [Function.update_of_ne (of_decide_eq_true hne)]
        exact h.marked submission hmem
  | quiet i hquiet =>
      refine ⟨_, rfl, h.act ?_ ?_⟩
      · rw [hquiet.flightCalls (fun _ => rfl) rfl, hquiet.flightCalls (fun _ => rfl) rfl]
      · rw [hquiet.flightCalls (fun _ => rfl) rfl]
        intro submission hmem
        by_cases hslot : submission.slot = i
        · subst hslot
          rw [Function.update_self]
          exact (hquiet.isSignaled _).trans (h.marked submission hmem)
        · rw [Function.update_of_ne hslot]
          exact h.marked submission hmem
  | submit i =>
      refine ⟨_, rfl, h.act ?_ ?_⟩
      · rw [flightCalls_submit rfl, flightCalls_submit rfl]
      · rw [flightCalls_submit rfl]
        intro submission hmem
        by_cases hslot : submission.slot = i
        · rw [hslot, Function.update_self]
          rfl
        · rw [Function.update_of_ne hslot]
          rcases List.mem_append.mp hmem with hold | hnew
          · exact h.marked submission hold
          · rw [List.mem_singleton] at hnew
            exact absurd (congrArg Submission.slot hnew) hslot
  | complete done =>
      refine ⟨[], (List.append_nil _).symm, ?_⟩
      rw [List.map_nil, List.append_nil]
      refine ⟨h.agree, fun submission hmem => ?_⟩
      have hsame : ((ring.complete done).1 submission.slot).isSignaled =
          (ring.1 submission.slot).isSignaled := by
        simp only [RingState.complete]
        split <;> rfl
      exact hsame.trans (h.marked submission hmem)

/-- Any steps of the parent keep what is held and what is outstanding in agreement. -/
theorem HoldsOutstanding.steps (h : HoldsOutstanding ring.1 trace) (hsteps : SlotSteps ring ring') :
    ∃ events, ring'.2 = ring.2 ++ events ∧
      HoldsOutstanding ring'.1 (trace ++ events.map .parent) := by
  refine hsteps.preserves (fun ring' => ∃ events, ring'.2 = ring.2 ++ events ∧
    HoldsOutstanding ring'.1 (trace ++ events.map .parent)) ?_ ?_
  · rintro ring₁ ring₂ hstep ⟨events, hlog, hholds⟩
    obtain ⟨events', hlog', hholds'⟩ := hholds.step hstep
    refine ⟨events ++ events', by rw [hlog', hlog, List.append_assoc], ?_⟩
    rw [List.map_append, ← List.append_assoc]
    exact hholds'
  · exact ⟨[], (List.append_nil _).symm, by rw [List.map_nil, List.append_nil]; exact h⟩

namespace Family

/-- **Tracked.** A family whose parent is on its ring and whose children are children, and whose
parent holds the outstanding submissions. -/
structure Tracked (f : Family) : Prop where
  ring : f.parent.data.OnRing
  children : ∀ id, (f.children id).IsChild
  holds : HoldsOutstanding f.parent.data.cmd.slots f.trace

variable {env : Environment} {f g : Family}

/-- A wait for everything keeps the family tracked, and re-records nothing. -/
theorem Tracked.synchronized (h : f.Tracked) :
    f.synchronized.Tracked ∧
      (NoRerecording [] f.synchronized.trace ↔ NoRerecording [] f.trace) := by
  refine ⟨⟨h.ring.congr rfl h.ring.cursor rfl h.ring.current rfl, h.children, ?_⟩, ?_⟩
  · have hnone : outstanding (f.trace ++ [.synchronized]) = [] ∧
        held (f.trace ++ [.synchronized]) = [] := by
      simp [outstanding, held, flightAfter]
    refine ⟨hnone.1.trans hnone.2.symm, fun submission hmem => ?_⟩
    rw [Family.synchronized, hnone.2] at hmem
    exact absurd hmem List.not_mem_nil
  · show NoRerecording [] (f.trace ++ [.synchronized]) ↔ _
    rw [noRerecording_append]
    exact and_iff_left ⟨trivial, trivial⟩

/-- A wait for a device keeps the family tracked, and re-records nothing. -/
theorem Tracked.waitFor (h : f.Tracked) (device : Option Nat) :
    (f.waitFor device).Tracked ∧
      (NoRerecording [] (f.waitFor device).trace ↔ NoRerecording [] f.trace) := by
  rcases f.waitFor_cases device with same | same
  · rw [same]
    exact ⟨h, Iff.rfl⟩
  · rw [same]
    exact h.synchronized

/-- An operation of the parent keeps the family tracked, and re-records nothing. -/
theorem Tracked.parentStep {op : Op} (h : f.Tracked) (hstep : f.parentStep env op = .ok g) :
    g.Tracked ∧ (NoRerecording [] g.trace ↔ NoRerecording [] f.trace) := by
  obtain ⟨t, hparent, rfl⟩ := Family.exists_of_parentStep hstep
  obtain ⟨events, hlog, hholds⟩ := h.holds.steps (Op.slotSteps h.ring hparent)
  have hnew : newEvents f.parent t = events := newEvents_of_log_eq hlog
  dsimp only
  rw [hnew]
  refine ⟨⟨(Op.keeps_step h.ring hparent).ring, h.children, hholds⟩, ?_⟩
  rw [noRerecording_append]
  exact and_iff_left (noRerecording_parent _ events)

/-- An operation of a child re-records nothing exactly when it begins no buffer in use. -/
theorem Tracked.childStep {id : ChainId} {op : MemberOp} (h : f.Tracked)
    (hstep : f.childStep env id op.toOp = .ok g) :
    g.Tracked ∧ (NoRerecording [] g.trace ↔
      NoRerecording [] f.trace ∧ (FamilyOp.child id op).Reclaims f) := by
  obtain ⟨t, hchild, rfl⟩ := Family.exists_of_childStep hstep
  obtain ⟨⟨events, hlog, hbegins⟩, hstays⟩ := MemberOp.appends_step (h.children id) hchild
  have hnew : newEvents (f.member id) t = events := newEvents_of_log_eq hlog
  dsimp only
  rw [hnew]
  refine ⟨⟨h.ring, fun other => ?_, ?_, ?_⟩, ?_⟩
  · show (Function.update f.children id t.data other).IsChild
    by_cases hother : other = id
    · subst hother
      rw [Function.update_self]
      exact hstays
    · rw [Function.update_of_ne hother]
      exact h.children other
  · rw [outstanding, held, List.foldl_append, List.foldl_append, foldl_flightAfter_child,
      foldl_flightAfter_child]
    exact h.holds.agree
  · rw [held, List.foldl_append, foldl_flightAfter_child]
    exact h.holds.marked
  · show NoRerecording [] (f.trace ++ events.map (.child id)) ↔ _
    have hflight : f.trace.foldl (flightAfter Call.isWait) [] = held f.trace := h.holds.agree
    rw [noRerecording_append, noRerecording_child, hflight, hbegins]
    rfl

end Family

/-- **One step of a family** keeps it tracked, and re-records nothing in flight exactly when it
reclaims its buffers first. -/
theorem FamilyOp.tracked_step {env : Environment} {f g : Family} {op : FamilyOp} (h : f.Tracked)
    (hstep : op.step env f = .ok g) :
    g.Tracked ∧ (NoRerecording [] g.trace ↔ NoRerecording [] f.trace ∧ op.Reclaims f) := by
  cases op with
  | parent op =>
      obtain ⟨g', hparent, rfl⟩ := exists_of_map_eq_ok hstep
      obtain ⟨htracked, hsame⟩ := h.parentStep hparent
      obtain ⟨htracked', hsame'⟩ := htracked.waitFor (op.device f.parent.data)
      exact ⟨htracked', (hsame'.trans hsame).trans (and_iff_left trivial).symm⟩
  | submit =>
      obtain ⟨htracked, hsame⟩ := h.parentStep hstep
      exact ⟨htracked, hsame.trans (and_iff_left trivial).symm⟩
  | synchronize =>
      cases hstep
      have hwait := h.synchronized
      split
      · exact ⟨hwait.1, hwait.2.trans (and_iff_left trivial).symm⟩
      · exact ⟨h, (and_iff_left trivial).symm⟩
  | combine id =>
      obtain ⟨htracked, hsame⟩ := h.parentStep hstep
      exact ⟨htracked, hsame.trans (and_iff_left trivial).symm⟩
  | child id op =>
      obtain ⟨g', hchild, rfl⟩ := exists_of_map_eq_ok hstep
      obtain ⟨htracked, hclear⟩ := h.childStep hchild
      obtain ⟨htracked', hsame⟩ := htracked.waitFor (op.device (f.children id))
      exact ⟨htracked', hsame.trans hclear⟩
  | complete slot =>
      cases hstep
      refine ⟨⟨h.ring.congr rfl h.ring.cursor rfl h.ring.current rfl, h.children, h.holds.agree,
        fun submission hmem => ?_⟩, (and_iff_left trivial).symm⟩
      have hmarked := h.holds.marked submission hmem
      by_cases hslot : submission.slot = slot
      · subst hslot
        simpa [CommandBuffer.complete] using hmarked
      · simpa [CommandBuffer.complete, hslot] using hmarked

/-- A family whose parent was just initialised, with new children, is tracked. -/
theorem Family.tracked_start {env : Environment} {parent : Session} (subpass : ChainId → Nat)
    (h : parent.data.JustInitialized env parent.world.passes) : (start parent subpass).Tracked :=
  ⟨h.fresh.toOnRing, fun _ => ⟨Option.some_ne_none _, Or.inl rfl⟩, rfl,
    fun _ hmem => absurd hmem List.not_mem_nil⟩

/-- **No re-recording.** A parent is initialised on a render pass, and its children for subpasses of
it; the members record, end, are combined and submitted in any order, and the GPU completes
submissions whenever it does. No child begins a buffer that an outstanding submission executes,
exactly when each child begins only buffers that the parent does not hold. -/
theorem no_rerecording_iff (env : Environment) (parent : Session) (subpass : ChainId → Nat)
    (ops : List FamilyOp) (hinit : parent.data.JustInitialized env parent.world.passes)
    {f : Family} (hrun : runSteps (FamilyOp.step env) (.start parent subpass) ops = .ok f) :
    NoRerecording [] f.trace ↔
      StepsMeet (FamilyOp.step env) (fun f op => op.Reclaims f) (.start parent subpass) ops := by
  have hiff := runSteps_iff Family.Tracked (fun f => NoRerecording [] f.trace)
    (fun _ _ _ h hstep => FamilyOp.tracked_step h hstep) (Family.tracked_start subpass hinit) hrun
  exact hiff.trans (and_iff_right trivial)

/-- A frame in which the child records before the parent begins, and is then combined and
submitted. -/
def childFirst : List FamilyOp :=
  [.child 1 .begin, .child 1 .stop, .parent .begin, .combine 1, .submit]

/-- A frame in which the child records first re-records no buffer that is in use, and no step of it
reclaims one. -/
theorem no_rerecording_iff_childFirst :
    ∃ f, runSteps (FamilyOp.step .inert) (.start (.newWithSubpasses 1) fun _ => 0) childFirst =
        .ok f ∧
      (NoRerecording [] f.trace ↔ StepsMeet (FamilyOp.step .inert) (fun f op => op.Reclaims f)
        (.start (.newWithSubpasses 1) fun _ => 0) childFirst) :=
  ⟨_, rfl, no_rerecording_iff .inert (.newWithSubpasses 1) (fun _ => 0) childFirst
    (.pass 0 .graphics true) rfl⟩

/-- In the fifth frame the child begins the buffer of the first one, which the parent waits for only
after that. -/
theorem not_no_rerecording :
    ¬ ∀ (env : Environment) (parent : Session) (subpass : ChainId → Nat) (ops : List FamilyOp)
      (f : Family), parent.data.JustInitialized env parent.world.passes →
        parent.data.cmd.subpassFlags = .secondaryCommandBuffers →
          runSteps (FamilyOp.step env) (.start parent subpass) ops = .ok f →
            NoRerecording [] f.trace := by
  intro h
  have hcheck : (runSteps (FamilyOp.step .inert) (.start (.newWithSubpasses 1) fun _ => 0)
      (List.replicate 5 childFirst).flatten).map (fun f => decide (NoRerecording [] f.trace)) =
        .ok false := by decide +kernel
  obtain ⟨f, hrun, hbroken⟩ := exists_of_map_eq_ok hcheck
  exact of_decide_eq_false hbroken.symm (h .inert _ _ _ f (.pass 0 .graphics true) rfl hrun)

end Nyx
