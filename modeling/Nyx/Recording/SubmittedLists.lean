import Nyx.Recording.SequentialChains

/-! # What a sequential chain submits

A chain that is left in `Sequential` mode and never ended explicitly hands the queue what was issued
since the submit before, in order, each command once. The exception is a recording to which nothing
was appended: `begin` opens a render pass, the next submit closes it and drops the list, and so the
empty render pass never reaches the queue.

* **`Delivery.Exact`** — what a submission looks like.
* **`Tape.Exact`** — the invariant: every submission so far was exact, and the list on the tape is
  what was issued since, empty render passes apart.
* **`Session.submitted_lists`** — the submissions of every run. -/

namespace Nyx

open Foundations

/-! ## Exact deliveries -/

/-- Render passes that are opened and closed again with nothing in between. -/
inductive EmptyPasses : List Command → Prop
  | nil : EmptyPasses []
  | snoc {commands : List Command} (info : RenderPassBeginInfo) (contents : SubpassContents)
      (h : EmptyPasses commands) :
      EmptyPasses (commands ++ [.beginRenderPass info contents, .endRenderPass])

/-- The submission with index `k` used slot `k mod 4`, its buffer had been ended, and it held the
commands issued since the submission before, apart from leading empty render passes. -/
structure Delivery.Exact (k : Nat) (delivery : Delivery) : Prop where
  slot : delivery.slot = k % commandBufferCount
  ended : delivery.state = .executable
  commands : ∃ dropped, EmptyPasses dropped ∧ delivery.issued = dropped ++ delivery.commands

/-! ## The invariant -/

namespace Tape

/-- **Exact.** Every delivery so far was exact, and the list is what was issued since the last one,
apart from leading empty render passes. A list to which nothing was appended holds at most the
beginning of a render pass. -/
structure Exact (tape : Tape) : Prop where
  delivered : ∀ (k : Nat) (delivery : Delivery),
    tape.ledger.deliveries[k]? = some delivery → delivery.Exact k
  cursor : tape.cursor = tape.ledger.deliveries.length % commandBufferCount
  issued : ∃ dropped, EmptyPasses dropped ∧ tape.ledger.issued = dropped ++ tape.commands
  dirty : tape.dirty = true → tape.recording = true
  clean : tape.dirty = false → Opening tape.commands ∧ tape.inPass = !tape.commands.isEmpty
  idle : tape.recording = false → tape.commands = [] ∧ tape.inPass = false

variable {tape : Tape}

/-- To begin an exact list keeps it exact, whatever it opens. -/
theorem Exact.record (h : tape.Exact) {opening : List Command} (hopening : Opening opening) :
    (tape.record opening).Exact := by
  by_cases hrec : tape.recording = true
  · rw [Tape.record, if_pos hrec]
    exact h
  · have hidle : tape.recording = false := Bool.eq_false_iff.mpr hrec
    obtain ⟨dropped, hdropped, hissued⟩ := h.issued
    -- an idle list is empty, so what was issued before is made of empty render passes
    rw [(h.idle hidle).1, List.append_nil] at hissued
    rw [Tape.record, if_neg hrec]
    refine ⟨h.delivered, h.cursor, ⟨dropped, hdropped, ?_⟩, fun _ => rfl,
      fun _ => ⟨hopening, rfl⟩, fun hfalse => ?_⟩
    · show tape.ledger.issued ++ opening = dropped ++ opening
      rw [hissued]
    · cases hfalse

/-- Appending commands to a list that is being recorded keeps it exact. -/
theorem Exact.emit (h : tape.Exact) (hrec : tape.recording = true) (commands : List Command) :
    (tape.emit commands).Exact := by
  obtain ⟨dropped, hdropped, hissued⟩ := h.issued
  refine ⟨h.delivered, h.cursor, ⟨dropped, hdropped, ?_⟩, fun _ => hrec, ?_, ?_⟩
  · show tape.ledger.issued ++ commands = dropped ++ (tape.commands ++ commands)
    rw [hissued, List.append_assoc]
  · intro hclean
    cases hclean
  · intro hidle
    cases hrec.symm.trans hidle

/-- To set `has_record` keeps an exact list exact. -/
theorem Exact.markRecord (h : tape.Exact) : ({ tape with hasRecord := true } : Tape).Exact :=
  ⟨h.delivered, h.cursor, h.issued, h.dirty, h.clean, h.idle⟩

/-- The moves of an operation keep the list exact; `recorded` says that it is being recorded
already. -/
theorem Exact.moves (h : tape.Exact) {opening : Bool → List Command}
    (hopening : ∀ useRenderPass, Opening (opening useRenderPass)) {moves : List Move}
    {recorded : Bool} (hmoves : Recorded recorded moves)
    (hrec : recorded = true → tape.recording = true) : (tape.moves opening moves).Exact := by
  induction moves generalizing tape recorded with
  | nil => exact h
  | cons move moves ih =>
      cases move with
      | storeImageBarrier barrier => exact ih h hmoves hrec
      | storeBufferBarrier barrier => exact ih h hmoves hrec
      | synchronize device => exact ih h hmoves hrec
      | markRecord => exact ih h.markRecord hmoves hrec
      | record useRenderPass =>
          exact ih (h.record (hopening useRenderPass)) (show Recorded true moves from hmoves)
            fun _ => recording_record ..
      | each bound commands =>
          exact ih (h.emit (hrec hmoves.1) commands) hmoves.2 hrec

/-- A list to which nothing was appended is an empty render pass once it is closed. -/
theorem Exact.emptyPasses_closed (h : tape.Exact) (hclean : tape.dirty = false)
    {dropped : List Command} (hdropped : EmptyPasses dropped) :
    EmptyPasses (dropped ++ (tape.commands ++ tape.closing)) := by
  obtain ⟨hopening, hpass⟩ := h.clean hclean
  rcases hopening with hnil | ⟨info, contents, hbegin⟩
  · rw [closing, hpass, hnil]
    simpa using hdropped
  · -- the render pass `begin` opened is closed with nothing in it
    rw [closing, hpass, hbegin]
    exact EmptyPasses.snoc info contents hdropped

/-- A submit of an exact list to which something was appended hands it over, and every delivery is
exact still. -/
theorem Exact.submit_of_dirty (h : tape.Exact) (hrec : tape.recording = true)
    (hdirty : tape.dirty = true) : tape.stop.deliver.Exact := by
  obtain ⟨dropped, hdropped, hissued⟩ := h.issued
  rw [Tape.submit_of_dirty hrec hdirty]
  refine ⟨?_, ?_, ⟨[], .nil, rfl⟩, fun hfalse => ?_, fun _ => ⟨Or.inl rfl, rfl⟩,
    fun _ => ⟨rfl, rfl⟩⟩
  · intro k delivery hget
    simp only [Ledger.submit, Ledger.issue, List.getElem?_append] at hget
    split at hget
    · exact h.delivered k delivery hget
    next hlast =>
      -- the delivery that this submit adds
      obtain ⟨hlt, hsome⟩ := List.getElem?_eq_some_iff.mp hget
      have hk : k = tape.ledger.deliveries.length := by
        rw [List.length_singleton] at hlt
        omega
      rw [List.getElem_singleton] at hsome
      subst hsome
      refine ⟨by rw [h.cursor, hk], rfl, dropped, hdropped, ?_⟩
      rw [hissued, List.append_assoc]
  · show ringNext commandBufferCount tape.cursor = (tape.ledger.deliveries ++ [_]).length % _
    rw [List.length_append, List.length_singleton, h.cursor,
      ringNext_eq_mod (Nat.mod_lt _ (by decide)), Nat.mod_add_mod]
  · cases hfalse

/-- A submit of an exact list to which nothing was appended drops it, at most an empty render pass,
and it stays exact. -/
theorem Exact.submit_of_clean (h : tape.Exact) (hrec : tape.recording = true)
    (hclean : tape.dirty = false) : tape.stop.deliver.Exact := by
  obtain ⟨dropped, hdropped, hissued⟩ := h.issued
  rw [Tape.submit_of_clean hrec hclean]
  refine ⟨h.delivered, h.cursor, ⟨_, h.emptyPasses_closed hclean hdropped, ?_⟩,
    fun hdirty => ?_, fun _ => ⟨Or.inl rfl, rfl⟩, fun _ => ⟨rfl, rfl⟩⟩
  · show tape.ledger.issued ++ tape.closing = _
    rw [hissued, List.append_nil, List.append_assoc]
  · cases hclean.symm.trans hdirty

/-- A submit of an exact list, whatever was appended to it, leaves it exact. -/
theorem Exact.submit (h : tape.Exact) : tape.stop.deliver.Exact := by
  cases hdirty : tape.dirty with
  | true => exact h.submit_of_dirty (h.dirty hdirty) hdirty
  | false =>
      cases hrec : tape.recording with
      | true => exact h.submit_of_clean hrec hdirty
      | false =>
          rw [submit_of_idle hrec hdirty]
          exact h

end Tape

/-- An operation other than `end` that returns keeps the list of a chain exact. -/
theorem CommandList.exact_step {env : Environment} {list list' : CommandList} {op : ListOp}
    (h : list.tape.Exact) (hop : op ≠ .stop) (hstep : list.step env op = .ok list') :
    list'.tape.Exact := by
  cases op with
  | begin =>
      cases hstep
      exact h.record (list.opening_spec _)
  | stop => exact absurd rfl hop
  | submit =>
      cases hstep
      rw [tape_submit]
      exact h.submit
  | synchronize =>
      cases hstep
      exact h
  | recording op =>
      obtain ⟨recipe, hrecipe, rfl⟩ := exists_of_map_eq_ok hstep
      exact h.moves list.opening_spec (RecordingOp.recorded hrecipe)
        fun hfalse => absurd hfalse Bool.false_ne_true

/-! ## Runs -/

/-- The list of a chain that is fresh is exact. -/
theorem ChainData.Fresh.exact {data : ChainData} (h : data.Fresh) : data.tape.Exact := by
  rw [h.tape_eq]
  exact ⟨fun _ _ hget => absurd hget (by simp), rfl, ⟨[], .nil, rfl⟩,
    fun hfalse => absurd hfalse Bool.false_ne_true, fun _ => ⟨Or.inl rfl, rfl⟩,
    fun _ => ⟨rfl, rfl⟩⟩

namespace Session

variable {env : Environment} {s t : Session} {op : ListOp} {ops : List ListOp}

/-- What a run without `end` keeps: the chain is sequential and disciplined, and its list exact. -/
structure Submits (s : Session) : Prop where
  sequential : s.data.Sequential
  disciplined : s.data.Disciplined
  exact : s.data.tape.Exact

/-- **One step** of a chain that submits what it is given, other than an explicit `end`, leaves it
sequential and disciplined, with an exact list. -/
theorem Submits.step (h : s.Submits) (hop : op ≠ .stop) (hstep : op.step env s = .ok t) :
    t.Submits := by
  have hexact : s.list.tape.Exact := h.exact
  have hlist : s.list.step env op = .ok t.list := by
    rw [← step_list h.sequential, hstep]
    rfl
  exact ⟨sequential_step h.sequential hstep, disciplined_listStep h.sequential h.disciplined hstep,
    CommandList.exact_step hexact hop hlist⟩

/-- **A run without an explicit `end`** leaves a chain that submits what it is given sequential and
disciplined, with an exact list. -/
theorem Submits.run (h : s.Submits) (hops : ∀ op ∈ ops, op ≠ .stop)
    (hrun : runSteps (ListOp.step env) s ops = .ok t) : t.Submits :=
  runSteps_preserves Submits
    (fun _ op _ hs (hop : op ≠ .stop) hstep => hs.step hop hstep) h
    (stepsMeet_of_forall_mem hops) hrun

/-- A freshly initialised chain is sequential and disciplined, with an exact list. -/
theorem submits_of_justInitialized (h : s.data.JustInitialized env s.world.passes) : s.Submits :=
  ⟨h.fresh.sequential_data, h.fresh.disciplined, h.fresh.exact⟩

/-- A submit of a chain that submits what it is given makes no call at all when the chain is not
recording. -/
theorem Submits.log_submit_of_idle (h : s.Submits) (hidle : s.data.cmd.recording = false) :
    (s.submit env).data.cmd.log = s.data.cmd.log := by
  have hstop : s.data.stop = s.data := by
    unfold ChainData.stop
    rw [if_neg (by rw [hidle]; exact Bool.false_ne_true)]
  have hnot : ¬ (s.data.stop.parent = none ∧ s.data.stop.hasRecord = true ∧
      s.data.stop.dirty = true) := by
    rw [hstop]
    -- without an explicit `end` a dirty chain is recording
    rintro ⟨-, -, hdirty⟩
    cases hidle.symm.trans (h.exact.dirty hdirty)
  rw [submit_of_not_ready env hnot]
  exact congrArg (·.cmd.log) hstop

/-- After a submit a sequential chain is not recording, whether it was before or not. -/
theorem idle_submit (h : s.data.Sequential) : (s.submit env).data.cmd.recording = false := by
  have htape : (s.submit env).data.tape = s.data.tape.stop.deliver :=
    (congrArg CommandList.tape (list_submit env h).2).trans (s.list.tape_submit env)
  have hidle : s.data.tape.stop.deliver.recording = false := by
    rw [Tape.recording_deliver, Tape.recording_stop]
  exact (congrArg Tape.recording htape).trans hidle

/-- After a run that ends with a submit, or before any operation, the chain is not recording. -/
theorem Submits.idle_of_getLast? (h : s.Submits) (hidle : s.data.cmd.recording = false)
    (hops : ∀ op ∈ ops, op ≠ .stop) (hrun : runSteps (ListOp.step env) s ops = .ok t)
    (hlast : ops = [] ∨ ops.getLast? = some .submit) : t.data.cmd.recording = false := by
  rcases hlast with hnil | hsubmit
  · subst hnil
    cases hrun
    exact hidle
  · obtain ⟨before, rfl⟩ := List.getLast?_eq_some_iff.mp hsubmit
    obtain ⟨mid, hmid, hstep⟩ := runSteps_append_ok_iff.mp hrun
    rw [runSteps_singleton] at hstep
    cases hstep
    exact idle_submit (sequential_run h.sequential hmid)

/-- **What a sequential chain submits.** In every run of a freshly initialised chain without a
parent that is left in `Sequential` mode and never ended explicitly: each submission is exact, only
a submit hands over a buffer and at most one, a submit right after another one or at the start
makes no Vulkan call, and every call so far was lawful. -/
theorem submitted_lists (env : Environment) (s t : Session) (ops : List ListOp)
    (hinit : s.data.JustInitialized env s.world.passes) (hops : ∀ op ∈ ops, op ≠ .stop)
    (hrun : runSteps (ListOp.step env) s ops = .ok t) :
    (∀ (k : Nat) (delivery : Delivery),
      (ledger t.data.cmd.log).deliveries[k]? = some delivery → delivery.Exact k) ∧
    (∀ (op : ListOp) (t' : Session), op.step env t = .ok t' →
      (ledger t'.data.cmd.log).deliveries = (ledger t.data.cmd.log).deliveries ∨
        op = .submit ∧ ∃ delivery, (ledger t'.data.cmd.log).deliveries
          = (ledger t.data.cmd.log).deliveries ++ [delivery]) ∧
    ((ops = [] ∨ ops.getLast? = some .submit) →
      (t.submit env).data.cmd.log = t.data.cmd.log) ∧
    ∀ event ∈ t.data.cmd.log, event.Lawful := by
  have hstart := submits_of_justInitialized hinit
  have hend := hstart.run hops hrun
  refine ⟨hend.exact.delivered, ?_, ?_, hend.disciplined.lawful⟩
  · intro op t' hstep
    have hlist : t.list.step env op = .ok t'.list := by
      rw [← step_list hend.sequential, hstep]
      rfl
    exact CommandList.deliveries_step hlist
  · intro hlast
    exact hend.log_submit_of_idle (hstart.idle_of_getLast? hinit.fresh.idle hops hrun hlast)

/-- Two rounds of a copy and a submit, the second from where the first one copies to. -/
def twoRounds : List ListOp :=
  [.recording (.copyBuffer ⟨.array 0, 0⟩ ⟨.array 1, 0⟩ 4 1 0 0), .submit,
    .recording (.copyBuffer ⟨.array 1, 0⟩ ⟨.array 2, 0⟩ 4 1 0 0), .submit]

/-- Two rounds of a copy and a submit hand over both lists exactly, each in a slot of its own. -/
theorem submitted_lists_twoRounds :
    ∃ t, runSteps (ListOp.step .inert) .newGraphics twoRounds = .ok t ∧
      ((∀ (k : Nat) (delivery : Delivery),
        (ledger t.data.cmd.log).deliveries[k]? = some delivery → delivery.Exact k) ∧
      (∀ (op : ListOp) (t' : Session), op.step .inert t = .ok t' →
        (ledger t'.data.cmd.log).deliveries = (ledger t.data.cmd.log).deliveries ∨
          op = .submit ∧ ∃ delivery, (ledger t'.data.cmd.log).deliveries
            = (ledger t.data.cmd.log).deliveries ++ [delivery]) ∧
      ((twoRounds = [] ∨ twoRounds.getLast? = some .submit) →
        (t.submit .inert).data.cmd.log = t.data.cmd.log) ∧
      ∀ event ∈ t.data.cmd.log, event.Lawful) :=
  ⟨_, rfl, submitted_lists .inert .newGraphics _ twoRounds (.type 0 .graphics)
    (by decide +kernel) rfl⟩

/-- A graphics chain on a render pass that is initialised. -/
def newWithPass : Session :=
  let world : World := { World.start with passes := fun _ => ({} : RenderPass).initializeDevice 0 }
  ⟨0, ({} : ChainData).initializePass 0 (world.passes 0) .graphics false, world⟩

/-- A submission does not always hold all that was issued since the one before: the render pass that
`begin` opened and the first submit closed is issued, and handed over by no submit. -/
theorem not_submitted_lists :
    ¬ ∀ (env : Environment) (s t : Session) (ops : List ListOp),
      s.data.JustInitialized env s.world.passes → (∀ op ∈ ops, op ≠ .stop) →
        runSteps (ListOp.step env) s ops = .ok t →
          ∀ delivery ∈ (ledger t.data.cmd.log).deliveries,
            delivery.commands = delivery.issued := by
  intro h
  have hlist := h .inert newWithPass _
    [.begin, .submit, .recording (.copyBuffer ⟨.array 0, 0⟩ ⟨.array 1, 0⟩ 4 1 0 0), .submit]
    (.pass 0 .graphics false) (by decide +kernel) rfl
  revert hlist
  decide +kernel

end Session

end Nyx
