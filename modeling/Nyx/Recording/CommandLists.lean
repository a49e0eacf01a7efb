import Nyx.Recording.Moves

/-! # A chain as a plain command list

What a chain that nobody advances, combines or switches to `All` mode is for: it collects commands
in one list and hands the list to the queue at each submit. This is the abstract machine that a
chain in `Sequential` mode is compared with; it knows no slots, no fences and no Vulkan calls.

* **`Tape`** — the list being recorded, the flags that decide what happens to it, and the ledger of
  what was delivered so far.
* **`Tape.record`**, **`Tape.emit`**, **`Tape.stop`**, **`Tape.deliver`** — what the operations do
  to it. A tape that is begun again is empty again: what was stopped and not delivered is gone.
* **`ListOp`**, **`CommandList.step`** — the operations of such a chain. -/

namespace Nyx

open Foundations

/-! ## The ledger -/

/-- One submission: the slot it used, the state and the commands of the buffer, and all commands
issued since the submission before. -/
structure Delivery where
  slot : Nat
  state : BufferState
  commands : List Command
  issued : List Command
  deriving DecidableEq, Repr

/-- The submissions so far, and the commands issued since the last one. -/
structure Ledger where
  deliveries : List Delivery := []
  issued : List Command := []
  deriving DecidableEq, Repr

/-- Commands are issued: they come after those that wait for a submit. -/
def Ledger.issue (ledger : Ledger) (commands : List Command) : Ledger :=
  { ledger with issued := ledger.issued ++ commands }

/-- A buffer is submitted, with all the commands that were issued since the last submit. -/
def Ledger.submit (ledger : Ledger) (slot : Nat) (state : BufferState) (commands : List Command) :
    Ledger where
  deliveries := ledger.deliveries ++ [⟨slot, state, commands, ledger.issued⟩]
  issued := []

@[simp] theorem Ledger.issue_nil (ledger : Ledger) : ledger.issue [] = ledger := by
  rw [issue, List.append_nil]

@[simp] theorem Ledger.issue_issue (ledger : Ledger) (xs ys : List Command) :
    (ledger.issue xs).issue ys = ledger.issue (xs ++ ys) := by
  rw [issue, issue, issue, List.append_assoc]

/-! ## The tape -/

/-- A command list in the making, and the account of what was issued and handed over. -/
structure Tape where
  recording : Bool := false
  /-- Whether a render pass is open. -/
  inPass : Bool := false
  /-- What the next submit would hand to the queue. -/
  commands : List Command := []
  dirty : Bool := false
  hasRecord : Bool := false
  /-- The slot the next submit uses. -/
  cursor : Nat := 0
  ledger : Ledger := {}
  deriving DecidableEq, Repr

/-- What a recording can begin with: nothing, or one render pass. -/
def Opening (commands : List Command) : Prop :=
  commands = [] ∨ ∃ info contents, commands = [.beginRenderPass info contents]

namespace Tape

/-- Begin the list, with `opening` in it, unless it is being recorded. -/
def record (tape : Tape) (opening : List Command) : Tape :=
  if tape.recording then tape
  else
    { tape with
      recording := true
      inPass := !opening.isEmpty
      commands := opening
      ledger := tape.ledger.issue opening }

/-- After `record` the list is being recorded, whether it was before or not. -/
theorem recording_record (tape : Tape) (opening : List Command) :
    (tape.record opening).recording = true := by
  by_cases h : tape.recording = true
  · rw [record, if_pos h, h]
  · rw [record, if_neg h]

/-- Append commands to the list, which has something for the next submit then. -/
def emit (tape : Tape) (commands : List Command) : Tape :=
  { tape with
    commands := tape.commands ++ commands
    dirty := true
    ledger := tape.ledger.issue commands }

/-- The command that closes the render pass of the list, if one is open. -/
def closing (tape : Tape) : List Command := if tape.inPass then [.endRenderPass] else []

/-- End the recording. A list to which nothing was appended is dropped. -/
def stop (tape : Tape) : Tape :=
  if tape.recording then
    { tape with
      recording := false
      inPass := false
      -- a list that stays clean is never submitted: the next recording begins its slot again
      commands := if tape.dirty then tape.commands ++ tape.closing else []
      hasRecord := true
      ledger := tape.ledger.issue tape.closing }
  else tape

/-- After `stop` the list is not being recorded, whether it was before or not. -/
theorem recording_stop (tape : Tape) : tape.stop.recording = false := by
  by_cases h : tape.recording = true
  · rw [stop, if_pos h]
  · rw [stop, if_neg h, Bool.eq_false_iff]
    exact h

/-- Whether a submit hands the list to the queue: there is a record, and something was appended to
it. -/
def Ready (tape : Tape) : Prop := tape.hasRecord = true ∧ tape.dirty = true

instance (tape : Tape) : Decidable tape.Ready := inferInstanceAs (Decidable (_ ∧ _))

/-- Hand the list to the queue, when it is ready; the next one goes to the next slot then. -/
def deliver (tape : Tape) : Tape :=
  if tape.Ready then
    { tape with
      commands := []
      dirty := false
      cursor := ringNext commandBufferCount tape.cursor
      ledger := tape.ledger.submit tape.cursor .executable tape.commands }
  else tape

/-- Handing over the list does not change whether it is being recorded. -/
theorem recording_deliver (tape : Tape) : tape.deliver.recording = tape.recording := by
  rw [deliver]
  split <;> rfl

/-- Submitting a list that is being recorded and to which commands were appended. -/
theorem submit_of_dirty {tape : Tape} (hrec : tape.recording = true) (hdirty : tape.dirty = true) :
    tape.stop.deliver =
      { tape with
        recording := false
        inPass := false
        commands := []
        dirty := false
        hasRecord := true
        cursor := ringNext commandBufferCount tape.cursor
        ledger := (tape.ledger.issue tape.closing).submit tape.cursor .executable
          (tape.commands ++ tape.closing) } := by
  simp only [stop, deliver, Ready, hrec, hdirty, and_self, if_true]

/-- Submitting a list that is being recorded and to which nothing was appended drops it. -/
theorem submit_of_clean {tape : Tape} (hrec : tape.recording = true) (hclean : tape.dirty = false) :
    tape.stop.deliver =
      { tape with
        recording := false
        inPass := false
        commands := []
        hasRecord := true
        ledger := tape.ledger.issue tape.closing } := by
  simp only [stop, deliver, Ready, hrec, hclean, Bool.false_eq_true, and_false, if_true, if_false]

/-- Submitting a list that is not being recorded and to which nothing was appended does nothing. -/
theorem submit_of_idle {tape : Tape} (hidle : tape.recording = false)
    (hclean : tape.dirty = false) : tape.stop.deliver = tape := by
  simp only [stop, deliver, Ready, hidle, hclean, Bool.false_eq_true, and_false, if_false]

/-- One move of a recording operation; `opening` says what a recording begins with. -/
def move (opening : Bool → List Command) (tape : Tape) : Move → Tape
  | .record useRenderPass => tape.record (opening useRenderPass)
  | .each _ commands => tape.emit commands
  | .markRecord => { tape with hasRecord := true }
  | .storeImageBarrier _ | .storeBufferBarrier _ | .synchronize _ => tape

/-- The list after some moves, which are done in order. -/
def moves (opening : Bool → List Command) (tape : Tape) (moves : List Move) : Tape :=
  moves.foldl (Tape.move opening) tape

/-- To begin a recording hands nothing over, whatever it opens. -/
theorem deliveries_record (tape : Tape) (opening : List Command) :
    (tape.record opening).ledger.deliveries = tape.ledger.deliveries := by
  rw [record]
  split <;> rfl

/-- To end a recording hands nothing over, even where it closes a render pass. -/
theorem deliveries_stop (tape : Tape) :
    tape.stop.ledger.deliveries = tape.ledger.deliveries := by
  rw [stop]
  split <;> rfl

/-- The moves of a recording operation hand nothing over: only a submit does. -/
theorem deliveries_moves (opening : Bool → List Command) (tape : Tape) (moves : List Move) :
    (tape.moves opening moves).ledger.deliveries = tape.ledger.deliveries := by
  induction moves generalizing tape with
  | nil => rfl
  | cons move moves ih =>
      refine (ih (tape.move opening move)).trans ?_
      cases move with
      | record useRenderPass => exact deliveries_record ..
      | each | markRecord | storeImageBarrier | storeBufferBarrier | synchronize => rfl

end Tape

/-! ## The machine -/

/-- The operations of a chain that is left in `Sequential` mode and combines no child. -/
inductive ListOp
  | begin
  | stop
  | submit
  | synchronize
  | recording (op : RecordingOp)
  deriving DecidableEq, Repr

/-- The operation of the chain that an operation on a list stands for. -/
def ListOp.op : ListOp → Op
  | .begin => .begin
  | .stop => .stop
  | .submit => .submit
  | .synchronize => .synchronize
  | .recording op => .recording op

/-- A chain as a command list, in the world that it works in. -/
structure CommandList where
  /-- The render pass of the chain, the device of its queue, and how its render passes begin. -/
  pass : Option PassId
  device : Option Nat
  contents : SubpassContents
  tape : Tape
  world : World

namespace CommandList

/-- What a recording begins with: the render pass of the list, if it has one that is initialised and
is told to use it. -/
def opening (list : CommandList) (useRenderPass : Bool) : List Command :=
  match list.pass with
  | none => []
  | some pass =>
      if (list.world.passes pass).initialized && useRenderPass then
        [.beginRenderPass (list.world.passes pass).beginInfo list.contents]
      else []

/-- A recording of a chain begins with nothing or with its render pass. -/
theorem opening_spec (list : CommandList) (useRenderPass : Bool) :
    Opening (list.opening useRenderPass) := by
  unfold opening
  split
  · exact Or.inl rfl
  · split
    · exact Or.inr ⟨_, _, rfl⟩
    · exact Or.inl rfl

/-- A recording that does not use the render pass begins with nothing. -/
theorem opening_false (list : CommandList) : list.opening false = [] := by
  unfold opening
  split
  · rfl
  · rw [Bool.and_false]
    rfl

/-- Submit: end the recording, and when the list is ready let the queue execute it. -/
def submit (env : Environment) (list : CommandList) : CommandList :=
  let stopped := list.tape.stop
  if stopped.Ready then
    let memory := executeCommands env.effect stopped.commands list.world.memory
    { list with
      tape := stopped.deliver
      world := { list.world with memory := memory }.advancePass list.pass }
  else { list with tape := stopped }

/-- The tape after a submit is ended, and was handed over if it was ready. -/
theorem tape_submit (env : Environment) (list : CommandList) :
    (list.submit env).tape = list.tape.stop.deliver := by
  by_cases h : list.tape.stop.Ready
  · simp only [submit, h, if_true]
  · simp only [submit, h, if_false, Tape.deliver]

/-- A recording operation, by its recipe: the moves that it makes, and the world after it. -/
def follow (list : CommandList) (recipe : List Move × World) : CommandList :=
  { list with tape := list.tape.moves list.opening recipe.1, world := recipe.2 }

/-- One operation of a command list, with the failure that it may come to. -/
def step (env : Environment) (list : CommandList) : ListOp → Except ChainFailure CommandList
  | .begin => .ok { list with tape := list.tape.record (list.opening list.pass.isSome) }
  | .stop => .ok { list with tape := list.tape.stop }
  | .submit => .ok (list.submit env)
  | .synchronize => .ok list
  | .recording op => (op.recipe env list.pass list.device list.world).map list.follow

/-- Only a submit hands something over, and it hands over one buffer at most. -/
theorem deliveries_step {env : Environment} {list list' : CommandList} {op : ListOp}
    (h : list.step env op = .ok list') :
    list'.tape.ledger.deliveries = list.tape.ledger.deliveries ∨
      op = .submit ∧ ∃ delivery,
        list'.tape.ledger.deliveries = list.tape.ledger.deliveries ++ [delivery] := by
  cases op with
  | begin =>
      cases h
      exact Or.inl (Tape.deliveries_record ..)
  | stop =>
      cases h
      exact Or.inl (Tape.deliveries_stop ..)
  | synchronize =>
      cases h
      exact Or.inl rfl
  | submit =>
      cases h
      rw [tape_submit, ← list.tape.deliveries_stop, Tape.deliver]
      split
      · exact Or.inr ⟨rfl, _, rfl⟩
      · exact Or.inl rfl
  | recording op =>
      obtain ⟨recipe, -, rfl⟩ := exists_of_map_eq_ok h
      exact Or.inl (Tape.deliveries_moves ..)

end CommandList

end Nyx
