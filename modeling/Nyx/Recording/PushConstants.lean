import Nyx.Foundations.RangeWrites
import Nyx.Recording.RecordingDiscipline

/-! # Push constants

A pipeline declares 256 bytes of push constants, and `Chain::push` sets some of them. The value goes
through an array of 256 bytes that is pushed up to the end of the range, whatever the array holds
past the value; a value of 256 bytes is not pushed at all.

* **`PushedRange`**, **`constantsAfter`** — what recorded pushes make of the block of constants.
* **`ChainData.RecordsTo`** — a chain that is recording into a buffer, which pushes keep.
* **`PushesExact`** — pushes that leave what the last one of each byte has for it.
* **`pushes_exact_iff`** — these are the ones that do not destroy each other. -/

namespace Nyx

open Foundations

/-! ## The block of constants -/

/-- What `vkCmdPushConstants` is given: where the range starts, its size, and the values. -/
structure PushedRange where
  offset : Nat
  size : Nat
  values : List UInt8
  deriving DecidableEq, Repr

/-- The range that a command pushes, if it is a push. -/
def Command.pushed : Command → Option PushedRange
  | .pushConstants _ offset size values => some ⟨offset, size, values⟩
  | _ => none

/-- The block after a range was pushed from an array that has `stack` past the values. -/
def PushedRange.set (stack : Nat → UInt8) (range : PushedRange) (block : Nat → UInt8) :
    Nat → UInt8 := fun i =>
  if range.offset ≤ i ∧ i < range.offset + range.size then
    range.values.getD (i - range.offset) (stack (i - range.offset))
  else block i

/-- The block after some commands; `stack n` is what the array of push `n` has past the values. -/
def constantsAfter (stack : Nat → Nat → UInt8) (commands : List Command) (block : Nat → UInt8) :
    Nat → UInt8 :=
  (commands.filterMap Command.pushed).zipIdx.foldl
    (fun block entry => entry.1.set (stack entry.2) block) block

/-- A call of `Chain::push`: the renderer, the value and where it goes. -/
structure Push where
  renderer : Renderer
  value : List UInt8
  offset : Nat
  deriving DecidableEq, Repr

/-- The bytes that a push is to set, and where they start. -/
def Push.write (push : Push) : RangeWrite UInt8 := ⟨push.offset, push.value⟩

/-- The chain after some pushes, one after the other. -/
def Session.pushAll (s : Session) (pushes : List Push) : Session :=
  pushes.foldl (fun s push => s.push push.renderer push.value push.offset) s

/-! ## Recorded pushes -/

/-- A chain is being recorded, and its operations record into buffer `i`. -/
structure ChainData.RecordsTo (data : ChainData) (i : Nat) : Prop where
  recording : data.cmd.recording = true
  current : data.current < data.cmd.size
  numCmd : data.numCmd ≤ data.cmd.size
  slot : i < data.cmd.size
  reached : ringDistance data.cmd.size data.current i < data.numCmd
  state : (data.cmd.slots i).vk.state = .recording

/-- A chain that keeps the discipline records into its open buffers. -/
theorem ChainData.Disciplined.recordsTo {data : ChainData} (h : data.Disciplined) {i : Nat}
    (hi : i < commandBufferCount) (hopen : data.Open i) : data.RecordsTo i where
  recording := hopen.1
  current := h.size ▸ h.current
  numCmd := h.numCmd_le
  slot := h.size ▸ hi
  reached := by
    rw [h.size]
    rcases hopen.2 with hall | rfl
    · rw [hall]
      exact ringDistance_lt _ _ (by decide)
    · rw [ringDistance_self]
      rcases h.numCmd with hone | hall <;> omega
  state := (h.state i hi).mpr hopen

/-- **One push.** It records its commands into the buffer, into which the chain still records. -/
theorem ChainData.RecordsTo.push {s : Session} {i : Nat} (h : s.data.RecordsTo i)
    (renderer : Renderer) (value : List UInt8) (offset : Nat) :
    (s.push renderer value offset).data.RecordsTo i ∧
      ((s.push renderer value offset).data.cmd.slots i).vk.commands =
        (s.data.cmd.slots i).vk.commands ++ pushCommands renderer.pipeline value offset := by
  let commands := pushCommands renderer.pipeline value offset
  have hbody : (s.data.cmd.setActive s.data.current).Performs
      (fun cmd => (cmd.bindPipeline renderer.pipeline).pushConstantBase value offset)
      (.emit commands) id := by
    simp only [CommandBuffer.push_eq]
    exact CommandBuffer.performs_issueBound _ commands
  have hactive : (s.data.cmd.setActive s.data.current).current = s.data.current := if_pos h.current
  obtain ⟨hslots, hsetup⟩ := CommandBuffer.forEach_slots hbody s.data.numCmd
  have hpush : s.push renderer value offset =
      ({ s with data.cmd := s.data.cmd.setActive s.data.current } : Session).broadcast
        fun cmd => (cmd.bindPipeline renderer.pipeline).pushConstantBase value offset := by
    rw [Session.push, Session.record, ChainData.record_of_recording h.recording]
  have hslot : (s.push renderer value offset).data.cmd.slots i =
      (SlotAction.emit commands).apply (s.data.cmd.slots i) := by
    rw [hpush]
    refine (congrFun hslots i).trans ?_
    rw [hactive]
    exact (sweep_apply _ _ h.numCmd h.current h.slot).trans (if_pos h.reached)
  have hsize : (s.push renderer value offset).data.cmd.size = s.data.cmd.size := by
    rw [hpush]
    exact CommandBuffer.size_eq_of_setup hsetup
  have hcurrent : (s.push renderer value offset).data.current = s.data.current := by rw [hpush]; rfl
  have hnum : (s.push renderer value offset).data.numCmd = s.data.numCmd := by rw [hpush]; rfl
  have hperform := foldl_perform_commands (s.data.cmd.slots i).vk h.state commands
  refine ⟨⟨?_, ?_, ?_, ?_, ?_, ?_⟩, ?_⟩
  · rw [hpush]
    have hflag := CommandBuffer.forEach_recording hbody s.data.numCmd
    rw [Function.iterate_id] at hflag
    exact hflag.trans h.recording
  · rw [hsize, hcurrent]
    exact h.current
  · rw [hsize, hnum]
    exact h.numCmd
  · rw [hsize]
    exact h.slot
  · rw [hsize, hcurrent, hnum]
    exact h.reached
  · rw [hslot, SlotAction.state_emit]
    exact h.state
  · rw [hslot]
    exact congrArg VkSlot.commands hperform

/-- **All pushes.** They record their commands, one after the other. -/
theorem commands_pushAll {s : Session} {i : Nat} (h : s.data.RecordsTo i) (pushes : List Push) :
    ((s.pushAll pushes).data.cmd.slots i).vk.commands =
      (s.data.cmd.slots i).vk.commands ++
        pushes.flatMap fun push => pushCommands push.renderer.pipeline push.value push.offset := by
  induction pushes generalizing s with
  | nil => exact (List.append_nil _).symm
  | cons push pushes ih =>
      obtain ⟨hnext, hcommands⟩ := h.push push.renderer push.value push.offset
      rw [Session.pushAll, List.foldl_cons, List.flatMap_cons, ← List.append_assoc, ← hcommands]
      exact ih hnext

/-! ## Which pushes are exact -/

/-- A push whose value fits the guard of `pushConstantBase`. -/
def Push.Sent (push : Push) : Prop := push.value.length < 256

instance : DecidablePred Push.Sent := fun _ => inferInstanceAs (Decidable (_ < _))

/-- The writes of the pushes that are sent, in order. -/
def sentWrites (pushes : List Push) : List (RangeWrite UInt8) :=
  (pushes.filter Push.Sent).map Push.write

/-- **Exact pushes.** The last push of less than 256 bytes that starts at a byte or in front of it
covers the byte; and no byte that a push of 256 bytes sets last differs from what the others leave
there. -/
def PushesExact (pushes : List Push) : Prop :=
  ∀ i < 256, (∀ write ∈ lastReaching i (sentWrites pushes), (write.at? i).isSome) ∧
    lastAt i (sentWrites pushes) = lastAt i (pushes.map Push.write)

instance (pushes : List Push) : Decidable (PushesExact pushes) :=
  Nat.decidableBallLT 256 fun i _ =>
    (∀ write ∈ lastReaching i (sentWrites pushes), (write.at? i).isSome) ∧
      lastAt i (sentWrites pushes) = lastAt i (pushes.map Push.write)

/-- The pushes that are recorded set their bytes, and what comes after these up to the end of the
block. -/
theorem constantsAfter_pushes (stack : Nat → Nat → UInt8) {pushes : List Push}
    (hfits : ∀ push ∈ pushes, push.offset ≤ 256) (block : Nat → UInt8) :
    constantsAfter stack
        (pushes.flatMap fun push => pushCommands push.renderer.pipeline push.value push.offset)
        block =
      overshootAll 256 stack (sentWrites pushes) block := by
  have hranges : (pushes.flatMap fun push =>
        pushCommands push.renderer.pipeline push.value push.offset).filterMap Command.pushed =
      (pushes.filter Push.Sent).map fun push =>
        ⟨push.offset, (256 + 2 ^ 32 - push.offset) % 2 ^ 32, push.value⟩ := by
    clear hfits
    induction pushes with
    | nil => rfl
    | cons push pushes ih =>
        rw [List.flatMap_cons, List.filterMap_append, ih, List.filter_cons]
        by_cases hsent : push.value.length < 256
        · simp [pushCommands, Push.Sent, hsent, Command.pushed, List.filterMap_cons]
        · simp [pushCommands, Push.Sent, hsent, Command.pushed, List.filterMap_cons]
  rw [constantsAfter, hranges, overshootAll, sentWrites, List.zipIdx_map, List.zipIdx_map,
    List.foldl_map, List.foldl_map]
  refine List.foldl_ext _ _ _ fun block entry hentry => ?_
  have hmem := (List.mem_filter.mp (List.fst_mem_of_mem_zipIdx hentry)).1
  have hoffset := hfits entry.1 hmem
  funext i
  have hrange : i < entry.1.offset + (256 + 2 ^ 32 - entry.1.offset) % 2 ^ 32 ↔ i < 256 := by omega
  exact if_congr (and_congr_right fun _ => hrange) rfl rfl

/-- **When pushes are exact.** While a chain records into a buffer, values are pushed that are not
empty and end within the block. Whatever the arrays hold past the values, and whatever the block
held before, after the commands that are recorded each byte has what the last push covering it has
for it, and the others have kept what they had, exactly when the pushes are exact. -/
theorem pushes_exact_iff (s : Session) (i : Nat) (h : s.data.RecordsTo i) (pushes : List Push)
    (hfits : ∀ push ∈ pushes, 1 ≤ push.value.length ∧ push.offset + push.value.length ≤ 256) :
    (∃ recorded, ((s.pushAll pushes).data.cmd.slots i).vk.commands =
          (s.data.cmd.slots i).vk.commands ++ recorded ∧
        ∀ stack block, ∀ b < 256, constantsAfter stack recorded block b =
          (lastAt b (pushes.map Push.write)).getD (block b)) ↔
      PushesExact pushes := by
  have hoffsets : ∀ push ∈ pushes, push.offset ≤ 256 := fun push hpush => by
    have hfit := hfits push hpush
    omega
  have hbytes : Nontrivial UInt8 := ⟨⟨0, 1, by decide⟩⟩
  have hcell : ∀ b < 256, (∀ stack block, overshootAll 256 stack (sentWrites pushes) block b =
        (lastAt b (pushes.map Push.write)).getD (block b)) ↔
      (∀ write ∈ lastReaching b (sentWrites pushes), (write.at? b).isSome) ∧
        lastAt b (sentWrites pushes) = lastAt b (pushes.map Push.write) :=
    fun b hb => overshootAll_iff hb _ _
  rw [commands_pushAll h]
  constructor
  · rintro ⟨recorded, heq, hblock⟩ b hb
    obtain rfl := List.append_cancel_left heq
    rw [← hcell b hb]
    intro stack block
    rw [← constantsAfter_pushes stack hoffsets]
    exact hblock stack block b hb
  · intro hexact
    refine ⟨_, rfl, fun stack block b hb => ?_⟩
    rw [constantsAfter_pushes stack hoffsets]
    exact (hcell b hb).mpr (hexact b hb) stack block

/-- A new chain that has begun to record records into its first buffer. -/
theorem recordsTo_newGraphics : Session.newGraphics.begin.data.RecordsTo 0 := by
  have hfresh : Session.newGraphics.data.Fresh :=
    (ChainData.JustInitialized.type 0 .graphics :
      ChainData.JustInitialized .inert World.start.passes _).fresh
  have hrecord := hfresh.disciplined.record World.start.passes false fun _ => Or.inr rfl
  exact hrecord.1.recordsTo (by decide) ⟨hrecord.2.1, Or.inr rfl⟩

/-- Two values next to each other, the first of them pushed first. -/
theorem pushes_exact_iff_twoValues :
    let renderer : Renderer := ⟨⟨true, 0, 0⟩, ⟨none⟩⟩
    let pushes : List Push := [⟨renderer, [1, 2, 3, 4], 0⟩, ⟨renderer, [5, 6, 7, 8], 4⟩]
    (∃ recorded, ((Session.newGraphics.begin.pushAll pushes).data.cmd.slots 0).vk.commands =
          (Session.newGraphics.begin.data.cmd.slots 0).vk.commands ++ recorded ∧
        ∀ stack block, ∀ b < 256, constantsAfter stack recorded block b =
          (lastAt b (pushes.map Push.write)).getD (block b)) ↔
      PushesExact pushes :=
  pushes_exact_iff Session.newGraphics.begin 0 recordsTo_newGraphics _ (by decide)

/-- Pushes do not always set exactly their bytes: pushed from the back to the front, the first value
is lost. -/
theorem not_pushes_exact : ¬ ∀ (s : Session) (i : Nat), s.data.RecordsTo i → ∀ pushes : List Push,
    (∀ push ∈ pushes, 1 ≤ push.value.length ∧ push.offset + push.value.length ≤ 256) →
    ∃ recorded, ((s.pushAll pushes).data.cmd.slots i).vk.commands =
          (s.data.cmd.slots i).vk.commands ++ recorded ∧
        ∀ stack block, ∀ b < 256, constantsAfter stack recorded block b =
          (lastAt b (pushes.map Push.write)).getD (block b) := by
  intro hall
  let renderer : Renderer := ⟨⟨true, 0, 0⟩, ⟨none⟩⟩
  let pushes : List Push := [⟨renderer, [5, 6, 7, 8], 4⟩, ⟨renderer, [1, 2, 3, 4], 0⟩]
  obtain ⟨recorded, heq, hbytes⟩ :=
    hall Session.newGraphics.begin 0 recordsTo_newGraphics pushes (by decide)
  rw [commands_pushAll recordsTo_newGraphics] at heq
  have hlost := hbytes (fun _ _ => 0) (fun _ => 0) 4 (by decide)
  rw [← List.append_cancel_left heq] at hlost
  exact absurd hlost (by decide)

end Nyx
