import Nyx.Recording.Scripts

/-! # Ending a chain explicitly

`Chain::end` closes the list that is being recorded, and the next operation begins the list again:
the closed list is discarded although the chain stays dirty. This file compares a run over recording
operations and a submit with the same run in which the chain is ended any number of times.

* **`splitLast`** — the operations before the last nonempty stretch between two ends, and that
  stretch; only the latter is submitted.
* **`Tape.handed_cut_iff`** — what a submit hands over after ends, and without them.
* **`Session.EndsKeep`** — when nothing is lost.
* **`Session.ends_keep_commands`** — the ends change nothing exactly then. -/

namespace Nyx

open Foundations

/-! ## Stretches between ends -/

section Split

variable {α : Type*}

/-- What comes before the last nonempty list, and that list. -/
def splitLast : List (List α) → List α × List α
  | [] => ([], [])
  | xs :: xss =>
      if (splitLast xss).2.isEmpty then ([], xs)
      else (xs ++ (splitLast xss).1, (splitLast xss).2)

/-- When nothing but empty lists follows the first one, it is the last one, with nothing before
it. -/
theorem splitLast_cons_of_nil {xs : List α} {xss : List (List α)} (h : (splitLast xss).2 = []) :
    splitLast (xs :: xss) = ([], xs) := by
  rw [splitLast, if_pos (List.isEmpty_iff.mpr h)]

/-- When something follows the first list, it comes before the last one of those. -/
theorem splitLast_cons_of_ne_nil {xs : List α} {xss : List (List α)} (h : (splitLast xss).2 ≠ []) :
    splitLast (xs :: xss) = (xs ++ (splitLast xss).1, (splitLast xss).2) := by
  rw [splitLast, if_neg (fun hempty => h (List.isEmpty_iff.mp hempty))]

/-- When there is no last nonempty list, there is nothing before it either. -/
theorem splitLast_fst_of_nil {xss : List (List α)} (h : (splitLast xss).2 = []) :
    (splitLast xss).1 = [] := by
  cases xss with
  | nil => rfl
  | cons xs xss =>
      by_cases hrest : (splitLast xss).2 = []
      · rw [splitLast_cons_of_nil hrest]
      · rw [splitLast_cons_of_ne_nil hrest] at h
        exact absurd h hrest

/-- What comes before the last nonempty list, and that list, are all lists together. -/
theorem splitLast_flatten (xss : List (List α)) :
    (splitLast xss).1 ++ (splitLast xss).2 = xss.flatten := by
  induction xss with
  | nil => rfl
  | cons xs xss ih =>
      rw [List.flatten_cons, ← ih]
      by_cases hrest : (splitLast xss).2 = []
      · rw [splitLast_cons_of_nil hrest, hrest, splitLast_fst_of_nil hrest, List.append_nil,
          List.append_nil, List.nil_append]
      · rw [splitLast_cons_of_ne_nil hrest, List.append_assoc]

/-- There is no last nonempty list exactly when all of the lists are empty. -/
theorem splitLast_snd_eq_nil_iff (xss : List (List α)) :
    (splitLast xss).2 = [] ↔ xss.flatten = [] := by
  rw [← splitLast_flatten, List.append_eq_nil_iff]
  exact ⟨fun h => ⟨splitLast_fst_of_nil h, h⟩, And.right⟩

end Split

/-- The operations of some stretches, with an `end` between each two of them. -/
def withEnds : List (List RecordingOp) → List ListOp
  | [] => []
  | [ops] => ops.map .recording
  | ops :: next :: rest => ops.map .recording ++ .stop :: withEnds (next :: rest)

/-- Stretches of moves split where the stretches of operations do. -/
theorem stretch_splitLast {pass : Option PassId} {groups : List (List RecordingOp)}
    {mss : List (List Move)} (h : List.Forall₂ (Stretch pass) groups mss) :
    Stretch pass (splitLast groups).1 (splitLast mss).1 ∧
      Stretch pass (splitLast groups).2 (splitLast mss).2 := by
  induction h with
  | nil => exact ⟨.nil, .nil⟩
  | @cons ops moves rest mss hops hrest ih =>
      by_cases hlast : (splitLast rest).2 = []
      · rw [splitLast_cons_of_nil hlast, splitLast_cons_of_nil (ih.2.empty hlast)]
        exact ⟨.nil, hops⟩
      · have hmoves : (splitLast mss).2 ≠ [] := fun hnil => hlast (ih.2.ops_eq_nil hnil)
        rw [splitLast_cons_of_ne_nil hlast, splitLast_cons_of_ne_nil hmoves]
        exact ⟨hops.append ih.1, ih.2⟩

/-! ## Closed lists -/

/-- **What an `end` loses.** Two closed lists that go on differently with the same commands agree
exactly when they begin alike and the first has nothing in between. -/
theorem closed_eq_iff {opening opening' lost kept : List Command} (hopening : Opening opening)
    (hopening' : Opening opening')
    (hplain : ∀ command ∈ lost ++ kept, command.opensPass = false) :
    opening' ++ kept ++ passEnd opening' = opening ++ (lost ++ kept) ++ passEnd opening ↔
      lost = [] ∧ opening = opening' := by
  rcases hopening with rfl | ⟨info, contents, rfl⟩ <;>
    rcases hopening' with rfl | ⟨info', contents', rfl⟩
  · simp [passEnd]
  · -- the commands would have to begin a render pass themselves
    refine iff_of_false (fun heq => ?_) (fun h => by simp at h)
    have hmem : Command.beginRenderPass info' contents' ∈ lost ++ kept := by
      have hlist :
          lost ++ kept = [.beginRenderPass info' contents'] ++ kept ++ [.endRenderPass] := by
        simpa [passEnd] using heq.symm
      rw [hlist]
      simp
    cases hplain _ hmem
  · refine iff_of_false (fun heq => ?_) (fun h => by simp at h)
    have hmem : Command.beginRenderPass info contents ∈ kept := by
      have hlist :
          [.beginRenderPass info contents] ++ (lost ++ kept) ++ [.endRenderPass] = kept := by
        simpa [passEnd] using heq.symm
      rw [← hlist]
      simp
    cases hplain _ (List.mem_append_right _ hmem)
  · -- both begin with a render pass and close it, so what is in between can be compared
    rw [eq_comm]
    simp [passEnd, and_comm]

namespace Tape

variable {tape tape' : Tape} {opening : Bool → List Command} {pass : Option PassId}

/-- **Ends on a list that is not being recorded.** Only the last nonempty stretch is kept, but every
stretch makes the list dirty. -/
theorem foldl_cut_of_idle (opening : Bool → List Command) {groups : List (List RecordingOp)}
    {mss : List (List Move)} (h : List.Forall₂ (Stretch pass) groups mss)
    (hidle : tape.recording = false) :
    ((splitLast groups).2 = [] → mss.foldl (cut opening) tape = tape) ∧
      ((splitLast groups).2 ≠ [] → (mss.foldl (cut opening) tape).Ended
        (opening (firstUse pass (splitLast groups).2) ++ emitted (splitLast mss).2
          ++ passEnd (opening (firstUse pass (splitLast groups).2)))
        (tape.dirty || !(emitted mss.flatten).isEmpty) tape.ledger.deliveries) := by
  induction h generalizing tape with
  | nil => exact ⟨fun _ => rfl, fun hne => absurd rfl hne⟩
  | @cons ops moves rest mss hops hrest ih =>
      have hempty : ops = [] → tape.cut opening moves = tape := by
        intro hnil
        rw [hops.empty hnil]
        exact stop_of_idle hidle
      have hcut : (tape.cut opening moves).recording = false := recording_stop _
      obtain ⟨ihnil, ihlast⟩ := ih hcut
      rw [List.foldl_cons]
      by_cases hlast : (splitLast rest).2 = []
      · -- nothing follows these operations
        have hmss : (splitLast mss).2 = [] := (stretch_splitLast hrest).2.empty hlast
        have hflat : mss.flatten = [] := (splitLast_snd_eq_nil_iff mss).mp hmss
        rw [splitLast_cons_of_nil hlast, splitLast_cons_of_nil hmss, ihnil hlast, List.flatten_cons,
          hflat, List.append_nil]
        exact ⟨hempty, fun hne => cut_of_idle opening hops hne hidle⟩
      · have hmss : (splitLast mss).2 ≠ [] := fun hnil =>
          hlast ((stretch_splitLast hrest).2.ops_eq_nil hnil)
        rw [splitLast_cons_of_ne_nil hlast, splitLast_cons_of_ne_nil hmss]
        refine ⟨fun hnil => absurd hnil hlast, fun _ => ?_⟩
        have hended := ihlast hlast
        by_cases hnil : ops = []
        · -- no operation, so the `end` before the next ones found nothing to close
          rw [hempty hnil] at hended ⊢
          rw [List.flatten_cons, hops.empty hnil, List.nil_append]
          exact hended
        · -- these operations were closed, and lost when the next ones began the list again
          have hfirst := cut_of_idle opening hops hnil hidle
          rw [hfirst.dirty, hfirst.deliveries] at hended
          rw [List.flatten_cons, emitted_append, dirty_append]
          exact hended

/-! ## What the queue is handed -/

/-- What a submit hands to the queue: the commands of the list once it is ended, if it is ready
then. -/
def handed (tape : Tape) : List Command := if tape.stop.Ready then tape.stop.commands else []

/-- Ending the list first does not change what a submit hands over. -/
theorem handed_stop (tape : Tape) : tape.stop.handed = tape.handed := by
  rw [handed, handed, stop_stop]

/-- A submit of an ended list hands over all of it when something was appended, and else nothing. -/
theorem Ended.handed {list : List Command} {touched : Bool} {deliveries : List Delivery}
    (h : tape.Ended list touched deliveries) : tape.handed = if touched then list else [] := by
  rw [Tape.handed, stop_of_idle h.recording, h.commands]
  cases touched with
  | true => exact if_pos ⟨h.hasRecord, h.dirty⟩
  | false => exact ite_self _

/-- A list that is being recorded goes on one of its beginnings by commands that open no render
pass. -/
def Begun (opening : Bool → List Command) (tape : Tape) : Prop :=
  tape.recording = true → ∃ useRenderPass body,
    tape.commands = opening useRenderPass ++ body ∧
      tape.closing = passEnd (opening useRenderPass) ∧
        ∀ command ∈ body, command.opensPass = false

/-- What the list holds while it is being recorded; a list that is not holds nothing that stays. -/
def held (tape : Tape) : List Command := if tape.recording then tape.commands else []

/-- **When ends lose nothing.** Either no operation follows an `end` that found the list being
recorded; or what was recorded up to the last such `end` is the beginning of a list and nothing
else, and the list begins like that again; or nothing is handed over at all. -/
def EndsKeep (opening : Bool → List Command) (pass : Option PassId) (tape : Tape)
    (groups : List (List RecordingOp)) : Prop :=
  (if tape.recording then groups.tail.flatten = [] else (splitLast groups).1 = []) ∨
    ((∀ op ∈ (splitLast groups).1, op.Silent) ∧
      tape.held = opening (firstUse pass (splitLast groups).2)) ∨
    (tape.dirty = false ∧ ∀ op ∈ groups.flatten, op.Silent)

/-- A beginning of a list and commands that open no render pass are a beginning exactly when there
are no such commands. -/
theorem append_eq_opening_iff {opening opening' body : List Command} (hopening : Opening opening)
    (hopening' : Opening opening') (hbody : ∀ command ∈ body, command.opensPass = false) :
    opening ++ body = opening' ↔ body = [] ∧ opening = opening' := by
  rcases hopening with rfl | ⟨info, contents, rfl⟩ <;>
    rcases hopening' with rfl | ⟨info', contents', rfl⟩
  · simp
  · refine iff_of_false (fun heq => ?_) (fun h => by simp at h)
    have hmem : Command.beginRenderPass info' contents' ∈ body := by
      rw [List.nil_append] at heq
      rw [heq]
      exact List.mem_singleton_self _
    cases hbody _ hmem
  · simp
  · simp [and_comm]

/-- Two ended lists that are handed over under the same flag agree when the flag is not set, or when
they are equal. -/
theorem ite_eq_ite_iff {touched : Bool} {xs ys : List Command} :
    ((if touched then xs else []) = if touched then ys else []) ↔ touched = false ∨ xs = ys := by
  cases touched <;> simp

/-- A list that silent operations begin is begun without the render pass. -/
theorem firstUse_of_silent {ops : List RecordingOp} (h : ∀ op ∈ ops, op.Silent) :
    firstUse pass ops = false := by
  cases ops with
  | nil => rfl
  | cons op ops =>
      have hop := h op List.mem_cons_self
      cases op with
      | transition image layout => rfl
      | _ => exact absurd hop not_false

/-- Whether operations begin their list with the render pass is settled by the first ones, if there
are any. -/
theorem firstUse_append {xs ys : List RecordingOp} (h : xs ≠ []) :
    firstUse pass (xs ++ ys) = firstUse pass xs := by
  cases xs with
  | nil => exact absurd rfl h
  | cons op xs => rfl

/-- All operations are silent exactly when they leave a clean list clean. -/
theorem touched_eq_false_iff {ops : List RecordingOp} {moves : List Move}
    (h : Stretch pass ops moves) :
    (tape.dirty || !(emitted moves).isEmpty) = false ↔
      tape.dirty = false ∧ ∀ op ∈ ops, op.Silent := by
  rw [← h.silent, Bool.or_eq_false_iff, Bool.not_eq_false', List.isEmpty_iff]

variable {groups : List (List RecordingOp)} {mss : List (List Move)}

/-- The moves of several stretches of operations, one after the other, are those of one stretch. -/
theorem stretch_flatten (h : List.Forall₂ (Stretch pass) groups mss) :
    Stretch pass groups.flatten mss.flatten := by
  induction h with
  | nil => exact .nil
  | cons hops _ ih => exact hops.append ih

/-- On a list that is not being recorded, ends between the stretches lose nothing exactly under the
condition on the stretches. -/
theorem handed_cut_iff_of_idle (hopening : ∀ useRenderPass, Opening (opening useRenderPass))
    (hfalse : opening false = []) (h : List.Forall₂ (Stretch pass) groups mss)
    (hidle : tape.recording = false) :
    (mss.foldl (cut opening) tape).handed = (tape.moves opening mss.flatten).handed ↔
      tape.EndsKeep opening pass groups := by
  have hnot : ¬ tape.recording = true := by
    rw [hidle]
    exact Bool.false_ne_true
  obtain ⟨hnone, hsome⟩ := foldl_cut_of_idle opening h hidle
  obtain ⟨hearlier, hlast⟩ := stretch_splitLast h
  rw [EndsKeep, if_neg hnot, held, if_neg hnot]
  by_cases hnil : (splitLast groups).2 = []
  · have hmss : mss.flatten = [] := (splitLast_snd_eq_nil_iff mss).mp (hlast.empty hnil)
    rw [hnone hnil, hmss]
    exact iff_of_true rfl (Or.inl (splitLast_fst_of_nil hnil))
  · have hall := stretch_flatten h
    have hne : groups.flatten ≠ [] := fun hflat =>
      hnil ((splitLast_snd_eq_nil_iff groups).mpr hflat)
    have hends := (hsome hnil).handed
    have hplain := (cut_of_idle opening hall hne hidle).handed
    rw [cut, handed_stop] at hplain
    have hemitted : emitted mss.flatten
        = emitted (splitLast mss).1 ++ emitted (splitLast mss).2 := by
      rw [← splitLast_flatten mss, emitted_append]
    have hopens : ∀ command ∈ emitted (splitLast mss).1 ++ emitted (splitLast mss).2,
        command.opensPass = false := hemitted ▸ hall.plain.opensPass
    rw [hends, hplain, ite_eq_ite_iff, touched_eq_false_iff hall, hemitted,
      closed_eq_iff (hopening _) (hopening _) hopens, hearlier.silent, ← splitLast_flatten groups]
    -- without lost operations both runs hand over the same list
    by_cases hfst : (splitLast groups).1 = []
    · refine iff_of_true (Or.inr ⟨?_, ?_⟩) (Or.inl hfst)
      · rw [hfst]
        exact fun _ hmem => absurd hmem List.not_mem_nil
      · rw [hfst, List.nil_append]
    · rw [firstUse_append hfst, or_iff_right hfst]
      constructor
      · rintro (hclean | ⟨hsilent, hagree⟩)
        · exact Or.inr hclean
        · rw [firstUse_of_silent hsilent, hfalse] at hagree
          exact Or.inl ⟨hsilent, hagree⟩
      · rintro (⟨hsilent, hagree⟩ | hclean)
        · refine Or.inr ⟨hsilent, ?_⟩
          rw [firstUse_of_silent hsilent, hfalse]
          exact hagree
        · exact Or.inl hclean

/-- On a list that is being recorded, ends between the stretches lose nothing exactly under the
condition on the stretches and what it holds. -/
theorem handed_cut_iff_of_recording (hopening : ∀ useRenderPass, Opening (opening useRenderPass))
    (hbegun : tape.Begun opening) (h : List.Forall₂ (Stretch pass) groups mss)
    (hrec : tape.recording = true) :
    (mss.foldl (cut opening) tape).handed = (tape.moves opening mss.flatten).handed ↔
      tape.EndsKeep opening pass groups := by
  rw [EndsKeep, if_pos hrec, held, if_pos hrec]
  cases h with
  | nil => exact iff_of_true rfl (Or.inl rfl)
  | @cons ops moves rest mss hops hrest =>
      rw [List.tail_cons, List.foldl_cons, List.flatten_cons, List.flatten_cons]
      have hcut : (tape.cut opening moves).recording = false := recording_stop _
      obtain ⟨hnone, hsome⟩ := foldl_cut_of_idle opening hrest hcut
      obtain ⟨hearlier, hlast⟩ := stretch_splitLast hrest
      by_cases hnil : (splitLast rest).2 = []
      · -- no operation follows the first end
        have hflat : rest.flatten = [] := (splitLast_snd_eq_nil_iff rest).mp hnil
        have hmss : mss.flatten = [] := (splitLast_snd_eq_nil_iff mss).mp (hlast.empty hnil)
        rw [hnone hnil, hmss, List.append_nil, cut, handed_stop]
        exact iff_of_true rfl (Or.inl hflat)
      · -- the list being recorded, with the first operations added, is closed and lost
        have hflat : rest.flatten ≠ [] := fun hflat =>
          hnil ((splitLast_snd_eq_nil_iff rest).mpr hflat)
        obtain ⟨use, body, hcommands, hclosing, hbody⟩ := hbegun hrec
        have hall := hops.append (stretch_flatten hrest)
        have hfirst := (moves_extends_of_recording opening hops.plain hrec).ended hrec
        have hplain := ((moves_extends_of_recording opening hall.plain hrec).ended
          hrec).handed
        have hends := (hsome hnil).handed
        have hemitted : emitted (moves ++ mss.flatten)
            = (emitted moves ++ emitted (splitLast mss).1) ++ emitted (splitLast mss).2 := by
          rw [← splitLast_flatten mss, emitted_append, emitted_append, List.append_assoc]
        have hlost : ∀ command ∈ body ++ (emitted moves ++ emitted (splitLast mss).1)
            ++ emitted (splitLast mss).2, command.opensPass = false := by
          rw [List.append_assoc, ← hemitted]
          exact List.forall_mem_append.mpr ⟨hbody, hall.plain.opensPass⟩
        have hfirstDirty : (tape.cut opening moves).dirty
            = (tape.dirty || !(emitted moves).isEmpty) := hfirst.dirty
        rw [handed_stop, hcommands, hclosing] at hplain
        rw [hfirstDirty, ← dirty_append, ← emitted_append] at hends
        rw [hends, hplain, ite_eq_ite_iff, touched_eq_false_iff hall]
        have hlist : opening use ++ body ++ emitted (moves ++ mss.flatten)
            = opening use ++ (body ++ (emitted moves ++ emitted (splitLast mss).1)
                ++ emitted (splitLast mss).2) := by
          simp only [hemitted, List.append_assoc]
        rw [hlist, closed_eq_iff (hopening _) (hopening _) hlost, List.append_eq_nil_iff,
          ← emitted_append, (hops.append hearlier).silent, hcommands,
          append_eq_opening_iff (hopening _) (hopening _) hbody, splitLast_cons_of_ne_nil hnil,
          or_iff_right hflat]
        -- both sides are now the same three cases, in another order
        tauto

/-- **When ends lose nothing**: on any list, being recorded or not, exactly under the condition. -/
theorem handed_cut_iff (hopening : ∀ useRenderPass, Opening (opening useRenderPass))
    (hfalse : opening false = []) (hbegun : tape.Begun opening)
    (h : List.Forall₂ (Stretch pass) groups mss) :
    (mss.foldl (cut opening) tape).handed = (tape.moves opening mss.flatten).handed ↔
      tape.EndsKeep opening pass groups := by
  cases hrec : tape.recording with
  | true => exact handed_cut_iff_of_recording hopening hbegun h hrec
  | false => exact handed_cut_iff_of_idle hopening hfalse h hrec

/-- Moves with ends between them hand nothing to the queue, however many there are. -/
theorem deliveries_foldl_cut (opening : Bool → List Command) (tape : Tape)
    (mss : List (List Move)) :
    (mss.foldl (cut opening) tape).ledger.deliveries = tape.ledger.deliveries := by
  induction mss generalizing tape with
  | nil => rfl
  | cons moves mss ih =>
      rw [List.foldl_cons, ih, cut, deliveries_stop, deliveries_moves]

end Tape

/-! ## Runs of the list -/

/-- The commands of all submissions so far, in the order in which they were handed over. -/
def Ledger.delivered (ledger : Ledger) : List Command := ledger.deliveries.flatMap (·.commands)

/-- After a submit the commands of all submissions are those from before, and what it hands over. -/
theorem Tape.delivered_submit (tape : Tape) :
    tape.stop.deliver.ledger.delivered = tape.ledger.delivered ++ tape.handed := by
  rw [handed, Ledger.delivered, Ledger.delivered, ← tape.deliveries_stop, deliver]
  by_cases h : tape.stop.Ready
  · rw [if_pos h, if_pos h]
    simp [Ledger.submit]
  · rw [if_neg h, if_neg h, List.append_nil]

namespace CommandList

variable {env : Environment} {list list' : CommandList} {op : ListOp} {ops : List ListOp}

/-- **A run with ends.** It follows the same moves as the run without, in stretches that are each
cut. -/
theorem run_withEnds {groups : List (List RecordingOp)} {script : List Move × World}
    (h : RecordingOp.script env list.pass list.device list.world groups.flatten = .ok script) :
    ∃ (mss : List (List Move)) (tape : Tape), mss.flatten = script.1 ∧
      List.Forall₂ (Stretch list.pass) groups mss ∧
      runSteps (step env) list (withEnds groups)
        = .ok { list with tape := tape, world := script.2 } ∧
      tape.stop = (mss.foldl (Tape.cut list.opening) list.tape).stop := by
  induction groups generalizing list script with
  | nil =>
      cases h
      exact ⟨[], list.tape, rfl, .nil, rfl, rfl⟩
  | cons ops rest ih =>
      rw [List.flatten_cons] at h
      obtain ⟨first, second, hfirst, hsecond, rfl⟩ := script_append_ok_iff.mp h
      have hstretch := (stretch_script hfirst).1
      have hrun : runSteps (step env) list (ops.map .recording) = .ok (list.follow first) := by
        rw [run_recordings, hfirst]
        rfl
      cases rest with
      | nil =>
          cases hsecond
          refine ⟨[first.1], list.tape.moves list.opening first.1, rfl, .cons hstretch .nil, hrun,
            ?_⟩
          exact (Tape.stop_stop _).symm
      | cons next rest =>
          -- the world goes on as without the `end`, so the rest of the run is that of the tail
          let mid : CommandList :=
            { list with tape := list.tape.cut list.opening first.1, world := first.2 }
          have hmid : mid.opening = list.opening :=
            opening_congr rfl rfl (stretch_script hfirst).2
          have htail : RecordingOp.script env mid.pass mid.device mid.world
              (next :: rest).flatten = .ok second := hsecond
          obtain ⟨mss, tape, hflat, hmss, hrest, htape⟩ := ih htail
          refine ⟨first.1 :: mss, tape, by rw [List.flatten_cons, hflat], .cons hstretch hmss, ?_,
            ?_⟩
          · show runSteps (step env) list
              (ops.map .recording ++ .stop :: withEnds (next :: rest)) = _
            have hstop : (list.follow first).step env .stop = .ok mid := rfl
            rw [runSteps_append_of_ok hrun, runSteps_cons_of_ok hstop]
            exact hrest
          · rw [htape, hmid]
            rfl

/-- The list is one of its beginnings and commands that open no render pass. -/
theorem begun_step (h : list.tape.Begun list.opening) (hstep : list.step env op = .ok list') :
    list'.tape.Begun list'.opening := by
  -- a list that is begun again is just its beginning
  have hrecord : ∀ useRenderPass,
      (list.tape.record (list.opening useRenderPass)).Begun list.opening := by
    intro useRenderPass _
    cases hrec : list.tape.recording with
    | true =>
        rw [Tape.record, if_pos hrec]
        exact h hrec
    | false =>
        obtain ⟨hcommands, hclosing, -, -⟩ := Tape.record_of_idle (list.opening useRenderPass) hrec
        refine ⟨useRenderPass, [], ?_, hclosing, fun _ hmem => absurd hmem List.not_mem_nil⟩
        rw [hcommands, List.append_nil]
  cases op with
  | begin =>
      cases hstep
      exact hrecord _
  | stop =>
      cases hstep
      intro hrec
      cases (Tape.recording_stop _).symm.trans hrec
  | submit =>
      cases hstep
      intro hrec
      rw [tape_submit, Tape.recording_deliver, Tape.recording_stop] at hrec
      cases hrec
  | synchronize =>
      cases hstep
      exact h
  | recording op =>
      obtain ⟨recipe, hrecipe, rfl⟩ := exists_of_map_eq_ok hstep
      have hstretch := RecordingOp.stretch hrecipe
      have hextends : (list.follow recipe).tape.Extends _ _ :=
        Tape.moves_extends hstretch.plain hstretch.recorded hstretch.first
      have hopening : (list.follow recipe).opening = list.opening :=
        opening_congr rfl rfl (RecordingOp.passes_recipe hrecipe)
      rw [hopening]
      intro _
      obtain ⟨use, body, hcommands, hclosing, hbody⟩ :=
        hrecord (op.usesRenderPass list.pass) (Tape.recording_record ..)
      refine ⟨use, body ++ emitted recipe.1, ?_, ?_, ?_⟩
      · exact hextends.commands.trans (by rw [hcommands, List.append_assoc])
      · have hpass : (list.follow recipe).tape.inPass
            = (list.tape.record (list.opening (op.usesRenderPass list.pass))).inPass :=
          hextends.inPass
        rw [← hclosing, Tape.closing, Tape.closing, hpass]
      · exact List.forall_mem_append.mpr ⟨hbody, hstretch.plain.opensPass⟩

/-- A run keeps the list one of its beginnings and commands that open no render pass. -/
theorem begun_run (h : list.tape.Begun list.opening)
    (hrun : runSteps (step env) list ops = .ok list') : list'.tape.Begun list'.opening :=
  runSteps_preserves (fun list => list.tape.Begun list.opening)
    (fun _ _ _ hs _ hstep => begun_step hs hstep) h
    (stepsMeet_of_forall_mem fun _ _ => trivial) hrun

end CommandList

/-! ## Runs of the chain -/

namespace Session

variable {env : Environment} {s t : Session}

/-- The commands of a chain that reached the queue, in order, as its log has them. -/
def delivered (s : Session) : List Command := (ledger s.data.cmd.log).delivered

/-- When ending the chain between the groups of operations loses nothing. -/
def EndsKeep (s : Session) (groups : List (List RecordingOp)) : Prop :=
  s.data.tape.EndsKeep s.list.opening s.data.pass groups

/-- **When an explicit end loses nothing.** Take a chain without a parent that was just initialised
and used in `Sequential` mode in any way. Whenever a run over some recording operations and a submit
returns, so does the run with the chain ended any number of times in between, and it delivers the
same commands exactly if `EndsKeep` holds at the start of the two runs. -/
theorem ends_keep_commands (env : Environment) (start s u : Session) (history : List ListOp)
    (groups : List (List RecordingOp)) (hinit : start.data.JustInitialized env start.world.passes)
    (hhistory : runSteps (ListOp.step env) start history = .ok s)
    (hrun : runSteps (ListOp.step env) s (groups.flatten.map .recording ++ [.submit]) = .ok u) :
    ∃ t, runSteps (ListOp.step env) s (withEnds groups ++ [.submit]) = .ok t ∧
      (t.delivered = u.delivered ↔ s.EndsKeep groups) := by
  have hfresh := hinit.fresh.sequential_data
  have hseq := sequential_run hfresh hhistory
  have hbegun : s.data.tape.Begun s.list.opening := by
    refine CommandList.begun_run ?_ (list_run hfresh hhistory)
    intro hrec
    cases hinit.fresh.idle.symm.trans hrec
  -- the run without ends follows the script of all operations
  obtain ⟨mid, hmid, hsubmit⟩ := runSteps_append_ok_iff.mp (list_run hseq hrun)
  rw [CommandList.run_recordings] at hmid
  cases hscript : RecordingOp.script env s.list.pass s.list.device s.list.world groups.flatten with
  | error failure =>
      rw [hscript] at hmid
      cases hmid
  | ok script =>
      rw [hscript] at hmid
      cases hmid
      rw [runSteps_singleton] at hsubmit
      have hu : u.list = (s.list.follow script).submit env := (Except.ok.inj hsubmit).symm
      -- the run with ends follows it too, cut into stretches
      obtain ⟨mss, tape, hflat, hmss, hends, htape⟩ := CommandList.run_withEnds hscript
      have hlast : runSteps (CommandList.step env)
          { s.list with tape := tape, world := script.2 } [.submit]
            = .ok (CommandList.submit env { s.list with tape := tape, world := script.2 }) := rfl
      obtain ⟨t, ht, hlist⟩ := exists_run_of_list hseq
        (runSteps_append_ok_iff.mpr ⟨_, hends, hlast⟩)
      refine ⟨t, ht, ?_⟩
      have htDelivered : t.delivered = s.delivered ++ (mss.foldl (Tape.cut s.list.opening)
          s.data.tape).handed := by
        show t.list.tape.ledger.delivered = _
        rw [hlist, CommandList.tape_submit, Tape.delivered_submit, ← tape.handed_stop, htape,
          Tape.handed_stop, Ledger.delivered, ← tape.deliveries_stop, htape, Tape.deliveries_stop,
          Tape.deliveries_foldl_cut]
        rfl
      have huDelivered : u.delivered = s.delivered ++ (s.data.tape.moves s.list.opening
          mss.flatten).handed := by
        show u.list.tape.ledger.delivered = _
        rw [hu, CommandList.tape_submit, Tape.delivered_submit, hflat, Ledger.delivered]
        show List.flatMap _ (s.data.tape.moves s.list.opening script.1).ledger.deliveries ++ _ = _
        rw [Tape.deliveries_moves]
        rfl
      rw [htDelivered, huDelivered, List.append_cancel_left_eq]
      exact Tape.handed_cut_iff s.list.opening_spec (s.list.opening_false) hbegun hmss

/-- A single copy, with the chain ended before it and after it. -/
def endedAround : List (List RecordingOp) :=
  [[], [.copyBuffer ⟨.array 0, 0⟩ ⟨.array 1, 0⟩ 4 1 0 0], []]

/-- Ending a new chain before the first and after the last operation loses nothing. -/
theorem ends_keep_commands_endedAround :
    ∃ t u, runSteps (ListOp.step .inert) newGraphics (withEnds endedAround ++ [.submit]) = .ok t ∧
      runSteps (ListOp.step .inert) newGraphics
        (endedAround.flatten.map .recording ++ [.submit]) = .ok u ∧
      t.delivered = u.delivered := by
  obtain ⟨t, ht, hiff⟩ := ends_keep_commands .inert newGraphics newGraphics _ [] endedAround
    (.type 0 .graphics) rfl rfl
  have hfirst : (splitLast endedAround).1 = [] := rfl
  exact ⟨t, _, ht, rfl, hiff.mpr (Or.inl hfirst)⟩

/-- Ends do not always keep the commands: an `end` between two copies loses the first one. -/
theorem not_ends_keep_commands :
    ¬ ∀ (env : Environment) (s t u : Session) (groups : List (List RecordingOp)),
      s.data.JustInitialized env s.world.passes →
        runSteps (ListOp.step env) s (groups.flatten.map .recording ++ [.submit]) = .ok u →
          runSteps (ListOp.step env) s (withEnds groups ++ [.submit]) = .ok t →
            t.delivered = u.delivered := by
  intro h
  have hsame := h .inert newGraphics _ _
    [[.copyBuffer ⟨.array 0, 0⟩ ⟨.array 1, 0⟩ 4 1 0 0],
      [.copyBuffer ⟨.array 1, 0⟩ ⟨.array 2, 0⟩ 4 1 0 0]] (.type 0 .graphics) rfl rfl
  revert hsame
  decide +kernel

end Session

end Nyx
