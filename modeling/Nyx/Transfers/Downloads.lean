import Nyx.Transfers.LosslessRuns

/-! # Downloads

`Chain::copy( array, host )` records a copy of the array into a staging buffer, waits for the device
and at once reads the staging buffer back. The copy was not submitted, so the host receives what the
staging buffer held before.

* **`Download`** — the arguments of such a copy.
* **`World.staged`** — what the staging buffer holds that the call gets.
* **`CommandList.run_download`** — what a download does to the host.
* **`CommandList.expected`** — what it is to return: the bytes the array holds after every command
  recorded before it has executed, lost or not.
* **`Session.download_returns`** — when the host receives the bytes of the array. -/

namespace Nyx

open Foundations

/-- The arguments of `Chain::copy( array, host )`, in the order of the call. -/
structure Download where
  src : Buffer
  dst : Nat
  copyAmt : Nat
  elementSize : Nat
  srcOffset : Nat
  dstOffset : Nat

namespace Download

/-- The operation of the chain that the call is. -/
def op (download : Download) : RecordingOp :=
  .download download.src download.dst download.copyAmt download.elementSize download.srcOffset
    download.dstOffset

/-- How many bytes a download is to copy to the host. -/
def byteSize (download : Download) : Nat := download.copyAmt * download.elementSize

end Download

/-- What the staging buffer holds that `findStaging` hands out. -/
def World.staged (env : Environment) (world : World) (device : Option Nat) : Block UInt8 :=
  match (world.primed env device).staging with
  | [] => ⟨0, fun _ => 0⟩
  | staging :: _ => (world.primed env device).memory (.staging staging.id)

/-- After the end of a download the host holds the bytes of the staging buffer, from its beginning
on. -/
theorem host_readBackRecipe (device : Option Nat) (world : World) (staging : StagingBuffer)
    (dst byteSize : Nat) (h : byteSize ≤ staging.byteSize)
    (hbacked : (world.memory (.staging staging.id)).size = staging.byteSize) :
    ((readBackRecipe device world staging dst byteSize).2.host dst).take byteSize
      = (world.memory (.staging staging.id)).read 0 byteSize := by
  have hhost : (readBackRecipe device world staging dst byteSize).2.host dst
      = ((world.memory (.staging staging.id)).read 0 staging.byteSize).take byteSize
        ++ (world.host dst).drop (((world.memory (.staging staging.id)).read 0
            staging.byteSize).take byteSize).length :=
    Function.update_self ..
  have hlength : ((world.memory (.staging staging.id)).read 0 byteSize).length = byteSize :=
    Block.length_read_of_le (by omega)
  rw [hhost, Block.take_read _ 0 h, hlength]
  exact List.take_left' hlength

/-- **A download.** It fails when the staging buffer is too small, and otherwise the host receives
what the staging buffer held before the call. -/
theorem Download.recipe_cases (env : Environment) (pass : Option PassId) (device : Option Nat)
    {world : World} (download : Download) (hready : world.Ready)
    (hsize : download.byteSize < 2 ^ 32) :
    ((world.staged env device).size < download.byteSize ∧
        download.op.recipe env pass device world = .error .hostOverrun) ∨
      (download.byteSize ≤ (world.staged env device).size ∧
        ∃ recipe, download.op.recipe env pass device world = .ok recipe ∧
          (recipe.2.host download.dst).take download.byteSize
            = (world.staged env device).read 0 download.byteSize) := by
  have hprimed : (world.primed env device).Ready := hready.primed
  obtain ⟨staging, rest, hpool, hfind⟩ := hready.findStaging env device
  have hstaged : world.staged env device
      = (world.primed env device).memory (.staging staging.id) := by
    rw [World.staged, hpool]
  have hbacked : (world.staged env device).size = staging.byteSize := by
    rw [hstaged]
    exact hprimed.backed staging (by rw [hpool]; exact List.mem_cons_self)
  have hmod : download.copyAmt * download.elementSize % 2 ^ 32 = download.byteSize :=
    Nat.mod_eq_of_lt hsize
  simp only [Download.op, RecordingOp.recipe, hfind, hmod]
  by_cases hover : staging.byteSize < download.byteSize
  · exact Or.inl ⟨by rw [hbacked]; exact hover, if_pos hover⟩
  · -- the copy is only among the moves: the world that is read back is that of the call
    refine Or.inr ⟨by rw [hbacked]; exact Nat.le_of_not_lt hover, _, if_neg hover, ?_⟩
    rw [hstaged] at hbacked ⊢
    exact host_readBackRecipe (some download.src.device)
      ((world.primed env device).setLocked staging.id true) { staging with locked := true }
      download.dst download.byteSize (Nat.le_of_not_lt hover) hbacked

/-- A submit changes nothing in the memory of the host. -/
theorem CommandList.host_submit (env : Environment) (list : CommandList) :
    (list.submit env).world.host = list.world.host := by
  rw [submit]
  split
  · cases list.pass <;> rfl
  · rfl

/-- A run over a download, a submit and a `synchronize` fails if the staging buffer has less room
than the download, and else leaves on the host what the staging buffer held before the run. -/
theorem CommandList.run_download (env : Environment) (list : CommandList) (download : Download)
    (hready : list.world.Ready) (hsize : download.byteSize < 2 ^ 32) :
    ((list.world.staged env list.device).size < download.byteSize ∧
        runSteps (step env) list [.recording download.op, .submit, .synchronize]
          = .error .hostOverrun) ∨
      (download.byteSize ≤ (list.world.staged env list.device).size ∧
        ∃ list', runSteps (step env) list [.recording download.op, .submit, .synchronize]
            = .ok list' ∧
          (list'.world.host download.dst).take download.byteSize
            = (list.world.staged env list.device).read 0 download.byteSize) := by
  rcases download.recipe_cases env list.pass list.device hready hsize with
    ⟨hover, hrecipe⟩ | ⟨hfits, recipe, hrecipe, hhost⟩
  · refine Or.inl ⟨hover, runSteps_cons_of_error ?_⟩
    rw [step, hrecipe]
    rfl
  · have hstep : list.step env (.recording download.op) = .ok (list.follow recipe) := by
      rw [step, hrecipe]
      rfl
    -- the submit executes the copy too late, and `synchronize` does not read back again
    refine Or.inr ⟨hfits, (list.follow recipe).submit env, ?_, ?_⟩
    · rw [runSteps_cons_of_ok hstep]
      rfl
    · rw [host_submit]
      exact hhost

/-- The bytes a download is to return, at the end of a run that lost no list: those the array holds
after the commands recorded since the last submit have executed too. -/
def CommandList.expected (env : Environment) (all : CommandList) (download : Download) :
    List UInt8 :=
  (executeCommands env.effect all.tape.ledger.issued all.world.memory download.src.handle).read
    download.srcOffset download.byteSize

/-- As many bytes are expected as are copied, when the range lies in the array. -/
theorem CommandList.length_expected (env : Environment) (all : CommandList) (download : Download)
    (h : download.srcOffset + download.byteSize ≤ (all.world.memory download.src.handle).size) :
    (all.expected env download).length = download.byteSize :=
  Block.length_read_of_le (by rw [env.size_executeCommands]; exact h)

namespace Session

/-- **When a download returns the array.** Take a chain without a parent that was just initialised
and used in `Sequential` mode in any way, and a range of a buffer. Beside this use is a run of the
same operations that records the same and loses no list. A download of the range, a submit and a
`synchronize` return and leave at the host pointer the bytes that the range holds after all commands
recorded before have executed, exactly if the staging buffer that the download gets held these bytes
already. -/
theorem download_returns (env : Environment) (start s : Session) (history : List ListOp)
    (download : Download) (hinit : start.data.JustInitialized env start.world.passes)
    (hready : start.world.Ready) (hhistory : runSteps (ListOp.step env) start history = .ok s)
    (hsize : download.byteSize < 2 ^ 32)
    (hsource : download.srcOffset + download.byteSize ≤
      (s.world.memory download.src.handle).size) :
    ∃ all, runSteps (CommandList.stepAll env) start.list history = .ok all ∧
      all.tape = s.data.tape ∧
      ((∃ t, runSteps (ListOp.step env) s [.recording download.op, .submit, .synchronize] = .ok t ∧
          (t.world.host download.dst).take download.byteSize = all.expected env download) ↔
        (s.world.staged env s.data.queue.device).read 0 download.byteSize
          = all.expected env download) := by
  have hfresh := hinit.fresh.sequential_data
  have hseq := sequential_run hfresh hhistory
  have hlist := list_run hfresh hhistory
  have hpool : s.list.world.Ready := CommandList.ready_run hready hlist
  obtain ⟨all, hall, halike⟩ := CommandList.exists_runAll hlist
  refine ⟨all, hall, halike.tape, ?_⟩
  -- no buffer has another size in the run that loses nothing
  have hlength : (all.expected env download).length = download.byteSize := by
    refine all.length_expected env download ?_
    rw [halike.world.size]
    exact hsource
  rcases CommandList.run_download env s.list download hpool hsize with
    ⟨hover, hfail⟩ | ⟨-, list, hrun, hhost⟩
  · -- the download overruns the host block, and the staging buffer is too small for the range
    refine iff_of_false ?_ ?_
    · rintro ⟨t, hrun, -⟩
      cases hfail.symm.trans (list_run hseq hrun)
    · intro hread
      have hshort := Block.length_read_le (s.world.staged env s.data.queue.device) 0
        download.byteSize
      rw [hread, hlength] at hshort
      exact absurd hover (Nat.not_lt.mpr hshort)
  · obtain ⟨t, ht, rfl⟩ := exists_run_of_list hseq hrun
    constructor
    · rintro ⟨t', ht', hexpected⟩
      cases ht.symm.trans ht'
      exact hhost.symm.trans hexpected
    · intro hread
      exact ⟨t, ht, hhost.trans hread⟩

/-- A download of the first four bytes of an array of bytes. -/
def fourBytes : Download := ⟨⟨.array 0, 0⟩, 0, 4, 1, 0, 0⟩

/-- An array of zeros is returned, because the new staging buffer happens to hold zeros. -/
theorem download_returns_zeros :
    ∃ t, runSteps (ListOp.step .inert) (newWithArrays 0)
        [.recording fourBytes.op, .submit, .synchronize] = .ok t ∧
      (t.world.host fourBytes.dst).take fourBytes.byteSize
        = (newWithArrays 0).list.expected .inert fourBytes := by
  obtain ⟨all, hall, -, hiff⟩ := download_returns .inert (newWithArrays 0) (newWithArrays 0) []
    fourBytes (.type 0 .graphics) (World.ready_of_nil rfl) rfl (by decide) (by decide)
  cases hall
  exact hiff.mpr (by decide +kernel)

/-- An array of sevens is not: the host receives the zeros of the new staging buffer. -/
theorem not_download_returns :
    ¬ ∀ (env : Environment) (start s : Session) (all : CommandList) (history : List ListOp)
      (download : Download), start.data.JustInitialized env start.world.passes →
        start.world.Ready → runSteps (ListOp.step env) start history = .ok s →
          runSteps (CommandList.stepAll env) start.list history = .ok all →
            download.byteSize < 2 ^ 32 → download.srcOffset + download.byteSize ≤
              (s.world.memory download.src.handle).size →
              ∃ t, runSteps (ListOp.step env) s [.recording download.op, .submit, .synchronize]
                  = .ok t ∧
                (t.world.host download.dst).take download.byteSize = all.expected env download := by
  intro h
  have hready : (newWithArrays 7).world.Ready := World.ready_of_nil rfl
  have hinit : (newWithArrays 7).data.JustInitialized .inert (newWithArrays 7).world.passes :=
    .type 0 .graphics
  have hseq := hinit.fresh.sequential_data
  obtain ⟨t, hrun, hsevens⟩ := h .inert (newWithArrays 7) (newWithArrays 7) (newWithArrays 7).list
    [] fourBytes hinit hready rfl rfl (by decide) (by decide)
  rcases CommandList.run_download .inert (newWithArrays 7).list fourBytes hready (by decide) with
    ⟨-, hfail⟩ | ⟨-, list, hok, hzeros⟩
  · cases hfail.symm.trans (list_run hseq hrun)
  · cases hok.symm.trans (list_run hseq hrun)
    have hsame := hzeros.symm.trans hsevens
    revert hsame
    decide +kernel

end Session

/-- A copy that was ended and then lost still counts: its target is expected to hold the sevens of
the source, although the copy never executes. -/
example :
    let sevens : Session := { Session.newGraphics with
      world := { World.start with
        memory := fun handle => ⟨8, fun _ => if handle = .array 1 then 7 else 0⟩ } }
    (runSteps (CommandList.stepAll .inert) sevens.list
      [.recording (.copyBuffer ⟨.array 1, 0⟩ ⟨.array 0, 0⟩ 8 1 0 0), .stop,
        .recording (.copyBuffer ⟨.array 2, 0⟩ ⟨.array 3, 0⟩ 8 1 0 0)]).map
          (·.expected .inert Session.fourBytes) = .ok [7, 7, 7, 7] := by
  rfl

end Nyx
