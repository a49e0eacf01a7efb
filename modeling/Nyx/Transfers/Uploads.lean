import Nyx.Recording.Scripts
import Nyx.Transfers.ReadyPools

/-! # Uploads

`Chain::copy( host, array )` writes the bytes into a staging buffer at the call and records a copy
out of it, which the GPU makes at the submit. All uploads of a recording get the same staging
buffer, so the later ones overwrite what the earlier ones wrote before any of it is read.

* **`Upload`**, **`Upload.Fits`** — the arguments of such a copy, and that it fits.
* **`CommandList.run_uploads`** — what the staging buffer holds after any number of them.
* **`executeCommands_copies`** — what the recorded copies do to the arrays.
* **`Session.uploads_arrive`** — when every array receives its bytes. -/

namespace Nyx

open Foundations

/-- The arguments of `Chain::copy( host, array )`, in the order of the call. -/
structure Upload where
  src : List UInt8
  dst : Buffer
  copyAmt : Nat
  elementSize : Nat
  srcOffset : Nat
  dstOffset : Nat

namespace Upload

/-- The operation of the chain that the call is. -/
def op (upload : Upload) : RecordingOp :=
  .upload upload.src upload.dst upload.copyAmt upload.elementSize upload.srcOffset upload.dstOffset

/-- How many bytes an upload is to copy from the host. -/
def byteSize (upload : Upload) : Nat := upload.copyAmt * upload.elementSize

/-- The bytes that an upload copies, from its offset in the source on. -/
def bytes (upload : Upload) : List UInt8 :=
  (upload.src.drop upload.srcOffset).take upload.byteSize

/-- The copy the call records out of the staging buffer. -/
def copy (staging : BufferHandle) (upload : Upload) : Command :=
  .copyBuffer staging upload.dst.handle ⟨0, upload.dstOffset, upload.byteSize⟩

/-- The destination is an array, the source has the bytes, and they fit the array and a staging
buffer. -/
structure Fits (upload : Upload) (memory : DeviceMemory) : Prop where
  array : ∃ id, upload.dst.handle = .array id
  source : upload.srcOffset + upload.byteSize ≤ upload.src.length
  staging : upload.byteSize ≤ stagingBufferSize
  target : upload.dstOffset + upload.byteSize ≤ (memory upload.dst.handle).size

variable {upload : Upload} {memory : DeviceMemory}

/-- An upload that fits copies as many bytes as it says, for the source has them. -/
theorem Fits.length_bytes (h : upload.Fits memory) : upload.bytes.length = upload.byteSize := by
  have hsource := h.source
  rw [bytes, List.length_take, List.length_drop]
  omega

/-- The size of an upload that fits does not overflow an `unsigned`. -/
theorem Fits.byteSize_mod (h : upload.Fits memory) :
    upload.copyAmt * upload.elementSize % 2 ^ 32 = upload.byteSize := by
  have hstaging := h.staging
  rw [stagingBufferSize] at hstaging
  exact Nat.mod_eq_of_lt (show upload.byteSize < 2 ^ 32 by omega)

end Upload

/-! ## Recording the uploads -/

section Recording

variable {env : Environment} {device : Option Nat} {world : World} {staging : StagingBuffer}
  {rest : List StagingBuffer}

/-- A pool that has a buffer is looked at as it is, for any device. -/
theorem World.primed_of_cons (h : world.staging = staging :: rest) :
    world.primed env device = world := by
  rw [primed, if_neg (by rw [h]; exact List.cons_ne_nil _ _)]

/-- The world after uploads of the given bytes through one staging buffer. -/
def World.uploaded (world : World) (staging : StagingBuffer) (written : List (List UInt8)) :
    World :=
  { world with
    memory := Function.update world.memory (.staging staging.id)
      (written.foldl (fun block bytes => block.write 0 bytes)
        (world.memory (.staging staging.id))) }

/-- Uploads to a staging buffer write to no array. -/
theorem World.memory_uploaded_array (world : World) (staging : StagingBuffer)
    (written : List (List UInt8)) (id : Nat) :
    (world.uploaded staging written).memory (.array id) = world.memory (.array id) := by
  simp only [uploaded, Function.update_of_ne (BufferHandle.array_ne_staging id _)]

/-- Uploads in a row through one staging buffer are as all of them together. -/
theorem World.uploaded_uploaded (world : World) (staging : StagingBuffer)
    (xss yss : List (List UInt8)) :
    (world.uploaded staging xss).uploaded staging yss = world.uploaded staging (xss ++ yss) := by
  simp only [uploaded, List.foldl_append, Function.update_self, Function.update_idem]

/-- One upload that fits records one copy from the first staging buffer, which it writes its bytes
to. -/
theorem Upload.recipe_eq (pass : Option PassId) {upload : Upload} {memory : DeviceMemory}
    (hworld : world.Ready)
    (hpool : (world.primed env device).staging = staging :: rest) (hfit : upload.Fits memory) :
    upload.op.recipe env pass device world
      = .ok ([.record false, .each none [upload.copy (.staging staging.id)]],
          (world.primed env device).uploaded staging [upload.bytes]) := by
  have hprimed : (world.primed env device).Ready := hworld.primed
  obtain ⟨head, tail, hhead, hfind⟩ := hworld.findStaging env device
  obtain ⟨rfl, rfl⟩ := List.cons.inj (hpool.symm.trans hhead)
  have hlarge : upload.byteSize ≤ staging.byteSize :=
    Nat.le_trans hfit.staging (hprimed.large staging (by rw [hpool]; exact List.mem_cons_self))
  have hamt : ¬ upload.byteSize > staging.byteSize := Nat.not_lt.mpr hlarge
  rw [Upload.op, RecordingOp.recipe, hfind]
  -- the buffer is locked during the call; writing to it and unlocking it commute
  simp only [hfit.byteSize_mod, copyBufferMoves]
  have hwritten : ((world.primed env device).setLocked staging.id true).copyToDevice
      { staging with locked := true } upload.src upload.byteSize upload.srcOffset
        = ((world.primed env device).uploaded staging [upload.bytes]).setLocked staging.id true
      := by
    simp only [World.copyToDevice, if_neg hamt]
    rfl
  have hready : ((world.primed env device).uploaded staging [upload.bytes]).Ready :=
    hprimed.congr rfl rfl fun _ => World.size_update_write ..
  rw [hwritten, hready.setLocked_setLocked]
  rfl

/-- An upload that fits, and then others that record their copies, record all of them in order. -/
theorem script_uploads_cons (pass : Option PassId) {memory : DeviceMemory} {upload : Upload}
    (uploads : List Upload) (hworld : world.Ready)
    (hpool : (world.primed env device).staging = staging :: rest) (hfit : upload.Fits memory)
    (hrest : ∃ moves, emitted moves = uploads.map (Upload.copy (.staging staging.id)) ∧
      RecordingOp.script env pass device ((world.primed env device).uploaded staging
          [upload.bytes]) (uploads.map Upload.op)
        = .ok (moves, ((world.primed env device).uploaded staging [upload.bytes]).uploaded staging
            (uploads.map Upload.bytes))) :
    ∃ moves, emitted moves = (upload :: uploads).map (Upload.copy (.staging staging.id)) ∧
      RecordingOp.script env pass device world ((upload :: uploads).map Upload.op)
        = .ok (moves, (world.primed env device).uploaded staging
            ((upload :: uploads).map Upload.bytes)) := by
  obtain ⟨moves, hemitted, hscript⟩ := hrest
  have hhead := Upload.recipe_eq pass hworld hpool hfit
  refine ⟨[.record false, .each none [upload.copy (.staging staging.id)]] ++ moves, ?_, ?_⟩
  · simp [hemitted, Move.emitted]
  · rw [List.map_cons, script_cons_ok_iff]
    exact ⟨_, _, hhead, hscript, by rw [World.uploaded_uploaded]; rfl⟩

/-- **Any number of uploads** that fit record their copies in order, into a pool that has a
buffer. -/
theorem script_uploads (env : Environment) (pass : Option PassId) (device : Option Nat)
    {memory : DeviceMemory} (uploads : List Upload) (hworld : world.Ready)
    (hpool : world.staging = staging :: rest) (hfit : ∀ upload ∈ uploads, upload.Fits memory) :
    ∃ moves, emitted moves = uploads.map (Upload.copy (.staging staging.id)) ∧
      RecordingOp.script env pass device world (uploads.map Upload.op)
        = .ok (moves, world.uploaded staging (uploads.map Upload.bytes)) := by
  induction uploads generalizing world with
  | nil =>
      have hsame : world.uploaded staging [] = world := by
        simp only [World.uploaded, List.foldl_nil, Function.update_eq_self]
      exact ⟨[], rfl, by rw [List.map_nil, List.map_nil, hsame]; rfl⟩
  | cons upload uploads ih =>
      have hsame : world.primed env device = world := World.primed_of_cons hpool
      have hready : (world.uploaded staging [upload.bytes]).Ready :=
        hworld.congr rfl rfl fun _ => World.size_update_write ..
      -- the pool has a buffer, so `findStaging` adds none
      have hcons := script_uploads_cons pass uploads hworld (hsame.symm ▸ hpool)
        (hfit upload List.mem_cons_self)
      rw [hsame] at hcons
      exact hcons (ih hready hpool fun other hmem => hfit other (List.mem_cons_of_mem _ hmem))

/-- Any number of uploads that fit, at least one, record their copies in order, into any ready
pool. -/
theorem script_uploads_of_ne_nil (pass : Option PassId) {memory : DeviceMemory}
    {uploads : List Upload} (hne : uploads ≠ []) (hworld : world.Ready)
    (hpool : (world.primed env device).staging = staging :: rest)
    (hfit : ∀ upload ∈ uploads, upload.Fits memory) :
    ∃ moves, emitted moves = uploads.map (Upload.copy (.staging staging.id)) ∧
      RecordingOp.script env pass device world (uploads.map Upload.op)
        = .ok (moves, (world.primed env device).uploaded staging (uploads.map Upload.bytes)) := by
  cases uploads with
  | nil => exact absurd rfl hne
  | cons upload uploads =>
      have hprimed : (world.primed env device).Ready := hworld.primed
      have hready : ((world.primed env device).uploaded staging [upload.bytes]).Ready :=
        hprimed.congr rfl rfl fun _ => World.size_update_write ..
      -- from the first upload on the pool has a buffer, and it stays the first one
      exact script_uploads_cons pass uploads hworld hpool (hfit upload List.mem_cons_self)
        (script_uploads env pass device uploads hready hpool
          fun other hmem => hfit other (List.mem_cons_of_mem _ hmem))

end Recording

/-! ## Executing the copies -/

section Executing

variable {effect : Command → DeviceMemory → DeviceMemory} {staging : BufferHandle}
  {uploads : List Upload}

/-- Copies leave a buffer alone that is none of their destinations. -/
theorem executeCommands_copies_of_ne (memory : DeviceMemory) {handle : BufferHandle}
    (h : ∀ upload ∈ uploads, upload.dst.handle ≠ handle) :
    executeCommands effect (uploads.map (Upload.copy staging)) memory handle = memory handle := by
  induction uploads generalizing memory with
  | nil => rfl
  | cons upload uploads ih =>
      refine (ih _ fun upload' hmem => h upload' (List.mem_cons_of_mem _ hmem)).trans ?_
      exact Function.update_of_ne (h upload List.mem_cons_self).symm _ _

/-- **Copies out of one buffer.** When their destinations are different buffers, each receives what
the source holds at the start. -/
theorem executeCommands_copies (memory : DeviceMemory)
    (hsource : ∀ upload ∈ uploads, upload.dst.handle ≠ staging)
    (hnodup : (uploads.map (·.dst.handle)).Nodup) {upload : Upload} (hmem : upload ∈ uploads) :
    executeCommands effect (uploads.map (Upload.copy staging)) memory upload.dst.handle
      = (memory upload.dst.handle).write upload.dstOffset
          ((memory staging).read 0 upload.byteSize) := by
  induction uploads generalizing memory with
  | nil => cases hmem
  | cons first uploads ih =>
      obtain ⟨hnotMem, hrest⟩ := List.nodup_cons.mp hnodup
      have hothers : ∀ other ∈ uploads, other.dst.handle ≠ first.dst.handle := by
        intro other hother heq
        exact hnotMem (List.mem_map.mpr ⟨other, hother, heq⟩)
      let next : DeviceMemory := Function.update memory first.dst.handle
        ((memory first.dst.handle).write first.dstOffset ((memory staging).read 0 first.byteSize))
      show executeCommands effect (uploads.map (Upload.copy staging)) next upload.dst.handle = _
      rcases List.mem_cons.mp hmem with rfl | htail
      · -- the later copies go elsewhere
        rw [executeCommands_copies_of_ne next hothers]
        exact Function.update_self ..
      · -- the first copy touched neither the source nor this destination
        have hstaging : next staging = memory staging :=
          Function.update_of_ne (hsource first List.mem_cons_self).symm _ _
        have hdst : next upload.dst.handle = memory upload.dst.handle :=
          Function.update_of_ne (hothers upload htail) _ _
        rw [ih next (fun other hother => hsource other (List.mem_cons_of_mem _ hother)) hrest htail,
          hstaging, hdst]

end Executing

/-! ## Runs -/

/-- After an ended list was handed over nothing is recorded, and nothing waits for a submit. -/
theorem Tape.Ended.idle_deliver {tape : Tape} {commands : List Command} {touched : Bool}
    {deliveries : List Delivery} (h : tape.Ended commands touched deliveries) :
    tape.deliver.recording = false ∧ tape.deliver.dirty = false := by
  refine ⟨(tape.recording_deliver).trans h.recording, ?_⟩
  rw [deliver]
  split
  · rfl
  · rename_i hready
    exact Bool.eq_false_iff.mpr fun hdirty => hready ⟨h.hasRecord, hdirty⟩

/-- **Recording uploads** puts the bytes into the first staging buffer, and what a submit would hand
over is the copies out of it and nothing else. -/
theorem CommandList.record_uploads (env : Environment) (list : CommandList) {uploads : List Upload}
    (hne : uploads ≠ []) (hready : list.world.Ready) (hidle : list.tape.recording = false)
    (hfit : ∀ upload ∈ uploads, upload.Fits list.world.memory) :
    ∃ (list' : CommandList) (staging : StagingBuffer),
      staging ∈ (list.world.primed env list.device).staging ∧
      runSteps (step env) list (uploads.map (ListOp.recording ·.op)) = .ok list' ∧
      list'.world
        = (list.world.primed env list.device).uploaded staging (uploads.map Upload.bytes) ∧
      list'.tape.stop.Ended (uploads.map (Upload.copy (.staging staging.id))) true
        list.tape.ledger.deliveries := by
  obtain ⟨staging, rest, hpool, -⟩ := hready.findStaging env list.device
  obtain ⟨moves, hemitted, hscript⟩ := script_uploads_of_ne_nil list.pass hne hready
    hpool hfit
  refine ⟨list.follow (moves, (list.world.primed env list.device).uploaded staging
    (uploads.map Upload.bytes)), staging, by rw [hpool]; exact List.mem_cons_self, ?_, rfl, ?_⟩
  · have hmap : uploads.map (ListOp.recording ·.op)
        = (uploads.map Upload.op).map ListOp.recording := (List.map_map).symm
    rw [hmap, run_recordings, hscript]
    rfl
  · have hstretch := (stretch_script hscript).1
    have hops : uploads.map Upload.op ≠ [] := fun hnil => hne (List.map_eq_nil_iff.mp hnil)
    have hended := Tape.cut_of_idle list.opening hstretch hops hidle
    have hfirst : firstUse list.pass (uploads.map Upload.op) = false := by
      cases uploads with
      | nil => exact absurd rfl hne
      | cons upload uploads => rfl
    have hcopies : (uploads.map (Upload.copy (.staging staging.id))).isEmpty = false := by
      cases uploads with
      | nil => exact absurd rfl hne
      | cons upload uploads => rfl
    rw [hfirst, list.opening_false, hemitted, hcopies, Bool.not_false, Bool.or_true,
      List.nil_append, passEnd, List.isEmpty_nil, if_pos rfl, List.append_nil] at hended
    exact hended

/-- **A run of uploads.** After the submit every array that was uploaded to holds what the staging
buffer held after the last upload, the other arrays hold what they held, and nothing is recorded. -/
theorem CommandList.run_uploads (env : Environment) (list : CommandList) {uploads : List Upload}
    (hne : uploads ≠ []) (hready : list.world.Ready) (hidle : list.tape.recording = false)
    (hfit : ∀ upload ∈ uploads, upload.Fits list.world.memory)
    (hnodup : (uploads.map (·.dst.handle)).Nodup) :
    ∃ (list' : CommandList) (block : Block UInt8), stagingBufferSize ≤ block.size ∧
      runSteps (step env) list
        (uploads.map (ListOp.recording ·.op) ++ [.submit, .synchronize]) = .ok list' ∧
      (∀ upload ∈ uploads, list'.world.memory upload.dst.handle
        = (list.world.memory upload.dst.handle).write upload.dstOffset
            (((uploads.map Upload.bytes).foldl (fun block bytes => block.write 0 bytes)
              block).read 0 upload.byteSize)) ∧
      (∀ id, (∀ upload ∈ uploads, upload.dst.handle ≠ .array id) →
        list'.world.memory (.array id) = list.world.memory (.array id)) ∧
      list'.tape.recording = false ∧ list'.tape.dirty = false := by
  have hprimed : (list.world.primed env list.device).Ready := hready.primed
  obtain ⟨recorded, staging, hmem, hrun, hworld, hended⟩ :=
    record_uploads env list hne hready hidle hfit
  have hmemory := memory_submit env recorded hended
  rw [if_pos rfl] at hmemory
  -- what the arrays held before the uploads is what they hold before the submit
  have hold : ∀ id, recorded.world.memory (.array id) = list.world.memory (.array id) := by
    intro id
    rw [hworld, World.memory_uploaded_array, World.memory_primed_array]
  refine ⟨recorded.submit env, (list.world.primed env list.device).memory (.staging staging.id),
    ?_, runSteps_append_ok_iff.mpr ⟨recorded, hrun, rfl⟩, ?_, ?_, ?_⟩
  · rw [hprimed.backed staging hmem]
    exact hprimed.large staging hmem
  · intro upload hupload
    -- the copies read the staging buffer at the submit, when all uploads have written to it
    have harray : ∀ other ∈ uploads, other.dst.handle ≠ .staging staging.id := by
      intro other hother heq
      obtain ⟨id, hid⟩ := (hfit other hother).array
      cases hid.symm.trans heq
    obtain ⟨id, hid⟩ := (hfit upload hupload).array
    rw [hmemory, executeCommands_copies _ harray hnodup hupload, hid, hold, hworld]
    simp only [World.uploaded, Function.update_self]
  · intro id hother
    rw [hmemory, executeCommands_copies_of_ne _ hother]
    exact hold id
  · rw [tape_submit]
    exact hended.idle_deliver

/-- The bytes of an upload that fits arrive exactly when the staging buffer still holds them. -/
theorem Upload.Fits.arrives_iff {upload : Upload} {memory : DeviceMemory} {block : Block UInt8}
    (h : upload.Fits memory) (hblock : stagingBufferSize ≤ block.size) :
    ((memory upload.dst.handle).write upload.dstOffset (block.read 0 upload.byteSize)).read
        upload.dstOffset upload.bytes.length = upload.bytes ↔
      block.read 0 upload.bytes.length = upload.bytes := by
  have hstaging := h.staging
  have htarget := h.target
  have hlength : (block.read 0 upload.byteSize).length = upload.byteSize :=
    Block.length_read_of_le (by omega)
  have hread : ((memory upload.dst.handle).write upload.dstOffset
      (block.read 0 upload.byteSize)).read upload.dstOffset upload.byteSize
        = block.read 0 upload.byteSize := by
    have hwritten : ((memory upload.dst.handle).write upload.dstOffset
        (block.read 0 upload.byteSize)).read upload.dstOffset
          (block.read 0 upload.byteSize).length = _ :=
      Block.read_write (by rw [hlength]; exact htarget)
    rwa [hlength] at hwritten
  rw [h.length_bytes, hread]

namespace Session

variable {env : Environment} {s : Session}

/-- **When uploads arrive.** Take a chain without a parent that was just initialised, used in
`Sequential` mode in any way and is not recording now, and uploads that fit into different arrays.
Recording them one after another, one submit and one `synchronize` return, and every array holds the
bytes of its upload exactly if any two of the uploads agree where they overlap. -/
theorem uploads_arrive (env : Environment) (start s : Session) (history : List ListOp)
    (uploads : List Upload) (hinit : start.data.JustInitialized env start.world.passes)
    (hready : start.world.Ready) (hhistory : runSteps (ListOp.step env) start history = .ok s)
    (hidle : s.data.cmd.recording = false)
    (hfit : ∀ upload ∈ uploads, upload.Fits s.world.memory)
    (hnodup : (uploads.map (·.dst.handle)).Nodup) :
    ∃ t, runSteps (ListOp.step env) s
        (uploads.map (ListOp.recording ·.op) ++ [.submit, .synchronize]) = .ok t ∧
      ((∀ upload ∈ uploads, (t.world.memory upload.dst.handle).read upload.dstOffset
          upload.bytes.length = upload.bytes) ↔
        ∀ first ∈ uploads, ∀ second ∈ uploads,
          first.bytes <+: second.bytes ∨ second.bytes <+: first.bytes) := by
  have hfresh := hinit.fresh.sequential_data
  have hseq := sequential_run hfresh hhistory
  have hpool : s.list.world.Ready := CommandList.ready_run hready (list_run hfresh hhistory)
  by_cases hne : uploads = []
  · subst hne
    refine ⟨_, rfl, iff_of_true ?_ ?_⟩ <;> exact fun _ hmem => absurd hmem List.not_mem_nil
  · obtain ⟨list, block, hblock, hrun, hmemory, -, -⟩ :=
      CommandList.run_uploads env s.list hne hpool hidle hfit hnodup
    obtain ⟨t, ht, rfl⟩ := exists_run_of_list hseq hrun
    refine ⟨t, ht, ?_⟩
    have hbytes : ∀ xs ∈ uploads.map Upload.bytes, xs.length ≤ block.size := by
      intro xs hxs
      obtain ⟨upload, hmem, rfl⟩ := List.mem_map.mp hxs
      rw [(hfit upload hmem).length_bytes]
      exact Nat.le_trans (hfit upload hmem).staging hblock
    have hreads := Block.read_writes_iff hbytes
    rw [List.forall_mem_map] at hreads
    simp only [List.forall_mem_map] at hreads
    rw [← hreads]
    refine forall₂_congr fun upload hmem => ?_
    have hdst : t.world.memory upload.dst.handle = _ := hmemory upload hmem
    rw [hdst]
    exact (hfit upload hmem).arrives_iff (by rw [Block.size_writes]; exact hblock)

/-- An upload of up to eight bytes to one of these arrays. -/
def uploadTo (id : Nat) (src : List UInt8) : Upload := ⟨src, ⟨.array id, 0⟩, src.length, 1, 0, 0⟩

/-- An upload of up to eight bytes to one of these arrays fits. -/
theorem fits_uploadTo {id : Nat} {src : List UInt8} (h : src.length ≤ 8) :
    (uploadTo id src).Fits (newWithArrays 0).world.memory where
  array := ⟨id, rfl⟩
  source := by
    show 0 + src.length * 1 ≤ src.length
    omega
  staging := by
    show src.length * 1 ≤ 10000000
    omega
  target := by
    show 0 + src.length * 1 ≤ 8
    omega

/-- Two uploads that agree where they overlap both arrive. -/
theorem uploads_arrive_agreeing :
    ∃ t, runSteps (ListOp.step .inert) (newWithArrays 0)
        ([uploadTo 0 [1, 2], uploadTo 1 [1]].map (ListOp.recording ·.op)
          ++ [.submit, .synchronize]) = .ok t ∧
      ((∀ upload ∈ [uploadTo 0 [1, 2], uploadTo 1 [1]],
          (t.world.memory upload.dst.handle).read upload.dstOffset upload.bytes.length
            = upload.bytes) ↔
        ∀ first ∈ [uploadTo 0 [1, 2], uploadTo 1 [1]],
          ∀ second ∈ [uploadTo 0 [1, 2], uploadTo 1 [1]],
            first.bytes <+: second.bytes ∨ second.bytes <+: first.bytes) :=
  uploads_arrive .inert (newWithArrays 0) (newWithArrays 0) [] _ (.type 0 .graphics)
    (World.ready_of_nil rfl) rfl rfl (List.forall_mem_cons.mpr ⟨fits_uploadTo (by decide),
      List.forall_mem_singleton.mpr (fits_uploadTo (by decide))⟩) (by decide)

/-- Of two uploads of different bytes the first array receives what was meant for the second. -/
theorem not_uploads_arrive :
    ¬ ∀ (env : Environment) (s t : Session) (uploads : List Upload),
      s.data.JustInitialized env s.world.passes → s.world.Ready →
        (∀ upload ∈ uploads, upload.Fits s.world.memory) → (uploads.map (·.dst.handle)).Nodup →
          runSteps (ListOp.step env) s
            (uploads.map (ListOp.recording ·.op) ++ [.submit, .synchronize]) = .ok t →
            ∀ upload ∈ uploads, (t.world.memory upload.dst.handle).read upload.dstOffset
              upload.bytes.length = upload.bytes := by
  intro h
  have harrive := h .inert (newWithArrays 0) _ [uploadTo 0 [1], uploadTo 1 [2]] (.type 0 .graphics)
    (World.ready_of_nil rfl) (List.forall_mem_cons.mpr ⟨fits_uploadTo (by decide),
      List.forall_mem_singleton.mpr (fits_uploadTo (by decide))⟩) (by decide) rfl
  revert harrive
  decide +kernel

end Session

end Nyx
