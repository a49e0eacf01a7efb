import Nyx.Foundations.StepMachines
import Nyx.Memory.Buffers

/-! # Suballocations

`base + i` and `base + j` are two views of one device memory, each meant for the bytes from its own
offset on. A buffer bound to a view starts at the offset, but a transfer through a view starts at
the beginning of the device memory.

* **`Split`** — a memory with two views, and the range of each.
* **`Split.step`** — transfers through the views as inputs of a machine.
* **`Split.Isolated`** — what is asked of a transfer: it changes only bytes in the range of its
  view, and after it both views, and buffers bound to them, read what was last written through them.
* **`Split.isolated_iff`** — whatever the bytes, the transfers are isolated exactly when each of at
  least one byte goes through a view at offset `0`. -/

namespace Nyx

open Foundations

/-- The two suballocations of a memory, one behind the other. -/
inductive View
  | a | b
  deriving DecidableEq, Repr

/-- A memory of `n` bytes and two offsets into it, which split it into what each view is meant
for. -/
structure Split where
  base : Memory
  n : UInt32
  i : UInt32
  j : UInt32
  allocated : ∃ registry gpu hostAlloc,
    base = (({} : Memory).initializeOn registry gpu n hostAlloc).1
  lt : i < j
  le : j ≤ n

/-- `copyToDevice( src, byte_amt, src_offset )` through one of the views. -/
structure ViewCopy where
  view : View
  byteAmt : UInt32
  srcOffset : UInt32
  src : Nat → UInt8

/-- The bytes that a transfer is meant to move, from its place in the source on. -/
def ViewCopy.bytes (copy : ViewCopy) : List UInt8 :=
  (List.range copy.byteAmt.toNat).map fun k => copy.src (copy.srcOffset.toNat + k)

/-- The view and the amount of a transfer, without its bytes. -/
def ViewCopy.shape (copy : ViewCopy) : View × UInt32 := (copy.view, copy.byteAmt)

/-- What the device memories hold, and what was last written through each view. -/
structure Written where
  heap : DeviceHeap
  last : View → Option (List UInt8) := fun _ => none

namespace Split

/-- The offset of a view, where its range begins. -/
def start (split : Split) : View → UInt32
  | .a => split.i
  | .b => split.j

/-- The end of the range that is meant for a view: the offset of the other one, or the end of the
memory. -/
def stop (split : Split) : View → UInt32
  | .a => split.j
  | .b => split.n

/-- The memory of a view: `base + i` or `base + j`. -/
def memory (split : Split) (view : View) : Memory := split.base + split.start view

/-- One transfer to the device, with `dst_offset` `0`, after which its bytes were the last for its
view. -/
def step (split : Split) (s : Written) (copy : ViewCopy) : Except Empty Written :=
  .ok {
    heap := (split.memory copy.view).copyToDevice s.heap copy.src copy.byteAmt copy.srcOffset 0
    last := Function.update s.last copy.view (some copy.bytes) }

/-- The device memory is as large as it was asked to be. -/
def Backed (split : Split) (heap : DeviceHeap) : Prop :=
  ∀ handle, split.base.memoryPtr = some handle → (heap handle).size = split.n.toNat

/-- What was last written through each view is at its offset, and a buffer bound to the view reads
it from its start on. -/
structure ReadsBack (split : Split) (s : Written) : Prop where
  views : ∀ view bytes, s.last view = some bytes → ∀ handle, split.base.memoryPtr = some handle →
    ∀ (k : Nat) (hk : k < bytes.length),
      (s.heap handle).byte ((split.start view).toNat + k) = bytes[k]
  buffers : ∀ view bytes, s.last view = some bytes → ∀ required registry size data registry',
    ({} : BufferData).initializePrealloc required registry (split.memory view) size
        = (true, data, registry') →
      ∀ (k : Nat) (hk : k < bytes.length), k < data.size.toNat →
        data.byte s.heap k = some bytes[k]

/-- **Isolation** of a transfer: it changes no byte outside of its view, and what was written
through both views is still read back. -/
def Isolated (split : Split) (s : Written) (copy : ViewCopy) : Prop :=
  ∀ s', split.step s copy = .ok s' →
    (∀ handle address, ¬ (split.base.memoryPtr = some handle ∧
        (split.start copy.view).toNat ≤ address ∧ address < (split.stop copy.view).toNat) →
      (s'.heap handle).byte address = (s.heap handle).byte address) ∧
    split.ReadsBack s'

/-! ## The views -/

section

variable (split : Split)

/-- The fields of the base that matter here: its size, no offset, and a handle. -/
theorem base_eq : split.base.byteSize = split.n ∧ split.base.memOffset = 0 ∧
    ∃ handle, split.base.memoryPtr = some handle := by
  obtain ⟨registry, gpu, hostAlloc, hbase⟩ := split.allocated
  rw [hbase]
  cases hostAlloc <;> exact ⟨rfl, rfl, _, rfl⟩

/-- The range of a view lies in the memory, and does not end before it begins. -/
theorem range_le (view : View) : (split.start view).toNat ≤ (split.stop view).toNat ∧
    (split.stop view).toNat ≤ split.n.toNat := by
  have hlt : split.i.toNat < split.j.toNat := split.lt
  have hle : split.j.toNat ≤ split.n.toNat := split.le
  cases view <;> simp only [start, stop] <;> omega

/-- A view is the base at the offset of the view, with no other difference. -/
theorem memory_eq (view : View) :
    split.memory view = { split.base with memOffset := split.start view } := by
  obtain ⟨hsize, hoffset, -⟩ := split.base_eq
  obtain ⟨hstart, hstop⟩ := split.range_le view
  have hle : split.start view ≤ split.n := Nat.le_trans hstart hstop
  -- the offset is cut to the size only when it is all of it
  have hcut : (if split.start view ≥ split.n then split.n else split.start view)
      = split.start view := by
    split
    · exact UInt32.le_antisymm ‹_› hle
    · rfl
  show split.base.add (split.start view) = _
  simp only [Memory.add, Memory.size, hsize, hoffset, UInt32.zero_add, hcut]

/-- The amounts that a view is meant for are not cut: that many bytes lie in its range. -/
theorem length_bytes_le {copy : ViewCopy}
    (hfit : copy.byteAmt ≤ split.stop copy.view - split.start copy.view) :
    (split.start copy.view).toNat + copy.bytes.length ≤ (split.stop copy.view).toNat := by
  obtain ⟨hstart, -⟩ := split.range_le copy.view
  have hamt : copy.byteAmt.toNat ≤ (split.stop copy.view - split.start copy.view).toNat := hfit
  rw [UInt32.toNat_sub_of_le _ _ hstart] at hamt
  rw [ViewCopy.bytes, List.length_map, List.length_range]
  omega

/-- **A transfer goes to the beginning of the device memory**, whatever its view. -/
theorem step_eq {s : Written} {copy : ViewCopy} {handle : Handle}
    (hptr : split.base.memoryPtr = some handle)
    (hfit : copy.byteAmt ≤ split.stop copy.view - split.start copy.view) :
    split.step s copy = .ok ⟨Function.update s.heap handle ((s.heap handle).write 0 copy.bytes),
      Function.update s.last copy.view (some copy.bytes)⟩ := by
  obtain ⟨hsize, -, -⟩ := split.base_eq
  obtain ⟨-, hstop⟩ := split.range_le copy.view
  have hlength := split.length_bytes_le hfit
  rw [ViewCopy.bytes, List.length_map, List.length_range] at hlength
  have hcut : ¬ copy.byteAmt > split.n := by
    intro hgt
    have hlt : split.n.toNat < copy.byteAmt.toNat := hgt
    omega
  rw [step, memory_eq]
  simp only [Memory.copyToDevice, hsize, if_neg hcut, Vulkan.copyToDevice, hptr]
  rfl

end

/-! ## Buffers on a view -/

/-- A buffer that is bound to a view is bound to the device memory of the base, at the offset of the
view. -/
theorem bound_of_initialize {required : Nat} {registry registry' : Registry} {view : View}
    {size : UInt32} {data : BufferData} (split : Split)
    (h : ({} : BufferData).initializePrealloc required registry (split.memory view) size
      = (true, data, registry')) :
    data.bound = some (split.base.memoryPtr, split.start view) := by
  rw [split.memory_eq, BufferData.initializePrealloc] at h
  exact BufferData.bound_initializeOn rfl h

/-- What was last written through the views is in their ranges, at their offsets. -/
structure Kept (split : Split) (s : Written) : Prop where
  backed : split.Backed s.heap
  short : ∀ view bytes, s.last view = some bytes →
    (split.start view).toNat + bytes.length ≤ (split.stop view).toNat
  views : ∀ view bytes, s.last view = some bytes → ∀ handle, split.base.memoryPtr = some handle →
    ∀ (k : Nat) (hk : k < bytes.length),
      (s.heap handle).byte ((split.start view).toNat + k) = bytes[k]

/-- What is read back through the views is read back by buffers that are bound to them as well. -/
theorem Kept.readsBack {split : Split} {s : Written} (h : split.Kept s) : split.ReadsBack s where
  views := h.views
  buffers view bytes hlast required registry size data registry' hbuffer k hk _ := by
    obtain ⟨-, -, handle, hptr⟩ := split.base_eq
    rw [BufferData.byte, split.bound_of_initialize hbuffer, hptr]
    exact congrArg some (h.views view bytes hlast handle hptr k hk)

/-! ## Transfers -/

/-- A transfer is lawful when it moves nothing or its view is at the beginning. -/
def Lawful (split : Split) (shape : View × UInt32) : Prop :=
  shape.2 = 0 ∨ split.start shape.1 = 0

/-- What a view is meant for: at most as many bytes as its range has. -/
def Fits (split : Split) (shape : View × UInt32) : Prop :=
  shape.2 ≤ split.stop shape.1 - split.start shape.1

section

variable {split : Split} {s s' : Written} {copy : ViewCopy}

/-- After a write at the beginning a cell of the block has the written byte, if one reaches it, and
the byte from before otherwise. -/
theorem byte_write_zero (block : Block UInt8) (bytes : List UInt8) (i : Nat) :
    (block.write 0 bytes).byte i
      = if i < block.size then bytes.getD i (block.byte i) else block.byte i := by
  simp [Block.write]

/-- A lawful transfer that moves any bytes goes through a view that is at the beginning. -/
theorem start_eq_zero (hlawful : split.Lawful copy.shape) (hpos : 0 < copy.bytes.length) :
    split.start copy.view = 0 := by
  rcases hlawful with hzero | hstart
  · have hnone : copy.byteAmt = 0 := hzero
    simp [ViewCopy.bytes, hnone] at hpos
  · exact hstart

/-- A lawful transfer changes only bytes in the range of its view. -/
theorem changes_only (hfits : split.Fits copy.shape) (hlawful : split.Lawful copy.shape)
    (hstep : split.step s copy = .ok s') (other : Handle) (address : Nat)
    (houtside : ¬ (split.base.memoryPtr = some other ∧
      (split.start copy.view).toNat ≤ address ∧ address < (split.stop copy.view).toNat)) :
    (s'.heap other).byte address = (s.heap other).byte address := by
  obtain ⟨-, -, handle, hptr⟩ := split.base_eq
  rw [split.step_eq hptr hfits, Except.ok.injEq] at hstep
  subst hstep
  by_cases heq : other = handle
  · subst heq
    simp only [Function.update_self, byte_write_zero]
    split
    · -- a cell that the bytes reach is in the range
      refine List.getD_eq_default _ _ ?_
      by_contra hreached
      have hstart := start_eq_zero hlawful (by omega)
      have hle := split.length_bytes_le hfits
      refine houtside ⟨hptr, ?_, by omega⟩
      simp [hstart]
    · rfl
  · simp only [Function.update_of_ne heq]

/-- The ranges of the two views have no byte in common, so a byte that is in both belongs to one
view. -/
theorem view_eq_of_mem_ranges {view view' : View} {address : Nat}
    (h : (split.start view).toNat ≤ address ∧ address < (split.stop view).toNat)
    (h' : (split.start view').toNat ≤ address ∧ address < (split.stop view').toNat) :
    view = view' := by
  cases view <;> cases view' <;> simp only [start, stop, reduceCtorEq] at h h' ⊢ <;> omega

/-- What was just written by a lawful transfer through a view is at its offset. -/
theorem byte_of_written {handle : Handle} (hbacked : split.Backed s.heap)
    (hptr : split.base.memoryPtr = some handle) (hfits : split.Fits copy.shape)
    (hlawful : split.Lawful copy.shape) (hstep : split.step s copy = .ok s') {k : Nat}
    (hk : k < copy.bytes.length) :
    (s'.heap handle).byte ((split.start copy.view).toNat + k) = copy.bytes[k] := by
  obtain ⟨-, hstop⟩ := split.range_le copy.view
  have hlength := split.length_bytes_le hfits
  have hsize := hbacked handle hptr
  rw [split.step_eq hptr hfits, Except.ok.injEq] at hstep
  subst hstep
  simp only [start_eq_zero hlawful (by omega), UInt32.toNat_zero, Nat.zero_add,
    Function.update_self]
  rw [byte_write_zero, if_pos (by omega), List.getD_eq_getElem _ _ hk]

/-- **A lawful transfer keeps** what was written through both views. -/
theorem Kept.step (h : split.Kept s) (hfits : split.Fits copy.shape)
    (hlawful : split.Lawful copy.shape) (hstep : split.step s copy = .ok s') : split.Kept s' := by
  have hchanges := changes_only hfits hlawful hstep
  have hwritten := fun handle hptr k hk =>
    @byte_of_written _ _ _ _ handle h.backed hptr hfits hlawful hstep k hk
  have hlength := split.length_bytes_le hfits
  obtain ⟨-, -, handle, hptr⟩ := split.base_eq
  rw [split.step_eq hptr hfits, Except.ok.injEq] at hstep
  have hlast_eq : s'.last = Function.update s.last copy.view (some copy.bytes) := by
    rw [← hstep]
  refine ⟨fun other hother => ?_, fun view bytes hlast => ?_,
    fun view bytes hlast other hother k hk => ?_⟩
  · -- a write leaves the size
    subst hstep
    simp only [Function.update_apply]
    split
    · exact h.backed handle hptr
    · exact h.backed other hother
  · rw [hlast_eq, Function.update_apply] at hlast
    split at hlast
    · rename_i heq
      cases hlast
      rw [heq]
      exact hlength
    · exact h.short view bytes hlast
  · rw [hlast_eq, Function.update_apply] at hlast
    split at hlast
    · rename_i heq
      cases hlast
      rw [heq]
      exact hwritten other hother k hk
    · -- the other view's range is left alone
      rename_i hne
      have hshort := h.short view bytes hlast
      rw [hchanges other _ fun hin => hne (view_eq_of_mem_ranges ⟨?_, ?_⟩ hin.2)]
      · exact h.views view bytes hlast other hother k hk
      · omega
      · omega

/-- **A lawful transfer is isolated**, after any transfers that were lawful. -/
theorem Kept.isolated (h : split.Kept s) (hfits : split.Fits copy.shape)
    (hlawful : split.Lawful copy.shape) : split.Isolated s copy := fun _ hstep =>
  ⟨changes_only hfits hlawful hstep, (h.step hfits hlawful hstep).readsBack⟩

/-- An unlawful transfer of `1`s into a memory of `0`s changes a byte in front of its range. -/
theorem not_isolated_of_zero (hbacked : split.Backed s.heap)
    (hzero : ∀ handle address, (s.heap handle).byte address = 0) (hfits : split.Fits copy.shape)
    (hlawful : ¬ split.Lawful copy.shape) (hsrc : copy.src = fun _ => 1) :
    ¬ split.Isolated s copy := by
  intro hisolated
  obtain ⟨-, -, handle, hptr⟩ := split.base_eq
  obtain ⟨-, hstop⟩ := split.range_le copy.view
  have hlength := split.length_bytes_le hfits
  have hsize := hbacked handle hptr
  -- the amount and the offset are not zero
  rw [Lawful, not_or] at hlawful
  have hamt : copy.byteAmt.toNat ≠ 0 := fun h => hlawful.1 (UInt32.toNat_inj.mp h)
  have hstart : (split.start copy.view).toNat ≠ 0 := fun h => hlawful.2 (UInt32.toNat_inj.mp h)
  have hbytes : 0 < copy.bytes.length := by
    rw [ViewCopy.bytes, List.length_map, List.length_range]
    omega
  have hsame := (hisolated _ (split.step_eq hptr hfits)).1 handle 0 (by omega)
  simp only [Function.update_self, byte_write_zero, hzero] at hsame
  rw [if_pos (by omega), List.getD_eq_getElem _ _ hbytes] at hsame
  simp [ViewCopy.bytes, hsrc] at hsame

/-- When all memories hold nothing but zeroes, a transfer of zeroes leaves them so. -/
theorem zero_of_step (hzero : ∀ handle address, (s.heap handle).byte address = 0)
    (hfits : split.Fits copy.shape) (hsrc : copy.src = fun _ => 0)
    (hstep : split.step s copy = .ok s') (other : Handle) (address : Nat) :
    (s'.heap other).byte address = 0 := by
  obtain ⟨-, -, handle, hptr⟩ := split.base_eq
  rw [split.step_eq hptr hfits, Except.ok.injEq] at hstep
  subst hstep
  have hbytes : copy.bytes = List.replicate copy.byteAmt.toNat 0 := by
    simp [ViewCopy.bytes, hsrc, List.map_const']
  by_cases heq : other = handle
  · subst heq
    simp [byte_write_zero, hbytes, hzero]
  · simp only [Function.update_of_ne heq, hzero]

/-- A transfer that fits its view leaves the device memory as large as it was. -/
theorem backed_of_step (hbacked : split.Backed s.heap) (hfits : split.Fits copy.shape)
    (hstep : split.step s copy = .ok s') : split.Backed s'.heap := by
  intro other hother
  obtain ⟨-, -, handle, hptr⟩ := split.base_eq
  rw [split.step_eq hptr hfits, Except.ok.injEq] at hstep
  subst hstep
  simp only [Function.update_apply]
  split
  · exact hbacked handle hptr
  · exact hbacked other hother

/-- A shape with an unlawful transfer goes wrong for some bytes: one transfer of such a run is not
isolated. -/
theorem exists_not_isolated {shape : List (View × UInt32)} (hfits : ∀ c ∈ shape, split.Fits c)
    (hunlawful : ∃ c ∈ shape, ¬ split.Lawful c) (hbacked : split.Backed s.heap)
    (hzero : ∀ handle address, (s.heap handle).byte address = 0) :
    ∃ copies : List ViewCopy, copies.map ViewCopy.shape = shape ∧
      ¬ StepsMeet split.step split.Isolated s copies := by
  induction shape generalizing s with
  | nil => simp at hunlawful
  | cons c rest ih =>
      by_cases hlawful : split.Lawful c
      · -- move `0`s, and go on
        let copy : ViewCopy := ⟨c.1, c.2, 0, fun _ => 0⟩
        have hfit : split.Fits copy.shape := hfits c List.mem_cons_self
        have hrest : ∃ c ∈ rest, ¬ split.Lawful c := by
          obtain ⟨c', hmem, hc'⟩ := hunlawful
          rcases List.mem_cons.mp hmem with rfl | hmem
          · exact absurd hlawful hc'
          · exact ⟨c', hmem, hc'⟩
        obtain ⟨-, -, handle, hptr⟩ := split.base_eq
        have hstep : split.step s copy = _ := split.step_eq hptr hfit
        obtain ⟨copies, hshape, hnot⟩ := ih (fun c hc => hfits c (List.mem_cons_of_mem _ hc)) hrest
          (backed_of_step hbacked hfit hstep) (zero_of_step hzero hfit rfl hstep)
        refine ⟨copy :: copies, by simp [hshape, copy, ViewCopy.shape], fun hmeet => ?_⟩
        exact hnot (hmeet.2 _ hstep)
      · -- move `1`s now
        let copy : ViewCopy := ⟨c.1, c.2, 0, fun _ => 1⟩
        have hfit : split.Fits copy.shape := hfits c List.mem_cons_self
        refine ⟨copy :: rest.map fun c => ⟨c.1, c.2, 0, fun _ => 0⟩, ?_, fun hmeet => ?_⟩
        · simp [copy, ViewCopy.shape, Function.comp_def]
        · exact not_isolated_of_zero hbacked hzero hfit hlawful rfl hmeet.1

end

/-- **Suballocations.** Whatever is in the memory and whatever bytes are moved, transfers of given
amounts through the two views of a memory are all isolated exactly when each of at least one byte
goes through a view at offset `0`. -/
theorem isolated_iff (split : Split) (shape : List (View × UInt32))
    (hfits : ∀ c ∈ shape, split.Fits c) :
    (∀ heap copies, split.Backed heap → copies.map ViewCopy.shape = shape →
        StepsMeet split.step split.Isolated ⟨heap, fun _ => none⟩ copies) ↔
      ∀ c ∈ shape, split.Lawful c := by
  constructor
  · intro h
    by_contra hunlawful
    obtain ⟨copies, hshape, hnot⟩ := exists_not_isolated
      (s := ⟨fun _ => ⟨split.n.toNat, fun _ => 0⟩, fun _ => none⟩) hfits
      (by simpa using hunlawful) (fun _ _ => rfl) fun _ _ => rfl
    exact hnot (h _ copies (fun _ _ => rfl) hshape)
  · intro hlawful heap copies hbacked hshape
    have hmem : ∀ copy ∈ copies, split.Fits copy.shape ∧ split.Lawful copy.shape := by
      intro copy hcopy
      have hin : copy.shape ∈ shape := hshape ▸ List.mem_map_of_mem hcopy
      exact ⟨hfits _ hin, hlawful _ hin⟩
    refine StepsMeet.mono (Kept split) (fun s copy hkept h => hkept.isolated h.1 h.2)
      (fun s copy s' hkept h hstep => hkept.step h.1 h.2 hstep) ?_ (stepsMeet_of_forall_mem hmem)
    exact ⟨hbacked, fun _ _ h => by simp at h, fun _ _ h => by simp at h⟩

/-- A memory of two bytes, one for each view. -/
def halves : Split where
  base := (({} : Memory).initializeOn {} 0 2 false).1
  n := 2
  i := 0
  j := 1
  allocated := ⟨{}, 0, false, rfl⟩
  lt := by decide
  le := by decide

/-- A byte through the view at the beginning, and none through the other. -/
theorem isolated_halves :
    (∀ heap copies, halves.Backed heap →
        copies.map ViewCopy.shape = [(View.a, (1 : UInt32)), (View.b, 0)] →
        StepsMeet halves.step halves.Isolated ⟨heap, fun _ => none⟩ copies) ↔
      ∀ c ∈ [(View.a, (1 : UInt32)), (View.b, 0)], halves.Lawful c :=
  isolated_iff halves [(View.a, 1), (View.b, 0)] (by simp [Fits, start, stop, halves])

/-- A byte through the view at `1` lands at `0`: transfers are not always isolated. -/
theorem not_isolated : ¬ ∀ (split : Split) (heap : DeviceHeap) (copies : List ViewCopy),
    split.Backed heap → (∀ copy ∈ copies, split.Fits copy.shape) →
      StepsMeet split.step split.Isolated ⟨heap, fun _ => none⟩ copies := by
  intro h
  refine absurd (h halves (fun _ => ⟨2, fun _ => 0⟩) [⟨.b, 1, 0, fun _ => 1⟩] (fun _ _ => rfl) ?_).1
    (not_isolated_of_zero (fun _ _ => rfl) (fun _ _ => rfl) ?_ ?_ rfl)
  · simp [Fits, ViewCopy.shape, start, stop, halves]
  · simp [Fits, ViewCopy.shape, start, stop, halves]
  · simp [Lawful, ViewCopy.shape, start, halves]

end Split

end Nyx
