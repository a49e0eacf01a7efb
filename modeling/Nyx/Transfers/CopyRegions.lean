import Nyx.Memory.Arrays
import Nyx.Recording.Scripts

/-! # The regions of buffer copies

`nyx::Chain::copy` records a copy of as many bytes as its elements have, counted by an `unsigned`.
The sizes of the buffers are counted by an `unsigned` as well, and the staging buffers have a fixed
size that the recorded copy is not compared with.

* **`InitializedArray.copyTo`**, **`InitializedArray.copyFrom`** — copies between arrays, and from
  the host.
* **`CopiesWithin`** — what is recorded is one copy, of the right size and inside both buffers.
* **`le_of_copiesWithin`**, **`copiesWithin_of_le`** — when `vkg::Chain::copy` records such a copy.
* **`copy_regions_iff`** — when the copies of arrays do. -/

namespace Nyx

open Foundations

/-- The number of elements `nyx::Chain::copy` is about: all of an array when it is given `0`. -/
def copyAmount (amt size : UInt32) : UInt32 := if amt = 0 then size else amt

namespace InitializedArray

variable {typeSize : Nat}

/-- The buffer of an array as a chain sees it; `id` names the `vk::Buffer`. -/
def buffer (array : InitializedArray typeSize) (id : Nat) : Buffer :=
  ⟨.array id, array.array.arrBuffer.deviceId.toNat⟩

/-- `nyx::Chain::copy( array, array )`; the size of the type is narrowed to `unsigned`. -/
def copyTo (src dst : InitializedArray typeSize) (srcId dstId : Nat)
    (amt srcOffset dstOffset : UInt32) : RecordingOp :=
  .copyBuffer (src.buffer srcId) (dst.buffer dstId) (copyAmount amt src.size).toNat
    (typeSize % 2 ^ 32) srcOffset.toNat dstOffset.toNat

/-- `nyx::Chain::copy( host, array )`, for all of the array when no amount is given. -/
def copyFrom (dst : InitializedArray typeSize) (src : List UInt8) (dstId : Nat)
    (amt srcOffset dstOffset : UInt32) : RecordingOp :=
  .upload src (dst.buffer dstId) (copyAmount amt dst.size).toNat (typeSize % 2 ^ 32)
    srcOffset.toNat dstOffset.toNat

end InitializedArray

/-! ## Regions inside their buffers -/

/-- A region that lies inside a source and a target of the given sizes, and has the number of bytes
it should have. -/
structure BufferCopy.Fits (region : BufferCopy) (srcSize dstSize bytes : Nat) : Prop where
  source : region.srcOffset + region.size ≤ srcSize
  target : region.dstOffset + region.size ≤ dstSize
  size : region.size = bytes

/-- The moves record one copy between two buffers, with a region that fits. -/
def CopiesWithin (moves : List Move) (src dst : BufferHandle) (srcSize dstSize bytes : Nat) :
    Prop :=
  ∃ region, emitted moves = [.copyBuffer src dst region] ∧ region.Fits srcSize dstSize bytes

/-- If the copy that `vkg::Chain::copy` records fits, then so do the bytes of the elements. -/
theorem le_of_copiesWithin {src dst source target : BufferHandle}
    {amt typeSize srcSize dstSize : Nat}
    (h : CopiesWithin (copyBufferMoves src dst amt (typeSize % 2 ^ 32) 0 0) source target srcSize
      dstSize (amt * typeSize)) :
    amt * typeSize ≤ srcSize ∧ amt * typeSize ≤ dstSize := by
  obtain ⟨region, hemitted, hsource, htarget, hsize⟩ := h
  have hregion : (⟨0, 0, amt * (typeSize % 2 ^ 32) % 2 ^ 32⟩ : BufferCopy) = region := by
    simp only [copyBufferMoves, emitted_cons, emitted_nil, Move.emitted, List.nil_append,
      List.append_nil, List.cons.injEq, Command.copyBuffer.injEq] at hemitted
    exact hemitted.1.2.2
  rw [hsize] at hsource htarget
  simp only [← hregion, Nat.zero_add] at hsource htarget
  exact ⟨hsource, htarget⟩

/-- If the bytes of the elements fit, their number is not too large for an `unsigned`, and the copy
that is recorded fits. -/
theorem copiesWithin_of_le {src dst : BufferHandle} {amt typeSize srcSize dstSize : Nat}
    (hdst : dstSize < 2 ^ 32) (hsource : amt * typeSize ≤ srcSize)
    (htarget : amt * typeSize ≤ dstSize) :
    CopiesWithin (copyBufferMoves src dst amt (typeSize % 2 ^ 32) 0 0) src dst
      srcSize dstSize (amt * typeSize) := by
  have hsize : amt * (typeSize % 2 ^ 32) % 2 ^ 32 = amt * typeSize := by
    rw [Nat.mul_mod_mod]
    exact Nat.mod_eq_of_lt (Nat.lt_of_le_of_lt htarget hdst)
  refine ⟨⟨0, 0, amt * (typeSize % 2 ^ 32) % 2 ^ 32⟩, rfl, ?_, ?_, hsize⟩
  · rwa [hsize, Nat.zero_add]
  · rwa [hsize, Nat.zero_add]

/-! ## The copies of arrays -/

variable {typeSize : Nat}

/-- What a copy from the host records, if it returns: a copy out of a staging buffer. -/
theorem exists_of_recipe_copyFrom {env : Environment} {pass : Option PassId} {device : Option Nat}
    {world : World} {dst : InitializedArray typeSize} {host : List UInt8} {dstId : Nat}
    {amt : UInt32} {recipe : List Move × World}
    (h : (dst.copyFrom host dstId amt 0 0).recipe env pass device world = .ok recipe) :
    ∃ staging : StagingBuffer, recipe.1 = copyBufferMoves staging.handle (dst.buffer dstId).handle
      (copyAmount amt dst.size).toNat (typeSize % 2 ^ 32) 0 0 := by
  rw [InitializedArray.copyFrom, RecordingOp.recipe] at h
  cases hfind : world.findStaging env device with
  | none =>
      rw [hfind] at h
      cases h
  | some pair =>
      rw [hfind] at h
      cases h
      exact ⟨pair.2, rfl⟩

/-- **Ordinary copies stay in bounds**: between arrays with memory of their own whose bytes an
`unsigned` counts, when both have the elements that are copied. -/
theorem copiesWithin_copyTo {src dst : InitializedArray typeSize} {srcId dstId : Nat}
    {amt : UInt32} {env : Environment} {pass : Option PassId} {device : Option Nat} {world : World}
    {recipe : List Move × World}
    (hsrc : ∃ device size hostAlloc, src.call = .on device size hostAlloc)
    (hdst : ∃ device size hostAlloc, dst.call = .on device size hostAlloc)
    (hsrcBytes : src.size.toNat * typeSize < 2 ^ 32)
    (hdstBytes : dst.size.toNat * typeSize < 2 ^ 32)
    (hle : (copyAmount amt src.size).toNat ≤ src.size.toNat)
    (hle' : (copyAmount amt src.size).toNat ≤ dst.size.toNat)
    (h : (src.copyTo dst srcId dstId amt 0 0).recipe env pass device world = .ok recipe) :
    CopiesWithin recipe.1 (.array srcId) (.array dstId) src.bufferSize dst.bufferSize
      ((copyAmount amt src.size).toNat * typeSize) := by
  obtain ⟨_, _, _, hsrc⟩ := hsrc
  obtain ⟨_, _, _, hdst⟩ := hdst
  cases h
  refine copiesWithin_of_le dst.bufferSize_lt ?_ ?_
  · rw [InitializedArray.bufferSize_of_lt hsrc hsrcBytes]
    exact Nat.mul_le_mul_right typeSize hle
  · rw [InitializedArray.bufferSize_of_lt hdst hdstBytes]
    exact Nat.mul_le_mul_right typeSize hle'

/-- **When copy regions stay in bounds.** For all arrays, amounts and states of the program, a copy
between arrays records a region of the right size that lies inside both buffers exactly when the
bytes of the elements copied fit both buffers, in the sizes that `initialize` asked for. A copy from
the host that returns does so exactly when they fit a staging buffer and the buffer of the array. -/
theorem copy_regions_iff (src dst : InitializedArray typeSize) (srcId dstId : Nat) (amt : UInt32)
    (env : Environment) (pass : Option PassId) (device : Option Nat) (world : World) :
    ((∃ recipe, (src.copyTo dst srcId dstId amt 0 0).recipe env pass device world = .ok recipe ∧
        CopiesWithin recipe.1 (.array srcId) (.array dstId) src.bufferSize dst.bufferSize
          ((copyAmount amt src.size).toNat * typeSize)) ↔
      (copyAmount amt src.size).toNat * typeSize ≤ (src.call.bufferSize typeSize).toNat ∧
        (copyAmount amt src.size).toNat * typeSize ≤ (dst.call.bufferSize typeSize).toNat) ∧
    ∀ host recipe,
      (dst.copyFrom host dstId amt 0 0).recipe env pass device world = .ok recipe →
      ((∃ staging, CopiesWithin recipe.1 (.staging staging) (.array dstId) stagingBufferSize
          dst.bufferSize ((copyAmount amt dst.size).toNat * typeSize)) ↔
        (copyAmount amt dst.size).toNat * typeSize ≤ stagingBufferSize ∧
          (copyAmount amt dst.size).toNat * typeSize ≤ (dst.call.bufferSize typeSize).toNat) := by
  rw [← src.bufferSize_eq, ← dst.bufferSize_eq]
  constructor
  · constructor
    · rintro ⟨recipe, hrecipe, hcopies⟩
      cases hrecipe
      exact le_of_copiesWithin hcopies
    · rintro ⟨hsource, htarget⟩
      exact ⟨_, rfl, copiesWithin_of_le dst.bufferSize_lt hsource htarget⟩
  · intro host recipe hrecipe
    obtain ⟨staging, hmoves⟩ := exists_of_recipe_copyFrom hrecipe
    rw [hmoves]
    constructor
    · rintro ⟨id, hcopies⟩
      exact le_of_copiesWithin hcopies
    · rintro ⟨hsource, htarget⟩
      exact ⟨staging.id, copiesWithin_of_le dst.bufferSize_lt hsource htarget⟩

/-- An array of so many elements, newly made on device `0`. -/
def InitializedArray.new (typeSize : Nat) (size : UInt32) : InitializedArray typeSize where
  array := (ArrayCall.on 0 size false).apply (elementBytes typeSize size).toNat typeSize {} {}
  call := .on 0 size false
  array_eq := ⟨_, _, _, rfl⟩

/-- Two elements of four bytes, from an array of two to one of three, or from the host. -/
theorem copy_regions_two :
    let src := InitializedArray.new 4 2
    let dst := InitializedArray.new 4 3
    ∃ recipe, (dst.copyFrom [1, 2, 3, 4, 5, 6, 7, 8] 1 2 0 0).recipe .inert none (some 0) .start
        = .ok recipe ∧
      (∃ recipe, (src.copyTo dst 0 1 2 0 0).recipe .inert none (some 0) .start = .ok recipe ∧
        CopiesWithin recipe.1 (.array 0) (.array 1) 8 12 8) ∧
      ∃ staging, CopiesWithin recipe.1 (.staging staging) (.array 1) stagingBufferSize 12 8 := by
  intro src dst
  have h := copy_regions_iff src dst 0 1 2 .inert none (some 0) .start
  refine ⟨_, rfl, h.1.mpr (by decide), (h.2 _ _ rfl).mpr (by decide)⟩

/-- Two elements of four bytes copied between arrays of `2 ^ 30 + 1`, whose buffers have four bytes;
and from the host one element of one byte more than a staging buffer has. -/
theorem not_copy_regions :
    (¬ ∀ (typeSize : Nat) (src dst : InitializedArray typeSize) (amt : UInt32),
      amt ≤ src.size → amt ≤ dst.size → ∃ recipe,
        (src.copyTo dst 0 1 amt 0 0).recipe .inert none (some 0) .start = .ok recipe ∧
        CopiesWithin recipe.1 (.array 0) (.array 1) src.bufferSize dst.bufferSize
          ((copyAmount amt src.size).toNat * typeSize)) ∧
    ¬ ∀ (typeSize : Nat) (dst : InitializedArray typeSize) (host : List UInt8) (amt : UInt32)
      (recipe : List Move × World), amt ≤ dst.size →
        (dst.copyFrom host 1 amt 0 0).recipe .inert none (some 0) .start = .ok recipe →
        ∃ staging, CopiesWithin recipe.1 (.staging staging) (.array 1) stagingBufferSize
          dst.bufferSize ((copyAmount amt dst.size).toNat * typeSize) := by
  constructor
  · intro h
    obtain ⟨recipe, hrecipe, hcopies⟩ := h 4 (.new 4 (2 ^ 30 + 1)) (.new 4 (2 ^ 30 + 1)) 2
      (by decide) (by decide)
    cases hrecipe
    exact absurd (le_of_copiesWithin hcopies) (by decide)
  · intro h
    obtain ⟨staging, hcopies⟩ := h 1 (.new 1 10000001) (.replicate 10000001 0) 10000001 _
      (by decide) rfl
    exact absurd (le_of_copiesWithin hcopies) (by decide)

end Nyx
