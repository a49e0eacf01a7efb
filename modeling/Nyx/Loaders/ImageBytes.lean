import Nyx.Foundations.Leftovers
import Nyx.Foundations.StepMachines
import Nyx.Loaders.NgtFiles

/-! # The bytes of a texture

`NgtFile::load` takes the dimensions of an image from the file as they are, and stores as many bytes
as their product says. The product is one of `unsigned`s, so that it is cut to 32 bits. What a file
too short for its numbers and its bytes does not bring is what was left over in memory.

* **`NgtFileData.Covers`** — the stored bytes are those of the whole image.
* **`NgtCall`**, **`NgtCall.Fits`** — the calls on a texture, and those whose file does not say of
  an image too large to be counted.
* **`NgtFileData.covers_iff`** — after any calls the stored bytes cover the image exactly when the
  last call is such a call. -/

namespace Nyx

open Foundations

namespace NgtFileData

/-! ## Covering the image -/

/-- There are as many bytes as the image has elements, and each element has its byte. -/
structure Covers (data : NgtFileData) : Prop where
  length : data.bytes.length = data.width.toNat * data.height.toNat * data.channels.toNat
  index : ∀ x < data.width.toNat, ∀ y < data.height.toNat, ∀ c < data.channels.toNat,
    (y * data.width.toNat + x) * data.channels.toNat + c < data.bytes.length

/-- The elements of an image are counted row by row, so an element inside the dimensions has a
number below their product. -/
theorem elementIndex_lt {w h n x y c : Nat} (hx : x < w) (hy : y < h) (hc : c < n) :
    (y * w + x) * n + c < w * h * n := by
  have hpixel : y * w + x < h * w := by
    calc y * w + x < y * w + w := Nat.add_lt_add_left hx _
      _ = (y + 1) * w := (Nat.succ_mul y w).symm
      _ ≤ h * w := Nat.mul_le_mul_right w hy
  calc (y * w + x) * n + c < (y * w + x) * n + n := Nat.add_lt_add_left hc _
    _ = (y * w + x + 1) * n := (Nat.succ_mul _ n).symm
    _ ≤ h * w * n := Nat.mul_le_mul_right n hpixel
    _ = w * h * n := by rw [Nat.mul_comm h w]

/-- Whether an image covers its dimensions is decided by the number of its bytes. -/
theorem covers_iff_length (data : NgtFileData) : data.Covers ↔
    data.bytes.length = data.width.toNat * data.height.toNat * data.channels.toNat := by
  refine ⟨Covers.length, fun h => ⟨h, fun x hx y hy c hc => ?_⟩⟩
  rw [h]
  exact elementIndex_lt hx hy hc

/-- An object without dimensions has nothing to cover. -/
theorem covers_reset (data : NgtFileData) : data.reset.Covers :=
  (covers_iff_length _).mpr rfl

/-- What the file says of its image: nothing, or dimensions whose product is an `unsigned`. -/
def ImageFits (input : LeftoverStream) : Prop :=
  input.longAt 0 = magic → input.wordAt 8 = 1 →
    (input.wordAt 12).toNat * (input.wordAt 16).toNat * (input.wordAt 20).toNat < 2 ^ 32

/-- As many bytes are stored as the product of the dimensions counts in 32 bits. -/
theorem toNat_product_eq_iff (w h n : UInt32) :
    (w * h * n).toNat = w.toNat * h.toNat * n.toNat ↔ w.toNat * h.toNat * n.toNat < 2 ^ 32 := by
  rw [UInt32.toNat_mul, UInt32.toNat_mul, Nat.mod_mul_mod]
  refine ⟨fun hmod => ?_, Nat.mod_eq_of_lt⟩
  rw [← hmod]
  exact Nat.mod_lt _ (Nat.two_pow_pos 32)

/-- The contents of a version `1` file: the dimensions, and as many bytes as their product says. -/
theorem run_readContents_of_eq (data : NgtFileData) {input : LeftoverStream}
    (h : input.wordAt 0 = 1) :
    ∃ bytes after, (readContents data).run input.stream = .ok ({ data with
        version := 1, width := input.wordAt 4, height := input.wordAt 8,
        channels := input.wordAt 12, bytes := bytes }, after) ∧
      bytes.length = (input.wordAt 4 * input.wordAt 8 * input.wordAt 12).toNat := by
  unfold readContents readUnsigned readBytes
  rw [Reader.run_bind_of_ok (Reader.run_u32 _), if_pos h, Reader.run_bind_of_ok (Reader.run_u32 _),
    Reader.run_bind_of_ok (Reader.run_u32 _), Reader.run_bind_of_ok (Reader.run_u32 _),
    Reader.run_bind_of_ok (Reader.run_block _ _)]
  simp only [LeftoverStream.wordAt_fill, Nat.reduceAdd, h]
  exact ⟨_, _, rfl, LeftoverStream.length_fill _ _⟩

/-- A file of another version than one has no contents: only its version is kept. -/
theorem run_readContents_of_ne (data : NgtFileData) {input : LeftoverStream}
    (h : input.wordAt 0 ≠ 1) :
    ∃ after, (readContents data).run input.stream =
      .ok ({ data with version := input.wordAt 0 }, after) := by
  unfold readContents readUnsigned
  rw [Reader.run_bind_of_ok (Reader.run_u32 _), if_neg h]
  exact ⟨_, rfl⟩

/-- **Loading any bytes** returns, and covers the image exactly when it fits. -/
theorem load_covers_iff (data : NgtFileData) (bytes : List UInt8) (size : UInt32)
    (leftover : Nat → UInt8) :
    ∃ success after, load data bytes size (some leftover) = .ok (success, after) ∧
      (after.Covers ↔ ImageFits (.start (bytes.take size.toNat) leftover)) := by
  unfold load readFile readMagic
  have hstart : (⟨bytes.take size.toNat, true, some leftover⟩ : ByteStream)
      = (LeftoverStream.start (bytes.take size.toNat) leftover).stream := rfl
  rw [hstart, StateT.run'_eq, Reader.run_bind_of_ok (Reader.run_u64 _)]
  generalize LeftoverStream.start (bytes.take size.toNat) leftover = input
  by_cases hmagic : input.longAt 0 = magic
  · rw [if_pos hmagic]
    by_cases hversion : input.wordAt 8 = 1
    · have hnext : (input.fill 8).2.wordAt 0 = 1 := by simpa using hversion
      obtain ⟨stored, after, hrun, hlength⟩ := run_readContents_of_eq data.reset hnext
      rw [Reader.run_bind_of_ok hrun]
      refine ⟨true, _, rfl, ?_⟩
      simp only [LeftoverStream.wordAt_fill, Nat.reduceAdd] at hlength ⊢
      rw [covers_iff_length, hlength, toNat_product_eq_iff]
      simp [ImageFits, hmagic, hversion]
    · have hnext : (input.fill 8).2.wordAt 0 ≠ 1 := by simpa using hversion
      obtain ⟨after, hrun⟩ := run_readContents_of_ne data.reset hnext
      rw [Reader.run_bind_of_ok hrun]
      refine ⟨true, _, rfl, iff_of_true ((covers_iff_length _).mpr rfl) ?_⟩
      exact fun _ h => absurd h hversion
  · rw [if_neg hmagic]
    exact ⟨false, _, rfl, iff_of_true data.covers_reset fun h => absurd h hmagic⟩

end NgtFileData

/-! ## Runs of calls -/

/-- A call on a texture; a load has what its stream leaves in the buffers past its end. -/
inductive NgtCall
  | load (bytes : List UInt8) (size : UInt32) (leftover : Nat → UInt8)
  | reset

namespace NgtCall

/-- The texture after a call, unless the call fails. -/
def apply (data : NgtFileData) : NgtCall → Except StreamFailure NgtFileData
  | load bytes size leftover => (data.load bytes size (some leftover)).map Prod.snd
  | reset => .ok data.reset

/-- A `reset`, or a load of bytes that say dimensions whose product fits what follows in them. -/
def Fits : NgtCall → Prop
  | load bytes size leftover => NgtFileData.ImageFits (.start (bytes.take size.toNat) leftover)
  | reset => True

/-- **A call** returns, and what is stored then covers the image exactly when the call fits. -/
theorem apply_covers_iff (data : NgtFileData) (call : NgtCall) :
    ∃ after, call.apply data = .ok after ∧ (after.Covers ↔ call.Fits) := by
  cases call with
  | load bytes size leftover =>
      obtain ⟨success, after, hload, hcovers⟩ := data.load_covers_iff bytes size leftover
      refine ⟨after, ?_, hcovers⟩
      rw [apply, hload]
      rfl
  | reset => exact ⟨_, rfl, iff_of_true data.covers_reset trivial⟩

end NgtCall

namespace NgtFileData

/-- Calls one after another on a new object, whose version is uninitialised until the first load. -/
def run (version : UInt32) (calls : List NgtCall) : Except StreamFailure NgtFileData :=
  runSteps (fun data call => call.apply data) { version := version } calls

/-- Any calls return, since no read of this loader fails. -/
theorem exists_run (version : UInt32) (calls : List NgtCall) :
    ∃ data, run version calls = .ok data := by
  have hstep : ∀ (data : NgtFileData) (call : NgtCall), True → True →
      ∃ after, call.apply data = .ok after ∧ True := by
    intro data call _ _
    obtain ⟨after, happly, -⟩ := call.apply_covers_iff data
    exact ⟨after, happly, trivial⟩
  obtain ⟨data, hrun, -⟩ := runSteps_total (fun _ => True) hstep trivial
    (stepsMeet_of_forall_mem fun _ _ => trivial)
  exact ⟨data, hrun⟩

/-- **The bytes of a texture.** For all calls of `load` and `reset` on a new object, whatever the
bytes and whatever was left over in memory: the stored bytes are as many as the dimensions say, and
cover every element, exactly when there was no call yet, or the last one was a `reset` or a load of
bytes that do not say of an image of `2 ^ 32` elements or more. -/
theorem covers_iff (version : UInt32) (calls : List NgtCall) :
    ∃ data, run version calls = .ok data ∧
      (data.Covers ↔ ∀ call ∈ calls.getLast?, call.Fits) := by
  rcases List.eq_nil_or_concat calls with rfl | ⟨before, last, rfl⟩
  · exact ⟨_, rfl, iff_of_true ((covers_iff_length _).mpr rfl) (by simp)⟩
  · obtain ⟨data, hbefore⟩ := exists_run version before
    obtain ⟨after, happly, hcovers⟩ := last.apply_covers_iff data
    refine ⟨after, ?_, by simpa using hcovers⟩
    rw [run, List.concat_eq_append, runSteps_append_of_ok hbefore, runSteps_singleton, happly]

/-- An image of `65536` times `65536` bytes is stored in no bytes. -/
theorem not_covers : ¬ ∀ (version : UInt32) (calls : List NgtCall) (data : NgtFileData),
    run version calls = .ok data → data.Covers := by
  intro h
  let bytes : List UInt8 := encodeU64 magic ++ encodeU32 1 ++ encodeU32 65536 ++
    encodeU32 65536 ++ encodeU32 1
  let call : NgtCall := .load bytes 24 fun _ => 0
  obtain ⟨data, happly, hcovers⟩ := call.apply_covers_iff { version := 0 }
  have hfits := hcovers.mp (h 0 [call] data (by rw [run, runSteps_singleton, happly]))
  exact absurd (hfits (by decide) (by decide)) (by decide)

end NgtFileData

end Nyx
