import Nyx.Foundations.CutStreams
import Nyx.Foundations.Leftovers

/-! # Files that start with a magic number

A loader that first looks for a magic number, reads the contents behind it, and reports whether it
found the number. It compares eight bytes even when there are not as many: then the rest of them is
what was left over in memory.

* **`Reader.guarded magic contents fallback`** — such a loader.
* **`Unmarked magic bytes`** — there are enough bytes for the number, and they are another one.
* **`Deviates magic bytes`** — the bytes there are for the number are not the first ones of it.
* **`Deviates.longAt_ne`**, **`exists_leftover`** — bytes that deviate are never taken for the
  number, and others are taken for it when the right bytes were left over.
* **`Reports result complete fallback`** — what is asked of its report: it says true exactly of
  complete files, and leaves the fallback when it says false.
* **`guarded_reports_iff`** — the report is right whatever was left over exactly for bytes that
  deviate, and for complete files that the contents can be read from. -/

namespace Foundations

variable {α : Type}

/-- Look for a magic number, and read the contents behind it. -/
def Reader.guarded (magic : UInt64) (contents : Reader α) (fallback : α) : Reader (Bool × α) := do
  let found ← Reader.u64
  if found = magic then
    let data ← contents
    pure (true, data)
  else pure (false, fallback)

/-- The bytes start with a complete number, and it is another one than the magic number. -/
def Unmarked (magic : UInt64) (bytes : List UInt8) : Prop :=
  8 ≤ bytes.length ∧ ¬ encodeU64 magic <+: bytes

/-- The bytes differ from the number in one of the first eight, or of as many as there are. -/
def Deviates (magic : UInt64) (bytes : List UInt8) : Prop :=
  ¬ bytes.take 8 <+: encodeU64 magic

instance (magic : UInt64) (bytes : List UInt8) : Decidable (Deviates magic bytes) :=
  inferInstanceAs (Decidable (¬ _))

/-- A right report on a file: true exactly when it is complete, and the fallback otherwise. -/
def Reports (result : Except StreamFailure (Bool × α)) (complete : Prop) (fallback : α) : Prop :=
  ∃ success data, result = .ok (success, data) ∧ (success = true ↔ complete) ∧
    (success = false → data = fallback)

variable {magic : UInt64} {contents : Reader α} {fallback : α} {bytes : List UInt8}

/-- When the magic number is in front, the contents behind it are read and the load reports
success. -/
theorem Reads.guarded {data : α} (h : Reads contents bytes data) :
    Reads (Reader.guarded magic contents fallback) (encodeU64 magic ++ bytes) (true, data) := by
  refine (Reads.u64 magic).bind ?_
  rw [if_pos rfl]
  exact h.bind_pure

/-! ## Numbers and their bytes -/

/-- The lowest bytes of the number that some bytes stand for are these bytes. -/
theorem leBytes_leValue (bytes : List UInt8) : leBytes bytes.length (leValue bytes) = bytes := by
  induction bytes with
  | nil => rfl
  | cons byte bytes ih =>
      have hlow : UInt8.ofNat (byte.toNat + 256 * leValue bytes) = byte := by
        rw [UInt8.ofNat_add, UInt8.ofNat_toNat, UInt8.ofNat_mul]
        have hzero : UInt8.ofNat 256 = 0 := rfl
        rw [hzero, UInt8.zero_mul, UInt8.add_zero]
      have hhigh : (byte.toNat + 256 * leValue bytes) / 256 = leValue bytes := by
        have hlt := byte.toNat_lt
        omega
      rw [List.length_cons, leValue, leBytes, hlow, hhigh, ih]

/-- The number that some bytes stand for is below `256` to the power of their count. -/
theorem leValue_lt (bytes : List UInt8) : leValue bytes < 256 ^ bytes.length := by
  have h := leValue_leBytes bytes.length (leValue bytes)
  rw [leBytes_leValue] at h
  rw [h]
  exact Nat.mod_lt _ (Nat.pow_pos (by decide))

/-- Any eight bytes are the encoding of the long word that they stand for. -/
theorem encodeU64_ofNat_leValue (h : bytes.length = 8) :
    encodeU64 (UInt64.ofNat (leValue bytes)) = bytes := by
  have hlt := leValue_lt bytes
  rw [h] at hlt
  rw [encodeU64, UInt64.toNat_ofNat_of_lt' hlt, ← h]
  exact leBytes_leValue bytes

/-- Unmarked bytes are the encoding of a long word other than the magic number, with something
behind it. -/
theorem Unmarked.exists_word (h : Unmarked magic bytes) :
    ∃ word rest, word ≠ magic ∧ encodeU64 word ++ rest = bytes := by
  obtain ⟨hlength, hstart⟩ := h
  have hword := encodeU64_ofNat_leValue (List.length_take_of_le hlength)
  refine ⟨.ofNat (leValue (bytes.take 8)), bytes.drop 8, ?_, ?_⟩
  · rintro rfl
    refine hstart ?_
    rw [hword]
    exact List.take_prefix 8 bytes
  · rw [hword, List.take_append_drop]

/-! ## The number that a loader finds -/

/-- The number found is that of eight bytes of memory after a read to them. -/
theorem LeftoverStream.longAt_zero (input : LeftoverStream) :
    input.longAt 0 = .ofNat (leValue (input.fill 8).1) := by
  rw [longAt, fill_eq]
  simp only [Nat.zero_add]

/-- **Bytes that deviate are never taken for the number**, whatever was left over in memory. -/
theorem Deviates.longAt_ne (h : Deviates magic bytes) (leftover : Nat → UInt8) :
    (LeftoverStream.start bytes leftover).longAt 0 ≠ magic := by
  intro hfound
  rw [LeftoverStream.longAt_zero] at hfound
  refine h ?_
  rw [← hfound, encodeU64_ofNat_leValue (LeftoverStream.length_fill 8 _)]
  exact List.prefix_append _ _

/-- **Other bytes are taken for the number** when the rest of it was left over in memory. -/
theorem exists_leftover (h : ¬ Deviates magic bytes) :
    ∃ leftover, (LeftoverStream.start bytes leftover).longAt 0 = magic := by
  obtain ⟨missing, hmissing⟩ := not_not.mp h
  have hlength : missing.length = 8 - (bytes.take 8).length := by
    have hall := congrArg List.length hmissing
    rw [List.length_append, length_encodeU64] at hall
    omega
  refine ⟨fun i => missing.getD i 0, ?_⟩
  have hleft : (List.range (8 - (bytes.take 8).length)).map (fun i => missing.getD i 0)
      = missing := by
    refine List.ext_getElem (by simp [hlength]) fun i _ hi => ?_
    rw [List.getElem_map, List.getElem_range, List.getD_eq_getElem _ _ hi]
  have hfill : ((LeftoverStream.start bytes fun i => missing.getD i 0).fill 8).1
      = encodeU64 magic := by
    rw [← hmissing]
    exact congrArg (bytes.take 8 ++ ·) hleft
  rw [LeftoverStream.longAt_zero, hfill, ofNat_leValue_encodeU64]

/-- Bytes that start with the number are taken for it, whatever was left over in memory. -/
theorem longAt_of_marked (h : encodeU64 magic <+: bytes) (leftover : Nat → UInt8) :
    (LeftoverStream.start bytes leftover).longAt 0 = magic := by
  obtain ⟨rest, rfl⟩ := h
  have hseen := Reader.run_u64 (LeftoverStream.start (encodeU64 magic ++ rest) leftover)
  have hread := Reads.u64 magic rest (some leftover)
  exact (Prod.mk.inj (Except.ok.inj (hseen.symm.trans hread))).1

/-! ## The report -/

/-- When another number is found, the loader says so and leaves the fallback. -/
theorem run_guarded_of_ne {input : LeftoverStream} (h : input.longAt 0 ≠ magic) :
    (Reader.guarded magic contents fallback).run' input.stream = .ok (false, fallback) := by
  rw [StateT.run'_eq, Reader.guarded, Reader.run_bind_of_ok (Reader.run_u64 input), if_neg h]
  rfl

/-- When the number is found, the loader says so, if the contents can be read. -/
theorem success_of_eq {input : LeftoverStream} {success : Bool} {data : α}
    (hfound : input.longAt 0 = magic)
    (h : (Reader.guarded magic contents fallback).run' input.stream = .ok (success, data)) :
    success = true := by
  rw [StateT.run'_eq, Reader.guarded, Reader.run_bind_of_ok (Reader.run_u64 input), if_pos hfound,
    StateT.run_bind] at h
  cases hcontents : contents.run (input.fill 8).2.stream with
  | error failure =>
      rw [hcontents] at h
      cases h
  | ok result =>
      rw [hcontents] at h
      cases h
      rfl

/-- **When a report is right whatever was left over in memory.** It is for bytes that deviate from
the number, and for complete files, which start with it, when their contents can be read. -/
theorem guarded_reports_iff {complete : Prop} (hcomplete : complete → encodeU64 magic <+: bytes) :
    (∀ leftover, Reports ((Reader.guarded magic contents fallback).run'
        ⟨bytes, true, some leftover⟩) complete fallback) ↔
      Deviates magic bytes ∨ complete ∧ ∀ leftover, ∃ result,
        (Reader.guarded magic contents fallback).run' ⟨bytes, true, some leftover⟩
          = .ok result := by
  constructor
  · intro h
    by_cases hdeviates : Deviates magic bytes
    · exact Or.inl hdeviates
    · -- with the rest of the number left over, the loader says it succeeded
      obtain ⟨leftover, hfound⟩ := exists_leftover hdeviates
      obtain ⟨success, data, hrun, hsuccess, -⟩ := h leftover
      refine Or.inr ⟨hsuccess.mp (success_of_eq hfound hrun), fun other => ?_⟩
      obtain ⟨success', data', hrun', -⟩ := h other
      exact ⟨_, hrun'⟩
  · rintro (hdeviates | ⟨h, hall⟩) leftover
    · refine ⟨false, fallback, run_guarded_of_ne (hdeviates.longAt_ne leftover), ?_, fun _ => rfl⟩
      refine iff_of_false Bool.false_ne_true fun h => ?_
      exact hdeviates.longAt_ne leftover (longAt_of_marked (hcomplete h) leftover)
    · obtain ⟨⟨success, data⟩, hrun⟩ := hall leftover
      have hsuccess := success_of_eq (longAt_of_marked (hcomplete h) leftover) hrun
      refine ⟨success, data, hrun, iff_of_true hsuccess h, fun hfalse => ?_⟩
      rw [hsuccess] at hfalse
      cases hfalse

end Foundations
