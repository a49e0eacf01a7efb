import Nyx.Foundations.MagicNumbers
import Nyx.Loaders.FontDecoding
import Nyx.Loaders.NgtFiles
import Nyx.Loaders.SkeletonDecoding

/-! # What loading reports

The four loaders of textures, geometry, skeletons and fonts report whether they found the magic
number. They do not look at the version, and not at whether what they read was there: what a short
read does not bring is what was left over in memory.

* **`NgtFileData.Complete`**, … — bytes that start with a whole version `1` file.
* **`reports_iff_of_guarded`** — the report of a loader that looks for its number first.
* **`loaders_report_iff`** — the reports are right, whatever was left over in memory, exactly for
  bytes that deviate from the number and for complete files, for geometry only with names that
  fit. -/

namespace Nyx

open Foundations

/-- Bytes that start with a whole texture file, whatever follows it. -/
def NgtFileData.Complete (bytes : List UInt8) : Prop :=
  ∃ file : TextureFile, file.encode <+: bytes

/-- Bytes that start with a whole geometry file, whatever follows it. -/
def NggFileData.Complete (bytes : List UInt8) : Prop :=
  ∃ meshes : List MeshRecord, encodeNgg meshes <+: bytes

/-- Bytes that start with a whole skeleton file, whatever follows it. -/
def NssFileData.Complete (bytes : List UInt8) : Prop :=
  ∃ file : SkeletonFile, file.encode <+: bytes

/-- Bytes that start with a whole font file, whatever follows it. -/
def NttFileData.Complete (bytes : List UInt8) : Prop :=
  ∃ glyphs : List GlyphRecord, encodeNtt glyphs <+: bytes

/-- Bytes that start with a geometry file whose names fit. -/
def NggFileData.CompleteFitting (bytes : List UInt8) : Prop :=
  ∃ meshes : List MeshRecord, encodeNgg meshes <+: bytes ∧ ∀ mesh ∈ meshes, mesh.NameFits

variable {bytes : List UInt8}

/-- All bytes are given to the loader when their number fits an `unsigned`. -/
theorem take_size (h : bytes.length < 2 ^ 32) :
    bytes.take (UInt32.ofNat bytes.length).toNat = bytes := by
  rw [toNat_ofNat_count h, List.take_length]

/-- **The report of a loader**, of which a complete file is read back unless it is of a bad kind. -/
theorem reports_iff_of_guarded {α : Type} {magic : UInt64} {contents : Reader α} {fallback : α}
    {Complete Fitting : Prop} (hstart : Complete → encodeU64 magic <+: bytes)
    (hfitting : Fitting → Complete) (hread : Complete →
      (Fitting ↔ ∀ leftover, ∃ result, (Reader.guarded magic contents fallback).run'
        ⟨bytes, true, some leftover⟩ = .ok result)) :
    (∀ leftover, Reports ((Reader.guarded magic contents fallback).run'
        ⟨bytes, true, some leftover⟩) Complete fallback) ↔
      Deviates magic bytes ∨ Fitting := by
  rw [guarded_reports_iff hstart]
  refine or_congr_right ⟨fun h => (hread h.1).mpr h.2, fun h => ⟨hfitting h, ?_⟩⟩
  exact (hread (hfitting h)).mp h

/-- A file in bytes whose number fits an `unsigned` has a size that fits. -/
theorem length_lt_of_start {file : List UInt8} (h : bytes.length < 2 ^ 32)
    (hstart : file <+: bytes) : file.length < 2 ^ 32 :=
  Nat.lt_of_le_of_lt hstart.length_le h

/-- What is read of a whole file is read of bytes that start with it. -/
theorem exists_of_reads {α : Type} {r : Reader α} {file : List UInt8} {a : α}
    (hread : Reads r file a) (hstart : file <+: bytes) (leftover : Nat → UInt8) :
    ∃ result, StateT.run' r ⟨bytes, true, some leftover⟩ = .ok result := by
  obtain ⟨rest, rfl⟩ := hstart
  exact ⟨a, hread.run' rest (some leftover)⟩

/-- A loader that reads back every whole file, whatever the file is of. -/
theorem reports_iff_of_reads {α F : Type} {magic : UInt64} {contents : Reader α} {fallback : α}
    {encode : F → List UInt8} {a : F → Bool × α} (h : bytes.length < 2 ^ 32)
    (hmagic : ∀ file, encodeU64 magic <+: encode file)
    (hreads : ∀ file, (encode file).length < 2 ^ 32 →
      Reads (Reader.guarded magic contents fallback) (encode file) (a file)) :
    (∀ leftover, Reports ((Reader.guarded magic contents fallback).run'
        ⟨bytes, true, some leftover⟩) (∃ file, encode file <+: bytes) fallback) ↔
      Deviates magic bytes ∨ ∃ file, encode file <+: bytes := by
  refine reports_iff_of_guarded ?_ id fun hcomplete => iff_of_true hcomplete ?_
  · rintro ⟨file, hstart⟩
    exact (hmagic file).trans hstart
  · obtain ⟨file, hstart⟩ := hcomplete
    exact exists_of_reads (hreads file (length_lt_of_start h hstart)) hstart

/-! ## The four loaders -/

/-- **Textures** are reported right, whatever is left over, exactly on bytes that deviate from the
magic number and on complete files. -/
theorem NgtFileData.reports_iff (data : NgtFileData) (h : bytes.length < 2 ^ 32) :
    (∀ leftover, Reports (data.load bytes (.ofNat bytes.length) (some leftover)) (Complete bytes)
        data.reset) ↔
      Deviates magic bytes ∨ Complete bytes := by
  have hload : ∀ leftover, data.load bytes (.ofNat bytes.length) (some leftover) =
      (Reader.guarded magic (readContents data.reset) data.reset).run'
        ⟨bytes, true, some leftover⟩ := by
    intro leftover
    rw [load, take_size h]
    rfl
  simp only [hload]
  refine reports_iff_of_reads h (fun file => ?_) fun file hfile => reads_file data.reset hfile
  simp only [TextureFile.encode, List.append_assoc]
  exact List.prefix_append _ _

/-- **Geometry** is reported right exactly on bytes that deviate and on complete files whose names
fit, since one that does not makes loading fail. -/
theorem NggFileData.reports_iff (data : NggFileData) (h : bytes.length < 2 ^ 32) :
    (∀ leftover, Reports (data.load bytes (.ofNat bytes.length) (some leftover)) (Complete bytes)
        data.reset) ↔
      Deviates magic bytes ∨ CompleteFitting bytes := by
  have hload : ∀ leftover, data.load bytes (.ofNat bytes.length) (some leftover) =
      (Reader.guarded magic (readContents data.reset) data.reset).run'
        ⟨bytes, true, some leftover⟩ := by
    intro leftover
    rw [load, take_size h]
    rfl
  simp only [hload]
  refine reports_iff_of_guarded ?_ ?_ fun hcomplete => ⟨?_, ?_⟩
  · rintro ⟨meshes, hstart⟩
    simp only [encodeNgg, List.append_assoc] at hstart
    exact (List.prefix_append _ _).trans hstart
  · rintro ⟨meshes, hstart, -⟩
    exact ⟨meshes, hstart⟩
  · rintro ⟨meshes, hstart, hnames⟩
    have hloadable := loadable_of_length (length_lt_of_start h hstart)
    exact exists_of_reads (reads_file data.reset hloadable hnames) hstart
  · intro hall
    obtain ⟨result, hresult⟩ := hall fun _ => 0
    obtain ⟨meshes, hstart⟩ := hcomplete
    refine ⟨meshes, hstart, ?_⟩
    by_contra hover
    push Not at hover
    have hthrows := throws_file data.reset (loadable_of_length (length_lt_of_start h hstart)) hover
    obtain ⟨rest, rfl⟩ := hstart
    exact (hthrows rest _).map.ne_ok hresult

/-- **Skeletons** are reported right exactly on bytes that deviate from the magic number and on
complete files. -/
theorem NssFileData.reports_iff {F : Type} (atof : List UInt8 → F) (data : NssFileData F)
    (h : bytes.length < 2 ^ 32) :
    (∀ leftover, Reports (data.load atof bytes (.ofNat bytes.length) (some leftover))
        (Complete bytes) data.reset) ↔
      Deviates magic bytes ∨ Complete bytes := by
  have hload : ∀ leftover, data.load atof bytes (.ofNat bytes.length) (some leftover) =
      (Reader.guarded magic (readContents atof data.reset) data.reset).run'
        ⟨bytes, true, some leftover⟩ := by
    intro leftover
    rw [load, take_size h]
    rfl
  simp only [hload]
  refine reports_iff_of_reads h (fun file => ?_) fun file hfile => reads_file atof data.reset hfile
  simp only [SkeletonFile.encode, List.append_assoc]
  exact List.prefix_append _ _

/-- **Fonts** are reported right exactly on bytes that deviate from the magic number and on complete
files. -/
theorem NttFileData.reports_iff (data : NttFileData) (h : bytes.length < 2 ^ 32) :
    (∀ leftover, Reports (data.load bytes (.ofNat bytes.length) (some leftover)) (Complete bytes)
        data.reset) ↔
      Deviates magic bytes ∨ Complete bytes := by
  have hload : ∀ leftover, data.load bytes (.ofNat bytes.length) (some leftover) =
      (Reader.guarded magic (readContents data.reset) data.reset).run'
        ⟨bytes, true, some leftover⟩ := by
    intro leftover
    rw [load, take_size h]
    rfl
  simp only [hload]
  refine reports_iff_of_reads h (fun glyphs => ?_) fun glyphs hfile => reads_file data hfile
  simp only [encodeNtt, List.append_assoc]
  exact List.prefix_append _ _

/-- **What the loaders report.** For all bytes and whatever was loaded before, a loader reports
success exactly of a complete file, and otherwise is as after a `reset`, whatever was left over in
memory, exactly when one of the first eight bytes, or of all when there are fewer, is another than
in the magic number, or when the bytes start with a complete file; the names in a geometry file have
to fit. -/
theorem loaders_report_iff (bytes : List UInt8) (h : bytes.length < 2 ^ 32) :
    (∀ data : NgtFileData,
      (∀ leftover, Reports (data.load bytes (.ofNat bytes.length) (some leftover))
          (NgtFileData.Complete bytes) data.reset) ↔
        Deviates NgtFileData.magic bytes ∨ NgtFileData.Complete bytes) ∧
    (∀ data : NggFileData,
      (∀ leftover, Reports (data.load bytes (.ofNat bytes.length) (some leftover))
          (NggFileData.Complete bytes) data.reset) ↔
        Deviates NggFileData.magic bytes ∨ NggFileData.CompleteFitting bytes) ∧
    (∀ (F : Type) (atof : List UInt8 → F) (data : NssFileData F),
      (∀ leftover, Reports (data.load atof bytes (.ofNat bytes.length) (some leftover))
          (NssFileData.Complete bytes) data.reset) ↔
        Deviates NssFileData.magic bytes ∨ NssFileData.Complete bytes) ∧
    ∀ data : NttFileData,
      (∀ leftover, Reports (data.load bytes (.ofNat bytes.length) (some leftover))
          (NttFileData.Complete bytes) data.reset) ↔
        Deviates NttFileData.magic bytes ∨ NttFileData.Complete bytes :=
  ⟨fun data => data.reports_iff h, fun data => data.reports_iff h,
    fun _ atof data => data.reports_iff atof h, fun data => data.reports_iff h⟩

/-- Three bytes with which no magic number starts: all four loaders report that there is no file. -/
theorem loaders_report_iff_three :
    let bytes : List UInt8 := [1, 2, 3]
    (∀ data : NgtFileData,
      (∀ leftover, Reports (data.load bytes (.ofNat bytes.length) (some leftover))
          (NgtFileData.Complete bytes) data.reset) ↔
        Deviates NgtFileData.magic bytes ∨ NgtFileData.Complete bytes) ∧
    (∀ data : NggFileData,
      (∀ leftover, Reports (data.load bytes (.ofNat bytes.length) (some leftover))
          (NggFileData.Complete bytes) data.reset) ↔
        Deviates NggFileData.magic bytes ∨ NggFileData.CompleteFitting bytes) ∧
    (∀ (F : Type) (atof : List UInt8 → F) (data : NssFileData F),
      (∀ leftover, Reports (data.load atof bytes (.ofNat bytes.length) (some leftover))
          (NssFileData.Complete bytes) data.reset) ↔
        Deviates NssFileData.magic bytes ∨ NssFileData.Complete bytes) ∧
    ∀ data : NttFileData,
      (∀ leftover, Reports (data.load bytes (.ofNat bytes.length) (some leftover))
          (NttFileData.Complete bytes) data.reset) ↔
        Deviates NttFileData.magic bytes ∨ NttFileData.Complete bytes :=
  loaders_report_iff [1, 2, 3] (by decide)

/-- A texture file of version `2` is loaded with success, though nothing but its version is. -/
theorem not_loaders_report : ¬ ∀ (data : NgtFileData) (bytes : List UInt8)
    (leftover : Nat → UInt8), bytes.length < 2 ^ 32 →
      Reports (data.load bytes (.ofNat bytes.length) (some leftover)) (NgtFileData.Complete bytes)
        data.reset := by
  intro h
  obtain ⟨success, data, hload, hsuccess, -⟩ :=
    h ⟨0, 0, 0, 1, 0, []⟩ (encodeU64 NgtFileData.magic ++ encodeU32 2) (fun _ => 0) (by simp)
  cases hload
  -- a whole file has more than twelve bytes
  obtain ⟨file, hstart⟩ := hsuccess.mp rfl
  have hle := hstart.length_le
  simp [TextureFile.encode] at hle
  omega

end Nyx
