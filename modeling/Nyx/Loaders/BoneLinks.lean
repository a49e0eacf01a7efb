import Mathlib.Data.List.Forall2
import Nyx.Loaders.SkeletonDecoding

/-! # Links between bones

A bone in a `.nss` file names its children. `NssFileData::findBones` makes pointers of the names:
a bone that is loaded points to all bones of its file with those names, and to nothing else.

* **`Bone.numChildren`**, **`Bone.child`** — the accessors, which follow the pointers.
* **`SkeletonFile.placesNamed`** — the bones of a file with a name, in the order of the file.
* **`Bone.Linked`** — the children of a loaded bone are those that its record declares.
* **`NssFileData.load_links_bones`** — so they are after every load. -/

namespace Nyx

open Foundations NssFile

variable {F : Type}

/-! ## The accessors -/

/-- `Bone::numChildren`: how many children are linked to a bone. -/
def NssFile.Bone.numChildren (bone : BoneData F) : UInt32 := .ofNat bone.children.length

/-- `Bone::child`: the bone that the pointer points to among the bones of the object. -/
def NssFile.Bone.child [Zero F] (bones : List (BoneData F)) (bone : BoneData F) (index : UInt32) :
    BoneData F :=
  match bone.children[index.toNat]? with
  | some place => bones.getD place Bone.dummy
  | none => Bone.dummy

/-- The bones of a file with a name, in the order of the file. -/
def SkeletonFile.placesNamed (file : SkeletonFile) (name : List UInt8) : List Nat :=
  (List.range file.bones.length).filter fun place =>
    (file.bones[place]?).map BoneRecord.name = some name

/-! ## Looking up names -/

/-- The places of a name are those of the bones that have it. -/
theorem mem_placesNamed {file : SkeletonFile} {name : List UInt8} {place : Nat} :
    place ∈ file.placesNamed name ↔ (file.bones[place]?).map BoneRecord.name = some name := by
  rw [SkeletonFile.placesNamed, List.mem_filter, decide_eq_true_eq, List.mem_range]
  refine and_iff_right_of_imp fun h => ?_
  obtain ⟨record, hrecord, -⟩ := Option.map_eq_some_iff.mp h
  exact (List.getElem?_eq_some_iff.mp hrecord).1

/-- The loop over all bones finds the places of the name, among the bones that were read. -/
theorem placesOf_map_read (atof : List UInt8 → F) (file : SkeletonFile) (name : List UInt8) :
    NssFileData.placesOf (file.bones.map (·.read atof)) name = file.placesNamed name := by
  have hplaces : file.bones.zipIdx.map Prod.snd = List.range file.bones.length := by
    rw [List.zipIdx_map_snd, List.range_eq_range']
  rw [NssFileData.placesOf, SkeletonFile.placesNamed, ← hplaces, List.filter_map, List.zipIdx_map,
    List.filter_map, List.map_map]
  refine congrArg (List.map _) (List.filter_congr fun entry hentry => ?_)
  have hfound : file.bones[entry.2]? = some entry.1 := List.mem_zipIdx_iff_getElem?.mp hentry
  simp [hfound, BoneRecord.read]

/-- When no two bones have the same name, the name of a bone is found at one place. -/
theorem placesNamed_of_nodup {file : SkeletonFile} (hdistinct : (file.bones.map (·.name)).Nodup)
    {name : List UInt8} (hmem : name ∈ file.bones.map (·.name)) :
    ∃ place, file.placesNamed name = [place] := by
  obtain ⟨place, hplace⟩ := List.getElem?_of_mem hmem
  refine ⟨place, List.perm_singleton.mp ((List.perm_ext_iff_of_nodup ?_ ?_).mpr fun other => ?_)⟩
  · exact List.nodup_range.filter _
  · exact List.nodup_singleton place
  · rw [mem_placesNamed, List.mem_singleton, ← List.getElem?_map]
    constructor
    · intro hother
      have hlt : other < (file.bones.map (·.name)).length :=
        (List.getElem?_eq_some_iff.mp hother).1
      exact (List.getElem?_inj hlt hdistinct).mp (hother.trans hplace.symm)
    · rintro rfl
      exact hplace

/-- When no two bones have the same name, names of bones are found at one place each, in their
order. -/
theorem forall₂_placesNamed {file : SkeletonFile} (hdistinct : (file.bones.map (·.name)).Nodup)
    {names : List (List UInt8)} (hall : ∀ name ∈ names, name ∈ file.bones.map (·.name)) :
    List.Forall₂ (fun place name => place ∈ file.placesNamed name)
      (names.flatMap file.placesNamed) names := by
  induction names with
  | nil => exact .nil
  | cons name names ih =>
      obtain ⟨hname, hnames⟩ := List.forall_mem_cons.mp hall
      obtain ⟨place, hplace⟩ := placesNamed_of_nodup hdistinct hname
      rw [List.flatMap_cons, hplace, List.singleton_append]
      refine .cons ?_ (ih hnames)
      rw [hplace]
      exact List.mem_singleton_self place

/-! ## Loaded bones -/

/-- **Linked.** A loaded bone has the children that its record declares, name by name and each in
the order of the file; they are bones of the object. With distinct names that all exist, they are
one for each declared name. -/
structure NssFile.Bone.Linked [Zero F] (data : NssFileData F) (file : SkeletonFile)
    (bone : BoneData F) (record : BoneRecord) : Prop where
  name : Bone.name bone = record.name
  children : bone.children = record.children.flatMap file.placesNamed
  inFile : ∀ place ∈ bone.children, place < data.boneCount.toNat
  child : ∀ (j : UInt32) (place : Nat), bone.children[j.toNat]? = some place →
    Bone.child data.bones bone j = data.bone (.ofNat place)
  declared : (file.bones.map (·.name)).Nodup →
    (∀ name ∈ record.children, name ∈ file.bones.map (·.name)) →
      (Bone.numChildren bone).toNat = record.children.length ∧
      ∀ (j : UInt32) (name : List UInt8), record.children[j.toNat]? = some name →
        Bone.name (Bone.child data.bones bone j) = name

namespace SkeletonFile

variable (atof : List UInt8 → F) {file : SkeletonFile}

/-- The bones of the object are those of the file, each with the children that were found for it. -/
theorem bones_loaded : (file.loaded atof).bones = file.bones.map fun record =>
    NssFileData.findChildren (file.bones.map (·.read atof)) (record.read atof) :=
  List.map_map

/-- The children of a loaded bone are the places of the names that its record lists, in order. -/
theorem children_findChildren (record : BoneRecord) :
    (NssFileData.findChildren (file.bones.map (·.read atof)) (record.read atof)).children =
      record.children.flatMap file.placesNamed := by
  simp only [NssFileData.findChildren, BoneRecord.read, List.nil_append]
  exact List.flatMap_congr fun name _ => placesOf_map_read atof file name

variable [Zero F]

/-- A place of the file is a bone of the object, with the name at that place. -/
theorem bone_loaded (hfits : file.bones.length < 2 ^ 32) {place : Nat} {record : BoneRecord}
    (hrecord : file.bones[place]? = some record) :
    (file.loaded atof).bones.getD place Bone.dummy = (file.loaded atof).bone (.ofNat place) ∧
      ((file.loaded atof).bone (.ofNat place)).name = record.name := by
  have hlength : (file.loaded atof).bones.length = file.bones.length := by
    rw [bones_loaded, List.length_map]
  obtain ⟨hlt, -⟩ := List.getElem?_eq_some_iff.mp hrecord
  have hbone : (file.loaded atof).bones.getD place Bone.dummy
      = (file.loaded atof).bone (.ofNat place) := by
    rw [NssFileData.bone, NssFileData.boneCount, readAt_ofNat (by omega) (by omega),
      List.getD_eq_getElem]
  refine ⟨hbone, ?_⟩
  rw [← hbone, List.getD_eq_getElem?_getD, bones_loaded, List.getElem?_map, hrecord]
  rfl

/-- **A bone that was loaded is linked**: it shows its record, and its children are the places that
the record names. -/
theorem linked_loaded (hfits : file.bones.length < 2 ^ 32)
    (hzero : ∀ bone ∈ file.bones, 0 ∉ bone.name) {record : BoneRecord} (hmem : record ∈ file.bones)
    (hchildren : record.children.length < 2 ^ 32) :
    Bone.Linked (file.loaded atof) file
      (NssFileData.findChildren (file.bones.map (·.read atof)) (record.read atof)) record := by
  have hlinks : (NssFileData.findChildren (file.bones.map (·.read atof))
      (record.read atof)).children = record.children.flatMap file.placesNamed :=
    children_findChildren atof record
  have hcount : (file.loaded atof).boneCount.toNat = file.bones.length := by
    rw [NssFileData.boneCount, bones_loaded, List.length_map, UInt32.toNat_ofNat_of_lt' hfits]
  -- a child is at a place of the file
  have hplace : ∀ place ∈ record.children.flatMap file.placesNamed, ∃ child,
      file.bones[place]? = some child := by
    intro place hplace
    obtain ⟨name, -, hname⟩ := List.mem_flatMap.mp hplace
    obtain ⟨child, hchild, -⟩ := Option.map_eq_some_iff.mp (mem_placesNamed.mp hname)
    exact ⟨child, hchild⟩
  rw [← hlinks] at hplace
  refine ⟨cString_eq_self (hzero record hmem), hlinks, ?_, ?_, ?_⟩
  · intro place hmemPlace
    obtain ⟨child, hchild⟩ := hplace place hmemPlace
    rw [hcount]
    exact (List.getElem?_eq_some_iff.mp hchild).1
  · intro j place hj
    obtain ⟨child, hchild⟩ := hplace place (List.mem_of_getElem? hj)
    simp only [Bone.child, hj]
    exact (bone_loaded atof hfits hchild).1
  · intro hdistinct hall
    have hforall := forall₂_placesNamed hdistinct hall
    rw [← hlinks] at hforall
    refine ⟨?_, fun j name hname => ?_⟩
    · rw [Bone.numChildren, hforall.length_eq, UInt32.toNat_ofNat_of_lt' hchildren]
    · obtain ⟨hlt, hname⟩ := List.getElem?_eq_some_iff.mp hname
      have hlt' := hforall.length_eq ▸ hlt
      have hfound := mem_placesNamed.mp (hforall.get hlt' hlt)
      obtain ⟨child, hchild, heq⟩ := Option.map_eq_some_iff.mp hfound
      have hshown := bone_loaded atof hfits hchild
      simp only [Bone.child, List.getElem?_eq_getElem hlt']
      rw [List.get_eq_getElem] at hshown heq
      rw [hshown.1, Bone.name, hshown.2, heq, hname, cString_eq_self]
      rw [← hname, ← heq]
      exact hzero child (List.mem_of_getElem? hchild)

end SkeletonFile

/-- **Children follow the declared names.** From any bytes that start with the encoding of a
skeleton, whatever was loaded before and whatever is left over in memory, `load` returns true, and
every bone is linked. No name of a bone has a zero in it. -/
theorem NssFileData.load_links_bones [Zero F] (atof : List UInt8 → F) (data : NssFileData F)
    (file : SkeletonFile) (trailing : List UInt8) (size : UInt32) (leftover : Option (Nat → UInt8))
    (hsize : file.encode.length ≤ size.toNat) (hzero : ∀ bone ∈ file.bones, 0 ∉ bone.name) :
    ∃ data', data.load atof (file.encode ++ trailing) size leftover = .ok (true, data') ∧
      Lists (Bone.Linked data' file) data'.boneCount data'.bone file.bones := by
  have hfile : file.encode.length < 2 ^ 32 := Nat.lt_of_le_of_lt hsize size.toNat_lt
  have hbones : file.bones.length ≤ (file.bones.flatMap BoneRecord.encode).length :=
    length_le_length_flatMap_of_pos fun bone _ => length_bone_pos bone
  have hlength := hfile
  simp only [SkeletonFile.encode, List.length_append] at hlength
  refine ⟨file.loaded atof, ?_, ?_⟩
  · rw [load, List.take_append, List.take_of_length_le hsize]
    exact (reads_file atof data.reset hfile).run' _ _
  · have hbone : (file.loaded atof).bone = readAt Bone.dummy
        (.ofNat (file.loaded atof).bones.length) (file.loaded atof).bones := rfl
    rw [boneCount, hbone, SkeletonFile.bones_loaded]
    refine lists_readAt_map (by omega) fun record hmem => ?_
    have hrecord : record.encode.length ≤ (file.bones.flatMap BoneRecord.encode).length :=
      length_le_length_flatMap hmem
    have hchildren : record.children.length ≤ (record.children.flatMap encodeString).length :=
      length_le_length_flatMap_of_pos fun child _ => by
        rw [length_encodeString]
        omega
    simp only [BoneRecord.encode, List.length_append] at hrecord
    exact SkeletonFile.linked_loaded atof (by omega) hzero hmem (by omega)

/-- Two bones of one name that are children of each other and of themselves, and a name that no bone
has. -/
theorem NssFileData.load_links_twoBones :
    let row : Vec4 (List UInt8) := ⟨[49], [48], [48], [48]⟩
    let file : SkeletonFile := ⟨0, [⟨[97], ⟨row, row, row, row⟩, [[97], [98]]⟩,
      ⟨[97], ⟨row, row, row, row⟩, [[97]]⟩], []⟩
    ∃ data', (⟨1, 0, [Bone.dummy], []⟩ : NssFileData Nat).load List.length (file.encode ++ [7]) 300
        none = .ok (true, data') ∧
      Lists (Bone.Linked data' file) data'.boneCount data'.bone file.bones :=
  NssFileData.load_links_bones List.length ⟨1, 0, [Bone.dummy], []⟩ _ [7] 300 none
    (by simp [SkeletonFile.encode, BoneRecord.encode, Mat4.encode, Vec4.encode]) (by decide)

end Nyx
