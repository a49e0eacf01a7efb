import Mathlib.Algebra.GroupWithZero.Nat
import Nyx.Loaders.MeshAccess
import Nyx.Loaders.NssFiles

/-! # Decoding skeleton files

`NssFile::load` reads back what a `.nss` file encodes, whatever was loaded before:

* **`reads_vec4`**, **`reads_boneV1`**, **`reads_animNodeV1`**, **`reads_animationV1`** — what the
  parts of the loader read.
* **`SkeletonFile.loaded`** — the object after the file was loaded.
* **`NssFileData.load_shows_skeleton`** — the accessors show the encoded bones and animations, in
  order. -/

namespace Nyx

open Foundations NssFile

variable {F : Type} (atof : List UInt8 → F)

/-- The number that a decimal string stands for, up to its first zero. -/
def NssFileData.number (string : List UInt8) : F := atof (cString string)

/-- A bone with its numbers, before its children are looked up. -/
def BoneRecord.read (bone : BoneRecord) : BoneData F :=
  ⟨bone.name, bone.transform.map (NssFileData.number atof), [], bone.children⟩

namespace NssFileData

/-! ## Parts of a file -/

/-- A string whose encoding is short enough is read back in full. -/
theorem reads_string {string : List UInt8} (h : (encodeString string).length < 2 ^ 32) :
    Reads readString (encodeString string) string := by
  rw [length_encodeString] at h
  exact Reads.string (by omega)

/-- A number is read as what its string stands for. -/
theorem reads_float {string : List UInt8} (h : (encodeString string).length < 2 ^ 32) :
    Reads (readFloat atof) (encodeString string) (number atof string) :=
  (reads_string h).bind_pure

/-- A vector is read as its four numbers. -/
theorem reads_vec4 {v : Vec4 (List UInt8)} (h : v.encode.length < 2 ^ 32) :
    Reads (readVec4 atof) v.encode (v.map (number atof)) := by
  simp only [Vec4.encode, List.length_append] at h
  simp only [Vec4.encode, List.append_assoc]
  refine (reads_float atof (by omega)).bind ?_
  refine (reads_float atof (by omega)).bind ?_
  exact (reads_float atof (by omega)).bind (reads_float atof (by omega)).bind_pure

/-- A matrix is read as its sixteen numbers. -/
theorem reads_mat4 {m : Mat4 (List UInt8)} (h : m.encode.length < 2 ^ 32) :
    Reads (readMat4 atof) m.encode (m.map (number atof)) := by
  simp only [Mat4.encode, List.length_append] at h
  simp only [Mat4.encode, List.append_assoc]
  refine (reads_vec4 atof (by omega)).bind ?_
  refine (reads_vec4 atof (by omega)).bind ?_
  exact (reads_vec4 atof (by omega)).bind (reads_vec4 atof (by omega)).bind_pure

/-- **Counted loops.** A loop over a list whose encoding is short enough, with its count in front:
the count is right, and the encoding of each item is short enough too. -/
theorem reads_counted {ι κ : Type} (g : ι → κ) (body : List κ → Reader (List κ))
    {encode : ι → List UInt8} (items : List ι) (h : (items.flatMap encode).length < 2 ^ 32)
    (hpos : ∀ item ∈ items, 0 < (encode item).length)
    (hbody : ∀ item, (encode item).length < 2 ^ 32 → ∀ acc,
      Reads (body acc) (encode item) (acc ++ [g item])) :
    Reads (Reader.fold body (UInt32.ofNat items.length).toNat []) (items.flatMap encode)
      (items.map g) := by
  have hcount := length_le_length_flatMap_of_pos hpos
  rw [toNat_ofNat_count (Nat.lt_of_le_of_lt hcount h)]
  refine Reads.collect_map (fun item hmem acc => hbody item ?_ acc) []
  exact Nat.lt_of_le_of_lt (length_le_length_flatMap hmem) h

/-- The names of the children of a bone are read back in order. -/
theorem reads_children {children : List (List UInt8)}
    (h : (children.flatMap encodeString).length < 2 ^ 32) :
    Reads (Reader.fold readChild (UInt32.ofNat children.length).toNat [])
      (children.flatMap encodeString) children := by
  have hread := reads_counted id readChild children h
    (fun child _ => by rw [length_encodeString]; omega)
    (fun child hchild acc => (reads_string hchild).bind_pure)
  rwa [List.map_id] at hread

/-- A bone is read back with its numbers, before its children are looked up. -/
theorem reads_boneV1 {bone : BoneRecord} (h : bone.encode.length < 2 ^ 32) :
    Reads (readBoneV1 atof) bone.encode (bone.read atof) := by
  simp only [BoneRecord.encode, List.length_append] at h
  simp only [BoneRecord.encode, List.append_assoc]
  refine (reads_string (by omega)).bind ?_
  refine (reads_mat4 atof (by omega)).bind ?_
  exact (Reads.u32 _).bind (reads_children (by omega)).bind_pure

/-- A transform is read with its numbers, and goes behind the others. -/
theorem reads_transform {t : AnimationTransform (List UInt8)} (h : t.encode.length < 2 ^ 32)
    (transforms : List (AnimationTransform F)) :
    Reads (readTransform atof transforms) t.encode (transforms ++ [t.map (number atof)]) := by
  simp only [AnimationTransform.encode, List.length_append] at h
  simp only [AnimationTransform.encode, List.append_assoc]
  refine (reads_float atof (by omega)).bind ?_
  refine (reads_vec4 atof (by omega)).bind ?_
  exact (reads_vec4 atof (by omega)).bind (reads_vec4 atof (by omega)).bind_pure

end NssFileData

open NssFileData

/-- A node of the file with its strings replaced by the numbers that they stand for. -/
def AnimationNodeData.loaded (node : AnimationNodeData (List UInt8)) : AnimationNodeData F :=
  ⟨node.name, node.transforms.map (·.map (number atof))⟩

/-- An animation of the file with its strings replaced by the numbers that they stand for. -/
def AnimationData.loaded (animation : AnimationData (List UInt8)) : AnimationData F :=
  ⟨animation.name, number atof animation.duration, number atof animation.fps,
    animation.nodes.map (·.loaded atof)⟩

/-- The object after a file was loaded, whatever it held before. -/
def SkeletonFile.loaded (file : SkeletonFile) : NssFileData F where
  version := 1
  rootIndex := file.rootIndex
  bones := findBones (file.bones.map (·.read atof))
  animations := file.animations.map (·.loaded atof)

namespace NssFileData

/-- A transform takes at least one byte, so their number is bounded by the size of the file. -/
theorem length_transform_pos (t : AnimationTransform (List UInt8)) : 0 < t.encode.length := by
  simp only [AnimationTransform.encode, List.length_append, length_encodeString]
  omega

/-- A node takes at least one byte, so their number is bounded by the size of the file. -/
theorem length_node_pos (node : AnimationNodeData (List UInt8)) : 0 < node.encode.length := by
  simp only [AnimationNodeData.encode, List.length_append, length_encodeString]
  omega

/-- An animation takes at least one byte, so their number is bounded by the size of the file. -/
theorem length_animation_pos (animation : AnimationData (List UInt8)) :
    0 < animation.encode.length := by
  simp only [AnimationData.encode, List.length_append, length_encodeString]
  omega

/-- A bone takes at least one byte, so their number is bounded by the size of the file. -/
theorem length_bone_pos (bone : BoneRecord) : 0 < bone.encode.length := by
  simp only [BoneRecord.encode, List.length_append, length_encodeString]
  omega

/-- A node is read back with its transforms, and with their numbers. -/
theorem reads_animNodeV1 {node : AnimationNodeData (List UInt8)} (h : node.encode.length < 2 ^ 32) :
    Reads (readAnimNodeV1 atof) node.encode (node.loaded atof) := by
  simp only [AnimationNodeData.encode, List.length_append] at h
  simp only [AnimationNodeData.encode, List.append_assoc]
  have htransforms := reads_counted (AnimationTransform.map (number atof)) (readTransform atof)
    node.transforms (by omega) (fun t _ => length_transform_pos t)
    (fun t ht => reads_transform atof ht)
  refine (reads_string (by omega)).bind ?_
  exact (Reads.u32 _).bind htransforms.bind_pure

/-- An animation is read back with its nodes, and with their numbers. -/
theorem reads_animationV1 {animation : AnimationData (List UInt8)}
    (h : animation.encode.length < 2 ^ 32) :
    Reads (readAnimationV1 atof) animation.encode (animation.loaded atof) := by
  simp only [AnimationData.encode, List.length_append] at h
  simp only [AnimationData.encode, List.append_assoc]
  have hnodes := reads_counted (AnimationNodeData.loaded atof) (readNode atof)
    animation.nodes (by omega) (fun node _ => length_node_pos node)
    (fun node hnode acc => (reads_animNodeV1 atof hnode).bind_pure)
  refine (reads_string (by omega)).bind ?_
  refine (reads_float atof (by omega)).bind ?_
  refine (reads_float atof (by omega)).bind ?_
  exact (Reads.u32 _).bind hnodes.bind_pure

/-! ## The file -/

/-- **A whole file is read back** into any object, and the load reports success. -/
theorem reads_file (data : NssFileData F) {file : SkeletonFile} (h : file.encode.length < 2 ^ 32) :
    Reads (readFile atof data) file.encode (true, file.loaded atof) := by
  simp only [SkeletonFile.encode, List.length_append] at h
  simp only [SkeletonFile.encode, List.append_assoc]
  have hbones := reads_counted (BoneRecord.read atof) (readBone atof) file.bones (by omega)
    (fun bone _ => length_bone_pos bone)
    (fun bone hbone acc => (reads_boneV1 atof hbone).bind_pure)
  have hanimations := reads_counted (AnimationData.loaded atof) (readAnimation atof)
    file.animations (by omega) (fun animation _ => length_animation_pos animation)
    (fun animation hanimation acc => (reads_animationV1 atof hanimation).bind_pure)
  refine Reads.guarded ?_
  refine (Reads.u32 _).bind ?_
  rw [if_pos rfl]
  refine (Reads.u32 _).bind ((Reads.u32 _).bind ((Reads.u32 _).bind ?_))
  exact hbones.bind hanimations.bind_pure

end NssFileData

/-! ## What the accessors show -/

namespace NssFile

variable [Zero F]

/-- A bone that shows a record: its name and its transform. -/
structure Bone.Shows (bone : BoneData F) (record : BoneRecord) : Prop where
  name : Bone.name bone = record.name
  transform : Bone.transform bone = record.transform.map (number atof)

/-- A node that shows a record: its name and all its transforms. -/
structure AnimationNode.Shows (node : AnimationNodeData F)
    (record : AnimationNodeData (List UInt8)) : Prop where
  name : AnimationNode.name node = record.name
  transforms : Lists (fun t record => t = record.map (number atof))
    (AnimationNode.transformCount node) (AnimationNode.transform node) record.transforms

/-- An animation that shows a record: its name, its numbers and all its nodes. -/
structure Animation.Shows (animation : AnimationData F)
    (record : AnimationData (List UInt8)) : Prop where
  name : Animation.name animation = record.name
  duration : Animation.duration animation = number atof record.duration
  fps : Animation.fps animation = number atof record.fps
  nodes : Lists (AnimationNode.Shows atof) (Animation.nodeCount animation)
    (Animation.node animation) record.nodes

end NssFile

/-- The names in a file: of its bones, of its animations, and of their nodes. -/
def SkeletonFile.names (file : SkeletonFile) : List (List UInt8) :=
  file.bones.map (·.name) ++ file.animations.map (·.name) ++
    file.animations.flatMap fun animation => animation.nodes.map (·.name)

/-- The number of transforms of a node whose size fits an `unsigned` does so as well. -/
theorem AnimationNodeData.count_lt {node : AnimationNodeData (List UInt8)}
    (h : node.encode.length < 2 ^ 32) : node.transforms.length < 2 ^ 32 := by
  have hle : node.transforms.length
      ≤ (node.transforms.flatMap AnimationTransform.encode).length :=
    length_le_length_flatMap_of_pos fun t _ => length_transform_pos t
  simp only [AnimationNodeData.encode, List.length_append] at h
  omega

/-- **A node that was loaded shows its record**, if its name has no zero: the name and all
transforms. -/
theorem NssFile.AnimationNode.shows_loaded [Zero F] {node : AnimationNodeData (List UInt8)}
    (h : node.encode.length < 2 ^ 32) (hzero : 0 ∉ node.name) :
    AnimationNode.Shows atof (node.loaded atof) node :=
  ⟨cString_eq_self hzero, lists_readAt_map (AnimationNodeData.count_lt h) fun _ _ => rfl⟩

/-- **An animation that was loaded shows its record**, if no name in it has a zero: the name, the
numbers and all nodes. -/
theorem NssFile.Animation.shows_loaded [Zero F] {animation : AnimationData (List UInt8)}
    (h : animation.encode.length < 2 ^ 32) (hzero : 0 ∉ animation.name)
    (hnodes : ∀ node ∈ animation.nodes, 0 ∉ node.name) :
    Animation.Shows atof (animation.loaded atof) animation := by
  have hle : animation.nodes.length ≤ (animation.nodes.flatMap AnimationNodeData.encode).length :=
    length_le_length_flatMap_of_pos fun node _ => length_node_pos node
  simp only [AnimationData.encode, List.length_append] at h
  refine ⟨cString_eq_self hzero, rfl, rfl, lists_readAt_map (by omega) fun node hmem => ?_⟩
  have hnode : node.encode.length ≤ (animation.nodes.flatMap AnimationNodeData.encode).length :=
    length_le_length_flatMap hmem
  exact AnimationNode.shows_loaded atof (by omega) (hnodes node hmem)

/-- **A bone that was loaded shows its record**, whatever its children are. -/
theorem NssFile.Bone.shows_loaded (bones : List (BoneData F)) {bone : BoneRecord}
    (hzero : 0 ∉ bone.name) :
    Bone.Shows atof (findChildren bones (bone.read atof)) bone :=
  ⟨cString_eq_self hzero, rfl⟩

/-- **The loader decodes the whole format.** From any bytes that start with the encoding of a
skeleton, whatever was loaded before and whatever is left over in memory, `load` returns true, and
the accessors show the bones and the animations in order, with all their nodes and transforms; the
root is the bone at the root index, or an empty bone. No name has a zero in it. -/
theorem NssFileData.load_shows_skeleton [Zero F] (data : NssFileData F) (file : SkeletonFile)
    (trailing : List UInt8) (size : UInt32) (leftover : Option (Nat → UInt8))
    (hsize : file.encode.length ≤ size.toNat) (hzero : ∀ name ∈ file.names, 0 ∉ name) :
    ∃ data', data.load atof (file.encode ++ trailing) size leftover = .ok (true, data') ∧
      Lists (Bone.Shows atof) data'.boneCount data'.bone file.bones ∧
      Lists (Animation.Shows atof) data'.animationCount data'.animation file.animations ∧
      data'.root = if file.rootIndex.toNat < file.bones.length then data'.bone file.rootIndex
        else Bone.dummy := by
  have hfile : file.encode.length < 2 ^ 32 := Nat.lt_of_le_of_lt hsize size.toNat_lt
  have hbones : file.bones.length ≤ (file.bones.flatMap BoneRecord.encode).length :=
    length_le_length_flatMap_of_pos fun bone _ => length_bone_pos bone
  have hanimations : file.animations.length
      ≤ (file.animations.flatMap AnimationData.encode).length :=
    length_le_length_flatMap_of_pos fun animation _ => length_animation_pos animation
  simp only [SkeletonFile.names, List.forall_mem_append, List.forall_mem_map] at hzero
  have hlength := hfile
  simp only [SkeletonFile.encode, List.length_append] at hlength
  refine ⟨file.loaded atof, ?_, ?_, ?_, ?_⟩
  · rw [load, List.take_append, List.take_of_length_le hsize]
    exact (reads_file atof data.reset hfile).run' _ _
  · -- looking up the children leaves the names and the transforms alone
    have hloaded : (file.loaded atof).bones = file.bones.map fun bone =>
        findChildren (file.bones.map (·.read atof)) (bone.read atof) := List.map_map
    simp only [boneCount, bone, hloaded]
    exact lists_readAt_map (by omega) fun bone hmem =>
      Bone.shows_loaded atof _ (hzero.1.1 bone hmem)
  · refine lists_readAt_map (by omega) fun animation hmem => ?_
    have hanimation : animation.encode.length
        ≤ (file.animations.flatMap AnimationData.encode).length := length_le_length_flatMap hmem
    refine Animation.shows_loaded atof (by omega) (hzero.1.2 animation hmem) fun node hnode => ?_
    exact hzero.2 _ (List.mem_flatMap_of_mem hmem (List.mem_map_of_mem hnode))
  · have hcount : (file.loaded atof).bones.length = file.bones.length := by
      simp [SkeletonFile.loaded, findBones]
    have hbone : (file.loaded atof).bone file.rootIndex = (file.loaded atof).root :=
      readAt_eq_getD (by omega) _
    split
    · exact hbone.symm
    · rename_i hle
      exact List.getD_eq_default _ _ (by rw [hcount]; exact Nat.le_of_not_lt hle)

/-- A skeleton of two bones whose root index is too large, with one animation, where a number is the
length of its string. -/
theorem NssFileData.load_shows_twoBones :
    let row : Vec4 (List UInt8) := ⟨[49], [48], [48], [48]⟩
    let file : SkeletonFile := ⟨2, [⟨[97], ⟨row, row, row, row⟩, [[98]]⟩,
      ⟨[98], ⟨row, row, row, row⟩, []⟩], [⟨[99], [50], [51], [⟨[98], [⟨[48], row, row, row⟩]⟩]⟩]⟩
    ∃ data', (⟨1, 0, [Bone.dummy], []⟩ : NssFileData Nat).load List.length (file.encode ++ [7]) 300
        none = .ok (true, data') ∧
      Lists (Bone.Shows List.length) data'.boneCount data'.bone file.bones ∧
      Lists (Animation.Shows List.length) data'.animationCount data'.animation file.animations ∧
      data'.root = if file.rootIndex.toNat < file.bones.length then data'.bone file.rootIndex
        else Bone.dummy :=
  NssFileData.load_shows_skeleton List.length ⟨1, 0, [Bone.dummy], []⟩ _ [7] 300 none
    (by simp [SkeletonFile.encode, BoneRecord.encode, AnimationData.encode,
      AnimationNodeData.encode, AnimationTransform.encode, Mat4.encode, Vec4.encode])
    (by decide)

end Nyx
