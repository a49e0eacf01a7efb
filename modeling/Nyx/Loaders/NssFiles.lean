import Nyx.Foundations.CountedLists
import Nyx.Loaders.NyxFiles

/-! # The `.nss` skeleton files

`nyx::NssFile` reads the binary description of a skeleton: the bones, each with a transform and the
names of its children, and the animations. Numbers are written as decimal strings; what `std::atof`
makes of a string, narrowed to `float`, is a parameter.

* **`BoneData`**, **`AnimationData`**, **`AnimationNodeData`** — the records of the source.
* **`NssFileData.readBoneV1`**, **`NssFileData.readAnimationV1`**, **`NssFileData.load`** — the
  loader, read by read.
* **`NssFileData.findBones`** — the children of the bones, looked up by name.
* **`SkeletonFile`**, **`SkeletonFile.encode`** — what a file says, and its bytes. -/

namespace Nyx

open Foundations

variable {F G : Type}

/-! ## Bones and animations -/

namespace NssFile

/-- `NssFile::vec4`: four numbers. -/
structure Vec4 (F : Type) where
  x : F
  y : F
  z : F
  w : F
  deriving DecidableEq, Repr

/-- `NssFile::mat4`: four columns of four numbers. -/
structure Mat4 (F : Type) where
  x : Vec4 F
  y : Vec4 F
  z : Vec4 F
  w : Vec4 F
  deriving DecidableEq, Repr

/-- `NssFile::AnimationTransform`: where a node is at a time. -/
structure AnimationTransform (F : Type) where
  time : F
  position : Vec4 F
  scale : Vec4 F
  rotation : Vec4 F
  deriving DecidableEq, Repr

/-- Apply a function to a vector, entry by entry. -/
def Vec4.map (f : F → G) (v : Vec4 F) : Vec4 G := ⟨f v.x, f v.y, f v.z, f v.w⟩

/-- Apply a function to a matrix, entry by entry. -/
def Mat4.map (f : F → G) (m : Mat4 F) : Mat4 G := ⟨m.x.map f, m.y.map f, m.z.map f, m.w.map f⟩

/-- Apply a function to a transform, to its time and entry by entry. -/
def AnimationTransform.map (f : F → G) (t : AnimationTransform F) : AnimationTransform G :=
  ⟨f t.time, t.position.map f, t.scale.map f, t.rotation.map f⟩

instance [Zero F] : Zero (Vec4 F) := ⟨⟨0, 0, 0, 0⟩⟩

instance [Zero F] : Zero (Mat4 F) := ⟨⟨0, 0, 0, 0⟩⟩

instance [Zero F] : Zero (AnimationTransform F) := ⟨⟨0, 0, 0, 0⟩⟩

end NssFile

open NssFile

/-- `AnimationNodeData`: the name of a node, and where it is in the course of its animation. -/
structure AnimationNodeData (F : Type) where
  name : List UInt8 := []
  transforms : List (AnimationTransform F) := []
  deriving DecidableEq, Repr

/-- `AnimationData`: the name of an animation, how long it takes and how fast, and its nodes. -/
structure AnimationData (F : Type) where
  name : List UInt8
  duration : F
  fps : F
  nodes : List (AnimationNodeData F)
  deriving DecidableEq, Repr

/-- `BoneData`: the name of a bone, its transform, and its children by their places and by their
names. -/
structure BoneData (F : Type) where
  name : List UInt8
  transform : Mat4 F
  /-- The bones that the pointers point to, by their places in `bones`. -/
  children : List Nat := []
  tmpChildren : List (List UInt8) := []
  deriving DecidableEq, Repr

namespace NssFile

/-- A new `Animation`, which is what the accessors show past the end. -/
def Animation.dummy [Zero F] : AnimationData F := ⟨[], 0, 0, []⟩

/-- A new `Bone`, which is what the accessors show past the end. -/
def Bone.dummy [Zero F] : BoneData F := ⟨[], 0, [], []⟩

/-- `AnimationNode::name`: the name of a node, as a string of the host. -/
def AnimationNode.name (node : AnimationNodeData F) : List UInt8 := cString node.name

/-- `AnimationNode::transformCount`: how many transforms a node has. -/
def AnimationNode.transformCount (node : AnimationNodeData F) : UInt32 :=
  .ofNat node.transforms.length

/-- `AnimationNode::transform`: a transform of a node, or zero past the last one. -/
def AnimationNode.transform [Zero F] (node : AnimationNodeData F) :
    UInt32 → AnimationTransform F :=
  readAt 0 (AnimationNode.transformCount node) node.transforms

/-- `Animation::name`: the name of an animation, as a string of the host. -/
def Animation.name (animation : AnimationData F) : List UInt8 := cString animation.name

/-- `Animation::duration`: how long an animation takes. -/
def Animation.duration (animation : AnimationData F) : F := animation.duration

/-- `Animation::fps`: how fast an animation is to be shown. -/
def Animation.fps (animation : AnimationData F) : F := animation.fps

/-- `Animation::nodeCount`: how many nodes an animation has. -/
def Animation.nodeCount (animation : AnimationData F) : UInt32 := .ofNat animation.nodes.length

/-- `Animation::node`: a node of an animation, or an empty one past the last one. -/
def Animation.node (animation : AnimationData F) : UInt32 → AnimationNodeData F :=
  readAt {} (Animation.nodeCount animation) animation.nodes

/-- `Bone::name`: the name of a bone, as a string of the host. -/
def Bone.name (bone : BoneData F) : List UInt8 := cString bone.name

/-- `Bone::transform`: the transform of a bone, as it was read. -/
def Bone.transform (bone : BoneData F) : Mat4 F := bone.transform

end NssFile

/-! ## The loader -/

/-- `NssFileData`: the version of a file, its bones and its animations. -/
structure NssFileData (F : Type) where
  version : UInt32 := 0
  rootIndex : UInt32
  bones : List (BoneData F) := []
  animations : List (AnimationData F) := []
  deriving DecidableEq, Repr

namespace NssFileData

/-- `MAGIC`, the number that the files begin with. -/
def magic : UInt64 := 0x29657d692b450a

/-- `NssFileData::readString`, which reads a length and as many bytes. -/
def readString : Reader (List UInt8) := Reader.string

/-- `NssFileData::readUnsigned`, which reads four bytes. -/
def readUnsigned : Reader UInt32 := Reader.u32

/-- `NssFileData::readMagic`, which reads eight bytes. -/
def readMagic : Reader UInt64 := Reader.u64

section

variable (atof : List UInt8 → F)

/-- `NssFileData::readFloat`, which reads a string and takes the number that `atof` finds in it. -/
def readFloat : Reader F := do
  let string ← readString
  pure (atof (cString string))

/-- `NssFileData::readVec4`, which reads four numbers. -/
def readVec4 : Reader (Vec4 F) := do
  let x ← readFloat atof
  let y ← readFloat atof
  let z ← readFloat atof
  let w ← readFloat atof
  pure ⟨x, y, z, w⟩

/-- `NssFileData::readMat4`: sixteen numbers, `x` to `w` of `x`, then of `y`, `z` and `w`. -/
def readMat4 : Reader (Mat4 F) := do
  let x ← readVec4 atof
  let y ← readVec4 atof
  let z ← readVec4 atof
  let w ← readVec4 atof
  pure ⟨x, y, z, w⟩

/-- The body of the loop over the names of the children. -/
def readChild (children : List (List UInt8)) : Reader (List (List UInt8)) := do
  let str ← readString
  pure (children ++ [str])

/-- `NssFileData::readBoneV1`: the name and the transform of a bone, and the names of its
children. -/
def readBoneV1 : Reader (BoneData F) := do
  let name ← readString
  let transform ← readMat4 atof
  let count ← readUnsigned
  let tmpChildren ← Reader.fold readChild count.toNat []
  pure ⟨name, transform, [], tmpChildren⟩

/-- The body of the loop over the transforms: a time and three vectors are read. -/
def readTransform (transforms : List (AnimationTransform F)) :
    Reader (List (AnimationTransform F)) := do
  let time ← readFloat atof
  let position ← readVec4 atof
  let scale ← readVec4 atof
  let rotation ← readVec4 atof
  pure (transforms ++ [⟨time, position, scale, rotation⟩])

/-- `NssFileData::readAnimNodeV1`: the name of a node, and its transforms. -/
def readAnimNodeV1 : Reader (AnimationNodeData F) := do
  let name ← readString
  let count ← readUnsigned
  let transforms ← Reader.fold (readTransform atof) count.toNat []
  pure ⟨name, transforms⟩

/-- The body of the loop over the nodes: one node is read and put behind the others. -/
def readNode (nodes : List (AnimationNodeData F)) : Reader (List (AnimationNodeData F)) := do
  let node ← readAnimNodeV1 atof
  pure (nodes ++ [node])

/-- `NssFileData::readAnimationV1`: the name of an animation, its two numbers, and its nodes. -/
def readAnimationV1 : Reader (AnimationData F) := do
  let name ← readString
  let duration ← readFloat atof
  let fps ← readFloat atof
  let count ← readUnsigned
  let nodes ← Reader.fold (readNode atof) count.toNat []
  pure ⟨name, duration, fps, nodes⟩

/-- The body of the loop over the bones: one bone is read and put behind the others. -/
def readBone (bones : List (BoneData F)) : Reader (List (BoneData F)) := do
  let bone ← readBoneV1 atof
  pure (bones ++ [bone])

/-- The body of the loop over the animations: one animation is read and put behind the others. -/
def readAnimation (animations : List (AnimationData F)) : Reader (List (AnimationData F)) := do
  let anim ← readAnimationV1 atof
  pure (animations ++ [anim])

end

/-- The bones that a name stands for, by their places. -/
def placesOf (bones : List (BoneData F)) (name : List UInt8) : List Nat :=
  (bones.zipIdx.filter fun entry => entry.1.name = name).map Prod.snd

/-- The body of the loop over the bones in `findBones`: the children are the bones with their
names, and the names are dropped. -/
def findChildren (bones : List (BoneData F)) (bone : BoneData F) : BoneData F :=
  { bone with
    children := bone.children ++ bone.tmpChildren.flatMap (placesOf bones)
    tmpChildren := [] }

/-- `NssFileData::findBones`, which links every bone to its children. -/
def findBones (bones : List (BoneData F)) : List (BoneData F) := bones.map (findChildren bones)

/-- What `load` reads after the magic number; only version `1` has contents. -/
def readContents (atof : List UInt8 → F) (data : NssFileData F) : Reader (NssFileData F) := do
  let version ← readUnsigned
  if version = 1 then
    let rootIndex ← readUnsigned
    let numBones ← readUnsigned
    let numAnimations ← readUnsigned
    let bones ← Reader.fold (readBone atof) numBones.toNat []
    let animations ← Reader.fold (readAnimation atof) numAnimations.toNat []
    pure ⟨version, rootIndex, findBones bones, animations⟩
  else pure { data with version := version }

/-- What `load` does with its stream: without the magic number it returns `false`. -/
def readFile (atof : List UInt8 → F) (data : NssFileData F) : Reader (Bool × NssFileData F) := do
  let found ← readMagic
  if found = magic then
    let data ← readContents atof data
    pure (true, data)
  else pure (false, data)

/-- `NssFile::reset`, which drops the bones and the animations, and keeps the version. -/
def reset (data : NssFileData F) : NssFileData F := { data with bones := [], animations := [] }

/-- `NssFile::load( bytes, size )`, with what is left over in the memory its short reads go to. -/
def load (atof : List UInt8 → F) (data : NssFileData F) (bytes : List UInt8) (size : UInt32)
    (leftover : Option (Nat → UInt8)) : Except StreamFailure (Bool × NssFileData F) :=
  (readFile atof data.reset).run' ⟨bytes.take size.toNat, true, leftover⟩

/-- `NssFile::boneCount`: how many bones were read. -/
def boneCount (data : NssFileData F) : UInt32 := .ofNat data.bones.length

/-- `NssFile::bone( index )`: a bone of the file, or the dummy past the last one. -/
def bone [Zero F] (data : NssFileData F) : UInt32 → BoneData F :=
  readAt Bone.dummy data.boneCount data.bones

/-- `NssFile::animationCount`: how many animations were read. -/
def animationCount (data : NssFileData F) : UInt32 := .ofNat data.animations.length

/-- `NssFile::animation( index )`: an animation of the file, or the dummy past the last one. -/
def animation [Zero F] (data : NssFileData F) : UInt32 → AnimationData F :=
  readAt Animation.dummy data.animationCount data.animations

/-- `NssFile::root`: the bone at the place that the file says. -/
def root [Zero F] (data : NssFileData F) : BoneData F :=
  data.bones.getD data.rootIndex.toNat Bone.dummy

end NssFileData

/-! ## What a file says -/

/-- A bone in a file: its numbers are decimal strings, and its children are named. -/
structure BoneRecord where
  name : List UInt8
  transform : Mat4 (List UInt8)
  children : List (List UInt8)
  deriving DecidableEq, Repr

/-- The contents of a skeleton file: its bones and animations, and which bone is the root. -/
structure SkeletonFile where
  rootIndex : UInt32
  bones : List BoneRecord
  animations : List (AnimationData (List UInt8))
  deriving DecidableEq, Repr

namespace NssFile

/-- The bytes of a vector: its four numbers, as strings. -/
def Vec4.encode (v : Vec4 (List UInt8)) : List UInt8 :=
  encodeString v.x ++ encodeString v.y ++ encodeString v.z ++ encodeString v.w

/-- The bytes of a matrix: its four vectors. -/
def Mat4.encode (m : Mat4 (List UInt8)) : List UInt8 :=
  m.x.encode ++ m.y.encode ++ m.z.encode ++ m.w.encode

/-- The bytes of a transform: its time and its three vectors. -/
def AnimationTransform.encode (t : AnimationTransform (List UInt8)) : List UInt8 :=
  encodeString t.time ++ t.position.encode ++ t.scale.encode ++ t.rotation.encode

end NssFile

/-- The bytes of a bone: its name, its matrix, and the names of its children with their count in
front. -/
def BoneRecord.encode (bone : BoneRecord) : List UInt8 :=
  encodeString bone.name ++ bone.transform.encode ++ encodeU32 (.ofNat bone.children.length) ++
    bone.children.flatMap encodeString

/-- The bytes of a node: its name, and its transforms with their count in front. -/
def AnimationNodeData.encode (node : AnimationNodeData (List UInt8)) : List UInt8 :=
  encodeString node.name ++ encodeU32 (.ofNat node.transforms.length) ++
    node.transforms.flatMap AnimationTransform.encode

/-- The bytes of an animation: its name, its duration and rate, and its nodes with their count in
front. -/
def AnimationData.encode (animation : AnimationData (List UInt8)) : List UInt8 :=
  encodeString animation.name ++ encodeString animation.duration ++ encodeString animation.fps ++
    encodeU32 (.ofNat animation.nodes.length) ++ animation.nodes.flatMap AnimationNodeData.encode

/-- The bytes of a version `1` file: the magic number, the version, the root, the counts, the bones
and the animations. -/
def SkeletonFile.encode (file : SkeletonFile) : List UInt8 :=
  encodeU64 NssFileData.magic ++ encodeU32 1 ++ encodeU32 file.rootIndex ++
    encodeU32 (.ofNat file.bones.length) ++ encodeU32 (.ofNat file.animations.length) ++
    file.bones.flatMap BoneRecord.encode ++ file.animations.flatMap AnimationData.encode

end Nyx
