import Mathlib.Data.List.Forall2
import Mathlib.Data.UInt
import Nyx.Foundations.RunningTotals
import Nyx.Foundations.Tilings
import Nyx.Shaders.NyxShaders

/-! # Vertex layouts

What `NyxShaderData::parse` makes of the inputs of a shader. An input of a matrix type takes a slot
for each column; the loop over the slots is inside the loop over the inputs.

* **`vertexSlots`**, **`foldl_parseInput`** — the two loops as one over all slots.
* **`locations_emitted_iff`** — the slots get the locations of their inputs exactly when no input is
  a matrix.
* **`sizeFromType`** — the sizes that a `.nyx` file has for the types.
* **`attributes_tile_iff`** — the attributes tile the vertex exactly when no input is a `mat3`,
  `vec3` or `ivec3`. -/

namespace Nyx

open Foundations

/-! ## One loop over the slots -/

/-- The number of slots that an input takes, by its type. -/
def Attribute.numSlots (attr : Attribute) : Nat := numIterationsFromType (cString attr.type)

/-- An input takes at least one slot, whatever its type is. -/
theorem Attribute.numSlots_pos (attr : Attribute) : 0 < attr.numSlots := by
  rw [numSlots, numIterationsFromType]
  split_ifs <;> decide

/-- The slots of some inputs, by the inputs they are of. -/
def vertexSlots (inputs : List Attribute) : List Attribute :=
  inputs.flatMap fun attr => List.replicate attr.numSlots attr

/-- The body of the inner loop, for one slot of an input. -/
def parseSlot (state : List VertexAttribute × UInt32) (attr : Attribute) :
    List VertexAttribute × UInt32 :=
  (state.1 ++ [⟨attr.location, 0, formatFromAttributeType (cString attr.type), state.2⟩],
    state.2 + byteSizeFromFormat attr)

/-- The attribute that is made for a slot, at an offset. -/
def Attribute.slotAt (slot : Attribute) (offset : UInt32) : VertexAttribute :=
  ⟨slot.location, 0, formatFromAttributeType (cString slot.type), offset⟩

/-- The body of the inner loop makes an attribute and advances the offset. -/
theorem parseSlot_eq : parseSlot = emitStep Attribute.slotAt byteSizeFromFormat := rfl

/-- A loop that does not look at its index does the same thing again and again. -/
theorem foldl_range_const {σ α : Type} (f : σ → α → σ) (a : α) (n : Nat) (s : σ) :
    (List.range n).foldl (fun s _ => f s a) s = (List.replicate n a).foldl f s := by
  induction n with
  | zero => rfl
  | succ n ih =>
      rw [List.range_succ, List.replicate_succ', List.foldl_append, List.foldl_append, ih]
      rfl

/-- **The two loops are one**, over the slots of all inputs. -/
theorem foldl_parseInput (inputs : List Attribute) (state : List VertexAttribute × UInt32) :
    inputs.foldl parseInput state = (vertexSlots inputs).foldl parseSlot state := by
  rw [vertexSlots, List.foldl_flatMap]
  congr 1
  funext state attr
  exact foldl_range_const parseSlot attr attr.numSlots state

/-- The attributes that a new shader is given by its file are those of the loop over all slots. -/
theorem inputs_parse (file : NyxFileData) :
    ({ nyxfile := file } : NyxShaderData).parse.inputs =
      ((vertexSlots file.inputs).foldl parseSlot ([], 0)).1 := by
  rw [← foldl_parseInput]
  rfl

/-! ## Locations -/

/-- The locations that an input occupies, one for each of its slots. -/
def Attribute.locations (attr : Attribute) : Extent := ⟨attr.location.toNat, attr.numSlots⟩

/-- The locations that an input occupies, in increasing order. -/
def Attribute.slotLocations (attr : Attribute) : List Nat :=
  (List.range attr.numSlots).map (attr.location.toNat + ·)

/-- An input is of a matrix type, of two, three or four columns. -/
def Attribute.IsMatrix (attr : Attribute) : Prop :=
  cString attr.type = ascii ['m', 'a', 't', '4'] ∨ cString attr.type = ascii ['m', 'a', 't', '3'] ∨
    cString attr.type = ascii ['m', 'a', 't', '2']

/-- An input takes one slot exactly when it is not of a matrix type. -/
theorem Attribute.numSlots_eq_one_iff (attr : Attribute) : attr.numSlots = 1 ↔ ¬ attr.IsMatrix := by
  rw [numSlots, numIterationsFromType, IsMatrix]
  split_ifs <;> simp_all

/-- Every slot of an input gets the location of the input, one for all. -/
theorem map_location_foldl (slots : List Attribute) (state : List VertexAttribute × UInt32) :
    (slots.foldl parseSlot state).1.map VertexAttribute.location =
      state.1.map VertexAttribute.location ++ slots.map Attribute.location := by
  have hlocation : (fun (slot : Attribute) (offset : UInt32) => (slot.slotAt offset).location) =
      fun slot _ => slot.location := rfl
  rw [parseSlot_eq, foldl_emitStep, List.map_append, map_emitted, hlocation, emitted_const]

/-- The locations of the attributes of a new shader are those of the inputs, each as often as it has
slots. -/
theorem map_location_parse (file : NyxFileData) :
    ({ nyxfile := file } : NyxShaderData).parse.inputs.map VertexAttribute.location =
      file.inputs.flatMap fun attr => List.replicate attr.numSlots attr.location := by
  rw [inputs_parse, map_location_foldl, vertexSlots, List.map_flatMap]
  simp

/-- Lists that are put together from parts of the same lengths are equal when the parts are. -/
theorem flatMap_eq_flatMap_iff {α β : Type} {f g : α → List β} {xs : List α}
    (h : ∀ x ∈ xs, (f x).length = (g x).length) :
    xs.flatMap f = xs.flatMap g ↔ ∀ x ∈ xs, f x = g x := by
  induction xs with
  | nil => simp
  | cons x xs ih =>
      obtain ⟨hx, hxs⟩ := List.forall_mem_cons.mp h
      rw [List.flatMap_cons, List.flatMap_cons, List.forall_mem_cons, ← ih hxs]
      constructor
      · intro heq
        exact List.append_inj heq hx
      · rintro ⟨hhead, htail⟩
        rw [hhead, htail]

/-- One location, again and again, is a range of locations when there is only one of it. -/
theorem replicate_eq_range_iff (location n : Nat) (hn : 0 < n) :
    List.replicate n location = (List.range n).map (location + ·) ↔ n = 1 := by
  constructor
  · intro h
    have hlast : (List.replicate n location)[n - 1]? =
        ((List.range n).map (location + ·))[n - 1]? := by rw [h]
    rw [List.getElem?_replicate, if_pos (by omega), List.getElem?_map,
      List.getElem?_range (by omega), Option.map_some, Option.some.injEq] at hlast
    omega
  · rintro rfl
    rfl

/-- Inputs that occupy disjoint locations have no location in common. -/
theorem nodup_slotLocations {inputs : List Attribute}
    (h : inputs.Pairwise fun a b => Disjoint a.locations.points b.locations.points) :
    (inputs.flatMap Attribute.slotLocations).Nodup := by
  rw [List.nodup_flatMap]
  refine ⟨fun attr _ => ?_, h.imp fun {a b} hdisjoint location hleft hright => ?_⟩
  · exact List.nodup_range.map fun i j hij => Nat.add_left_cancel hij
  · have hmem : ∀ {attr : Attribute}, location ∈ attr.slotLocations →
        location ∈ attr.locations.points := by
      intro attr hmem
      obtain ⟨i, hi, rfl⟩ := List.mem_map.mp hmem
      have hlt := List.mem_range.mp hi
      exact Set.mem_Ico.mpr
        ⟨by simp [Attribute.locations], by simpa [Attribute.locations] using hlt⟩
    exact Set.disjoint_left.mp hdisjoint (hmem hleft) (hmem hright)

/-- **When the locations are right.** The inputs of a file occupy disjoint ranges of locations.
Parsed by a new shader, every input gets the locations of its range, one for each slot, and no two
attributes share a location, exactly when no input is a matrix. -/
theorem locations_emitted_iff (file : NyxFileData)
    (hdisjoint : file.inputs.Pairwise fun a b => Disjoint a.locations.points b.locations.points) :
    (({ nyxfile := file } : NyxShaderData).parse.inputs.map (·.location.toNat) =
        file.inputs.flatMap Attribute.slotLocations ∧
      (({ nyxfile := file } : NyxShaderData).parse.inputs.map VertexAttribute.location).Nodup) ↔
    ∀ attr ∈ file.inputs, ¬ attr.IsMatrix := by
  have hnat : ({ nyxfile := file } : NyxShaderData).parse.inputs.map (·.location.toNat) =
      file.inputs.flatMap fun attr => List.replicate attr.numSlots attr.location.toNat := by
    have h := congrArg (List.map UInt32.toNat) (map_location_parse file)
    simpa [List.map_flatMap, Function.comp_def] using h
  have heq : ({ nyxfile := file } : NyxShaderData).parse.inputs.map (·.location.toNat) =
      file.inputs.flatMap Attribute.slotLocations ↔ ∀ attr ∈ file.inputs, ¬ attr.IsMatrix := by
    rw [hnat, flatMap_eq_flatMap_iff fun attr _ => by simp [Attribute.slotLocations]]
    refine forall₂_congr fun attr _ => ?_
    rw [Attribute.slotLocations, replicate_eq_range_iff _ _ attr.numSlots_pos,
      attr.numSlots_eq_one_iff]
  rw [heq]
  refine and_iff_left_of_imp fun hscalar => ?_
  have hnodup := nodup_slotLocations hdisjoint
  rw [← heq.mpr hscalar] at hnodup
  refine List.Nodup.of_map UInt32.toNat ?_
  rwa [List.map_map]

/-- A position and a texture coordinate, which take one slot each. -/
theorem locations_emitted_iff_twoInputs :
    let file : NyxFileData := { inputs := [⟨[112], ascii ['v', 'e', 'c', '4'], 16, 0⟩,
      ⟨[117], ascii ['v', 'e', 'c', '2'], 8, 1⟩] }
    (({ nyxfile := file } : NyxShaderData).parse.inputs.map (·.location.toNat) =
        file.inputs.flatMap Attribute.slotLocations ∧
      (({ nyxfile := file } : NyxShaderData).parse.inputs.map VertexAttribute.location).Nodup) ↔
    ∀ attr ∈ file.inputs, ¬ attr.IsMatrix :=
  locations_emitted_iff _ (by
    refine List.pairwise_pair.mpr ((Extent.disjoint_iff ?_ ?_).mpr (Or.inl ?_)) <;> decide)

/-- Not all locations are emitted: the four columns of a matrix all get its location. -/
theorem not_locations_emitted :
    ¬ ∀ file : NyxFileData,
      file.inputs.Pairwise (fun a b => Disjoint a.locations.points b.locations.points) →
        ({ nyxfile := file } : NyxShaderData).parse.inputs.map (·.location.toNat) =
            file.inputs.flatMap Attribute.slotLocations ∧
          (({ nyxfile := file } : NyxShaderData).parse.inputs.map
            VertexAttribute.location).Nodup := by
  intro h
  let file : NyxFileData := { inputs := [⟨[109], ascii ['m', 'a', 't', '4'], 64, 0⟩] }
  have hlocations : ({ nyxfile := file } : NyxShaderData).parse.inputs.map
      VertexAttribute.location = [0, 0, 0, 0] := by decide
  have hnodup := (h file (List.pairwise_singleton _ _)).2
  rw [hlocations] at hnodup
  exact absurd hnodup (by decide)

/-! ## Offsets -/

/-- The number of bytes of a format in a vertex. -/
def VertexFormat.byteSize : VertexFormat → Nat
  | .r32g32b32a32Sfloat | .r32g32b32a32Sint | .r32g32b32a32Uint => 16
  | .r32g32Sfloat | .r32g32Sint | .r32g32Uint => 8
  | .r32Sfloat => 4

/-- The bytes of a vertex that an attribute reads, from its offset on. -/
def VertexAttribute.extent (attr : VertexAttribute) : Extent :=
  ⟨attr.offset.toNat, attr.format.byteSize⟩

/-- `sizeFromType`, by which a `.nyx` file has the size of an input; the program exits for a type
it does not know. -/
def sizeFromType (typeName : List UInt8) : Option UInt32 :=
  if typeName = ascii ['m', 'a', 't', '4'] then some 64
  else if typeName = ascii ['m', 'a', 't', '3'] then some 36
  else if typeName = ascii ['v', 'e', 'c', '4'] then some 16
  else if typeName = ascii ['i', 'v', 'e', 'c', '4'] then some 16
  else if typeName = ascii ['v', 'e', 'c', '3'] then some 12
  else if typeName = ascii ['i', 'v', 'e', 'c', '3'] then some 12
  else if typeName = ascii ['v', 'e', 'c', '2'] then some 8
  else if typeName = ascii ['i', 'v', 'e', 'c', '2'] then some 8
  else if typeName = ascii ['u', 'n', 's', 'i', 'g', 'n', 'e', 'd'] then some 12
  else if typeName = ascii ['f', 'l', 'o', 'a', 't'] then some 12
  else if typeName = ascii ['b', 'o', 'o', 'l'] then some 12
  else none

/-- The types of a matrix of three columns, and of vectors of three components. -/
def threeColumnTypes : List (List UInt8) :=
  [ascii ['m', 'a', 't', '3'], ascii ['v', 'e', 'c', '3'], ascii ['i', 'v', 'e', 'c', '3']]

/-- The vector and matrix types that `sizeFromType` knows. -/
def vectorTypes : List (List UInt8) :=
  [ascii ['m', 'a', 't', '4'], ascii ['v', 'e', 'c', '4'], ascii ['i', 'v', 'e', 'c', '4'],
    ascii ['v', 'e', 'c', '2'], ascii ['i', 'v', 'e', 'c', '2']] ++ threeColumnTypes

/-- An input of a vector or matrix type, of the size of its type. -/
structure Attribute.Sized (attr : Attribute) : Prop where
  vector : cString attr.type ∈ vectorTypes
  size : sizeFromType (cString attr.type) = some attr.size

/-- What a slot of an input takes of the vertex, and what the attribute for it reads there. -/
def Attribute.piece (attr : Attribute) : Piece :=
  ⟨(byteSizeFromFormat attr).toNat, (formatFromAttributeType (cString attr.type)).byteSize⟩

/-- **The three tables.** The slots of an input take its size, and its format fits a slot unless the
type has three columns. -/
theorem Attribute.Sized.piece {attr : Attribute} (h : attr.Sized) :
    attr.piece.Solid ∧ attr.numSlots * attr.piece.room = attr.size.toNat ∧
      (attr.piece.size ≤ attr.piece.room ↔ cString attr.type ∉ threeColumnTypes) := by
  have htypes : ∀ typeName ∈ vectorTypes,
      let size := (sizeFromType typeName).getD 0
      let room := (if typeName = ascii ['m', 'a', 't', '4'] then 16
        else if typeName = ascii ['m', 'a', 't', '3'] then 12
        else if typeName = ascii ['m', 'a', 't', '2'] then 12
        else size).toNat
      let bytes := (formatFromAttributeType typeName).byteSize
      (0 < room ∧ 0 < bytes) ∧ numIterationsFromType typeName * room = size.toNat ∧
        (bytes ≤ room ↔ typeName ∉ threeColumnTypes) := by decide
  obtain ⟨⟨hroom, hsize⟩, hslots, hfits⟩ := htypes _ h.vector
  rw [h.size, Option.getD_some] at hroom hslots hfits
  exact ⟨⟨hroom, hsize⟩, hslots, hfits⟩

/-- The slots of sized inputs take as many bytes as the inputs have. -/
theorem roomOf_vertexSlots {inputs : List Attribute} (h : ∀ attr ∈ inputs, attr.Sized) :
    roomOf ((vertexSlots inputs).map Attribute.piece) = (inputs.map (·.size.toNat)).sum := by
  induction inputs with
  | nil => rfl
  | cons attr inputs ih =>
      obtain ⟨hattr, hinputs⟩ := List.forall_mem_cons.mp h
      have hroom : roomOf (List.replicate attr.numSlots attr.piece) = attr.size.toNat := by
        rw [← hattr.piece.2.1]
        simp [roomOf]
      rw [vertexSlots, List.flatMap_cons, List.map_append, List.map_replicate, roomOf_append, hroom,
        List.map_cons, List.sum_cons, ← ih hinputs]
      rfl

/-- **The slots are laid out.** As long as the offset does not overflow, the loop over the slots
lays out the attributes from the offset on. -/
theorem map_extent_foldl {slots : List Attribute} {state : List VertexAttribute × UInt32}
    (h : state.2.toNat + roomOf (slots.map Attribute.piece) < 2 ^ 32) :
    (slots.foldl parseSlot state).1.map VertexAttribute.extent =
        state.1.map VertexAttribute.extent ++
          layOut state.2.toNat (slots.map Attribute.piece) ∧
      (slots.foldl parseSlot state).2.toNat =
        state.2.toNat + roomOf (slots.map Attribute.piece) := by
  induction slots generalizing state with
  | nil => simp [layOut]
  | cons slot slots ih =>
      rw [List.map_cons, roomOf_cons] at h
      have hoffset : (parseSlot state slot).2.toNat = state.2.toNat + slot.piece.room := by
        have hlt : state.2.toNat + (byteSizeFromFormat slot).toNat < 2 ^ 32 := by
          have hroom : slot.piece.room = (byteSizeFromFormat slot).toNat := rfl
          omega
        rw [parseSlot, UInt32.toNat_add, Nat.mod_eq_of_lt hlt]
        rfl
      obtain ⟨hextents, htotal⟩ := @ih (parseSlot state slot) (by rw [hoffset]; omega)
      rw [List.foldl_cons, hextents, htotal, hoffset, List.map_cons, layOut, roomOf_cons,
        Nat.add_assoc]
      refine ⟨?_, rfl⟩
      simp [parseSlot, VertexAttribute.extent, Attribute.piece]

/-- **When the attributes tile the vertex.** The inputs of a file have vector and matrix types and
the sizes of these. Parsed by a new shader, the bytes that the attributes read do not overlap and
lie within the stride, which is the sum of the sizes, exactly when no type has three columns. -/
theorem attributes_tile_iff (file : NyxFileData) (hsized : ∀ attr ∈ file.inputs, attr.Sized)
    (htotal : (file.inputs.map (·.size.toNat)).sum < 2 ^ 32) :
    (∃ binding, ({ nyxfile := file } : NyxShaderData).parse.bindings = [binding] ∧
      Tiles 0 binding.stride.toNat
        (({ nyxfile := file } : NyxShaderData).parse.inputs.map VertexAttribute.extent) ∧
      binding.stride.toNat = (file.inputs.map (·.size.toNat)).sum) ↔
    ∀ attr ∈ file.inputs, cString attr.type ∉ threeColumnTypes := by
  have hroom := roomOf_vertexSlots hsized
  obtain ⟨hextents, hstride⟩ := @map_extent_foldl (vertexSlots file.inputs) ([], 0)
    (by rw [hroom, UInt32.toNat_zero, Nat.zero_add]; exact htotal)
  have hmem : ∀ {attr : Attribute}, attr ∈ vertexSlots file.inputs ↔ attr ∈ file.inputs := by
    intro attr
    rw [vertexSlots, List.mem_flatMap]
    constructor
    · rintro ⟨other, hother, hmem⟩
      rwa [(List.mem_replicate.mp hmem).2]
    · intro hattr
      exact ⟨attr, hattr, List.mem_replicate.mpr ⟨attr.numSlots_pos.ne', rfl⟩⟩
  have hsolid : ∀ piece ∈ (vertexSlots file.inputs).map Attribute.piece, piece.Solid :=
    List.forall_mem_map.mpr fun attr hattr => (hsized attr (hmem.mp hattr)).piece.1
  have hbindings : ({ nyxfile := file } : NyxShaderData).parse.bindings =
      [⟨0, ((vertexSlots file.inputs).foldl parseSlot ([], 0)).2, .vertex⟩] := by
    rw [← foldl_parseInput]
    rfl
  have hfits : (∀ piece ∈ (vertexSlots file.inputs).map Attribute.piece,
      piece.size ≤ piece.room) ↔ ∀ attr ∈ file.inputs, cString attr.type ∉ threeColumnTypes := by
    rw [List.forall_mem_map]
    refine forall_congr' fun attr => ?_
    rw [hmem]
    exact forall_congr' fun hattr => (hsized attr hattr).piece.2.2
  rw [UInt32.toNat_zero, List.map_nil, List.nil_append] at hextents
  rw [UInt32.toNat_zero, hroom] at hstride
  have htiles := @tiles_layOut_iff 0 _ hsolid
  rw [hfits, hroom] at htiles
  rw [← htiles, inputs_parse, hextents, hbindings]
  constructor
  · rintro ⟨binding, hbinding, htile, hsum⟩
    rwa [hsum, ← Nat.zero_add (List.sum _)] at htile
  · intro htile
    refine ⟨_, rfl, ?_, by rw [hstride, Nat.zero_add]⟩
    rwa [hstride]

/-- A matrix and a texture coordinate, which tile the vertex. -/
theorem attributes_tile_iff_twoInputs :
    let file : NyxFileData := { inputs := [⟨[109], ascii ['m', 'a', 't', '4'], 64, 0⟩,
      ⟨[117], ascii ['v', 'e', 'c', '2'], 8, 4⟩] }
    (∃ binding, ({ nyxfile := file } : NyxShaderData).parse.bindings = [binding] ∧
      Tiles 0 binding.stride.toNat
        (({ nyxfile := file } : NyxShaderData).parse.inputs.map VertexAttribute.extent) ∧
      binding.stride.toNat = (file.inputs.map (·.size.toNat)).sum) ↔
    ∀ attr ∈ file.inputs, cString attr.type ∉ threeColumnTypes :=
  attributes_tile_iff _ (List.forall_mem_cons.mpr ⟨⟨by decide, by decide⟩,
    List.forall_mem_singleton.mpr ⟨by decide, by decide⟩⟩) (by decide)

/-- A vector of three numbers is read as one of four, beyond the end of the vertex. -/
theorem not_attributes_tile :
    ¬ ∀ file : NyxFileData, (∀ attr ∈ file.inputs, attr.Sized) →
      (file.inputs.map (·.size.toNat)).sum < 2 ^ 32 →
        ∃ binding, ({ nyxfile := file } : NyxShaderData).parse.bindings = [binding] ∧
          Tiles 0 binding.stride.toNat
            (({ nyxfile := file } : NyxShaderData).parse.inputs.map VertexAttribute.extent) ∧
          binding.stride.toNat = (file.inputs.map (·.size.toNat)).sum := by
  intro h
  let file : NyxFileData := { inputs := [⟨[112], ascii ['v', 'e', 'c', '3'], 12, 0⟩] }
  obtain ⟨binding, -, htile, hsum⟩ := h file
    (List.forall_mem_singleton.mpr ⟨by decide, by decide⟩) (by decide)
  have hextents : ({ nyxfile := file } : NyxShaderData).parse.inputs.map VertexAttribute.extent =
      [⟨0, 16⟩] := by decide
  have hstride : binding.stride.toNat = 12 := hsum
  rw [hextents, hstride] at htile
  have hwithin := htile.within ⟨0, 16⟩ List.mem_cons_self
  exact absurd ((Extent.points_subset_iff (by decide)).mp hwithin).2 (by decide)

end Nyx
