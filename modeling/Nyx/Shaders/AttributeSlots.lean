import Nyx.Shaders.VertexLayouts

/-! # Attribute slots

The loops of `NyxShaderData::parse` over the inputs and their slots share one offset, which is read
before and advanced after each slot.

* **`slotBytes`** — the exact sum of the sizes of some slots.
* **`NyxShaderData.SlotsConsecutive`** — one attribute for each slot, in order, at the sum of the
  sizes before it, and one binding with the sum of all sizes; both sums modulo `2 ^ 32`.
* **`slotsConsecutive_parse`** — what a new shader gets from any file. -/

namespace Nyx

open Foundations

/-- The sizes of some slots together, as an exact integer. -/
def slotBytes (slots : List Attribute) : Nat :=
  (slots.map fun slot => (byteSizeFromFormat slot).toNat).sum

/-- The attributes and the binding that a shader has for some inputs: one attribute for each slot,
back to back in their order. -/
structure NyxShaderData.SlotsConsecutive (data : NyxShaderData) (inputs : List Attribute) :
    Prop where
  count : data.inputs.length =
    (inputs.map fun attr => numIterationsFromType (cString attr.type)).sum
  attributes : ∀ k slot, (vertexSlots inputs)[k]? = some slot →
    ∃ attr, data.inputs[k]? = some attr ∧ attr.location = slot.location ∧ attr.binding = 0 ∧
      attr.format = formatFromAttributeType (cString slot.type) ∧
      attr.offset.toNat = slotBytes ((vertexSlots inputs).take k) % 2 ^ 32
  binding : ∃ binding, data.bindings = [binding] ∧
    binding.stride.toNat = slotBytes (vertexSlots inputs) % 2 ^ 32

/-- Sums of `unsigned`s are those of the numbers, taken modulo `2 ^ 32`. -/
theorem toNat_sum_byteSize (slots : List Attribute) :
    (slots.map byteSizeFromFormat).sum.toNat = slotBytes slots % 2 ^ 32 := by
  induction slots with
  | nil => rfl
  | cons slot slots ih =>
      rw [List.map_cons, List.sum_cons, UInt32.toNat_add, ih, Nat.add_mod_mod]
      simp [slotBytes]

/-- There are as many slots as the inputs have together, each by its type. -/
theorem length_vertexSlots (inputs : List Attribute) :
    (vertexSlots inputs).length =
      (inputs.map fun attr => numIterationsFromType (cString attr.type)).sum := by
  rw [vertexSlots, List.length_flatMap]
  simp [Attribute.numSlots]

/-- What the loops over the inputs leave in the tables of a new shader, at any rate. -/
theorem tables_parse (file : NyxFileData) (rate : VertexInputRate) :
    ({ nyxfile := file, rate := rate } : NyxShaderData).parse.inputs =
        emitted Attribute.slotAt byteSizeFromFormat 0 (vertexSlots file.inputs) ∧
      ({ nyxfile := file, rate := rate } : NyxShaderData).parse.bindings =
        [⟨0, ((vertexSlots file.inputs).map byteSizeFromFormat).sum, rate⟩] := by
  have hloops : file.inputs.foldl parseInput ([], 0) =
      (emitted Attribute.slotAt byteSizeFromFormat 0 (vertexSlots file.inputs),
        ((vertexSlots file.inputs).map byteSizeFromFormat).sum) := by
    rw [foldl_parseInput, parseSlot_eq, foldl_emitStep, List.nil_append, UInt32.zero_add]
  constructor
  · exact congrArg Prod.fst hloops
  · exact congrArg (fun state => [(⟨0, state.2, rate⟩ : VertexBinding)]) hloops

/-- **Slots are consecutive.** Whatever the types and sizes of its inputs, a new shader gets an
attribute for each slot, at the sum of the sizes of the slots before it, and one binding whose
stride is the sum of all sizes. -/
theorem slotsConsecutive_parse (file : NyxFileData) (rate : VertexInputRate) :
    ({ nyxfile := file, rate := rate } : NyxShaderData).parse.SlotsConsecutive file.inputs := by
  obtain ⟨hinputs, hbindings⟩ := tables_parse file rate
  refine ⟨?_, ?_, ?_⟩
  · rw [hinputs, length_emitted, length_vertexSlots]
  · intro k slot hslot
    rw [hinputs, getElem?_emitted, hslot]
    refine ⟨_, rfl, rfl, rfl, rfl, ?_⟩
    rw [← toNat_sum_byteSize]
    exact congrArg UInt32.toNat (UInt32.zero_add _)
  · exact ⟨_, hbindings, toNat_sum_byteSize _⟩

end Nyx
