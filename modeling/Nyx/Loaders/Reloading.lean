import Mathlib.Data.List.GetD
import Nyx.Foundations.MagicNumbers
import Nyx.Loaders.ShaderDecoding

/-! # Loading shader files again and again

What the accessors of `nyx::NyxFile` show after any sequence of loads. A load empties the map of
stages, but its inputs and outputs go behind those of the loads before it.

* **`NyxFileData.numInputs`**, **`NyxFileData.inputName`**, … — the accessors.
* **`NyxFileData.SameContents`** — two objects whose accessors show the same.
* **`LoadCall`** — what `load` is given: a complete file, or bytes that start with another number.
* **`attributes_loadedAll`** — what any sequence of calls leaves in the inputs and outputs.
* **`Attribute.Hidden`** — inputs that the accessors do not show in front of others.
* **`reloaded_iff`** — the loads before the last one show unless their inputs and outputs are
  hidden. -/

namespace Nyx

open Foundations

/-! ## The accessors -/

/-- The attribute of which the accessors give the fields past the end. -/
def Attribute.blank : Attribute := ⟨[], [], 0, 0⟩

/-- The attribute at an index, a blank one past the end. -/
def attributeAt (attributes : List Attribute) (index : UInt32) : Attribute :=
  attributes.getD index.toNat .blank

/-- The fields of an attribute, its strings as C strings. -/
def Attribute.shown (attr : Attribute) : List UInt8 × List UInt8 × UInt32 × UInt32 :=
  (cString attr.name, cString attr.type, attr.size, attr.location)

namespace NyxFileData

variable (data : NyxFileData)

/-- `NyxFile::numInputs`: how many inputs the shader has. -/
def numInputs : UInt32 := .ofNat data.inputs.length

/-- `NyxFile::inputName`: the name of an input, as a string of the host. -/
def inputName (index : UInt32) : List UInt8 := cString (attributeAt data.inputs index).name

/-- `NyxFile::inputType`: the type of an input, as a string of the host. -/
def inputType (index : UInt32) : List UInt8 := cString (attributeAt data.inputs index).type

/-- `NyxFile::inputByteSize`: the size of an input in bytes. -/
def inputByteSize (index : UInt32) : UInt32 := (attributeAt data.inputs index).size

/-- `NyxFile::inputLocation`: the location of an input. -/
def inputLocation (index : UInt32) : UInt32 := (attributeAt data.inputs index).location

/-- `NyxFile::numOutputs`: how many outputs the shader has. -/
def numOutputs : UInt32 := .ofNat data.outputs.length

/-- `NyxFile::outputName`: the name of an output, as a string of the host. -/
def outputName (index : UInt32) : List UInt8 := cString (attributeAt data.outputs index).name

/-- `NyxFile::outputType`: the type of an output, as a string of the host. -/
def outputType (index : UInt32) : List UInt8 := cString (attributeAt data.outputs index).type

/-- `NyxFile::outputByteSize`: the size of an output in bytes. -/
def outputByteSize (index : UInt32) : UInt32 := (attributeAt data.outputs index).size

/-- `NyxFile::outputLocation`: the location of an output. -/
def outputLocation (index : UInt32) : UInt32 := (attributeAt data.outputs index).location

/-- The accessors of two objects show the same, for every index and stage. -/
structure SameContents (data other : NyxFileData) : Prop where
  numInputs : data.numInputs = other.numInputs
  inputName : ∀ index, data.inputName index = other.inputName index
  inputType : ∀ index, data.inputType index = other.inputType index
  inputByteSize : ∀ index, data.inputByteSize index = other.inputByteSize index
  inputLocation : ∀ index, data.inputLocation index = other.inputLocation index
  numOutputs : data.numOutputs = other.numOutputs
  outputName : ∀ index, data.outputName index = other.outputName index
  outputType : ∀ index, data.outputType index = other.outputType index
  outputByteSize : ∀ index, data.outputByteSize index = other.outputByteSize index
  outputLocation : ∀ index, data.outputLocation index = other.outputLocation index
  size : data.size = other.size
  stages : data.iterators.map (fun iter => (iter.stage, iter.spirv, iter.uniforms))
    = other.iterators.map (fun iter => (iter.stage, iter.spirv, iter.uniforms))

end NyxFileData

/-- Lists of attributes that their count and their accessors show alike. -/
def ShownAlike (attributes others : List Attribute) : Prop :=
  UInt32.ofNat attributes.length = .ofNat others.length ∧
    ∀ index, (attributeAt attributes index).shown = (attributeAt others index).shown

/-- Objects with the same map show the same when their inputs and outputs do. -/
theorem sameContents_iff {data other : NyxFileData} (hmap : data.map = other.map) :
    data.SameContents other ↔
      ShownAlike data.inputs other.inputs ∧ ShownAlike data.outputs other.outputs := by
  constructor
  · intro h
    refine ⟨⟨h.numInputs, fun index => ?_⟩, ⟨h.numOutputs, fun index => ?_⟩⟩
    · simp only [Attribute.shown, Prod.mk.injEq]
      exact ⟨h.inputName index, h.inputType index, h.inputByteSize index, h.inputLocation index⟩
    · simp only [Attribute.shown, Prod.mk.injEq]
      exact ⟨h.outputName index, h.outputType index, h.outputByteSize index,
        h.outputLocation index⟩
  · rintro ⟨⟨hnumInputs, hinputs⟩, hnumOutputs, houtputs⟩
    simp only [Attribute.shown, Prod.mk.injEq] at hinputs houtputs
    refine ⟨hnumInputs, fun index => (hinputs index).1, fun index => (hinputs index).2.1,
      fun index => (hinputs index).2.2.1, fun index => (hinputs index).2.2.2, hnumOutputs,
      fun index => (houtputs index).1, fun index => (houtputs index).2.1,
      fun index => (houtputs index).2.2.1, fun index => (houtputs index).2.2.2, ?_, ?_⟩
    · rw [NyxFileData.size, NyxFileData.size, hmap]
    · rw [NyxFileData.iterators, NyxFileData.iterators, hmap]

/-! ## Sequences of loads -/

/-- What a call of `load` is given: a complete file and any bytes after it, or bytes that start with
another number; an `unsigned` counts them. -/
inductive LoadCall where
  | complete (file : ShaderFile) (trailing : List UInt8)
      (fits : (file.encode ++ trailing).length < 2 ^ 32)
  | other (bytes : List UInt8) (fits : bytes.length < 2 ^ 32)
      (unmarked : Unmarked NyxFileData.magic bytes)

namespace LoadCall

/-- The bytes that are loaded by a call, of a complete file or others. -/
def bytes : LoadCall → List UInt8
  | complete file trailing _ => file.encode ++ trailing
  | other bytes _ _ => bytes

/-- The inputs of the file that a call loads, if it loads one. -/
def inputs : LoadCall → List Attribute
  | complete file _ _ => file.inputs
  | other _ _ _ => []

/-- The outputs of the file that a call loads, if it loads one. -/
def outputs : LoadCall → List Attribute
  | complete file _ _ => file.outputs
  | other _ _ _ => []

/-- The state of the object after the call: a complete file adds its inputs and outputs, other bytes
only clear the map. -/
def loadedInto (call : LoadCall) (data : NyxFileData) : NyxFileData :=
  match call with
  | complete file _ _ => file.loadedInto data
  | other _ _ _ => { data with map := ∅ }

/-- All bytes that the loader can be given without failing are those of some call. -/
theorem exists_bytes_eq {bytes : List UInt8} (hfits : bytes.length < 2 ^ 32)
    (h : (∃ file : ShaderFile, file.encode <+: bytes) ∨ Unmarked NyxFileData.magic bytes) :
    ∃ call : LoadCall, call.bytes = bytes := by
  rcases h with ⟨file, trailing, rfl⟩ | hunmarked
  · exact ⟨.complete file trailing hfits, rfl⟩
  · exact ⟨.other bytes hfits hunmarked, rfl⟩

variable (call : LoadCall) (data : NyxFileData)

@[simp] theorem inputs_loadedInto :
    (call.loadedInto data).inputs = data.inputs ++ call.inputs := by
  cases call <;> simp [loadedInto, inputs, ShaderFile.loadedInto]

@[simp] theorem outputs_loadedInto :
    (call.loadedInto data).outputs = data.outputs ++ call.outputs := by
  cases call <;> simp [loadedInto, outputs, ShaderFile.loadedInto]

/-- The map after a call does not depend on what was loaded before. -/
theorem map_loadedInto (other : NyxFileData) :
    (call.loadedInto data).map = (call.loadedInto other).map := by
  cases call <;> rfl

/-- **One call.** What is in the bytes goes into the object, whatever it holds. -/
theorem load_eq : data.load call.bytes call.bytes.length = .ok (call.loadedInto data) := by
  cases call with
  | complete file trailing fits =>
      rw [bytes]
      refine load_eq_loadedInto data file trailing _ ?_ fits
      simp
  | other bytes fits unmarked =>
      obtain ⟨word, rest, hne, rfl⟩ := unmarked.exists_word
      have hread : Reads (NyxFileData.readFile { data with map := ∅ }) (encodeU64 word ++ [])
          { data with map := ∅ } := by
        refine (Reads.u64 word).bind ?_
        rw [if_pos hne]
        exact Reads.pure _
      rw [List.append_nil] at hread
      rw [LoadCall.bytes, NyxFileData.load, List.take_length]
      exact hread.run' rest none

end LoadCall

/-- One call after the other on the same object. -/
def NyxFileData.loadAll (data : NyxFileData) (calls : List LoadCall) :
    Except StreamFailure NyxFileData :=
  calls.foldlM (fun data call => data.load call.bytes call.bytes.length) data

/-- The state of the object after all calls, each on what the one before left. -/
def NyxFileData.loadedAll (data : NyxFileData) (calls : List LoadCall) : NyxFileData :=
  calls.foldl (fun data call => call.loadedInto data) data

/-- No call of a sequence fails, and the object is in the expected state after all of them. -/
theorem loadAll_eq (data : NyxFileData) (calls : List LoadCall) :
    data.loadAll calls = .ok (data.loadedAll calls) := by
  induction calls generalizing data with
  | nil => rfl
  | cons call calls ih =>
      rw [NyxFileData.loadAll, List.foldlM_cons, call.load_eq]
      exact ih (call.loadedInto data)

/-- **Any sequence of calls** gathers the inputs and outputs of all its files. -/
theorem attributes_loadedAll (data : NyxFileData) (calls : List LoadCall) :
    (data.loadedAll calls).inputs = data.inputs ++ calls.flatMap LoadCall.inputs ∧
      (data.loadedAll calls).outputs = data.outputs ++ calls.flatMap LoadCall.outputs := by
  induction calls generalizing data with
  | nil => simp [NyxFileData.loadedAll]
  | cons call calls ih =>
      have h := ih (call.loadedInto data)
      simpa [NyxFileData.loadedAll] using h

/-! ## What the earlier loads leave -/

/-- Attributes that do not show in front of others: there are none, or so many that their count is
zero again, and they look like the others themselves. -/
def Attribute.Hidden (before last : List Attribute) : Prop :=
  before = [] ∨ 2 ^ 32 ∣ before.length ∧
    ∀ index, (attributeAt before index).shown = (attributeAt last index).shown

/-- An index finds an attribute among the first ones, if these are enough for all indices. -/
theorem attributeAt_append {before : List Attribute} (last : List Attribute)
    (h : 2 ^ 32 ≤ before.length) (index : UInt32) :
    attributeAt (before ++ last) index = attributeAt before index :=
  List.getD_append _ _ _ _ (Nat.lt_of_lt_of_le index.toNat_lt h)

/-- Attributes in front of others do not show exactly when they are hidden. -/
theorem shownAlike_append_iff (before last : List Attribute) :
    ShownAlike (before ++ last) last ↔ Attribute.Hidden before last := by
  have hcount : UInt32.ofNat (before ++ last).length = .ofNat last.length ↔
      2 ^ 32 ∣ before.length := by
    rw [← UInt32.toNat_inj, UInt32.toNat_ofNat', UInt32.toNat_ofNat', List.length_append]
    omega
  rw [ShownAlike, hcount]
  by_cases hbefore : before = []
  · simp [hbefore, Attribute.Hidden]
  · refine Iff.trans ?_ (or_iff_right hbefore).symm
    refine and_congr_right fun hdvd => forall_congr' fun index => ?_
    have hle := Nat.le_of_dvd (List.length_pos_iff.mpr hbefore) hdvd
    rw [attributeAt_append last hle]

/-- **When a load forgets the past.** For every sequence of calls on a new object, the accessors
show after the last call what they show of a new object on which only that call was made, exactly
when the files of the calls before have no inputs and no outputs, or hidden ones. -/
theorem reloaded_iff (before : List LoadCall) (last : LoadCall) :
    (∃ data fresh, ({} : NyxFileData).loadAll (before ++ [last]) = .ok data ∧
      ({} : NyxFileData).load last.bytes last.bytes.length = .ok fresh ∧
      data.SameContents fresh) ↔
    Attribute.Hidden (before.flatMap LoadCall.inputs) last.inputs ∧
      Attribute.Hidden (before.flatMap LoadCall.outputs) last.outputs := by
  have hall : ({} : NyxFileData).loadedAll (before ++ [last])
      = last.loadedInto (NyxFileData.loadedAll {} before) := List.foldl_append
  obtain ⟨hinputs, houtputs⟩ := attributes_loadedAll {} before
  have hsame : (last.loadedInto (NyxFileData.loadedAll {} before)).SameContents
      (last.loadedInto {}) ↔ _ := sameContents_iff (last.map_loadedInto _ _)
  simp only [LoadCall.inputs_loadedInto, LoadCall.outputs_loadedInto, hinputs, houtputs,
    List.nil_append, shownAlike_append_iff] at hsame
  rw [loadAll_eq, last.load_eq, hall, ← hsame]
  constructor
  · rintro ⟨data, fresh, hdata, hfresh, h⟩
    cases hdata
    cases hfresh
    exact h
  · intro h
    exact ⟨_, _, rfl, rfl, h⟩

/-- When a file with one input is loaded twice, the object shows two inputs, and a new one shows
one. -/
theorem not_reloaded : ¬ ∀ (before : List LoadCall) (last : LoadCall), ∃ data fresh,
    ({} : NyxFileData).loadAll (before ++ [last]) = .ok data ∧
      ({} : NyxFileData).load last.bytes last.bytes.length = .ok fresh ∧
      data.SameContents fresh := by
  intro h
  let call : LoadCall := .complete ⟨1, [⟨[112], [118, 101, 99, 52], 16, 0⟩], [], []⟩ [] (by decide)
  obtain ⟨data, fresh, hdata, hfresh, hsame⟩ := h [call] call
  rw [loadAll_eq] at hdata
  rw [call.load_eq] at hfresh
  cases hdata
  cases hfresh
  exact absurd hsame.numInputs (by decide)

end Nyx
