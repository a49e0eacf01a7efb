import Mathlib.Data.List.Sort
import Nyx.Shaders.DescriptorTables

/-! # The bindings of a layout

`NyxShaderData::parse` fills a map with a layout binding for each name of a uniform, and flattens it
by index. This file says what the flattened table is.

* **`declarations_ordered`** — the declarations go by increasing stage.
* **`UniformNames`** — the names of some declarations, each once and in order.
* **`forall₂_descriptors_iff`** — what holds of every binding of the table, next to its name.
* **`one_binding_per_name`** — the table has one binding for each name, made from its first
  declaration. -/

namespace Nyx

open Foundations

/-! ## The order of the declarations -/

/-- The stages that a loop over a file meets are the keys of its map. -/
theorem NyxFileData.stages_iterators (file : NyxFileData) :
    file.iterators.map ShaderIterator.stage = file.map.keys := by
  have h := congrArg (List.map Prod.fst) (map_iterators file)
  rw [List.map_map, List.map_map] at h
  rw [← Std.TreeMap.map_fst_toList_eq_keys]
  exact h

/-- **The declarations go by increasing stage**, for the stages of a file are kept in order. -/
theorem declarations_ordered (file : NyxFileData) :
    file.declarations.Pairwise fun a b => a.stage ≤ b.stage := by
  have hstages : file.iterators.Pairwise fun a b => a.stage < b.stage := by
    rw [← List.pairwise_map, file.stages_iterators]
    exact Std.TreeMap.ordered_keys.imp Std.compare_eq_lt.mp
  rw [NyxFileData.declarations, List.pairwise_flatMap]
  refine ⟨fun iter _ => ?_, hstages.imp fun {a b} hlt x hx y hy => ?_⟩
  · rw [List.pairwise_map]
    exact List.pairwise_of_forall fun _ _ => UInt32.le_refl iter.stage
  · obtain ⟨_, -, rfl⟩ := List.mem_map.mp hx
    obtain ⟨_, -, rfl⟩ := List.mem_map.mp hy
    exact UInt32.le_of_lt hlt

/-- The first declaration of a name, if there is one. -/
def firstDeclaration (declarations : List Declaration) (name : List UInt8) : Option Declaration :=
  declarations.find? (·.name = name)

/-- The names of the first declarations are the names of all declarations. -/
theorem mem_names_firstDeclarations {declarations : List Declaration} {name : List UInt8} :
    name ∈ (firstDeclarations declarations).map Declaration.name ↔
      name ∈ declarations.map Declaration.name := by
  induction declarations using List.reverseRecOn with
  | nil => rfl
  | append_singleton declarations declaration ih =>
      rw [firstDeclarations_concat, List.map_append, List.mem_append, ← ih]
      split
      · next hknown =>
        refine (or_iff_left_of_imp fun hmem => ?_).symm
        rwa [List.mem_singleton.mp hmem]
      · rw [List.map_append, List.mem_append]

/-- A declaration listed as a first one is the first one of its name. -/
theorem firstDeclaration_of_mem {declarations : List Declaration} {first : Declaration}
    (h : first ∈ firstDeclarations declarations) :
    firstDeclaration declarations first.name = some first := by
  unfold firstDeclaration
  induction declarations using List.reverseRecOn with
  | nil => exact absurd h List.not_mem_nil
  | append_singleton declarations declaration ih =>
      rw [List.find?_append]
      rw [firstDeclarations_concat] at h
      split at h
      · rw [ih h, Option.some_or]
      · next hnew =>
        rcases List.mem_append.mp h with h | h
        · rw [ih h, Option.some_or]
        · obtain rfl := List.mem_singleton.mp h
          have hnone : declarations.find? (·.name = first.name) = none := by
            refine List.find?_eq_none.mpr fun other hother heq => hnew ?_
            rw [mem_names_firstDeclarations]
            exact List.mem_map.mpr ⟨other, hother, of_decide_eq_true heq⟩
          rw [hnone, Option.none_or, List.find?_singleton, if_pos (decide_eq_true rfl)]

/-! ## The table by names -/

/-- The names of some declarations, each once and in increasing order. -/
structure UniformNames (declarations : List Declaration) (names : List (List UInt8)) : Prop where
  sorted : names.Pairwise (· < ·)
  mem_iff : ∀ name, name ∈ names ↔ name ∈ declarations.map Declaration.name

/-- The keys of the map of the layout are the names of all declarations, each once and in increasing
order. -/
theorem uniformNames_keys (file : NyxFileData) :
    UniformNames file.declarations file.parseUniforms.bindingMap.keys := by
  refine ⟨Std.TreeMap.ordered_keys.imp compare_list_eq_lt.mp, fun name => ?_⟩
  have hparsed := parsed_declarations file.declarations
  rw [← parseUniforms_eq] at hparsed
  rw [Std.TreeMap.mem_keys, ← mem_names_firstDeclarations, Std.TreeMap.mem_iff_isSome_getElem?]
  constructor
  · intro hsome
    by_contra habsent
    rw [hparsed.absent name habsent] at hsome
    cases hsome
  · intro hmem
    obtain ⟨first, hfirst, rfl⟩ := List.mem_map.mp hmem
    obtain ⟨before, after, hsplit⟩ := List.append_of_mem hfirst
    obtain ⟨flags, hfound⟩ := hparsed.found before first after hsplit
    rw [hfound]
    rfl

/-- **The table is the map.** What holds of every binding that a new shader is given, next to its
name in order, holds of the entries of the map. -/
theorem forall₂_descriptors_iff {file : NyxFileData} {P : List UInt8 → LayoutBinding → Prop} :
    (∃ names, UniformNames file.declarations names ∧
      List.Forall₂ P names ({ nyxfile := file } : NyxShaderData).parse.descriptors) ↔
    ∀ name layout, file.parseUniforms.bindingMap[name]? = some layout → P name layout := by
  rw [← forall₂_values_iff]
  constructor
  · rintro ⟨names, hnames, hall⟩
    have hkeys := uniformNames_keys file
    have hsame : names = file.parseUniforms.bindingMap.keys :=
      hnames.sorted.eq_of_mem_iff hkeys.sorted fun name =>
        (hnames.mem_iff name).trans (hkeys.mem_iff name).symm
    rw [hsame] at hall
    exact hall
  · intro hall
    exact ⟨_, uniformNames_keys file, hall⟩

/-! ## One binding for each name -/

/-- The types that `operator<<` has a case for, so that it sets the descriptor type. -/
def UniformType.Known (type : UniformType) : Prop :=
  type = .none ∨ type = .ubo ∨ type = .sampler ∨ type = .ssbo

/-- A type that `operator<<` has a case for decides the descriptor type, whatever it was before. -/
theorem UniformType.Known.assign {type : UniformType} (h : UniformType.Known type)
    (before after : DescriptorType) :
    assignDescriptorType before type = assignDescriptorType after type := by
  rcases h with rfl | rfl | rfl | rfl <;> rfl

/-- **One binding for each name.** The uniforms of a file have types that `operator<<` knows.
Parsed by a new shader, the layout has one binding for each name, in the order of the names, with
the number, the count and the type of the first declaration of the name. -/
theorem one_binding_per_name (file : NyxFileData)
    (hknown : ∀ declaration ∈ file.declarations, UniformType.Known declaration.uniform.type) :
    ∃ names, UniformNames file.declarations names ∧
      List.Forall₂ (fun name layout => ∃ first,
          firstDeclaration file.declarations name = some first ∧
          layout.binding = first.uniform.binding ∧ layout.descriptorCount = first.uniform.size ∧
            layout.descriptorType = assignDescriptorType .sampler first.uniform.type)
        names ({ nyxfile := file } : NyxShaderData).parse.descriptors := by
  rw [forall₂_descriptors_iff]
  intro name layout hfound
  obtain ⟨before, first, after, hsplit, rfl, hbinding, hcount, htype⟩ :=
    exists_first_of_layout hfound
  have hmem : first ∈ firstDeclarations file.declarations := by
    rw [hsplit]
    exact List.mem_append_right _ List.mem_cons_self
  refine ⟨first, firstDeclaration_of_mem hmem, hbinding, hcount, ?_⟩
  rw [htype, layoutType, List.foldl_append]
  exact (hknown first (mem_of_mem_firstDeclarations hmem)).assign _ _

/-- A texture that two stages declare, and a buffer of one of them, make one binding each. -/
theorem one_binding_per_name_twoStages :
    let file : ShaderFile := ⟨1, [], [], [⟨[⟨1, 2, UniformType.sampler, [116]⟩], [], .fragment⟩,
      ⟨[⟨0, 1, UniformType.ubo, [116]⟩, ⟨3, 1, UniformType.ssbo, [98]⟩], [], .vertex⟩]⟩
    ∃ names, UniformNames file.loaded.declarations names ∧
      List.Forall₂ (fun name layout =>
          ∃ first, firstDeclaration file.loaded.declarations name = some first ∧
            layout.binding = first.uniform.binding ∧ layout.descriptorCount = first.uniform.size ∧
              layout.descriptorType = assignDescriptorType .sampler first.uniform.type)
        names ({ nyxfile := file.loaded } : NyxShaderData).parse.descriptors :=
  one_binding_per_name _ (by unfold UniformType.Known; decide)

end Nyx
