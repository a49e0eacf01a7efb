import Mathlib.Algebra.GroupWithZero.Nat
import Nyx.Shaders.LayoutBindings

/-! # Room in a pool

A descriptor set takes a descriptor from its pool for every element of every binding of its layout.
`DescriptorPool::initialize` sizes the pool by the names of the uniforms, and
`NyxShaderData::parse` makes the bindings; the two give types to the uniforms of their own.

* **`descriptorsIn`**, **`descriptorsOf`** — what a pool has and what a layout takes of a type.
* **`layoutTypes`**, **`poolType`** — the types that the two tables give the names.
* **`pool_has_room_iff`** — a pool has room for its sets exactly when for each type the sizes of the
  names with that type in the layout are no more than the names with that type in the pool. -/

namespace Nyx

open Foundations

/-- The descriptors of a type that a pool of these sizes has. -/
def descriptorsIn (sizes : List (DescriptorType × Nat)) (type : DescriptorType) : Nat :=
  ((sizes.filter (·.1 = type)).map Prod.snd).sum

/-- The descriptors of a type that a set of a layout takes. -/
def descriptorsOf (layout : List LayoutBinding) (type : DescriptorType) : Nat :=
  ((layout.filter (·.descriptorType = type)).map (·.descriptorCount.toNat)).sum

/-! ## The types of the names -/

/-- The first declarations with the types that they leave in the binding, from a type on. -/
def layoutTypes : DescriptorType → List Declaration → List (Declaration × DescriptorType)
  | _, [] => []
  | before, first :: firsts =>
      let type := assignDescriptorType before first.uniform.type
      (first, type) :: layoutTypes type firsts

/-- The type that the pool gives the name of a declaration: that of the last declaration of it. -/
def poolType (declarations : List Declaration) (first : Declaration) : DescriptorType :=
  convertUniform ((lastDeclaration declarations first.name).getD first).uniform.type

/-- **Enough is declared.** For every descriptor type, the sizes of the names that have it in the
layout are together no more than the names that have it in the pool. -/
def NyxFileData.RoomForSizes (file : NyxFileData) : Prop :=
  let firsts := firstDeclarations file.declarations
  ∀ type, (((layoutTypes .sampler firsts).filter (·.2 = type)).map
      (·.1.uniform.size.toNat)).sum ≤ firsts.countP (poolType file.declarations · = type)

/-- The type of a declaration among the first ones is what the types up to it leave in the
binding. -/
theorem mem_layoutTypes {before : DescriptorType} {firsts : List Declaration} {first : Declaration}
    {type : DescriptorType} :
    (first, type) ∈ layoutTypes before firsts ↔
      ∃ earlier later, firsts = earlier ++ first :: later ∧
      type = (earlier ++ [first]).foldl
        (fun type declaration => assignDescriptorType type declaration.uniform.type) before := by
  induction firsts generalizing before with
  | nil => simp [layoutTypes]
  | cons head firsts ih =>
      rw [layoutTypes, List.mem_cons, ih, Prod.mk.injEq]
      constructor
      · rintro (⟨rfl, rfl⟩ | ⟨earlier, later, rfl, rfl⟩)
        · exact ⟨[], firsts, rfl, rfl⟩
        · exact ⟨head :: earlier, later, rfl, rfl⟩
      · rintro ⟨earlier, later, hsplit, rfl⟩
        cases earlier with
        | nil =>
            obtain ⟨rfl, rfl⟩ := List.cons.inj hsplit
            exact Or.inl ⟨rfl, rfl⟩
        | cons other earlier =>
            obtain ⟨rfl, rfl⟩ := List.cons.inj hsplit
            exact Or.inr ⟨earlier, later, rfl, rfl⟩

/-- The declarations that have types in `layoutTypes` are the first ones, in their order. -/
theorem map_fst_layoutTypes (before : DescriptorType) (firsts : List Declaration) :
    (layoutTypes before firsts).map Prod.fst = firsts := by
  induction firsts generalizing before with
  | nil => rfl
  | cons first firsts ih => rw [layoutTypes, List.map_cons, ih]

/-- The first declarations have different names, one for each. -/
theorem nodup_names_firstDeclarations (declarations : List Declaration) :
    ((firstDeclarations declarations).map Declaration.name).Nodup := by
  induction declarations using List.reverseRecOn with
  | nil => exact List.nodup_nil
  | append_singleton declarations declaration ih =>
      rw [firstDeclarations_concat]
      split
      · exact ih
      · next hnew =>
        rw [List.map_append, List.map_singleton, List.nodup_append]
        refine ⟨ih, List.nodup_singleton _, fun name hname other hother heq => hnew ?_⟩
        rwa [← List.mem_singleton.mp hother, ← heq]

/-! ## The two tables -/

/-- The entries of the layout are the first declarations with their types and sizes. -/
theorem layout_perm (file : NyxFileData) :
    (file.parseUniforms.bindingMap.toList.map
        (Prod.map id fun layout => (layout.descriptorType, layout.descriptorCount))).Perm
      ((layoutTypes .sampler (firstDeclarations file.declarations)).map
        fun entry => (entry.1.name, entry.2, entry.1.uniform.size)) := by
  refine toList_map_perm ?_ fun name entry => ?_
  · have h := nodup_names_firstDeclarations file.declarations
    rw [← map_fst_layoutTypes .sampler (firstDeclarations file.declarations), List.map_map] at h
    rwa [List.map_map]
  · rw [List.mem_map]
    constructor
    · rintro ⟨⟨first, type⟩, hmem, heq⟩
      obtain ⟨rfl, rfl⟩ := Prod.mk.inj heq
      obtain ⟨earlier, later, hsplit, rfl⟩ := mem_layoutTypes.mp hmem
      obtain ⟨flags, hfound⟩ :=
        (parsed_declarations file.declarations).found earlier first later hsplit
      rw [← parseUniforms_eq] at hfound
      exact ⟨_, hfound, rfl⟩
    · rintro ⟨layout, hfound, rfl⟩
      obtain ⟨before, first, after, hsplit, rfl, -, hcount, htype⟩ := exists_first_of_layout hfound
      refine ⟨(first, layout.descriptorType),
        mem_layoutTypes.mpr ⟨before, after, hsplit, htype⟩, ?_⟩
      rw [hcount]

/-- A new pool that was given a file has for a name the last declaration of it, if there is one. -/
theorem getElem?_pool (file : NyxFileData) (name : List UInt8) :
    (file.iterators.foldl DescriptorPoolData.addStage ∅)[name]? =
      (lastDeclaration file.declarations name).map Declaration.poolUniform := by
  rw [addStages_eq, getElem?_foldl_insert, lastOf_poolUniform, Std.TreeMap.getElem?_emptyc,
    Option.or_none]

/-- A name that has a last declaration is the name of some declaration. -/
theorem mem_names_of_lastDeclaration {declarations : List Declaration} {name : List UInt8}
    {last : Declaration} (h : lastDeclaration declarations name = some last) :
    name ∈ declarations.map Declaration.name := by
  by_contra habsent
  have hnone : lastDeclaration declarations name = none := by
    rw [lastDeclaration, lastOf, firstOf_eq_none_iff]
    rintro pair hpair rfl
    obtain ⟨declaration, hmem, rfl⟩ := List.mem_map.mp (List.mem_reverse.mp hpair)
    exact habsent (List.mem_map_of_mem hmem)
  rw [hnone] at h
  cases h

/-- The entries of a new pool are the first declarations with their types there. -/
theorem pool_perm (file : NyxFileData) :
    ((file.iterators.foldl DescriptorPoolData.addStage ∅).toList.map
        (Prod.map id fun uniform => convertUniform uniform.type)).Perm
      ((firstDeclarations file.declarations).map
        fun first => (first.name, poolType file.declarations first)) := by
  refine toList_map_perm ?_ fun name type => ?_
  · rw [List.map_map]
    exact nodup_names_firstDeclarations file.declarations
  · rw [List.mem_map, getElem?_pool]
    constructor
    · rintro ⟨first, hmem, heq⟩
      obtain ⟨rfl, rfl⟩ := Prod.mk.inj heq
      obtain ⟨last, hlast⟩ := exists_lastDeclaration (mem_of_mem_firstDeclarations hmem)
      refine ⟨last.poolUniform, by rw [hlast]; rfl, ?_⟩
      rw [poolType, hlast]
      rfl
    · rintro ⟨uniform, huniform, rfl⟩
      obtain ⟨last, hlast, rfl⟩ := Option.map_eq_some_iff.mp huniform
      obtain ⟨first, hfirst, rfl⟩ :=
        List.mem_map.mp (mem_names_firstDeclarations.mpr (mem_names_of_lastDeclaration hlast))
      refine ⟨first, hfirst, ?_⟩
      rw [poolType, hlast]
      rfl

/-! ## When there is room -/

/-- What a set takes of a type is the sum of the sizes of the first declarations that are left with
this type. -/
theorem descriptorsOf_parse (file : NyxFileData) (type : DescriptorType) :
    descriptorsOf ({ nyxfile := file } : NyxShaderData).parse.descriptors type =
      (((layoutTypes .sampler (firstDeclarations file.declarations)).filter (·.2 = type)).map
        (·.1.uniform.size.toNat)).sum := by
  have hperm := ((layout_perm file).filter (·.2.1 = type)).map (·.2.2.toNat)
  have hsum := hperm.sum_nat
  simp only [List.filter_map, List.map_map, Function.comp_def, Prod.map] at hsum
  rw [descriptorsOf, NyxShaderData.parse]
  simpa [List.filter_map, Function.comp_def] using hsum

/-- What a new pool has of a type is the amount of sets, for each name whose last declaration has
this type. -/
theorem descriptorsIn_pool (file : NyxFileData) (amount : Nat) (type : DescriptorType) :
    descriptorsIn ((file.iterators.foldl DescriptorPoolData.addStage ∅).toList.map
        fun entry => (convertUniform entry.2.type, amount)) type =
      amount * (firstDeclarations file.declarations).countP
        (poolType file.declarations · = type) := by
  have hperm := ((pool_perm file).filter (·.2 = type)).length_eq
  simp only [List.filter_map, List.length_map, Function.comp_def, Prod.map] at hperm
  rw [descriptorsIn, List.filter_map, List.map_map, List.countP_eq_length_filter, ← hperm]
  simp [Function.comp_def, Nat.mul_comm]

/-- **When a pool has room.** A file has a uniform, and a new pool is initialised with the shader
for some sets. For every type the pool has as many descriptors as the sets take, exactly when the
sizes of the names with this type in the layout are together no more than the names with this type
in the pool. -/
theorem pool_has_room_iff (file : NyxFileData) (amount : Nat) (hsome : file.declarations ≠ [])
    (hamount : 1 ≤ amount) :
    (∃ sizes, (({} : DescriptorPoolData).initializeShader file amount).pool = some sizes ∧
      ∀ type, amount * descriptorsOf ({ nyxfile := file } : NyxShaderData).parse.descriptors type ≤
        descriptorsIn sizes type) ↔
    file.RoomForSizes := by
  let entries := (file.iterators.foldl DescriptorPoolData.addStage ∅).toList
  have hentries : (entries.map fun entry => (convertUniform entry.2.type, amount)).length ≠ 0 := by
    obtain ⟨declaration, hmem⟩ := List.exists_mem_of_ne_nil _ hsome
    have hlength := (pool_perm file).length_eq
    rw [List.length_map, List.length_map] at hlength
    rw [List.length_map, hlength, Ne, List.length_eq_zero_iff]
    intro hnil
    have hnames := mem_names_firstDeclarations.mpr
      (List.mem_map_of_mem (f := Declaration.name) hmem)
    rw [hnil] at hnames
    exact absurd hnames List.not_mem_nil
  have hpool : (({} : DescriptorPoolData).initializeShader file amount).pool =
      some (entries.map fun entry => (convertUniform entry.2.type, amount)) := by
    rw [DescriptorPoolData.initializeShader, if_pos (size_ne_zero hsome),
      DescriptorPoolData.initializePool, if_pos hentries]
  have hroom : (∀ type, amount *
        descriptorsOf ({ nyxfile := file } : NyxShaderData).parse.descriptors type ≤
          descriptorsIn (entries.map fun entry => (convertUniform entry.2.type, amount)) type) ↔
      file.RoomForSizes := by
    refine forall_congr' fun type => ?_
    rw [descriptorsOf_parse, descriptorsIn_pool]
    exact Nat.mul_le_mul_left_iff hamount
  rw [← hroom, hpool]
  constructor
  · rintro ⟨sizes, heq, hall⟩
    obtain rfl := Option.some.inj heq
    exact hall
  · intro hall
    exact ⟨_, rfl, hall⟩

/-- A texture and a buffer, each a single one, and a pool for three sets. -/
theorem pool_has_room_iff_twoUniforms :
    let file : ShaderFile := ⟨1, [], [], [⟨[⟨0, 1, UniformType.ubo, [97]⟩,
      ⟨1, 1, UniformType.sampler, [98]⟩], [], .vertex⟩]⟩
    (∃ sizes, (({} : DescriptorPoolData).initializeShader file.loaded 3).pool = some sizes ∧
      ∀ type, 3 *
        descriptorsOf ({ nyxfile := file.loaded } : NyxShaderData).parse.descriptors type ≤
          descriptorsIn sizes type) ↔
    file.loaded.RoomForSizes :=
  pool_has_room_iff _ 3 (by decide) (by decide)

/-- An array of two textures: one set takes two samplers, and the pool has one. -/
theorem not_pool_has_room :
    ¬ ∀ (file : NyxFileData) (amount : Nat), file.declarations ≠ [] → 1 ≤ amount →
      ∃ sizes, (({} : DescriptorPoolData).initializeShader file amount).pool = some sizes ∧
        ∀ type,
          amount * descriptorsOf ({ nyxfile := file } : NyxShaderData).parse.descriptors type ≤
            descriptorsIn sizes type := by
  intro h
  let file : ShaderFile := ⟨1, [], [], [⟨[⟨0, 2, UniformType.sampler, [97]⟩], [], .fragment⟩]⟩
  obtain ⟨sizes, hpool, hroom⟩ := h file.loaded 1 (by decide) (by decide)
  have hsizes : (({} : DescriptorPoolData).initializeShader file.loaded 1).pool =
      some [(.combinedImageSampler, 1)] := by decide
  obtain rfl := Option.some.inj (hpool.symm.trans hsizes)
  exact absurd (hroom .combinedImageSampler) (by decide)

end Nyx
