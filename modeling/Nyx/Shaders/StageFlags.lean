import Mathlib.Data.Bool.AllAny
import Nyx.Shaders.LayoutBindings

/-! # The stages of a layout binding

A layout binding has the flags of the stages that declare its uniform. `NyxShaderData::parse` fills
the bindings through one variable for all names, whose flags it never clears: a binding starts with
the flags of every stage that brought up a name before it.

* **`VkShaderStage.Contains`** — a set of stages contains a stage.
* **`Flagged`** — the invariant: which stages the variable and the bindings contain.
* **`stageFlags_exact_iff`** — the flags are exact when the first stage with uniforms declares all
  names. -/

namespace Nyx

open Foundations

/-! ## Sets of stages -/

/-- The stages that a file can have, in the order of their numbers. -/
def validStages : List ShaderStage :=
  [.vertex, .fragment, .geometry, .tessC, .tessE, .compute]

/-- A set of stages contains a stage when it has the flag of it. -/
def VkShaderStage.Contains (flags : VkShaderStage) (stage : ShaderStage) : Prop :=
  flags &&& convertStage stage ≠ 0

instance (flags : VkShaderStage) (stage : ShaderStage) : Decidable (flags.Contains stage) :=
  inferInstanceAs (Decidable (_ ≠ _))

/-- The union of two sets contains a stage when one of them does. -/
theorem VkShaderStage.contains_or (flags others : VkShaderStage) (stage : ShaderStage) :
    (flags ||| others : VkShaderStage).Contains stage ↔
      flags.Contains stage ∨ others.Contains stage := by
  have hunion : (flags ||| others) &&& convertStage stage =
      flags &&& convertStage stage ||| others &&& convertStage stage :=
    UInt32.toBitVec_inj.mp BitVec.and_or_distrib_right
  rw [Contains, Contains, Contains, hunion, Ne, UInt32.or_eq_zero_iff]
  exact Decidable.not_and_iff_not_or_not

/-- The set of one valid stage contains this one, and no other valid one. -/
theorem VkShaderStage.contains_convertStage {stage other : ShaderStage} (h : stage ∈ validStages)
    (hother : other ∈ validStages) :
    VkShaderStage.Contains (convertStage stage) other ↔ stage = other := by
  have hall : validStages.all fun stage => validStages.all fun other =>
      VkShaderStage.Contains (convertStage stage) other ↔ stage = other := by decide
  exact List.all_iff_forall_prop.mp (List.all_eq_true.mp hall stage h) other hother

/-- The empty set contains no stage at all. -/
theorem VkShaderStage.not_contains_zero (stage : ShaderStage) :
    ¬ VkShaderStage.Contains 0 stage := by
  simp [Contains]

/-! ## The loop over the declarations -/

/-- The stages of some declarations are all valid ones. -/
def StagesValid (declarations : List Declaration) : Prop :=
  ∀ declaration ∈ declarations, declaration.stage ∈ validStages

/-- A stage is that of some declaration among these. -/
def StageAmong (declarations : List Declaration) (stage : ShaderStage) : Prop :=
  ∃ declaration ∈ declarations, declaration.stage = stage

/-- A stage declares a name, in one of some declarations. -/
def Declares (declarations : List Declaration) (stage : ShaderStage) (name : List UInt8) : Prop :=
  ∃ declaration ∈ declarations, declaration.stage = stage ∧ declaration.name = name

/-- With one declaration more, a stage is among them if it was before, or is the stage of this
one. -/
theorem stageAmong_concat {declarations : List Declaration} {declaration : Declaration}
    {stage : ShaderStage} :
    StageAmong (declarations ++ [declaration]) stage ↔
      StageAmong declarations stage ∨ declaration.stage = stage := by
  simp [StageAmong, or_and_right, exists_or]

/-- With one declaration more, a stage declares a name if it did before, or this one does. -/
theorem declares_concat {declarations : List Declaration} {declaration : Declaration}
    {stage : ShaderStage} {name : List UInt8} :
    Declares (declarations ++ [declaration]) stage name ↔
      Declares declarations stage name ∨ declaration.stage = stage ∧ declaration.name = name := by
  simp [Declares, or_and_right, exists_or]

/-- With one declaration more, of another name, a stage declares a name if it did before. -/
theorem declares_concat_of_ne {declarations : List Declaration} {declaration : Declaration}
    {name : List UInt8} (hne : declaration.name ≠ name) (stage : ShaderStage) :
    Declares (declarations ++ [declaration]) stage name ↔ Declares declarations stage name := by
  rw [declares_concat]
  exact or_iff_left fun hand => hne hand.2

/-- **Flagged.** After some declarations the variable has the stages of all first ones, and the
binding of a name those of the first declarations up to its own, and those that declare it. -/
structure Flagged (declarations : List Declaration) (parsed : ParsedUniforms) : Prop where
  carried : ∀ stage ∈ validStages, parsed.binding.stageFlags.Contains stage ↔
    StageAmong (firstDeclarations declarations) stage
  found : ∀ before first after, firstDeclarations declarations = before ++ first :: after →
    ∃ layout, parsed.bindingMap[first.name]? = some layout ∧
      ∀ stage ∈ validStages, layout.stageFlags.Contains stage ↔
        StageAmong (before ++ [first]) stage ∨ Declares declarations stage first.name

/-- A name that is none of the first declarations is declared by no stage. -/
theorem not_declares_of_new {declarations : List Declaration} {name : List UInt8}
    (hnew : name ∉ (firstDeclarations declarations).map Declaration.name) (stage : ShaderStage) :
    ¬ Declares declarations stage name := by
  rintro ⟨declaration, hmem, -, rfl⟩
  exact hnew (mem_names_firstDeclarations.mpr (List.mem_map_of_mem hmem))

/-- A declaration of a name that is there adds its stage to the binding of the name. -/
theorem Flagged.declare_known {declarations : List Declaration} {parsed : ParsedUniforms}
    (h : Flagged declarations parsed) {declaration : Declaration}
    (hvalid : declaration.stage ∈ validStages)
    (hmem : declaration.name ∈ (firstDeclarations declarations).map Declaration.name) :
    Flagged (declarations ++ [declaration]) (parsed.declare declaration) := by
  have hfirsts : firstDeclarations (declarations ++ [declaration])
      = firstDeclarations declarations := by rw [firstDeclarations_concat, if_pos hmem]
  obtain ⟨old, hold, hname⟩ := List.mem_map.mp hmem
  obtain ⟨before, after, hsplit⟩ := List.append_of_mem hold
  obtain ⟨known, hknown, hflags⟩ := h.found before old after hsplit
  rw [hname] at hknown hflags
  simp only [ParsedUniforms.declare, hknown]
  refine ⟨by rw [hfirsts]; exact h.carried, ?_⟩
  rw [hfirsts]
  intro before' first after' hsplit'
  obtain ⟨layout, hfound, hcontains⟩ := h.found before' first after' hsplit'
  rw [getElem?_insert_name]
  by_cases heq : declaration.name = first.name
  · rw [if_pos heq]
    rw [← heq, hknown, Option.some.injEq] at hfound
    subst hfound
    refine ⟨_, rfl, fun stage hstage => ?_⟩
    rw [VkShaderStage.contains_or, hcontains stage hstage, declares_concat, or_assoc,
      VkShaderStage.contains_convertStage hvalid hstage, and_iff_left heq]
  · rw [if_neg heq]
    refine ⟨layout, hfound, fun stage hstage => ?_⟩
    rw [hcontains stage hstage, declares_concat_of_ne heq]

/-- A declaration of a new name adds its stage to the variable, and a binding with all that the
variable has. -/
theorem Flagged.declare_new {declarations : List Declaration} {parsed : ParsedUniforms}
    (h : Flagged declarations parsed) (hparsed : Parsed declarations parsed)
    {declaration : Declaration} (hvalid : declaration.stage ∈ validStages)
    (hmem : declaration.name ∉ (firstDeclarations declarations).map Declaration.name) :
    Flagged (declarations ++ [declaration]) (parsed.declare declaration) := by
  have hfirsts : firstDeclarations (declarations ++ [declaration])
      = firstDeclarations declarations ++ [declaration] := by
    rw [firstDeclarations_concat, if_neg hmem]
  have hcarried : ∀ stage ∈ validStages,
      (parsed.binding.stageFlags |||
          convertStage declaration.stage : VkShaderStage).Contains stage ↔
        StageAmong (firstDeclarations declarations ++ [declaration]) stage := by
    intro stage hstage
    rw [VkShaderStage.contains_or, h.carried stage hstage, stageAmong_concat,
      VkShaderStage.contains_convertStage hvalid hstage]
  simp only [ParsedUniforms.declare, hparsed.absent _ hmem]
  refine ⟨by rw [hfirsts]; exact hcarried, ?_⟩
  rw [hfirsts]
  intro before first after hsplit
  rw [getElem?_insert_name]
  rcases List.eq_nil_or_concat after with rfl | ⟨after, last, rfl⟩
  · -- the name just added
    obtain ⟨rfl, hlast⟩ := List.append_inj' hsplit rfl
    obtain rfl := List.singleton_inj.mp hlast
    refine ⟨_, if_pos rfl, fun stage hstage => ?_⟩
    rw [hcarried stage hstage, declares_concat, or_iff_right (not_declares_of_new hmem stage)]
    refine (or_iff_left_of_imp fun hdeclares => ?_).symm
    exact stageAmong_concat.mpr (Or.inr hdeclares.1)
  · have hsplit' : firstDeclarations declarations ++ [declaration]
        = (before ++ first :: after) ++ [last] := by simpa using hsplit
    obtain ⟨hsplit', -⟩ := List.append_inj' hsplit' rfl
    have hne : declaration.name ≠ first.name := by
      intro heq
      refine hmem (List.mem_map.mpr ⟨first, ?_, heq.symm⟩)
      rw [hsplit']
      exact List.mem_append_right _ List.mem_cons_self
    obtain ⟨layout, hfound, hcontains⟩ := h.found before first after hsplit'
    refine ⟨layout, by rw [if_neg hne]; exact hfound, fun stage hstage => ?_⟩
    rw [hcontains stage hstage, declares_concat_of_ne hne]

/-- The loop of the layout over all declarations leaves the flags that are to be there. -/
theorem flagged_declarations {declarations : List Declaration} (hvalid : StagesValid declarations) :
    Flagged declarations (declarations.foldl ParsedUniforms.declare {}) := by
  induction declarations using List.reverseRecOn with
  | nil =>
      refine ⟨fun stage _ => ?_, fun before first after hsplit => ?_⟩
      · exact iff_of_false (VkShaderStage.not_contains_zero stage) (by simp [StageAmong,
          firstDeclarations])
      · exact absurd hsplit.symm (by simp [firstDeclarations])
  | append_singleton declarations declaration ih =>
      obtain ⟨hvalids, hdeclaration⟩ := List.forall_mem_append.mp hvalid
      have hstage := List.forall_mem_singleton.mp hdeclaration
      rw [List.foldl_append]
      by_cases hmem : declaration.name ∈ (firstDeclarations declarations).map Declaration.name
      · exact (ih hvalids).declare_known hstage hmem
      · exact (ih hvalids).declare_new (parsed_declarations declarations) hstage hmem

/-! ## When the flags are exact -/

/-- The first stage that declares a uniform declares all names. -/
def NyxFileData.FirstStageDeclaresAll (file : NyxFileData) : Prop :=
  ∀ first ∈ file.declarations.head?, ∀ declaration ∈ file.declarations,
    Declares file.declarations first.stage declaration.name

/-- The first of all declarations is the first one of its name. -/
theorem head?_firstDeclarations (declarations : List Declaration) :
    (firstDeclarations declarations).head? = declarations.head? := by
  induction declarations using List.reverseRecOn with
  | nil => rfl
  | append_singleton declarations declaration ih =>
      rw [firstDeclarations_concat, List.head?_append, ← ih]
      split
      · next hknown =>
        obtain ⟨first, hfirst, -⟩ := List.mem_map.mp hknown
        rw [List.head?_eq_some_head (List.ne_nil_of_mem hfirst), Option.some_or]
      · rw [List.head?_append]

/-- In the order of the stages, the first declaration of a name is of the first stage that declares
it. -/
theorem stage_le_of_firstDeclaration {declarations : List Declaration} {first : Declaration}
    (hordered : declarations.Pairwise fun a b => a.stage ≤ b.stage)
    (hfirst : first ∈ firstDeclarations declarations) {stage : ShaderStage}
    (hdeclares : Declares declarations stage first.name) : first.stage ≤ stage := by
  obtain ⟨-, before, after, rfl, hnone⟩ :=
    List.find?_eq_some_iff_append.mp (firstDeclaration_of_mem hfirst)
  obtain ⟨declaration, hmem, rfl, hname⟩ := hdeclares
  rcases List.mem_append.mp hmem with hmem | hmem
  · exact absurd (hnone declaration hmem) (by simp [hname])
  · rcases List.mem_cons.mp hmem with rfl | hmem
    · exact UInt32.le_refl _
    · exact List.rel_of_pairwise_cons (List.pairwise_append.mp hordered).2.1 hmem

/-- Where declarations go by increasing stage, the stage of the first one comes before all
others. -/
theorem head_stage_le {declarations : List Declaration} {first : Declaration}
    (hordered : declarations.Pairwise fun a b => a.stage ≤ b.stage)
    (hfirst : first ∈ declarations.head?) {declaration : Declaration}
    (hmem : declaration ∈ declarations) : first.stage ≤ declaration.stage := by
  cases declarations with
  | nil => exact absurd hmem List.not_mem_nil
  | cons head rest =>
      obtain rfl := Option.some.inj hfirst
      rcases List.mem_cons.mp hmem with rfl | hmem
      · exact UInt32.le_refl _
      · exact List.rel_of_pairwise_cons hordered hmem

/-- All stages that brought up a name before another one declare that one too, exactly when there is
only one such stage. -/
theorem carried_declared_iff (file : NyxFileData) :
    (∀ before first after, firstDeclarations file.declarations = before ++ first :: after →
      ∀ earlier ∈ before, Declares file.declarations earlier.stage first.name) ↔
    file.FirstStageDeclaresAll := by
  have hordered := declarations_ordered file
  constructor
  · intro hall head hhead declaration hmem
    have hname := mem_names_firstDeclarations.mpr
      (List.mem_map_of_mem (f := Declaration.name) hmem)
    obtain ⟨first, hfirst, hname⟩ := List.mem_map.mp hname
    obtain ⟨before, after, hsplit⟩ := List.append_of_mem hfirst
    rw [← hname]
    rw [← head?_firstDeclarations, hsplit] at hhead
    cases before with
    | nil =>
        obtain rfl := Option.some.inj hhead
        exact ⟨first, mem_of_mem_firstDeclarations hfirst, rfl, rfl⟩
    | cons earlier before =>
        obtain rfl := Option.some.inj hhead
        exact hall _ first after hsplit earlier List.mem_cons_self
  · intro hall before first after hsplit earlier hearlier
    have hmem : ∀ other ∈ before ++ first :: after, other ∈ file.declarations := fun other hother =>
      mem_of_mem_firstDeclarations (hsplit ▸ hother)
    have hfirst : earlier ∈ firstDeclarations file.declarations := by
      rw [hsplit]
      exact List.mem_append_left _ hearlier
    obtain ⟨head, hhead⟩ : ∃ head, head ∈ file.declarations.head? :=
      ⟨_, List.head?_eq_some_head (List.ne_nil_of_mem (mem_of_mem_firstDeclarations hfirst))⟩
    -- the earlier name is of the first stage, too
    have hle := stage_le_of_firstDeclaration hordered hfirst
      (hall head hhead earlier (mem_of_mem_firstDeclarations hfirst))
    have hge := head_stage_le hordered hhead (mem_of_mem_firstDeclarations hfirst)
    rw [UInt32.le_antisymm hle hge]
    exact hall head hhead first (hmem first (List.mem_append_right _ List.mem_cons_self))

/-- **When the flags are exact.** The stages of a file are valid. Parsed by a new shader, the
binding of each name contains the stages that declare the name and no others, exactly when the first
stage with uniforms declares all names. -/
theorem stageFlags_exact_iff (file : NyxFileData)
    (hvalid : ∀ stage ∈ file.map.keys, stage ∈ validStages) :
    (∃ names, UniformNames file.declarations names ∧
      List.Forall₂ (fun name layout => ∀ stage ∈ validStages,
          layout.stageFlags.Contains stage ↔ Declares file.declarations stage name)
        names ({ nyxfile := file } : NyxShaderData).parse.descriptors) ↔
    file.FirstStageDeclaresAll := by
  have hstages : StagesValid file.declarations := by
    intro declaration hmem
    obtain ⟨iter, hiter, hmem⟩ := List.mem_flatMap.mp hmem
    obtain ⟨uniform, -, rfl⟩ := List.mem_map.mp hmem
    exact hvalid _ (file.stages_iterators ▸ List.mem_map_of_mem hiter)
  have hflagged := flagged_declarations hstages
  rw [← parseUniforms_eq] at hflagged
  rw [forall₂_descriptors_iff, ← carried_declared_iff]
  constructor
  · intro hexact before first after hsplit earlier hearlier
    obtain ⟨layout, hfound, hcontains⟩ := hflagged.found before first after hsplit
    have hmem : earlier ∈ firstDeclarations file.declarations := by
      rw [hsplit]
      exact List.mem_append_left _ hearlier
    have hstage := hstages earlier (mem_of_mem_firstDeclarations hmem)
    rw [← hexact first.name layout hfound _ hstage, hcontains _ hstage]
    exact Or.inl ⟨earlier, List.mem_append_left _ hearlier, rfl⟩
  · intro hcarried name layout hfound stage hstage
    obtain ⟨before, first, after, hsplit, rfl, -⟩ := exists_first_of_layout hfound
    obtain ⟨layout', hfound', hcontains⟩ := hflagged.found before first after hsplit
    obtain rfl := Option.some.inj (hfound.symm.trans hfound')
    rw [hcontains stage hstage]
    refine or_iff_right_of_imp ?_
    rintro ⟨declaration, hmem, rfl⟩
    rcases List.mem_append.mp hmem with hmem | hmem
    · exact hcarried before first after hsplit declaration hmem
    · obtain rfl := List.mem_singleton.mp hmem
      refine ⟨declaration, mem_of_mem_firstDeclarations ?_, rfl, rfl⟩
      rw [hsplit]
      exact List.mem_append_right _ List.mem_cons_self

/-- A vertex stage with two buffers, one of which the fragment stage has as well. -/
theorem stageFlags_exact_iff_twoStages :
    let file : ShaderFile := ⟨1, [], [], [⟨[⟨0, 1, UniformType.ubo, [97]⟩,
      ⟨1, 1, UniformType.ubo, [98]⟩], [], .vertex⟩, ⟨[⟨0, 1, UniformType.ubo, [97]⟩], [],
      .fragment⟩]⟩
    (∃ names, UniformNames file.loaded.declarations names ∧
      List.Forall₂ (fun name layout => ∀ stage ∈ validStages,
          layout.stageFlags.Contains stage ↔ Declares file.loaded.declarations stage name)
        names ({ nyxfile := file.loaded } : NyxShaderData).parse.descriptors) ↔
    file.loaded.FirstStageDeclaresAll :=
  stageFlags_exact_iff _ (List.all_iff_forall_prop.mp (by decide))

/-- A buffer of the vertex stage and a texture of the fragment stage: the texture has the vertex
stage as well. -/
theorem not_stageFlags_exact :
    ¬ ∀ file : NyxFileData, (∀ stage ∈ file.map.keys, stage ∈ validStages) →
      ∃ names, UniformNames file.declarations names ∧
        List.Forall₂ (fun name layout => ∀ stage ∈ validStages,
            layout.stageFlags.Contains stage ↔ Declares file.declarations stage name)
          names ({ nyxfile := file } : NyxShaderData).parse.descriptors := by
  intro h
  let file : ShaderFile := ⟨1, [], [], [⟨[⟨0, 1, UniformType.ubo, [97]⟩], [], .vertex⟩,
    ⟨[⟨1, 1, UniformType.sampler, [98]⟩], [], .fragment⟩]⟩
  have hexact := forall₂_descriptors_iff.mp
    (h file.loaded (List.all_iff_forall_prop.mp (by decide)))
  have hlayout : file.loaded.parseUniforms.bindingMap[([98] : List UInt8)]? =
      some ⟨1, .combinedImageSampler, 1, 0x11⟩ := by decide
  have hdeclarations : file.loaded.declarations =
      [⟨.vertex, ⟨0, 1, UniformType.ubo, [97]⟩⟩,
        ⟨.fragment, ⟨1, 1, UniformType.sampler, [98]⟩⟩] := by decide
  obtain ⟨declaration, hmem, hstage, hname⟩ :=
    (hexact _ _ hlayout .vertex (by decide)).mp (by decide)
  rw [hdeclarations] at hmem
  rcases List.mem_cons.mp hmem with rfl | hmem
  · exact absurd hname (by decide)
  · obtain rfl := List.mem_singleton.mp hmem
    exact absurd hstage (by decide)

end Nyx
