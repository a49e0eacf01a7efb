import Nyx.Foundations.GrowingVectors
import Nyx.Foundations.StepMachines
import Nyx.Loaders.Reloading
import Nyx.Shaders.NyxShaders

/-! # The blend attachments of a pipeline

`PipelineConfig` makes one attachment state for colour blending and configures it.
`Pipeline::initialize` resizes the attachment states, in one of its forms by a counter of the render
pass and in all of them by the number of outputs of the shader, and gives a pointer to them to the
info that the pipeline is created with.

* **`ColorBlendAttachment.configured`** — the state that `PipelineConfig` sets up.
* **`PipelineConfig.initializeWith`** — what the forms of `Pipeline::initialize` do to it.
* **`PipelineWorld`**, **`BlendCall`** — pipelines, and the render passes they are made for.
* **`PipelineConfig.Blends`** — the info points to as many configured states as there are outputs.
* **`PipelineWorld.blends_iff`** — it does, along any calls, exactly when no shader has a second
  output and the one configured state was not resized away. -/

namespace Nyx

open Foundations

/-! ## Attachment states -/

/-- The values of `vk::BlendFactor` the library names. -/
inductive BlendFactor
  | zero | one | srcAlpha
  deriving DecidableEq, Repr

/-- The value of `vk::BlendOp` that the library names. -/
inductive BlendOp
  | add
  deriving DecidableEq, Repr

/-- `vk::PipelineColorBlendAttachmentState`; a new one has an empty write mask. -/
structure ColorBlendAttachment where
  blendEnable : Bool := false
  srcColorBlendFactor : BlendFactor := .zero
  dstColorBlendFactor : BlendFactor := .zero
  colorBlendOp : BlendOp := .add
  srcAlphaBlendFactor : BlendFactor := .zero
  dstAlphaBlendFactor : BlendFactor := .zero
  alphaBlendOp : BlendOp := .add
  colorWriteMask : UInt32 := 0
  deriving DecidableEq, Repr

/-- The state that `PipelineConfig` sets up: colours are written, and not blended. -/
def ColorBlendAttachment.configured : ColorBlendAttachment where
  colorWriteMask := 0x1 ||| 0x2 ||| 0x4 ||| 0x8
  blendEnable := false
  srcColorBlendFactor := .srcAlpha
  dstColorBlendFactor := .one
  colorBlendOp := .add
  srcAlphaBlendFactor := .one
  dstAlphaBlendFactor := .zero
  alphaBlendOp := .add

/-- `vk::PipelineColorBlendStateCreateInfo`, as far as it has attachments. -/
structure ColorBlendInfo where
  attachmentCount : UInt32 := 0
  pAttachments : Option BlockPointer := none
  deriving DecidableEq, Repr

/-- `PipelineConfig`, as far as it is about how colours are blended. -/
structure PipelineConfig where
  colorBlendAttachments : GrowingVector ColorBlendAttachment := {}
  colorBlendInfo : ColorBlendInfo := {}

/-! ## Initialising a pipeline -/

/-- The forms of `Pipeline::initialize`: with a device or a render pass, for a file, for its bytes
or for a shader. -/
inductive PipelineForm
  | devicePath
  | passPath (pass : Nat)
  | deviceBytes
  | passBytes (pass : Nat)
  | shader
  | passShader (pass : Nat)
  deriving DecidableEq, Repr

namespace PipelineConfig

variable (growth : Growth)

/-- `PipelineConfig::PipelineConfig`, which makes one attachment state and configures it. -/
def new : PipelineConfig where
  colorBlendAttachments :=
    (({} : GrowingVector ColorBlendAttachment).resize growth 1 {}).set 0 .configured

/-- `color_blend_attachments.resize( n )`, which adds blank states or drops the last ones. -/
def resizeAttachments (config : PipelineConfig) (n : UInt32) : PipelineConfig :=
  { config with
    colorBlendAttachments := config.colorBlendAttachments.resize growth n.toNat {} }

/-- `color_blend_info.setAttachments( color_blend_attachments )`, which keeps a pointer to the
states and their number. -/
def setAttachments (config : PipelineConfig) : PipelineConfig :=
  { config with
    colorBlendInfo :=
      ⟨.ofNat config.colorBlendAttachments.size, config.colorBlendAttachments.data⟩ }

/-- `PipelineData::createLayout`, which makes an attachment state for each output of the shader. -/
def createLayout (config : PipelineConfig) (shader : NyxShaderData) : PipelineConfig :=
  (config.resizeAttachments growth shader.nyxfile.numOutputs).setAttachments

/-- The forms of `Pipeline::initialize` up to the creation of the pipeline, where `binded` is what
`numBindedSubpasses` would return. -/
def initializeWith (config : PipelineConfig) (form : PipelineForm) (binded : UInt32)
    (shader : NyxShaderData) : PipelineConfig :=
  match form with
  | .devicePath | .passPath _ | .deviceBytes => config.setAttachments.createLayout growth shader
  | .passBytes _ =>
      ((config.resizeAttachments growth binded).setAttachments).createLayout growth shader
  | .shader | .passShader _ => config.createLayout growth shader

/-- The info points to as many attachment states as the shader has outputs, all configured. -/
def Blends (config : PipelineConfig) (shader : NyxShaderData) : Prop :=
  config.colorBlendInfo.attachmentCount.toNat = shader.nyxfile.outputs.length ∧
    config.colorBlendAttachments.readFrom config.colorBlendInfo.pAttachments
        config.colorBlendInfo.attachmentCount.toNat =
      some (List.replicate shader.nyxfile.outputs.length .configured)

/-- No attachment state but the first one was configured. -/
def OnlyFirst (config : PipelineConfig) : Prop :=
  ∀ attachment ∈ config.colorBlendAttachments.elements.tail, attachment = {}

/-- The condition for blending: no output, or one, for which the first state is still there. -/
def BlendsFor (config : PipelineConfig) (form : PipelineForm) (binded : UInt32)
    (shader : NyxShaderData) : Prop :=
  shader.nyxfile.outputs = [] ∨
    shader.nyxfile.outputs.length = 1 ∧
      config.colorBlendAttachments.elements.head? = some .configured ∧
      ∀ pass, form = .passBytes pass → binded ≠ 0

variable {config : PipelineConfig}

/-! ## One call -/

@[simp] theorem elements_resizeAttachments (n : UInt32) :
    (config.resizeAttachments growth n).colorBlendAttachments.elements =
      (config.colorBlendAttachments.resize growth n.toNat {}).elements := rfl

@[simp] theorem colorBlendAttachments_setAttachments :
    config.setAttachments.colorBlendAttachments = config.colorBlendAttachments := rfl

/-- The attachment states in front of `createLayout`: only one form changes them before. -/
def prepared (config : PipelineConfig) (form : PipelineForm) (binded : UInt32) :
    PipelineConfig :=
  match form with
  | .passBytes _ => config.resizeAttachments growth binded
  | _ => config

/-- All forms of `initialize` end in `createLayout`, which decides about the attachment states after
what was prepared. -/
theorem colorBlendAttachments_initializeWith (config : PipelineConfig) (form : PipelineForm)
    (binded : UInt32) (shader : NyxShaderData) :
    (config.initializeWith growth form binded shader).colorBlendAttachments =
        ((config.prepared growth form binded).createLayout growth shader).colorBlendAttachments ∧
      (config.initializeWith growth form binded shader).colorBlendInfo =
        ((config.prepared growth form binded).createLayout growth shader).colorBlendInfo := by
  cases form <;> exact ⟨rfl, rfl⟩

/-- To resize the attachment states configures none of them. -/
theorem OnlyFirst.resizeAttachments (h : config.OnlyFirst) (n : UInt32) :
    (config.resizeAttachments growth n).OnlyFirst :=
  GrowingVector.tail_resize growth _ h n.toNat

/-- What comes before `createLayout` configures no attachment state, in any form. -/
theorem OnlyFirst.prepared (h : config.OnlyFirst) (form : PipelineForm) (binded : UInt32) :
    (config.prepared growth form binded).OnlyFirst := by
  cases form with
  | passBytes pass => exact h.resizeAttachments growth binded
  | _ => exact h

/-- No form of `initialize` configures an attachment state other than the first one. -/
theorem OnlyFirst.initializeWith (h : config.OnlyFirst) (form : PipelineForm) (binded : UInt32)
    (shader : NyxShaderData) : (config.initializeWith growth form binded shader).OnlyFirst := by
  have hlayout : ((config.prepared growth form binded).createLayout growth shader).OnlyFirst :=
    (h.prepared growth form binded).resizeAttachments growth shader.nyxfile.numOutputs
  rw [OnlyFirst, (config.colorBlendAttachments_initializeWith growth form binded shader).1]
  exact hlayout

/-- A new config has its one attachment state configured, and no other one. -/
theorem elements_new : (new growth).colorBlendAttachments.elements = [.configured] := by
  simp [new, GrowingVector.size]

theorem onlyFirst_new : (new growth).OnlyFirst := by
  simp [OnlyFirst, elements_new]

/-- The info after `createLayout` points to all attachment states. -/
theorem blends_createLayout_iff (h : config.OnlyFirst) (shader : NyxShaderData) :
    (config.createLayout growth shader).Blends shader ↔
      shader.nyxfile.outputs = [] ∨
        shader.nyxfile.outputs.length = 1 ∧
          config.colorBlendAttachments.elements.head? = some .configured := by
  have hcount : (UInt32.ofNat shader.nyxfile.numOutputs.toNat).toNat =
      shader.nyxfile.numOutputs.toNat := by rw [UInt32.ofNat_toNat]
  have hnarrow : shader.nyxfile.outputs.length ≤ 1 →
      shader.nyxfile.numOutputs.toNat = shader.nyxfile.outputs.length := by
    intro hfew
    rw [NyxFileData.numOutputs, UInt32.toNat_ofNat', Nat.mod_eq_of_lt (by omega)]
  have hread := (config.colorBlendAttachments.resize growth
    shader.nyxfile.numOutputs.toNat {}).readFrom_data
  have hreplicate := config.colorBlendAttachments.resize_eq_replicate_iff growth
    (a := .configured) (by decide) h shader.nyxfile.outputs.length
  rw [List.length_eq_zero_iff] at hreplicate
  rw [GrowingVector.size_resize] at hread
  rw [← hreplicate]
  unfold Blends createLayout setAttachments resizeAttachments
  simp only [GrowingVector.size_resize, hcount]
  rw [hread, Option.some.injEq]
  constructor
  · rintro ⟨hlength, hall⟩
    rwa [hlength] at hall
  · intro hall
    -- with two outputs or more a state is not configured, so their number is not narrowed
    have hfew : shader.nyxfile.outputs.length ≤ 1 := by
      rcases hreplicate.mp hall with hnone | ⟨hone, -⟩
      · simp [hnone]
      · exact Nat.le_of_eq hone
    rw [hnarrow hfew]
    exact ⟨rfl, hall⟩

/-- What the form that is given a render pass and bytes leaves of the first state. -/
theorem head?_prepared_iff (form : PipelineForm) (binded : UInt32) :
    (config.prepared growth form binded).colorBlendAttachments.elements.head? =
        some .configured ↔
      config.colorBlendAttachments.elements.head? = some .configured ∧
        ∀ pass, form = .passBytes pass → binded ≠ 0 := by
  cases form with
  | passBytes pass =>
      have hzero : binded = 0 ↔ binded.toNat = 0 := by
        rw [← UInt32.toNat_inj]
        rfl
      simp only [prepared, elements_resizeAttachments, GrowingVector.head?_resize, ← hzero]
      by_cases hnone : binded = 0
      · simp [hnone]
      · cases helements : config.colorBlendAttachments.elements with
        | nil =>
            simp [hnone]
            decide
        | cons a as => simp [hnone]
  | _ => simp [prepared]

/-- **One call**: the info it leaves is right exactly when the condition holds. -/
theorem blends_initializeWith_iff (h : config.OnlyFirst) (form : PipelineForm) (binded : UInt32)
    (shader : NyxShaderData) :
    (config.initializeWith growth form binded shader).Blends shader ↔
      config.BlendsFor form binded shader := by
  obtain ⟨hattachments, hinfo⟩ := config.colorBlendAttachments_initializeWith growth form binded
    shader
  have hblends := blends_createLayout_iff growth (h.prepared growth form binded) shader
  rw [head?_prepared_iff] at hblends
  rw [BlendsFor, ← hblends, Blends, Blends, hattachments, hinfo]

end PipelineConfig

/-! ## Any calls -/

/-- Pipelines and render passes, by the numbers of the objects. -/
structure PipelineWorld where
  /-- `num_binded_subpasses` of each render pass. -/
  numBinded : Nat → UInt32
  configs : Nat → PipelineConfig

/-- A call that has to do with attachment states, on a pipeline or a render pass. -/
inductive BlendCall
  /-- `Pipeline::Pipeline`. -/
  | pipeline (pipeline : Nat)
  /-- `RenderPass::RenderPass`. -/
  | renderPass (pass : Nat)
  /-- `RenderPass::numBindedSubpasses`. -/
  | numBindedSubpasses (pass : Nat)
  /-- `Pipeline::initialize`, with the shader that it is given or makes. -/
  | initializeWith (pipeline : Nat) (form : PipelineForm) (shader : NyxShaderData)

namespace PipelineWorld

variable (growth : Growth)

/-- Nothing but new pipelines and new render passes. -/
def start : PipelineWorld := ⟨fun _ => 0, fun _ => .new growth⟩

/-- `RenderPass::numBindedSubpasses`, which returns a number and counts it up. -/
def numBindedSubpasses (world : PipelineWorld) (pass : Nat) : UInt32 × PipelineWorld :=
  (world.numBinded pass, { world with
    numBinded := Function.update world.numBinded pass (world.numBinded pass + 1) })

/-- `Pipeline::initialize`, which asks the render pass for its number in one form only. -/
def initializeWith (world : PipelineWorld) (pipeline : Nat) (form : PipelineForm)
    (shader : NyxShaderData) : PipelineWorld :=
  let (binded, world) :=
    match form with
    | .passBytes pass => world.numBindedSubpasses pass
    | _ => (0, world)
  { world with
    configs := Function.update world.configs pipeline
      ((world.configs pipeline).initializeWith growth form binded shader) }

/-- The pipelines and render passes after one call. -/
def apply (world : PipelineWorld) : BlendCall → PipelineWorld
  | .pipeline pipeline =>
      { world with configs := Function.update world.configs pipeline (.new growth) }
  | .renderPass pass => { world with numBinded := Function.update world.numBinded pass 0 }
  | .numBindedSubpasses pass => (world.numBindedSubpasses pass).2
  | .initializeWith pipeline form shader => world.initializeWith growth pipeline form shader

/-- One call of a run; none of them can fail. -/
def step (world : PipelineWorld) (call : BlendCall) : Except Empty PipelineWorld :=
  .ok (world.apply growth call)

/-- A pipeline that the call initialises is created with an info that points to as many attachment
states as its shader has outputs, all configured. -/
def Blends (world : PipelineWorld) : BlendCall → Prop
  | .initializeWith pipeline form shader =>
      ((world.initializeWith growth pipeline form shader).configs pipeline).Blends shader
  | _ => True

/-- The shader of a pipeline that the call initialises has no output, or one output, the pipeline
has its first attachment state still, and it is not initialised with bytes for a render pass whose
`num_binded_subpasses` is `0`. -/
def BlendsFor (world : PipelineWorld) : BlendCall → Prop
  | .initializeWith pipeline form shader =>
      shader.nyxfile.outputs = [] ∨
        shader.nyxfile.outputs.length = 1 ∧
          (world.configs pipeline).colorBlendAttachments.elements.head? = some .configured ∧
          ∀ pass, form = .passBytes pass → world.numBinded pass ≠ 0
  | _ => True

/-- No attachment state but the first ones was configured. -/
def OnlyFirst (world : PipelineWorld) : Prop := ∀ pipeline, (world.configs pipeline).OnlyFirst

variable {world : PipelineWorld}

/-- An `initialize` changes the config of the pipeline that it is called on, by what
`numBindedSubpasses` returned, and no other one. -/
theorem configs_initializeWith (world : PipelineWorld) (pipeline : Nat) (form : PipelineForm)
    (shader : NyxShaderData) :
    ∃ binded, (∀ pass, form = .passBytes pass → binded = world.numBinded pass) ∧
      (world.initializeWith growth pipeline form shader).configs =
        Function.update world.configs pipeline
          ((world.configs pipeline).initializeWith growth form binded shader) := by
  cases form with
  | passBytes pass =>
      refine ⟨world.numBinded pass, ?_, rfl⟩
      rintro _ ⟨⟩
      rfl
  | _ =>
      refine ⟨0, ?_, rfl⟩
      rintro _ ⟨⟩

/-- No call configures an attachment state other than the first one of a pipeline. -/
theorem OnlyFirst.apply (h : world.OnlyFirst) (call : BlendCall) :
    (world.apply growth call).OnlyFirst := by
  intro other
  cases call with
  | pipeline pipeline =>
      by_cases hother : other = pipeline
      · subst hother
        simpa [PipelineWorld.apply] using PipelineConfig.onlyFirst_new growth
      · simpa [PipelineWorld.apply, hother] using h other
  | renderPass pass => exact h other
  | numBindedSubpasses pass => exact h other
  | initializeWith pipeline form shader =>
      obtain ⟨binded, -, hconfigs⟩ :=
        world.configs_initializeWith growth pipeline form shader
      rw [PipelineWorld.apply, hconfigs]
      by_cases hother : other = pipeline
      · subst hother
        simpa using (h other).initializeWith growth form binded shader
      · simpa [hother] using h other

/-- A call is right about attachment states exactly when the condition holds. -/
theorem blends_iff_blendsFor (h : world.OnlyFirst) (call : BlendCall) :
    world.Blends growth call ↔ world.BlendsFor call := by
  cases call with
  | initializeWith pipeline form shader =>
      obtain ⟨binded, hbinded, hconfigs⟩ :=
        world.configs_initializeWith growth pipeline form shader
      have hconfig := PipelineConfig.blends_initializeWith_iff growth (h pipeline)
        form binded shader
      rw [Blends, hconfigs, Function.update_self, hconfig, BlendsFor, PipelineConfig.BlendsFor]
      refine or_congr_right (and_congr_right fun _ => and_congr_right fun _ => ?_)
      refine forall_congr' fun pass => ⟨fun hne hform => ?_, fun hne hform => ?_⟩
      · exact hbinded pass hform ▸ hne hform
      · exact hbinded pass hform ▸ hne hform
  | _ => exact Iff.rfl

/-- **All blend attachments are configured**, for every pipeline that is initialised along any
calls, exactly when no shader has two outputs or more, and a pipeline whose shader has one is not
the first one made of bytes for a render pass, and was not made without outputs before. -/
theorem blends_iff (growth : Growth) (calls : List BlendCall) :
    StepsMeet (step growth) (Blends growth) (start growth) calls ↔
      StepsMeet (step growth) BlendsFor (start growth) calls := by
  refine stepsMeet_congr_of_next OnlyFirst (fun _ _ => rfl)
    (fun _ call h => blends_iff_blendsFor growth h call) ?_
    fun _ => PipelineConfig.onlyFirst_new growth
  intro world call h _
  exact h.apply growth call

/-- The first pipeline that is made of bytes for a render pass blends nothing into its one
output. -/
theorem not_blends : ¬ ∀ (growth : Growth) (calls : List BlendCall),
    StepsMeet (step growth) (Blends growth) (start growth) calls := by
  intro h
  let shader : NyxShaderData := { nyxfile := { outputs := [⟨[], [], 16, 0⟩] } }
  have hblends := (h .doubling [.initializeWith 0 (.passBytes 0) shader]).1
  rw [blends_iff_blendsFor .doubling fun _ => PipelineConfig.onlyFirst_new .doubling] at hblends
  rcases hblends with hnone | ⟨-, -, hbinded⟩
  · cases hnone
  · exact hbinded 0 rfl rfl

end PipelineWorld

end Nyx
