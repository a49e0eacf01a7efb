import Nyx.Foundations.GrowingVectors
import Nyx.Presentation.RenderPasses

/-! # The subpasses of a render pass

`RenderPass::addSubpass` appends the attachments of a subpass to those of the render pass, and
describes the subpass by pointers into the vectors of the references made so far. `createRenderPass`
reads through these pointers when all subpasses have been added.

* **`Subpass`**, **`RenderPassLists`** — what is added, and what it is added to.
* **`RenderPassLists.addSubpass`**, **`RenderPassLists.reset`** — the operations of the source.
* **`RenderPassLists.makeRenderPass`** — what `createRenderPass` reads.
* **`RenderPassCreateInfo.RefersToOwn`** — every subpass refers to its own attachments.
* **`RenderPassLists.refersToOwn_iff`** — it does exactly when the references never move after the
  first call, and no call but the last enables depth. -/

namespace Nyx

open Foundations

/-! ## Attachments and subpasses -/

/-- `nyx::Attachment`, with its `float`s as their bits. -/
structure NyxAttachment where
  red : UInt32 := 0
  green : UInt32 := 0
  blue : UInt32 := 0
  alpha : UInt32 := 0
  format : ImageFormat
  layout : ImageLayout
  deriving DecidableEq, Repr

/-- `Vulkan::convert( nyx::Attachment )`: the description of an attachment, by its format and its
layout. -/
def Vulkan.convertAttachment (attachment : NyxAttachment) : Attachment :=
  ⟨Vulkan.convertFormat attachment.format, Vulkan.convertLayout attachment.layout⟩

/-- `nyx::Subpass`: the attachments and the subpasses that one depends on, and its depth. -/
structure Subpass where
  attachmentDeps : List NyxAttachment := []
  subpassDeps : List Nat := []
  depthStencilEnable : Bool := false
  depthClear : UInt32 := 0x3f800000
  deriving DecidableEq, Repr

/-- `vk::ClearValue`, with colours and depths by their bits. -/
inductive ClearValue
  | color (red green blue alpha : UInt32)
  | depthStencil (depth stencil : UInt32)
  deriving DecidableEq, Repr

/-- `vk::AttachmentReference`: an attachment by its number, and the layout that it is used in. -/
structure AttachmentReference where
  attachment : Nat
  layout : VkImageLayout
  deriving DecidableEq, Repr

/-- `vk::SubpassDescription`, as far as the library sets it. -/
structure SubpassDescription where
  colorAttachmentCount : Nat
  pColorAttachments : Option BlockPointer
  pDepthStencilAttachment : Option BlockPointer
  deriving DecidableEq, Repr

/-- The stages of a dependency, colour attachment output and early fragment tests. -/
def attachmentStages : Nat := 0x400 ||| 0x100

/-- The accesses of a dependency, writes to colour and to depth attachments. -/
def attachmentWrites : Nat := 0x100 ||| 0x400

/-- `vk::SubpassDependency`, with stages and accesses by their bits. -/
structure SubpassDependency where
  srcSubpass : Nat := 0
  dstSubpass : Nat := 0
  srcStageMask : Nat := 0
  dstStageMask : Nat := 0
  dstAccessMask : Nat := 0
  deriving DecidableEq, Repr

/-- `RenderPassData`, as far as `addSubpass` fills it. -/
structure RenderPassLists where
  clearColors : List ClearValue := []
  attachments : List Attachment := []
  references : List AttachmentReference := []
  colorReferences : GrowingVector AttachmentReference := {}
  depthReferences : GrowingVector AttachmentReference := {}
  subpasses : List SubpassDescription := []
  dependencies : List SubpassDependency := []

namespace RenderPassLists

variable (growth : Growth)

/-- What `addSubpass` does when depth is enabled: an attachment, its clear value and a reference to
it are added. -/
def addDepth (lists : RenderPassLists) (depthClear : UInt32) : RenderPassLists :=
  let attachDesc : Attachment := ⟨.d24UnormS8Uint, .depthStencilAttachmentOptimal⟩
  let attachRef : AttachmentReference := ⟨lists.attachments.length, attachDesc.finalLayout⟩
  { lists with
    clearColors := lists.clearColors ++ [.depthStencil depthClear 0]
    attachments := lists.attachments ++ [attachDesc]
    references := lists.references ++ [attachRef]
    depthReferences := lists.depthReferences.push growth attachRef }

/-- The body of the loop over the attachments of `addSubpass`. -/
def addColor (lists : RenderPassLists) (attachment : NyxAttachment) : RenderPassLists :=
  let attachDesc := Vulkan.convertAttachment attachment
  let attachRef : AttachmentReference := ⟨lists.attachments.length, attachDesc.finalLayout⟩
  { lists with
    clearColors := lists.clearColors ++
      [.color attachment.red attachment.green attachment.blue attachment.alpha]
    attachments := lists.attachments ++ [attachDesc]
    references := lists.references ++ [attachRef]
    colorReferences := lists.colorReferences.push growth attachRef }

/-- The body of the loop over the dependencies of `addSubpass`, where an index is compared with the
number of dependencies. -/
def setDependency (srcSubpass bound : Nat) (dependency : SubpassDependency) (subpass : Nat) :
    SubpassDependency :=
  { dependency with
    srcSubpass := srcSubpass
    dstSubpass := if subpass < bound then subpass else dependency.dstSubpass
    srcStageMask := attachmentStages
    dstStageMask := attachmentStages
    dstAccessMask := attachmentWrites }

/-- `RenderPass::addSubpass`, which adds the attachments of a subpass, its references, its
description and its dependencies. -/
def addSubpass (lists : RenderPassLists) (subpass : Subpass) : RenderPassLists :=
  let srcSubpass := lists.subpasses.length
  let lists :=
    if subpass.depthStencilEnable then lists.addDepth growth subpass.depthClear else lists
  let lists := subpass.attachmentDeps.foldl (addColor growth) lists
  let count := subpass.attachmentDeps.length
  let subpassDesc : SubpassDescription :=
    { colorAttachmentCount := count
      pColorAttachments := lists.colorReferences.data.map fun pointer =>
        pointer.add (lists.colorReferences.size - count)
      -- the first reference to a depth attachment, whether or not this subpass has one
      pDepthStencilAttachment := lists.depthReferences.data }
  let subpassDep := subpass.subpassDeps.foldl
    (setDependency srcSubpass lists.dependencies.length) {}
  { lists with
    subpasses := if subpass.attachmentDeps = [] then lists.subpasses
      else lists.subpasses ++ [subpassDesc]
    -- one dependency for the whole list
    dependencies := if subpass.subpassDeps = [] then lists.dependencies
      else lists.dependencies ++ [subpassDep] }

/-- `RenderPass::reset`; the vectors keep the memory they have. -/
def reset (lists : RenderPassLists) : RenderPassLists where
  colorReferences := lists.colorReferences.clear
  depthReferences := lists.depthReferences.clear

/-- Subpasses are added one after another to the same render pass. -/
def addSubpasses (lists : RenderPassLists) (subpasses : List Subpass) : RenderPassLists :=
  subpasses.foldl (addSubpass growth) lists

end RenderPassLists

/-! ## What is read of them -/

/-- The references of a subpass, as `createRenderPass` reads them through its pointers; `none` is a
read of what is not there. -/
@[ext]
structure SubpassReferences where
  color : Option (List AttachmentReference)
  /-- `none` without a pointer. -/
  depthStencil : Option (Option (List AttachmentReference))
  deriving DecidableEq, Repr

/-- What `createRenderPass` is given, with the references read through the pointers. -/
structure RenderPassCreateInfo where
  attachments : List Attachment
  dependencies : List SubpassDependency
  subpasses : List SubpassReferences
  deriving DecidableEq, Repr

namespace RenderPassLists

/-- The references of a subpass as `createRenderPass` reads them, which is after all subpasses were
added. -/
def readSubpass (lists : RenderPassLists) (subpass : SubpassDescription) : SubpassReferences where
  color := lists.colorReferences.readFrom subpass.pColorAttachments subpass.colorAttachmentCount
  depthStencil := subpass.pDepthStencilAttachment.map fun pointer =>
    lists.depthReferences.readFrom (some pointer) 1

/-- `RenderPassData::makeRenderPass`: what the driver reads of the lists when the render pass is
made. -/
def makeRenderPass (lists : RenderPassLists) : RenderPassCreateInfo where
  attachments := lists.attachments
  dependencies := lists.dependencies
  subpasses := lists.subpasses.map lists.readSubpass

end RenderPassLists

namespace Subpass

/-- A subpass with one attachment, for colour, and nothing else. -/
def plain : Subpass := { attachmentDeps := [⟨0, 0, 0, 0, .rgba8, .colorAttachment⟩] }

/-- The depth attachment that a subpass adds, if it has depth enabled. -/
def depthAttachments (subpass : Subpass) : List Attachment :=
  if subpass.depthStencilEnable then [⟨.d24UnormS8Uint, .depthStencilAttachmentOptimal⟩] else []

/-- The attachments that a subpass adds, in order: that for depth, and those for colour. -/
def attachments (subpass : Subpass) : List Attachment :=
  subpass.depthAttachments ++ subpass.attachmentDeps.map Vulkan.convertAttachment

/-- References to attachments that are added from an index on. -/
def referencesFrom (first : Nat) : List Attachment → List AttachmentReference
  | [] => []
  | attachment :: attachments =>
      ⟨first, attachment.finalLayout⟩ :: referencesFrom (first + 1) attachments

/-- The references to the depth attachment of a subpass whose attachments start at an index. -/
def ownDepth (first : Nat) (subpass : Subpass) : List AttachmentReference :=
  referencesFrom first subpass.depthAttachments

/-- The references of a subpass to its colour attachments, which follow that for depth. -/
def ownColors (first : Nat) (subpass : Subpass) : List AttachmentReference :=
  referencesFrom (first + subpass.depthAttachments.length)
    (subpass.attachmentDeps.map Vulkan.convertAttachment)

end Subpass

/-- What subpasses whose attachments start at an index should refer to: their own colour
attachments, and their own depth attachment when they have one. -/
def ownReferences (first : Nat) : List Subpass → List SubpassReferences
  | [] => []
  | subpass :: subpasses =>
      { color := some (subpass.ownColors first)
        depthStencil := if subpass.depthStencilEnable then some (some (subpass.ownDepth first))
          else none } :: ownReferences (first + subpass.attachments.length) subpasses

/-- The attachments are those of the subpasses, and every subpass refers to its own. -/
structure RenderPassCreateInfo.RefersToOwn (info : RenderPassCreateInfo)
    (subpasses : List Subpass) : Prop where
  attachments : info.attachments = subpasses.flatMap Subpass.attachments
  subpasses : info.subpasses = ownReferences 0 subpasses

/-! ## What adding a subpass does -/

namespace Subpass

/-- All references to the colour attachments of subpasses whose attachments start at an index. -/
def allColors (first : Nat) : List Subpass → List AttachmentReference
  | [] => []
  | subpass :: subpasses =>
      subpass.ownColors first ++ allColors (first + subpass.attachments.length) subpasses

/-- All references of some subpasses to their depth attachments, in order. -/
def allDepths (first : Nat) : List Subpass → List AttachmentReference
  | [] => []
  | subpass :: subpasses =>
      subpass.ownDepth first ++ allDepths (first + subpass.attachments.length) subpasses

@[simp] theorem length_referencesFrom (first : Nat) (attachments : List Attachment) :
    (referencesFrom first attachments).length = attachments.length := by
  induction attachments generalizing first with
  | nil => rfl
  | cons attachment attachments ih => simp [referencesFrom, ih]

/-- The reference to the depth attachment of a subpass that has one. -/
theorem ownDepth_of_true {subpass : Subpass} (h : subpass.depthStencilEnable = true)
    (first : Nat) : subpass.ownDepth first = [⟨first, .depthStencilAttachmentOptimal⟩] := by
  simp [ownDepth, depthAttachments, h, referencesFrom]

/-- A subpass without depth enabled has no reference to a depth attachment. -/
theorem ownDepth_of_false {subpass : Subpass} (h : subpass.depthStencilEnable = false)
    (first : Nat) : subpass.ownDepth first = [] := by
  simp [ownDepth, depthAttachments, h, referencesFrom]

/-- The reference of a subpass to its depth attachment is to an attachment of the subpass. -/
theorem lt_of_mem_ownDepth {subpass : Subpass} {first : Nat} {reference : AttachmentReference}
    (hmem : reference ∈ subpass.ownDepth first) :
    reference.attachment < first + subpass.attachments.length := by
  cases hdepth : subpass.depthStencilEnable with
  | true =>
      rw [ownDepth_of_true hdepth, List.mem_singleton] at hmem
      have hpos : 0 < subpass.attachments.length := by
        simp [attachments, depthAttachments, hdepth]
      rw [hmem]
      exact Nat.lt_add_of_pos_right hpos
  | false =>
      rw [ownDepth_of_false hdepth] at hmem
      cases hmem

@[simp] theorem length_ownColors (first : Nat) (subpass : Subpass) :
    (subpass.ownColors first).length = subpass.attachmentDeps.length := by
  simp [ownColors]

theorem length_allColors (first : Nat) (subpasses : List Subpass) :
    (allColors first subpasses).length = (subpasses.flatMap attachmentDeps).length := by
  induction subpasses generalizing first with
  | nil => rfl
  | cons subpass subpasses ih => simp [allColors, ih]

end Subpass

namespace RenderPassLists

variable (growth : Growth)

/-- The loop over the colour attachments of a subpass adds their descriptions and references, and
changes no other vector. -/
theorem foldl_addColor (attachments : List NyxAttachment) (lists : RenderPassLists) :
    (attachments.foldl (addColor growth) lists).attachments =
        lists.attachments ++ attachments.map Vulkan.convertAttachment ∧
      (attachments.foldl (addColor growth) lists).colorReferences =
        lists.colorReferences.pushAll growth (Subpass.referencesFrom lists.attachments.length
          (attachments.map Vulkan.convertAttachment)) ∧
      (attachments.foldl (addColor growth) lists).depthReferences = lists.depthReferences ∧
      (attachments.foldl (addColor growth) lists).subpasses = lists.subpasses ∧
      (attachments.foldl (addColor growth) lists).dependencies = lists.dependencies := by
  induction attachments generalizing lists with
  | nil => simp [Subpass.referencesFrom]
  | cons attachment attachments ih =>
      obtain ⟨hattachments, hcolors, hdepths, hsubpasses, hdependencies⟩ :=
        ih (lists.addColor growth attachment)
      refine ⟨?_, ?_, hdepths, hsubpasses, hdependencies⟩
      · rw [List.foldl_cons, hattachments]
        simp [addColor]
      · rw [List.foldl_cons, hcolors]
        simp [addColor, Subpass.referencesFrom, Vulkan.convertAttachment,
          GrowingVector.pushAll_cons]

/-- The description of a subpass, once its references are in the vectors. -/
def describe (subpass : Subpass) (colors depths : GrowingVector AttachmentReference) :
    SubpassDescription where
  colorAttachmentCount := subpass.attachmentDeps.length
  pColorAttachments := colors.data.map fun pointer =>
    pointer.add (colors.size - subpass.attachmentDeps.length)
  pDepthStencilAttachment := depths.data

/-- What adding a subpass does to each vector of the render pass. -/
structure Added (lists : RenderPassLists) (subpass : Subpass) (after : RenderPassLists) :
    Prop where
  attachments : after.attachments = lists.attachments ++ subpass.attachments
  colors : after.colorReferences =
    lists.colorReferences.pushAll growth (subpass.ownColors lists.attachments.length)
  depths : after.depthReferences =
    lists.depthReferences.pushAll growth (subpass.ownDepth lists.attachments.length)
  subpasses : after.subpasses =
    lists.subpasses ++ [describe subpass after.colorReferences after.depthReferences]
  dependencies : after.dependencies = lists.dependencies ++
    if subpass.subpassDeps = [] then []
    else [subpass.subpassDeps.foldl
      (setDependency lists.subpasses.length lists.dependencies.length) {}]

/-- The depth attachment of a subpass changes only the vectors that it goes into, when there is
one. -/
theorem addDepth_eq (lists : RenderPassLists) (subpass : Subpass) :
    ∃ clearColors references,
      (if subpass.depthStencilEnable then lists.addDepth growth subpass.depthClear else lists) =
        { lists with
          clearColors := clearColors
          attachments := lists.attachments ++ subpass.depthAttachments
          references := references
          depthReferences := lists.depthReferences.pushAll growth
            (subpass.ownDepth lists.attachments.length) } := by
  unfold Subpass.ownDepth Subpass.depthAttachments
  split
  · exact ⟨_, _, rfl⟩
  · exact ⟨lists.clearColors, lists.references, by simp [Subpass.referencesFrom]⟩

/-- **Adding a subpass** with attachments adds its attachments, references and description to the
vectors. -/
theorem added_addSubpass (lists : RenderPassLists) {subpass : Subpass}
    (h : subpass.attachmentDeps ≠ []) :
    Added growth lists subpass (lists.addSubpass growth subpass) := by
  obtain ⟨clearColors, references, hdepth⟩ := addDepth_eq growth lists subpass
  unfold addSubpass
  simp only [hdepth, if_neg h]
  obtain ⟨hattachments, hcolors, hdepths, hsubpasses, hdependencies⟩ :=
    foldl_addColor growth subpass.attachmentDeps { lists with
      clearColors := clearColors
      attachments := lists.attachments ++ subpass.depthAttachments
      references := references
      depthReferences := lists.depthReferences.pushAll growth
        (subpass.ownDepth lists.attachments.length) }
  constructor
  · rw [hattachments, List.append_assoc]
    rfl
  · rw [hcolors, List.length_append]
    rfl
  · exact hdepths
  · rw [hsubpasses]
    rfl
  · rw [hdependencies]
    split <;> simp

/-! ## Any number of subpasses -/

/-- The descriptions of subpasses whose attachments start at an index, one after another. -/
def describeAll (first : Nat) (colors depths : GrowingVector AttachmentReference) :
    List Subpass → List SubpassDescription
  | [] => []
  | subpass :: subpasses =>
      let colors := colors.pushAll growth (subpass.ownColors first)
      let depths := depths.pushAll growth (subpass.ownDepth first)
      describe subpass colors depths ::
        describeAll (first + subpass.attachments.length) colors depths subpasses

/-- **Adding subpasses**, each with attachments, adds those of all of them, in order. -/
theorem addSubpasses_eq {subpasses : List Subpass}
    (h : ∀ subpass ∈ subpasses, subpass.attachmentDeps ≠ []) (lists : RenderPassLists) :
    (lists.addSubpasses growth subpasses).attachments =
        lists.attachments ++ subpasses.flatMap Subpass.attachments ∧
      (lists.addSubpasses growth subpasses).colorReferences = lists.colorReferences.pushAll growth
        (Subpass.allColors lists.attachments.length subpasses) ∧
      (lists.addSubpasses growth subpasses).depthReferences = lists.depthReferences.pushAll growth
        (Subpass.allDepths lists.attachments.length subpasses) ∧
      (lists.addSubpasses growth subpasses).subpasses = lists.subpasses ++
        describeAll growth lists.attachments.length lists.colorReferences lists.depthReferences
          subpasses := by
  induction subpasses generalizing lists with
  | nil => simp [addSubpasses, Subpass.allColors, Subpass.allDepths, describeAll]
  | cons subpass subpasses ih =>
      obtain ⟨hsubpass, hrest⟩ := List.forall_mem_cons.mp h
      have hadded := added_addSubpass growth lists hsubpass
      obtain ⟨hattachments, hcolors, hdepths, hsubpasses⟩ :=
        ih hrest (lists.addSubpass growth subpass)
      have hlength : (lists.addSubpass growth subpass).attachments.length =
          lists.attachments.length + subpass.attachments.length := by
        rw [hadded.attachments, List.length_append]
      rw [hlength] at hcolors hdepths hsubpasses
      have hfold : lists.addSubpasses growth (subpass :: subpasses) =
          (lists.addSubpass growth subpass).addSubpasses growth subpasses := rfl
      rw [hfold]
      refine ⟨?_, ?_, ?_, ?_⟩
      · rw [hattachments, hadded.attachments, List.append_assoc, List.flatMap_cons]
      · rw [hcolors, hadded.colors, ← GrowingVector.pushAll_append, Subpass.allColors]
      · rw [hdepths, hadded.depths, ← GrowingVector.pushAll_append, Subpass.allDepths]
      · rw [hsubpasses, hadded.subpasses, hadded.colors, hadded.depths, List.append_assoc,
          List.singleton_append, describeAll]

/-- **Colour references** are read back exactly when there was room for all of them after those of
the first subpass. -/
theorem readColors_eq_iff {subpasses : List Subpass}
    (h : ∀ subpass ∈ subpasses, subpass.attachmentDeps ≠ []) (first : Nat)
    (colors depths : GrowingVector AttachmentReference) :
    (describeAll growth first colors depths subpasses).map (fun subpass =>
        (colors.pushAll growth (Subpass.allColors first subpasses)).readFrom
          subpass.pColorAttachments subpass.colorAttachmentCount) =
      (ownReferences first subpasses).map SubpassReferences.color ↔
    ∀ subpass ∈ subpasses.head?, colors.size + (subpasses.flatMap Subpass.attachmentDeps).length ≤
      growth.room colors.capacity colors.size subpass.attachmentDeps.length := by
  induction subpasses generalizing first colors depths with
  | nil => simp [describeAll, ownReferences]
  | cons subpass subpasses ih =>
      obtain ⟨hsubpass, hrest⟩ := List.forall_mem_cons.mp h
      have hne : subpass.ownColors first ≠ [] := by
        apply List.ne_nil_of_length_pos
        rw [Subpass.length_ownColors]
        exact List.length_pos_iff.mpr hsubpass
      have hhead := GrowingVector.readFrom_pushAll_eq_iff growth colors hne
        (Subpass.allColors (first + subpass.attachments.length) subpasses)
      rw [Subpass.length_ownColors, Subpass.length_allColors, GrowingVector.capacity_pushAll,
        Subpass.length_ownColors] at hhead
      have htail := ih hrest (first + subpass.attachments.length)
        (colors.pushAll growth (subpass.ownColors first))
        (depths.pushAll growth (subpass.ownDepth first))
      simp only [describeAll, ownReferences, describe, Subpass.allColors, List.map_cons,
        List.cons.injEq, GrowingVector.pushAll_append, GrowingVector.size_pushAll,
        Subpass.length_ownColors, Nat.add_sub_cancel, List.head?_cons, Option.mem_some_iff,
        forall_eq', List.flatMap_cons, List.length_append] at htail ⊢
      rw [hhead, htail, Nat.add_assoc]
      refine and_iff_left_of_imp fun hroom next _ => ?_
      rw [GrowingVector.capacity_pushAll, Subpass.length_ownColors]
      exact Nat.le_trans hroom (growth.le_room _ _ _)

/-- What the subpasses that come before ask of those that have depth: the references to depth
attachments are the first ones in their vector, and without one there is no vector yet. -/
def DepthsFit (capacity : Nat) (subpasses : List Subpass) : Prop :=
  (∀ subpass ∈ subpasses.dropLast, subpass.depthStencilEnable = false) ∧
    (capacity = 0 ∨ ∀ subpass ∈ subpasses, subpass.depthStencilEnable = true)

/-- With a subpass without depth in front, the depths fit exactly when there was no room before, and
those of the others fit or there are no others. -/
theorem depthsFit_cons_of_false {capacity : Nat} {subpass : Subpass} {subpasses : List Subpass}
    (h : subpass.depthStencilEnable = false) : DepthsFit capacity (subpass :: subpasses) ↔
      capacity = 0 ∧ (DepthsFit capacity subpasses ∨ subpasses = []) := by
  cases subpasses with
  | nil => simp [DepthsFit, h]
  | cons next rest =>
      simp only [DepthsFit, List.dropLast_cons_cons, List.forall_mem_cons, h, true_and,
        Bool.false_eq_true, false_and, or_false, reduceCtorEq]
      tauto

/-- With a subpass with depth in front of others, the depths fit only when there are no others. -/
theorem depthsFit_cons_of_true {capacity : Nat} {subpass : Subpass} {subpasses : List Subpass}
    (h : subpass.depthStencilEnable = true) :
    DepthsFit capacity (subpass :: subpasses) ↔ subpasses = [] := by
  cases subpasses with
  | nil => simp [DepthsFit, h]
  | cons next rest => simp [DepthsFit, h]

/-- **References to depth attachments** are read back exactly when they are the first ones. -/
theorem readDepths_eq_iff (subpasses : List Subpass) (first : Nat)
    (colors depths : GrowingVector AttachmentReference)
    (hbefore : ∀ reference ∈ depths.elements, reference.attachment < first) :
    (describeAll growth first colors depths subpasses).map (fun subpass =>
        subpass.pDepthStencilAttachment.map fun pointer =>
          (depths.pushAll growth (Subpass.allDepths first subpasses)).readFrom (some pointer) 1) =
      (ownReferences first subpasses).map SubpassReferences.depthStencil ↔
    depths.size = 0 ∧ DepthsFit depths.capacity subpasses ∨ subpasses = [] := by
  induction subpasses generalizing first colors depths with
  | nil => simp [describeAll, ownReferences]
  | cons subpass subpasses ih =>
      -- the references that are there are to attachments of the subpasses before
      have hafter : ∀ other ∈ (depths.pushAll growth (subpass.ownDepth first)).elements,
          other.attachment < first + subpass.attachments.length := by
        intro other hmem
        rw [GrowingVector.elements_pushAll, List.mem_append] at hmem
        rcases hmem with hold | hown
        · exact Nat.lt_add_right _ (hbefore other hold)
        · exact Subpass.lt_of_mem_ownDepth hown
      have htail := ih (first + subpass.attachments.length)
        (colors.pushAll growth (subpass.ownColors first))
        (depths.pushAll growth (subpass.ownDepth first)) hafter
      cases hdepth : subpass.depthStencilEnable with
      | true =>
          have hown := Subpass.ownDepth_of_true hdepth first
          generalize hreference : (⟨first, .depthStencilAttachmentOptimal⟩ :
            AttachmentReference) = reference at hown
          have hdata := depths.data_pushAll growth (List.cons_ne_nil reference [])
          have hsize : (depths.pushAll growth [reference]).size ≠ 0 := by simp
          rw [hown] at htail
          simp only [describeAll, ownReferences, describe, Subpass.allDepths, hown, hdepth,
            GrowingVector.pushAll_append, List.map_cons, List.cons.injEq, hdata, Option.map_some,
            if_true, Option.some.injEq, reduceCtorEq, or_false]
          rw [htail, depthsFit_cons_of_true hdepth, or_iff_right fun h => hsize h.1]
          refine and_congr_left fun hlast => ?_
          subst hlast
          rw [Subpass.allDepths, GrowingVector.pushAll_nil]
          refine depths.readFrom_start_iff growth fun hmem => ?_
          have hlt := hbefore reference hmem
          rw [← hreference] at hlt
          exact absurd hlt (Nat.lt_irrefl first)
      | false =>
          have hown := Subpass.ownDepth_of_false hdepth first
          have hdata : depths.data = none ↔ depths.capacity = 0 := by
            simpa using depths.data_pushAll_eq_none_iff growth []
          have hfits : depths.size ≤ depths.capacity := depths.fits
          rw [hown, GrowingVector.pushAll_nil] at htail
          simp only [describeAll, ownReferences, describe, Subpass.allDepths, hown, hdepth,
            List.nil_append, GrowingVector.pushAll_nil, List.map_cons, List.cons.injEq,
            Option.map_eq_none_iff, Bool.false_eq_true, if_false, hdata, reduceCtorEq, or_false]
          rw [htail, depthsFit_cons_of_false hdepth]
          refine ⟨fun h => ⟨by omega, h.1, ?_⟩, fun h => ⟨h.2.1, ?_⟩⟩
          · exact h.2.imp_left And.right
          · exact h.2.2.imp_left fun hfit => ⟨h.1, hfit⟩

end RenderPassLists

/-- Two lists of references are the same exactly when those for colour and those for depth are. -/
theorem SubpassReferences.list_eq_iff (l₁ l₂ : List SubpassReferences) :
    l₁ = l₂ ↔ l₁.map color = l₂.map color ∧ l₁.map depthStencil = l₂.map depthStencil := by
  induction l₁ generalizing l₂ with
  | nil => cases l₂ <;> simp
  | cons s₁ l₁ ih =>
      cases l₂ with
      | nil => simp
      | cons s₂ l₂ =>
          simp only [List.cons.injEq, List.map_cons, ih, SubpassReferences.ext_iff]
          tauto

/-! ## The subpasses of a render pass -/

namespace RenderPassLists

/-- A new render pass, or one that was reset, whatever was added to it before. -/
def FreshOrReset (lists : RenderPassLists) : Prop := lists = {} ∨ ∃ before, lists = reset before

/-- To a render pass that is new or was reset nothing was added yet. -/
theorem FreshOrReset.empty {lists : RenderPassLists} (h : lists.FreshOrReset) :
    lists.attachments = [] ∧ lists.colorReferences.size = 0 ∧ lists.depthReferences.size = 0 ∧
      lists.depthReferences.elements = [] ∧ lists.subpasses = [] ∧ lists.dependencies = [] := by
  rcases h with rfl | ⟨before, rfl⟩ <;> exact ⟨rfl, rfl, rfl, rfl, rfl, rfl⟩

variable (growth : Growth)

/-- What is read of the subpasses, when nothing was added before them. -/
theorem subpasses_makeRenderPass {lists : RenderPassLists} (hempty : lists.FreshOrReset)
    {subpasses : List Subpass} (h : ∀ subpass ∈ subpasses, subpass.attachmentDeps ≠ []) :
    (lists.addSubpasses growth subpasses).makeRenderPass.subpasses =
      (describeAll growth 0 lists.colorReferences lists.depthReferences subpasses).map
        fun subpass =>
          { color := (lists.colorReferences.pushAll growth (Subpass.allColors 0 subpasses)).readFrom
              subpass.pColorAttachments subpass.colorAttachmentCount
            depthStencil := subpass.pDepthStencilAttachment.map fun pointer =>
              (lists.depthReferences.pushAll growth (Subpass.allDepths 0 subpasses)).readFrom
                (some pointer) 1 } := by
  obtain ⟨hattachments, -, -, -, hnone, -⟩ := hempty.empty
  obtain ⟨-, hcolors, hdepths, hsubpasses⟩ := addSubpasses_eq growth h lists
  rw [hattachments, List.length_nil] at hcolors hdepths hsubpasses
  rw [hnone, List.nil_append] at hsubpasses
  rw [makeRenderPass, hsubpasses]
  unfold readSubpass
  rw [hcolors, hdepths]

/-- **Subpasses refer to their own attachments.** For every way of growing vectors and every
sequence of `addSubpass` on a new or reset render pass, each with attachments for colour: what
`makeRenderPass` reads are each subpass' own colour attachments, in order, and its own depth
attachment when it has one, exactly when the vector of colour references, filled by the first
subpass, has room for the references of all of them, no subpass but the last enables depth, and the
vector of depth references has no memory yet or all subpasses enable depth. -/
theorem refersToOwn_iff {lists : RenderPassLists} (hempty : lists.FreshOrReset)
    {subpasses : List Subpass} (h : ∀ subpass ∈ subpasses, subpass.attachmentDeps ≠ []) :
    (lists.addSubpasses growth subpasses).makeRenderPass.RefersToOwn subpasses ↔
      (∀ first ∈ subpasses.head?, (subpasses.flatMap Subpass.attachmentDeps).length ≤
        growth.room lists.colorReferences.capacity 0 first.attachmentDeps.length) ∧
      DepthsFit lists.depthReferences.capacity subpasses := by
  obtain ⟨hattachments, hcolors, hdepths, hnone, -⟩ := hempty.empty
  have hall : (lists.addSubpasses growth subpasses).makeRenderPass.attachments =
      subpasses.flatMap Subpass.attachments := by
    rw [makeRenderPass, (addSubpasses_eq growth h lists).1, hattachments, List.nil_append]
  have hown : (lists.addSubpasses growth subpasses).makeRenderPass.RefersToOwn subpasses ↔
      (lists.addSubpasses growth subpasses).makeRenderPass.subpasses =
        ownReferences 0 subpasses := ⟨fun h => h.subpasses, fun h => ⟨hall, h⟩⟩
  have hcolor := readColors_eq_iff growth h 0 lists.colorReferences lists.depthReferences
  have hdepth := readDepths_eq_iff growth subpasses 0 lists.colorReferences lists.depthReferences
    (by simp [hnone])
  rw [hcolors] at hcolor
  simp only [Nat.zero_add] at hcolor
  rw [hown, subpasses_makeRenderPass growth hempty h, SubpassReferences.list_eq_iff,
    List.map_map, List.map_map]
  refine and_congr hcolor (hdepth.trans ?_)
  cases subpasses with
  | nil => simp [DepthsFit]
  | cons subpass subpasses => simp [hdepths]

/-- One subpass with one attachment, on a new render pass: it refers to its own attachments. -/
theorem refersToOwn_iff_plain :
    (({} : RenderPassLists).addSubpasses .doubling [Subpass.plain]).makeRenderPass.RefersToOwn
        [Subpass.plain] ↔
      (∀ first ∈ [Subpass.plain].head?, ([Subpass.plain].flatMap Subpass.attachmentDeps).length ≤
        Growth.doubling.room 0 0 first.attachmentDeps.length) ∧ DepthsFit 0 [Subpass.plain] :=
  refersToOwn_iff .doubling (Or.inl rfl) (by decide)

/-- Of two subpasses with depth, the second refers to the depth attachment of the first. -/
theorem not_refersToOwn : ¬ ∀ (growth : Growth) (lists : RenderPassLists)
    (subpasses : List Subpass), lists.FreshOrReset →
      (∀ subpass ∈ subpasses, subpass.attachmentDeps ≠ []) →
      (lists.addSubpasses growth subpasses).makeRenderPass.RefersToOwn subpasses := by
  intro h
  let deep : Subpass := { Subpass.plain with depthStencilEnable := true }
  have hown := (h .doubling {} [deep, deep] (Or.inl rfl) (by decide)).subpasses
  exact absurd hown (by decide)

end RenderPassLists

end Nyx
