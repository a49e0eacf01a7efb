import Nyx.Presentation.ImageTables

/-! # Clear values

When a render pass is begun, every attachment is cleared with the clear value of the same index. The
clear values, the attachments and the references to them are three vectors, to which `addSubpass`
appends on one path for a depth attachment and on another for each colour attachment.

* **`AttachmentSource`** — what an attachment was added for.
* **`RenderPassOp`** — calls of `addSubpass` and `reset`.
* **`RenderPassLists.Aligned`** — the vectors have an entry for every source, in the same order.
* **`RenderPassLists.aligned_run`** — they do along any calls.
* **`RenderPassLists.tables_aligned`** — so clear value `i` belongs to attachment `i`. -/

namespace Nyx

open Foundations

/-- What an attachment was added for: the depth of a call, with its clear value, or an attachment
that the call was given. -/
inductive AttachmentSource
  | depth (depthClear : UInt32)
  | color (attachment : NyxAttachment)
  deriving DecidableEq, Repr

namespace AttachmentSource

/-- The clear value that belongs to an attachment, of depth or of colour. -/
def clearValue : AttachmentSource → ClearValue
  | .depth depthClear => .depthStencil depthClear 0
  | .color attachment =>
      .color attachment.red attachment.green attachment.blue attachment.alpha

/-- The attachment description that is made for it, of depth or of colour. -/
def description : AttachmentSource → Attachment
  | .depth _ => ⟨.d24UnormS8Uint, .depthStencilAttachmentOptimal⟩
  | .color attachment => Vulkan.convertAttachment attachment

end AttachmentSource

/-- What a call of `addSubpass` adds attachments for, in order. -/
def Subpass.sources (subpass : Subpass) : List AttachmentSource :=
  (if subpass.depthStencilEnable then [.depth subpass.depthClear] else []) ++
    subpass.attachmentDeps.map .color

/-- The calls on a render pass that change its tables. -/
inductive RenderPassOp
  | addSubpass (subpass : Subpass)
  | reset
  deriving DecidableEq, Repr

/-- What attachments were added for since the last `reset`. -/
def RenderPassOp.sources (sources : List AttachmentSource) : RenderPassOp → List AttachmentSource
  | .addSubpass subpass => sources ++ subpass.sources
  | .reset => []

namespace RenderPassLists

/-- `RenderPass::clearValues`, as the vector that the pointer is into. -/
def clearValues (lists : RenderPassLists) : List ClearValue := lists.clearColors

/-- The clear value for an attachment when `CommandBuffer::record( render_pass )` begins the render
pass; `none` is no clear value, or a read past the end. -/
def clearValue (lists : RenderPassLists) (i : Nat) : Option ClearValue :=
  if i < lists.renderPass.beginInfo.clearValueCount then lists.clearValues[i]? else none

/-- When a render pass begins, as many clear values are announced as there are attachments. -/
@[simp] theorem beginInfo_clearValueCount (lists : RenderPassLists) :
    lists.renderPass.beginInfo.clearValueCount = lists.attachments.length := rfl

variable (growth : Growth)

/-- One call on the tables of a render pass. -/
def apply (lists : RenderPassLists) : RenderPassOp → RenderPassLists
  | .addSubpass subpass => lists.addSubpass growth subpass
  | .reset => lists.reset

/-- The vectors have an entry for each of these, in the same order. -/
structure Aligned (lists : RenderPassLists) (sources : List AttachmentSource) : Prop where
  clearColors : lists.clearColors = sources.map AttachmentSource.clearValue
  attachments : lists.attachments = sources.map AttachmentSource.description
  references : lists.references.map AttachmentReference.attachment = List.range sources.length

namespace Aligned

variable {growth} {lists : RenderPassLists} {sources : List AttachmentSource}

/-- The next attachment has the next index, since there is one for each source so far. -/
theorem length_attachments (h : lists.Aligned sources) :
    lists.attachments.length = sources.length := by
  simp [h.attachments]

/-- A depth attachment goes behind the others, with its clear value, and the tables stay aligned. -/
theorem addDepth (h : lists.Aligned sources) (depthClear : UInt32) :
    (lists.addDepth growth depthClear).Aligned (sources ++ [.depth depthClear]) where
  clearColors := by
    simp [RenderPassLists.addDepth, h.clearColors, AttachmentSource.clearValue]
  attachments := by
    simp [RenderPassLists.addDepth, h.attachments, AttachmentSource.description]
  references := by
    simp [RenderPassLists.addDepth, h.references, h.length_attachments, List.range_succ]

/-- A colour attachment goes behind the others, with its clear value, and the tables stay
aligned. -/
theorem addColor (h : lists.Aligned sources) (attachment : NyxAttachment) :
    (lists.addColor growth attachment).Aligned (sources ++ [.color attachment]) where
  clearColors := by
    simp [RenderPassLists.addColor, h.clearColors, AttachmentSource.clearValue]
  attachments := by
    simp [RenderPassLists.addColor, h.attachments, AttachmentSource.description]
  references := by
    simp [RenderPassLists.addColor, h.references, h.length_attachments, List.range_succ]

/-- The loop over the colour attachments of a subpass keeps the tables aligned. -/
theorem foldl_addColor (h : lists.Aligned sources) (attachments : List NyxAttachment) :
    (attachments.foldl (RenderPassLists.addColor growth) lists).Aligned
      (sources ++ attachments.map .color) := by
  induction attachments generalizing lists sources with
  | nil => simpa using h
  | cons attachment attachments ih => simpa using ih (h.addColor attachment)

/-- **Adding a subpass**, with any attachments or none, keeps the tables aligned. -/
theorem addSubpass (h : lists.Aligned sources) (subpass : Subpass) :
    (lists.addSubpass growth subpass).Aligned (sources ++ subpass.sources) := by
  have hdepth : Aligned (if subpass.depthStencilEnable then lists.addDepth growth subpass.depthClear
      else lists) (sources ++
        if subpass.depthStencilEnable then [.depth subpass.depthClear] else []) := by
    split
    · exact h.addDepth subpass.depthClear
    · simpa using h
  have hcolors : Aligned (subpass.attachmentDeps.foldl (RenderPassLists.addColor growth) _) _ :=
    hdepth.foldl_addColor subpass.attachmentDeps
  rw [List.append_assoc] at hcolors
  -- the descriptions and the dependencies are other vectors
  exact ⟨hcolors.clearColors, hcolors.attachments, hcolors.references⟩

/-- **Step lemma.** Every call keeps the vectors aligned; `reset` empties them all. -/
theorem apply (h : lists.Aligned sources) (op : RenderPassOp) :
    (lists.apply growth op).Aligned (op.sources sources) := by
  cases op with
  | addSubpass subpass => exact h.addSubpass subpass
  | reset => exact ⟨rfl, rfl, rfl⟩

end Aligned

/-- **Run lemma.** Along any calls on a new render pass the vectors are aligned. -/
theorem aligned_run (ops : List RenderPassOp) :
    (ops.foldl (apply growth) {}).Aligned (ops.foldl RenderPassOp.sources []) :=
  List.foldl_rel (r := Aligned) ⟨rfl, rfl, rfl⟩ fun op _ _ _ h => h.apply op

/-- **The tables of a render pass stay aligned.** Along any calls there are as many clear values and
references as attachments, reference `i` is to attachment `i`, and attachment `i`, its clear value
and the one it is cleared with when the render pass is begun are those of one and the same depth or
colour attachment that a call since the last `reset` added. -/
theorem tables_aligned (ops : List RenderPassOp) :
    let lists := ops.foldl (apply growth) {}
    let sources := ops.foldl RenderPassOp.sources []
    lists.clearColors.length = lists.attachments.length ∧
      lists.references.length = lists.attachments.length ∧
      sources.length = lists.attachments.length ∧
      (∀ (i : Nat) (reference : AttachmentReference),
        lists.references[i]? = some reference → reference.attachment = i) ∧
      ∀ (i : Nat) (source : AttachmentSource), sources[i]? = some source →
        lists.attachments[i]? = some source.description ∧
        lists.clearColors[i]? = some source.clearValue ∧
        lists.clearValue i = some source.clearValue := by
  intro lists sources
  have h : lists.Aligned sources := aligned_run growth ops
  have hlength := h.length_attachments
  refine ⟨?_, ?_, hlength.symm, ?_, ?_⟩
  · simp [h.clearColors, hlength]
  · -- the indices that are referred to are as many as the sources
    have hcount := congrArg List.length h.references
    rw [List.length_map, List.length_range] at hcount
    exact hcount.trans hlength.symm
  · intro i reference hreference
    have hindex : (lists.references.map AttachmentReference.attachment)[i]? =
        some reference.attachment := by simp [hreference]
    rw [h.references, List.getElem?_eq_some_iff] at hindex
    obtain ⟨hi, hrange⟩ := hindex
    exact (List.getElem_range hi ▸ hrange).symm
  · intro i source hsource
    -- every attachment is among those that clear values are announced for
    have hi : i < lists.attachments.length := by
      rw [hlength]
      exact (List.getElem?_eq_some_iff.mp hsource).1
    have hclear : lists.clearColors[i]? = some source.clearValue := by
      simp [h.clearColors, hsource]
    refine ⟨by simp [h.attachments, hsource], hclear, ?_⟩
    rw [clearValue, if_pos (by simpa using hi)]
    exact hclear

end RenderPassLists

end Nyx
