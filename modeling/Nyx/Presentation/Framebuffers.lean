import Mathlib.Data.List.TakeDrop
import Mathlib.Tactic.Common
import Nyx.Presentation.RenderPasses

/-! # The framebuffers of a window

`makeFramebuffers` makes three framebuffers, whatever the number of swapchain images. All
attachments but those for depth and stencil of framebuffer `j` show image `j` of the swapchain, or
image `0` when there is no image `j`.

* **`RenderPass.makeFramebuffers_frame`** — what the loops leave alone.
* **`RenderPass.Attaches`** — the swapchain views of a framebuffer.
* **`RenderPass.attaches_makeFramebuffers`** — the three framebuffers. -/

namespace Nyx

namespace RenderPass

/-! ## What the loops leave alone -/

/-- Attaching a view changes nothing of a render pass but its images and how many were made. -/
theorem attachView_frame (attach : Nat) (made : RenderPass × Framebuffer)
    (entry : Attachment × Nat) :
    ∃ images handles, (attachView attach made entry).1 =
      { made.1 with images := images, handles := handles } := by
  obtain ⟨renderPass, info⟩ := made
  obtain ⟨attachment, index⟩ := entry
  unfold attachView
  by_cases shared : renderPass.swapchain.initialized ∧ attachment.format ≠ .d24UnormS8Uint
  · simp only [if_pos shared]
    exact ⟨renderPass.images, renderPass.handles, rfl⟩
  · simp only [if_neg shared]
    exact ⟨_, _, rfl⟩

/-- Attaching all views of a framebuffer changes nothing of a render pass but its images and how
many were made. -/
theorem attachViews_frame (attach : Nat) (entries : List (Attachment × Nat))
    (made : RenderPass × Framebuffer) :
    ∃ images handles, (entries.foldl (attachView attach) made).1 =
      { made.1 with images := images, handles := handles } := by
  induction entries generalizing made with
  | nil => exact ⟨made.1.images, made.1.handles, rfl⟩
  | cons entry entries ih =>
      obtain ⟨images, handles, step⟩ := attachView_frame attach made entry
      obtain ⟨images', handles', rest⟩ := ih (attachView attach made entry)
      refine ⟨images', handles', ?_⟩
      rw [List.foldl_cons, rest, step]

/-- Making framebuffers leaves everything but the images and the framebuffers alone. -/
theorem attachFramebuffers_frame (attaches : List Nat) (made : RenderPass × Framebuffer) :
    ∃ images handles framebuffers, (attaches.foldl attachFramebuffer made).1 =
      { made.1 with images := images, handles := handles, framebuffers := framebuffers } := by
  induction attaches generalizing made with
  | nil => exact ⟨made.1.images, made.1.handles, made.1.framebuffers, rfl⟩
  | cons attach attaches ih =>
      obtain ⟨images, handles, views⟩ :=
        attachViews_frame attach made.1.attachments.zipIdx made
      obtain ⟨images', handles', framebuffers', rest⟩ := ih (attachFramebuffer made attach)
      refine ⟨images', handles', framebuffers', ?_⟩
      rw [List.foldl_cons, rest]
      unfold attachFramebuffer
      simp only [views]

/-- `makeFramebuffers` leaves everything but the images and the framebuffers alone. -/
theorem makeFramebuffers_frame (renderPass : RenderPass) :
    ∃ images handles framebuffers, renderPass.makeFramebuffers =
      { renderPass with images := images, handles := handles, framebuffers := framebuffers } := by
  obtain ⟨images, handles, framebuffers, made⟩ := attachFramebuffers_frame
    (List.range' 1 numBuffers) ({ renderPass with
      images := renderPass.images.takeD (numBuffers * renderPass.attachments.length) {}
      framebuffers := renderPass.framebuffers.takeD numBuffers {} }, {})
  exact ⟨images, handles, framebuffers, made⟩

@[simp] theorem swapchain_makeFramebuffers (renderPass : RenderPass) :
    renderPass.makeFramebuffers.swapchain = renderPass.swapchain := by
  obtain ⟨_, _, _, made⟩ := makeFramebuffers_frame renderPass
  rw [made]

@[simp] theorem attachments_makeFramebuffers (renderPass : RenderPass) :
    renderPass.makeFramebuffers.attachments = renderPass.attachments := by
  obtain ⟨_, _, _, made⟩ := makeFramebuffers_frame renderPass
  rw [made]

/-! ## The views -/

/-- Framebuffer number `index` shows its image of the swapchain, in the attachments that are not
for depth and stencil, and no other image of a swapchain. -/
def Attaches (renderPass : RenderPass) (index : Nat) (framebuffer : Framebuffer) : Prop :=
  ∀ source image, ImageView.swapchain source image ∈ framebuffer.views ↔
    (∃ attachment ∈ renderPass.attachments, attachment.format ≠ .d24UnormS8Uint) ∧
      source = renderPass.swapchain.swapchain ∧ image = renderPass.swapchain.imageIndex index

/-- The views of swapchain images after one attachment more are those from before, and, when it is
not for depth, the view of the image that the pass is for. -/
theorem mem_views_attachView (attach : Nat) {made : RenderPass × Framebuffer}
    (initialized : made.1.swapchain.initialized = true) (entry : Attachment × Nat)
    (source : Option Nat) (image : Nat) :
    ImageView.swapchain source image ∈ (attachView attach made entry).2.views ↔
      ImageView.swapchain source image ∈ made.2.views ∨
        entry.1.format ≠ .d24UnormS8Uint ∧ source = made.1.swapchain.swapchain ∧
          image = made.1.swapchain.imageIndex (attach - 1) := by
  obtain ⟨renderPass, info⟩ := made
  obtain ⟨attachment, index⟩ := entry
  unfold attachView
  by_cases colour : attachment.format ≠ .d24UnormS8Uint
  · have shared : renderPass.swapchain.initialized = true ∧ attachment.format ≠ .d24UnormS8Uint :=
      ⟨initialized, colour⟩
    simp only [if_pos shared]
    simp only [List.mem_append, List.mem_singleton, ImageView.swapchain.injEq, ne_eq, colour,
      not_false_eq_true, true_and]
  · have depth : ¬(renderPass.swapchain.initialized = true ∧ attachment.format ≠ .d24UnormS8Uint) :=
      fun both => colour both.2
    -- the view of an own image is no view of a swapchain
    simp only [if_neg depth]
    simp only [List.mem_append, List.mem_singleton, reduceCtorEq, colour, false_and]

/-- The views of swapchain images after all attachments are those from before, and, when one of the
attachments is not for depth, the view of the image that the pass is for. -/
theorem mem_views_attachViews (attach : Nat) (entries : List (Attachment × Nat))
    {made : RenderPass × Framebuffer} (initialized : made.1.swapchain.initialized = true)
    (source : Option Nat) (image : Nat) :
    ImageView.swapchain source image ∈ (entries.foldl (attachView attach) made).2.views ↔
      ImageView.swapchain source image ∈ made.2.views ∨
        (∃ entry ∈ entries, entry.1.format ≠ .d24UnormS8Uint) ∧
          source = made.1.swapchain.swapchain ∧
            image = made.1.swapchain.imageIndex (attach - 1) := by
  induction entries generalizing made with
  | nil =>
      refine ⟨Or.inl, ?_⟩
      rintro (there | ⟨⟨_, none, _⟩, _⟩)
      · exact there
      · exact absurd none List.not_mem_nil
  | cons entry entries ih =>
      obtain ⟨_, _, step⟩ := attachView_frame attach made entry
      have swapchain : (attachView attach made entry).1.swapchain = made.1.swapchain := by rw [step]
      rw [List.foldl_cons, ih (by rw [swapchain]; exact initialized), swapchain,
        mem_views_attachView attach initialized, List.exists_mem_cons_iff, or_assoc, ← or_and_right]

/-- One pass of the outer loop makes the framebuffer it counts, and starts the next one anew. -/
theorem attachFramebuffer_spec {made : RenderPass × Framebuffer}
    (initialized : made.1.swapchain.initialized = true) (empty : made.2.views = [])
    (index : Nat) :
    (attachFramebuffer made (1 + index)).2.views = [] ∧
      ∃ framebuffer, made.1.Attaches index framebuffer ∧
        (attachFramebuffer made (1 + index)).1.framebuffers =
          made.1.framebuffers.set index framebuffer := by
  obtain ⟨_, _, frame⟩ := attachViews_frame (1 + index) made.1.attachments.zipIdx made
  refine ⟨rfl, (made.1.attachments.zipIdx.foldl (attachView (1 + index)) made).2, ?_, ?_⟩
  · intro source image
    -- the positions of the attachments do not matter for the views of the swapchain
    have entries : (∃ entry ∈ made.1.attachments.zipIdx, entry.1.format ≠ .d24UnormS8Uint) ↔
        ∃ attachment ∈ made.1.attachments, attachment.format ≠ .d24UnormS8Uint := by
      constructor
      · rintro ⟨entry, listed, colour⟩
        exact ⟨entry.1, List.fst_mem_of_mem_zipIdx listed, colour⟩
      · rintro ⟨attachment, listed, colour⟩
        obtain ⟨position, placed⟩ := List.mem_iff_getElem?.mp listed
        exact ⟨(attachment, position), List.mem_zipIdx_iff_getElem?.mpr placed, colour⟩
    rw [mem_views_attachViews _ _ initialized, empty, entries, Nat.add_sub_cancel_left]
    exact or_iff_right List.not_mem_nil
  · unfold attachFramebuffer
    simp only [frame, Nat.add_sub_cancel_left]

/-- The outer loop after `count` passes has made the first `count` framebuffers. -/
theorem attachFramebuffers_spec {made : RenderPass × Framebuffer}
    (initialized : made.1.swapchain.initialized = true) (empty : made.2.views = []) (count : Nat)
    (room : count ≤ made.1.framebuffers.length) :
    ((List.range' 1 count).foldl attachFramebuffer made).2.views = [] ∧
      ((List.range' 1 count).foldl attachFramebuffer made).1.framebuffers.length =
        made.1.framebuffers.length ∧
      ∀ index < count, ∃ framebuffer, made.1.Attaches index framebuffer ∧
        ((List.range' 1 count).foldl attachFramebuffer made).1.framebuffers[index]? =
          some framebuffer := by
  induction count with
  | zero => exact ⟨empty, rfl, fun index none => absurd none (Nat.not_lt_zero index)⟩
  | succ count ih =>
      obtain ⟨empty', length, attaches⟩ := ih (Nat.le_of_succ_le room)
      -- the passes so far left the swapchain and the attachments alone
      obtain ⟨_, _, _, frame⟩ := attachFramebuffers_frame (List.range' 1 count) made
      have initialized' :
          ((List.range' 1 count).foldl attachFramebuffer made).1.swapchain.initialized = true := by
        rw [frame]
        exact initialized
      obtain ⟨empty'', framebuffer, shows, set⟩ :=
        attachFramebuffer_spec initialized' empty' count
      have shows : made.1.Attaches count framebuffer := by
        rw [frame] at shows
        exact shows
      rw [List.range'_1_concat, List.foldl_append, List.foldl_cons, List.foldl_nil]
      refine ⟨empty'', ?_, ?_⟩
      · rw [set, List.length_set, length]
      · intro index before
        rw [set, List.getElem?_set]
        by_cases last : count = index
        · subst last
          -- the framebuffer just made
          refine ⟨framebuffer, shows, ?_⟩
          rw [if_pos rfl, length, if_pos (Nat.lt_of_succ_le room)]
        · rw [if_neg last]
          exact attaches index (by omega)

/-- **The framebuffers of a window.** There are three, and each shows its image of the swapchain. -/
theorem attaches_makeFramebuffers {renderPass : RenderPass}
    (initialized : renderPass.swapchain.initialized = true) :
    renderPass.makeFramebuffers.framebuffers.length = numBuffers ∧
      ∀ index < numBuffers, ∃ framebuffer, renderPass.Attaches index framebuffer ∧
        renderPass.makeFramebuffers.framebuffers[index]? = some framebuffer := by
  have made := @attachFramebuffers_spec ({ renderPass with
    images := renderPass.images.takeD (numBuffers * renderPass.attachments.length) {}
    framebuffers := renderPass.framebuffers.takeD numBuffers {} }, {}) initialized rfl numBuffers
    (Nat.le_of_eq (List.takeD_length _ _ _).symm)
  exact ⟨made.2.1.trans (List.takeD_length _ _ _), made.2.2⟩

end RenderPass

end Nyx
