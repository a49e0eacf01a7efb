import Nyx.Presentation.Framebuffers
import Nyx.Presentation.SubpassReferences

/-! # The images of a render pass without a window

Without a window `makeFramebuffers` initialises an image of the render pass for every attachment of
every framebuffer. Attachment `index` of framebuffer `attach - 1` takes element `attach * index` of
the images, and `RenderPass::framebuffer` looks for it in element `current_framebuffer * 3 + index`.

* **`RenderPass.framebuffer`**, **`RenderPass.attachedView`** — the two ways to an image.
* **`RenderPass.TableConsistent`** — they lead to the same one.
* **`RenderPass.lastAttached`** — the attachment an element was initialised for last.
* **`RenderPass.attachFramebuffers_own`** — what the loops of `makeFramebuffers` leave.
* **`RenderPass.agreesAt_initializeDevice_iff`** — for which attachments the two ways agree.
* **`RenderPass.not_tableConsistent_initializeDevice`** — the table is never consistent. -/

namespace Nyx

/-- The render pass that has these vectors among its data. -/
def RenderPassLists.renderPass (lists : RenderPassLists) : RenderPass :=
  { attachments := lists.attachments, subpasses := lists.subpasses.length }

/-- `Image::view` of an image of a render pass, if it has an image. -/
def RenderImage.view (image : RenderImage) : Option ImageView := image.image.map ImageView.own

namespace RenderPass

/-- `RenderPass::framebuffer`, where the index is an `unsigned`; `none` is a read of an empty
vector. -/
def framebuffer (renderPass : RenderPass) (index : Nat) : Option RenderImage :=
  let actualIndex := (renderPass.currentFramebuffer * numBuffers + index) % 2 ^ 32
  if actualIndex < renderPass.images.length then renderPass.images[actualIndex]?
  else renderPass.images[0]?

/-- The view attached to framebuffer number `f` for attachment `i`. -/
def attachedView (renderPass : RenderPass) (f i : Nat) : Option ImageView :=
  renderPass.framebuffers[f]?.bind fun framebuffer => framebuffer.views[i]?

/-- When framebuffer `f` is the current one, `framebuffer( i )` is the image attached to it for
attachment `i`. -/
def AgreesAt (renderPass : RenderPass) (f i : Nat) : Prop :=
  ({ renderPass with currentFramebuffer := f }.framebuffer i).bind RenderImage.view =
    renderPass.attachedView f i

instance (renderPass : RenderPass) (f i : Nat) : Decidable (renderPass.AgreesAt f i) :=
  inferInstanceAs (Decidable (_ = _))

/-- The table of images is consistent: each framebuffer has images of its own, which its accessors
return. -/
structure TableConsistent (renderPass : RenderPass) : Prop where
  distinct : ∀ f < numBuffers, ∀ i < renderPass.count, ∀ f' < numBuffers, ∀ i' < renderPass.count,
    renderPass.attachedView f i = renderPass.attachedView f' i' → f = f' ∧ i = i'
  inRange : ∀ f < numBuffers, ∀ i < renderPass.count, (f + 1) * i < renderPass.images.length
  agrees : ∀ f < numBuffers, ∀ i < renderPass.count, renderPass.AgreesAt f i

/-! ## What the loops leave -/

/-- The handle in an element of the images, if there is such an element and it has one. -/
def imageAt (renderPass : RenderPass) (slot : Nat) : Option Nat :=
  renderPass.images[slot]?.bind RenderImage.image

/-- The framebuffer and the attachment for which an element is initialised last, in the first
`passes` passes of the outer loop over `count` attachments. -/
def lastAttached (count : Nat) : Nat → Nat → Option (Nat × Nat)
  | 0, _ => none
  | passes + 1, slot =>
      if slot % (passes + 1) = 0 ∧ slot / (passes + 1) < count then
        some (passes, slot / (passes + 1))
      else lastAttached count passes slot

/-- Attaching a view without a window initialises an image with the next handle. -/
theorem attachView_own (attach : Nat) {made : RenderPass × Framebuffer}
    (h : made.1.swapchain.initialized = false) (entry : Attachment × Nat) :
    ∃ image, image.image = some made.1.handles ∧
      (attachView attach made entry).1 = { made.1 with
        images := made.1.images.set (attach * entry.2) image, handles := made.1.handles + 1 } ∧
      (attachView attach made entry).2.views =
        made.2.views ++ [ImageView.own made.1.handles] := by
  obtain ⟨renderPass, info⟩ := made
  obtain ⟨attachment, index⟩ := entry
  unfold attachView
  have hown : ¬(renderPass.swapchain.initialized = true ∧ attachment.format ≠ .d24UnormS8Uint) := by
    simp [show renderPass.swapchain.initialized = false from h]
  simp only [if_neg hown, and_true]
  exact ⟨_, rfl, rfl⟩

/-- After an element was set, it has the handle of the new image, and the others have theirs. -/
theorem imageAt_set (renderPass : RenderPass) {place slot : Nat} {image : RenderImage}
    (handles : Nat) (h : place < renderPass.images.length) :
    ({ renderPass with
        images := renderPass.images.set place image, handles := handles } : RenderPass).imageAt
      slot = if place = slot then image.image else renderPass.imageAt slot := by
  unfold imageAt
  by_cases hslot : place = slot
  · subst hslot
    simp [h]
  · simp [hslot]

/-- The multiples of a number within a stretch that starts a place earlier. -/
theorem ite_multiple_succ {attach : Nat} (h : 0 < attach) (start length slot handle : Nat)
    (before : Option Nat) :
    (if slot % attach = 0 ∧ start + 1 ≤ slot / attach ∧ slot / attach < start + 1 + length then
        some (handle + 1 + (slot / attach - (start + 1)))
      else if attach * start = slot then some handle else before) =
    if slot % attach = 0 ∧ start ≤ slot / attach ∧ slot / attach < start + (length + 1) then
      some (handle + (slot / attach - start)) else before := by
  by_cases hslot : attach * start = slot
  · subst hslot
    simp [h]
  · have hplace : slot % attach = 0 → slot / attach ≠ start := by
      rintro hmod rfl
      exact hslot (Nat.mul_div_cancel' (Nat.dvd_of_mod_eq_zero hmod))
    rw [if_neg hslot]
    by_cases hin : slot % attach = 0 ∧ start + 1 ≤ slot / attach ∧
        slot / attach < start + 1 + length
    · rw [if_pos hin, if_pos (by omega)]
      exact congrArg some (by omega)
    · have hout : ¬(slot % attach = 0 ∧ start ≤ slot / attach ∧
          slot / attach < start + (length + 1)) := by
        rintro ⟨hmod, hfrom, hto⟩
        have := hplace hmod
        omega
      rw [if_neg hin, if_neg hout]

/-- **The inner loop** from attachment `start` on: one handle and one view for each attachment, and
the handles in the multiples of `attach`. -/
theorem attachViews_own (attach : Nat) (hattach : 0 < attach) (entries : List Attachment)
    (start : Nat) {made : RenderPass × Framebuffer} (h : made.1.swapchain.initialized = false)
    (hroom : attach * (start + entries.length - 1) < made.1.images.length ∨ entries = []) :
    let after := (entries.zipIdx start).foldl (attachView attach) made
    after.1.handles = made.1.handles + entries.length ∧
      after.1.images.length = made.1.images.length ∧
      after.2.views = made.2.views ++
        (List.range' made.1.handles entries.length).map ImageView.own ∧
      ∀ slot, after.1.imageAt slot =
        if slot % attach = 0 ∧ start ≤ slot / attach ∧ slot / attach < start + entries.length then
          some (made.1.handles + (slot / attach - start))
        else made.1.imageAt slot := by
  induction entries generalizing start made with
  | nil =>
      refine ⟨rfl, rfl, by simp, fun slot => ?_⟩
      have hnone : ¬(slot % attach = 0 ∧ start ≤ slot / attach ∧ slot / attach < start + 0) := by
        omega
      simp only [List.length_nil, if_neg hnone, List.zipIdx_nil, List.foldl_nil]
  | cons attachment entries ih =>
      obtain ⟨image, hhandle, hpass, hviews⟩ := attachView_own attach h (attachment, start)
      have hlast : attach * (start + entries.length) < made.1.images.length := by
        simpa [← Nat.add_assoc] using hroom
      have hplace : attach * start < made.1.images.length :=
        Nat.lt_of_le_of_lt (Nat.mul_le_mul_left _ (Nat.le_add_right _ _)) hlast
      have hswapchain : (attachView attach made (attachment, start)).1.swapchain.initialized =
          false := by rw [hpass]; exact h
      have hlength : (attachView attach made (attachment, start)).1.images.length =
          made.1.images.length := by rw [hpass]; exact List.length_set
      have hhandles : (attachView attach made (attachment, start)).1.handles =
          made.1.handles + 1 := by rw [hpass]
      obtain ⟨hcount, hsize, hall, himages⟩ := ih (start + 1) hswapchain (by
        cases entries with
        | nil => exact Or.inr rfl
        | cons other entries =>
            rw [hlength]
            exact Or.inl (by simpa [Nat.add_comm, Nat.add_left_comm] using hlast))
      rw [List.zipIdx_cons, List.foldl_cons]
      refine ⟨?_, hsize.trans hlength, ?_, fun slot => ?_⟩
      · rw [hcount, hhandles, List.length_cons]
        omega
      · rw [hall, hviews, hhandles, List.length_cons, List.range'_succ, List.map_cons,
          List.append_assoc, List.singleton_append]
      · rw [himages slot, hhandles, hpass, imageAt_set _ _ hplace, hhandle, List.length_cons]
        exact ite_multiple_succ hattach _ _ _ _ _

/-- One pass of the outer loop attaches, without a swapchain, images of its own to the
framebuffer. -/
theorem attachFramebuffer_own {made : RenderPass × Framebuffer}
    (h : made.1.swapchain.initialized = false) (hviews : made.2.views = []) (f : Nat)
    (hroom : (f + 1) * made.1.count ≤ made.1.images.length) :
    let after := attachFramebuffer made (1 + f)
    after.1.handles = made.1.handles + made.1.count ∧
      after.1.images.length = made.1.images.length ∧
      after.2.views = [] ∧
      (∃ framebuffer : Framebuffer, framebuffer.views =
          (List.range' made.1.handles made.1.count).map ImageView.own ∧
        after.1.framebuffers = made.1.framebuffers.set f framebuffer) ∧
      ∀ slot, after.1.imageAt slot =
        if slot % (f + 1) = 0 ∧ slot / (f + 1) < made.1.count then
          some (made.1.handles + slot / (f + 1))
        else made.1.imageAt slot := by
  have hentries : (1 + f) * (0 + made.1.attachments.length - 1) < made.1.images.length ∨
      made.1.attachments = [] := by
    by_cases hnone : made.1.attachments = []
    · exact Or.inr hnone
    · have hsome := List.length_pos_iff.mpr hnone
      have hless : (1 + f) * (0 + made.1.attachments.length - 1) <
          (1 + f) * made.1.attachments.length := Nat.mul_lt_mul_of_pos_left (by omega) (by omega)
      rw [Nat.add_comm f 1] at hroom
      exact Or.inl (Nat.lt_of_lt_of_le hless hroom)
  obtain ⟨hhandles, hlength, hown, himages⟩ :=
    attachViews_own (1 + f) (by omega) made.1.attachments 0 h hentries
  obtain ⟨_, _, hframe⟩ := attachViews_frame (1 + f) made.1.attachments.zipIdx made
  refine ⟨hhandles, hlength, rfl, ⟨_, hown.trans (by rw [hviews, List.nil_append]; rfl), ?_⟩,
    fun slot => ?_⟩
  · unfold attachFramebuffer
    simp only [hframe, Nat.add_sub_cancel_left]
  · refine (himages slot).trans ?_
    simp only [Nat.zero_le, true_and, Nat.zero_add, Nat.sub_zero, Nat.add_comm 1 f]
    rfl

/-- **The outer loop** after some of its passes: each framebuffer that was reached has images of its
own attached. -/
theorem attachFramebuffers_own {made : RenderPass × Framebuffer}
    (h : made.1.swapchain.initialized = false) (hviews : made.2.views = []) (passes : Nat)
    (hframebuffers : passes ≤ made.1.framebuffers.length)
    (hroom : passes * made.1.count ≤ made.1.images.length) :
    let after := (List.range' 1 passes).foldl attachFramebuffer made
    after.1.handles = made.1.handles + passes * made.1.count ∧
      after.1.images.length = made.1.images.length ∧
      after.1.framebuffers.length = made.1.framebuffers.length ∧
      after.2.views = [] ∧
      (∀ f < passes, ∀ i < made.1.count, after.1.attachedView f i =
        some (ImageView.own (made.1.handles + f * made.1.count + i))) ∧
      ∀ slot, after.1.imageAt slot =
        ((lastAttached made.1.count passes slot).map fun place =>
          made.1.handles + place.1 * made.1.count + place.2).or (made.1.imageAt slot) := by
  induction passes with
  | zero => exact ⟨by simp, rfl, rfl, hviews, by simp, fun slot => rfl⟩
  | succ passes ih =>
      obtain ⟨hhandles, hlength, hlengths, hempty, hattached, himages⟩ :=
        ih (by omega) (Nat.le_trans (Nat.mul_le_mul_right _ (Nat.le_succ _)) hroom)
      -- the passes so far left the swapchain and the attachments alone
      obtain ⟨_, _, _, hframe⟩ := attachFramebuffers_frame (List.range' 1 passes) made
      have hcount : ((List.range' 1 passes).foldl attachFramebuffer made).1.count =
          made.1.count := by rw [hframe]; rfl
      obtain ⟨hhandles', hlength', hempty', ⟨framebuffer, hown, hset⟩, himages'⟩ :=
        attachFramebuffer_own (by rw [hframe]; exact h) hempty passes
          (by rw [hcount, hlength]; exact hroom)
      rw [hcount, hhandles] at hown hhandles'
      rw [List.range'_1_concat, List.foldl_append, List.foldl_cons, List.foldl_nil]
      refine ⟨?_, hlength'.trans hlength, ?_, hempty', ?_, fun slot => ?_⟩
      · rw [hhandles', Nat.succ_mul, Nat.add_assoc]
      · rw [hset, List.length_set, hlengths]
      · intro f hf i hi
        unfold attachedView
        rw [hset]
        by_cases hlast : f = passes
        · subst hlast
          -- the framebuffer just made
          rw [List.getElem?_set_self (by omega), Option.bind_some, hown, List.getElem?_map,
            List.getElem?_range' hi]
          simp
        · rw [List.getElem?_set_ne (Ne.symm hlast)]
          exact hattached f (by omega) i hi
      · rw [himages' slot, hcount, hhandles, himages slot, lastAttached]
        by_cases hmultiple : slot % (passes + 1) = 0 ∧ slot / (passes + 1) < made.1.count
        · simp [hmultiple]
        · simp [hmultiple]

/-! ## The table -/

/-- **The images and the framebuffers** of a render pass without a window. -/
theorem initializeDevice_own (renderPass : RenderPass) (device : Nat)
    (h : renderPass.swapchain.initialized = false) :
    let after := renderPass.initializeDevice device
    after.images.length = numBuffers * renderPass.count ∧
      (∀ f < numBuffers, ∀ i < renderPass.count, after.attachedView f i =
        some (ImageView.own (renderPass.handles + 1 + f * renderPass.count + i))) ∧
      ∀ slot, after.imageAt slot = ((lastAttached renderPass.count numBuffers slot).map fun place =>
        renderPass.handles + 1 + place.1 * renderPass.count + place.2).or
          ((renderPass.images.takeD (numBuffers * renderPass.count) {})[slot]?.bind
            RenderImage.image) := by
  have hmade := @attachFramebuffers_own ({ renderPass with
    device := some device
    pass := some renderPass.handles
    handles := renderPass.handles + 1
    images := renderPass.images.takeD (numBuffers * renderPass.attachments.length) {}
    framebuffers := renderPass.framebuffers.takeD numBuffers {} }, {}) h rfl numBuffers
    (Nat.le_of_eq (List.takeD_length _ _ _).symm) (Nat.le_of_eq (List.takeD_length _ _ _).symm)
  obtain ⟨_, hlength, _, _, hattached, himages⟩ := hmade
  exact ⟨hlength.trans (List.takeD_length _ _ _), hattached, himages⟩

/-- The handle of the image that `framebuffer` returns for an index, when the computation does not
wrap around. -/
theorem framebuffer_bind_image (renderPass : RenderPass) {index : Nat}
    (h : renderPass.currentFramebuffer * numBuffers + index < 2 ^ 32) :
    (renderPass.framebuffer index).bind RenderImage.image =
      if renderPass.currentFramebuffer * numBuffers + index < renderPass.images.length then
        renderPass.imageAt (renderPass.currentFramebuffer * numBuffers + index)
      else renderPass.imageAt 0 := by
  unfold framebuffer imageAt
  simp only [Nat.mod_eq_of_lt h]
  split <;> rfl

/-- Element `0` is initialised again for every framebuffer, and keeps the image of the last one. -/
theorem lastAttached_zero {count : Nat} (h : 0 < count) :
    lastAttached count numBuffers 0 = some (2, 0) := by
  simp [lastAttached, numBuffers, h]

/-- The two ways to the image of a framebuffer agree exactly when they find the same handle. -/
theorem agreesAt_iff_of_attached {renderPass : RenderPass} {f i handle : Nat}
    (h : renderPass.attachedView f i = some (ImageView.own handle))
    (hindex : f * numBuffers + i < 2 ^ 32) :
    renderPass.AgreesAt f i ↔
      (if f * numBuffers + i < renderPass.images.length then
        renderPass.imageAt (f * numBuffers + i) else renderPass.imageAt 0) = some handle := by
  have hview : ∀ found : Option RenderImage,
      found.bind RenderImage.view = (found.bind RenderImage.image).map ImageView.own := by
    intro found
    cases found <;> rfl
  have hread := framebuffer_bind_image { renderPass with currentFramebuffer := f } hindex
  unfold AgreesAt
  rw [h, hview, hread, Option.map_eq_some_iff]
  refine ⟨?_, fun hhandle => ⟨handle, hhandle, rfl⟩⟩
  rintro ⟨other, hhandle, ⟨⟩⟩
  exact hhandle

/-- **The pairs that agree**, after the first initialisation: framebuffer `0` at the attachments
that no later pass takes the element of, and two accidents. -/
theorem agreesAt_initializeDevice_iff (renderPass : RenderPass) (device : Nat)
    (h : renderPass.swapchain.initialized = false) (himages : renderPass.images = [])
    (hcount : renderPass.count + 6 ≤ 2 ^ 32) {f i : Nat} (hf : f < numBuffers)
    (hi : i < renderPass.count) :
    (renderPass.initializeDevice device).AgreesAt f i ↔
      f = 0 ∧ i % 2 ≠ 0 ∧ i % 3 ≠ 0 ∨ f = 2 ∧ (i = 3 ∨ i = 0 ∧ renderPass.count ≤ 2) := by
  obtain ⟨hlength, hattached, hslots⟩ := initializeDevice_own renderPass device h
  have hnone : ∀ slot : Nat,
      (renderPass.images.takeD (numBuffers * renderPass.count) {})[slot]?.bind
        RenderImage.image = none := by
    intro slot
    rw [himages, List.takeD_nil, List.getElem?_replicate]
    split <;> rfl
  simp only [hnone, Option.or_none] at hslots
  rw [agreesAt_iff_of_attached (hattached f hf i hi) (by simp only [numBuffers] at hf ⊢; omega),
    hlength, hslots, hslots, lastAttached_zero (by omega)]
  simp only [lastAttached, numBuffers] at hf ⊢
  -- each of the three framebuffers by itself, where all is linear
  obtain rfl | rfl | rfl : f = 0 ∨ f = 1 ∨ f = 2 := by omega
  · split_ifs <;> simp <;> omega
  · split_ifs <;> simp <;> omega
  · split_ifs <;> simp <;> omega

/-- **The image table is never consistent** for a render pass without a window. -/
theorem not_tableConsistent_initializeDevice (renderPass : RenderPass) (device : Nat)
    (h : renderPass.swapchain.initialized = false) (hattachments : 1 ≤ renderPass.count) :
    ¬(renderPass.initializeDevice device).TableConsistent := by
  intro hconsistent
  obtain ⟨hlength, hattached, hslots⟩ := initializeDevice_own renderPass device h
  have hcount : (renderPass.initializeDevice device).count = renderPass.count := by
    unfold initializeDevice count
    rw [attachments_makeFramebuffers]
    rfl
  have hagrees := hconsistent.agrees 0 (by decide) 0 (by omega)
  rw [agreesAt_iff_of_attached (hattached 0 (by decide) 0 hattachments) (by decide),
    Nat.zero_mul, ite_self, hslots, lastAttached_zero hattachments] at hagrees
  simp at hagrees
  omega

/-- The table is not consistent for one colour attachment. -/
theorem not_tableConsistent_oneColour : ¬(oneColour.initializeDevice 0).TableConsistent :=
  fun hconsistent => absurd (hconsistent.agrees 0 (by decide) 0 (by decide)) (by decide)

/-- The table is not consistent for the attachments of two subpasses either. -/
theorem not_tableConsistent_initializeDevice_two :
    ¬((({} : RenderPassLists).addSubpasses .doubling
      [Subpass.plain, Subpass.plain]).renderPass.initializeDevice 0).TableConsistent :=
  not_tableConsistent_initializeDevice _ 0 rfl (by decide)

end RenderPass

end Nyx
