import Nyx.Foundations.Ledgers
import Nyx.Presentation.FrameSteps

/-! # The places of images

The images that a render pass initialises for its framebuffers are put in places of a vector. The
place of an image is the number of its framebuffer times that of its attachment, so two images may
be put in one place.

* **`RenderPass.ownPlaces`** — the places in which images of its own are initialised.
* **`RenderPass.makeFramebuffers_places`** — what `makeFramebuffers` leaves in the vector.
* **`Swapchain.Renews`** — some swapchains were made, and the last one is kept.
* **`RenderPass.Initialises`** — what initialising a render pass leaves.
* **`RenderPass.present_cases`** — `present` makes nothing, or all anew. -/

namespace Nyx

open Foundations

/-! ## Swapchains that are made -/

namespace Swapchain

/-- The next acquire finds that the surface has changed. -/
def AcquireChanged (driver : Driver) (swapchain : Swapchain) : Prop :=
  (driver.acquireResult swapchain.acquires).recreates = true

/-- The next submit finds that the surface has changed. -/
def SubmitChanged (driver : Driver) (swapchain : Swapchain) : Prop :=
  swapchain.skipFrame = false ∧ (driver.presentResult swapchain.presents).recreates = true

variable {driver : Driver} {swapchain before after : Swapchain} {count : Nat}

/-- Some swapchains were made, and the last one is kept. -/
structure Renews (before after : Swapchain) (count : Nat) : Prop where
  creations : after.creations = before.creations + count
  swapchain : after.swapchain = if count = 0 then before.swapchain else some (after.creations - 1)
  format : before.surfaceFormat ≠ .d24UnormS8Uint → after.surfaceFormat ≠ .d24UnormS8Uint

/-- When a swapchain has the same handle, format and count as before, no new one was made. -/
theorem renews_zero (hcreations : after.creations = before.creations)
    (hswapchain : after.swapchain = before.swapchain)
    (hformat : after.surfaceFormat = before.surfaceFormat) : before.Renews after 0 :=
  ⟨hcreations, hswapchain, fun h => hformat ▸ h⟩

/-- When some swapchains were made, and then some more, all of these were made. -/
theorem Renews.trans {more : Nat} {last : Swapchain} (h : before.Renews after count)
    (hlast : after.Renews last more) : before.Renews last (count + more) where
  creations := by rw [hlast.creations, h.creations, Nat.add_assoc]
  swapchain := by
    rw [hlast.swapchain, h.swapchain]
    by_cases hmore : more = 0
    · subst hmore
      simp [hlast.creations]
    · simp [hmore]
  format hformat := hlast.format (h.format hformat)

/-- `Swapchain::initialize` makes one swapchain, which the object holds then. -/
theorem renews_initializeSwapchain (driver : Driver) (swapchain : Swapchain) :
    swapchain.Renews (swapchain.initializeSwapchain driver) 1 where
  creations := rfl
  swapchain := rfl
  format hformat := by
    show (if _ then VkFormat.b8g8r8a8Srgb else swapchain.surfaceFormat) ≠ _
    split
    · exact VkFormat.noConfusion
    · exact hformat

/-- `Swapchain::acquire` makes a swapchain exactly when the surface has changed, and then asks for
recovery. -/
theorem acquire_renews {answer : Vulkan.Error}
    (h : swapchain.acquire driver = .ok (after, answer)) :
    swapchain.AcquireChanged driver ∧ answer = .recreateSwapchain ∧ swapchain.Renews after 1 ∨
      ¬ swapchain.AcquireChanged driver ∧ answer = .success ∧ swapchain.Renews after 0 := by
  unfold acquire at h
  dsimp only at h
  split at h
  · cases h
  · cases h
  · split at h
    · next hchanged =>
        cases h
        refine Or.inl ⟨hchanged, rfl, ?_⟩
        have hmade := renews_initializeSwapchain driver swapchain
        exact ⟨hmade.creations, hmade.swapchain, hmade.format⟩
    · next hsame =>
        cases h
        exact Or.inr ⟨hsame, rfl, renews_zero rfl rfl rfl⟩

/-- The end of a frame leaves the handle alone, and the calls that were made. -/
theorem retire_renews {index : Nat} {rest : List Acquired} {result answer : Vulkan.Error}
    (h : swapchain.retire index rest result = .ok (after, answer)) :
    answer = result ∧ after.acquires = swapchain.acquires ∧ swapchain.Renews after 0 := by
  unfold retire at h
  split at h
  · cases h
  · cases h
    exact ⟨rfl, rfl, renews_zero rfl rfl rfl⟩

/-- `Swapchain::submit` makes a swapchain exactly when the surface has changed, and then asks for
recovery. -/
theorem submit_renews {answer : Vulkan.Error}
    (h : swapchain.submit driver = .ok (after, answer)) :
    after.acquires = swapchain.acquires ∧
      (swapchain.SubmitChanged driver ∧ answer = .recreateSwapchain ∧ swapchain.Renews after 1 ∨
        ¬ swapchain.SubmitChanged driver ∧ answer = .success ∧ swapchain.Renews after 0) := by
  unfold submit at h
  split at h
  · cases h
  · split at h
    · next hplays =>
        split at h
        · cases h
        · dsimp only at h
          split at h
          · next hchanged =>
              obtain ⟨rfl, hacquires, hrenews⟩ := retire_renews h
              refine ⟨hacquires, Or.inl ⟨⟨hplays, ?_⟩, rfl, ?_⟩⟩
              · exact (VkResult.recreates_iff _).mpr hchanged
              · have hmade := (renews_initializeSwapchain driver swapchain).trans
                  ⟨hrenews.creations, hrenews.swapchain, hrenews.format⟩
                exact hmade
          · next hsame =>
              obtain ⟨rfl, hacquires, hrenews⟩ := retire_renews h
              refine ⟨hacquires, Or.inr ⟨fun hchanged => hsame ?_, rfl, ?_⟩⟩
              · exact (VkResult.recreates_iff _).mp hchanged.2
              · exact ⟨hrenews.creations, hrenews.swapchain, hrenews.format⟩
    · next hskips =>
        obtain ⟨rfl, hacquires, hrenews⟩ := retire_renews h
        refine ⟨hacquires, Or.inr ⟨fun hchanged => hskips hchanged.1, rfl, ?_⟩⟩
        exact ⟨hrenews.creations, hrenews.swapchain, hrenews.format⟩

end Swapchain

/-! ## Images in their places -/

namespace RenderPass

/-- The handles of the images of a render pass, each in its place. -/
def imageTable (renderPass : RenderPass) : List (Option Nat) :=
  renderPass.images.map RenderImage.image

/-- The place of the image that `makeFramebuffers` initialises for an attachment, unless a swapchain
has one. -/
def ownPlace (window : Bool) (attach : Nat) (entry : Attachment × Nat) : Option Nat :=
  if window ∧ entry.1.format ≠ .d24UnormS8Uint then none else some (attach * entry.2)

/-- The places of all images that `makeFramebuffers` initialises for some attachments. -/
def ownPlaces (window : Bool) (attachments : List Attachment) : List Nat :=
  (List.range' 1 RenderPass.numBuffers).flatMap fun attach =>
    attachments.zipIdx.filterMap (ownPlace window attach)

/-- **The inner loop** of `makeFramebuffers` puts a new handle in each of its places. -/
theorem attachViews_places (attach : Nat) (entries : List (Attachment × Nat))
    (made : RenderPass × Framebuffer) :
    let places := entries.filterMap (ownPlace made.1.swapchain.initialized attach)
    let after := (entries.foldl (attachView attach) made).1
    after.imageTable = placeFrom made.1.imageTable made.1.handles places ∧
      after.handles = made.1.handles + places.length := by
  induction entries generalizing made with
  | nil => exact ⟨rfl, rfl⟩
  | cons entry entries ih =>
      obtain ⟨hswapchain, htable, hhandles⟩ :
          (attachView attach made entry).1.swapchain = made.1.swapchain ∧
          (attachView attach made entry).1.imageTable = placeFrom made.1.imageTable made.1.handles
            (ownPlace made.1.swapchain.initialized attach entry).toList ∧
          (attachView attach made entry).1.handles = made.1.handles +
            (ownPlace made.1.swapchain.initialized attach entry).toList.length := by
        unfold attachView ownPlace
        by_cases hshared : made.1.swapchain.initialized = true ∧
            entry.1.format ≠ .d24UnormS8Uint
        · simp only [if_pos hshared]
          exact ⟨trivial, rfl, rfl⟩
        · simp only [if_neg hshared]
          refine ⟨trivial, ?_, rfl⟩
          simp only [imageTable, List.map_set, Option.toList_some, placeFrom]
      obtain ⟨htable', hhandles'⟩ := ih (attachView attach made entry)
      rw [List.foldl_cons]
      have hplaces : (entry :: entries).filterMap
            (ownPlace made.1.swapchain.initialized attach) =
          (ownPlace made.1.swapchain.initialized attach entry).toList ++
            entries.filterMap (ownPlace made.1.swapchain.initialized attach) := by
        rw [List.filterMap_cons]
        cases ownPlace made.1.swapchain.initialized attach entry <;> rfl
      refine ⟨?_, ?_⟩
      · rw [htable', hswapchain, htable, hhandles, hplaces, placeFrom_append]
      · rw [hhandles', hswapchain, hhandles, hplaces, List.length_append, Nat.add_assoc]

/-- **The outer loop** makes images in the places that its passes have, one after another. -/
theorem attachFramebuffers_places (attaches : List Nat) (made : RenderPass × Framebuffer) :
    let places := attaches.flatMap fun attach =>
      made.1.attachments.zipIdx.filterMap (ownPlace made.1.swapchain.initialized attach)
    let after := (attaches.foldl attachFramebuffer made).1
    after.imageTable = placeFrom made.1.imageTable made.1.handles places ∧
      after.handles = made.1.handles + places.length ∧
      after.framebuffers.length = made.1.framebuffers.length := by
  induction attaches generalizing made with
  | nil => exact ⟨rfl, rfl, rfl⟩
  | cons attach attaches ih =>
      obtain ⟨htable, hhandles⟩ := attachViews_places attach made.1.attachments.zipIdx made
      obtain ⟨images, handles, hframe⟩ := attachViews_frame attach made.1.attachments.zipIdx made
      obtain ⟨htable', hhandles', hlength⟩ := ih (attachFramebuffer made attach)
      have hswapchain : (attachFramebuffer made attach).1.swapchain = made.1.swapchain := by
        simp only [attachFramebuffer, hframe]
      have hattachments : (attachFramebuffer made attach).1.attachments = made.1.attachments := by
        simp only [attachFramebuffer, hframe]
      have hframebuffers : (attachFramebuffer made attach).1.framebuffers.length =
          made.1.framebuffers.length := by
        simp only [attachFramebuffer, hframe, List.length_set]
      have htable'' : (attachFramebuffer made attach).1.imageTable =
          placeFrom made.1.imageTable made.1.handles (made.1.attachments.zipIdx.filterMap
            (ownPlace made.1.swapchain.initialized attach)) := htable
      have hhandles'' : (attachFramebuffer made attach).1.handles = made.1.handles +
          (made.1.attachments.zipIdx.filterMap
            (ownPlace made.1.swapchain.initialized attach)).length := hhandles
      rw [List.foldl_cons, List.flatMap_cons]
      refine ⟨?_, ?_, hlength.trans hframebuffers⟩
      · rw [htable', hswapchain, hattachments, htable'', hhandles'', placeFrom_append]
      · rw [hhandles', hswapchain, hattachments, hhandles'', List.length_append, Nat.add_assoc]

/-- The table that `makeFramebuffers` starts with, once it has resized the vector. -/
def resizedTable (renderPass : RenderPass) : List (Option Nat) :=
  (renderPass.images.takeD (numBuffers * renderPass.attachments.length) {}).map RenderImage.image

/-- `makeFramebuffers` puts a new handle in each of its places, and makes three framebuffers. -/
theorem makeFramebuffers_places (renderPass : RenderPass) :
    let places := ownPlaces renderPass.swapchain.initialized renderPass.attachments
    renderPass.makeFramebuffers.imageTable =
        placeFrom renderPass.resizedTable renderPass.handles places ∧
      renderPass.makeFramebuffers.handles = renderPass.handles + places.length ∧
      renderPass.makeFramebuffers.framebuffers.length = numBuffers := by
  obtain ⟨htable, hhandles, hlength⟩ := attachFramebuffers_places (List.range' 1 numBuffers)
    ({ renderPass with
      images := renderPass.images.takeD (numBuffers * renderPass.attachments.length) {}
      framebuffers := renderPass.framebuffers.takeD numBuffers {} }, {})
  exact ⟨htable, hhandles, hlength.trans (List.takeD_length _ _ _)⟩

/-- Resizing the vector of images may cut images off, and adds none. -/
theorem reduceOption_takeD_sublist (images : List RenderImage) (n : Nat) :
    ((images.takeD n {}).map RenderImage.image).reduceOption.Sublist
      (images.map RenderImage.image).reduceOption := by
  induction n generalizing images with
  | zero => exact List.nil_sublist _
  | succ n ih =>
      cases images with
      | nil =>
          rw [List.takeD_nil, List.map_replicate]
          simp
      | cons image images =>
          rw [List.takeD_succ, List.head?_cons, Option.getD_some, List.tail_cons, List.map_cons,
            List.map_cons]
          cases image.image with
          | none => exact ih images
          | some handle =>
              rw [List.reduceOption_cons_of_some, List.reduceOption_cons_of_some]
              exact (ih images).cons_cons handle

/-- After resizing the images of the vector are still different ones, and all were held before. -/
theorem nodup_resizedTable {renderPass : RenderPass}
    (h : renderPass.imageTable.reduceOption.Nodup) :
    renderPass.resizedTable.reduceOption.Nodup ∧
      ∀ n ∈ renderPass.resizedTable.reduceOption, n ∈ renderPass.imageTable.reduceOption := by
  have hsublist := reduceOption_takeD_sublist renderPass.images
    (numBuffers * renderPass.attachments.length)
  exact ⟨h.sublist hsublist, fun n hn => hsublist.subset hn⟩

/-- What initialising leaves: a new render pass and three framebuffers, images in some places, and
the last of some new swapchains. -/
structure Initialises (before after : RenderPass) (table : List (Option Nat)) (places : List Nat)
    (count : Nat) : Prop where
  pass : after.pass = some before.handles
  framebuffers : after.framebuffers.length = numBuffers
  imageTable : after.imageTable = placeFrom table (before.handles + 1) places
  handles : after.handles = before.handles + 1 + places.length
  inside : ∀ place ∈ places, place < table.length
  swapchain : before.swapchain.Renews after.swapchain count

/-- The places that initialising makes images for are places of the table. -/
theorem lt_of_mem_ownPlaces {window : Bool} {attachments : List Attachment} {place : Nat}
    (h : place ∈ ownPlaces window attachments) : place < numBuffers * attachments.length := by
  obtain ⟨attach, hattach, hmem⟩ := List.mem_flatMap.mp h
  obtain ⟨entry, hentry, hplace⟩ := List.mem_filterMap.mp hmem
  have hindex : entry.2 < attachments.length :=
    (List.getElem?_eq_some_iff.mp (List.mem_zipIdx_iff_getElem?.mp hentry)).1
  have hattach' := List.mem_range'_1.mp hattach
  unfold ownPlace at hplace
  split at hplace
  · cases hplace
  · cases hplace
    exact Nat.mul_lt_mul_of_le_of_lt (by omega) hindex (by decide)

/-- Without a window the first attachment's place is used three times. -/
theorem nodup_ownPlaces_iff {attachments : List Attachment} :
    (ownPlaces false attachments).Nodup ↔ attachments = [] := by
  constructor
  · intro hnodup
    cases attachments with
    | nil => rfl
    | cons first others =>
        have hfirst : ∀ attach, 0 ∈ (first :: others).zipIdx.filterMap (ownPlace false attach) :=
          fun attach => List.mem_filterMap.mpr ⟨(first, 0), by simp [List.zipIdx_cons],
            by simp [ownPlace]⟩
        have hdisjoint := (List.nodup_flatMap.mp hnodup).2
        have htwo : 2 ∈ List.range' 2 (numBuffers - 1) := by decide
        exact absurd (hfirst 2) (List.rel_of_pairwise_cons hdisjoint htwo (hfirst 1))
  · rintro rfl
    exact List.nodup_nil

/-- The last attachment of a window has no place for an image of its own when it is for colour. -/
theorem ownPlaces_concat (others : List Attachment) {last : Attachment}
    (hlast : last.format ≠ .d24UnormS8Uint) :
    ownPlaces true (others ++ [last]) = ownPlaces true others := by
  unfold ownPlaces
  congr 1
  funext attach
  have hnone : ownPlace true attach (last, others.length) = none := by simp [ownPlace, hlast]
  simp [List.zipIdx_append, hnone]

variable {driver : Driver} {renderPass after : RenderPass}

/-- `RenderPass::initialize( device )` makes a render pass, framebuffers and images, and no
swapchain. -/
theorem initializeDevice_initialises (renderPass : RenderPass) (device : Nat) :
    renderPass.Initialises (renderPass.initializeDevice device) renderPass.resizedTable
      (ownPlaces renderPass.swapchain.initialized renderPass.attachments) 0 := by
  obtain ⟨htable, hhandles, hlength⟩ := makeFramebuffers_places
    ({ renderPass with device := some device } : RenderPass).makeRenderPass
  obtain ⟨_, _, _, hframe⟩ := makeFramebuffers_frame
    ({ renderPass with device := some device } : RenderPass).makeRenderPass
  refine ⟨?_, hlength, htable, hhandles, fun place hplace => ?_, ?_⟩
  · unfold initializeDevice
    rw [hframe]
    rfl
  · rw [resizedTable, List.length_map, List.takeD_length]
    exact lt_of_mem_ownPlaces hplace
  · unfold initializeDevice
    rw [hframe]
    exact Swapchain.renews_zero rfl rfl rfl

/-- `RenderPass::initialize( device, window_id )` up to the first acquire. -/
theorem prepareWindow_initialises (driver : Driver) {others : List Attachment}
    {last : Attachment} (hsplit : renderPass.attachments = others ++ [last])
    (device windowId : Nat)
    (hformat : renderPass.swapchain.surfaceFormat ≠ .d24UnormS8Uint) :
    ∃ prepared, renderPass.prepareWindow driver device windowId = some prepared ∧
      prepared.swapchain = renderPass.swapchain.initializeSwapchain driver ∧
      renderPass.Initialises prepared renderPass.resizedTable (ownPlaces true others) 1 := by
  refine ⟨_, prepareWindow_eq driver hsplit device windowId, ?_⟩
  have hmade := Swapchain.renews_initializeSwapchain driver renderPass.swapchain
  generalize hmade' : (renderPass.windowed driver device windowId others last).makeRenderPass = made
  have hplaces : ownPlaces made.swapchain.initialized made.attachments = ownPlaces true others := by
    subst hmade'
    exact ownPlaces_concat others (hmade.format hformat)
  -- resizing depends on the number of attachments alone
  have hresized : made.resizedTable = renderPass.resizedTable := by
    subst hmade'
    simp [resizedTable, hsplit, makeRenderPass, windowed]
  obtain ⟨htable, hhandles, hlength⟩ := makeFramebuffers_places made
  obtain ⟨_, _, _, hframe⟩ := makeFramebuffers_frame made
  have hswapchain : made.makeFramebuffers.swapchain =
      renderPass.swapchain.initializeSwapchain driver := by
    rw [hframe, ← hmade']
    rfl
  rw [hplaces] at htable hhandles
  rw [hresized] at htable
  refine ⟨hswapchain, ?_, hlength, ?_, ?_, fun place hplace => ?_, hswapchain ▸ hmade⟩
  · rw [hframe, ← hmade']
    rfl
  · rw [htable, ← hmade']
    rfl
  · rw [hhandles, ← hmade']
    rfl
  · have hlt := lt_of_mem_ownPlaces hplace
    rw [resizedTable, List.length_map, List.takeD_length, hsplit, List.length_append]
    exact Nat.lt_of_lt_of_le hlt (Nat.mul_le_mul_left _ (Nat.le_add_right _ _))

/-- `RenderPass::initialize( device, window_id )` makes a render pass, framebuffers and images, and
some swapchains. -/
theorem initializeWindow_initialises {device windowId : Nat}
    (h : renderPass.initializeWindow driver device windowId = .ok after)
    (hformat : renderPass.swapchain.surfaceFormat ≠ .d24UnormS8Uint) :
    ∃ count, renderPass.Initialises after renderPass.resizedTable
        (ownPlaces true renderPass.attachments.dropLast) count ∧ 1 ≤ count ∧
      (count = 1 ↔ ¬ renderPass.swapchain.AcquireChanged driver) := by
  by_cases hattached : renderPass.attachments = []
  · simp [initializeWindow, prepareWindow, hattached] at h
  obtain ⟨others, last, hsplit⟩ := exists_attachments_concat hattached
  obtain ⟨prepared, hprepared, hswapchain, hdone⟩ :=
    prepareWindow_initialises driver hsplit device windowId hformat
  unfold initializeWindow at h
  simp only [hprepared, hswapchain] at h
  rw [hsplit, List.dropLast_concat]
  split at h
  · cases h
  · next swapchain answer hacquire =>
      cases h
      -- one swapchain more when the surface has changed at the first acquire
      have hmore : ∀ more : Nat,
          (renderPass.swapchain.initializeSwapchain driver).Renews swapchain more →
          renderPass.Initialises { prepared with swapchain := swapchain }
            renderPass.resizedTable (ownPlaces true others) (1 + more) := fun more hrenews =>
        ⟨hdone.pass, hdone.framebuffers, hdone.imageTable, hdone.handles, hdone.inside,
          hdone.swapchain.trans (hswapchain ▸ hrenews)⟩
      rcases Swapchain.acquire_renews hacquire with ⟨hchanged, -, hrenews⟩ | ⟨hsame, -, hrenews⟩
      · exact ⟨2, hmore 1 hrenews, by decide, iff_of_false (by decide) fun hsame => hsame hchanged⟩
      · exact ⟨1, hmore 0 hrenews, by decide, iff_of_true rfl hsame⟩

/-- The recovery of `present` makes all anew, with at least one swapchain, where the render pass was
cleared before. -/
theorem recreate_initialises {recreated : Bool}
    (h : renderPass.recreate driver = .ok (after, recreated))
    (hformat : renderPass.swapchain.surfaceFormat ≠ .d24UnormS8Uint) :
    recreated = true ∧ ∃ count, 1 ≤ count ∧ renderPass.cleared.Initialises after
      renderPass.cleared.resizedTable (ownPlaces true renderPass.attachments.dropLast) count := by
  rw [recreate_eq] at h
  cases hopened : renderPass.cleared.initializeWindow driver (renderPass.device.getD 0)
      renderPass.windowId with
  | error failure =>
      rw [hopened] at h
      cases h
  | ok opened =>
      rw [hopened] at h
      cases h
      obtain ⟨count, hinitialises, hpos, -⟩ := initializeWindow_initialises hopened hformat
      exact ⟨rfl, count, hpos, hinitialises⟩

/-- **The two ends of `present`.** Nothing is made, or all is made anew, with two swapchains at
least. -/
theorem present_cases {recreated : Bool}
    (h : renderPass.present driver = .ok (after, recreated))
    (hformat : renderPass.swapchain.surfaceFormat ≠ .d24UnormS8Uint) :
    (recreated = false ∧ after = { renderPass with swapchain := after.swapchain } ∧
        renderPass.swapchain.Renews after.swapchain 0 ∧
        (renderPass.swapchain.initialized = true →
          ¬ renderPass.swapchain.SubmitChanged driver ∧
            ¬ renderPass.swapchain.AcquireChanged driver)) ∨
      (recreated = true ∧ renderPass.swapchain.initialized = true ∧
        (renderPass.swapchain.SubmitChanged driver ∨ renderPass.swapchain.AcquireChanged driver) ∧
        ∃ count, 2 ≤ count ∧ renderPass.Initialises after renderPass.cleared.resizedTable
          (ownPlaces true renderPass.attachments.dropLast) count) := by
  unfold present at h
  by_cases hinit : renderPass.swapchain.initialized = true
  swap
  · rw [if_neg hinit] at h
    cases h
    exact Or.inl ⟨rfl, rfl, Swapchain.renews_zero rfl rfl rfl, fun hyes => absurd hyes hinit⟩
  rw [if_pos hinit] at h
  -- a swapchain is made before the recovery, and others in it
  have hrecover : ∀ swapchain : Swapchain, renderPass.swapchain.Renews swapchain 1 →
      { renderPass with swapchain := swapchain }.recreate driver = .ok (after, recreated) →
      recreated = true ∧ ∃ count, 2 ≤ count ∧ renderPass.Initialises after
        renderPass.cleared.resizedTable (ownPlaces true renderPass.attachments.dropLast) count := by
    intro swapchain hrenews hrecreate
    obtain ⟨hrecreated, count, hpos, hdone⟩ :=
      recreate_initialises hrecreate (hrenews.format hformat)
    exact ⟨hrecreated, 1 + count, by omega, hdone.pass, hdone.framebuffers, hdone.imageTable,
      hdone.handles, hdone.inside, hrenews.trans hdone.swapchain⟩
  split at h
  · cases h
  · next submitted hsubmit =>
      obtain ⟨-, ⟨hchanged, -, hrenews⟩ | ⟨-, hanswer, -⟩⟩ := Swapchain.submit_renews hsubmit
      · obtain ⟨hrecreated, hdone⟩ := hrecover submitted hrenews h
        exact Or.inr ⟨hrecreated, hinit, Or.inl hchanged, hdone⟩
      · cases hanswer
  · next submitted answer hother hsubmit =>
      obtain ⟨hacquires, ⟨-, rfl, -⟩ | ⟨hsame, rfl, hrenews⟩⟩ := Swapchain.submit_renews hsubmit
      · exact absurd rfl hother
      have hacquire : submitted.AcquireChanged driver ↔
          renderPass.swapchain.AcquireChanged driver := by
        rw [Swapchain.AcquireChanged, hacquires, Swapchain.AcquireChanged]
      split at h
      · cases h
      · next acquired hacquired =>
          obtain ⟨hchanged, -, hrenews'⟩ | ⟨-, hanswer, -⟩ := Swapchain.acquire_renews hacquired
          · obtain ⟨hrecreated, hdone⟩ := hrecover acquired
              (by simpa using hrenews.trans hrenews') h
            exact Or.inr ⟨hrecreated, hinit, Or.inr (hacquire.mp hchanged), hdone⟩
          · cases hanswer
      · next acquired answer hother' hacquired =>
          cases h
          obtain ⟨-, rfl, -⟩ | ⟨hsame', -, hrenews'⟩ := Swapchain.acquire_renews hacquired
          · exact absurd rfl hother'
          · exact Or.inl ⟨rfl, rfl, hrenews.trans hrenews',
              fun _ => ⟨hsame, fun hchanged => hsame' (hacquire.mpr hchanged)⟩⟩

end RenderPass

end Nyx
