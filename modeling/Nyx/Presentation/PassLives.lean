import Nyx.Foundations.StepMachines
import Nyx.Presentation.ImagePlaces
import Nyx.Presentation.ImageTables

/-! # The lives of render passes

A render pass makes render passes, framebuffers, images of its own and swapchains when it is
initialised, and again whenever the surface of its window has changed. It destroys what it has when
it is reset. When the surface has changed it destroys the framebuffers and the render pass, and drops
its images and the old swapchain.

* **`RenderPass.addSubpass`**, **`RenderPass.reset`** — the operations around initialising.
* **`PassBooks`**, **`RenderPass.held`** — the ledgers of what was made, and what a render pass has.
* **`PassOp`**, **`LivePass.step`** — the operations, next to the ledgers.
* **`LivePass.Careful`** — an operation that loses nothing.
* **`LivePass.balanced_iff`** — everything was destroyed once or is still there exactly when no
  initialised render pass is initialised, no place is used twice, and no surface changes. -/

namespace Nyx

open Foundations

namespace RenderPass

/-- `RenderPass::addSubpass`, as far as attachments and the number of subpasses go. -/
def addSubpass (renderPass : RenderPass) (subpass : Subpass) : RenderPass :=
  let depth : List Attachment :=
    if subpass.depthStencilEnable then [⟨.d24UnormS8Uint, .depthStencilAttachmentOptimal⟩] else []
  { renderPass with
    attachments := renderPass.attachments ++ depth ++
      subpass.attachmentDeps.map Vulkan.convertAttachment
    subpasses :=
      if subpass.attachmentDeps = [] then renderPass.subpasses else renderPass.subpasses + 1 }

/-- The loop over the colour attachments of a subpass adds one description for each, and no
subpass. -/
theorem attachments_foldl_addColor (growth : Growth) (attachments : List NyxAttachment)
    (lists : RenderPassLists) :
    (attachments.foldl (RenderPassLists.addColor growth) lists).attachments =
        lists.attachments ++ attachments.map Vulkan.convertAttachment ∧
      (attachments.foldl (RenderPassLists.addColor growth) lists).subpasses = lists.subpasses := by
  induction attachments generalizing lists with
  | nil => simp
  | cons attachment attachments ih =>
      obtain ⟨hattachments, hsubpasses⟩ := ih (lists.addColor growth attachment)
      rw [List.foldl_cons, hattachments, hsubpasses, List.map_cons]
      simp [RenderPassLists.addColor]

/-- This is what `addSubpass` does to the vectors of a render pass. -/
theorem renderPass_addSubpass (growth : Growth) (lists : RenderPassLists) (subpass : Subpass) :
    (lists.addSubpass growth subpass).renderPass = lists.renderPass.addSubpass subpass := by
  obtain ⟨hattachments, hsubpasses⟩ := attachments_foldl_addColor growth subpass.attachmentDeps
    (if subpass.depthStencilEnable then lists.addDepth growth subpass.depthClear else lists)
  simp only [RenderPassLists.renderPass, RenderPassLists.addSubpass, hattachments, hsubpasses,
    addSubpass]
  by_cases hnone : subpass.attachmentDeps = [] <;> cases subpass.depthStencilEnable <;>
    simp [hnone, RenderPassLists.addDepth]

/-- `RenderPass::reset`, with `Swapchain::reset`: what the vectors held is dropped. -/
def reset (renderPass : RenderPass) : RenderPass :=
  { renderPass with
    attachments := []
    subpasses := 0
    images := []
    framebuffers := []
    pass := none
    -- what was acquired stays in the queue of the swapchain
    swapchain :=
      if renderPass.swapchain.initialized then
        { renderPass.swapchain with swapchain := none, images := 0 }
      else renderPass.swapchain }

end RenderPass

/-! ## The ledgers -/

/-- Something of each kind that a render pass makes. Framebuffers are named by the render pass they
are made for, and by their place. -/
structure PassHeld where
  passes : List Nat := []
  framebuffers : List (Nat × Nat) := []
  images : List Nat := []
  swapchains : List Nat := []

/-- What a render pass has at a time, of each kind that it makes. -/
def RenderPass.held (renderPass : RenderPass) : PassHeld where
  passes := renderPass.pass.toList
  framebuffers :=
    renderPass.pass.toList.flatMap fun pass =>
      (List.range renderPass.framebuffers.length).map (pass, ·)
  images := renderPass.imageTable.reduceOption
  swapchains := renderPass.swapchain.swapchain.toList

/-- A ledger for each kind of thing that a render pass makes. -/
structure PassBooks where
  passes : Ledger Nat := {}
  framebuffers : Ledger (Nat × Nat) := {}
  images : Ledger Nat := {}
  swapchains : Ledger Nat := {}

namespace PassBooks

/-- What an operation made, by the counters that number it: at most one render pass, its
framebuffers and then images, and any number of swapchains. -/
def create (books : PassBooks) (before after : RenderPass) : PassBooks :=
  let swapchains := books.swapchains.make (List.range' before.swapchain.creations
    (after.swapchain.creations - before.swapchain.creations))
  -- the numbers are given out in this order: a render pass, and then its images
  if before.handles < after.handles then
    { passes := books.passes.make [before.handles]
      framebuffers := books.framebuffers.make
        ((List.range RenderPass.numBuffers).map (before.handles, ·))
      images := books.images.make
        (List.range' (before.handles + 1) (after.handles - (before.handles + 1)))
      swapchains := swapchains }
  else { books with swapchains := swapchains }

/-- `present` destroys the framebuffers and the render pass when the surface has changed. -/
def recover (books : PassBooks) (held : PassHeld) : PassBooks :=
  { books with
    passes := books.passes.destroy held.passes
    framebuffers := books.framebuffers.destroy held.framebuffers }

/-- `reset` destroys the framebuffers, the images, the render pass and the swapchain. -/
def release (books : PassBooks) (held : PassHeld) : PassBooks where
  passes := books.passes.destroy held.passes
  framebuffers := books.framebuffers.destroy held.framebuffers
  images := books.images.destroy held.images
  swapchains := books.swapchains.destroy held.swapchains

/-- **All that was made was destroyed once, or is held.** -/
def Balanced (books : PassBooks) (held : PassHeld) : Prop :=
  books.passes.Balanced held.passes ∧ books.framebuffers.Balanced held.framebuffers ∧
    books.images.Balanced held.images ∧ books.swapchains.Balanced held.swapchains

/-- Whether all four ledgers are balanced can be decided. -/
instance decidableBalanced (books : PassBooks) (held : PassHeld) :
    Decidable (books.Balanced held) :=
  inferInstanceAs (Decidable (_ ∧ _ ∧ _ ∧ _))

end PassBooks

/-! ## Operations -/

/-- A render pass, with the ledgers of what it made and destroyed. -/
structure LivePass where
  renderPass : RenderPass := {}
  books : PassBooks := {}

/-- What is done to a render pass in its life: it is given subpasses, initialised in two forms,
presented and reset. -/
inductive PassOp
  | addSubpass (subpass : Subpass)
  | initializeDevice (device : Nat)
  | initializeWindow (device windowId : Nat)
  | present
  | reset
  deriving DecidableEq, Repr

/-- An operation that leaves `after` behind has made what the counters say. -/
def LivePass.become (live : LivePass) (after : RenderPass) : LivePass :=
  ⟨after, live.books.create live.renderPass after⟩

/-- One operation on a render pass, entered into the ledgers. -/
def LivePass.step (driver : Driver) (live : LivePass) : PassOp → Except FrameFailure LivePass
  | .addSubpass subpass => .ok { live with renderPass := live.renderPass.addSubpass subpass }
  | .initializeDevice device => .ok (live.become (live.renderPass.initializeDevice device))
  | .initializeWindow device windowId =>
      (live.renderPass.initializeWindow driver device windowId).map live.become
  | .present =>
      match live.renderPass.present driver with
      | .error failure => .error failure
      | .ok (after, recreated) =>
          let live :=
            -- before anything is made, all framebuffers and the render pass are destroyed
            if recreated then { live with books := live.books.recover live.renderPass.held }
            else live
          .ok (live.become after)
  | .reset => .ok ⟨live.renderPass.reset, live.books.release live.renderPass.held⟩

/-! ## What is asked of the operations -/

/-- A render pass without a window is initialised when it is not, and has no attachments. One with a
window is initialised when it is not, and no place is used for two of its depth attachments. No
surface ever changes. -/
def LivePass.Careful (driver : Driver) (live : LivePass) : PassOp → Prop
  | .initializeDevice _ => live.renderPass.pass = none ∧ live.renderPass.attachments = []
  | .initializeWindow _ _ =>
      live.renderPass.pass = none ∧
        (RenderPass.ownPlaces true live.renderPass.attachments.dropLast).Nodup ∧
        ¬ live.renderPass.swapchain.AcquireChanged driver
  | .present =>
      live.renderPass.swapchain.initialized = true →
        ¬ live.renderPass.swapchain.SubmitChanged driver ∧
          ¬ live.renderPass.swapchain.AcquireChanged driver
  | .addSubpass _ | .reset => True

/-! ## Ledgers of a render pass -/

/-- The counters of a render pass number what was made: all of it is below them. -/
structure PassBooks.Below (books : PassBooks) (renderPass : RenderPass) : Prop where
  passes : ∀ pass ∈ books.passes.made, pass < renderPass.handles
  framebuffers : ∀ framebuffer ∈ books.framebuffers.made, framebuffer.1 < renderPass.handles
  images : ∀ image ∈ books.images.made, image < renderPass.handles
  swapchains : ∀ swapchain ∈ books.swapchains.made, swapchain < renderPass.swapchain.creations

/-- The ledgers are sound, each for what is held of its kind. -/
structure PassBooks.Sound (books : PassBooks) (held : PassHeld) : Prop where
  passes : books.passes.Sound held.passes
  framebuffers : books.framebuffers.Sound held.framebuffers
  images : books.images.Sound held.images
  swapchains : books.swapchains.Sound held.swapchains

namespace PassBooks

variable {books : PassBooks} {held : PassHeld} {before after : RenderPass}
  {table : List (Option Nat)} {places : List Nat} {count : Nat}

/-- Swapchains are sound after some were made, and none is lost exactly when none was made, or there
was none and one was made. -/
theorem Sound.swapchains_iff (h : books.Sound held) (hbelow : books.Below before)
    (hrenews : before.swapchain.Renews after.swapchain count)
    (hheld : held.swapchains = before.swapchain.swapchain.toList) :
    let ledger := books.swapchains.make (List.range' before.swapchain.creations
      (after.swapchain.creations - before.swapchain.creations))
    ledger.Sound after.held.swapchains ∧
      (ledger.Balanced after.held.swapchains ↔
        books.swapchains.Balanced held.swapchains ∧
          (count ≠ 0 → held.swapchains = [] ∧ count = 1)) := by
  have hsub : after.swapchain.creations - before.swapchain.creations = count := by
    rw [hrenews.creations]
    omega
  have hfresh : ∀ n ∈ List.range' before.swapchain.creations count,
      n ∉ books.swapchains.made := fun n hn hmade =>
    Nat.not_lt.mpr (List.mem_range'_1.mp hn).1 (hbelow.swapchains n hmade)
  have hafter : after.held.swapchains = after.swapchain.swapchain.toList := rfl
  simp only [hsub]
  by_cases hzero : count = 0
  · subst hzero
    have hsame : after.held.swapchains = held.swapchains := by
      rw [hafter, hheld, hrenews.swapchain, if_pos rfl]
    rw [hsame]
    simpa [Ledger.make] using h.swapchains
  · have hlast : after.held.swapchains = [before.swapchain.creations + count - 1] := by
      rw [hafter, hrenews.swapchain, if_neg hzero, hrenews.creations]
      rfl
    have hmem : ∀ n ∈ after.held.swapchains,
        n ∈ List.range' before.swapchain.creations count := by
      intro n hn
      rw [hlast, List.mem_singleton] at hn
      rw [List.mem_range'_1]
      omega
    have hnodup : after.held.swapchains.Nodup := by
      simp [hlast]
    refine ⟨h.swapchains.make List.nodup_range' hfresh hnodup fun n hn => Or.inr (hmem n hn), ?_⟩
    rw [h.swapchains.balanced_renew_iff List.nodup_range' hfresh hnodup hmem]
    have hone : (∀ n ∈ List.range' before.swapchain.creations count,
        n ∈ after.held.swapchains) ↔ count = 1 := by
      rw [hlast]
      constructor
      · intro hall
        have hfirst := hall before.swapchain.creations (List.mem_range'_1.mpr (by omega))
        rw [List.mem_singleton] at hfirst
        omega
      · rintro rfl
        simp
    rw [hone]
    simp [hzero]

/-- What initialising makes, by the counters: a render pass, its framebuffers, an image for each
place, and swapchains. -/
theorem create_of_initialises (hinit : before.Initialises after table places count) :
    books.create before after =
      { passes := books.passes.make [before.handles]
        framebuffers := books.framebuffers.make
          ((List.range RenderPass.numBuffers).map (before.handles, ·))
        images := books.images.make (List.range' (before.handles + 1) places.length)
        swapchains := books.swapchains.make (List.range' before.swapchain.creations
          (after.swapchain.creations - before.swapchain.creations)) } := by
  have hlt : before.handles < after.handles := by
    rw [hinit.handles]
    omega
  have hlength : after.handles - (before.handles + 1) = places.length := by
    rw [hinit.handles]
    omega
  rw [create, if_pos hlt, hlength]

/-- What a render pass has after it was initialised: the render pass and the framebuffers that were
made last, and of its images those that no later one took the place of. -/
theorem held_of_initialises (hinit : before.Initialises after table places count) :
    after.held.passes = [before.handles] ∧
      after.held.framebuffers = (List.range RenderPass.numBuffers).map (before.handles, ·) ∧
      after.held.images = (placeFrom table (before.handles + 1) places).reduceOption := by
  refine ⟨?_, ?_, congrArg List.reduceOption hinit.imageTable⟩
  · simp only [RenderPass.held, hinit.pass, Option.toList_some]
  · simp only [RenderPass.held, hinit.pass, hinit.framebuffers, Option.toList_some,
      List.flatMap_singleton]

/-- The counters still number what was made after initialising, for they have gone on. -/
theorem Below.create (hbelow : books.Below before)
    (hinit : before.Initialises after table places count) :
    (books.create before after).Below after := by
  have hhandles := hinit.handles
  have hcreations := hinit.swapchain.creations
  rw [create_of_initialises hinit]
  constructor
  · refine List.forall_mem_append.mpr ⟨fun n hn => ?_, fun n hn => ?_⟩
    · exact Nat.lt_of_lt_of_le (hbelow.passes n hn) (by omega)
    · rw [List.mem_singleton] at hn
      omega
  · refine List.forall_mem_append.mpr ⟨fun n hn => ?_, fun n hn => ?_⟩
    · exact Nat.lt_of_lt_of_le (hbelow.framebuffers n hn) (by omega)
    · obtain ⟨index, -, rfl⟩ := List.mem_map.mp hn
      show before.handles < _
      omega
  · refine List.forall_mem_append.mpr ⟨fun n hn => ?_, fun n hn => ?_⟩
    · exact Nat.lt_of_lt_of_le (hbelow.images n hn) (by omega)
    · have hto := (List.mem_range'_1.mp hn).2
      omega
  · refine List.forall_mem_append.mpr ⟨fun n hn => ?_, fun n hn => ?_⟩
    · exact Nat.lt_of_lt_of_le (hbelow.swapchains n hn) (by omega)
    · have hto := (List.mem_range'_1.mp hn).2
      omega

/-- The ledger of render passes stays sound when one is made, and balanced exactly when there was
none before. -/
theorem Sound.passes_iff (h : books.Sound held) (hbelow : books.Below before) :
    (books.passes.make [before.handles]).Sound [before.handles] ∧
      ((books.passes.make [before.handles]).Balanced [before.handles] ↔
        books.passes.Balanced held.passes ∧ held.passes = []) := by
  refine h.passes.renew (List.nodup_singleton _) fun n hn hmade => ?_
  rw [List.mem_singleton] at hn
  exact Nat.lt_irrefl _ (hn ▸ hbelow.passes n hmade)

/-- The ledger of framebuffers stays sound when those of a render pass are made, and balanced
exactly when there were none before. -/
theorem Sound.framebuffers_iff (h : books.Sound held) (hbelow : books.Below before) :
    let framebuffers := (List.range RenderPass.numBuffers).map (before.handles, ·)
    (books.framebuffers.make framebuffers).Sound framebuffers ∧
      ((books.framebuffers.make framebuffers).Balanced framebuffers ↔
        books.framebuffers.Balanced held.framebuffers ∧ held.framebuffers = []) := by
  refine h.framebuffers.renew (List.nodup_range.map fun i j hij => congrArg Prod.snd hij)
    fun n hn hmade => ?_
  obtain ⟨index, -, rfl⟩ := List.mem_map.mp hn
  exact Nat.lt_irrefl _ (hbelow.framebuffers _ hmade)

/-- Of the images none is lost exactly when those from before keep their places, and no place is
used twice. -/
theorem Sound.images_iff (h : books.Sound held) (hbelow : books.Below before)
    (htable : table.reduceOption.Nodup) (himages : ∀ n ∈ table.reduceOption, n ∈ held.images)
    (hinside : ∀ place ∈ places, place < table.length) :
    let kept := (placeFrom table (before.handles + 1) places).reduceOption
    let ledger := books.images.make (List.range' (before.handles + 1) places.length)
    ledger.Sound kept ∧
      (ledger.Balanced kept ↔
        books.images.Balanced held.images ∧ (∀ n ∈ held.images, n ∈ kept) ∧ places.Nodup) := by
  intro kept ledger
  have hlt : ∀ n ∈ table.reduceOption, n < before.handles + 1 := fun n hn =>
    Nat.lt_succ_of_lt (hbelow.images n
      (h.images.mem n (List.mem_append_right _ (himages n hn))))
  have hfresh : ∀ n ∈ List.range' (before.handles + 1) places.length,
      n ∉ books.images.made := by
    intro n hn hmade
    have hfrom := (List.mem_range'_1.mp hn).1
    have hbefore := hbelow.images n hmade
    omega
  have hnodup : kept.Nodup := nodup_placeFrom htable hlt
  have hmem : ∀ n ∈ kept,
      n ∈ held.images ∨ n ∈ List.range' (before.handles + 1) places.length := fun n hn =>
    (mem_or_of_mem_placeFrom hn).imp_left (himages n)
  refine ⟨h.images.make List.nodup_range' hfresh hnodup hmem, ?_⟩
  rw [h.images.balanced_make_iff List.nodup_range' hfresh hnodup hmem,
    subset_placeFrom_iff hlt hinside]

/-- **Step lemma.** Initialising keeps the ledgers sound. It keeps them balanced exactly when no
render pass and no swapchain was there, no place is used twice, and at most one swapchain is made. -/
theorem Sound.create (h : books.Sound held) (hbelow : books.Below before)
    (hinit : before.Initialises after table places count) (htable : table.reduceOption.Nodup)
    (himages : ∀ n ∈ table.reduceOption, n ∈ held.images)
    (hswapchains : held.swapchains = before.swapchain.swapchain.toList) :
    (books.create before after).Sound after.held ∧ (books.create before after).Below after ∧
      ((books.create before after).Balanced after.held ↔
        books.Balanced held ∧ (held.passes = [] ∧ held.framebuffers = [] ∧
          (∀ n ∈ held.images, n ∈ after.held.images) ∧ places.Nodup ∧
          (count ≠ 0 → held.swapchains = [] ∧ count = 1))) := by
  obtain ⟨hpasses, hframebuffers, hkept⟩ := held_of_initialises hinit
  obtain ⟨hpass, hpassIff⟩ := h.passes_iff hbelow
  obtain ⟨hframe, hframeIff⟩ := h.framebuffers_iff hbelow
  obtain ⟨himage, himageIff⟩ := h.images_iff hbelow htable himages hinit.inside
  obtain ⟨hswapchain, hswapchainIff⟩ := h.swapchains_iff hbelow hinit.swapchain hswapchains
  refine ⟨?_, hbelow.create hinit, ?_⟩
  · rw [create_of_initialises hinit]
    exact ⟨hpasses ▸ hpass, hframebuffers ▸ hframe, hkept ▸ himage, hswapchain⟩
  · rw [create_of_initialises hinit, Balanced, hpasses, hframebuffers, hkept, hpassIff, hframeIff,
      himageIff, hswapchainIff]
    -- the ledgers on one side, the conditions on the other
    constructor
    · rintro ⟨⟨hpass, hnone⟩, ⟨hframe, hempty⟩, ⟨himage, hstay, hdistinct⟩, hswap, hfirst⟩
      exact ⟨⟨hpass, hframe, himage, hswap⟩, hnone, hempty, hstay, hdistinct, hfirst⟩
    · rintro ⟨⟨hpass, hframe, himage, hswap⟩, hnone, hempty, hstay, hdistinct, hfirst⟩
      exact ⟨⟨hpass, hnone⟩, ⟨hframe, hempty⟩, ⟨himage, hstay, hdistinct⟩, hswap, hfirst⟩

end PassBooks

/-! ## Runs -/

namespace LivePass

variable {driver : Driver} {live after : LivePass} {op : PassOp}

/-- **The invariant.** The ledgers are sound, and the counters number what was made. Without a render
pass there is nothing else, and the format of a surface is never that of depth. -/
structure Kept (live : LivePass) : Prop where
  sound : live.books.Sound live.renderPass.held
  below : live.books.Below live.renderPass
  blank : live.renderPass.pass = none → live.renderPass.images = [] ∧
    live.renderPass.framebuffers = [] ∧ live.renderPass.swapchain.swapchain = none
  format : live.renderPass.swapchain.surfaceFormat ≠ .d24UnormS8Uint

/-- A new render pass, with empty ledgers, meets the invariant. -/
theorem kept_new : Kept {} where
  sound := ⟨Ledger.sound_new, Ledger.sound_new, Ledger.sound_new, Ledger.sound_new⟩
  below := by constructor <;> exact fun _ hmem => absurd hmem List.not_mem_nil
  blank _ := ⟨rfl, rfl, rfl⟩
  format := VkFormat.noConfusion

/-- Without a render pass nothing at all is held. -/
theorem Kept.held_eq_new (h : Kept live) (hnone : live.renderPass.pass = none) :
    live.renderPass.held = {} := by
  obtain ⟨himages, -, hswapchain⟩ := h.blank hnone
  simp [RenderPass.held, RenderPass.imageTable, hnone, himages, hswapchain]

/-- Operations that make something keep the invariant, and keep the balance when nothing was there,
no place is used twice, and at most one swapchain is made. -/
theorem Kept.become {renderPass : RenderPass} {places : List Nat} {count : Nat} (h : Kept live)
    (hinit : live.renderPass.Initialises renderPass live.renderPass.resizedTable places count) :
    Kept (live.become renderPass) ∧
      ((live.become renderPass).books.Balanced renderPass.held ↔
        live.books.Balanced live.renderPass.held ∧ live.renderPass.pass = none ∧ places.Nodup ∧
          count ≤ 1) := by
  obtain ⟨htable, himages⟩ := RenderPass.nodup_resizedTable
    (List.nodup_append.mp h.sound.images.nodup).2.1
  obtain ⟨hsound, hbelow, hiff⟩ := h.sound.create h.below hinit htable himages rfl
  refine ⟨⟨hsound, hbelow, fun hnone => ?_, hinit.swapchain.format h.format⟩, ?_⟩
  · cases hinit.pass.symm.trans hnone
  · refine hiff.trans (and_congr_right fun _ => ?_)
    constructor
    · rintro ⟨hpasses, -, -, hdistinct, hcount⟩
      refine ⟨by simpa [RenderPass.held] using hpasses, hdistinct, ?_⟩
      by_cases hzero : count = 0
      · omega
      · exact Nat.le_of_eq (hcount hzero).2
    · rintro ⟨hnone, hdistinct, hcount⟩
      rw [h.held_eq_new hnone]
      exact ⟨rfl, rfl, fun _ hn => absurd hn List.not_mem_nil, hdistinct,
        fun hzero => ⟨rfl, by omega⟩⟩

/-- `present` that recovers keeps the invariant. The images and the old swapchain are lost. -/
theorem Kept.recover {renderPass : RenderPass} {places : List Nat} {count : Nat} (h : Kept live)
    (hcount : 2 ≤ count)
    (hinit : live.renderPass.Initialises renderPass live.renderPass.cleared.resizedTable places
      count) :
    Kept (LivePass.become ⟨live.renderPass, live.books.recover live.renderPass.held⟩ renderPass) ∧
      ¬ (LivePass.become ⟨live.renderPass, live.books.recover live.renderPass.held⟩
        renderPass).books.Balanced renderPass.held := by
  have hsound : (live.books.recover live.renderPass.held).Sound
      { live.renderPass.held with passes := [], framebuffers := [] } :=
    ⟨h.sound.passes.destroy, h.sound.framebuffers.destroy, h.sound.images, h.sound.swapchains⟩
  have hbelow : (live.books.recover live.renderPass.held).Below live.renderPass :=
    ⟨h.below.passes, h.below.framebuffers, h.below.images, h.below.swapchains⟩
  have htable : live.renderPass.cleared.resizedTable.reduceOption = [] := by
    have hsublist := RenderPass.reduceOption_takeD_sublist []
      (RenderPass.numBuffers * live.renderPass.attachments.length)
    exact List.eq_nil_of_sublist_nil hsublist
  obtain ⟨hsound', hbelow', hiff⟩ := hsound.create hbelow hinit
    (htable ▸ List.nodup_nil) (fun n hn => by simp [htable] at hn) rfl
  refine ⟨⟨hsound', hbelow', fun hnone => ?_, hinit.swapchain.format h.format⟩, fun hbalanced => ?_⟩
  · cases hinit.pass.symm.trans hnone
  -- two swapchains were made, so one of them is lost
  · obtain ⟨-, -, -, -, -, hswapchains⟩ := hiff.mp hbalanced
    have hone := (hswapchains (by omega)).2
    omega

/-- `reset` keeps the invariant, and the ledgers are balanced afterwards exactly when they were
before. -/
theorem Kept.reset (h : Kept live) :
    Kept ⟨live.renderPass.reset, live.books.release live.renderPass.held⟩ ∧
      ((live.books.release live.renderPass.held).Balanced live.renderPass.reset.held ↔
        live.books.Balanced live.renderPass.held) := by
  have hblank : live.renderPass.reset.swapchain.swapchain = none := by
    unfold RenderPass.reset
    dsimp only
    split
    · rfl
    · next hinit => simpa [Swapchain.initialized] using hinit
  have hcreations : live.renderPass.reset.swapchain.creations =
      live.renderPass.swapchain.creations := by
    unfold RenderPass.reset
    dsimp only
    split <;> rfl
  have hformat : live.renderPass.reset.swapchain.surfaceFormat =
      live.renderPass.swapchain.surfaceFormat := by
    unfold RenderPass.reset
    dsimp only
    split <;> rfl
  have hheld : live.renderPass.reset.held = {} := by
    rw [RenderPass.held, hblank]
    rfl
  refine ⟨⟨?_, ?_, fun _ => ⟨rfl, rfl, hblank⟩, hformat ▸ h.format⟩, ?_⟩
  · rw [hheld]
    exact ⟨h.sound.passes.destroy, h.sound.framebuffers.destroy, h.sound.images.destroy,
      h.sound.swapchains.destroy⟩
  · refine ⟨h.below.passes, h.below.framebuffers, h.below.images, ?_⟩
    rw [hcreations]
    exact h.below.swapchains
  · rw [hheld]
    exact and_congr Ledger.balanced_destroy_iff (and_congr Ledger.balanced_destroy_iff
      (and_congr Ledger.balanced_destroy_iff Ledger.balanced_destroy_iff))

/-- `present` keeps the invariant, and the balance unless the surface has changed. -/
theorem Kept.present {renderPass : RenderPass} {recreated : Bool} (h : Kept live)
    (hpresent : live.renderPass.present driver = .ok (renderPass, recreated))
    (hstep : step driver live .present = .ok after) :
    Kept after ∧ (after.books.Balanced after.renderPass.held ↔
      live.books.Balanced live.renderPass.held ∧ Careful driver live .present) := by
  simp only [step, hpresent] at hstep
  obtain ⟨rfl, hafter, hrenews, hsame⟩ | ⟨rfl, hinit, hchanged, count, hcount, hdone⟩ :=
    RenderPass.present_cases hpresent h.format
  · cases hstep
    -- the counters stay, so nothing is written to the ledgers
    have hhandles : renderPass.handles = live.renderPass.handles := by rw [hafter]
    have hswapchain : renderPass.swapchain.swapchain = live.renderPass.swapchain.swapchain := by
      rw [hrenews.swapchain, if_pos rfl]
    have hheld : renderPass.held = live.renderPass.held := by
      rw [hafter]
      simp only [RenderPass.held, RenderPass.imageTable, hswapchain]
    have hbooks : live.books.create live.renderPass renderPass = live.books := by
      simp [PassBooks.create, hhandles, hrenews.creations, Ledger.make]
    have hlive : (if false = true then
        { live with books := live.books.recover live.renderPass.held } else live) = live := rfl
    rw [hlive, LivePass.become, hbooks]
    refine ⟨⟨?_, ?_, ?_, hrenews.format h.format⟩, ?_⟩
    · exact hheld ▸ h.sound
    · refine ⟨?_, ?_, ?_, ?_⟩
      · exact hhandles ▸ h.below.passes
      · exact hhandles ▸ h.below.framebuffers
      · exact hhandles ▸ h.below.images
      · rw [hrenews.creations]
        exact h.below.swapchains
    · rw [hswapchain, hafter]
      exact h.blank
    · rw [hheld]
      exact (and_iff_left hsame).symm
  · cases hstep
    obtain ⟨hkept, hlost⟩ := h.recover hcount hdone
    refine ⟨hkept, iff_of_false hlost fun hcareful => ?_⟩
    obtain ⟨hsubmit, hacquire⟩ := hcareful.2 hinit
    exact hchanged.elim hsubmit hacquire

/-- **Step lemma.** Each operation keeps the invariant, and keeps the balance exactly when it is a
careful one. -/
theorem Kept.step (h : Kept live) (hstep : live.step driver op = .ok after) :
    Kept after ∧ (after.books.Balanced after.renderPass.held ↔
      live.books.Balanced live.renderPass.held ∧ Careful driver live op) := by
  cases op with
  | addSubpass subpass =>
      cases hstep
      exact ⟨⟨h.sound, ⟨h.below.passes, h.below.framebuffers, h.below.images, h.below.swapchains⟩,
        h.blank, h.format⟩, (and_iff_left trivial).symm⟩
  | initializeDevice device =>
      cases hstep
      obtain ⟨hkept, hiff⟩ := h.become
        (RenderPass.initializeDevice_initialises live.renderPass device)
      refine ⟨hkept, hiff.trans (and_congr_right fun _ => and_congr_right fun hnone => ?_)⟩
      have hwindow : live.renderPass.swapchain.initialized = false := by
        simp [Swapchain.initialized, (h.blank hnone).2.2]
      rw [hwindow, RenderPass.nodup_ownPlaces_iff]
      exact and_iff_left (Nat.zero_le 1)
  | initializeWindow device windowId =>
      obtain ⟨renderPass, hinit, rfl⟩ := exists_of_map_eq_ok hstep
      obtain ⟨count, hdone, hpos, hcount⟩ :=
        RenderPass.initializeWindow_initialises hinit h.format
      obtain ⟨hkept, hiff⟩ := h.become hdone
      refine ⟨hkept, hiff.trans (and_congr_right fun _ => and_congr_right fun _ =>
        and_congr_right fun _ => ?_)⟩
      rw [← hcount]
      omega
  | present =>
      cases hpresent : live.renderPass.present driver with
      | error failure => simp [step, hpresent] at hstep
      | ok result => exact h.present hpresent hstep
  | reset =>
      cases hstep
      obtain ⟨hkept, hiff⟩ := h.reset
      exact ⟨hkept, hiff.trans (and_iff_left trivial).symm⟩

/-- **Render passes are tidy exactly when they are initialised in turn and surfaces do not change.**
In every run, everything that a render pass made was destroyed once or is still there if and only if
it is never initialised while it is, without a window only without attachments, with a window only
when no two of its depth attachments use one place, and no surface ever changes. -/
theorem balanced_iff {ops : List PassOp} (hrun : runSteps (step driver) {} ops = .ok live) :
    live.books.Balanced live.renderPass.held ↔ StepsMeet (step driver) (Careful driver) {} ops := by
  have hnew : ({} : LivePass).books.Balanced ({} : LivePass).renderPass.held :=
    ⟨List.Perm.refl _, List.Perm.refl _, List.Perm.refl _, List.Perm.refl _⟩
  rw [runSteps_iff Kept (fun live => live.books.Balanced live.renderPass.held)
    (fun _ _ _ hkept hstep => hkept.step hstep) kept_new hrun]
  exact and_iff_right hnew

/-- A window with a depth test: the three images for depth are put in one place. -/
theorem balanced_iff_depth :
    let driver := Driver.inOrder 3 (by decide)
    let subpass : Subpass :=
      { attachmentDeps := [{ format := .rgba8, layout := .colorAttachment }]
        depthStencilEnable := true }
    let ops : List PassOp := [.addSubpass subpass, .initializeWindow 0 0, .present, .reset]
    ∃ live, runSteps (step driver) {} ops = .ok live ∧
      (live.books.Balanced live.renderPass.held ↔
        StepsMeet (step driver) (Careful driver) {} ops) ∧
      live.books.images = ⟨[1, 2, 3], [3]⟩ :=
  ⟨_, rfl, balanced_iff rfl, rfl⟩

end LivePass

end Nyx
