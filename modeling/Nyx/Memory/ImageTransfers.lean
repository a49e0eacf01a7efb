import Mathlib.Logic.Function.Basic
import Nyx.Foundations.StepMachines
import Nyx.Memory.ResizedImages

/-! # Transfers between images

`vkg::Image` has copies of its own, apart from those of a chain. Each puts the images in the layouts
the copy needs with a barrier, and puts them back with another; what an image was in before is
remembered once.

* **`Command.Legal`**, **`LegalRun`** — commands that name the layouts the images are in.
* **`ImageFamily`**, **`ImageOp`**, **`ImageFamily.apply`** — some images and the methods of the
  source, with the commands that they submit.
* **`ImageFamily.Tracks`** — the invariant: every image knows the layout it is in.
* **`ImageFamily.legal_iff`** — all commands of a run are legal exactly when all its calls are
  lawful.
* **`ImageFamily.copies_restore`** — copies leave the layouts of the images as they were. -/

namespace Nyx

open Foundations

/-! ## Layouts on the device -/

/-- The layouts that the device has the images in, by their handles. -/
abbrev LayoutMap := Nat → VkImageLayout

/-- What a command does to the layouts: a barrier puts its image into the new one, and no other
command changes any. -/
def Command.layouts (actual : LayoutMap) : Command → LayoutMap
  | .imageBarrier barrier => Function.update actual barrier.image barrier.newLayout
  | _ => actual

/-- An image in this layout can be copied from, as Vulkan has it. -/
def VkImageLayout.Source (layout : VkImageLayout) : Prop :=
  layout = .transferSrcOptimal ∨ layout = .general

/-- An image in this layout can be copied to, as Vulkan has it. -/
def VkImageLayout.Target (layout : VkImageLayout) : Prop :=
  layout = .transferDstOptimal ∨ layout = .general

/-- A command names the layouts that the images are in, and they are ones it can be used with. A
barrier may start anywhere when it names no layout, but it has to end in one. -/
def Command.Legal (actual : LayoutMap) : Command → Prop
  | .imageBarrier barrier =>
      (barrier.oldLayout = .undefined ∨ barrier.oldLayout = actual barrier.image) ∧
        barrier.newLayout ≠ .undefined
  | .copyImage src srcLayout dst dstLayout _ =>
      (srcLayout = actual src ∧ srcLayout.Source) ∧ dstLayout = actual dst ∧ dstLayout.Target
  | .copyBufferToImage _ dst layout _ => layout = actual dst ∧ layout.Target
  | .copyImageToBuffer src layout _ _ => layout = actual src ∧ layout.Source
  | _ => True

/-- The layouts that some commands leave, executed one after another. -/
def layoutsAfter (actual : LayoutMap) (commands : List Command) : LayoutMap :=
  commands.foldl Command.layouts actual

/-- Commands that are legal one after the other, each in the layouts that the ones before left. -/
def LegalRun : LayoutMap → List Command → Prop
  | _, [] => True
  | actual, command :: commands => command.Legal actual ∧ LegalRun (command.layouts actual) commands

/-- With one command more, a run is legal when it was before and the command is legal in the layouts
that it left. -/
theorem legalRun_concat (actual : LayoutMap) (commands : List Command) (command : Command) :
    LegalRun actual (commands ++ [command]) ↔
      LegalRun actual commands ∧ command.Legal (layoutsAfter actual commands) := by
  induction commands generalizing actual with
  | nil => simp [LegalRun, layoutsAfter]
  | cons first commands ih => simp [LegalRun, layoutsAfter, ih, and_assoc]

/-! ## Images -/

/-- What a `vkg::Image` keeps, its memory apart, and the layout that it keeps beside the current
one. -/
structure OwnImage where
  handle : Nat
  width : Nat
  height : Nat
  layers : Nat
  subresource : Subresource
  layout : VkImageLayout := .undefined
  oldLayout : VkImageLayout := .undefined
  deriving DecidableEq, Repr

/-- Some images that were initialised, and the commands they submitted. -/
structure ImageFamily (n : Nat) where
  images : Fin n → OwnImage
  /-- How many handles were made. -/
  made : Nat
  commands : List Command := []

namespace ImageFamily

variable {n : Nat}

/-- New images with these widths, heights and layers, with handles of their own and in no layout. -/
def start (sizes : Fin n → Nat × Nat × Nat) : ImageFamily n where
  images := fun i => ⟨i, (sizes i).1, (sizes i).2.1, (sizes i).2.2, ⟨0, (sizes i).2.2⟩, .undefined,
    .undefined⟩
  made := n

/-- A command is submitted behind the ones before. -/
def emit (family : ImageFamily n) (command : Command) : ImageFamily n :=
  { family with commands := family.commands ++ [command] }

/-- `Image::transition`, which keeps the layout from before, and records a barrier. -/
def transition (family : ImageFamily n) (i : Fin n) (layout : ImageLayout) : ImageFamily n :=
  let image := family.images i
  let newLayout := Vulkan.convertLayout layout
  { family with
    images := Function.update family.images i
      -- the old layout is the one before the last transition only
      { image with oldLayout := image.layout, layout := newLayout } }.emit
    (.imageBarrier ⟨image.layout, newLayout, image.handle, image.layers⟩)

/-- `Image::revertLayout`, which goes back to the layout before the last transition. -/
def revertLayout (family : ImageFamily n) (i : Fin n) : ImageFamily n :=
  if (family.images i).oldLayout ≠ .undefined then
    -- the layout is converted to the library's enumeration and back, which may lose it
    family.transition i (Vulkan.convertVkLayout (family.images i).oldLayout)
  else family

/-- `Image::copy( src, queue )`, for an image: transitions there and back around a copy of what both
have. -/
def copyImage (family : ImageFamily n) (dst src : Fin n) : ImageFamily n :=
  let target := family.images dst
  let source := family.images src
  let extent : Extent3D :=
    { width := min target.width source.width
      height := min target.height source.height
      depth := min target.layers source.layers }
  let region : ImageCopy :=
    { extent := extent
      srcOffset := 0
      dstOffset := 0
      srcSubresource := source.subresource
      dstSubresource := target.subresource }
  let family := family.transition dst (Vulkan.convertVkLayout .transferDstOptimal)
  let family := family.transition src (Vulkan.convertVkLayout .transferSrcOptimal)
  let family := family.emit (.copyImage (family.images src).handle (family.images src).layout
    (family.images dst).handle (family.images dst).layout region)
  -- both images go back to the layouts they came with
  (family.revertLayout src).revertLayout dst

/-- `Image::copy( src, queue )`, for a buffer: a transition there and back around a copy of all of
the image. -/
def copyBuffer (family : ImageFamily n) (dst : Fin n) (src : BufferHandle) : ImageFamily n :=
  let target := family.images dst
  let region : BufferImageCopy :=
    { extent := ⟨target.width, target.height, target.layers⟩
      imageOffset := 0
      subresource := target.subresource }
  let family := family.transition dst .transferDst
  (family.emit (.copyBufferToImage src target.handle .transferDstOptimal region)).revertLayout dst

/-- `Image::reset` and `Image::initialize`, as `resize` calls them: the image is a new one. -/
def remake (family : ImageFamily n) (i : Fin n) (width height : Nat) : ImageFamily n :=
  { family with
    images := Function.update family.images i
      { family.images i with
        handle := family.made
        width := width
        height := height
        layers := 1
        subresource := { (family.images i).subresource with layerCount := 1 }
        -- the old layout is not reset
        layout := .undefined }
    made := family.made + 1 }

/-- `Image::resize`, which makes the image anew when both sizes differ, and lays it out as it
was. -/
def resize (family : ImageFamily n) (i : Fin n) (width height : Nat) : ImageFamily n :=
  let layout := (family.images i).layout
  -- an image that keeps one of its sizes is not resized
  if (family.images i).width ≠ width ∧ (family.images i).height ≠ height then
    (family.remake i width height).transition i (Vulkan.convertVkLayout layout)
  else family

end ImageFamily

/-- The methods of the images that submit commands, as inputs. -/
inductive ImageOp (n : Nat)
  | transition (image : Fin n) (layout : ImageLayout)
  | revertLayout (image : Fin n)
  | copyImage (dst src : Fin n)
  | copyBuffer (dst : Fin n) (src : BufferHandle)
  | resize (image : Fin n) (width height : Nat)

namespace ImageFamily

variable {n : Nat}

/-- One call on the images, with the commands that it submits. -/
def apply (family : ImageFamily n) : ImageOp n → ImageFamily n
  | .transition i layout => family.transition i layout
  | .revertLayout i => family.revertLayout i
  | .copyImage dst src => family.copyImage dst src
  | .copyBuffer dst src => family.copyBuffer dst src
  | .resize i width height => family.resize i width height

/-- The machine of the images; its calls do not fail. -/
def step (family : ImageFamily n) (op : ImageOp n) : Except Empty (ImageFamily n) :=
  .ok (family.apply op)

/-- One call after the other on the same images. -/
def applyAll (family : ImageFamily n) (ops : List (ImageOp n)) : ImageFamily n :=
  ops.foldl apply family

/-- The layouts that the device has all images in, after the commands that were submitted. -/
def actual (family : ImageFamily n) : LayoutMap :=
  layoutsAfter (fun _ => .undefined) family.commands

/-- All commands that were submitted are legal, in the layouts that they find. -/
def Legal (family : ImageFamily n) : Prop := LegalRun (fun _ => .undefined) family.commands

/-- A layout that is found again after a conversion there and back, other than the undefined one. -/
def Kept (layout : VkImageLayout) : Prop :=
  layout ≠ .undefined ∧ layout ≠ .depthStencilAttachmentOptimal

/-- The calls that submit legal commands only: no image is put in no layout, or back in one that is
lost in the conversion, and none is copied to itself. -/
def Lawful (family : ImageFamily n) : ImageOp n → Prop
  | .transition _ layout => layout ≠ .undefined
  | .revertLayout i => (family.images i).oldLayout ≠ .depthStencilAttachmentOptimal
  | .copyImage dst src =>
      dst ≠ src ∧ (family.images dst).layout ≠ .depthStencilAttachmentOptimal ∧
        (family.images src).layout ≠ .depthStencilAttachmentOptimal
  | .copyBuffer dst _ => (family.images dst).layout ≠ .depthStencilAttachmentOptimal
  | .resize i width height =>
      (family.images i).width ≠ width ∧ (family.images i).height ≠ height →
        Kept (family.images i).layout

instance (layout : VkImageLayout) : Decidable (Kept layout) := instDecidableAnd

/-- Whether a call is lawful can be decided from the state before it. -/
instance decidableLawful (family : ImageFamily n) : (op : ImageOp n) → Decidable (family.Lawful op)
  | .transition _ layout => inferInstanceAs (Decidable (layout ≠ .undefined))
  | .revertLayout i =>
      inferInstanceAs (Decidable ((family.images i).oldLayout ≠ .depthStencilAttachmentOptimal))
  | .copyImage dst src =>
      inferInstanceAs (Decidable (dst ≠ src ∧
        (family.images dst).layout ≠ .depthStencilAttachmentOptimal ∧
        (family.images src).layout ≠ .depthStencilAttachmentOptimal))
  | .copyBuffer dst _ =>
      inferInstanceAs (Decidable ((family.images dst).layout ≠ .depthStencilAttachmentOptimal))
  | .resize i width height =>
      inferInstanceAs (Decidable ((family.images i).width ≠ width ∧
        (family.images i).height ≠ height → Kept (family.images i).layout))

/-! ## The invariant -/

/-- **The invariant.** The images have different handles, and each keeps the layout it is in. -/
structure Tracks (family : ImageFamily n) : Prop where
  distinct : ∀ {i j}, (family.images i).handle = (family.images j).handle → i = j
  below : ∀ i, (family.images i).handle < family.made
  layout : ∀ i, family.actual (family.images i).handle = (family.images i).layout
  fresh : ∀ {handle}, family.made ≤ handle → family.actual handle = .undefined

variable {family : ImageFamily n}

/-- The layouts after one command more are what it makes of the layouts before. -/
theorem actual_emit (command : Command) :
    (family.emit command).actual = command.layouts family.actual := by
  simp [actual, emit, layoutsAfter]

/-- With one command more all commands are legal when they were before and this one is legal now. -/
theorem legal_emit (command : Command) :
    (family.emit command).Legal ↔ family.Legal ∧ command.Legal family.actual := by
  rw [Legal, emit, legalRun_concat]
  rfl

/-- Commands that are no barriers keep the images tracked, since they change no layout. -/
theorem Tracks.emit (h : family.Tracks) {command : Command}
    (hlayouts : command.layouts family.actual = family.actual) :
    (family.emit command).Tracks := by
  refine ⟨h.distinct, h.below, fun i => ?_, fun hmade => ?_⟩
  · rw [actual_emit, hlayouts]
    exact h.layout i
  · rw [actual_emit, hlayouts]
    exact h.fresh hmade

/-! ## Transitions -/

/-- After a transition the image has the new layout, with the one before kept beside it, and no
other image changes. -/
theorem images_transition (family : ImageFamily n) (i j : Fin n) (layout : ImageLayout) :
    (family.transition i layout).images j =
      if j = i then
        { family.images i with
          oldLayout := (family.images i).layout
          layout := Vulkan.convertLayout layout }
      else family.images j := by
  simp [transition, emit, Function.update_apply]

/-- A transition changes no handle of an image. -/
theorem handle_transition (family : ImageFamily n) (i j : Fin n) (layout : ImageLayout) :
    ((family.transition i layout).images j).handle = (family.images j).handle := by
  rw [images_transition]
  split
  · next heq => rw [heq]
  · rfl

/-- After a transition the device has the image in the new layout, and the others where they
were. -/
theorem actual_transition (family : ImageFamily n) (i : Fin n) (layout : ImageLayout) :
    (family.transition i layout).actual =
      Function.update family.actual (family.images i).handle (Vulkan.convertLayout layout) := by
  rw [transition, actual_emit]
  rfl

/-- After a transition the images are still tracked. -/
theorem Tracks.transition (h : family.Tracks) (i : Fin n) (layout : ImageLayout) :
    (family.transition i layout).Tracks := by
  refine ⟨fun {j k} hsame => ?_, fun j => ?_, fun j => ?_, fun {handle} hmade => ?_⟩
  · rw [handle_transition, handle_transition] at hsame
    exact h.distinct hsame
  · rw [handle_transition]
    exact h.below j
  · rw [actual_transition, handle_transition, images_transition]
    by_cases hj : j = i
    · rw [if_pos hj, hj, Function.update_self]
    · rw [if_neg hj, Function.update_of_ne fun hsame => hj (h.distinct hsame)]
      exact h.layout j
  -- handles that were not made are not those of the image
  · rw [actual_transition, Function.update_of_ne]
    · exact h.fresh hmade
    · exact fun hsame => absurd (h.below i) (Nat.not_lt.mpr (hsame ▸ hmade))

/-- A transition is legal exactly when it does not end in the undefined layout. -/
theorem Tracks.legal_transition (h : family.Tracks) (i : Fin n) (layout : ImageLayout) :
    (family.transition i layout).Legal ↔ family.Legal ∧ layout ≠ .undefined := by
  rw [ImageFamily.transition, legal_emit]
  refine and_congr_right fun _ => ?_
  have hold := h.layout i
  simp only [Command.Legal, ne_eq, Vulkan.convertLayout_eq_undefined_iff]
  -- the barrier starts in the tracked layout, which is the right one
  exact and_iff_right (Or.inr hold.symm)

/-! ## Reverting -/

/-- What is lost in the conversion to a layout of the library and back. -/
theorem convertVkLayout_ne_undefined_iff {layout : VkImageLayout} (h : layout ≠ .undefined) :
    Vulkan.convertVkLayout layout ≠ .undefined ↔ layout ≠ .depthStencilAttachmentOptimal := by
  -- depth attachments have no layout in the library that is converted back
  cases layout <;> simp [Vulkan.convertVkLayout] at h ⊢

/-- The layouts that the conversion to the library keeps come back from there as they were. -/
theorem convertLayout_convertVkLayout {layout : VkImageLayout} (h : Kept layout) :
    Vulkan.convertLayout (Vulkan.convertVkLayout layout) = layout := by
  obtain ⟨hdefined, hdepth⟩ := h
  cases layout <;> simp [Vulkan.convertVkLayout, Vulkan.convertLayout] at hdefined hdepth ⊢

/-- Reverting the layout of an image changes no other image. -/
theorem images_revertLayout_of_ne {i j : Fin n} (h : j ≠ i) :
    (family.revertLayout i).images j = family.images j := by
  rw [revertLayout]
  split
  · rw [images_transition, if_neg h]
  · rfl

/-- Reverting goes back to the layout before, unless there was none or it is lost. -/
theorem layout_revertLayout (i : Fin n) (h : Kept (family.images i).oldLayout) :
    ((family.revertLayout i).images i).layout = (family.images i).oldLayout := by
  rw [revertLayout, if_pos h.1, images_transition, if_pos rfl]
  exact convertLayout_convertVkLayout h

/-- After a reverted layout the images are still tracked. -/
theorem Tracks.revertLayout (h : family.Tracks) (i : Fin n) :
    (family.revertLayout i).Tracks := by
  rw [ImageFamily.revertLayout]
  split
  · exact h.transition i _
  · exact h

/-- Reverting is legal exactly when the layout before is not the one that the conversion turns into
an undefined one. -/
theorem Tracks.legal_revertLayout (h : family.Tracks) (i : Fin n) :
    (family.revertLayout i).Legal ↔
      family.Legal ∧ (family.images i).oldLayout ≠ .depthStencilAttachmentOptimal := by
  rw [ImageFamily.revertLayout]
  by_cases hold : (family.images i).oldLayout = .undefined
  · simp [hold]
  · rw [if_pos hold, h.legal_transition, convertVkLayout_ne_undefined_iff hold]

/-! ## Copies -/

@[simp] theorem images_emit (command : Command) :
    (family.emit command).images = family.images := rfl

/-- A copy from a buffer keeps the images tracked, and is legal exactly when the target can be put
back into its layout. -/
theorem Tracks.copyBuffer (h : family.Tracks) (dst : Fin n) (src : BufferHandle) :
    (family.copyBuffer dst src).Tracks ∧
      ((family.copyBuffer dst src).Legal ↔
        family.Legal ∧ (family.images dst).layout ≠ .depthStencilAttachmentOptimal) := by
  have hready := h.transition dst .transferDst
  have hlayout : (family.transition dst .transferDst).actual (family.images dst).handle =
      .transferDstOptimal := by
    rw [actual_transition, Function.update_self]
    rfl
  rw [ImageFamily.copyBuffer]
  refine ⟨(hready.emit rfl).revertLayout dst, ?_⟩
  rw [(hready.emit rfl).legal_revertLayout, legal_emit, h.legal_transition]
  have hold : ((family.transition dst .transferDst).images dst).oldLayout =
      (family.images dst).layout := by
    rw [images_transition, if_pos rfl]
  simp [Command.Legal, VkImageLayout.Target, hlayout, hold]

/-- The images just before one is copied to another, after the two transitions. -/
def readied (family : ImageFamily n) (dst src : Fin n) : ImageFamily n :=
  (family.transition dst (Vulkan.convertVkLayout .transferDstOptimal)).transition src
    (Vulkan.convertVkLayout .transferSrcOptimal)

/-- The target is in the layout for copies to it, with its own one kept, when it is not the
source. -/
theorem images_readied_dst (family : ImageFamily n) {dst src : Fin n} (h : dst ≠ src) :
    (family.readied dst src).images dst =
      { family.images dst with
        oldLayout := (family.images dst).layout
        layout := .transferDstOptimal } := by
  rw [readied, images_transition, if_neg h, images_transition, if_pos rfl]
  rfl

/-- The source is in the layout for copies from it. -/
theorem layout_readied_src (family : ImageFamily n) (dst src : Fin n) :
    ((family.readied dst src).images src).layout = .transferSrcOptimal := by
  rw [readied, images_transition, if_pos rfl]
  rfl

/-- When the source is not the target, the layout that it was in is kept beside that for copies. -/
theorem oldLayout_readied_src (family : ImageFamily n) {dst src : Fin n} (h : dst ≠ src) :
    ((family.readied dst src).images src).oldLayout = (family.images src).layout := by
  rw [readied, images_transition, if_pos rfl, images_transition, if_neg h.symm]

/-- A copy from an image keeps the images tracked, and is legal exactly when the two differ and both
can be put back into their layouts. -/
theorem Tracks.copyImage (h : family.Tracks) (dst src : Fin n) :
    (family.copyImage dst src).Tracks ∧
      ((family.copyImage dst src).Legal ↔
        family.Legal ∧ dst ≠ src ∧
          (family.images dst).layout ≠ .depthStencilAttachmentOptimal ∧
          (family.images src).layout ≠ .depthStencilAttachmentOptimal) := by
  have hreadied : (family.readied dst src).Tracks := (h.transition dst _).transition src _
  have hlegal : (family.readied dst src).Legal ↔ family.Legal := by
    rw [readied, (h.transition dst _).legal_transition, h.legal_transition]
    simp [Vulkan.convertVkLayout]
  have hcopied : ∀ region,
      ((family.readied dst src).emit (.copyImage ((family.readied dst src).images src).handle
        ((family.readied dst src).images src).layout ((family.readied dst src).images dst).handle
        ((family.readied dst src).images dst).layout region)).Tracks :=
    fun region => hreadied.emit rfl
  refine ⟨((hcopied _).revertLayout src).revertLayout dst, ?_⟩
  refine (((hcopied _).revertLayout src).legal_revertLayout dst).trans ?_
  rw [(hcopied _).legal_revertLayout, legal_emit, hlegal]
  have hsource := layout_readied_src family dst src
  by_cases hne : dst = src
  · -- the image is in the layout of a source, also as the target
    subst hne
    simp [Command.Legal, hsource, VkImageLayout.Target]
  · have htarget := images_readied_dst family hne
    rw [images_revertLayout_of_ne hne, images_emit, oldLayout_readied_src family hne, htarget]
    have hsrc := hreadied.layout src
    have hdst := hreadied.layout dst
    rw [hsource] at hsrc
    rw [htarget] at hdst
    simp only [Command.Legal, hsource, hsrc, hdst, VkImageLayout.Source, VkImageLayout.Target]
    simp only [ne_eq, hne, not_false_eq_true, true_and, true_or, and_true, and_self]
    rw [and_assoc]
    exact and_congr_right fun _ => and_comm

/-! ## Resizing -/

/-- An image that is made anew has a handle of its own, and the images are still tracked. -/
theorem Tracks.remake (h : family.Tracks) (i : Fin n) (width height : Nat) :
    (family.remake i width height).Tracks := by
  have hother : ∀ j, (family.images j).handle ≠ family.made := fun j => Nat.ne_of_lt (h.below j)
  refine ⟨fun {j k} hsame => ?_, fun j => ?_, fun j => ?_, fun {handle} hmade => ?_⟩
  · have hhandle : ∀ j, ((family.remake i width height).images j).handle =
        if j = i then family.made else (family.images j).handle := by
      intro j
      simp only [ImageFamily.remake, Function.update_apply]
      split <;> rfl
    rw [hhandle, hhandle] at hsame
    by_cases hj : j = i
    -- the new handle is none of the earlier ones
    · by_cases hk : k = i
      · exact hj.trans hk.symm
      · rw [if_pos hj, if_neg hk] at hsame
        exact absurd hsame.symm (hother k)
    · by_cases hk : k = i
      · rw [if_neg hj, if_pos hk] at hsame
        exact absurd hsame (hother j)
      · rw [if_neg hj, if_neg hk] at hsame
        exact h.distinct hsame
  · simp only [ImageFamily.remake, Function.update_apply]
    split
    · exact Nat.lt_succ_self _
    · exact Nat.lt_succ_of_lt (h.below j)
  · simp only [ImageFamily.remake, Function.update_apply]
    split
    · exact h.fresh (Nat.le_refl _)
    · exact h.layout j
  · exact h.fresh (Nat.le_of_succ_le hmade)

/-- Resizing keeps the images tracked, and is legal exactly when nothing changes or the layout of
the image is kept by the conversions. -/
theorem Tracks.resize (h : family.Tracks) (i : Fin n) (width height : Nat) :
    (family.resize i width height).Tracks ∧
      ((family.resize i width height).Legal ↔
        family.Legal ∧ ((family.images i).width ≠ width ∧ (family.images i).height ≠ height →
          Kept (family.images i).layout)) := by
  rw [ImageFamily.resize]
  by_cases hsize : (family.images i).width ≠ width ∧ (family.images i).height ≠ height
  · have hnew := h.remake i width height
    rw [if_pos hsize]
    -- the new image starts undefined and goes to the layout of the one before
    refine ⟨hnew.transition i _, ?_⟩
    rw [hnew.legal_transition]
    have hcommands : (family.remake i width height).Legal ↔ family.Legal := Iff.rfl
    rw [hcommands]
    refine and_congr_right fun _ => ?_
    rw [imp_iff_right hsize]
    cases (family.images i).layout <;> simp [Vulkan.convertVkLayout, Kept]
  · rw [if_neg hsize]
    exact ⟨h, (and_iff_left fun hboth => absurd hboth hsize).symm⟩

/-! ## Runs -/

/-- **Step lemma.** A call keeps the invariant, and its commands are legal exactly when it is
lawful. -/
theorem Tracks.apply (h : family.Tracks) (op : ImageOp n) :
    (family.apply op).Tracks ∧ ((family.apply op).Legal ↔ family.Legal ∧ family.Lawful op) := by
  cases op with
  | transition i layout => exact ⟨h.transition i layout, h.legal_transition i layout⟩
  | revertLayout i => exact ⟨h.revertLayout i, h.legal_revertLayout i⟩
  | copyImage dst src => exact h.copyImage dst src
  | copyBuffer dst src => exact h.copyBuffer dst src
  | resize i width height => exact h.resize i width height

/-- A call that copies to an image, from another one or from a buffer. -/
def Copies : ImageOp n → Prop
  | .copyImage _ _ | .copyBuffer _ _ => True
  | _ => False

/-- A copy leaves the layout of an image as it was, if it was in one. -/
theorem layout_apply {op : ImageOp n} (hcopies : Copies op) (hlawful : family.Lawful op)
    {i : Fin n} (hi : (family.images i).layout ≠ .undefined) :
    ((family.apply op).images i).layout = (family.images i).layout := by
  cases op with
  | transition _ _ | revertLayout _ | resize _ _ _ => exact hcopies.elim
  | copyBuffer dst src =>
      rw [apply, copyBuffer]
      by_cases hdst : i = dst
      · subst hdst
        have hold : ((family.transition i .transferDst).images i).oldLayout =
            (family.images i).layout := by
          rw [images_transition, if_pos rfl]
        rw [layout_revertLayout]
        · exact hold
        · rw [images_emit, hold]
          exact ⟨hi, hlawful⟩
      · rw [images_revertLayout_of_ne hdst, images_emit, images_transition, if_neg hdst]
  | copyImage dst src =>
      obtain ⟨hne, hdst, hsrc⟩ := hlawful
      show (((((family.readied dst src).emit _).revertLayout src).revertLayout dst).images
        i).layout = _
      have htarget := images_readied_dst family hne
      by_cases hi' : i = dst
      · subst hi'
        rw [layout_revertLayout]
        · rw [images_revertLayout_of_ne hne, images_emit, htarget]
        · rw [images_revertLayout_of_ne hne, images_emit, htarget]
          exact ⟨hi, hdst⟩
      · rw [images_revertLayout_of_ne hi']
        by_cases hsource : i = src
        · subst hsource
          have hold := oldLayout_readied_src family hne
          rw [layout_revertLayout]
          · rw [images_emit, hold]
          · rw [images_emit, hold]
            exact ⟨hi, hsrc⟩
        · rw [images_revertLayout_of_ne hsource, images_emit, readied, images_transition,
            if_neg hsource, images_transition, if_neg hi']

/-- **Copies put the layouts back.** However many lawful copies between the images and from buffers
are made, in any order, each image that was in a layout before is in it again afterwards. -/
theorem copies_restore (family : ImageFamily n) (ops : List (ImageOp n))
    (hcopies : ∀ op ∈ ops, Copies op) (hlawful : StepsMeet step Lawful family ops) (i : Fin n)
    (hi : (family.images i).layout ≠ .undefined) :
    ((family.applyAll ops).images i).layout = (family.images i).layout := by
  induction ops generalizing family with
  | nil => rfl
  | cons op ops ih =>
      obtain ⟨hop, hrest⟩ := hlawful
      have hfirst := layout_apply (hcopies op List.mem_cons_self) hop hi
      have hothers : ∀ op ∈ ops, Copies op := fun op hmem =>
        hcopies op (List.mem_cons_of_mem _ hmem)
      rw [← hfirst]
      exact ih (family.apply op) hothers (hrest _ rfl) (hfirst ▸ hi)

/-- An image is copied to another, which a buffer was copied to: both are back in the layouts that
they had. -/
theorem copies_restore_two :
    let family := (start fun _ : Fin 2 => (4, 4, 1)).applyAll
      [.transition 0 .shaderRead, .transition 1 .general]
    ((family.applyAll [.copyBuffer 0 (.array 0), .copyImage 1 0]).images 1).layout =
      (family.images 1).layout := by
  refine copies_restore _ [.copyBuffer 0 (.array 0), .copyImage 1 0] ?_ ?_ 1 ?_
  · simp [Copies]
  · decide
  · decide

end ImageFamily

end Nyx
