import Nyx.Memory.Images
import Nyx.Vulkan.Formats

/-! # Resizing images

`Image::resize` resets an image and initialises it again in another size, then has it go back to the
layout it had. It does so when both dimensions are new ones, and leaves the number of layers to the
default argument of `initialize`.

* **`TrackedImage`** — an image with its format and the layout before the current one.
* **`TrackedImage.initializeOn`**, **`TrackedImage.reset`**, **`TrackedImage.transition`**,
  **`TrackedImage.resize`** — the operations of the source.
* **`TrackedImage.ResizesTo`** — what a call of `resize` is documented to do.
* **`TrackedImage.resizesTo_iff`** — it does that exactly when both dimensions are the current ones,
  or neither is and there is one layer. -/

namespace Nyx

/-! ## Conversions there and back -/

/-- What a conversion to a layout of the library loses is lost once. -/
@[simp] theorem Vulkan.convertVkLayout_convertLayout_convertVkLayout (layout : VkImageLayout) :
    Vulkan.convertVkLayout (Vulkan.convertLayout (Vulkan.convertVkLayout layout)) =
      Vulkan.convertVkLayout layout := by
  cases layout <;> rfl

/-! ## The operations -/

/-- `ImageData`, with its format and its old layout, which `resize` reads. -/
structure TrackedImage extends ImageData where
  format : VkFormat := .r8g8b8a8Srgb
  oldLayout : VkImageLayout := .undefined
  deriving DecidableEq, Repr

namespace TrackedImage

/-- `Image::format`: the format of the image, as the library names it. -/
def nyxFormat (image : TrackedImage) : ImageFormat := Vulkan.convertVkFormat image.format

/-- `Image::layout`: the layout of the image, as the library names it. -/
def nyxLayout (image : TrackedImage) : ImageLayout := Vulkan.convertVkLayout image.layout

variable (required : Nat)

/-- `Image::initialize( device, format, width, height, num_layers )`, and whether it succeeded, when
Vulkan requires so much memory for the image. -/
def initializeOn (image : TrackedImage) (registry : Registry) (device : UInt32)
    (format : ImageFormat) (width height numLayers : UInt32) : Bool × TrackedImage × Registry :=
  let format := Vulkan.convertFormat format
  let (success, data, registry) :=
    image.toImageData.initializeOn required registry device width height numLayers
  (success, { image with toImageData := data, format := format }, registry)

/-- `Image::reset`, which destroys the image and leaves what is tracked of it. -/
def reset (image : TrackedImage) (registry : Registry) : TrackedImage × Registry :=
  let (data, registry) := image.toImageData.reset registry
  ({ image with toImageData := data }, registry)

/-- `Image::transition`, as far as it changes the image. -/
def transition (image : TrackedImage) (layout : ImageLayout) : TrackedImage :=
  { image with oldLayout := image.layout, layout := Vulkan.convertLayout layout }

/-- `Image::resize`, and what it returns. Whether the image could be initialised is not looked
at. -/
def resize (image : TrackedImage) (registry : Registry) (width height : UInt32) :
    Bool × TrackedImage × Registry :=
  let layout := image.layout
  if image.width ≠ width ∧ image.height ≠ height then
    let (cleared, registry) := image.reset registry
    -- the default argument is the number of layers
    let (_, resized, registry) := cleared.initializeOn required registry (cleared.device.getD 0)
      (Vulkan.convertVkFormat cleared.format) width height 1
    (true, resized.transition (Vulkan.convertVkLayout layout), registry)
  else (false, image, registry)

/-- The documented effect: the call returns whether a dimension is a new one, and the image has
these dimensions then, and its layers, format and layout still. -/
structure ResizesTo (image : TrackedImage) (registry : Registry) (w h : UInt32) : Prop where
  returns : (image.resize required registry w h).1 = true ↔ (w, h) ≠ (image.width, image.height)
  width : (image.resize required registry w h).2.1.width = w
  height : (image.resize required registry w h).2.1.height = h
  layers : (image.resize required registry w h).2.1.layers = image.layers
  format : (image.resize required registry w h).2.1.nyxFormat = image.nyxFormat
  layout : (image.resize required registry w h).2.1.nyxLayout = image.nyxLayout

/-! ## What they leave -/

variable (image : TrackedImage) (registry : Registry)

/-- Initialising takes the dimensions, the layers and the format over, with or without success. -/
theorem initializeOn_spec (device : UInt32) (format : ImageFormat) (w h numLayers : UInt32) :
    (image.initializeOn required registry device format w h numLayers).2.1.width = w ∧
      (image.initializeOn required registry device format w h numLayers).2.1.height = h ∧
      (image.initializeOn required registry device format w h numLayers).2.1.layers = numLayers ∧
      (image.initializeOn required registry device format w h numLayers).2.1.nyxFormat = format := by
  have hformat := Vulkan.convertVkFormat_convertFormat format
  simp only [initializeOn, ImageData.initializeOn, nyxFormat]
  -- whether the memory is given, and whether it is large enough
  split <;> split <;> exact ⟨rfl, rfl, rfl, hformat⟩

/-- **Resizing in both dimensions** leaves one layer, and the format and the layout as they
were. -/
theorem resize_of_ne {w h : UInt32} (hwidth : image.width ≠ w) (hheight : image.height ≠ h) :
    (image.resize required registry w h).1 = true ∧
      (image.resize required registry w h).2.1.width = w ∧
      (image.resize required registry w h).2.1.height = h ∧
      (image.resize required registry w h).2.1.layers = 1 ∧
      (image.resize required registry w h).2.1.nyxFormat = image.nyxFormat ∧
      (image.resize required registry w h).2.1.nyxLayout = image.nyxLayout := by
  have hmade := initializeOn_spec required (image.reset registry).1 (image.reset registry).2
    ((image.reset registry).1.device.getD 0) image.nyxFormat w h 1
  have hlayout := Vulkan.convertVkLayout_convertLayout_convertVkLayout image.layout
  rw [resize, if_pos ⟨hwidth, hheight⟩]
  -- the transition changes no more than layouts
  exact ⟨rfl, hmade.1, hmade.2.1, hmade.2.2.1, hmade.2.2.2, hlayout⟩

/-- With one of the dimensions as it is, `resize` does nothing and returns `false`. -/
theorem resize_of_eq {w h : UInt32} (heq : image.width = w ∨ image.height = h) :
    image.resize required registry w h = (false, image, registry) := by
  rw [resize, if_neg fun hboth => heq.elim hboth.1 hboth.2]

/-! ## When resizing is what it is documented to be -/

/-- **Resizing** does what it is documented to do exactly when both dimensions stay the same, or
both change and there is one layer. -/
theorem resizesTo_iff (w h : UInt32) :
    image.ResizesTo required registry w h ↔
      w = image.width ∧ h = image.height ∨
        w ≠ image.width ∧ h ≠ image.height ∧ image.layers = 1 := by
  by_cases heq : image.width = w ∨ image.height = h
  · have hnothing := image.resize_of_eq required registry heq
    constructor
    · intro hresizes
      have hwidth := hresizes.width
      have hheight := hresizes.height
      rw [hnothing] at hwidth hheight
      exact Or.inl ⟨hwidth.symm, hheight.symm⟩
    · rintro (⟨rfl, rfl⟩ | ⟨hwidth, hheight, -⟩)
      · refine ⟨?_, ?_, ?_, ?_, ?_, ?_⟩ <;> simp [hnothing]
      · exact absurd heq (not_or_intro (Ne.symm hwidth) (Ne.symm hheight))
  · obtain ⟨hwidth, hheight⟩ := not_or.mp heq
    obtain ⟨hreturns, hw, hh, hlayers, hformat, hlayout⟩ :=
      image.resize_of_ne required registry hwidth hheight
    constructor
    · intro hresizes
      exact Or.inr ⟨Ne.symm hwidth, Ne.symm hheight, hresizes.layers.symm.trans hlayers⟩
    · rintro (⟨rfl, -⟩ | ⟨-, -, hone⟩)
      · exact absurd rfl hwidth
      · refine ⟨iff_of_true hreturns ?_, hw, hh, hlayers.trans hone.symm, hformat, hlayout⟩
        intro hsame
        exact hwidth (congrArg Prod.fst hsame).symm

/-- An image of `1280` times `1024` is not resized to `1280` times `720`. -/
theorem not_resizesTo : ¬ ∀ (required : Nat) (image : TrackedImage)
    (registry : Registry) (w h : UInt32), image.initialized = true → 1 ≤ image.layers →
      image.ResizesTo required registry w h := by
  intro hall
  let image := ((({} : TrackedImage).initializeOn (1280 * 1024 * 4) {} 0 .rgba8 1280 1024 1).2.1)
  have hresizes := hall (1280 * 720 * 4) image {} 1280 720 (by decide) (by decide)
  exact absurd hresizes.height (by decide)

end TrackedImage

end Nyx
