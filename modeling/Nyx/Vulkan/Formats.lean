/-! # Formats

The formats of images, in the words of the library and of Vulkan.

* **`ImageFormat`**, **`VkFormat`** — the two enumerations.
* **`Vulkan.convertFormat`**, **`Vulkan.convertVkFormat`** — the conversions between them. -/

namespace Nyx

/-- `vk::Format`, as far as the render pass compares and the swapchain selects it. -/
inductive VkFormat
  | undefined | b8g8r8a8Srgb | d24UnormS8Uint | other (code : Nat)
  deriving DecidableEq, Repr

namespace VkFormat

/-! The other formats that the library names, by their numbers. -/

@[match_pattern] abbrev r8Srgb : VkFormat := .other 15
@[match_pattern] abbrev r8g8b8Srgb : VkFormat := .other 29
@[match_pattern] abbrev b8g8r8Srgb : VkFormat := .other 36
@[match_pattern] abbrev r8g8b8a8Srgb : VkFormat := .other 43
@[match_pattern] abbrev r32Sint : VkFormat := .other 99
@[match_pattern] abbrev r32Sfloat : VkFormat := .other 100
@[match_pattern] abbrev r32g32b32Sint : VkFormat := .other 105
@[match_pattern] abbrev r32g32b32Sfloat : VkFormat := .other 106
@[match_pattern] abbrev r32g32b32a32Sint : VkFormat := .other 108
@[match_pattern] abbrev r32g32b32a32Sfloat : VkFormat := .other 109
@[match_pattern] abbrev d32Sfloat : VkFormat := .other 126

end VkFormat

/-- `nyx::ImageFormat`: the formats that the library names. -/
inductive ImageFormat
  | r8 | r32i | r32f | rgb8 | bgr8 | rgb32i | rgb32f | rgba8 | bgra8 | rgba32i | rgba32f | d32f
  deriving DecidableEq, Repr

/-- `Vulkan::convert( nyx::ImageFormat )`; the depth format of 32 bits becomes one of 24 bits with a
stencil. -/
def Vulkan.convertFormat : ImageFormat → VkFormat
  | .r8 => .r8Srgb
  | .rgb8 => .r8g8b8Srgb
  | .bgr8 => .b8g8r8Srgb
  | .rgba8 => .r8g8b8a8Srgb
  | .bgra8 => .b8g8r8a8Srgb
  | .r32i => .r32Sint
  | .rgb32i => .r32g32b32Sint
  | .rgba32i => .r32g32b32a32Sint
  | .r32f => .r32Sfloat
  | .rgb32f => .r32g32b32Sfloat
  | .rgba32f => .r32g32b32a32Sfloat
  | .d32f => .d24UnormS8Uint

/-- `Vulkan::convert( vk::Format )`; what it has no case for becomes `RGB8`. -/
def Vulkan.convertVkFormat : VkFormat → ImageFormat
  | .r8Srgb => .r8
  | .r8g8b8Srgb => .rgb8
  | .b8g8r8Srgb => .bgr8
  | .r8g8b8a8Srgb => .rgba8
  | .b8g8r8a8Srgb => .bgra8
  | .r32Sint => .r32i
  | .r32g32b32Sint => .rgb32i
  | .r32g32b32a32Sint => .rgba32i
  | .r32Sfloat => .r32f
  | .r32g32b32Sfloat => .rgb32f
  | .r32g32b32a32Sfloat => .rgba32f
  | .d32Sfloat => .d32f
  | .d24UnormS8Uint => .d32f
  | _ => .rgb8

/-- A format of the library is found again behind the Vulkan format it is converted to. -/
@[simp] theorem Vulkan.convertVkFormat_convertFormat (format : ImageFormat) :
    Vulkan.convertVkFormat (Vulkan.convertFormat format) = format := by
  cases format <;> rfl

end Nyx
