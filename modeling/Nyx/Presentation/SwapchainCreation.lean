import Mathlib.Algebra.Group.Nat.Defs
import Mathlib.Data.List.Forall2
import Mathlib.Data.List.Induction
import Nyx.Presentation.Swapchains

/-! # Creating swapchains

`vkg::Swapchain::initialize` asks the surface what it offers and creates a swapchain from that. It
is called again, on the same object, whenever the surface has changed; what it found the last time
is still there then.

* **`Surface`** — what a surface answers, with what Vulkan promises of it; **`Surface.ofWindow`** is
  one that keeps the promises.
* **`SwapchainData`**, **`SwapchainData.initializeOn`** — `SwapchainData` with its helper methods.
* **`SwapchainCreateInfo.Valid`** — a swapchain that the surface can have.
* **`SwapchainData.valid_iff`** — in every run of initialisations a swapchain is valid exactly when
  the surface offers the one format, and room for one image more than it needs.
* **`SwapchainData.agrees`** — the presentation engine of a run, as `Swapchain` sees it. -/

namespace Nyx

/-! ## Surfaces -/

/-- `vk::ColorSpaceKHR`. -/
inductive ColorSpace
  | srgbNonlinear | other (code : Nat)
  deriving DecidableEq, Repr

/-- `vk::SurfaceFormatKHR`: a format, and the colours that it stands for. -/
structure SurfaceFormat where
  format : VkFormat := .undefined
  colorSpace : ColorSpace := .srgbNonlinear
  deriving DecidableEq, Repr

/-- `vk::PresentModeKHR`: how images are presented. -/
inductive PresentMode
  | immediate | mailbox | fifo | fifoRelaxed | other (code : Nat)
  deriving DecidableEq, Repr

/-- `vk::Extent2D`. -/
structure Extent2D where
  width : UInt32 := 0
  height : UInt32 := 0
  deriving DecidableEq, Repr

/-- `vk::SurfaceCapabilitiesKHR`, as far as it is read. -/
structure SurfaceCapabilities where
  minImageCount : UInt32 := 0
  /-- Zero is no bound. -/
  maxImageCount : UInt32 := 0
  currentExtent : Extent2D := {}
  minImageExtent : Extent2D := {}
  maxImageExtent : Extent2D := {}
  currentTransform : UInt32 := 0
  deriving DecidableEq, Repr

/-- One extent fits in another in both dimensions. -/
def Extent2D.Fits (extent other : Extent2D) : Prop :=
  extent.width ≤ other.width ∧ extent.height ≤ other.height

instance (extent other : Extent2D) : Decidable (extent.Fits other) := instDecidableAnd

/-- The extent that stands for none, `UINT32_MAX`, with which a surface leaves the choice to the
swapchain. -/
def undecided : UInt32 := 0xffffffff

/-- What a surface answers, and what Vulkan promises of the answers. -/
structure Surface where
  formats : List SurfaceFormat
  modes : List PresentMode
  capabilities : SurfaceCapabilities
  /-- All formats are defined. -/
  defined : ∀ format ∈ formats, format.format ≠ .undefined
  /-- `eFifo` is always there. -/
  fifo : .fifo ∈ modes
  /-- The bounds on extents leave room. -/
  bounds : capabilities.minImageExtent.Fits capabilities.maxImageExtent
  /-- The current extent is within them, if it is decided. -/
  current : capabilities.currentExtent.width ≠ undecided →
    capabilities.minImageExtent.Fits capabilities.currentExtent ∧
      capabilities.currentExtent.Fits capabilities.maxImageExtent

/-! ## Swapchains -/

/-- `vk::SwapchainCreateInfoKHR`, without what never changes: one layer, colour attachments, opaque,
exclusive. -/
structure SwapchainCreateInfo where
  minImageCount : UInt32
  imageFormat : VkFormat
  imageColorSpace : ColorSpace
  imageExtent : Extent2D
  preTransform : UInt32
  presentMode : PresentMode
  deriving DecidableEq, Repr

/-- `SwapchainData`, as far as it takes part in the creation. -/
structure SwapchainData where
  formats : List SurfaceFormat := []
  modes : List PresentMode := []
  capabilities : SurfaceCapabilities := {}
  surfaceFormat : SurfaceFormat := {}
  extent : Extent2D := {}
  /-- What all swapchains were created with, in order. -/
  created : List SwapchainCreateInfo := []

namespace SwapchainData

/-- `SwapchainData::findProperties`, which asks the surface for its formats, its capabilities and
its modes. -/
def findProperties (surface : Surface) (data : SwapchainData) : SwapchainData :=
  { data with
    formats := surface.formats
    capabilities := surface.capabilities
    modes := surface.modes }

/-- `SwapchainData::chooseExtent`: the extent of the surface, or else the one from before,
clamped. -/
def chooseExtent (data : SwapchainData) : SwapchainData :=
  let cap := data.capabilities
  if cap.currentExtent.width ≠ undecided then { data with extent := cap.currentExtent }
  else
    { data with
      extent :=
        -- the extent from before is clamped, whichever surface it was for
        { width := max cap.minImageExtent.width (min cap.maxImageExtent.width data.extent.width)
          height :=
            max cap.minImageExtent.height (min cap.maxImageExtent.height data.extent.height) } }

/-- `SwapchainData::format`: the last one that matches, or the one there was. -/
def format (value : VkFormat) (color : ColorSpace) (data : SwapchainData) : SwapchainData :=
  { data with
    surfaceFormat := data.formats.foldl
      (fun found format =>
        if format.format = value ∧ format.colorSpace = color then format else found)
      -- the format from before stays when none matches
      data.surfaceFormat }

/-- `SwapchainData::mode`: a mode that is wanted, if the surface has it, and else the one that every
surface has. -/
def mode (value : PresentMode) (data : SwapchainData) : PresentMode :=
  (data.modes.find? (· = value)).getD .fifo

/-- `SwapchainData::makeSwapchain`, which chooses a format and asks for one image more than the
least. -/
def makeSwapchain (data : SwapchainData) : SwapchainData :=
  let data := data.format .b8g8r8a8Srgb .srgbNonlinear
  let info : SwapchainCreateInfo :=
    -- the largest number of images is not looked at, and the sum is taken modulo `2 ^ 32`
    { minImageCount := data.capabilities.minImageCount + 1
      imageFormat := data.surfaceFormat.format
      imageColorSpace := data.surfaceFormat.colorSpace
      imageExtent := data.extent
      preTransform := data.capabilities.currentTransform
      presentMode := data.mode .immediate }
  { data with created := data.created ++ [info] }

/-- `Swapchain::initialize`, up to `makeSwapchain`: what the surface offers is looked up anew each
time. -/
def initializeOn (data : SwapchainData) (surface : Surface) : SwapchainData :=
  ((data.findProperties surface).chooseExtent).makeSwapchain

/-- An object that is initialised on one surface after the other. -/
def initializeAll (surfaces : List Surface) : SwapchainData := surfaces.foldl initializeOn {}

end SwapchainData

/-- A surface can have a swapchain that is created with this info: all of it is offered or within
its bounds. -/
structure SwapchainCreateInfo.Valid (surface : Surface) (info : SwapchainCreateInfo) : Prop where
  format : ⟨info.imageFormat, info.imageColorSpace⟩ ∈ surface.formats
  mode : info.presentMode ∈ surface.modes
  least : surface.capabilities.minImageCount ≤ info.minImageCount
  most : surface.capabilities.maxImageCount = 0 ∨
    info.minImageCount ≤ surface.capabilities.maxImageCount
  fits : surface.capabilities.minImageExtent.Fits info.imageExtent ∧
    info.imageExtent.Fits surface.capabilities.maxImageExtent

/-- A surface offers the format that is asked for, and one image more than it needs. -/
def Surface.Serves (surface : Surface) : Prop :=
  ⟨.b8g8r8a8Srgb, .srgbNonlinear⟩ ∈ surface.formats ∧
    surface.capabilities.minImageCount.toNat + 1 < 2 ^ 32 ∧
    (surface.capabilities.maxImageCount = 0 ∨
      surface.capabilities.minImageCount < surface.capabilities.maxImageCount)

instance (surface : Surface) : Decidable surface.Serves := inferInstanceAs (Decidable (_ ∧ _ ∧ _))

/-- The surface of a window of a given size, with the format that is asked for behind another one,
and from two images up. -/
def Surface.ofWindow (width height : UInt32) : Surface where
  formats := [⟨.r8g8b8a8Srgb, .srgbNonlinear⟩, ⟨.b8g8r8a8Srgb, .srgbNonlinear⟩]
  modes := [.fifo, .immediate]
  capabilities :=
    { minImageCount := 2
      currentExtent := ⟨width, height⟩
      minImageExtent := ⟨width, height⟩
      maxImageExtent := ⟨width, height⟩
      currentTransform := 1 }
  defined := by simp
  fifo := List.mem_cons_self
  bounds := ⟨UInt32.le_refl _, UInt32.le_refl _⟩
  current _ := ⟨⟨UInt32.le_refl _, UInt32.le_refl _⟩, UInt32.le_refl _, UInt32.le_refl _⟩

/-- A surface whose size is left to the swapchain, with one format only and exactly three images. -/
def Surface.undecidedSize : Surface where
  formats := [⟨.r8g8b8a8Srgb, .srgbNonlinear⟩]
  modes := [.mailbox, .fifo]
  capabilities :=
    { minImageCount := 3
      maxImageCount := 3
      currentExtent := ⟨undecided, undecided⟩
      minImageExtent := ⟨1, 1⟩
      maxImageExtent := ⟨4096, 4096⟩
      currentTransform := 1 }
  defined := by simp
  fifo := by simp
  bounds := by decide
  current h := absurd rfl h

namespace SwapchainData

/-! ## One creation -/

/-- The format that is asked for first, and used when the surface offers it. -/
def wanted : SurfaceFormat := ⟨.b8g8r8a8Srgb, .srgbNonlinear⟩

/-- The loop over the formats finds the wanted one when it is there. -/
theorem surfaceFormat_format (data : SwapchainData) :
    (data.format .b8g8r8a8Srgb .srgbNonlinear).surfaceFormat =
      if wanted ∈ data.formats then wanted else data.surfaceFormat := by
  have hloop : ∀ (formats : List SurfaceFormat) (found : SurfaceFormat),
      formats.foldl (fun found format =>
        if format.format = .b8g8r8a8Srgb ∧ format.colorSpace = .srgbNonlinear then format
        else found) found = if wanted ∈ formats then wanted else found := by
    intro formats
    induction formats with
    | nil => simp
    | cons format formats ih =>
        intro found
        rw [List.foldl_cons, ih]
        by_cases hformat : format = wanted
        · subst hformat
          simp [wanted]
        · have hother : ¬ (format.format = .b8g8r8a8Srgb ∧ format.colorSpace = .srgbNonlinear) := by
            rintro ⟨hvalue, hcolor⟩
            exact hformat (by rw [wanted, ← hvalue, ← hcolor])
          simp [hother, Ne.symm hformat]
  exact hloop data.formats data.surfaceFormat

/-- The mode that is used is one of the offered ones, if FIFO is among them. -/
theorem mode_mem (value : PresentMode) {data : SwapchainData} (hfifo : .fifo ∈ data.modes) :
    data.mode value ∈ data.modes := by
  rw [mode]
  cases hfound : data.modes.find? (· = value) with
  | none => exact hfifo
  | some found => exact List.mem_of_find?_eq_some hfound

/-- The smaller of two sizes is the smaller one as a number. -/
theorem toNat_min (a b : UInt32) : (min a b).toNat = min a.toNat b.toNat := by
  show (if a ≤ b then a else b).toNat = _
  split <;> rename_i h <;> simp only [UInt32.le_iff_toNat_le] at h <;> omega

/-- The larger of two sizes is the larger one as a number. -/
theorem toNat_max (a b : UInt32) : (max a b).toNat = max a.toNat b.toNat := by
  show (if a ≤ b then b else a).toNat = _
  split <;> rename_i h <;> simp only [UInt32.le_iff_toNat_le] at h <;> omega

/-- A size that is clamped is within the bounds, if these are in order. -/
theorem clamp_mem {lo hi : UInt32} (h : lo ≤ hi) (x : UInt32) :
    lo ≤ max lo (min hi x) ∧ max lo (min hi x) ≤ hi := by
  simp only [UInt32.le_iff_toNat_le, toNat_max, toNat_min] at h ⊢
  omega

/-- The extent that is chosen is one the surface can have: its own one, or a size within its
bounds. -/
theorem extent_chooseExtent (surface : Surface) (data : SwapchainData) :
    let extent := ((data.findProperties surface).chooseExtent).extent
    surface.capabilities.minImageExtent.Fits extent ∧
      extent.Fits surface.capabilities.maxImageExtent := by
  intro extent
  by_cases hcurrent : surface.capabilities.currentExtent.width ≠ undecided
  · have hextent : extent = surface.capabilities.currentExtent := by
      simp [extent, chooseExtent, findProperties, hcurrent]
    rw [hextent]
    exact surface.current hcurrent
  · obtain ⟨hwidth, hheight⟩ := surface.bounds
    have hw := clamp_mem hwidth data.extent.width
    have hh := clamp_mem hheight data.extent.height
    simp only [extent, chooseExtent, findProperties, hcurrent, if_false]
    exact ⟨⟨hw.1, hh.1⟩, ⟨hw.2, hh.2⟩⟩

/-- One image more than the least number is within the bounds exactly when it does not wrap around
and the most allows for more. -/
theorem count_iff (least most : UInt32) :
    least ≤ least + 1 ∧ (most = 0 ∨ least + 1 ≤ most) ↔
      least.toNat + 1 < 2 ^ 32 ∧ (most = 0 ∨ least < most) := by
  by_cases hsucc : least.toNat + 1 < 2 ^ 32
  · have hadd : (least + 1).toNat = least.toNat + 1 := by
      rw [UInt32.toNat_add, UInt32.toNat_one, Nat.mod_eq_of_lt hsucc]
    refine and_congr (iff_of_true ?_ hsucc) (or_congr_right ?_)
    · rw [UInt32.le_iff_toNat_le, hadd]
      exact Nat.le_succ _
    · rw [UInt32.le_iff_toNat_le, UInt32.lt_iff_toNat_lt, hadd, Nat.succ_le_iff]
  · -- the sum wraps around to zero
    have hbound := least.toNat_lt
    have hadd : (least + 1).toNat = 0 := by
      rw [UInt32.toNat_add, UInt32.toNat_one]
      omega
    refine iff_of_false (fun h => ?_) (fun h => hsucc h.1)
    have hleast := UInt32.le_iff_toNat_le.mp h.1
    omega

/-- The format is the one that is asked for, or there never was one. -/
def Settled (data : SwapchainData) : Prop :=
  data.surfaceFormat = wanted ∨ data.surfaceFormat.format = .undefined

/-- An initialisation takes the wanted format when the surface offers it, and leaves the one from
before otherwise. -/
theorem surfaceFormat_initializeOn (data : SwapchainData) (surface : Surface) :
    (data.initializeOn surface).surfaceFormat =
      if wanted ∈ surface.formats then wanted else data.surfaceFormat := by
  have hdata : ∀ data : SwapchainData, data.chooseExtent.formats = data.formats ∧
      data.chooseExtent.surfaceFormat = data.surfaceFormat := by
    intro data
    rw [chooseExtent]
    split <;> exact ⟨rfl, rfl⟩
  obtain ⟨hformats, hsurface⟩ := hdata (data.findProperties surface)
  exact (surfaceFormat_format _).trans (by rw [hformats, hsurface]; rfl)

/-- An initialisation on any surface keeps it that the format is the one that is asked for, or that
there never was one. -/
theorem Settled.initializeOn {data : SwapchainData} (h : data.Settled) (surface : Surface) :
    (data.initializeOn surface).Settled := by
  rw [Settled, surfaceFormat_initializeOn]
  split
  · exact Or.inl rfl
  · exact h

/-- What a swapchain is created with on a surface, by the fields of the object before. -/
def infoFor (data : SwapchainData) (surface : Surface) : SwapchainCreateInfo where
  minImageCount := surface.capabilities.minImageCount + 1
  imageFormat := (data.initializeOn surface).surfaceFormat.format
  imageColorSpace := (data.initializeOn surface).surfaceFormat.colorSpace
  imageExtent := ((data.findProperties surface).chooseExtent).extent
  preTransform := surface.capabilities.currentTransform
  presentMode := (data.findProperties surface).mode .immediate

/-- An initialisation creates one swapchain, with the info for its surface, behind those from
before. -/
theorem created_initializeOn (data : SwapchainData) (surface : Surface) :
    (data.initializeOn surface).created = data.created ++ [data.infoFor surface] := by
  have hdata : ∀ data : SwapchainData, data.chooseExtent.capabilities = data.capabilities ∧
      data.chooseExtent.modes = data.modes ∧ data.chooseExtent.created = data.created := by
    intro data
    rw [chooseExtent]
    split <;> exact ⟨rfl, rfl, rfl⟩
  obtain ⟨hcapabilities, hmodes, hcreated⟩ := hdata (data.findProperties surface)
  simp only [initializeOn, makeSwapchain, infoFor, format, mode, hcapabilities, hmodes, hcreated]
  rfl

/-- **Step lemma.** A swapchain is valid exactly when the surface serves it. -/
theorem valid_infoFor_iff {data : SwapchainData} (h : data.Settled) (surface : Surface) :
    (data.infoFor surface).Valid surface ↔ surface.Serves := by
  have hformat : (data.initializeOn surface).surfaceFormat ∈ surface.formats ↔
      wanted ∈ surface.formats := by
    rw [surfaceFormat_initializeOn]
    by_cases hoffers : wanted ∈ surface.formats
    · rw [if_pos hoffers]
    · rw [if_neg hoffers]
      refine iff_of_false (fun hmem => ?_) hoffers
      rcases h with hwanted | hundefined
      · exact hoffers (hwanted ▸ hmem)
      · exact surface.defined _ hmem hundefined
  have hcount := count_iff surface.capabilities.minImageCount surface.capabilities.maxImageCount
  constructor
  · intro hvalid
    exact ⟨hformat.mp hvalid.format, hcount.mp ⟨hvalid.least, hvalid.most⟩⟩
  · rintro ⟨hoffers, hserves⟩
    obtain ⟨hleast, hmost⟩ := hcount.mpr hserves
    exact ⟨hformat.mpr hoffers, mode_mem _ surface.fifo, hleast, hmost,
      extent_chooseExtent surface data⟩

/-! ## Runs -/

/-- A swapchain that was initialised on some surfaces and then on one more. -/
theorem initializeAll_concat (surfaces : List Surface) (surface : Surface) :
    initializeAll (surfaces ++ [surface]) = (initializeAll surfaces).initializeOn surface := by
  simp [initializeAll]

/-- Whatever surfaces an object was initialised on, its format is the one that is asked for, or it
never had one. -/
theorem settled_initializeAll (surfaces : List Surface) : (initializeAll surfaces).Settled := by
  induction surfaces using List.reverseRecOn with
  | nil => exact Or.inr rfl
  | append_singleton surfaces surface ih =>
      rw [initializeAll_concat]
      exact ih.initializeOn surface

/-- **When swapchains are valid.** An object is initialised on one surface after the other, or on
one whose answers change. Each time one swapchain is created. Its extent and its present mode are
always ones that the surface can have; all of it is valid exactly when the surface then offers
`eB8G8R8A8Srgb` with `eSrgbNonlinear`, and room for one image more than its least number. A format
that an earlier surface offered does not help. -/
theorem valid_iff (surfaces : List Surface) :
    List.Forall₂
      (fun surface info =>
        info.presentMode ∈ surface.modes ∧
          surface.capabilities.minImageExtent.Fits info.imageExtent ∧
          info.imageExtent.Fits surface.capabilities.maxImageExtent ∧
          (info.Valid surface ↔ surface.Serves))
      surfaces (initializeAll surfaces).created := by
  induction surfaces using List.reverseRecOn with
  | nil => exact List.Forall₂.nil
  | append_singleton surfaces surface ih =>
      rw [initializeAll_concat, created_initializeOn]
      refine List.rel_append ih (List.Forall₂.cons ?_ List.Forall₂.nil)
      obtain ⟨hleast, hmost⟩ := extent_chooseExtent surface (initializeAll surfaces)
      exact ⟨mode_mem _ surface.fifo, hleast, hmost,
        valid_infoFor_iff (settled_initializeAll surfaces) surface⟩

/-- A window is initialised on, then a surface without the format and without room, and the window
again. Only the swapchains on the window are valid, though each object that creates one has found
the format before. -/
theorem valid_iff_window :
    let surfaces := [Surface.ofWindow 1280 1024, .undecidedSize, .ofWindow 640 480]
    List.Forall₂
        (fun surface info =>
          info.presentMode ∈ surface.modes ∧
            surface.capabilities.minImageExtent.Fits info.imageExtent ∧
            info.imageExtent.Fits surface.capabilities.maxImageExtent ∧
            (info.Valid surface ↔ surface.Serves))
        surfaces (initializeAll surfaces).created ∧
      surfaces.map (fun surface => decide surface.Serves) = [true, false, true] :=
  ⟨valid_iff [.ofWindow 1280 1024, .undecidedSize, .ofWindow 640 480], by decide⟩

/-! ## The frames' view -/

/-- The presentation engine answers as the surfaces do, swapchain by swapchain. -/
structure Answers (driver : Driver) (surfaces : List Surface) : Prop where
  offers : ∀ before surface after, surfaces = before ++ surface :: after →
    driver.offersSrgb before.length = decide (wanted ∈ surface.formats)
  extent : ∀ before surface after, surfaces = before ++ surface :: after →
    let extent := (initializeAll (before ++ [surface])).extent
    driver.extent before.length = (extent.width.toNat, extent.height.toNat)

/-- What an initialisation takes from the presentation engine: the format and the count that it
shows for the new swapchain. -/
theorem seen_initializeSwapchain (driver : Driver) (seen : Swapchain) :
    (seen.initializeSwapchain driver).creations = seen.creations + 1 ∧
      (seen.initializeSwapchain driver).surfaceFormat =
        (if driver.offersSrgb seen.creations then .b8g8r8a8Srgb else seen.surfaceFormat) ∧
      (seen.initializeSwapchain driver).extent = driver.extent seen.creations :=
  ⟨rfl, rfl, rfl⟩

/-- **The frames see these swapchains.** When the presentation engine answers as the surfaces do,
the swapchain whose frames are modelled has the format and the extent that are found here. -/
theorem agrees (driver : Driver) (surfaces : List Surface) (h : Answers driver surfaces) :
    let seen := surfaces.foldl (fun swapchain _ => swapchain.initializeSwapchain driver)
      ({} : Swapchain)
    let data := initializeAll surfaces
    seen.creations = surfaces.length ∧ seen.surfaceFormat = data.surfaceFormat.format ∧
      seen.extent = (data.extent.width.toNat, data.extent.height.toNat) := by
  induction surfaces using List.reverseRecOn with
  | nil => exact ⟨rfl, rfl, rfl⟩
  | append_singleton surfaces surface ih =>
      have hbefore : Answers driver surfaces := by
        refine ⟨?_, ?_⟩
        · rintro before first after rfl
          exact h.offers before first (after ++ [surface]) (by simp)
        · rintro before first after rfl
          exact h.extent before first (after ++ [surface]) (by simp)
      obtain ⟨hcreations, hformat, -⟩ := ih hbefore
      have hoffers := h.offers surfaces surface [] rfl
      have hextent := h.extent surfaces surface [] rfl
      rw [List.foldl_append, List.foldl_cons, List.foldl_nil]
      generalize surfaces.foldl (fun swapchain _ => swapchain.initializeSwapchain driver)
        ({} : Swapchain) = seen at hcreations hformat
      obtain ⟨hcount, hsurface, hsize⟩ := seen_initializeSwapchain driver seen
      refine ⟨?_, ?_, ?_⟩
      · rw [hcount, hcreations, List.length_append]
        rfl
      · rw [hsurface, hcreations, hoffers, hformat, initializeAll_concat,
          surfaceFormat_initializeOn]
        by_cases hmem : wanted ∈ surface.formats
        · rw [if_pos hmem, decide_eq_true hmem, if_pos rfl, wanted]
        · rw [if_neg hmem, decide_eq_false hmem]
          rfl
      · rw [hsize, hcreations]
        exact hextent

end SwapchainData

end Nyx
