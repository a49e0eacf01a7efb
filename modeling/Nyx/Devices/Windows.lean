import Mathlib.Data.List.Induction
import Nyx.Devices.Bootstrap

/-! # Windows

`vkg::Vulkan` keeps a window for each id that was asked for. A window has a surface, on which the
queue for presenting is looked up.

* **`windowsAdded`** — the ids in the order in which they were first asked for.
* **`Library.windows_eq`** — in every run each window keeps the surface that was created for it, and
  no two share one. -/

namespace Nyx

open Foundations

/-- The ids of windows, with that of a call if it is a new one. -/
def LibraryCall.addTo (added : List Nat) : LibraryCall → List Nat
  | .addWindow id => if id ∈ added then added else added ++ [id]
  | _ => added

/-- The ids that some calls ask for, in the order of the first calls for them. -/
def windowsAdded (asked : List LibraryCall) : List Nat := asked.foldl LibraryCall.addTo []

namespace Library

variable (policy : RoomPolicy) (loader : VulkanLoader)

/-- Two libraries that know the same windows, and have made as many surfaces. -/
def SameWindows (lib other : Library) : Prop :=
  other.windows = lib.windows ∧ other.surfaces = lib.surfaces

/-- Initialising makes no window, and there is an instance afterwards. -/
theorem sameWindows_initializeLibrary (lib : Library) :
    lib.SameWindows (lib.initializeLibrary policy loader) ∧
      (lib.initializeLibrary policy loader).inst.initialized = true := by
  rw [initializeLibrary]
  by_cases hinit : lib.initialized = true
  · rw [if_pos hinit]
    have hinst : lib.inst.initialized = true := by
      rw [Library.initialized, Bool.and_eq_true] at hinit
      exact hinit.1
    exact ⟨⟨rfl, rfl⟩, hinst⟩
  · rw [if_neg hinit]
    exact ⟨⟨rfl, rfl⟩, rfl⟩

/-- Looking a device up makes no window and no surface. -/
theorem sameWindows_device (lib : Library) (id : Nat) : lib.SameWindows (lib.device id).1 := by
  rw [Library.device]
  split <;> exact ⟨rfl, rfl⟩

/-- Asking for a queue makes no window and no surface. -/
theorem sameWindows_queue (lib : Library) (gpu : Nat)
    (request : DeviceData → DeviceData × Option QueueData) :
    lib.SameWindows (lib.queue gpu request).1 := by
  have hframe := lib.sameWindows_device gpu
  unfold Library.queue
  generalize lib.device gpu = found at hframe ⊢
  obtain ⟨lib', index⟩ := found
  cases index <;> exact hframe

/-- Libraries that have the same windows as a third one have the same windows. -/
theorem SameWindows.trans {lib other third : Library} (h : lib.SameWindows other)
    (h' : other.SameWindows third) : lib.SameWindows third :=
  ⟨h'.1.trans h.1, h'.2.trans h.2⟩

/-- A window that is not known yet is added with a new surface, which has the next number. -/
theorem addWindow_of_new {lib : Library} {id : Nat} (h : lib.hasWindow id = false) :
    (lib.addWindow policy loader id).windows = lib.windows.insert id (lib.surfaces + 1) ∧
      (lib.addWindow policy loader id).surfaces = lib.surfaces + 1 := by
  obtain ⟨⟨hwindows, hsurfaces⟩, hinit⟩ := sameWindows_initializeLibrary policy loader lib
  rw [addWindow, if_neg (by simp [h])]
  simp [hinit, hwindows, hsurfaces]

/-- **The invariant.** The windows with these ids have the surfaces `1`, `2` and so on. -/
structure Numbers (lib : Library) (added : List Nat) : Prop where
  windows : ∀ id, lib.windows[id]? = if id ∈ added then some (added.idxOf id + 1) else none
  surfaces : lib.surfaces = added.length

variable {lib other : Library} {added : List Nat}

/-- A library that has the same windows and surfaces as another one has them numbered for the same
requests. -/
theorem Numbers.congr (h : lib.Numbers added) (hsame : lib.SameWindows other) :
    other.Numbers added := by
  refine ⟨?_, ?_⟩
  · rw [hsame.1]
    exact h.windows
  · rw [hsame.2]
    exact h.surfaces

/-- A library knows a window exactly when its id was asked for. -/
theorem Numbers.hasWindow_iff (h : lib.Numbers added) (id : Nat) :
    lib.hasWindow id = true ↔ id ∈ added := by
  rw [Library.hasWindow, Std.TreeMap.contains_eq_isSome_getElem?, h.windows]
  by_cases hmem : id ∈ added <;> simp [hmem]

/-- Adding a window keeps the numbering: a new one has the next surface, and one that is there keeps
its own. -/
theorem Numbers.addWindow (h : lib.Numbers added) (id : Nat) :
    (lib.addWindow policy loader id).Numbers (LibraryCall.addTo added (.addWindow id)) := by
  rw [LibraryCall.addTo]
  by_cases hmem : id ∈ added
  · rw [if_pos hmem, Library.addWindow, if_pos ((h.hasWindow_iff id).mpr hmem)]
    exact h
  · have hnew : lib.hasWindow id = false :=
      Bool.eq_false_iff.mpr fun hhas => hmem ((h.hasWindow_iff id).mp hhas)
    obtain ⟨hwindows, hsurfaces⟩ := addWindow_of_new policy loader hnew
    rw [if_neg hmem]
    refine ⟨fun k => ?_, ?_⟩
    · rw [hwindows, Std.TreeMap.getElem?_insert, h.windows, h.surfaces, List.idxOf_append]
      by_cases hk : id = k
      · subst hk
        simp [hmem]
      · have hcompare : ¬ compare id k = .eq := fun heq => hk (Std.compare_eq_iff_eq.mp heq)
        by_cases hkmem : k ∈ added <;> simp [hcompare, hkmem, Ne.symm hk]
    · rw [hsurfaces, h.surfaces, List.length_append]
      rfl

/-- **Step lemma.** Only `addWindow` changes the windows, and it keeps their numbering. -/
theorem Numbers.call (h : lib.Numbers added) (c : LibraryCall) :
    (lib.call policy loader c).Numbers (LibraryCall.addTo added c) := by
  have hinit := (sameWindows_initializeLibrary policy loader lib).1
  cases c with
  | addWindow id => exact h.addWindow policy loader id
  | initializeLibrary => exact h.congr hinit
  | useDevice gpu => exact h.congr (hinit.trans (sameWindows_device _ gpu))
  | deviceSynchronize gpu => exact h.congr (sameWindows_device lib gpu)
  | graphicsQueue gpu | computeQueue gpu => exact h.congr (hinit.trans (sameWindows_queue _ gpu _))
  | presentQueue window gpu =>
      refine h.congr ?_
      simp only [Library.call, Library.presentQueue]
      split
      · exact hinit
      · exact hinit.trans (sameWindows_queue _ gpu _)
  | createMemory gpu size flags filter =>
      refine h.congr ?_
      refine (lib.sameWindows_device gpu).trans ((sameWindows_device _ gpu).trans ?_)
      exact (sameWindows_initializeLibrary policy loader _).1
  | setApplicationName name | addInstanceExtension name | addDeviceExtension name
  | addValidationLayer name => exact h.congr ⟨rfl, rfl⟩

/-- **Each window has a surface of its own.** In every run of calls, the windows that are there are
those whose ids were asked for. The first call for an id creates a surface, with the next number,
and the window keeps it whatever is called later, also when it is asked for again. So different
windows have different surfaces. -/
theorem windows_eq (asked : List LibraryCall) (id : Nat) :
    let lib := ({} : Library).calls policy loader asked
    lib.windows[id]? =
        (if id ∈ windowsAdded asked then some ((windowsAdded asked).idxOf id + 1) else none) ∧
      lib.surfaces = (windowsAdded asked).length := by
  have hrun : (({} : Library).calls policy loader asked).Numbers (windowsAdded asked) := by
    induction asked using List.reverseRecOn with
    | nil => exact ⟨fun id => by simp [windowsAdded, Library.calls], rfl⟩
    | append_singleton asked c ih =>
        simp only [Library.calls, windowsAdded, List.foldl_append, List.foldl_cons,
          List.foldl_nil]
        exact ih.call policy loader c
  exact ⟨hrun.windows id, hrun.surfaces⟩

end Library

end Nyx
