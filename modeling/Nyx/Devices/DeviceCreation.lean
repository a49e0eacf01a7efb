import Nyx.Devices.Devices

/-! # Creating a device

What `DeviceData::generateDevice` gives to `createDevice`.

* **`DeviceData.priorities_read_iff`** — the priorities of all queues are read, exactly when no later
  family has more queues than the block had room for that was made for the first one.
* **`DeviceCall`**, **`DeviceData.calls`** — requests and initialisations, in any order.
* **`DeviceData.enabled_iff`** — a device that is initialised again has all that was requested so
  far, exactly when the driver lists no name twice. -/

namespace Nyx

open Foundations

namespace DeviceData

/-! ## Priorities -/

section

variable (policy : RoomPolicy)

/-- How many queues some families have, in their order. -/
def counts (families : List QueueFamily) : List Nat := families.map (·.prop.queueCount)

/-- The infos that the loop of `generateDevice` makes of some families. -/
def infosFrom (v : ReusedBlock UInt32) : List (QueueFamily × Nat) → List DeviceQueueCreateInfo
  | [] => []
  | (family, index) :: entries =>
      let count := family.prop.queueCount
      let filled := v.refill policy 0 onePriority count
      ⟨index, count, filled.data⟩ :: infosFrom filled entries

/-- The loop of `generateDevice` adds an info for each family, and fills one vector of priorities
again and again. -/
theorem foldl_queueInfo (entries : List (QueueFamily × Nat))
    (infos : List DeviceQueueCreateInfo) (v : ReusedBlock UInt32) :
    entries.foldl (queueInfo policy) (infos, v) =
      (infos ++ infosFrom policy v entries,
        v.refillAll policy 0 onePriority (counts (entries.map Prod.fst))) := by
  induction entries generalizing infos v with
  | nil => simp [infosFrom, counts]
  | cons entry entries ih =>
      simp only [List.foldl_cons, queueInfo, ih]
      simp [infosFrom, counts]

/-- The priorities behind an info are those of its queues. -/
def Readable (v : ReusedBlock UInt32) (info : DeviceQueueCreateInfo) : Prop :=
  v.readBlock info.pQueuePriorities info.queueCount =
    some (List.replicate info.queueCount onePriority)

variable {policy}

/-- While the first block has room for all families, the priorities that the infos point to can all
be read. -/
theorem readable_of_room {v : ReusedBlock UInt32} {entries : List (QueueFamily × Nat)}
    (hcounts : ∀ n ∈ counts (entries.map Prod.fst), 0 < n)
    (hroom : ∀ n ∈ counts (entries.map Prod.fst), n ≤ v.capacity) :
    ∀ info ∈ infosFrom policy v entries,
      Readable (v.refillAll policy 0 onePriority (counts (entries.map Prod.fst))) info := by
  induction entries generalizing v with
  | nil => simp [infosFrom]
  | cons entry entries ih =>
      obtain ⟨hpos, hcounts⟩ := List.forall_mem_cons.mp hcounts
      obtain ⟨hfits, hroom⟩ := List.forall_mem_cons.mp hroom
      -- the block of the first family is the one that there was
      have hcapacity := v.capacity_refill policy 0 onePriority entry.1.prop.queueCount
      rw [if_pos hfits] at hcapacity
      rw [← hcapacity] at hroom
      intro info hinfo
      rcases List.mem_cons.mp hinfo with rfl | hinfo
      · exact (v.readBlock_refillAll_iff policy 0 onePriority hpos _).mpr hroom
      · exact ih hcounts hroom info hinfo

/-- All infos are read exactly when there is room for all families but the first one in the block
that the first one has. -/
theorem readable_iff {v : ReusedBlock UInt32} {entry : QueueFamily × Nat}
    {entries : List (QueueFamily × Nat)}
    (hcounts : ∀ n ∈ counts ((entry :: entries).map Prod.fst), 0 < n) :
    (∀ info ∈ infosFrom policy v (entry :: entries),
        Readable (v.refillAll policy 0 onePriority (counts ((entry :: entries).map Prod.fst)))
          info) ↔
      ∀ n ∈ counts (entries.map Prod.fst),
        n ≤ (v.refill policy 0 onePriority entry.1.prop.queueCount).capacity := by
  obtain ⟨hpos, hcounts⟩ := List.forall_mem_cons.mp hcounts
  have hfirst := v.readBlock_refillAll_iff policy 0 onePriority hpos (counts (entries.map Prod.fst))
  constructor
  · intro h
    exact hfirst.mp (h _ List.mem_cons_self)
  · intro hroom info hinfo
    rcases List.mem_cons.mp hinfo with rfl | hinfo
    · exact hfirst.mpr hroom
    · exact readable_of_room hcounts hroom info hinfo

end

/-- What is read for the queues of the device that is made: for each info its family and count, and
the priorities that its pointer finds after the loop. -/
theorem queues_initializeOn (policy : RoomPolicy) (data : DeviceData) (p : PhysicalDevice)
    (id : Nat) {device : VkDevice} (h : (data.initializeOn policy p id).gpu = some device) :
    device.queues = (infosFrom policy {} p.families.zipIdx).map fun info =>
      ⟨info.queueFamilyIndex, info.queueCount,
        (({} : ReusedBlock UInt32).refillAll policy 0 onePriority (counts p.families)).readBlock
          info.pQueuePriorities info.queueCount⟩ := by
  cases h
  simp [findQueueFamilies, readQueues, foldl_queueInfo, List.zipIdx_map_fst]

/-- The counts of the families are the counts that the driver reported. -/
theorem counts_families (p : PhysicalDevice) :
    counts p.families = p.queueFamilies.map (·.queueCount) := by
  rw [counts, PhysicalDevice.families, List.map_map]
  conv_rhs => rw [← List.zipIdx_map_fst 0 p.queueFamilies, List.map_map]
  rfl

/-- The priorities of all queues of a new device are read when all infos are. -/
theorem priorities_iff_readable (policy : RoomPolicy) (data : DeviceData) (p : PhysicalDevice)
    (id : Nat) :
    (∀ device, (data.initializeOn policy p id).gpu = some device →
      ∀ queues ∈ device.queues,
        queues.priorities = some (List.replicate queues.count onePriority)) ↔
    ∀ info ∈ infosFrom policy {} p.families.zipIdx,
      Readable (({} : ReusedBlock UInt32).refillAll policy 0 onePriority (counts p.families))
        info := by
  constructor
  · intro h info hinfo
    refine h _ rfl ⟨info.queueFamilyIndex, info.queueCount, _⟩ ?_
    rw [queues_initializeOn policy data p id rfl]
    exact List.mem_map.mpr ⟨info, hinfo, rfl⟩
  · intro h device hdevice queues hqueues
    rw [queues_initializeOn policy data p id hdevice] at hqueues
    obtain ⟨info, hinfo, rfl⟩ := List.mem_map.mp hqueues
    exact h info hinfo

/-- **When the priorities are read.** Every queue family of the physical device has a queue. The
driver reads a priority for each queue of the new device, exactly when no family behind the first
one has more queues than the block has room for that was made for the first one: the pointers
of all families lead to this block. -/
theorem priorities_read_iff (policy : RoomPolicy) (data : DeviceData) (p : PhysicalDevice)
    (id : Nat) (hcounts : ∀ family ∈ p.queueFamilies, 0 < family.queueCount) :
    (∀ device, (data.initializeOn policy p id).gpu = some device →
      ∀ queues ∈ device.queues,
        queues.priorities = some (List.replicate queues.count onePriority)) ↔
    ∀ first rest, p.queueFamilies = first :: rest →
      ∀ family ∈ rest, family.queueCount ≤ policy.room 0 first.queueCount := by
  have hfst : p.families.zipIdx.map Prod.fst = p.families := List.zipIdx_map_fst 0 _
  have hvalues := counts_families p
  have hpositive : ∀ n ∈ counts p.families, 0 < n := by
    rw [hvalues]
    simpa using hcounts
  rw [priorities_iff_readable]
  cases hentries : p.families.zipIdx with
  | nil =>
      rw [hentries, List.map_nil] at hfst
      rw [← hfst] at hvalues
      have hnone : p.queueFamilies = [] := by simpa [counts] using hvalues.symm
      simp [infosFrom, hnone]
  | cons entry entries =>
      rw [hentries] at hfst
      rw [← hfst] at hpositive hvalues ⊢
      rw [readable_iff hpositive]
      -- the first family is that of the first entry
      cases hfamilies : p.queueFamilies with
      | nil => simp [hfamilies, counts] at hvalues
      | cons first rest =>
          rw [hfamilies, List.map_cons] at hvalues
          obtain ⟨hfirst, hrest⟩ := List.cons.inj hvalues
          have hpos : 0 < first.queueCount := hcounts first (by simp [hfamilies])
          -- a later family that needs more than this moves the block away from the first pointer
          have hroom : (({} : ReusedBlock UInt32).refill policy 0 onePriority
              first.queueCount).capacity = policy.room 0 first.queueCount := by
            rw [ReusedBlock.capacity_refill]
            exact if_neg (Nat.not_le.mpr hpos)
          rw [show counts (entries.map Prod.fst) = rest.map (·.queueCount) from hrest,
            show entry.1.prop.queueCount = first.queueCount from hfirst, hroom]
          simp

/-- Two families, of which the first one has more queues: its block has room for the second one, and
all priorities are read. -/
theorem priorities_read_iff_two :
    (∀ device, (({} : DeviceData).initializeOn .exact
        { queueFamilies := [⟨7, 16⟩, ⟨2, 8⟩] } 0).gpu = some device →
      ∀ queues ∈ device.queues,
        queues.priorities = some (List.replicate queues.count onePriority)) ↔
    ∀ first rest, ([⟨7, 16⟩, ⟨2, 8⟩] : List QueueFamilyProperties) = first :: rest →
      ∀ family ∈ rest, family.queueCount ≤ RoomPolicy.exact.room 0 first.queueCount :=
  priorities_read_iff .exact {} { queueFamilies := [⟨7, 16⟩, ⟨2, 8⟩] } 0 (by decide)

/-- The first family has one queue and the second one has four: the pointer of the first one leads
to a block that is gone. -/
example : (({} : DeviceData).initializeOn .exact
    { queueFamilies := [⟨7, 1⟩, ⟨2, 4⟩] } 0).gpu.map (·.queues.map (·.priorities)) =
      some [none, some [onePriority, onePriority, onePriority, onePriority]] := by
  decide

/-! ## Initialising again -/

end DeviceData

/-- What is asked of a device before and between its initialisations. -/
inductive DeviceCall
  | addExtension (name : String)
  | addValidationLayer (name : String)
  | initializeOn (id : Nat)
  deriving DecidableEq, Repr

namespace DeviceData

variable (policy : RoomPolicy) (p : PhysicalDevice)

/-- A call, on a device that is always initialised on one physical device. -/
def call (data : DeviceData) : DeviceCall → DeviceData
  | .addExtension name => data.addExtension name
  | .addValidationLayer name => data.addValidationLayer name
  | .initializeOn id => data.initializeOn policy p id

/-- One call after the other, in the order in which they are made. -/
def calls (data : DeviceData) (asked : List DeviceCall) : DeviceData :=
  asked.foldl (call policy p) data

end DeviceData

/-- The extensions that are requested by some calls, in order. -/
def extensionRequests (asked : List DeviceCall) : List String :=
  asked.filterMap fun
    | .addExtension name => some name
    | _ => none

/-- The validation layers that are requested by some calls, in order. -/
def layerRequests (asked : List DeviceCall) : List String :=
  asked.filterMap fun
    | .addValidationLayer name => some name
    | _ => none

namespace DeviceData

/-- The lists of a device stand for some requests: whatever is requested then, the same is
enabled. -/
structure StandsFor (p : PhysicalDevice) (data : DeviceData) (extensions layers : List String) :
    Prop where
  extensions : ∀ more, matchedNames p.extensions (data.extensionList ++ more) =
    matchedNames p.extensions (extensions ++ more)
  layers : ∀ more, matchedNames p.layers (data.layerList ++ more) =
    matchedNames p.layers (layers ++ more)

variable (policy : RoomPolicy) {p : PhysicalDevice} {data : DeviceData}

/-- **Step lemma.** A call adds what it requests to what the device stands for. -/
theorem StandsFor.call {extensions layers : List String} (hextensions : p.extensions.Nodup)
    (hlayers : p.layers.Nodup) (h : data.StandsFor p extensions layers) (asked : DeviceCall) :
    (data.call policy p asked).StandsFor p (extensions ++ extensionRequests [asked])
      (layers ++ layerRequests [asked]) := by
  cases asked with
  | addExtension name =>
      refine ⟨?_, ?_⟩
      · intro more
        simpa [DeviceData.call, addExtension, extensionRequests] using h.extensions (name :: more)
      · intro more
        simpa [DeviceData.call, addExtension, layerRequests] using h.layers more
  | addValidationLayer name =>
      refine ⟨?_, ?_⟩
      · intro more
        simpa [DeviceData.call, addValidationLayer, extensionRequests] using h.extensions more
      · intro more
        simpa [DeviceData.call, addValidationLayer, layerRequests] using h.layers (name :: more)
  | initializeOn id =>
      -- the lists become what was enabled of them
      refine ⟨?_, ?_⟩
      · intro more
        simp only [extensionRequests, List.filterMap_cons, List.filterMap_nil, List.append_nil]
        exact (matchedNames_matched_append hextensions _ more).trans (h.extensions more)
      · intro more
        simp only [layerRequests, List.filterMap_cons, List.filterMap_nil, List.append_nil]
        exact (matchedNames_matched_append hlayers _ more).trans (h.layers more)

/-- **Run lemma.** All calls together add what they request to what the device stands for. -/
theorem StandsFor.calls {extensions layers : List String} (hextensions : p.extensions.Nodup)
    (hlayers : p.layers.Nodup) (h : data.StandsFor p extensions layers)
    (asked : List DeviceCall) :
    (data.calls policy p asked).StandsFor p (extensions ++ extensionRequests asked)
      (layers ++ layerRequests asked) := by
  induction asked generalizing data extensions layers with
  | nil => simpa [extensionRequests, layerRequests, DeviceData.calls] using h
  | cons first asked ih =>
      have hrest := ih (StandsFor.call policy hextensions hlayers h first)
      rw [List.append_assoc, List.append_assoc] at hrest
      have hsplit : extensionRequests [first] ++ extensionRequests asked =
          extensionRequests (first :: asked) ∧
          layerRequests [first] ++ layerRequests asked = layerRequests (first :: asked) := by
        cases first <;> exact ⟨rfl, rfl⟩
      rwa [hsplit.1, hsplit.2] at hrest

/-- A device that was just initialised has enabled those extensions and layers of its driver that
are on its lists, each as often as it is there. -/
theorem enabled_initializeOn (policy : RoomPolicy) (p : PhysicalDevice) (data : DeviceData)
    (id : Nat) :
    (data.initializeOn policy p id).gpu.map (fun device => (device.extensions, device.layers)) =
      some (matchedNames p.extensions data.extensionList,
        matchedNames p.layers data.layerList) := rfl

/-- **A device that is initialised again** has enabled all that was requested so far, in any order
of requests and initialisations, as if it was initialised only once, exactly when the driver lists
no extension and no layer twice. -/
theorem enabled_iff (policy : RoomPolicy) (p : PhysicalDevice) :
    (∀ asked id, (({} : DeviceData).calls policy p (asked ++ [.initializeOn id])).gpu.map
        (fun device => (device.extensions, device.layers)) =
      some (matchedNames p.extensions
          (({} : DeviceData).extensionList ++ extensionRequests asked),
        matchedNames p.layers (layerRequests asked))) ↔
    p.extensions.Nodup ∧ p.layers.Nodup := by
  have hlast : ∀ asked id, (({} : DeviceData).calls policy p (asked ++ [.initializeOn id])).gpu.map
      (fun device => (device.extensions, device.layers)) =
      some (matchedNames p.extensions (({} : DeviceData).calls policy p asked).extensionList,
        matchedNames p.layers (({} : DeviceData).calls policy p asked).layerList) := by
    intro asked id
    rw [calls, List.foldl_append]
    exact enabled_initializeOn policy p _ id
  simp only [hlast, Option.some.injEq, Prod.mk.injEq]
  constructor
  · intro h
    -- a name is requested, and the device initialised twice
    refine ⟨List.nodup_iff_count_le_one.mpr fun name => ?_,
      List.nodup_iff_count_le_one.mpr fun name => ?_⟩
    · have hname : name ∈ ({} : DeviceData).extensionList ++ [name] := by simp
      exact count_le_one_of_matched hname (h [.addExtension name, .initializeOn 0] 0).1
    · have hname : name ∈ [name] := List.mem_singleton_self name
      exact count_le_one_of_matched hname (h [.addValidationLayer name, .initializeOn 0] 0).2
  · rintro ⟨hextensions, hlayers⟩ asked id
    have hfresh : ({} : DeviceData).StandsFor p ({} : DeviceData).extensionList [] :=
      ⟨fun _ => rfl, fun _ => rfl⟩
    have hstands := StandsFor.calls policy hextensions hlayers hfresh asked
    have hrequested := hstands.extensions []
    have hlayered := hstands.layers []
    simp only [List.append_nil, List.nil_append] at hrequested hlayered
    exact ⟨hrequested, hlayered⟩

end DeviceData

end Nyx
