import Nyx.Devices.DeviceCreation

/-! # Handing out queues

A device hands a queue out for every request, and makes a queue of the family that it finds for it
every time, until all queues of the family are made.

* **`QueueRequest`**, **`DeviceData.answers`** — the getters as inputs of a machine.
* **`PhysicalDevice.chosen`** — the family that a request finds.
* **`queueOf`**, **`madeQueues`** — the queues of a family, in the order they are made.
* **`DeviceData.answers_eq`** — what a run of requests makes, and what it hands out.
* **`DeviceData.queues_lawful`** — no queue is asked of the driver twice, and each that is was
  requested when the device was created. -/

namespace Nyx

open Foundations

/-- A request for a queue of a device: for graphics, for compute, or for presenting to a surface. -/
inductive QueueRequest
  | graphics
  | compute
  | present (surface : Nat)
  deriving DecidableEq, Repr

/-- Which families are right for a request; one that presents has to do graphics as well. -/
def QueueRequest.wanted (p : PhysicalDevice) : QueueRequest → QueueFamily → Bool
  | .graphics => QueueFamily.graphics
  | .compute => QueueFamily.compute
  | .present surface => fun family => family.present p surface && family.graphics

/-- The family that a request finds: the first of the device that is right for it. -/
def PhysicalDevice.chosen (p : PhysicalDevice) (request : QueueRequest) : Option QueueFamily :=
  p.families.find? (request.wanted p)

namespace DeviceData

/-- The answer of a device to a request: the device afterwards, and the queue. -/
def answer (data : DeviceData) : QueueRequest → DeviceData × Option QueueData
  | .graphics => data.graphicsQueue
  | .compute => data.computeQueue
  | .present surface => data.presentQueue surface

/-- The answers to some requests, and the device afterwards. -/
def answers (data : DeviceData) : List QueueRequest → DeviceData × List (Option QueueData)
  | [] => (data, [])
  | request :: requests =>
      let first := data.answer request
      let rest := first.1.answers requests
      (rest.1, first.2 :: rest.2)

/-- Every getter takes a queue of the first family that is wanted. -/
theorem answer_eq (data : DeviceData) (request : QueueRequest) :
    data.answer request = data.getQueue (request.wanted data.physicalDevice) := by
  cases request <;> rfl

end DeviceData

/-! ## The queues of a family -/

/-- The queue with an index in a family, as `Queue` keeps it. -/
def queueOf (devId : Nat) (family : QueueFamily) (index : Nat) : QueueData where
  devId := devId
  queue := some ⟨family.family, index⟩
  family := family.family
  mask := family.prop.queueFlags

/-- The queues that are made of a family for some requests. -/
def madeQueues (devId : Nat) (family : QueueFamily) (requests : Nat) : List QueueData :=
  (List.range (min requests family.prop.queueCount)).map (queueOf devId family)

/-- A family whose queues are replaced by those that a function gives. -/
def QueueFamily.withQueues (queues : QueueFamily → List QueueData) (family : QueueFamily) :
    QueueFamily :=
  { family with queues := queues family }

/-- The first queue of a family is the one with index zero, once there was a request and if the
family has queues. -/
theorem getElem?_madeQueues (devId : Nat) {family : QueueFamily} {requests : Nat}
    (hrequests : requests ≠ 0) (hcount : family.prop.queueCount ≠ 0) :
    (madeQueues devId family requests)[0]? = some (queueOf devId family 0) := by
  have hpos : 0 < min requests family.prop.queueCount := by omega
  rw [madeQueues, List.getElem?_map, List.getElem?_range hpos]
  rfl

/-- **Step lemma.** One queue more, as long as there is one. The first one is handed out. -/
theorem QueueFamily.makeQueue_madeQueues (devId : Nat) (family : QueueFamily) (requests : Nat) :
    { family with queues := madeQueues devId family requests }.makeQueue devId =
      ({ family with queues := madeQueues devId family (requests + 1) },
        if family.prop.queueCount = 0 then none else some (queueOf devId family 0)) := by
  rcases Nat.lt_or_ge requests family.prop.queueCount with h | h
  · have hmore : madeQueues devId family (requests + 1) =
        madeQueues devId family requests ++ [queueOf devId family requests] := by
      simp [madeQueues, Nat.min_eq_left (Nat.le_of_lt h), Nat.min_eq_left h, List.range_succ]
    have hlength : (madeQueues devId family requests).length = requests := by
      simp [madeQueues]
      omega
    have hsome : family.prop.queueCount ≠ 0 := by omega
    rw [if_neg hsome, ← getElem?_madeQueues devId (Nat.succ_ne_zero requests) hsome]
    simp only [makeQueue, hlength, h, if_true, hmore]
    rfl
  · -- all queues are made
    have hsame : madeQueues devId family (requests + 1) = madeQueues devId family requests := by
      rw [madeQueues, madeQueues, Nat.min_eq_right h, Nat.min_eq_right (Nat.le_succ_of_le h)]
    have hlength : (madeQueues devId family requests).length = family.prop.queueCount := by
      simp [madeQueues]
      omega
    simp only [makeQueue, hlength, Nat.lt_irrefl, if_false, hsame]
    by_cases hnone : family.prop.queueCount = 0
    · simp [madeQueues, hnone]
    · rw [if_neg hnone, getElem?_madeQueues devId (by omega) hnone]

/-! ## A request -/

/-- The families of a physical device have numbers of their own. -/
theorem PhysicalDevice.nodup_numbers (p : PhysicalDevice) :
    (p.families.map QueueFamily.family).Nodup := by
  have hnumbers : p.families.map QueueFamily.family = p.queueFamilies.zipIdx.map Prod.snd := by
    rw [families, List.map_map]
    rfl
  rw [hnumbers, List.zipIdx_map_snd]
  exact List.nodup_range'

/-- The families of a device are different ones, since they are numbered. -/
theorem PhysicalDevice.nodup_families (p : PhysicalDevice) : p.families.Nodup :=
  List.Nodup.of_map QueueFamily.family p.nodup_numbers

/-- Whether a family is right for a request does not depend on the queues that were made for it. -/
theorem QueueRequest.wanted_withQueues (p : PhysicalDevice) (request : QueueRequest)
    (queues : QueueFamily → List QueueData) (family : QueueFamily) :
    request.wanted p (family.withQueues queues) = request.wanted p family := by
  cases request <;> rfl

namespace DeviceData

/-- The loop of the getters finds the first family that is wanted, and changes this one only. -/
theorem firstQueue_eq (devId : Nat) {wanted : QueueFamily → Bool}
    (queues : QueueFamily → List QueueData)
    (hwanted : ∀ family, wanted (family.withQueues queues) = wanted family)
    {families : List QueueFamily} (hnodup : families.Nodup) :
    firstQueue devId wanted (families.map (·.withQueues queues)) =
      match families.find? wanted with
      | none => (families.map (·.withQueues queues), some {})
      | some found =>
          (families.map fun family =>
            if family = found then ((family.withQueues queues).makeQueue devId).1
            else family.withQueues queues,
            ((found.withQueues queues).makeQueue devId).2) := by
  induction families with
  | nil => rfl
  | cons head families ih =>
      obtain ⟨hhead, hnodup⟩ := List.nodup_cons.mp hnodup
      rw [List.map_cons, firstQueue, hwanted, List.find?_cons]
      cases hfound : wanted head with
      | true =>
          have hothers : families.map (fun family =>
              if family = head then ((family.withQueues queues).makeQueue devId).1
              else family.withQueues queues) = families.map (·.withQueues queues) := by
            refine List.map_congr_left fun family hmem => if_neg ?_
            rintro rfl
            exact hhead hmem
          simp [hothers]
      | false =>
          simp only [Bool.false_eq_true, if_false, ih hnodup]
          cases hfind : families.find? wanted with
          | none => simp
          | some found =>
              have hne : head ≠ found := by
                rintro rfl
                exact hhead (List.mem_of_find?_eq_some hfind)
              simp [hne]

/-- The queues of a device after some requests: each family has made one for every request that
found it, as far as its count goes. -/
structure Answered (p : PhysicalDevice) (id : Nat) (requests : List QueueRequest)
    (data : DeviceData) : Prop where
  on : data.physicalDevice = p
  numbered : data.id = id
  queues : data.queues = some (p.families.map (·.withQueues fun family =>
    madeQueues id family (requests.countP fun request => p.chosen request = some family)))

/-- What a request is answered: the first queue of the family that it finds, and an empty one when
it finds no family. -/
def expected (p : PhysicalDevice) (id : Nat) (request : QueueRequest) : Option QueueData :=
  match p.chosen request with
  | none => some {}
  | some family => if family.prop.queueCount = 0 then none else some (queueOf id family 0)

variable {p : PhysicalDevice} {id : Nat} {data : DeviceData}

/-- **Step lemma.** One request more is answered with what is expected, and its family has made one
queue more. -/
theorem Answered.answer {requests : List QueueRequest} (h : data.Answered p id requests)
    (request : QueueRequest) :
    (data.answer request).1.Answered p id (requests ++ [request]) ∧
      (data.answer request).2 = expected p id request := by
  let queues : QueueFamily → List QueueData := fun family =>
    madeQueues id family (requests.countP fun request => p.chosen request = some family)
  have hloop := firstQueue_eq id queues (request.wanted_withQueues p queues) p.nodup_families
  have hcount : ∀ family, (requests ++ [request]).countP
      (fun request => p.chosen request = some family) =
      requests.countP (fun request => p.chosen request = some family) +
        if p.chosen request = some family then 1 else 0 := by
    simp [List.countP_append, List.countP_singleton]
  have hqueues : data.queues = some (p.families.map (·.withQueues queues)) := h.queues
  rw [answer_eq, h.on, getQueue, hqueues]
  simp only [h.numbered, hloop]
  cases hchosen : p.chosen request with
  | none =>
      have hfind : p.families.find? (request.wanted p) = none := hchosen
      simp only [hfind]
      refine ⟨⟨h.on, rfl, ?_⟩, by simp [expected, hchosen]⟩
      simp only [hcount, hchosen, reduceCtorEq, if_false, Nat.add_zero]
      rfl
  | some found =>
      have hfind : p.families.find? (request.wanted p) = some found := hchosen
      have hmade := found.makeQueue_madeQueues id
        (requests.countP fun request => p.chosen request = some found)
      simp only [hfind]
      refine ⟨⟨h.on, rfl, ?_⟩, ?_⟩
      · refine congrArg some (List.map_congr_left fun family _ => ?_)
        by_cases hsame : family = found
        · subst hsame
          simp only [QueueFamily.withQueues, queues, if_true, hmade, hcount, hchosen]
        · have hother : ¬ found = family := fun heq => hsame heq.symm
          simp [hsame, QueueFamily.withQueues, queues, hcount, hchosen, hother]
      · simp only [QueueFamily.withQueues, queues, hmade, expected, hchosen]

/-- **Run lemma.** All requests are answered with what is expected, and the families have made
queues for all of them. -/
theorem Answered.answers {before : List QueueRequest} (h : data.Answered p id before)
    (requests : List QueueRequest) :
    (data.answers requests).1.Answered p id (before ++ requests) ∧
      (data.answers requests).2 = requests.map (expected p id) := by
  induction requests generalizing data before with
  | nil => exact ⟨by simpa [DeviceData.answers] using h, rfl⟩
  | cons request requests ih =>
      obtain ⟨hfirst, hanswer⟩ := h.answer request
      obtain ⟨hrest, hanswers⟩ := ih hfirst
      rw [List.append_assoc] at hrest
      exact ⟨hrest, by simp [DeviceData.answers, hanswer, hanswers]⟩

/-- **What requests make and hand out.** After a device was initialised and any requests for queues
were made, each family has a queue for every request that found it, numbered from zero, until all
queues of the family are made. A request is always handed the queue number zero of the family it
finds, and an invalid one when it finds none. -/
theorem answers_eq (policy : RoomPolicy) (data : DeviceData) (p : PhysicalDevice) (id : Nat)
    (requests : List QueueRequest) :
    ((data.initializeOn policy p id).answers requests).1.queues =
        some (p.families.map fun family => { family with
          queues := madeQueues id family
            (requests.countP fun request => p.chosen request = some family) }) ∧
      ((data.initializeOn policy p id).answers requests).2 =
        requests.map fun request =>
          match p.chosen request with
          | none => some {}
          | some family =>
              if family.prop.queueCount = 0 then none else some (queueOf id family 0) := by
  have hfresh : (data.initializeOn policy p id).Answered p id [] := by
    refine ⟨rfl, rfl, congrArg some ?_⟩
    have hnone : ∀ family ∈ p.families, family.queues = [] := by
      intro family hfamily
      obtain ⟨entry, -, rfl⟩ := List.mem_map.mp hfamily
      rfl
    refine (List.map_id _).symm.trans (List.map_congr_left fun family hfamily => ?_)
    simp [QueueFamily.withQueues, madeQueues, ← hnone family hfamily]
  obtain ⟨hrun, hanswers⟩ := hfresh.answers requests
  exact ⟨hrun.queues, hanswers⟩

/-! ## What is asked of the driver -/

/-- No sequence of requests changes the logical device. -/
theorem gpu_answers (data : DeviceData) (requests : List QueueRequest) :
    (data.answers requests).1.gpu = data.gpu := by
  induction requests generalizing data with
  | nil => rfl
  | cons request requests ih =>
      have hfirst : (data.answer request).1.gpu = data.gpu := by
        rw [answer_eq, getQueue]
        split <;> rfl
      exact (ih _).trans hfirst

/-- There is an info for each family, with its index and the number of its queues. -/
theorem exists_infosFrom (policy : RoomPolicy) {v : ReusedBlock UInt32}
    {entries : List (QueueFamily × Nat)} {entry : QueueFamily × Nat} (h : entry ∈ entries) :
    ∃ info ∈ infosFrom policy v entries,
      info.queueFamilyIndex = entry.2 ∧ info.queueCount = entry.1.prop.queueCount := by
  induction entries generalizing v with
  | nil => exact absurd h List.not_mem_nil
  | cons head entries ih =>
      rcases List.mem_cons.mp h with rfl | h
      · exact ⟨_, List.mem_cons_self, rfl, rfl⟩
      · obtain ⟨info, hinfo, heq⟩ := ih h
        exact ⟨info, List.mem_cons_of_mem _ hinfo, heq⟩

/-- The logical device is created with all queues of every family of the physical one. -/
theorem exists_requested (policy : RoomPolicy) (data : DeviceData) (p : PhysicalDevice) (id : Nat)
    {family : QueueFamily} (h : family ∈ p.families) {device : VkDevice}
    (hdevice : (data.initializeOn policy p id).gpu = some device) :
    ∃ requested ∈ device.queues,
      requested.family = family.family ∧ requested.count = family.prop.queueCount := by
  obtain ⟨⟨prop, index⟩, hmem, rfl⟩ := List.mem_map.mp h
  have hindex : p.queueFamilies[index]? = some prop := by
    simpa using List.mem_zipIdx_iff_getElem?.mp hmem
  have hentry : (({ prop := prop, family := index } : QueueFamily), index) ∈
      p.families.zipIdx := by
    refine List.mem_zipIdx_iff_getElem?.mpr ?_
    simp [PhysicalDevice.families, hindex]
  obtain ⟨info, hinfo, hfamily, hcount⟩ := exists_infosFrom policy hentry
  rw [queues_initializeOn policy data p id hdevice]
  exact ⟨_, List.mem_map.mpr ⟨info, hinfo, rfl⟩, hfamily, hcount⟩

/-- **Queues are asked for lawfully.** After a device was initialised and any requests for queues
were made, no queue was asked of the driver twice, and each that was is one that the device was
created with. -/
theorem queues_lawful (policy : RoomPolicy) (data : DeviceData) (p : PhysicalDevice) (id : Nat)
    (requests : List QueueRequest) :
    ∃ device families,
      ((data.initializeOn policy p id).answers requests).1.gpu = some device ∧
      ((data.initializeOn policy p id).answers requests).1.queues = some families ∧
      ((families.flatMap QueueFamily.queues).map QueueData.queue).Nodup ∧
      ∀ queue ∈ families.flatMap QueueFamily.queues, ∃ asked, queue.queue = some asked ∧
        ∃ requested ∈ device.queues,
          requested.family = asked.family ∧ asked.index < requested.count := by
  have hqueues := (answers_eq policy data p id requests).1
  obtain ⟨device, hdevice⟩ : ∃ device, (data.initializeOn policy p id).gpu = some device :=
    ⟨_, rfl⟩
  refine ⟨device, _, (gpu_answers _ requests).trans hdevice, hqueues, ?_, ?_⟩
  · rw [List.flatMap_map, List.map_flatMap, List.nodup_flatMap]
    refine ⟨fun family _ => ?_, ?_⟩
    · -- in a family by their indices
      rw [madeQueues, List.map_map]
      refine List.nodup_range.map fun i j heq => ?_
      simpa [queueOf] using heq
    · -- and in different families by the families
      refine (List.pairwise_map.mp p.nodup_numbers).imp fun {a b} hne => ?_
      intro queue ha hb
      simp only [List.mem_map, madeQueues] at ha hb
      obtain ⟨_, ⟨i, -, rfl⟩, rfl⟩ := ha
      obtain ⟨_, ⟨j, -, rfl⟩, heq⟩ := hb
      simp only [queueOf, Option.some.injEq, VkQueue.mk.injEq] at heq
      exact hne heq.1.symm
  · intro queue hqueue
    rw [List.flatMap_map, List.mem_flatMap] at hqueue
    obtain ⟨family, hfamily, hmade⟩ := hqueue
    obtain ⟨index, hindex, rfl⟩ := List.mem_map.mp hmade
    have hlt : index < family.prop.queueCount := by
      rw [List.mem_range] at hindex
      omega
    obtain ⟨requested, hrequested, hsame, hcount⟩ :=
      exists_requested policy data p id hfamily hdevice
    refine ⟨_, rfl, requested, hrequested, hsame, ?_⟩
    rw [hcount]
    exact hlt

end DeviceData

end Nyx
