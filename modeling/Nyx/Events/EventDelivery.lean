import Mathlib.Data.List.Nodup
import Nyx.Events.EventManagers

/-! # Who receives an event

`EventManager::enroll` adds a subscriber for a key or a type only when there is none yet: it looks
for the key or the type where the generic form looks for the name. This file says which subscribers
the maps hold after any enrolments under different names, and which events reach all that were
enrolled for them.

* **`subscribersOf`** — the subscribers enrolled for something, in order.
* **`Enrolled`** — the invariant: all of those for every event, and the first of those for a key or
  a type, are in the maps.
* **`pushEvent_reaches_iff`** — an event reaches exactly its subscribers, once each, if and only if
  there is at most one for its key and at most one for its type. -/

namespace Nyx.Events

open Foundations EventSystem

/-! ## Enrolments -/

/-- The subscribers enrolled for a target: the positions of their enrolments. -/
def subscribersOf (target : Target) (enrolments : List Enrolment) : List SubscriberId :=
  (enrolments.zipIdx.filter fun pair => pair.1.target = target).map Prod.snd

@[simp] theorem subscribersOf_nil (target : Target) : subscribersOf target [] = [] := rfl

/-- With one enrolment more, its number joins the subscribers of its target, and those of other
targets stay the same. -/
theorem subscribersOf_concat (target : Target) (enrolments : List Enrolment)
    (enrolment : Enrolment) :
    subscribersOf target (enrolments ++ [enrolment]) =
      if enrolment.target = target then subscribersOf target enrolments ++ [enrolments.length]
      else subscribersOf target enrolments := by
  rw [subscribersOf, List.zipIdx_append, List.filter_append, List.map_append]
  by_cases h : enrolment.target = target <;> simp [subscribersOf, h]

/-- A subscriber is enrolled for a target when its enrolment is for it. -/
theorem mem_subscribersOf {target : Target} {enrolments : List Enrolment} {id : SubscriberId} :
    id ∈ subscribersOf target enrolments ↔
      ∃ enrolment, enrolments[id]? = some enrolment ∧ enrolment.target = target := by
  simp only [subscribersOf, List.mem_map, List.mem_filter, decide_eq_true_eq, Prod.exists,
    List.mem_zipIdx_iff_getElem?]
  constructor
  · rintro ⟨enrolment, _, ⟨hget, htarget⟩, rfl⟩
    exact ⟨enrolment, hget, htarget⟩
  · rintro ⟨enrolment, hget, htarget⟩
    exact ⟨enrolment, id, ⟨hget, htarget⟩, rfl⟩

/-- Each subscriber is enrolled for a target at most once, since an enrolment makes a new one. -/
theorem nodup_subscribersOf (target : Target) (enrolments : List Enrolment) :
    (subscribersOf target enrolments).Nodup := by
  have hall : (enrolments.zipIdx.map Prod.snd).Nodup := by
    rw [List.zipIdx_map_snd]
    exact List.nodup_range'
  exact hall.sublist (List.filter_sublist.map Prod.snd)

/-- Whether an enrolment is for an event: it is for all events, or for its key or its type. -/
def Enrolment.wants (enrolment : Enrolment) (event : Event) : Bool :=
  match enrolment.target with
  | .all => true
  | .key keysym => keysym = event.key
  | .type type => type = event.type

/-- All subscribers that an event is for: those for all events, and those for its key and for its
type. -/
def subscribers (enrolments : List Enrolment) (event : Event) : List SubscriberId :=
  subscribersOf .all enrolments ++ subscribersOf (.key event.key) enrolments ++
    subscribersOf (.type event.type) enrolments

/-- The subscribers of an event are those whose enrolment is for the event. -/
theorem mem_subscribers {enrolments : List Enrolment} {event : Event} {id : SubscriberId} :
    id ∈ subscribers enrolments event ↔
      (enrolments[id]?.any (Enrolment.wants · event)) = true := by
  simp only [subscribers, List.mem_append, mem_subscribersOf]
  cases hget : enrolments[id]? with
  | none => simp
  | some enrolment =>
      cases htarget : enrolment.target <;> simp [Enrolment.wants, htarget]

/-- Each subscriber of an event is listed once, since it is enrolled for one target. -/
theorem nodup_subscribers (enrolments : List Enrolment) (event : Event) :
    (subscribers enrolments event).Nodup := by
  have hdisjoint : ∀ {target target' : Target}, target ≠ target' →
      List.Disjoint (subscribersOf target enrolments) (subscribersOf target' enrolments) := by
    intro target target' hne id hid hid'
    obtain ⟨enrolment, hget, htarget⟩ := mem_subscribersOf.mp hid
    obtain ⟨enrolment', hget', htarget'⟩ := mem_subscribersOf.mp hid'
    rw [hget, Option.some.injEq] at hget'
    exact hne (by rw [← htarget, ← htarget', hget'])
  refine ((nodup_subscribersOf ..).append (nodup_subscribersOf ..) (hdisjoint ?_)).append
    (nodup_subscribersOf ..) ?_
  · exact Target.noConfusion
  · refine List.disjoint_append_left.mpr ⟨hdisjoint ?_, hdisjoint ?_⟩ <;> exact Target.noConfusion

/-! ## The invariant -/

/-- **What the maps hold** after some enrolments: all subscribers for every event, under the names
of their enrolments, and the first one for each key and each type. -/
structure Enrolled (system : EventSystem) (enrolments : List Enrolment) : Prop where
  allocated : system.subscribers.length = enrolments.length
  all : (system.manData.callbacks.nodes.map Node.value).Perm (subscribersOf .all enrolments)
  named : ∀ node ∈ system.manData.callbacks.nodes, node.key ∈ enrolments.map Enrolment.name
  key : ∀ keysym, (system.manData.keyCallbacks.range keysym).map (fun node => node.value.2)
    = (subscribersOf (.key keysym) enrolments).take 1
  type : ∀ type, (system.manData.typeCallbacks.range type).map (fun node => node.value.2)
    = (subscribersOf (.type type) enrolments).take 1

/-- In a program without managers the maps are made of no enrolments. -/
theorem enrolled_start : Enrolled {} [] where
  allocated := rfl
  all := .nil
  named _ hnode := absurd hnode List.not_mem_nil
  key _ := rfl
  type _ := rfl

/-- An operation that leaves the maps and the subscribers as they are, such as the construction of a
manager, enrolls nothing. -/
theorem Enrolled.of_eq {system system' : EventSystem} {enrolments : List Enrolment}
    (h : Enrolled system enrolments) (hdata : system'.manData = system.manData)
    (hsubscribers : system'.subscribers = system.subscribers) : Enrolled system' enrolments where
  allocated := by rw [hsubscribers, h.allocated]
  all := by rw [hdata]; exact h.all
  named := by rw [hdata]; exact h.named
  key := by rw [hdata]; exact h.key
  type := by rw [hdata]; exact h.type

/-- What `enroll` does to a map searched for the key itself: the first subscriber of each key
stays. -/
theorem firsts_insert {κ : Type} [Ord κ] [Std.TransOrd κ] [Std.LawfulEqOrd κ] [DecidableEq κ]
    {map : Multimap κ (Name × SubscriberId)} {all : κ → List SubscriberId}
    (h : ∀ k, (map.range k).map (fun node => node.value.2) = (all k).take 1)
    (node : Node κ (Name × SubscriberId)) (k : κ) :
    ((if (map.find node.key).isNone then map.insert node else map).range k).map
        (fun node => node.value.2)
      = (if node.key = k then all k ++ [node.value.2] else all k).take 1 := by
  have hfind : (map.find node.key).isNone = true ↔ all node.key = [] := by
    rw [Option.isNone_iff_eq_none, Multimap.find_eq_none_iff, ← List.map_eq_nil_iff, h,
      List.take_eq_nil_iff]
    simp
  by_cases hnone : all node.key = []
  · rw [if_pos (hfind.mpr hnone), Multimap.range_insert]
    by_cases hk : node.key = k
    · subst hk
      simp [h, hnone]
    · simp [hk, h]
  · rw [if_neg (fun h => hnone (hfind.mp h)), h]
    by_cases hk : node.key = k
    · subst hk
      rw [if_pos rfl, List.take_append_of_le_length (List.length_pos_iff.mpr hnone)]
    · rw [if_neg hk]

/-- The maps and the subscribers after an `enroll`: there is a subscriber more, and an entry more if
its name, key or type was free. -/
theorem manData_enroll (system : EventSystem) (manager : Nat) (enrolment : Enrolment) :
    (system.enroll manager enrolment).subscribers = system.subscribers ++ [enrolment.subscriber] ∧
      (system.enroll manager enrolment).manData =
        match enrolment.target with
        | .all =>
            if (system.manData.callbacks.find enrolment.name).isNone then
              { system.manData with
                callbacks := system.manData.callbacks.insert
                  ⟨system.nextNode, enrolment.name, system.subscribers.length⟩ }
            else system.manData
        | .key keysym =>
            { system.manData with
              keyCallbacks :=
                if (system.manData.keyCallbacks.find keysym).isNone then
                  system.manData.keyCallbacks.insert
                    ⟨system.nextNode, keysym, enrolment.name, system.subscribers.length⟩
                else system.manData.keyCallbacks }
        | .type type =>
            { system.manData with
              typeCallbacks :=
                if (system.manData.typeCallbacks.find type).isNone then
                  system.manData.typeCallbacks.insert
                    ⟨system.nextNode, type, enrolment.name, system.subscribers.length⟩
                else system.manData.typeCallbacks } := by
  cases htarget : enrolment.target with
  | all =>
      by_cases hfind : (system.manData.callbacks.find enrolment.name).isNone = true <;>
        simp [enroll, allocate, htarget, enrollBase, modifyManager, hfind]
  | key keysym =>
      by_cases hfind : (system.manData.keyCallbacks.find keysym).isNone = true <;>
        simp [enroll, allocate, htarget, enrollBaseKey, modifyManager, hfind]
  | type type =>
      by_cases hfind : (system.manData.typeCallbacks.find type).isNone = true <;>
        simp [enroll, allocate, htarget, enrollBaseType, modifyManager, hfind]

/-- **An `enroll` under a new name** adds its enrolment to those that the maps are made of. -/
theorem Enrolled.enroll {system : EventSystem} {enrolments : List Enrolment}
    (h : Enrolled system enrolments) (manager : Nat) {enrolment : Enrolment}
    (hname : enrolment.name ∉ enrolments.map Enrolment.name) :
    Enrolled (system.enroll manager enrolment) (enrolments ++ [enrolment]) := by
  obtain ⟨hsubscribers, hdata⟩ := manData_enroll system manager enrolment
  have hallocated : (system.enroll manager enrolment).subscribers.length
      = (enrolments ++ [enrolment]).length := by
    simp [hsubscribers, h.allocated]
  have hnamed : ∀ node ∈ system.manData.callbacks.nodes,
      node.key ∈ (enrolments ++ [enrolment]).map Enrolment.name := fun node hnode => by
    rw [List.map_append]
    exact List.mem_append_left _ (h.named node hnode)
  cases htarget : enrolment.target with
  | all =>
      -- the name is new, so the search finds nothing
      have hfind : (system.manData.callbacks.find enrolment.name).isNone = true := by
        rw [Option.isNone_iff_eq_none, Multimap.find_eq_none_iff, Multimap.range_eq,
          List.filter_eq_nil_iff]
        intro node hnode heq
        exact hname (of_decide_eq_true heq ▸ h.named node hnode)
      simp only [htarget, hfind, if_true] at hdata
      have hperm := system.manData.callbacks.perm_insert
        ⟨system.nextNode, enrolment.name, system.subscribers.length⟩
      refine ⟨hallocated, ?_, ?_, ?_, ?_⟩
      · rw [hdata, subscribersOf_concat, if_pos htarget, ← h.allocated]
        exact (hperm.map Node.value).trans
          ((h.all.cons _).trans (List.perm_append_singleton ..).symm)
      · rw [hdata]
        intro node hnode
        rcases List.mem_cons.mp (hperm.subset hnode) with rfl | hold
        · simp
        · exact hnamed node hold
      · rw [hdata]
        simpa [subscribersOf_concat, htarget] using h.key
      · rw [hdata]
        simpa [subscribersOf_concat, htarget] using h.type
  | key keysym =>
      simp only [htarget] at hdata
      refine ⟨hallocated, ?_, ?_, fun other => ?_, ?_⟩
      · rw [hdata]
        simpa [subscribersOf_concat, htarget] using h.all
      · rw [hdata]
        exact hnamed
      · rw [hdata, subscribersOf_concat, htarget, ← h.allocated]
        simp only [Target.key.injEq]
        exact firsts_insert h.key
          ⟨system.nextNode, keysym, enrolment.name, system.subscribers.length⟩ other
      · rw [hdata]
        simpa [subscribersOf_concat, htarget] using h.type
  | type type =>
      simp only [htarget] at hdata
      refine ⟨hallocated, ?_, ?_, ?_, fun other => ?_⟩
      · rw [hdata]
        simpa [subscribersOf_concat, htarget] using h.all
      · rw [hdata]
        exact hnamed
      · rw [hdata]
        simpa [subscribersOf_concat, htarget] using h.key
      · rw [hdata, subscribersOf_concat, htarget, ← h.allocated]
        simp only [Target.type.injEq]
        exact firsts_insert h.type
          ⟨system.nextNode, type, enrolment.name, system.subscribers.length⟩ other

/-! ## Runs -/

/-- The enrolment that an operation makes, if it is an `enroll`. -/
def EventOp.enrolment? : EventOp → Option Enrolment
  | .enroll _ enrolment => some enrolment
  | .construct | .reset _ | .destroy _ => none

/-- The enrolments that are made in a run, in the order in which they are made. -/
def enrolments (ops : List EventOp) : List Enrolment := ops.filterMap EventOp.enrolment?

/-- An operation that removes nothing: a construction or an `enroll`. -/
def EventOp.Adds : EventOp → Prop
  | .construct | .enroll .. => True
  | .reset _ | .destroy _ => False

instance : DecidablePred EventOp.Adds
  | .construct => isTrue trivial
  | .enroll .. => isTrue trivial
  | .reset _ => isFalse id
  | .destroy _ => isFalse id

/-- **What the maps hold after a run** of operations that remove nothing, under different names. -/
theorem enrolled_run {system system' : EventSystem} {before : List Enrolment} {ops : List EventOp}
    (h : Enrolled system before) (hadds : ∀ op ∈ ops, op.Adds)
    (hnames : ((before ++ enrolments ops).map Enrolment.name).Nodup)
    (hrun : runSteps EventOp.step system ops = .ok system') :
    Enrolled system' (before ++ enrolments ops) := by
  induction ops generalizing system before with
  | nil =>
      rw [runSteps_nil, Except.ok.injEq] at hrun
      rw [← hrun, enrolments, List.filterMap_nil, List.append_nil]
      exact h
  | cons op ops ih =>
      obtain ⟨next, hstep, hrest⟩ := runSteps_cons_ok_iff.mp hrun
      have hadds' : ∀ op ∈ ops, op.Adds := fun op hop => hadds op (List.mem_cons_of_mem _ hop)
      cases op with
      | construct =>
          cases hstep
          refine ih ?_ hadds' hnames hrest
          exact h.of_eq rfl rfl
      | enroll manager enrolment =>
          have hall : before ++ enrolments (.enroll manager enrolment :: ops)
              = (before ++ [enrolment]) ++ enrolments ops := by
            simp [enrolments, EventOp.enrolment?]
          rw [hall] at hnames ⊢
          have hname : enrolment.name ∉ before.map Enrolment.name := by
            have hfront := (List.nodup_append.mp (List.map_append ▸ hnames)).1
            rw [List.map_append, List.nodup_append] at hfront
            exact fun hmem => hfront.2.2 _ hmem _ (by simp) rfl
          simp only [EventOp.step] at hstep
          split at hstep
          · cases hstep
          · cases hstep
            exact ih (h.enroll manager hname) hadds' hnames hrest
      | reset | destroy => exact absurd (hadds _ List.mem_cons_self) id

/-- The subscribers that an event is given to: all of those for all events, the first one for its
key, and the first one for its type. -/
theorem Enrolled.perm_pushEvent {system : EventSystem} {enrolments : List Enrolment}
    (h : Enrolled system enrolments) (event : Event) :
    (system.manData.pushEvent event).Perm (subscribersOf .all enrolments ++
      (subscribersOf (.key event.key) enrolments).take 1 ++
      (subscribersOf (.type event.type) enrolments).take 1) := by
  rw [StaticEventManagerData.pushEvent, h.key, h.type]
  exact (h.all.append_right _).append_right _

/-- **When an event reaches exactly its subscribers.** After constructing managers and enrolling
under different names, an event is given once to each subscriber enrolled for all events, its key or
its type, and to no other, if and only if at most one was enrolled for its key and at most one for
its type. -/
theorem pushEvent_reaches_iff (system : EventSystem) (ops : List EventOp) (event : Event)
    (hadds : ∀ op ∈ ops, op.Adds) (hnames : ((enrolments ops).map Enrolment.name).Nodup)
    (hrun : runSteps EventOp.step {} ops = .ok system) :
    (∀ id, (system.manData.pushEvent event).count id =
        if (enrolments ops)[id]?.any (Enrolment.wants · event) then 1 else 0) ↔
      (subscribersOf (.key event.key) (enrolments ops)).length ≤ 1 ∧
        (subscribersOf (.type event.type) (enrolments ops)).length ≤ 1 := by
  have hperm := (enrolled_run enrolled_start hadds hnames hrun).perm_pushEvent event
  rw [List.nil_append] at hperm
  have hcount : ∀ id, (subscribers (enrolments ops) event).count id =
      if (enrolments ops)[id]?.any (Enrolment.wants · event) then 1 else 0 := by
    intro id
    by_cases hmem : id ∈ subscribers (enrolments ops) event
    · rw [List.count_eq_one_of_mem (nodup_subscribers ..) hmem, if_pos (mem_subscribers.mp hmem)]
    · rw [List.count_eq_zero_of_not_mem hmem,
        if_neg fun hwants => hmem (mem_subscribers.mpr hwants)]
  constructor
  · intro hreach
    have hall : (system.manData.pushEvent event).Perm (subscribers (enrolments ops) event) :=
      List.perm_iff_count.mpr fun id => (hreach id).trans (hcount id).symm
    have hlength := (hperm.symm.trans hall).length_eq
    simp only [subscribers, List.length_append, List.length_take] at hlength
    omega
  · rintro ⟨hkey, htype⟩ id
    rw [hperm.count_eq, List.take_of_length_le hkey, List.take_of_length_le htype]
    exact hcount id

/-- Two managers; a function for all events, a method for a key and one for a type. -/
def mixedOps : List EventOp :=
  [.construct, .construct, .enroll 0 ⟨⟨none, 0⟩, .all, [97]⟩,
    .enroll 1 ⟨⟨some 0, 1⟩, .key .w, [98]⟩, .enroll 0 ⟨⟨some 0, 2⟩, .type .keyDown, [99]⟩]

/-- A press of the key reaches the subscribers for all events, for the key and for the type, once
each. -/
theorem pushEvent_reaches_mixedOps :
    ∃ system, runSteps EventOp.step {} mixedOps = .ok system ∧
      ∀ id, (system.manData.pushEvent ⟨.keyDown, .w⟩).count id =
        if (enrolments mixedOps)[id]?.any (Enrolment.wants · ⟨.keyDown, .w⟩) then 1 else 0 :=
  ⟨_, rfl, (pushEvent_reaches_iff _ mixedOps ⟨.keyDown, .w⟩ (by decide) (by decide) rfl).mpr
    (by decide)⟩

/-- Of two methods enrolled for one key under different names, the second is not called. -/
theorem not_pushEvent_reaches :
    ¬ ∀ (system : EventSystem) (ops : List EventOp) (event : Event), (∀ op ∈ ops, op.Adds) →
      ((enrolments ops).map Enrolment.name).Nodup → runSteps EventOp.step {} ops = .ok system →
        ∀ id, (system.manData.pushEvent event).count id =
          if (enrolments ops)[id]?.any (Enrolment.wants · event) then 1 else 0 := by
  intro h
  have hsecond := h _
    [.construct, .enroll 0 ⟨⟨some 0, 0⟩, .key .w, [97]⟩, .enroll 0 ⟨⟨some 1, 1⟩, .key .w, [98]⟩]
    ⟨.keyDown, .w⟩ (by decide) (by decide) rfl 1
  revert hsecond
  decide

end Nyx.Events
