import Nyx.Events.EventOwnership
import Nyx.Events.MouseMotion
import Nyx.Foundations.SharedMaps

/-! # The callbacks of a window

`Window::handleEvents` pushes the events of SDL to the callbacks that were enrolled. The three maps
of callbacks, the iterators of all managers and the nodes they refer to come to something simple: a
registry, in which a name, a key and a type each have room for one callback and its manager.

* **`Slot`**, **`Registry`** — the places for callbacks, and what is in them.
* **`Registry.Calls`** — the callbacks an event should be given to, in order.
* **`Placed.step`** — what the operations on managers do to a registry.
* **`WindowOp.step`** — operations on managers and calls of `handleEvents`, with a list of all calls
  of callbacks.
* **`Refines`** — the maps hold what is in the registry.
* **`calls_refine`** — over any run, the callbacks are called as the registry says.
* **`called_alive`** — and none of them twice for an event, or after it was deleted. -/

namespace Nyx.Events

open Foundations EventSystem

/-! ## The registry -/

/-- A place for one callback: a name among those for all events, a key, or a type. -/
inductive Slot
  | all (name : Name)
  | key (keysym : Key)
  | type (kind : EventType)
  deriving DecidableEq, Repr

namespace Slot

/-- The place of an enrolment. The name of one for a key or a type makes no difference. -/
def ofEnrolment (enrolment : Enrolment) : Slot :=
  match enrolment.target with
  | .all => .all enrolment.name
  | .key keysym => .key keysym
  | .type kind => .type kind

/-- Whether an event is for a place: a place for all events always, and one for a key or a type when
it is that of the event. -/
def Holds (event : Event) : Slot → Prop
  | .all _ => True
  | .key keysym => keysym = event.key
  | .type kind => kind = event.type

/-- The order of the calls for an event: those for all events by name, then the key, then the
type. -/
def Before : Slot → Slot → Prop
  | .all name, .all name' => compare name name' = .lt
  | .key keysym, .key keysym' => compare keysym keysym' = .lt
  | .type kind, .type kind' => compare kind kind' = .lt
  | .all _, .key _ | .all _, .type _ | .key _, .type _ => True
  | .key _, .all _ | .type _, .all _ | .type _, .key _ => False

/-- No place comes before itself in the order of calls. -/
theorem not_before_self (slot : Slot) : ¬ slot.Before slot := by
  cases slot <;> simp [Before, Std.ReflOrd.compare_self]

end Slot

/-- What is in each place: a callback with the manager that enrolled it. -/
abbrev Registry := Slot → Option (Nat × SubscriberId)

namespace Registry

/-- A callback is put in its place when that is free; otherwise the registry stays as it is. -/
def enroll (registry : Registry) (manager : Nat) (slot : Slot) (subscriber : SubscriberId) :
    Registry :=
  if registry slot = none then Function.update registry slot (some (manager, subscriber))
  else registry

/-- The callbacks of a manager are removed from all their places. -/
def release (registry : Registry) (manager : Nat) : Registry := fun slot =>
  (registry slot).filter (·.1 ≠ manager)

/-- **The calls for an event**: of the callback in each place that the event is for, in the order of
the places. -/
def Calls (registry : Registry) (event : Event) (calls : List SubscriberId) : Prop :=
  ∃ slots : List Slot, slots.Pairwise Slot.Before ∧
    (∀ slot, slot ∈ slots ↔ slot.Holds event ∧ (registry slot).isSome = true) ∧
    calls = slots.filterMap fun slot => (registry slot).map Prod.snd

end Registry

/-- A registry, and how many callbacks were allocated. -/
structure Placed where
  registry : Registry := fun _ => none
  allocated : Nat := 0

/-- **The operations on managers**, as a registry sees them. -/
def Placed.step (placed : Placed) : EventOp → Placed
  | .construct => placed
  | .enroll manager enrolment =>
      { registry :=
          placed.registry.enroll manager (.ofEnrolment enrolment) placed.allocated
        allocated := placed.allocated + 1 }
  | .reset manager | .destroy manager =>
      { placed with registry := placed.registry.release manager }

/-! ## Windows -/

/-- What a program does with event managers and windows. -/
inductive WindowOp
  | manage (op : EventOp)
  /-- `handleEvents`, when `SDL_GetMouseState` returns `state` and these events are polled. -/
  | handleEvents (state : MousePosition) (events : List SdlEvent)
  deriving DecidableEq

/-- The event managers, the mouse, and all events that were pushed with the subscribers that each
was given to. -/
structure WindowSession where
  system : EventSystem := {}
  mouse : MouseData := {}
  calls : List (Event × List SubscriberId) := []

/-- One operation of a program with a window: one on the managers, or a round of `handleEvents`. -/
def WindowOp.step (session : WindowSession) : WindowOp → Except EventFailure WindowSession
  | .manage op => do
      let system ← op.step session.system
      pure { session with system := system }
  | .handleEvents state events =>
      let (mouse, pushed) := Events.handleEvents session.mouse state events
      .ok { session with
        mouse := mouse
        calls := session.calls ++
          pushed.map fun event => (event, session.system.manData.pushEvent event) }

/-- An operation on the managers is a step of the managers, and calls no subscriber. -/
theorem WindowOp.step_manage {session session' : WindowSession} {op : EventOp}
    (h : (WindowOp.manage op).step session = .ok session') :
    op.step session.system = .ok session'.system ∧ session'.calls = session.calls := by
  cases hop : op.step session.system with
  | error => simp [WindowOp.step, hop, bind, Except.bind] at h
  | ok system =>
      simp only [WindowOp.step, hop, bind, Except.bind, pure, Except.pure, Except.ok.injEq] at h
      exact h ▸ ⟨rfl, rfl⟩

/-- A call of `handleEvents` pushes the events that are converted, and enrolls nothing. -/
theorem WindowOp.step_handleEvents {session session' : WindowSession} {state : MousePosition}
    {events : List SdlEvent}
    (h : (WindowOp.handleEvents state events).step session = .ok session') :
    session'.system = session.system ∧ session'.calls = session.calls ++
      (events.filterMap convertEvent).map fun event =>
        (event, session.system.manData.pushEvent event) := by
  rw [← pushed_handleEvents session.mouse state events]
  simp only [WindowOp.step, Except.ok.injEq] at h
  exact h ▸ ⟨rfl, rfl⟩

/-- The events of a run that are pushed, each with the registry at its time. -/
def deliveries (placed : Placed) : List WindowOp → List (Event × Registry)
  | [] => []
  | .manage op :: ops => deliveries (placed.step op) ops
  | .handleEvents _ events :: ops =>
      (events.filterMap convertEvent).map (fun event => (event, placed.registry)) ++
        deliveries placed ops

/-! ## The refinement -/

/-- **The maps hold what is in the registry.** Each callback is in one place, and has not been
deleted. -/
structure Refines (system : EventSystem) (placed : Placed) : Prop where
  all : HoldsEntries system.nextNode system.manData.callbacks id
    (system.iterators EventManagerData.localCallbacks) fun name => placed.registry (.all name)
  key : HoldsEntries system.nextNode system.manData.keyCallbacks Prod.snd
    (system.iterators EventManagerData.localKeyCallbacks) fun keysym =>
      placed.registry (.key keysym)
  type : HoldsEntries system.nextNode system.manData.typeCallbacks Prod.snd
    (system.iterators EventManagerData.localTypeCallbacks) fun kind =>
      placed.registry (.type kind)
  allocated : system.subscribers.length = placed.allocated
  once : ∀ slot slot' entry entry', placed.registry slot = some entry →
    placed.registry slot' = some entry' → entry.2 = entry'.2 → slot = slot'
  alive : ∀ slot entry, placed.registry slot = some entry →
    entry.2 < placed.allocated ∧ entry.2 ∉ system.deleted
  spent : ∀ id ∈ system.deleted, id < placed.allocated
  live : ∀ manager, system.nextManager ≤ manager → system.managers manager = none

/-- What the loops of `reset` do when they end well: they erase the entries of the iterators, and
delete their subscribers. -/
theorem release_eq_ok {κ α : Type} [Ord κ] {value : α → SubscriberId} {map map' : Multimap κ α}
    {deleted deleted' : List SubscriberId} {iters : List Nat}
    (h : EventSystem.release value map deleted iters = .ok (map', deleted')) :
    map'.nodes = map.nodes.filter (·.id ∉ iters) ∧
      ∀ id ∈ deleted', id ∈ deleted ∨
        ∃ node ∈ map.nodes, node.id ∈ iters ∧ value node.value = id := by
  induction iters generalizing map deleted with
  | nil =>
      cases h
      exact ⟨by simp, fun id hid => Or.inl hid⟩
  | cons iter rest ih =>
      rw [EventSystem.release] at h
      cases hfind : map.nodes.find? (·.id = iter) with
      | none => simp [hfind] at h
      | some node =>
          simp only [hfind] at h
          obtain ⟨hnodes, hdeleted⟩ := ih h
          have hid : node.id = iter := of_decide_eq_true
            (List.find?_some (p := fun node : Node κ α => node.id = iter) hfind)
          constructor
          · rw [hnodes, Multimap.erase, List.filter_filter]
            refine List.filter_congr fun other _ => ?_
            by_cases heq : other.id = iter <;> simp [heq]
          · intro id hmem
            rcases hdeleted id hmem with hold | ⟨other, hother, hiter, hvalue⟩
            · rcases List.mem_append.mp hold with hold | hlast
              · exact Or.inl hold
              · rw [List.mem_singleton] at hlast
                exact Or.inr ⟨node, List.mem_of_find?_eq_some hfind, by simp [hid], hlast.symm⟩
            · exact Or.inr ⟨other, (List.mem_filter.mp hother).1, List.mem_cons_of_mem _ hiter,
                hvalue⟩

/-- A `reset` that ends well has erased from each map exactly the nodes that the manager has
iterators to. -/
theorem reset_eq_ok {system system' : EventSystem} {data : EventManagerData}
    (h : system.reset data = .ok system') :
    (system'.manData.callbacks.nodes
        = system.manData.callbacks.nodes.filter (·.id ∉ data.localCallbacks) ∧
      system'.manData.keyCallbacks.nodes
        = system.manData.keyCallbacks.nodes.filter (·.id ∉ data.localKeyCallbacks) ∧
      system'.manData.typeCallbacks.nodes
        = system.manData.typeCallbacks.nodes.filter (·.id ∉ data.localTypeCallbacks)) ∧
    (∀ id ∈ system'.deleted, id ∈ system.deleted ∨
      (∃ node ∈ system.manData.callbacks.nodes,
        node.id ∈ data.localCallbacks ∧ node.value = id) ∨
      (∃ node ∈ system.manData.keyCallbacks.nodes,
        node.id ∈ data.localKeyCallbacks ∧ node.value.2 = id) ∨
      ∃ node ∈ system.manData.typeCallbacks.nodes,
        node.id ∈ data.localTypeCallbacks ∧ node.value.2 = id) ∧
    system' = { system with manData := system'.manData, deleted := system'.deleted } := by
  rw [EventSystem.reset] at h
  cases hfirst : release id system.manData.callbacks system.deleted data.localCallbacks with
  | error => simp [hfirst, bind, Except.bind] at h
  | ok first =>
    obtain ⟨callbacks, deleted⟩ := first
    cases hsecond : release Prod.snd system.manData.keyCallbacks deleted
        data.localKeyCallbacks with
    | error => simp [hfirst, hsecond, bind, Except.bind] at h
    | ok second =>
      obtain ⟨keyCallbacks, deleted'⟩ := second
      cases hthird : release Prod.snd system.manData.typeCallbacks deleted'
          data.localTypeCallbacks with
      | error => simp [hfirst, hsecond, hthird, bind, Except.bind] at h
      | ok third =>
        obtain ⟨typeCallbacks, deleted''⟩ := third
        simp only [hfirst, hsecond, hthird, bind, Except.bind, pure, Except.pure,
          Except.ok.injEq] at h
        subst h
        obtain ⟨hall, hdeleted⟩ := release_eq_ok hfirst
        obtain ⟨hkey, hdeleted'⟩ := release_eq_ok hsecond
        obtain ⟨htype, hdeleted''⟩ := release_eq_ok hthird
        refine ⟨⟨hall, hkey, htype⟩, fun id hid => ?_, rfl⟩
        rcases hdeleted'' id hid with hid | hnode
        · rcases hdeleted' id hid with hid | hnode
          · exact (hdeleted id hid).imp_right Or.inl
          · exact Or.inr (Or.inr (Or.inl hnode))
        · exact Or.inr (Or.inr (Or.inr hnode))

namespace Refines

variable {system system' : EventSystem} {placed : Placed} {manager : Nat}
  {data : EventManagerData}

/-- A program without managers refines the empty registry. -/
theorem start : Refines {} {} where
  all := .empty
  key := .empty
  type := .empty
  allocated := rfl
  once _ _ _ _ hentry := absurd hentry (Option.some_ne_none _).symm
  alive _ _ hentry := absurd hentry (Option.some_ne_none _).symm
  spent _ hid := absurd hid List.not_mem_nil
  live _ _ := rfl

/-! ### What is called -/

/-- The place of a name among the callbacks for all events is taken exactly when a node has that
name. -/
theorem isSome_all_iff (h : Refines system placed) (name : Name) :
    (placed.registry (.all name)).isSome = true ↔
      ∃ node ∈ system.manData.callbacks.nodes, node.key = name := by
  rw [← Option.ne_none_iff_isSome, ne_eq, h.all.eq_none_iff]
  simp

/-- **The calls for an event** are those of the registry: one for each place that the event is for,
in the order of the places. -/
theorem calls_pushEvent (h : Refines system placed) (event : Event) :
    placed.registry.Calls event (system.manData.pushEvent event) := by
  refine ⟨(system.manData.callbacks.nodes.map fun node => Slot.all node.key) ++
    [Slot.key event.key, Slot.type event.type].filter fun slot => (placed.registry slot).isSome,
    ?_, ?_, ?_⟩
  · rw [List.pairwise_append]
    refine ⟨List.pairwise_map.mpr h.all.increasing, ?_, ?_⟩
    · exact List.Pairwise.filter _ (by simp [Slot.Before])
    · intro slot hslot slot' hslot'
      obtain ⟨node, -, rfl⟩ := List.mem_map.mp hslot
      have hmem := List.mem_of_mem_filter hslot'
      simp only [List.mem_cons, List.not_mem_nil, or_false] at hmem
      rcases hmem with rfl | rfl <;> trivial
  · intro slot
    cases slot with
    | all name => simp [Slot.Holds, h.isSome_all_iff]
    | key keysym => simp [Slot.Holds]
    | type kind => simp [Slot.Holds]
  · have hall : (system.manData.callbacks.nodes.map fun node => Slot.all node.key).filterMap
        (fun slot => (placed.registry slot).map Prod.snd)
          = system.manData.callbacks.nodes.map Node.value := by
      rw [List.filterMap_map, ← List.filterMap_eq_map]
      refine List.filterMap_congr fun node hnode => ?_
      obtain ⟨owner, hentry, -⟩ := h.all.entry node hnode
      simp [hentry]
    rw [List.filterMap_append, hall, StaticEventManagerData.pushEvent, h.key.range_values,
      h.type.range_values, List.append_assoc]
    congr 1
    cases hkey : placed.registry (.key event.key) <;>
      cases htype : placed.registry (.type event.type) <;> simp [hkey, htype]

/-! ### Enrolling -/

/-- A manager that is constructed has no iterators, so the registry is still refined. -/
theorem construct (h : Refines system placed) : Refines { system with
    managers := Function.update system.managers system.nextManager (some {})
    nextManager := system.nextManager + 1 } placed := by
  have hnone : system.managers system.nextManager = none := h.live _ (Nat.le_refl _)
  have hsame : ∀ select : EventManagerData → List Nat, select {} = [] →
      Function.update (system.iterators select) system.nextManager (select {})
        = system.iterators select := by
    intro select hselect
    have hnil : system.iterators select system.nextManager = select {} := by
      simp [iterators, hnone, hselect]
    rw [← hnil, Function.update_eq_self]
  constructor
  · rw [Accounted.iterators_update rfl]
    exact (hsame EventManagerData.localCallbacks rfl).symm ▸ h.all
  · rw [Accounted.iterators_update rfl]
    exact (hsame EventManagerData.localKeyCallbacks rfl).symm ▸ h.key
  · rw [Accounted.iterators_update rfl]
    exact (hsame EventManagerData.localTypeCallbacks rfl).symm ▸ h.type
  · exact h.allocated
  · exact h.once
  · exact h.alive
  · exact h.spent
  · intro other hother
    have hlt : system.nextManager < other := hother
    have hne : other ≠ system.nextManager := by omega
    exact (Function.update_of_ne hne ..).trans (h.live other (by omega))

/-- When the place of a subscriber is taken, it is allocated and called by no event; the registry
stays as it is. -/
theorem enroll_taken (h : Refines system placed) (subscriber : Subscriber) {slot : Slot}
    (htaken : placed.registry slot ≠ none) :
    Refines (system.allocate subscriber).1
      ⟨placed.registry.enroll manager slot placed.allocated, placed.allocated + 1⟩ := by
  rw [Registry.enroll, if_neg htaken]
  constructor
  · exact h.all
  · exact h.key
  · exact h.type
  · simp [EventSystem.allocate, h.allocated]
  · exact h.once
  · intro slot entry hentry
    obtain ⟨hlt, hlive⟩ := h.alive slot entry hentry
    exact ⟨Nat.lt_succ_of_lt hlt, hlive⟩
  · intro id hid
    exact Nat.lt_succ_of_lt (h.spent id hid)
  · exact h.live

/-- A map that an insertion into another one leaves alone still holds the entries of the
registry. -/
theorem unchanged {κ α : Type} [Ord κ] {map : Multimap κ α} {value : α → SubscriberId}
    {select : EventManagerData → List Nat} {slotOf : κ → Slot} {slot : Slot}
    {entry : Option (Nat × SubscriberId)} {data' : EventManagerData}
    (h : HoldsEntries system.nextNode map value (system.iterators select) fun k =>
      placed.registry (slotOf k))
    (hdata : system.managers manager = some data) (hsame : select data' = select data)
    (hne : ∀ k, slotOf k ≠ slot) :
    HoldsEntries (system.nextNode + 1) map value
      (Function.update (system.iterators select) manager (select data')) fun k =>
        Function.update placed.registry slot entry (slotOf k) := by
  have hregistry : (fun k => Function.update placed.registry slot entry (slotOf k))
      = fun k => placed.registry (slotOf k) := by
    funext k
    exact Function.update_of_ne (hne k) ..
  rw [hregistry, hsame, ← Accounted.iterators_eq hdata select, Function.update_eq_self]
  exact h.mono (Nat.le_succ _)

/-- The map that a subscriber is inserted into holds the entries of the registry with the new
one. -/
theorem inserted {κ α : Type} [Ord κ] [Std.TransOrd κ] [DecidableEq κ] {map : Multimap κ α}
    {value : α → SubscriberId} {select : EventManagerData → List Nat} {slotOf : κ → Slot}
    (h : HoldsEntries system.nextNode map value (system.iterators select) fun k =>
      placed.registry (slotOf k))
    (hdata : system.managers manager = some data) (hslot : Function.Injective slotOf) {k : κ}
    (hfree : placed.registry (slotOf k) = none) (stored : α) :
    HoldsEntries (system.nextNode + 1) (map.insert ⟨system.nextNode, k, stored⟩) value
      (Function.update (system.iterators select) manager (select data ++ [system.nextNode]))
      fun k' => Function.update placed.registry (slotOf k) (some (manager, value stored))
        (slotOf k') := by
  have hregistry : (fun k' => Function.update placed.registry (slotOf k)
      (some (manager, value stored)) (slotOf k'))
        = Function.update (fun k => placed.registry (slotOf k)) k
          (some (manager, value stored)) :=
    Function.update_comp_eq_of_injective placed.registry hslot k _
  rw [hregistry, ← Accounted.iterators_eq hdata select]
  exact h.insert manager hfree stored

/-- When the place of a subscriber is free, it is put there in the map and in the registry alike. -/
theorem enroll_free (h : Refines system placed) (hdata : system.managers manager = some data)
    {subscriber : Subscriber} {slot : Slot} (hfree : placed.registry slot = none)
    {change : EventManagerData → EventManagerData} {manData : StaticEventManagerData}
    {nextNode : Nat}
    (all : HoldsEntries nextNode manData.callbacks id (Function.update
      (system.iterators EventManagerData.localCallbacks) manager (change data).localCallbacks)
      fun name => Function.update placed.registry slot (some (manager, placed.allocated))
        (.all name))
    (key : HoldsEntries nextNode manData.keyCallbacks Prod.snd (Function.update
      (system.iterators EventManagerData.localKeyCallbacks) manager
        (change data).localKeyCallbacks)
      fun keysym => Function.update placed.registry slot (some (manager, placed.allocated))
        (.key keysym))
    (type : HoldsEntries nextNode manData.typeCallbacks Prod.snd (Function.update
      (system.iterators EventManagerData.localTypeCallbacks) manager
        (change data).localTypeCallbacks)
      fun kind => Function.update placed.registry slot (some (manager, placed.allocated))
        (.type kind)) :
    Refines ({ (system.allocate subscriber).1 with
        manData := manData, nextNode := nextNode }.modifyManager manager change)
      ⟨placed.registry.enroll manager slot placed.allocated, placed.allocated + 1⟩ := by
  have hentries : ∀ other entry, Function.update placed.registry slot
      (some (manager, placed.allocated)) other = some entry →
        other = slot ∧ entry.2 = placed.allocated ∨
          placed.registry other = some entry ∧ entry.2 < placed.allocated := by
    intro other entry hentry
    by_cases heq : other = slot
    · rw [heq, Function.update_self, Option.some.injEq] at hentry
      exact Or.inl ⟨heq, by rw [← hentry]⟩
    · rw [Function.update_of_ne heq] at hentry
      exact Or.inr ⟨hentry, (h.alive other entry hentry).1⟩
  rw [Registry.enroll, if_pos hfree]
  simp only [modifyManager, EventSystem.allocate, hdata, Option.map_some]
  constructor
  · rw [Accounted.iterators_update rfl]
    exact all
  · rw [Accounted.iterators_update rfl]
    exact key
  · rw [Accounted.iterators_update rfl]
    exact type
  · simp [h.allocated]
  · intro other other' entry entry' hentry hentry' heq
    rcases hentries other entry hentry with ⟨rfl, hnew⟩ | ⟨hold, hlt⟩ <;>
      rcases hentries other' entry' hentry' with ⟨rfl, hnew'⟩ | ⟨hold', hlt'⟩
    · rfl
    · exact absurd (heq.symm.trans hnew) (Nat.ne_of_lt hlt')
    · exact absurd (heq.trans hnew') (Nat.ne_of_lt hlt)
    · exact h.once other other' entry entry' hold hold' heq
  · intro other entry hentry
    rcases hentries other entry hentry with ⟨-, hnew⟩ | ⟨hold, -⟩
    · refine ⟨by simp [hnew], fun hdeleted => ?_⟩
      exact absurd hnew (Nat.ne_of_lt (h.spent entry.2 hdeleted))
    · obtain ⟨hlt, hlive⟩ := h.alive other entry hold
      exact ⟨Nat.lt_succ_of_lt hlt, hlive⟩
  · intro id hid
    exact Nat.lt_succ_of_lt (h.spent id hid)
  · intro other hother
    -- the manager that changed is a live one
    have hne : other ≠ manager := by
      rintro rfl
      simp [h.live other hother] at hdata
    exact (Function.update_of_ne hne ..).trans (h.live other hother)

/-- **An `enroll`** puts its subscriber in its place, if that is free. -/
theorem enroll (h : Refines system placed) (hdata : system.managers manager = some data)
    (enrolment : Enrolment) :
    Refines (system.enroll manager enrolment) (placed.step (.enroll manager enrolment)) := by
  rw [Placed.step]
  cases htarget : enrolment.target with
  | all =>
      have hslot : Slot.ofEnrolment enrolment = .all enrolment.name := by
        simp [Slot.ofEnrolment, htarget]
      simp only [EventSystem.enroll, htarget, enrollBase, hslot]
      split
      case isTrue hfind =>
          have hfree := (h.all.find_isNone_iff enrolment.name).mp hfind
          refine h.enroll_free hdata hfree ?_ (unchanged h.key hdata rfl fun _ => by simp)
            (unchanged h.type hdata rfl fun _ => by simp)
          rw [← h.allocated]
          exact inserted h.all hdata (fun _ _ => Slot.all.inj) hfree _
      case isFalse hfind =>
          exact h.enroll_taken _ fun hfree => hfind ((h.all.find_isNone_iff _).mpr hfree)
  | key keysym =>
      have hslot : Slot.ofEnrolment enrolment = .key keysym := by
        simp [Slot.ofEnrolment, htarget]
      simp only [EventSystem.enroll, htarget, enrollBaseKey, hslot]
      split
      case isTrue hfind =>
          have hfree := (h.key.find_isNone_iff keysym).mp hfind
          refine h.enroll_free hdata hfree (unchanged h.all hdata rfl fun _ => by simp) ?_
            (unchanged h.type hdata rfl fun _ => by simp)
          rw [← h.allocated]
          exact inserted h.key hdata (fun _ _ => Slot.key.inj) hfree (_, _)
      case isFalse hfind =>
          exact h.enroll_taken _ fun hfree => hfind ((h.key.find_isNone_iff _).mpr hfree)
  | type kind =>
      have hslot : Slot.ofEnrolment enrolment = .type kind := by
        simp [Slot.ofEnrolment, htarget]
      simp only [EventSystem.enroll, htarget, enrollBaseType, hslot]
      split
      case isTrue hfind =>
          have hfree := (h.type.find_isNone_iff kind).mp hfind
          refine h.enroll_free hdata hfree (unchanged h.all hdata rfl fun _ => by simp)
            (unchanged h.key hdata rfl fun _ => by simp) ?_
          rw [← h.allocated]
          exact inserted h.type hdata (fun _ _ => Slot.type.inj) hfree (_, _)
      case isFalse hfind =>
          exact h.enroll_taken _ fun hfree => hfind ((h.type.find_isNone_iff _).mpr hfree)

/-! ### Releasing -/

/-- **A `reset`** removes the callbacks of its manager from the registry. -/
theorem reset (h : Refines system placed) (hdata : system.managers manager = some data)
    (hreset : system.reset data = .ok system') :
    Refines system' { placed with registry := placed.registry.release manager } := by
  obtain ⟨⟨hall, hkey, htype⟩, hdeleted, hsame⟩ := reset_eq_ok hreset
  have hiters := Accounted.iterators_eq hdata
  -- only callbacks of the manager are deleted
  have hspent : ∀ id ∈ system'.deleted,
      id ∈ system.deleted ∨ ∃ slot, placed.registry slot = some (manager, id) := by
    intro id hid
    rcases hdeleted id hid with hold | ⟨node, hnode, hiter, rfl⟩ | ⟨node, hnode, hiter, rfl⟩ |
      ⟨node, hnode, hiter, rfl⟩
    · exact Or.inl hold
    · exact Or.inr ⟨_, h.all.entry_of_mem hnode (by rwa [hiters])⟩
    · exact Or.inr ⟨_, h.key.entry_of_mem hnode (by rwa [hiters])⟩
    · exact Or.inr ⟨_, h.type.entry_of_mem hnode (by rwa [hiters])⟩
  have hkept : ∀ slot entry, placed.registry.release manager slot = some entry →
      placed.registry slot = some entry ∧ entry.1 ≠ manager := by
    intro slot entry hentry
    obtain ⟨hold, hne⟩ := Option.filter_eq_some_iff.mp hentry
    exact ⟨hold, of_decide_eq_true hne⟩
  rw [← hiters EventManagerData.localCallbacks] at hall
  rw [← hiters EventManagerData.localKeyCallbacks] at hkey
  rw [← hiters EventManagerData.localTypeCallbacks] at htype
  constructor
  · rw [hsame]
    exact h.all.release hall
  · rw [hsame]
    exact h.key.release hkey
  · rw [hsame]
    exact h.type.release htype
  · rw [hsame]
    exact h.allocated
  · intro slot slot' entry entry' hentry hentry' heq
    exact h.once slot slot' entry entry' (hkept _ _ hentry).1 (hkept _ _ hentry').1 heq
  · intro slot entry hentry
    obtain ⟨hold, hne⟩ := hkept slot entry hentry
    refine ⟨(h.alive slot entry hold).1, fun hid => ?_⟩
    rcases hspent entry.2 hid with hbefore | ⟨slot', hentry'⟩
    · exact (h.alive slot entry hold).2 hbefore
    · have heq := h.once slot slot' entry _ hold hentry' rfl
      rw [heq, hentry', Option.some.injEq] at hold
      exact hne (by rw [← hold])
  · intro id hid
    rcases hspent id hid with hbefore | ⟨slot, hentry⟩
    · exact h.spent id hbefore
    · exact (h.alive slot _ hentry).1
  · rw [hsame]
    exact h.live

/-- **The destructor** forgets the iterators of the manager that it reset. -/
theorem destroy (h : Refines system placed)
    (hnone : ∀ slot entry, placed.registry slot = some entry → entry.1 ≠ manager) :
    Refines { system with managers := Function.update system.managers manager none } placed := by
  constructor
  · rw [Accounted.iterators_update rfl]
    exact h.all.forget fun name => hnone (.all name)
  · rw [Accounted.iterators_update rfl]
    exact h.key.forget fun keysym => hnone (.key keysym)
  · rw [Accounted.iterators_update rfl]
    exact h.type.forget fun kind => hnone (.type kind)
  · exact h.allocated
  · exact h.once
  · exact h.alive
  · exact h.spent
  · intro other hother
    by_cases heq : other = manager
    · exact heq ▸ Function.update_self ..
    · exact (Function.update_of_ne heq ..).trans (h.live other hother)

/-- **Step lemma.** An operation on the managers that ends well does to the registry what the
abstract one does. -/
theorem next (h : Refines system placed) {op : EventOp} (hstep : op.step system = .ok system') :
    Refines system' (placed.step op) := by
  cases op with
  | construct =>
      cases hstep
      exact h.construct
  | enroll manager enrolment =>
      cases hdata : system.managers manager with
      | none => simp [EventOp.step, hdata] at hstep
      | some data =>
          simp only [EventOp.step, hdata, Except.ok.injEq] at hstep
          exact hstep ▸ h.enroll hdata enrolment
  | reset manager =>
      cases hdata : system.managers manager with
      | none => simp [EventOp.step, hdata] at hstep
      | some data =>
          simp only [EventOp.step, hdata] at hstep
          exact h.reset hdata hstep
  | destroy manager =>
      cases hdata : system.managers manager with
      | none => simp [EventOp.step, hdata] at hstep
      | some data =>
          simp only [EventOp.step, hdata] at hstep
          cases hreset : system.reset data with
          | error => simp [hreset, bind, Except.bind] at hstep
          | ok released =>
              simp only [hreset, bind, Except.bind, pure, Except.pure, Except.ok.injEq] at hstep
              subst hstep
              refine (h.reset hdata hreset).destroy fun slot entry hentry => ?_
              exact of_decide_eq_true (Option.filter_eq_some_iff.mp hentry).2

end Refines

/-! ## Runs -/

/-- An event was given to the callbacks that the registry says. -/
def Delivered (delivery : Event × Registry) (call : Event × List SubscriberId) : Prop :=
  call.1 = delivery.1 ∧ delivery.2.Calls delivery.1 call.2

/-- **Run lemma.** The maps hold what is in the registry, and what was called is what the registry
said. -/
theorem Refines.run {session session' : WindowSession} {placed : Placed} {ops : List WindowOp}
    (h : Refines session.system placed) (hrun : runSteps WindowOp.step session ops = .ok session') :
    (∃ calls, session'.calls = session.calls ++ calls ∧
      List.Forall₂ Delivered (deliveries placed ops) calls) ∧
    ∃ placed', Refines session'.system placed' := by
  induction ops generalizing session placed with
  | nil =>
      cases hrun
      exact ⟨⟨[], (List.append_nil _).symm, .nil⟩, placed, h⟩
  | cons op ops ih =>
      obtain ⟨next, hstep, hrest⟩ := runSteps_cons_ok_iff.mp hrun
      cases op with
      | manage op =>
          obtain ⟨hop, hsame⟩ := WindowOp.step_manage hstep
          rw [← hsame]
          exact ih (h.next hop) hrest
      | handleEvents state events =>
          obtain ⟨hsame, hpushed⟩ := WindowOp.step_handleEvents hstep
          obtain ⟨⟨calls, hcalls, hdelivered⟩, hfinal⟩ := ih (hsame ▸ h) hrest
          refine ⟨⟨(events.filterMap convertEvent).map (fun event =>
            (event, session.system.manData.pushEvent event)) ++ calls, ?_, ?_⟩, hfinal⟩
          · rw [hcalls, hpushed, List.append_assoc]
          · refine List.rel_append ?_ hdelivered
            rw [List.forall₂_map_left_iff, List.forall₂_map_right_iff, List.forall₂_same]
            intro event _
            exact ⟨rfl, h.calls_pushEvent event⟩

/-- **The callbacks of a window are those of the registry.** In every run of operations on managers
and calls of `handleEvents` that uses no dangling iterator, each event that SDL reports is given to
the callbacks that are in the registry at that time, in their order, and no others. -/
theorem calls_refine (session : WindowSession) (ops : List WindowOp)
    (hrun : runSteps WindowOp.step {} ops = .ok session) :
    List.Forall₂ Delivered (deliveries {} ops) session.calls := by
  obtain ⟨⟨calls, hcalls, hdelivered⟩, -⟩ := Refines.start.run hrun
  rw [hcalls]
  exact hdelivered

/-- A callback for a key that is pressed while its manager lives, and again after that. -/
def pressTwice : List WindowOp :=
  [.manage .construct, .manage (.enroll 0 ⟨⟨none, 0⟩, .key .w, [97]⟩),
    .handleEvents ⟨0, 0⟩ [.keyDown .w, .keyUp .w], .manage (.destroy 0),
    .handleEvents ⟨0, 0⟩ [.keyDown .w]]

/-- A key is pressed before and after its manager is destroyed: each press is given to what is in
the registry at its time. -/
theorem calls_refine_pressTwice :
    ∃ session, runSteps WindowOp.step {} pressTwice = .ok session ∧
      List.Forall₂ Delivered (deliveries {} pressTwice) session.calls :=
  ⟨_, rfl, calls_refine _ pressTwice rfl⟩

example : ∃ session, runSteps WindowOp.step {} pressTwice = .ok session ∧
    session.calls = [(⟨.keyDown, .w⟩, [0]), (⟨.keyUp, .w⟩, [0]), (⟨.keyDown, .w⟩, [])] :=
  ⟨_, rfl, by decide⟩

/-- **No callback is called that was deleted.** In every state that such a run reaches, an event is
given to each callback at most once, and only to callbacks that were allocated and not deleted. -/
theorem called_alive (session : WindowSession) (ops : List WindowOp)
    (hrun : runSteps WindowOp.step {} ops = .ok session) (event : Event) :
    (session.system.manData.pushEvent event).Nodup ∧
      ∀ id ∈ session.system.manData.pushEvent event,
        id < session.system.subscribers.length ∧ id ∉ session.system.deleted := by
  obtain ⟨-, placed, h⟩ := Refines.start.run hrun
  obtain ⟨slots, hordered, -, hcalls⟩ := h.calls_pushEvent event
  rw [hcalls]
  constructor
  · refine List.Nodup.filterMap ?_ (hordered.imp fun hbefore heq => ?_)
    · intro slot slot' id hid hid'
      obtain ⟨entry, hentry, rfl⟩ := Option.map_eq_some_iff.mp hid
      obtain ⟨entry', hentry', heq⟩ := Option.map_eq_some_iff.mp hid'
      exact h.once slot slot' entry entry' hentry hentry' heq.symm
    · exact Slot.not_before_self _ (heq ▸ hbefore)
  · intro id hid
    obtain ⟨slot, -, hslot⟩ := List.mem_filterMap.mp hid
    obtain ⟨entry, hentry, rfl⟩ := Option.map_eq_some_iff.mp hslot
    rw [h.allocated]
    exact h.alive slot entry hentry

/-- After the presses a third one reaches nothing that was deleted. -/
theorem called_alive_pressTwice :
    ∃ session, runSteps WindowOp.step {} pressTwice = .ok session ∧
      (session.system.manData.pushEvent ⟨.keyDown, .w⟩).Nodup ∧
        ∀ id ∈ session.system.manData.pushEvent ⟨.keyDown, .w⟩,
          id < session.system.subscribers.length ∧ id ∉ session.system.deleted :=
  ⟨_, rfl, called_alive _ pressTwice rfl ⟨.keyDown, .w⟩⟩

end Nyx.Events
