import Nyx.Events.EventManagers
import Nyx.Foundations.NodeOwners

/-! # Who owns the entries of the callback maps

A manager remembers the entries it made by iterators in its local lists. `EventManager::reset`
erases these entries and deletes their subscribers, but it leaves the iterators in the lists, where
a second `reset` and the destructor meet them again.

* **`EventSystem.Owns`** — each entry of the three maps belongs to one iterator of one live manager,
  no iterator dangles, and no subscriber was deleted twice.
* **`Accounted`** — the invariant behind it: each subscriber is at most once in the maps or among
  those deleted.
* **`Accounted.reset`** — what the loops of `reset` do to maps that are accounted for.
* **`entries_owned_iff`** — the entries stay owned in a run exactly when `reset` is only called on
  managers that made no entry. -/

namespace Nyx.Events

open Foundations

/-! ## Ownership -/

namespace EventSystem

/-- The iterators in one of the local lists of a manager; one that is not live has none. -/
def iterators (system : EventSystem) (select : EventManagerData → List Nat) (manager : Nat) :
    List Nat :=
  ((system.managers manager).map select).getD []

/-- **Ownership.** The entries of each map and the iterators of the live managers are in step, and
no subscriber has been deleted more than once. -/
structure Owns (system : EventSystem) : Prop where
  callbacks : Owned system.manData.callbacks (system.iterators EventManagerData.localCallbacks)
  keyCallbacks :
    Owned system.manData.keyCallbacks (system.iterators EventManagerData.localKeyCallbacks)
  typeCallbacks :
    Owned system.manData.typeCallbacks (system.iterators EventManagerData.localTypeCallbacks)
  deletedOnce : system.deleted.Nodup

/-- The entries of all managers but one are in place. -/
structure KeepsOthers (manager : Nat) (system system' : EventSystem) : Prop where
  callbacks : ∀ other, other ≠ manager → ∀ node ∈ system.manData.callbacks.nodes,
    node.id ∈ system.iterators EventManagerData.localCallbacks other →
      node ∈ system'.manData.callbacks.nodes
  keyCallbacks : ∀ other, other ≠ manager → ∀ node ∈ system.manData.keyCallbacks.nodes,
    node.id ∈ system.iterators EventManagerData.localKeyCallbacks other →
      node ∈ system'.manData.keyCallbacks.nodes
  typeCallbacks : ∀ other, other ≠ manager → ∀ node ∈ system.manData.typeCallbacks.nodes,
    node.id ∈ system.iterators EventManagerData.localTypeCallbacks other →
      node ∈ system'.manData.typeCallbacks.nodes

end EventSystem

namespace EventOp

/-- The manager whose entries an operation removes, if it removes any. -/
def removes : EventOp → Option Nat
  | .reset manager | .destroy manager => some manager
  | .construct | .enroll .. => none

/-- What is asked of an operation: it uses no dangling iterator, the entries are owned after it, and
one that removes entries leaves those of the other managers in place. -/
def EndsWell (system : EventSystem) (op : EventOp) : Prop :=
  op.step system ≠ .error .danglingIterator ∧ ∀ system', op.step system = .ok system' →
    system'.Owns ∧ ∀ manager ∈ op.removes, EventSystem.KeepsOthers manager system system'

/-- A `reset` comes only on a manager that has made no entry. -/
def Lawful (system : EventSystem) : EventOp → Prop
  | .reset manager => ∀ data ∈ system.managers manager, data = {}
  | .construct | .enroll .. | .destroy _ => True

end EventOp

/-! ## The invariant -/

section Tracked

variable {κ α : Type} [Ord κ] {map : Multimap κ α} {iterators : Nat → List Nat} {nextNode : Nat}

/-- A map that is in step with the iterators, its nodes with names of their own. -/
structure Tracked (nextNode : Nat) (map : Multimap κ α) (iterators : Nat → List Nat) : Prop where
  owned : Owned map iterators
  distinct : (map.nodes.map Node.id).Nodup
  bounded : ∀ node ∈ map.nodes, node.id < nextNode

namespace Tracked

/-- The map and its iterators stay tracked when names are given to nodes of other maps. -/
theorem mono {nextNode' : Nat} (h : Tracked nextNode map iterators) (hle : nextNode ≤ nextNode') :
    Tracked nextNode' map iterators where
  owned := h.owned
  distinct := h.distinct
  bounded node hnode := Nat.lt_of_lt_of_le (h.bounded node hnode) hle

/-- An insertion under the next name, whose iterator a manager remembers, keeps the map and its
iterators tracked. -/
theorem insert [Std.TransOrd κ] (h : Tracked nextNode map iterators) (manager : Nat) (k : κ)
    (value : α) :
    Tracked (nextNode + 1) (map.insert ⟨nextNode, k, value⟩)
      (Function.update iterators manager (iterators manager ++ [nextNode])) := by
  have hfresh : ∀ node ∈ map.nodes, node.id ≠ nextNode := by
    intro node hnode
    have hlt := h.bounded node hnode
    omega
  have hperm := map.perm_insert ⟨nextNode, k, value⟩
  refine ⟨h.owned.insert hfresh manager, ?_, ?_⟩
  · rw [(hperm.map Node.id).nodup_iff, List.map_cons, List.nodup_cons]
    refine ⟨?_, h.distinct⟩
    intro hmem
    obtain ⟨node, hnode, heq⟩ := List.mem_map.mp hmem
    exact hfresh node hnode heq
  · intro node hnode
    rcases List.mem_cons.mp (hperm.subset hnode) with rfl | hold
    · exact Nat.lt_succ_self nextNode
    · exact Nat.lt_succ_of_lt (h.bounded node hold)

/-- When the entries of a manager are erased and it forgets its iterators, the map and the iterators
stay tracked. -/
theorem release {map' : Multimap κ α} (h : Tracked nextNode map iterators) {manager : Nat}
    (hnodes : map'.nodes = map.nodes.filter (·.id ∉ iterators manager)) :
    Tracked nextNode map' (Function.update iterators manager []) where
  owned := h.owned.release hnodes
  distinct := by
    rw [hnodes]
    exact h.distinct.sublist (List.filter_sublist.map _)
  bounded node hnode := by
    rw [hnodes] at hnode
    exact h.bounded node (List.mem_of_mem_filter hnode)

/-- The entries of a manager that are erased with its iterators are not those of another. -/
theorem mem_of_other {map' : Multimap κ α} (h : Tracked nextNode map iterators)
    {manager other : Nat} (hnodes : map'.nodes = map.nodes.filter (·.id ∉ iterators manager))
    (hne : other ≠ manager) {node : Node κ α} (hnode : node ∈ map.nodes)
    (hid : node.id ∈ iterators other) : node ∈ map'.nodes := by
  rw [hnodes, List.mem_filter, decide_eq_true_eq]
  exact ⟨hnode, fun hown => hne (h.owned.owner_eq hid hown)⟩

end Tracked

/-- **The loops of `reset`.** With iterators to different entries they end well: just these entries
are erased, and their subscribers go from the map to those deleted. -/
theorem EventSystem.release_ok (value : α → SubscriberId) (deleted : List SubscriberId)
    {iters : List Nat} (hdistinct : (map.nodes.map Node.id).Nodup) (hnodup : iters.Nodup)
    (hexisting : ∀ id ∈ iters, ∃ node ∈ map.nodes, node.id = id) :
    ∃ map' deleted', EventSystem.release value map deleted iters = .ok (map', deleted') ∧
      map'.nodes = map.nodes.filter (·.id ∉ iters) ∧
      (map'.nodes.map (value ·.value) ++ deleted').Perm
        (map.nodes.map (value ·.value) ++ deleted) := by
  induction iters generalizing map deleted with
  | nil => exact ⟨map, deleted, rfl, by simp, .refl _⟩
  | cons iter rest ih =>
      obtain ⟨hiter, hrest⟩ := List.nodup_cons.mp hnodup
      cases hfind : map.nodes.find? (·.id = iter) with
      | none =>
          obtain ⟨node, hnode, heq⟩ := hexisting iter List.mem_cons_self
          exact absurd heq (by simpa using List.find?_eq_none.mp hfind node hnode)
      | some node =>
          have hid : node.id = iter := of_decide_eq_true
            (List.find?_some (p := fun node : Node κ α => node.id = iter) hfind)
          have hperm := map.perm_erase hdistinct (List.mem_of_find?_eq_some hfind)
          rw [hid] at hperm
          obtain ⟨map', deleted', hrelease, hnodes, hmoved⟩ :=
            @ih (map.erase iter) (deleted ++ [value node.value])
              (hdistinct.sublist (List.filter_sublist.map _)) hrest fun id hmem => by
                obtain ⟨other, hother, rfl⟩ := hexisting id (List.mem_cons_of_mem _ hmem)
                refine ⟨other, List.mem_filter.mpr ⟨hother, ?_⟩, rfl⟩
                simpa using fun heq : other.id = iter => hiter (heq ▸ hmem)
          refine ⟨map', deleted', by rw [EventSystem.release, hfind, ← hrelease], ?_, ?_⟩
          · rw [hnodes, Multimap.erase, List.filter_filter]
            refine List.filter_congr fun other _ => ?_
            by_cases heq : other.id = iter <;> simp [heq]
          · refine hmoved.trans ?_
            -- the subscriber of the entry moves behind those deleted before
            have hvalues := (hperm.map (value ·.value)).append_right deleted
            refine List.Perm.trans ?_ hvalues.symm
            rw [List.map_cons, List.cons_append, ← List.append_assoc]
            exact List.perm_append_singleton ..

end Tracked

namespace EventSystem

/-- The subscribers in the entries of the three maps, one after another. -/
def enrolled (system : EventSystem) : List SubscriberId :=
  system.manData.callbacks.nodes.map Node.value ++
    system.manData.keyCallbacks.nodes.map (fun node => node.value.2) ++
    system.manData.typeCallbacks.nodes.map fun node => node.value.2

end EventSystem

/-- **Everything is accounted for**: the maps are in step with the managers, and each subscriber is
in at most one entry or was deleted once. -/
structure Accounted (system : EventSystem) : Prop where
  callbacks : Tracked system.nextNode system.manData.callbacks
    (system.iterators EventManagerData.localCallbacks)
  keyCallbacks : Tracked system.nextNode system.manData.keyCallbacks
    (system.iterators EventManagerData.localKeyCallbacks)
  typeCallbacks : Tracked system.nextNode system.manData.typeCallbacks
    (system.iterators EventManagerData.localTypeCallbacks)
  once : (system.enrolled ++ system.deleted).Nodup
  allocated : ∀ id ∈ system.enrolled ++ system.deleted, id < system.subscribers.length
  live : ∀ manager, system.nextManager ≤ manager → system.managers manager = none

namespace Accounted

open EventSystem

variable {system system' : EventSystem} {manager : Nat} {data : EventManagerData}

/-- When everything is accounted for, each entry of the maps is owned by one manager. -/
theorem owns (h : Accounted system) : system.Owns where
  callbacks := h.callbacks.owned
  keyCallbacks := h.keyCallbacks.owned
  typeCallbacks := h.typeCallbacks.owned
  deletedOnce := (List.nodup_append.mp h.once).2.1

/-- In a program without managers nothing is enrolled, and so everything is accounted for. -/
theorem start : Accounted {} where
  callbacks := ⟨.empty, List.nodup_nil, fun _ hnode => absurd hnode List.not_mem_nil⟩
  keyCallbacks := ⟨.empty, List.nodup_nil, fun _ hnode => absurd hnode List.not_mem_nil⟩
  typeCallbacks := ⟨.empty, List.nodup_nil, fun _ hnode => absurd hnode List.not_mem_nil⟩
  once := List.nodup_nil
  allocated _ hid := absurd hid List.not_mem_nil
  live _ _ := rfl

/-- The iterators of a manager that is alive are those of its data. -/
theorem iterators_eq (hdata : system.managers manager = some data)
    (select : EventManagerData → List Nat) : system.iterators select manager = select data := by
  simp [iterators, hdata]

/-- After the data of one manager changed, its iterators are those of the new data, and the others
have theirs. -/
theorem iterators_update {value : Option EventManagerData}
    (hmanagers : system'.managers = Function.update system.managers manager value)
    (select : EventManagerData → List Nat) :
    system'.iterators select
      = Function.update (system.iterators select) manager ((value.map select).getD []) := by
  funext other
  by_cases heq : other = manager
  · subst heq
    simp [iterators, hmanagers]
  · simp [iterators, hmanagers, Function.update_of_ne heq]

/-! ## Enrolling -/

/-- A list that a change of one manager leaves as it is stays tracked for all of them. -/
theorem tracked_same {κ α : Type} [Ord κ] {map : Multimap κ α}
    {select : EventManagerData → List Nat} {nextNode : Nat}
    (h : Tracked nextNode map (system.iterators select))
    (hdata : system.managers manager = some data) {data' : EventManagerData}
    (hsame : select data' = select data) :
    Tracked (nextNode + 1) map
      (Function.update (system.iterators select) manager (select data')) := by
  rw [hsame, ← iterators_eq hdata select, Function.update_eq_self]
  exact h.mono (Nat.le_succ nextNode)

/-- A new subscriber in one of the maps, remembered by the manager that it belongs to, keeps
everything accounted for. -/
theorem of_added (h : Accounted system) (hdata : system.managers manager = some data)
    {change : EventManagerData → EventManagerData} {subscriber : SubscriberId}
    (hnew : subscriber ∉ system.enrolled ++ system.deleted)
    (hlt : subscriber < system.subscribers.length) {manData : StaticEventManagerData}
    {nextNode : Nat}
    (hperm : { system with manData := manData }.enrolled.Perm (subscriber :: system.enrolled))
    (callbacks : Tracked nextNode manData.callbacks (Function.update
      (system.iterators EventManagerData.localCallbacks) manager (change data).localCallbacks))
    (keyCallbacks : Tracked nextNode manData.keyCallbacks
      (Function.update (system.iterators EventManagerData.localKeyCallbacks) manager
        (change data).localKeyCallbacks))
    (typeCallbacks : Tracked nextNode manData.typeCallbacks
      (Function.update (system.iterators EventManagerData.localTypeCallbacks) manager
        (change data).localTypeCallbacks)) :
    Accounted ({ system with manData := manData, nextNode := nextNode }.modifyManager manager
      change) := by
  have hall := hperm.append_right system.deleted
  simp only [modifyManager, hdata, Option.map_some]
  constructor
  · rw [iterators_update rfl]
    exact callbacks
  · rw [iterators_update rfl]
    exact keyCallbacks
  · rw [iterators_update rfl]
    exact typeCallbacks
  · refine hall.nodup_iff.mpr ?_
    rw [List.cons_append, List.nodup_cons]
    exact ⟨hnew, h.once⟩
  · intro id hid
    have hmem := hall.mem_iff.mp hid
    rw [List.cons_append] at hmem
    rcases List.mem_cons.mp hmem with rfl | hold
    · exact hlt
    · exact h.allocated id hold
  · intro other hother
    -- the manager that changed is a live one
    have hne : other ≠ manager := by
      rintro rfl
      simp [h.live other hother] at hdata
    exact (Function.update_of_ne hne ..).trans (h.live other hother)

/-- An allocation of a subscriber that is in no map yet keeps everything accounted for. -/
theorem allocate (h : Accounted system) (subscriber : Subscriber) :
    Accounted (system.allocate subscriber).1 where
  callbacks := h.callbacks
  keyCallbacks := h.keyCallbacks
  typeCallbacks := h.typeCallbacks
  once := h.once
  allocated id hid := by
    have hlt : id < system.subscribers.length := h.allocated id hid
    simp only [EventSystem.allocate, List.length_append, List.length_singleton]
    exact Nat.lt_succ_of_lt hlt
  live := h.live

section

variable {subscriber : SubscriberId}

/-- An entry for all events is added unless the name is taken; either way everything stays accounted
for. -/
theorem enrollBase (h : Accounted system) (hdata : system.managers manager = some data)
    (hnew : subscriber ∉ system.enrolled ++ system.deleted)
    (hlt : subscriber < system.subscribers.length) (name : Name) :
    Accounted (system.enrollBase manager subscriber name) := by
  rw [EventSystem.enrollBase]
  split
  · refine h.of_added hdata hnew hlt ?_ ?_ (tracked_same h.keyCallbacks hdata rfl)
      (tracked_same h.typeCallbacks hdata rfl)
    · exact (((system.manData.callbacks.perm_insert _).map _).append_right _).append_right _
    · rw [← iterators_eq hdata EventManagerData.localCallbacks]
      exact h.callbacks.insert ..
  · exact h

/-- An entry for a key is added unless the key has one; either way everything stays accounted
for. -/
theorem enrollBaseKey (h : Accounted system) (hdata : system.managers manager = some data)
    (hnew : subscriber ∉ system.enrolled ++ system.deleted)
    (hlt : subscriber < system.subscribers.length) (keysym : Key) (name : Name) :
    Accounted (system.enrollBaseKey manager subscriber keysym name) := by
  rw [EventSystem.enrollBaseKey]
  split
  · refine h.of_added hdata hnew hlt ?_ (tracked_same h.callbacks hdata rfl) ?_
      (tracked_same h.typeCallbacks hdata rfl)
    · refine List.Perm.trans ?_ (List.perm_middle.append_right _)
      exact (((system.manData.keyCallbacks.perm_insert _).map _).append_left _).append_right _
    · rw [← iterators_eq hdata EventManagerData.localKeyCallbacks]
      exact h.keyCallbacks.insert ..
  · exact h

/-- An entry for a type is added unless the type has one; either way everything stays accounted
for. -/
theorem enrollBaseType (h : Accounted system) (hdata : system.managers manager = some data)
    (hnew : subscriber ∉ system.enrolled ++ system.deleted)
    (hlt : subscriber < system.subscribers.length) (type : EventType) (name : Name) :
    Accounted (system.enrollBaseType manager subscriber type name) := by
  rw [EventSystem.enrollBaseType]
  split
  · refine h.of_added hdata hnew hlt ?_ (tracked_same h.callbacks hdata rfl)
      (tracked_same h.keyCallbacks hdata rfl) ?_
    · refine List.Perm.trans ?_ List.perm_middle
      exact ((system.manData.typeCallbacks.perm_insert _).map _).append_left _
    · rw [← iterators_eq hdata EventManagerData.localTypeCallbacks]
      exact h.typeCallbacks.insert ..
  · exact h

/-- **An `enroll`** for any target keeps everything accounted for, whether it adds an entry or
not. -/
theorem enroll (h : Accounted system) (hdata : system.managers manager = some data)
    (enrolment : Enrolment) : Accounted (system.enroll manager enrolment) := by
  have hallocated := h.allocate enrolment.subscriber
  have hnew : system.subscribers.length ∉ system.enrolled ++ system.deleted := by
    intro hmem
    exact Nat.lt_irrefl _ (h.allocated _ hmem)
  have hlt : system.subscribers.length
      < (system.allocate enrolment.subscriber).1.subscribers.length := by
    simp [EventSystem.allocate]
  cases htarget : enrolment.target with
  | all =>
      simp only [EventSystem.enroll, htarget]
      exact hallocated.enrollBase hdata hnew hlt _
  | key keysym =>
      simp only [EventSystem.enroll, htarget]
      exact hallocated.enrollBaseKey hdata hnew hlt _ _
  | type type =>
      simp only [EventSystem.enroll, htarget]
      exact hallocated.enrollBaseType hdata hnew hlt _ _

end

/-! ## Resetting -/

/-- What `reset` does to maps that are accounted for: it erases the entries of the manager, moves
their subscribers to those deleted, and changes nothing else. -/
structure Released (system : EventSystem) (data : EventManagerData) (system' : EventSystem) :
    Prop where
  callbacks : system'.manData.callbacks.nodes
    = system.manData.callbacks.nodes.filter (·.id ∉ data.localCallbacks)
  keyCallbacks : system'.manData.keyCallbacks.nodes
    = system.manData.keyCallbacks.nodes.filter (·.id ∉ data.localKeyCallbacks)
  typeCallbacks : system'.manData.typeCallbacks.nodes
    = system.manData.typeCallbacks.nodes.filter (·.id ∉ data.localTypeCallbacks)
  moved : (system'.enrolled ++ system'.deleted).Perm (system.enrolled ++ system.deleted)
  managers : system'.managers = system.managers
  nextManager : system'.nextManager = system.nextManager
  subscribers : system'.subscribers = system.subscribers
  nextNode : system'.nextNode = system.nextNode

/-- **A `reset` ends well** when everything is accounted for: it releases the entries of the manager
and no others. -/
theorem reset (h : Accounted system) (hdata : system.managers manager = some data) :
    ∃ system', system.reset data = .ok system' ∧ Released system data system' := by
  have hiters := iterators_eq hdata
  obtain ⟨callbacks, deleted, hfirst, hcallbacks, hmoved⟩ := release_ok id system.deleted
    h.callbacks.distinct (h.callbacks.owned.nodup manager)
    (h.callbacks.owned.existing manager)
  obtain ⟨keyCallbacks, deleted', hsecond, hkeyCallbacks, hmoved'⟩ := release_ok Prod.snd
    deleted h.keyCallbacks.distinct (h.keyCallbacks.owned.nodup manager)
    (h.keyCallbacks.owned.existing manager)
  obtain ⟨typeCallbacks, deleted'', hthird, htypeCallbacks, hmoved''⟩ := release_ok Prod.snd
    deleted' h.typeCallbacks.distinct (h.typeCallbacks.owned.nodup manager)
    (h.typeCallbacks.owned.existing manager)
  rw [hiters] at hfirst hcallbacks hsecond hkeyCallbacks hthird htypeCallbacks
  refine ⟨{ system with
    manData := ⟨callbacks, keyCallbacks, typeCallbacks⟩
    deleted := deleted'' }, ?_, hcallbacks, hkeyCallbacks, htypeCallbacks, ?_, rfl, rfl, rfl, rfl⟩
  · simp only [EventSystem.reset, hfirst, hsecond, hthird, Except.bind, bind, pure, Except.pure]
  · -- each loop moves subscribers from its map to those deleted
    refine List.perm_iff_count.mpr fun id => ?_
    have hcount : (callbacks.nodes.map Node.value ++ deleted).count id
        = (system.manData.callbacks.nodes.map Node.value ++ system.deleted).count id :=
      hmoved.count_eq id
    have hcount' := hmoved'.count_eq id
    have hcount'' := hmoved''.count_eq id
    simp only [List.count_append] at hcount hcount' hcount''
    simp only [enrolled, List.count_append]
    omega

/-- The destructor forgets the iterators of the manager that it reset. -/
theorem destroy (h : Accounted system) (hdata : system.managers manager = some data)
    (hreleased : Released system data system') :
    Accounted { system' with managers := Function.update system'.managers manager none } := by
  have hiters := iterators_eq hdata
  have hmanagers : Function.update system'.managers manager none
      = Function.update system.managers manager none := by
    rw [hreleased.managers]
  constructor
  · rw [hreleased.nextNode, iterators_update hmanagers]
    refine h.callbacks.release ?_
    rw [hiters]
    exact hreleased.callbacks
  · rw [hreleased.nextNode, iterators_update hmanagers]
    refine h.keyCallbacks.release ?_
    rw [hiters]
    exact hreleased.keyCallbacks
  · rw [hreleased.nextNode, iterators_update hmanagers]
    refine h.typeCallbacks.release ?_
    rw [hiters]
    exact hreleased.typeCallbacks
  · exact hreleased.moved.nodup_iff.mpr h.once
  · intro id hid
    rw [hreleased.subscribers]
    exact h.allocated id (hreleased.moved.mem_iff.mp hid)
  · intro other hother
    rw [hreleased.nextManager] at hother
    show Function.update system'.managers manager none other = none
    rw [hmanagers]
    by_cases heq : other = manager
    · rw [heq, Function.update_self]
    · rw [Function.update_of_ne heq]
      exact h.live other hother

/-- The entries of the other managers are in place after a `reset`. -/
theorem keepsOthers (h : Accounted system) (hdata : system.managers manager = some data)
    (hreleased : Released system data system') : KeepsOthers manager system system' := by
  have hiters := iterators_eq hdata
  constructor
  · intro other hne node hnode hid
    refine h.callbacks.mem_of_other ?_ hne hnode hid
    rw [hiters]
    exact hreleased.callbacks
  · intro other hne node hnode hid
    refine h.keyCallbacks.mem_of_other ?_ hne hnode hid
    rw [hiters]
    exact hreleased.keyCallbacks
  · intro other hne node hnode hid
    refine h.typeCallbacks.mem_of_other ?_ hne hnode hid
    rw [hiters]
    exact hreleased.typeCallbacks

/-- **The iterators that `reset` leaves behind.** The entries are owned after a `reset` only if the
manager had made none. -/
theorem eq_empty_of_owns (hdata : system.managers manager = some data)
    (hreleased : Released system data system') (howns : system'.Owns) : data = {} := by
  have hdata' : system'.managers manager = some data := by
    rw [hreleased.managers, hdata]
  have hiters := iterators_eq hdata'
  -- an iterator left refers to an entry that was erased
  have hnone : ∀ {κ α : Type} [Ord κ] {map map' : Multimap κ α}
      {select : EventManagerData → List Nat}, Owned map' (system'.iterators select) →
      map'.nodes = map.nodes.filter (·.id ∉ select data) → select data = [] := by
    intro κ α _ map map' select howned hnodes
    rw [List.eq_nil_iff_forall_not_mem]
    intro id hid
    obtain ⟨node, hnode, rfl⟩ := howned.existing manager id (by rwa [hiters])
    rw [hnodes, List.mem_filter, decide_eq_true_eq] at hnode
    exact hnode.2 hid
  have hcallbacks := hnone howns.callbacks hreleased.callbacks
  have hkeyCallbacks := hnone howns.keyCallbacks hreleased.keyCallbacks
  have htypeCallbacks := hnone howns.typeCallbacks hreleased.typeCallbacks
  cases data
  simp_all

/-! ## Runs -/

/-- A manager that is constructed has no iterators, so everything stays accounted for. -/
theorem construct (h : Accounted system) : Accounted { system with
    managers := Function.update system.managers system.nextManager (some {})
    nextManager := system.nextManager + 1 } := by
  have hnone : system.managers system.nextManager = none := h.live _ (Nat.le_refl _)
  have hsame : ∀ select : EventManagerData → List Nat, select {} = [] →
      Function.update (system.iterators select) system.nextManager (select {})
        = system.iterators select := by
    intro select hselect
    have hnil : system.iterators select system.nextManager = select {} := by
      simp [iterators, hnone, hselect]
    rw [← hnil, Function.update_eq_self]
  constructor
  · rw [iterators_update rfl]
    exact (hsame EventManagerData.localCallbacks rfl).symm ▸ h.callbacks
  · rw [iterators_update rfl]
    exact (hsame EventManagerData.localKeyCallbacks rfl).symm ▸ h.keyCallbacks
  · rw [iterators_update rfl]
    exact (hsame EventManagerData.localTypeCallbacks rfl).symm ▸ h.typeCallbacks
  · exact h.once
  · exact h.allocated
  · intro other hother
    have hlt : system.nextManager < other := hother
    have hne : other ≠ system.nextManager := by omega
    exact (Function.update_of_ne hne ..).trans (h.live other (by omega))

/-- **What an operation comes to** when everything is accounted for: a call on a manager that is not
live, or a state whose entries are owned exactly when the operation is lawful. -/
theorem step_spec (h : Accounted system) (op : EventOp) :
    (op.step system = .error .deadManager ∧ op.Lawful system) ∨
      ∃ system', op.step system = .ok system' ∧ (op.Lawful system ↔ system'.Owns) ∧
        (op.Lawful system → Accounted system') ∧
        ∀ manager ∈ op.removes, KeepsOthers manager system system' := by
  cases op with
  | construct =>
      have hnext := h.construct
      exact Or.inr ⟨_, rfl, iff_of_true trivial hnext.owns, fun _ => hnext,
        fun _ hmem => absurd hmem (by simp [EventOp.removes])⟩
  | enroll manager enrolment =>
      cases hdata : system.managers manager with
      | none => exact Or.inl ⟨by simp [EventOp.step, hdata], trivial⟩
      | some data =>
          have hnext := h.enroll hdata enrolment
          exact Or.inr ⟨_, by simp [EventOp.step, hdata], iff_of_true trivial hnext.owns,
            fun _ => hnext, fun _ hmem => absurd hmem (by simp [EventOp.removes])⟩
  | reset manager =>
      cases hdata : system.managers manager with
      | none => exact Or.inl ⟨by simp [EventOp.step, hdata], by simp [EventOp.Lawful, hdata]⟩
      | some data =>
          obtain ⟨system', hreset, hreleased⟩ := h.reset hdata
          have hlawful : (EventOp.reset manager).Lawful system ↔ data = {} := by
            simp [EventOp.Lawful, hdata]
          -- without entries the loops do nothing
          have hsame : data = {} → Accounted system' := by
            rintro rfl
            cases hreset
            exact h
          refine Or.inr ⟨system', by simp [EventOp.step, hdata, hreset], ?_, ?_, ?_⟩
          · rw [hlawful]
            exact ⟨fun hempty => (hsame hempty).owns, eq_empty_of_owns hdata hreleased⟩
          · exact fun hreset => hsame (hlawful.mp hreset)
          · rintro _ ⟨⟩
            exact h.keepsOthers hdata hreleased
  | destroy manager =>
      cases hdata : system.managers manager with
      | none => exact Or.inl ⟨by simp [EventOp.step, hdata], trivial⟩
      | some data =>
          obtain ⟨system', hreset, hreleased⟩ := h.reset hdata
          have hnext := h.destroy hdata hreleased
          refine Or.inr ⟨_, by simp only [EventOp.step, hdata, hreset]; rfl,
            iff_of_true trivial hnext.owns, fun _ => hnext, ?_⟩
          rintro _ ⟨⟩
          obtain ⟨callbacks, keyCallbacks, typeCallbacks⟩ := h.keepsOthers hdata hreleased
          exact ⟨callbacks, keyCallbacks, typeCallbacks⟩

/-- **One operation** ends well, where everything is accounted for, exactly when it is lawful. -/
theorem endsWell_iff (h : Accounted system) (op : EventOp) :
    op.EndsWell system ↔ op.Lawful system := by
  rcases h.step_spec op with ⟨hdead, hlawful⟩ | ⟨system', hok, howns, -, hkeeps⟩
  · simp [EventOp.EndsWell, hdead, hlawful]
  · rw [howns]
    constructor
    · exact fun hends => (hends.2 system' hok).1
    · intro howns'
      refine ⟨by simp [hok], fun other hother => ?_⟩
      rw [hok, Except.ok.injEq] at hother
      exact hother ▸ ⟨howns', hkeeps⟩

/-- A lawful operation that succeeds keeps everything accounted for. -/
theorem of_step (h : Accounted system) {op : EventOp} (hlawful : op.Lawful system)
    (hstep : op.step system = .ok system') : Accounted system' := by
  rcases h.step_spec op with ⟨hdead, -⟩ | ⟨next, hok, -, hnext, -⟩
  · simp [hdead] at hstep
  · rw [hok, Except.ok.injEq] at hstep
    exact hstep ▸ hnext hlawful

end Accounted

/-- **When the entries stay owned.** In every state that constructing, enrolling, resetting and
destroying managers in any order can reach, each entry belongs to one iterator of one live manager,
no iterator dangles, no subscriber is deleted twice and the entries of other managers are in place,
if and only if `reset` is only called on managers that have made no entry. -/
theorem entries_owned_iff (ops : List EventOp) :
    StepsMeet EventOp.step EventOp.EndsWell {} ops ↔
      StepsMeet EventOp.step EventOp.Lawful {} ops :=
  stepsMeet_congr Accounted (fun _ op h => h.endsWell_iff op)
    (fun _ _ _ h hlawful hstep => h.of_step hlawful hstep) .start

/-- A manager that is reset after an `enroll` keeps an iterator to the entry that was erased. -/
theorem not_entries_owned :
    ¬ ∀ ops : List EventOp, StepsMeet EventOp.step EventOp.EndsWell {} ops := by
  intro h
  have hsteps := h [.construct, .enroll 0 ⟨⟨none, 0⟩, .all, [97]⟩, .reset 0]
  obtain ⟨howns, -⟩ := ((hsteps.2 _ rfl).2 _ rfl).1.2 _ rfl
  obtain ⟨node, hnode, -⟩ := howns.callbacks.existing 0 0 (by decide)
  exact List.not_mem_nil hnode

end Nyx.Events
