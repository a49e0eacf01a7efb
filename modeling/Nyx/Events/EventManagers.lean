import Nyx.Foundations.Multimaps
import Nyx.Foundations.StepMachines

/-! # Event managers

`nyx::EventManager` objects enroll subscribers for all events, for a key or for a type of event. The
subscribers are in three multimaps that all managers share; each manager keeps iterators to the
entries it made, and removes these when it is reset or destroyed.

* **`StaticEventManagerData`**, **`EventManagerData`** — the shared maps, the fields of a manager.
* **`EventSystem`** — all managers of a program, with the subscribers they allocated.
* **`EventSystem.enroll`** — the forms of `enroll`.
* **`StaticEventManagerData.pushEvent`** — the subscribers an event is given to, in order.
* **`EventOp`**, **`EventOp.step`** — the operations as inputs of a machine. The use of an iterator
  whose entry was erased is a failure. -/

namespace Nyx.Events

open Foundations

/-! ## Events -/

/-- `nyx::Key`: the keys that callbacks can be enrolled for. -/
inductive Key
  | none | esc | f1 | f2 | f3 | f4 | f5 | f6 | f7 | f8 | f9 | f10 | f11 | f12 | backtick
  | one | two | three | four | five | six | seven | eight | nine | zero | hyphen | equals
  | backspace | lTab | q | w | e | r | t | y | u | i | o | p | lBracket | rBracket | bSlash
  | capslock | a | s | d | f | g | h | j | k | l | semicolon | apostraphe | returnKey | lShift
  | z | x | c | v | b | n | m | comma | period | fSlash | lCtrl | winKey | lAlt | space | rAlt | fn
  | rCtrl | left | up | right | down
  deriving DecidableEq, Repr

/-- `Event::Type`: what an event tells of. -/
inductive EventType
  | none | keyDown | keyUp | mouseButtonDown | mouseButtonUp | mouseWheelUp | mouseWheelDown
  | joystickAxis | joystickButton | joystickInitialize | windowExit
  deriving DecidableEq, Repr

/-- Keys are ordered as they are declared, which is the order of their maps. -/
instance : Ord Key := ⟨compareOn Key.ctorIdx⟩

instance : Std.TransOrd Key := inferInstanceAs (Std.TransCmp (compareOn Key.ctorIdx))

instance : Std.LawfulEqOrd Key :=
  ⟨fun h => Function.LeftInverse.injective Key.ofNat_ctorIdx (Std.compare_eq_iff_eq.mp h)⟩

/-- The types of events are ordered as they are declared. -/
instance : Ord EventType := ⟨compareOn EventType.ctorIdx⟩

instance : Std.TransOrd EventType := inferInstanceAs (Std.TransCmp (compareOn EventType.ctorIdx))

instance : Std.LawfulEqOrd EventType :=
  ⟨fun h => Function.LeftInverse.injective EventType.ofNat_ctorIdx (Std.compare_eq_iff_eq.mp h)⟩

/-- `nyx::Event`, as far as it decides who receives it. -/
structure Event where
  type : EventType
  key : Key
  deriving DecidableEq, Repr

/-! ## The data of the managers -/

/-- The name given to `enroll`, by its bytes. -/
abbrev Name := List UInt8

/-- A pointer to a subscriber: its position among all that were allocated. -/
abbrev SubscriberId := Nat

/-- `FunctionSubscriber`, without an object, and `MethodSubscriber`. -/
structure Subscriber where
  object : Option Nat
  callback : Nat
  deriving DecidableEq, Repr

/-- `StaticEventManagerData`: the tables of all managers, by names, by keys and by types. -/
structure StaticEventManagerData where
  callbacks : Multimap Name SubscriberId := {}
  keyCallbacks : Multimap Key (Name × SubscriberId) := {}
  typeCallbacks : Multimap EventType (Name × SubscriberId) := {}

/-- `EventManagerData`: iterators, by the nodes they refer to. -/
structure EventManagerData where
  localCallbacks : List Nat := []
  localKeyCallbacks : List Nat := []
  localTypeCallbacks : List Nat := []
  deriving DecidableEq, Repr

/-- `EventManager::pushEvent`: the subscribers whose `execute` is called, in order. -/
def StaticEventManagerData.pushEvent (data : StaticEventManagerData) (event : Event) :
    List SubscriberId :=
  data.callbacks.nodes.map Node.value ++
    (data.keyCallbacks.range event.key).map (fun node => node.value.2) ++
    (data.typeCallbacks.range event.type).map fun node => node.value.2

/-- The event managers of a program: the data that they share, and their own. -/
structure EventSystem where
  /-- `man_data`. -/
  manData : StaticEventManagerData := {}
  /-- The live managers. -/
  managers : Nat → Option EventManagerData := fun _ => none
  nextManager : Nat := 0
  /-- What was allocated, in order. -/
  subscribers : List Subscriber := []
  /-- What was deleted, in order. -/
  deleted : List SubscriberId := []
  nextNode : Nat := 0

namespace EventSystem

/-! ## Enrolling -/

/-- `new Callback( … )`, which has a number that none had before. -/
def allocate (system : EventSystem) (subscriber : Subscriber) : EventSystem × SubscriberId :=
  ({ system with subscribers := system.subscribers ++ [subscriber] }, system.subscribers.length)

/-- Change the data of a manager that is alive; the others stay as they are. -/
def modifyManager (system : EventSystem) (manager : Nat)
    (change : EventManagerData → EventManagerData) : EventSystem :=
  { system with
    managers := Function.update system.managers manager ((system.managers manager).map change) }

/-- `EventManager::enrollBase( subscriber, key )`, which enrols a name that is not there yet, in the
table of all managers and in the list of this one. -/
def enrollBase (system : EventSystem) (manager : Nat) (subscriber : SubscriberId) (name : Name) :
    EventSystem :=
  if (system.manData.callbacks.find name).isNone then
    { system with
      manData.callbacks := system.manData.callbacks.insert ⟨system.nextNode, name, subscriber⟩
      nextNode := system.nextNode + 1 }.modifyManager manager fun data =>
        { data with localCallbacks := data.localCallbacks ++ [system.nextNode] }
  else system

/-- `EventManager::enrollBase( subscriber, keysym, key )`: the search is for the key of the
keyboard. -/
def enrollBaseKey (system : EventSystem) (manager : Nat) (subscriber : SubscriberId) (keysym : Key)
    (name : Name) : EventSystem :=
  if (system.manData.keyCallbacks.find keysym).isNone then
    { system with
      manData.keyCallbacks :=
        system.manData.keyCallbacks.insert ⟨system.nextNode, keysym, name, subscriber⟩
      nextNode := system.nextNode + 1 }.modifyManager manager fun data =>
        { data with localKeyCallbacks := data.localKeyCallbacks ++ [system.nextNode] }
  else system

/-- `EventManager::enrollBase( subscriber, type, key )`: the search is for the type. -/
def enrollBaseType (system : EventSystem) (manager : Nat) (subscriber : SubscriberId)
    (type : EventType) (name : Name) : EventSystem :=
  if (system.manData.typeCallbacks.find type).isNone then
    { system with
      manData.typeCallbacks :=
        system.manData.typeCallbacks.insert ⟨system.nextNode, type, name, subscriber⟩
      nextNode := system.nextNode + 1 }.modifyManager manager fun data =>
        { data with localTypeCallbacks := data.localTypeCallbacks ++ [system.nextNode] }
  else system

/-- Which events a subscriber is enrolled for: all of them, those of a key, or those of a type. -/
inductive Target
  | all
  | key (keysym : Key)
  | type (type : EventType)
  deriving DecidableEq, Repr

/-- The arguments of an `enroll`: the callback, with its object in the method forms. -/
structure Enrolment where
  subscriber : Subscriber
  target : Target
  name : Name
  deriving DecidableEq, Repr

/-- `EventManager::enroll`. The three forms with a function do themselves what the three forms with
a method leave to `enrollBase`. -/
def enroll (system : EventSystem) (manager : Nat) (enrolment : Enrolment) : EventSystem :=
  let (system, subscriber) := system.allocate enrolment.subscriber
  match enrolment.target with
  | .all => system.enrollBase manager subscriber enrolment.name
  | .key keysym => system.enrollBaseKey manager subscriber keysym enrolment.name
  | .type type => system.enrollBaseType manager subscriber type enrolment.name

end EventSystem

/-! ## Resetting -/

/-- What goes wrong with a manager, where the source uses memory that is gone. -/
inductive EventFailure
  /-- A call on a manager that was never constructed, or was destroyed. -/
  | deadManager
  /-- An iterator is used whose entry was erased. -/
  | danglingIterator
  deriving DecidableEq, Repr

namespace EventSystem

/-- The loops of `EventManager::reset`: the subscriber of each local iterator is deleted and its
entry erased; `value` is the subscriber in an entry. -/
def release {κ α : Type} [Ord κ] (value : α → SubscriberId) :
    Multimap κ α → List SubscriberId → List Nat →
      Except EventFailure (Multimap κ α × List SubscriberId)
  | map, deleted, [] => .ok (map, deleted)
  | map, deleted, iter :: rest =>
      match map.nodes.find? (·.id = iter) with
      | none => .error .danglingIterator
      | some node => release value (map.erase iter) (deleted ++ [value node.value]) rest

/-- `EventManager::reset`. The local lists keep their iterators. -/
def reset (system : EventSystem) (data : EventManagerData) : Except EventFailure EventSystem := do
  let (callbacks, deleted) ←
    release id system.manData.callbacks system.deleted data.localCallbacks
  let (keyCallbacks, deleted) ←
    release Prod.snd system.manData.keyCallbacks deleted data.localKeyCallbacks
  let (typeCallbacks, deleted) ←
    release Prod.snd system.manData.typeCallbacks deleted data.localTypeCallbacks
  pure { system with manData := ⟨callbacks, keyCallbacks, typeCallbacks⟩, deleted := deleted }

end EventSystem

/-! ## The operations as a machine -/

/-- The operations on event managers, each naming the manager it is called on. -/
inductive EventOp
  | construct
  | enroll (manager : Nat) (enrolment : EventSystem.Enrolment)
  | reset (manager : Nat)
  | destroy (manager : Nat)
  deriving DecidableEq, Repr

/-- One operation, which fails where the source uses memory that is gone. -/
def EventOp.step (system : EventSystem) : EventOp → Except EventFailure EventSystem
  | .construct =>
      .ok { system with
        managers := Function.update system.managers system.nextManager (some {})
        nextManager := system.nextManager + 1 }
  | .enroll manager enrolment =>
      match system.managers manager with
      | none => .error .deadManager
      | some _ => .ok (system.enroll manager enrolment)
  | .reset manager =>
      match system.managers manager with
      | none => .error .deadManager
      | some data => system.reset data
  | .destroy manager =>
      match system.managers manager with
      | none => .error .deadManager
      | some data => do
          -- the destructor resets first
          let system ← system.reset data
          pure { system with managers := Function.update system.managers manager none }

end Nyx.Events
