import Nyx.Events.EventManagers
import Nyx.Foundations.RoundedIntegers

/-! # Mouse motion

`Window::handleEvents` drains the events of SDL. It tells the event manager where the mouse is and
how far it moved: for each motion event what that event says, and for none what `SDL_GetMouseState`
says.

* **`MouseData`** — the position and the offset of the mouse that all event managers share.
* **`SdlEvent`**, **`convertEvent`** — the events of SDL, and those that are pushed for them.
* **`handleEvents`** — the operation of the source.
* **`MouseTrack`** — where the mouse is, and where its last motion started.
* **`StartsAt`** — a motion starts at a stored coordinate, as far as a `float` can tell.
* **`MouseSession.TotalMotion`** — a call leaves the position of the mouse, and its distance to the
  one before.
* **`MouseSession.totalMotion_iff`** — the calls of a run do exactly when the last motion of each
  starts at the position that was stored before. -/

namespace Nyx.Events

open Foundations

/-! ## The data of the mouse -/

/-- `float`, as far as it holds positions and their differences. -/
abbrev Single := RoundedInt 23

/-- The mouse in `StaticEventManagerData`, in floats as the source has it. -/
@[ext]
structure MouseData where
  xpos : Single := 0
  ypos : Single := 0
  xdelta : Single := 0
  ydelta : Single := 0
  deriving DecidableEq

namespace MouseData

/-- `EventManager::updateMouse`, which sets the position of the mouse. -/
def updateMouse (mouse : MouseData) (x y : Single) : MouseData :=
  { mouse with xpos := x, ypos := y }

/-- `EventManager::updateMouseOffset`, which sets how far the mouse was moved. -/
def updateMouseOffset (mouse : MouseData) (x y : Single) : MouseData :=
  { mouse with xdelta := x, ydelta := y }

/-- `EventManager::mouseX`: the position that was set last. -/
def mouseX (mouse : MouseData) : Single := mouse.xpos

/-- `EventManager::mouseY`: the position that was set last. -/
def mouseY (mouse : MouseData) : Single := mouse.ypos

/-- `EventManager::mouseDeltaX`: how far the mouse was moved, as it was set last. -/
def mouseDeltaX (mouse : MouseData) : Single := mouse.xdelta

/-- `EventManager::mouseDeltaY`: how far the mouse was moved, as it was set last. -/
def mouseDeltaY (mouse : MouseData) : Single := mouse.ydelta

end MouseData

/-! ## Events of SDL -/

/-- The keys that `keyFromSDL` knows, and all others. -/
inductive SdlKeycode
  | escape | one | two | three | four | five | six | seven | eight | nine | zero | equals
  | q | w | e | r | t | y | u | i | o | leftBracket | rightBracket | returnKey | lCtrl
  | a | s | d | f | g | h | j | k | l | semicolon | backquote | lShift | backslash
  | z | x | c | v | b | n | m | comma | period | slash | space | up | left | right | down
  | other (key : Int32)
  deriving DecidableEq, Repr

/-- `SDL_Event`, as far as `handleEvents` looks at it. -/
inductive SdlEvent
  | mouseMotion (x y xrel yrel : Int32)
  | keyDown (sym : SdlKeycode)
  | keyUp (sym : SdlKeycode)
  | mouseButtonDown
  | mouseButtonUp
  | quit
  | other
  deriving DecidableEq, Repr

/-- `keyFromSDL`: the key of a keycode of the window library, and none for a keycode that it does
not know. -/
def keyFromSdl : SdlKeycode → Key
  | .escape => .esc | .one => .one | .two => .two | .three => .three | .four => .four
  | .five => .five | .six => .six | .seven => .seven | .eight => .eight | .nine => .nine
  | .zero => .zero | .equals => .equals | .q => .q | .w => .w | .e => .e | .r => .r | .t => .t
  | .y => .y | .u => .u | .i => .i | .o => .o | .leftBracket => .lBracket
  | .rightBracket => .rBracket | .returnKey => .returnKey | .lCtrl => .lCtrl | .a => .a | .s => .s
  | .d => .d | .f => .f | .g => .g | .h => .h | .j => .j | .k => .k | .l => .l
  | .semicolon => .semicolon | .backquote => .backtick | .lShift => .lShift
  | .backslash => .bSlash | .z => .z | .x => .x | .c => .c | .v => .v | .b => .b | .n => .n
  | .m => .m | .comma => .comma | .period => .period | .slash => .fSlash | .space => .space
  | .up => .up | .left => .left | .right => .right | .down => .down
  | .other _ => .none

/-- `convertEvent`: the event that is pushed for one of SDL, if any is. -/
def convertEvent : SdlEvent → Option Event
  | .keyDown sym => some ⟨.keyDown, keyFromSdl sym⟩
  | .keyUp sym => some ⟨.keyUp, keyFromSdl sym⟩
  | .mouseButtonDown => some ⟨.mouseButtonDown, .none⟩
  | .mouseButtonUp => some ⟨.mouseButtonUp, .none⟩
  | .quit => some ⟨.windowExit, .esc⟩
  | .mouseMotion .. | .other => none

/-- A position of the mouse in whole pixels, as SDL has it. -/
@[ext]
structure MousePosition where
  x : Int32
  y : Int32
  deriving DecidableEq, Repr

/-! ## Draining the events -/

/-- The locals of the loop of `handleEvents`, and what it changes. -/
structure MousePoll where
  mouse : MouseData
  mouseMove : Bool := false
  pushed : List Event := []

/-- The body of the loop over the events: the mouse is updated by motions, and what is converted is
pushed. -/
def MousePoll.drain (poll : MousePoll) (event : SdlEvent) : MousePoll :=
  let poll := match event with
    | .mouseMotion x y xrel yrel =>
        { poll with
          mouse :=
            (poll.mouse.updateMouseOffset (.ofInt xrel.toInt) (.ofInt yrel.toInt)).updateMouse
              (.ofInt x.toInt) (.ofInt y.toInt)
          mouseMove := true }
    | _ => poll
  { poll with pushed := poll.pushed ++ (convertEvent event).toList }

/-- `Window::handleEvents`, when `SDL_GetMouseState` returns `state`: the mouse afterwards, and the
events that are pushed. -/
def handleEvents (mouse : MouseData) (state : MousePosition) (events : List SdlEvent) :
    MouseData × List Event :=
  let poll := events.foldl MousePoll.drain { mouse := mouse }
  let x : Single := .ofInt state.x.toInt
  let y : Single := .ofInt state.y.toInt
  if poll.mouseMove then (poll.mouse, poll.pushed)
  else
    ((poll.mouse.updateMouseOffset (poll.mouse.mouseX - x) (poll.mouse.mouseY - y)).updateMouse x y,
      poll.pushed)

/-! ## Where the mouse is -/

namespace SdlEvent

/-- Where the mouse is after an event: at the end of the motion, if it is one. -/
def moved (position : MousePosition) : SdlEvent → MousePosition
  | .mouseMotion x y _ _ => ⟨x, y⟩
  | _ => position

/-- A motion event has the relative motion from a position to its own. -/
def MovesFrom (position : MousePosition) : SdlEvent → Prop
  | .mouseMotion x y xrel yrel =>
      x.toInt = position.x.toInt + xrel.toInt ∧ y.toInt = position.y.toInt + yrel.toInt
  | _ => True

instance (position : MousePosition) : DecidablePred (MovesFrom position) := fun event => by
  cases event <;> unfold MovesFrom <;> infer_instance

end SdlEvent

/-- Every motion event has the relative motion from the position before it to its own. -/
def ConsistentFrom (position : MousePosition) : List SdlEvent → Prop
  | [] => True
  | event :: events => event.MovesFrom position ∧ ConsistentFrom (event.moved position) events

/-- Where the mouse is after some events, which is where the last motion ended. -/
def positionAfter (position : MousePosition) (events : List SdlEvent) : MousePosition :=
  events.foldl SdlEvent.moved position

/-- Where the mouse is, and where its last motion started. -/
@[ext]
structure MouseTrack where
  position : MousePosition
  start : MousePosition
  deriving DecidableEq, Repr

namespace MouseTrack

/-- A motion starts where the one before it ended, so the start of the last one is kept beside its
end. -/
def follow (track : MouseTrack) (event : SdlEvent) : MouseTrack :=
  match event with
  | .mouseMotion .. => ⟨event.moved track.position, track.position⟩
  | _ => track

/-- What a motion event makes of the data of the mouse. -/
def mouse (track : MouseTrack) : MouseData where
  xpos := .ofInt track.position.x.toInt
  ypos := .ofInt track.position.y.toInt
  xdelta := .ofInt (track.position.x.toInt - track.start.x.toInt)
  ydelta := .ofInt (track.position.y.toInt - track.start.y.toInt)

@[simp] theorem position_follow (track : MouseTrack) (event : SdlEvent) :
    (track.follow event).position = event.moved track.position := by
  cases event <;> rfl

end MouseTrack

/-- The track of the mouse over some events, with no motion before them. -/
def trackOf (position : MousePosition) (events : List SdlEvent) : MouseTrack :=
  events.foldl MouseTrack.follow ⟨position, position⟩

@[simp] theorem position_trackOf (position : MousePosition) (events : List SdlEvent) :
    (trackOf position events).position = positionAfter position events :=
  (List.foldl_hom MouseTrack.position fun track event => (track.position_follow event).symm).symm

/-- Events are consistent when the first of them are, and the others from where these end. -/
theorem consistentFrom_append {position : MousePosition} {events rest : List SdlEvent} :
    ConsistentFrom position (events ++ rest) ↔
      ConsistentFrom position events ∧ ConsistentFrom (positionAfter position events) rest := by
  induction events generalizing position with
  | nil => simp [ConsistentFrom, positionAfter]
  | cons event events ih =>
      simp only [List.cons_append, ConsistentFrom, ih, and_assoc]
      rfl

/-- As far as a `float` can tell, the motion from one coordinate to another starts at a stored
one: it is the distance to that. -/
def StartsAt (stored : Single) (position start : Int32) : Prop :=
  (.ofInt (position.toInt - start.toInt) : Single) = .ofInt position.toInt - stored

/-- No motion starts where the coordinate is stored, if that is the position in whole pixels. -/
theorem startsAt_self {stored : Single} {position : Int32} :
    StartsAt stored position position ↔ .ofInt position.toInt = stored := by
  rw [StartsAt, Int.sub_self, RoundedInt.ofInt_zero_eq_sub_iff]

/-- A `float` can tell as long as the coordinates are below `2 ^ 23`. -/
theorem startsAt_iff_of_lt {stored : Single} {position start : Int32}
    (hposition : position.toInt.natAbs < 2 ^ 23) (hstart : start.toInt.natAbs < 2 ^ 23)
    (hstored : stored.value.natAbs < 2 ^ 23) :
    StartsAt stored position start ↔ stored.value = start.toInt := by
  have hexact : roundInt 23 position.toInt = position.toInt := roundInt_of_lt (by omega)
  rw [StartsAt, RoundedInt.ext_iff, RoundedInt.value_ofInt, RoundedInt.value_sub,
    RoundedInt.value_ofInt, hexact, roundInt_of_lt (by omega), roundInt_of_lt (by omega)]
  omega

/-! ## What a call leaves -/

/-- The mouse of a poll is as it was before, without a motion, or as the last motion made it. -/
structure MousePoll.Follows (mouse : MouseData) (position : MousePosition) (poll : MousePoll)
    (track : MouseTrack) : Prop where
  still : poll.mouseMove = false → poll.mouse = mouse ∧ track = ⟨position, position⟩
  moved : poll.mouseMove = true → poll.mouse = track.mouse

/-- **Step lemma.** The next event leaves the mouse at the end of the last motion, with the delta
from its start. -/
theorem MousePoll.Follows.drain {mouse : MouseData} {position : MousePosition} {poll : MousePoll}
    {track : MouseTrack} (h : poll.Follows mouse position track) {event : SdlEvent}
    (hevent : event.MovesFrom track.position) :
    (poll.drain event).Follows mouse position (track.follow event) := by
  cases event with
  | mouseMotion x y xrel yrel =>
      -- the event overwrites whatever the events before it left
      refine ⟨fun hstill => absurd hstill (by simp [MousePoll.drain]), fun _ => ?_⟩
      obtain ⟨hmovesX, hmovesY⟩ := hevent
      have hx : xrel.toInt = x.toInt - track.position.x.toInt := by omega
      have hy : yrel.toInt = y.toInt - track.position.y.toInt := by omega
      simp [MousePoll.drain, MouseTrack.follow, MouseTrack.mouse, SdlEvent.moved,
        MouseData.updateMouse, MouseData.updateMouseOffset, hx, hy]
  | _ => exact ⟨h.still, h.moved⟩

/-- **Run lemma.** All events leave the mouse at the end of the last motion, with the delta from its
start. -/
theorem MousePoll.Follows.foldl_drain {mouse : MouseData} {position : MousePosition}
    {poll : MousePoll} {track : MouseTrack} (h : poll.Follows mouse position track)
    {events : List SdlEvent} (hevents : ConsistentFrom track.position events) :
    (events.foldl MousePoll.drain poll).Follows mouse position
      (events.foldl MouseTrack.follow track) := by
  induction events generalizing poll track with
  | nil => exact h
  | cons event events ih =>
      refine ih (h.drain hevents.1) ?_
      rw [MouseTrack.position_follow]
      exact hevents.2

/-- A call leaves what the last motion of the batch says. Without a motion it leaves the position
that it asked for, and the distance from that to the stored one. -/
theorem mouse_handleEvents (mouse : MouseData) {position : MousePosition} {events : List SdlEvent}
    (h : ConsistentFrom position events) :
    (handleEvents mouse position events).1 = (trackOf position events).mouse ∨
      trackOf position events = ⟨position, position⟩ ∧
        (handleEvents mouse position events).1 =
          ⟨.ofInt position.x.toInt, .ofInt position.y.toInt,
            mouse.xpos - .ofInt position.x.toInt, mouse.ypos - .ofInt position.y.toInt⟩ := by
  have hstart : MousePoll.Follows mouse position { mouse := mouse } ⟨position, position⟩ :=
    ⟨fun _ => ⟨rfl, rfl⟩, Bool.noConfusion⟩
  have hfollows := hstart.foldl_drain h
  cases hmove : (events.foldl MousePoll.drain { mouse := mouse }).mouseMove with
  | true =>
      left
      simp [handleEvents, hmove, hfollows.moved hmove, trackOf]
  | false =>
      obtain ⟨hmouse, htrack⟩ := hfollows.still hmove
      right
      refine ⟨htrack, ?_⟩
      simp [handleEvents, hmove, hmouse, MouseData.updateMouse, MouseData.updateMouseOffset,
        MouseData.mouseX, MouseData.mouseY]

/-- What is pushed are the events that can be converted, in the order in which they come. -/
theorem pushed_handleEvents (mouse : MouseData) (state : MousePosition) (events : List SdlEvent) :
    (handleEvents mouse state events).2 = events.filterMap convertEvent := by
  have hpushed : ∀ poll : MousePoll, (events.foldl MousePoll.drain poll).pushed =
      poll.pushed ++ events.filterMap convertEvent := by
    induction events with
    | nil => simp
    | cons event events ih =>
        intro poll
        rw [List.foldl_cons, ih, List.filterMap_cons]
        cases event <;> simp [MousePoll.drain, convertEvent]
  simp only [handleEvents]
  split <;> simp [hpushed]

/-! ## Runs of calls -/

/-- The mouse of the event managers, and where the mouse is. -/
structure MouseSession where
  mouse : MouseData := {}
  position : MousePosition

namespace MouseSession

/-- A call of `handleEvents` that drains a batch of events. -/
def step (s : MouseSession) (batch : List SdlEvent) : Except Empty MouseSession :=
  .ok ⟨(handleEvents s.mouse s.position batch).1, positionAfter s.position batch⟩

/-- **What a call should leave**: the position of the mouse after the batch, and its distance to
the position that was stored before. -/
structure TotalMotion (s : MouseSession) (batch : List SdlEvent) : Prop where
  x : ∀ s', s.step batch = .ok s' → s'.mouse.mouseX = .ofInt s'.position.x.toInt
  y : ∀ s', s.step batch = .ok s' → s'.mouse.mouseY = .ofInt s'.position.y.toInt
  deltaX : ∀ s', s.step batch = .ok s' →
    s'.mouse.mouseDeltaX = .ofInt s'.position.x.toInt - s.mouse.mouseX
  deltaY : ∀ s', s.step batch = .ok s' →
    s'.mouse.mouseDeltaY = .ofInt s'.position.y.toInt - s.mouse.mouseY

/-- The last motion of the batch started at the stored position. Without a motion, the mouse is at
the stored position. -/
structure FromStored (s : MouseSession) (batch : List SdlEvent) : Prop where
  x : StartsAt s.mouse.mouseX (trackOf s.position batch).position.x
    (trackOf s.position batch).start.x
  y : StartsAt s.mouse.mouseY (trackOf s.position batch).position.y
    (trackOf s.position batch).start.y

/-- The motion of a batch is the total one exactly when all four fields of the mouse are right at
once. -/
theorem totalMotion_iff_mouse (s : MouseSession) (batch : List SdlEvent) :
    s.TotalMotion batch ↔ (handleEvents s.mouse s.position batch).1 =
      ⟨.ofInt (positionAfter s.position batch).x.toInt,
        .ofInt (positionAfter s.position batch).y.toInt,
        .ofInt (positionAfter s.position batch).x.toInt - s.mouse.mouseX,
        .ofInt (positionAfter s.position batch).y.toInt - s.mouse.mouseY⟩ := by
  constructor
  · intro h
    exact MouseData.ext (h.x _ rfl) (h.y _ rfl) (h.deltaX _ rfl) (h.deltaY _ rfl)
  · intro h
    rw [MouseData.ext_iff] at h
    obtain ⟨hx, hy, hdeltaX, hdeltaY⟩ := h
    refine ⟨?_, ?_, ?_, ?_⟩
    · rintro s' ⟨⟩
      exact hx
    · rintro s' ⟨⟩
      exact hy
    · rintro s' ⟨⟩
      exact hdeltaX
    · rintro s' ⟨⟩
      exact hdeltaY

/-- **A call** with a consistent batch reports the total motion exactly when it started from what is
stored. -/
theorem totalMotion_iff_fromStored (s : MouseSession) {batch : List SdlEvent}
    (h : ConsistentFrom s.position batch) : s.TotalMotion batch ↔ s.FromStored batch := by
  have hboth : s.FromStored batch ↔
      StartsAt s.mouse.mouseX (trackOf s.position batch).position.x
        (trackOf s.position batch).start.x ∧
      StartsAt s.mouse.mouseY (trackOf s.position batch).position.y
        (trackOf s.position batch).start.y :=
    ⟨fun h => ⟨h.x, h.y⟩, fun h => ⟨h.1, h.2⟩⟩
  rw [totalMotion_iff_mouse, hboth]
  rcases mouse_handleEvents s.mouse h with hmouse | ⟨htrack, hmouse⟩
  · -- the offset is that of the last motion
    rw [hmouse, ← position_trackOf]
    simp [MouseTrack.mouse, StartsAt]
  · -- the offset has the wrong sign, which makes no difference for no offset only
    have hposition : positionAfter s.position batch = s.position := by
      rw [← position_trackOf, htrack]
    rw [hmouse, htrack, hposition, startsAt_self, startsAt_self]
    simp only [MouseData.mk.injEq, true_and]
    exact and_congr (RoundedInt.sub_eq_sub_iff.trans eq_comm)
      (RoundedInt.sub_eq_sub_iff.trans eq_comm)

/-- **The mouse delta** is the total motion, along a run of calls whose motion events are
consistent, exactly when at each of them the last motion started at the stored position. -/
theorem totalMotion_iff (s : MouseSession) (batches : List (List SdlEvent))
    (h : ConsistentFrom s.position batches.flatten) :
    StepsMeet step TotalMotion s batches ↔ StepsMeet step FromStored s batches := by
  induction batches generalizing s with
  | nil => simp
  | cons batch batches ih =>
      rw [List.flatten_cons, consistentFrom_append] at h
      refine and_congr (totalMotion_iff_fromStored s h.1) (forall_congr' fun s' => ?_)
      refine imp_congr_right fun hstep => ih s' ?_
      cases hstep
      exact h.2

/-- A motion of two pixels in one event, and then a call without events. -/
theorem totalMotion_iff_two :
    StepsMeet step TotalMotion { position := ⟨0, 0⟩ } [[.mouseMotion 2 0 2 0], []] ↔
      StepsMeet step FromStored { position := ⟨0, 0⟩ } [[.mouseMotion 2 0 2 0], []] :=
  totalMotion_iff _ _ ⟨by decide, trivial⟩

/-- The same motion reported in two events counts as its last pixel only, so it is not the total. -/
theorem not_totalMotion : ¬ ∀ (s : MouseSession) (batches : List (List SdlEvent)),
    s.mouse = {} → ConsistentFrom s.position batches.flatten →
      StepsMeet step TotalMotion s batches := by
  intro h
  have htotal := (h { position := ⟨0, 0⟩ } [[.mouseMotion 1 0 1 0, .mouseMotion 2 0 1 0]] rfl
    ⟨by decide, by decide, trivial⟩).1
  exact absurd (htotal.deltaX _ rfl) (by decide)

end MouseSession

end Nyx.Events
