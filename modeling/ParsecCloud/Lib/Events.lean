import ParsecCloud.Lib.Rust

/- Events and those who listen to them, as the event_listener crate has them. The events are
   numbered; what they are made of is not known. -/
namespace Events
open Rust

def usizeMax : Nat := u64Limit - 1

/-- What can be done with events, and what can be asked: whether there is such an event, to which
    one a listener listens, and whether it has been notified. -/
structure EventCrate (World Listener : Type) where
  new : World → Nat × World
  listen : World → Nat → Listener × World
  notify : World → Nat → Nat → World
  drop : World → Listener → World
  isEvent : World → Nat → Prop
  listensTo : World → Listener → Option Nat
  isNotified : World → Listener → Bool

variable {World Listener : Type}

/-- Two states of the crate differ in nothing that can be asked of a listener. -/
structure EventCrate.SameFor (crate : EventCrate World Listener) (world world' : World)
    (listener : Listener) : Prop where
  listensTo : crate.listensTo world' listener = crate.listensTo world listener
  isNotified : crate.isNotified world' listener = crate.isNotified world listener

/-- What the documentation of the crate says. A notification of usize::MAX listeners reaches all
    of them; a listener that is dropped may pass its own one on to another one of its event. -/
structure EventCrate.Lawful (crate : EventCrate World Listener) : Prop where
  isEvent_of_listensTo : ∀ world listener event, crate.listensTo world listener = some event →
    crate.isEvent world event
  new_fresh : ∀ world, ¬ crate.isEvent world (crate.new world).1
  isEvent_new : ∀ world event, crate.isEvent (crate.new world).2 event ↔
    event = (crate.new world).1 ∨ crate.isEvent world event
  new_same : ∀ world listener, crate.SameFor world (crate.new world).2 listener
  listen_fresh : ∀ world event, crate.listensTo world (crate.listen world event).1 = none
  isEvent_listen : ∀ world event other, crate.isEvent world event →
    (crate.isEvent (crate.listen world event).2 other ↔ crate.isEvent world other)
  listensTo_listen : ∀ world event, crate.isEvent world event →
    crate.listensTo (crate.listen world event).2 (crate.listen world event).1 = some event
  isNotified_listen : ∀ world event, crate.isEvent world event →
    crate.isNotified (crate.listen world event).2 (crate.listen world event).1 = false
  listen_same : ∀ world event listener, listener ≠ (crate.listen world event).1 →
    crate.SameFor world (crate.listen world event).2 listener
  isEvent_notify : ∀ world event n other,
    crate.isEvent (crate.notify world event n) other ↔ crate.isEvent world other
  listensTo_notify : ∀ world event n listener,
    crate.listensTo (crate.notify world event n) listener = crate.listensTo world listener
  isNotified_notify : ∀ world event listener,
    crate.isNotified (crate.notify world event usizeMax) listener =
      (crate.isNotified world listener || crate.listensTo world listener == some event)
  isEvent_drop : ∀ world listener event,
    crate.isEvent (crate.drop world listener) event ↔ crate.isEvent world event
  listensTo_dropped : ∀ world listener,
    crate.listensTo (crate.drop world listener) listener = none
  listensTo_drop : ∀ world listener other, other ≠ listener →
    crate.listensTo (crate.drop world listener) other = crate.listensTo world other
  drop_keeps : ∀ world listener other, other ≠ listener → crate.isNotified world other = true →
    crate.isNotified (crate.drop world listener) other = true
  drop_passes : ∀ world listener other, other ≠ listener →
    crate.isNotified (crate.drop world listener) other = true →
    crate.isNotified world other = true ∨
      crate.isNotified world listener = true ∧
        crate.listensTo world listener = crate.listensTo world other

/-- A listener that was not there listens to an event, which may be new. -/
structure EventCrate.Joins (crate : EventCrate World Listener) (world world' : World) (event : Nat)
    (listener : Listener) : Prop where
  fresh : crate.listensTo world listener = none
  listensTo : crate.listensTo world' listener = some event
  isNotified : crate.isNotified world' listener = false
  others : ∀ other, other ≠ listener → crate.SameFor world world' other
  isEvent : ∀ other, crate.isEvent world' other ↔ other = event ∨ crate.isEvent world other

variable {crate : EventCrate World Listener} {world : World} {event : Nat}

theorem EventCrate.Lawful.joins (lawful : crate.Lawful) (known : crate.isEvent world event) :
    crate.Joins world (crate.listen world event).2 event (crate.listen world event).1 where
  fresh := lawful.listen_fresh world event
  listensTo := lawful.listensTo_listen world event known
  isNotified := lawful.isNotified_listen world event known
  others := lawful.listen_same world event
  isEvent other := by
    rw [lawful.isEvent_listen world event other known]
    constructor
    · exact .inr
    · rintro (rfl | isEvent)
      · exact known
      · exact isEvent

/-- The first listener makes the event. -/
theorem EventCrate.Lawful.joins_new (lawful : crate.Lawful) :
    crate.Joins world (crate.listen (crate.new world).2 (crate.new world).1).2 (crate.new world).1
      (crate.listen (crate.new world).2 (crate.new world).1).1 := by
  have known := (lawful.isEvent_new world (crate.new world).1).mpr (.inl rfl)
  have joins := lawful.joins known
  constructor
  · exact (lawful.new_same world _).listensTo.symm.trans joins.fresh
  · exact joins.listensTo
  · exact joins.isNotified
  · intro other differs
    have first := lawful.new_same world other
    have second := joins.others other differs
    exact ⟨second.listensTo.trans first.listensTo, second.isNotified.trans first.isNotified⟩
  · intro other
    rw [joins.isEvent, lawful.isEvent_new]
    simp

end Events
