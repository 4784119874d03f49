import ArithDrill.Text.Control

/-!
# Events of the journal

The program reports what it does as events.  An event has a level, the name of the part that
reports it, a message and named values.  The message may hold what a user has typed, so the
characters on which a terminal acts are spelled out in it.

## Main definitions

* `Level` — the five levels, from `trace` to `error`.
* `Event` — one event; `Event.render` is its line.
* `Report` — events that are reported together.
-/

namespace ArithDrill

/-- How important an event is. -/
inductive Level where
  /-- Each step. -/
  | trace
  /-- Each exercise or answer. -/
  | debug
  /-- Each task. -/
  | info
  /-- What may be a mistake of the user. -/
  | warn
  /-- What ends the program. -/
  | error
  deriving DecidableEq, Repr

namespace Level

/-- The rank of a level; more important levels have larger ranks. -/
def rank : Level → Nat
  | trace => 0
  | debug => 1
  | info => 2
  | warn => 3
  | error => 4

/-- The name of a level. -/
def name : Level → Text
  | trace => "TRACE".toList
  | debug => "DEBUG".toList
  | info => "INFO".toList
  | warn => "WARN".toList
  | error => "ERROR".toList

/-- The levels, from the least to the most important. -/
def all : List Level := [trace, debug, info, warn, error]

end Level

/-- One event. -/
structure Event where
  /-- Its level. -/
  level : Level
  /-- The part of the program that reports it. -/
  origin : Text
  /-- What happened. -/
  message : Text
  /-- The values that go with it, by name. -/
  fields : List (Text × Text)
  deriving DecidableEq, Repr

/-- Events that are reported together.  They are worked out only when they may be shown. -/
structure Report where
  /-- A level that none of the events exceeds. -/
  level : Level
  /-- The events, in order. -/
  events : Thunk (List Event)

/-- The line of an event. -/
def Event.render (e : Event) : Text :=
  e.level.name ++ ' ' :: (e.origin ++ ": ".toList ++ e.message.spellControls ++
    e.fields.flatMap fun f => ' ' :: (f.1 ++ '=' :: f.2))

end ArithDrill
