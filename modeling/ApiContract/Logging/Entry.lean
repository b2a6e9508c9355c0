/-
**Entries of a log.**

Each message of an exchange is logged as one entry.  An entry is emitted as an event, which goes
through where events of its level are let through.

Main definitions:

* `LogEntry` — the text of a message with the number of its exchange;
* `LogLevel` — the levels of events, from the gravest to the most detailed;
* `LogEvent` — the event that an entry is emitted as;
* `LogEvent.passes` — whether an event goes through;
* `LogEvent.emitted` — the events of entries that go through.
-/

import ApiContract.Http.Part

set_option autoImplicit false

namespace ApiContract

/-- The text of a message in a log. -/
structure LogEntry where
  /-- The number of the exchange. -/
  sequence : UInt64
  /-- Which message it is. -/
  part : Part
  /-- The text. -/
  text : String
  deriving DecidableEq

/-- The levels of events. -/
inductive LogLevel where
  | error | warn | info | debug | trace
  deriving DecidableEq, Repr

namespace LogLevel

/-- The levels, from the gravest to the most detailed. -/
def all : List LogLevel := [error, warn, info, debug, trace]

/-- How detailed a level is. -/
def detail : LogLevel → Nat
  | error => 1 | warn => 2 | info => 3 | debug => 4 | trace => 5

/-- The name of a level. -/
def name : LogLevel → String
  | error => "ERROR"
  | warn => "WARN"
  | info => "INFO"
  | debug => "DEBUG"
  | trace => "TRACE"

end LogLevel

/-- An entry that is emitted. -/
structure LogEvent where
  /-- The level. -/
  level : LogLevel
  /-- What it is about. -/
  entry : LogEntry
  deriving DecidableEq

namespace LogEvent

/-- The level of events about messages, if no other is asked for. -/
def defaultLevel : LogLevel := .debug

/-- The topic of events about messages. -/
def target : String := "tessera::requests"

/-- What all events about messages say. -/
def message : String := "recorded exchange"

/-- Whether an event goes through where events up to a level are let through. -/
def passes (most : LogLevel) (e : LogEvent) : Bool := e.level.detail ≤ most.detail

/-- The events of entries that go through. -/
def emitted (level most : LogLevel) (entries : List LogEntry) : List LogEvent :=
  (entries.map fun e => LogEvent.mk level e).filter (passes most)

end LogEvent

end ApiContract
