/-
**Settings of a log.**

Main definitions:

* `LogSettings` — what is logged, and how;
* `LogSettings.development`, `LogSettings.integration` — settings for common uses;
* `LogSettings.ofTree?`, `LogSettings.toTree` — settings as trees;
* `LogSettings.check`, `LogSettings.start` — whether logging can be set up.
-/

import ApiContract.Document.Readable
import ApiContract.Json.Parser
import ApiContract.Logging.Filter
import ApiContract.Text.Quoted

set_option autoImplicit false

namespace ApiContract

/-- What is logged, and how. -/
structure LogSettings where
  /-- Whether anything is logged. -/
  enabled : Bool := true
  /-- The filter of events. -/
  level : String := "info"
  /-- Whether events are written as structured values. -/
  structured : Bool := false
  /-- Whether the beginnings and ends of spans are events. -/
  spanEvents : Bool := false
  /-- Whether events say where in a file they come from. -/
  places : Bool := false
  /-- Whether events say on which thread they come. -/
  threads : Bool := false
  /-- Whether events say their target. -/
  targets : Bool := true
  deriving DecidableEq, Repr

namespace LogSettings

/-- Detailed settings for people who read along. -/
def development : LogSettings := { level := "debug", spanEvents := true, places := true }

/-- Settings for machines that collect events. -/
def integration : LogSettings := { structured := true, threads := true }

/-! ### Texts -/

/-- The names of the fields, in order. -/
def fieldNames : List String :=
  ["enabled", "level", "json_format", "span_events", "file_line_info", "thread_ids",
    "include_target"]

/-- The settings as a tree. -/
def toTree (s : LogSettings) : Tree Atom :=
  .record (fieldNames.zip [.bool s.enabled, .text s.level, .bool s.structured, .bool s.spanEvents,
    .bool s.places, .bool s.threads, .bool s.targets])

/-- The settings in a tree; what is missing has its default. -/
def ofTree? (t : Tree Atom) : Option LogSettings := do
  let d ← Tree.record? fieldNames t
  let default : LogSettings := {}
  let enabled ← d.orElse? "enabled" default.enabled Tree.bool?
  let level ← d.orElse? "level" default.level Tree.text?
  let structured ← d.orElse? "json_format" default.structured Tree.bool?
  let spanEvents ← d.orElse? "span_events" default.spanEvents Tree.bool?
  let places ← d.orElse? "file_line_info" default.places Tree.bool?
  let threads ← d.orElse? "thread_ids" default.threads Tree.bool?
  let targets ← d.orElse? "include_target" default.targets Tree.bool?
  return { enabled, level, structured, spanEvents, places, threads, targets }

/-- The settings in a text. -/
def read? (s : String) : Option LogSettings := (Json.tree? s.toList).bind ofTree?

/-! ### Setting up -/

/-- A filter that is none. -/
structure FilterError where
  /-- The text of it. -/
  level : String
  deriving DecidableEq, Repr

/-- The text of the error. -/
def FilterError.message (e : FilterError) : String :=
  "Invalid configuration: invalid log filter " ++ Text.quote e.level

/-- Whether the filter is one. -/
def check (s : LogSettings) : Except FilterError Unit :=
  if Filter.isValid s.level then .ok () else .error ⟨s.level⟩

/-- Set logging up: where nothing is logged, the filter is not looked at. -/
def start (s : LogSettings) : Except FilterError Unit := if s.enabled then s.check else .ok ()

end LogSettings

end ApiContract
