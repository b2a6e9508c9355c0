/-
**Reports.**

A report classes what has gone wrong.  Behind it stands a cause, which may be another report, a
number of reports together, or something foreign with a cause of its own.

Main definitions:

* `ReportClass` — the classes;
* `Fault` — what goes wrong with an exchange or a coordinate;
* `Cause`, `Report` — causes and reports, which contain each other;
* `Cause.text`, `Report.text` — what they say;
* `Cause.find?` — the first of a cause and the causes behind it for which something is given;
* `Cause.hasClass` — whether a report of a class is among them;
* `Summary` — some reports together, at least one.
-/

import ApiContract.Session.Coverage
import ApiContract.Validation.Issue

set_option autoImplicit false

namespace ApiContract

/-- The classes of reports. -/
inductive ReportClass where
  /-- A coordinate was never checked. -/
  | notChecked
  /-- An exchange belongs to no coordinate. -/
  | undocumented
  /-- A request is not valid. -/
  | requestInvalid
  /-- A response is not valid. -/
  | responseInvalid
  deriving DecidableEq, Repr

namespace ReportClass

/-- The classes, in order. -/
def all : List ReportClass := [notChecked, undocumented, requestInvalid, responseInvalid]

/-- The text of a class. -/
def text : ReportClass → String
  | notChecked => "endpoint not checked"
  | undocumented => "response is not part of spec"
  | requestInvalid => "request invalid"
  | responseInvalid => "response invalid"

end ReportClass

/-- What goes wrong with an exchange or a coordinate. -/
inductive Fault where
  /-- The exchange belongs to no coordinate. -/
  | undocumented (method : Http.Method) (path : String) (status : Nat)
  /-- The request is not valid. -/
  | requestInvalid (method : Http.Method) (path : String) (failure : Failure)
  /-- The response is not valid. -/
  | responseInvalid (method : Http.Method) (path : String) (status : Nat) (failure : Failure)
  /-- The coordinate was never checked. -/
  | uncovered (coordinate : Coordinate)
  deriving DecidableEq

namespace Fault

/-- The failure that a fault comes from. -/
def failure? : Fault → Option Failure
  | requestInvalid _ _ f | responseInvalid _ _ _ f => some f
  | _ => none

/-- The text of a fault. -/
def text : Fault → String
  | undocumented m path n => m.name ++ " " ++ path ++ ": " ++ toString n
  | requestInvalid m path f => m.name ++ " " ++ path ++ ": " ++ f.text
  | responseInvalid m path n f => m.name ++ " " ++ path ++ ": " ++ toString n ++ ": " ++ f.text
  | uncovered c => c.text

end Fault

/-! ### Causes and reports -/

mutual

/-- What stands behind a report. -/
inductive Cause where
  /-- A fault; the failure that it comes from stands behind it. -/
  | fault (f : Fault)
  /-- A failure. -/
  | failure (f : Failure)
  /-- Something foreign. -/
  | foreign (message : String)
  /-- Something foreign with a cause of its own. -/
  | foreignFrom (message : String) (source : Cause)
  /-- A report. -/
  | report (r : Report)
  /-- Reports together. -/
  | joined (members : List Report)

/-- A cause with a class. -/
inductive Report where
  /-- Class a cause. -/
  | mk (kind : ReportClass) (cause : Cause)

end

namespace Report

/-- The class of a report. -/
def kind : Report → ReportClass
  | mk k _ => k

/-- What stands behind a report. -/
def cause : Report → Cause
  | mk _ c => c

/-- The report of a fault. -/
def ofFault : Fault → Report
  | .undocumented m path n => mk .undocumented (.fault (.undocumented m path n))
  | .requestInvalid m path f => mk .requestInvalid (.fault (.requestInvalid m path f))
  | .responseInvalid m path n f => mk .responseInvalid (.fault (.responseInvalid m path n f))
  | .uncovered c => mk .notChecked (.fault (.uncovered c))

end Report

/-! ### Texts -/

mutual

/-- What a cause says. -/
def Cause.text : Cause → String
  | .fault f => f.text
  | .failure f => f.text
  | .foreign message => message
  | .foreignFrom message _ => message
  | .report r => Report.text r
  | .joined rs => Text.joined "\n" (Report.texts rs)

/-- What a report says. -/
def Report.text : Report → String
  | .mk k c => k.text ++ ": " ++ Cause.text c

/-- What reports say, one by one. -/
def Report.texts : List Report → List String
  | [] => []
  | r :: rs => Report.text r :: Report.texts rs

end

/-! ### Search -/

mutual

/-- What is given for the first cause for which something is given: a cause itself comes before
what stands behind it, and of reports together the first one comes first. -/
def Cause.find? {α : Type} (p : Cause → Option α) : Cause → Option α
  | .fault f =>
    (p (.fault f)).or
      (match f.failure? with
      | some g => p (.failure g)
      | none => none)
  | .failure f => p (.failure f)
  | .foreign message => p (.foreign message)
  | .foreignFrom message source => (p (.foreignFrom message source)).or (Cause.find? p source)
  | .report r => Report.find? p r
  | .joined rs => (p (.joined rs)).or (Report.findAmong? p rs)

/-- The same for a report and what stands behind it. -/
def Report.find? {α : Type} (p : Cause → Option α) : Report → Option α
  | .mk k c => (p (.report (.mk k c))).or (Cause.find? p c)

/-- The same for reports together. -/
def Report.findAmong? {α : Type} (p : Cause → Option α) : List Report → Option α
  | [] => none
  | r :: rs => (Report.find? p r).or (Report.findAmong? p rs)

end

namespace Cause

/-- The fault that a cause is. -/
def fault? : Cause → Option Fault
  | fault f => some f
  | _ => none

/-- The failure that a cause is. -/
def failure? : Cause → Option Failure
  | failure f => some f
  | _ => none

/-- The report that a cause is. -/
def report? : Cause → Option Report
  | report r => some r
  | _ => none

/-- The reports that a cause holds together. -/
def joined? : Cause → Option (List Report)
  | joined rs => some rs
  | _ => none

/-- The message of something foreign. -/
def foreign? : Cause → Option String
  | foreign message | foreignFrom message _ => some message
  | _ => none

/-- Whether a report of a class is among a cause and the causes behind it. -/
def hasClass (k : ReportClass) (c : Cause) : Bool :=
  (c.find? fun d => d.report?.filter (·.kind = k)).isSome

end Cause

/-- Whether a report is of a class, or a report behind it. -/
def Report.hasClass (k : ReportClass) (r : Report) : Bool := (Cause.report r).hasClass k

/-! ### Summaries -/

/-- Reports together, at least one. -/
structure Summary where
  /-- The reports, in order. -/
  members : List Report
  /-- There is one. -/
  nonempty : members ≠ []

namespace Summary

/-- Put reports together; none for no reports. -/
def ofList? : List Report → Option Summary
  | [] => none
  | r :: rs => some ⟨r :: rs, by simp⟩

/-- The reports as one cause. -/
def cause (s : Summary) : Cause := .joined s.members

/-- What the reports say, line by line. -/
def text (s : Summary) : String := s.cause.text

/-- The number of reports of a class, without those behind them. -/
def count (k : ReportClass) (s : Summary) : Nat := (s.members.filter (·.kind = k)).length

/-- The text with which a failed test ends. -/
def verdict (s : Summary) : String := "contract verification failed:\n" ++ s.text

end Summary

end ApiContract
