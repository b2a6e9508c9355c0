/-
**Issues.**

An issue says in which part of a message something is wrong, and what.  A failure is a message with
its issues.

Main definitions:

* `IssueKind`, `Issue`, `Failure`, with their texts;
* `Failure.ofIssues?` — the failure that issues make: none if there are none;
* `Failure.isUnsupported` — whether nothing but media types without a reader is at fault.
-/

import ApiContract.Text.Basic

set_option autoImplicit false

namespace ApiContract

/-- The parts of a message that can be at fault. -/
inductive IssueKind where
  /-- A parameter. -/
  | parameter
  /-- A header of a response. -/
  | header
  /-- A body. -/
  | body
  /-- The media type of a body, which is missing or not declared. -/
  | contentType
  /-- The media type of a body, which is declared but cannot be read. -/
  | unsupportedMediaType
  /-- The status of a response. -/
  | status
  deriving DecidableEq, Repr

/-- The kinds, in order. -/
def IssueKind.all : List IssueKind :=
  [.parameter, .header, .body, .contentType, .unsupportedMediaType, .status]

/-- Something wrong in a message. -/
structure Issue where
  /-- The part at fault. -/
  kind : IssueKind
  /-- Where it is; empty for the message as a whole. -/
  path : String
  /-- What is wrong. -/
  message : String
  deriving DecidableEq, Repr

/-- The text of an issue. -/
def Issue.text (i : Issue) : String :=
  if i.path = "" then i.message else i.path ++ ": " ++ i.message

/-- What is wrong with a message. -/
structure Failure where
  /-- The issues. -/
  issues : List Issue
  deriving DecidableEq, Repr

namespace Failure

/-- The failure that issues make; a message without issues is valid. -/
def ofIssues? (issues : List Issue) : Option Failure :=
  if issues = [] then none else some ⟨issues⟩

/-- The text of a failure. -/
def text (f : Failure) : String := Text.joined "; " (f.issues.map Issue.text)

/-- Whether an issue is of a kind. -/
def hasKind (f : Failure) (kind : IssueKind) : Bool := f.issues.any (·.kind = kind)

/-- Whether nothing but media types that cannot be read is at fault. -/
def isUnsupported (f : Failure) : Bool :=
  f.issues ≠ [] && f.issues.all (·.kind = .unsupportedMediaType)

end Failure

end ApiContract
