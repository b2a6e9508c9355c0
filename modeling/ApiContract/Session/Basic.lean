/-
**Sessions.**

A session records exchanges under a contract.  Every exchange is ignored, or it belongs to no
documented response, or it checks one coordinate and is checked itself.

Main definitions:

* `Contract` — a specification with a policy and a router;
* `Session` — what has been recorded;
* `Outcome`, `Contract.outcome` — what comes of an exchange;
* `Contract.record`, `Contract.reset` — the steps of a session;
* `Contract.readings`, `Contract.record?` — the texts that are read when an exchange is recorded,
  and the session that follows if they have values;
* `Contract.reports`, `Contract.summary?` — what a session reports.
-/

import ApiContract.Logging.Entry
import ApiContract.Session.Ledger
import ApiContract.Session.Policy
import ApiContract.Specification.Reading
import ApiContract.Validation.Message

set_option autoImplicit false

namespace ApiContract

variable [Libraries]

/-! ### Contracts -/

/-- What exchanges are checked against. -/
structure Contract where
  /-- The specification. -/
  specification : Specification
  /-- The policy; its base path is in normal form. -/
  policy : Policy
  /-- The router for the paths of the specification. -/
  router : Router

namespace Contract

/-- The contract of a specification under a policy. -/
def ofSpecification (s : Specification) (policy : Policy) : Except Route.Error Contract :=
  match s.router policy.normalBase with
  | .ok router => .ok ⟨s, policy.normal, router⟩
  | .error e => .error e

end Contract

/-! ### Sessions -/

/-- What has been recorded. -/
structure Session where
  /-- The coordinates that are checked. -/
  coverage : Coverage
  /-- The reports about exchanges. -/
  ledger : Ledger := []
  /-- The number of the next exchange. -/
  sequence : UInt64 := 0
  /-- The messages logged so far. -/
  log : List LogEntry := []

/-- What comes of an exchange. -/
inductive Outcome where
  /-- It is not looked at. -/
  | ignored
  /-- It belongs to no documented response. -/
  | undocumented (fault : Fault)
  /-- It checks a coordinate, with reports on its request and its response. -/
  | checked (coordinate : Coordinate) (reports : List Report)

namespace Contract

/-- The session in which nothing has been recorded. -/
def start (c : Contract) : Session :=
  { coverage := .load c.specification c.policy.internalErrors }

/-! ### Outcomes -/

/-- Whether the status of a response is one that the policy leaves out. -/
def leavesOut (c : Contract) (r : Http.Response) : Bool :=
  !c.policy.internalErrors && r.status = .internalError

/-- The outcome of an exchange that belongs to no documented response. -/
def unmatched (c : Contract) (x : Http.Exchange) : Outcome :=
  if c.leavesOut x.response then .ignored
  else .undocumented (.undocumented x.request.method x.request.uri.path x.response.status.code)

/-- The reports on a request; none if the policy does not ask for them. -/
def requestReports (c : Contract) (e : Endpoint) (r : Http.Request) (params : Dict String) :
    List Report :=
  if c.policy.checkRequests then
    ((c.specification.checkRequest e r params).map fun f =>
      Report.ofFault (.requestInvalid r.method r.uri.path f)).toList
  else []

/-- The reports on a response. -/
def responseReports (c : Contract) (e : Endpoint) (site : Site) (x : Http.Exchange) :
    List Report :=
  match c.specification.checkResponse e site x.response with
  | none => []
  | some f =>
    if f.isUnsupported && c.policy.ignoreUnsupported then []
    else
      [.ofFault (.responseInvalid x.request.method x.request.uri.path x.response.status.code f)]

/-- The placeholders of a match with their decoded texts. -/
def decodedParams (m : RouteMatch) : Dict String :=
  m.params.map fun p => (p.1, Percent.decodeSegment p.2)

/-- The coordinate of a table that a response to a method under a template falls under. -/
def coordinate? (coverage : Coverage) (template : String) (method : Http.Method)
    (status : Http.Status) : Option Coordinate :=
  (TrackedMethod.ofMethod? method).bind fun m => coverage.resolve? template m status.code

/-- The outcome of an exchange whose path matches a template.  A failure of the server that is
documented as such, but left out by the policy, falls under no other key. -/
def matchedOutcome (c : Contract) (coverage : Coverage) (x : Http.Exchange) (m : RouteMatch) :
    Outcome :=
  let method := x.request.method
  match c.specification.operation? m.template method with
  | none => c.unmatched x
  | some e =>
    if !c.policy.internalErrors &&
        e.responseKey? x.response.status.code = some internalErrorKey then .ignored
    else match coordinate? coverage m.template method x.response.status with
      | none => c.unmatched x
      | some coordinate =>
        .checked coordinate
          (c.requestReports e x.request (decodedParams m) ++
            c.responseReports e ⟨method, m.template⟩ x)

/-- What comes of an exchange. -/
def outcome (c : Contract) (coverage : Coverage) (x : Http.Exchange) : Outcome :=
  match c.router.matchPath x.request.uri.path with
  | none => c.unmatched x
  | some m => c.matchedOutcome coverage x m

/-! ### Steps -/

/-- The log entries of an exchange. -/
def logEntries (c : Contract) (sequence : UInt64) (x : Http.Exchange) : List LogEntry :=
  if c.policy.logging then
    [⟨sequence, .request, x.request.dump⟩, ⟨sequence, .response, x.response.dump⟩]
  else []

/-- Log an exchange, and count it if messages are logged. -/
def logged (c : Contract) (s : Session) (x : Http.Exchange) : Session :=
  { s with
    sequence := if c.policy.logging then s.sequence + 1 else s.sequence
    log := s.log ++ c.logEntries s.sequence x }

end Contract

/-- Enter an outcome into coverage and ledger. -/
def Session.enter (s : Session) : Outcome → Session
  | .ignored => s
  | .undocumented fault => { s with ledger := s.ledger.push (.ofFault fault) }
  | .checked coordinate reports =>
    { s with coverage := (s.coverage.mark coordinate).2, ledger := s.ledger ++ reports }

namespace Contract

/-- Record an exchange whose texts have values. -/
def record (c : Contract) (s : Session) (x : Http.Exchange) : Session :=
  (c.logged s x).enter (c.outcome s.coverage x)

/-- The texts that are read as schemas say when an exchange is recorded: those of a response that is
documented, and of its request if requests are checked. -/
def readings (c : Contract) (coverage : Coverage) (x : Http.Exchange) : List Reading :=
  match c.router.matchPath x.request.uri.path, c.outcome coverage x with
  | some m, .checked _ _ =>
    (c.specification.operation? m.template x.request.method).toList.flatMap fun e =>
      (if c.policy.checkRequests then
        c.specification.requestReadings e x.request (decodedParams m)
      else []) ++ c.specification.responseReadings e ⟨x.request.method, m.template⟩ x.response
  | _, _ => []

/-- Record an exchange; none if reading its texts does not come to an end. -/
def record? (c : Contract) (s : Session) (x : Http.Exchange) : Option Session :=
  if c.specification.components.schemas.completes (c.readings s.coverage x) then
    some (c.record s x)
  else none

/-- Forget what has been recorded; the log and the count of exchanges go on. -/
def reset (c : Contract) (s : Session) : Session :=
  { s with coverage := c.start.coverage, ledger := [] }

/-! ### Reports -/

/-- The reports so far. -/
def reports (c : Contract) (s : Session) : List Report :=
  s.ledger.snapshot (if c.policy.partialCoverage then none else some s.coverage)

/-- The reports so far together; none if there are none. -/
def summary? (c : Contract) (s : Session) : Option Summary :=
  Summary.ofList? (c.reports s)

end Contract

end ApiContract
