/-
**Every exchange is logged exactly once, in order.**

Recording an exchange logs its request, then its response, before anything else is looked at; a
reset and the queries of clients log nothing.  The log of a session is therefore known from the
exchanges that were recorded since it was new: two entries for each of them, in order, both with the
number of exchanges before it.  A reset does not start the numbers again, and they go round after
`2 ^ 64` exchanges.

Main definitions:

* `Query`, `Answer` — what clients ask of a session;
* `Demand` — what clients do with a session: call it, or ask it;
* `Contract.serve`, `Contract.serveAll` — a session after demands;
* `Demand.recorded` — the exchanges that were recorded, whatever was forgotten;
* `Contract.Logs` — the log of a session holds some exchanges.

Main results:

* `Contract.Logs.serve` — what one demand adds to a log;
* `Contract.log_serveAll` — **every exchange is logged exactly once, in order**.
-/

import ApiContract.Pattern.Library
import ApiContract.Proofs.Session.Filtering

set_option relaxedAutoImplicit false
set_option autoImplicit false

namespace ApiContract

/-! ### What clients do -/

/-- What clients ask of a session. -/
inductive Query where
  /-- The reports so far. -/
  | reports
  /-- The reports so far together. -/
  | summary
  /-- How many coordinates there are, and how many of them are checked. -/
  | counts
  /-- The table of coverage. -/
  | table

/-- What a session answers. -/
inductive Answer where
  /-- The reports so far. -/
  | reports (rs : List Report)
  /-- The reports so far together; none if there are none. -/
  | summary (s : Option Summary)
  /-- The number of coordinates and the number of those that are checked. -/
  | counts (total checked : Nat)
  /-- The table of coverage. -/
  | table (t : Coverage)

/-- What a client does with a session. -/
inductive Demand where
  /-- Call it. -/
  | call (call : Call)
  /-- Ask it. -/
  | ask (query : Query)

/-- The exchange that is recorded. -/
def Demand.exchange? : Demand → Option Http.Exchange
  | .call (.record x) => some x
  | .call .reset | .ask _ => none

/-- The exchanges that are recorded, in order; a reset takes none of them away. -/
def Demand.recorded (ds : List Demand) : List Http.Exchange := ds.filterMap exchange?

/-- The log entries of an exchange before which a number of others were recorded. -/
def Http.Exchange.entries (x : Http.Exchange) (before : Nat) : List LogEntry :=
  [⟨.ofNat before, .request, x.request.dump⟩, ⟨.ofNat before, .response, x.response.dump⟩]

namespace Contract

/-- The answer of a session to a query. -/
def answer (c : Contract) (s : Session) : Query → Answer
  | .reports => .reports (c.reports s)
  | .summary => .summary (c.summary? s)
  | .counts => .counts s.coverage.size s.coverage.checkedCount
  | .table => .table s.coverage

/-- A session after one demand, with the answer to it. -/
def serve [Libraries] (c : Contract) (s : Session) : Demand → Session × Option Answer
  | .call call => (c.step s call, none)
  | .ask query => (s, some (c.answer s query))

/-- A session after some demands. -/
def serveAll [Libraries] (c : Contract) (s : Session) (ds : List Demand) : Session :=
  ds.foldl (fun s d => (c.serve s d).1) s

/-- The log of a session holds exchanges, each with the number of those before it. -/
structure Logs (s : Session) (xs : List Http.Exchange) : Prop where
  /-- The next exchange gets the number of all exchanges so far. -/
  sequence_eq : s.sequence = .ofNat xs.length
  /-- Each exchange has its two entries, one exchange after the other. -/
  log_eq : s.log = xs.zipIdx.flatMap fun x => x.1.entries x.2

section

variable {c : Contract} {s : Session} {xs : List Http.Exchange}

/-! ### One demand -/

/-- Coverage and ledger are entered without a look at the log. -/
@[simp] theorem log_enter (s : Session) (o : Outcome) : (s.enter o).log = s.log := by
  cases o <;> rfl

@[simp] theorem sequence_enter (s : Session) (o : Outcome) :
    (s.enter o).sequence = s.sequence := by
  cases o <;> rfl

variable [Libraries]

/-- An exchange that is recorded is logged, whatever comes of it. -/
theorem Logs.record (h : Logs s xs) (hlogging : c.policy.logging = true) (x : Http.Exchange) :
    Logs (c.record s x) (xs ++ [x]) := by
  constructor
  · rw [Contract.record, sequence_enter, logged, if_pos hlogging, h.sequence_eq,
      List.length_append, List.length_singleton, UInt64.ofNat_add]
    rfl
  · have hentries : c.logEntries s.sequence x = x.entries xs.length := by
      rw [logEntries, if_pos hlogging, h.sequence_eq]
      rfl
    rw [Contract.record, log_enter, logged, hentries, h.log_eq, List.zipIdx_append,
      List.flatMap_append]
    simp

/-- What one demand adds to a log. -/
theorem Logs.serve (h : Logs s xs) (hlogging : c.policy.logging = true) (d : Demand) :
    Logs (c.serve s d).1 (xs ++ d.exchange?.toList) := by
  cases d with
  | call call =>
      cases call with
      | record x => exact h.record hlogging x
      | reset =>
          rw [Demand.exchange?, Option.toList_none, List.append_nil]
          exact ⟨h.sequence_eq, h.log_eq⟩
  | ask query =>
      rw [Demand.exchange?, Option.toList_none, List.append_nil]
      exact h

/-! ### Every sequence of demands -/

/-- Demands add to a log what they record. -/
theorem Logs.serveAll (h : Logs s xs) (hlogging : c.policy.logging = true) (ds : List Demand) :
    Logs (c.serveAll s ds) (xs ++ Demand.recorded ds) := by
  induction ds generalizing s xs with
  | nil => rwa [Demand.recorded, List.filterMap_nil, List.append_nil]
  | cons d ds ih =>
      have hrest := ih (h.serve hlogging d)
      rw [List.append_assoc] at hrest
      have hrecorded : Demand.recorded (d :: ds) = d.exchange?.toList ++ Demand.recorded ds := by
        cases hd : d.exchange? <;> simp [Demand.recorded, hd]
      rwa [hrecorded]

omit [Libraries] in
/-- The log of a new session is empty. -/
theorem logs_start (c : Contract) : Logs c.start [] := ⟨rfl, rfl⟩

/-- **Every exchange is logged exactly once, in order.**  After any demands, the log of a session
that logs messages has two entries for each exchange that was recorded since the session was new,
and nothing else: the dump of its request, then the dump of its response, both with the number of
exchanges recorded before it, counted in 64 bits.  What comes of the exchange does not matter. -/
theorem log_serveAll (c : Contract) (hlogging : c.policy.logging = true) (ds : List Demand) :
    (c.serveAll c.start ds).log =
        (Demand.recorded ds).zipIdx.flatMap (fun x =>
          [⟨.ofNat x.2, .request, x.1.request.dump⟩, ⟨.ofNat x.2, .response, x.1.response.dump⟩]) ∧
      -- in particular, with what one more demand adds to the log
      ∀ d, (c.serve (c.serveAll c.start ds) d).1.log =
        (c.serveAll c.start ds).log ++
          d.exchange?.toList.flatMap (·.entries (Demand.recorded ds).length) := by
  have h := (logs_start c).serveAll hlogging ds
  rw [List.nil_append] at h
  refine ⟨h.log_eq, fun d => ?_⟩
  rw [(h.serve hlogging d).log_eq, h.log_eq, List.zipIdx_append, List.flatMap_append]
  cases d.exchange? <;> simp

end

/-- An exchange with invalid messages, then a reset, then an exchange that is ignored: both are
logged, under the numbers zero and one. -/
theorem log_serveAll_picture :
    (picturedContract { logging := true }).policy.logging = true ∧
      ((picturedContract { logging := true }).serveAll (picturedContract { logging := true }).start
        [.ask .reports, .call (.record picture), .call .reset, .ask .table,
          .call (.record { picture with response := { status := .internalError } })]).log.map
        (fun e => (e.sequence, e.part)) =
          [(0, .request), (0, .response), (1, .request), (1, .response)] := by
  have hlogging : (picturedContract { logging := true }).policy.logging = true := rfl
  obtain ⟨hlog, -⟩ := log_serveAll _ hlogging
    [.ask .reports, .call (.record picture), .call .reset, .ask .table,
      .call (.record { picture with response := { status := .internalError } })]
  refine ⟨hlogging, ?_⟩
  rw [hlog]
  rfl

end Contract

end ApiContract
