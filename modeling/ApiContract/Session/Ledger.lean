/-
**Ledgers.**

Main definitions:

* `Ledger` — the reports about exchanges, the oldest first;
* `Ledger.snapshot` — the same followed by reports about coordinates that were not checked.
-/

import ApiContract.Session.Report

set_option autoImplicit false

namespace ApiContract

/-- The reports about exchanges, the oldest first. -/
abbrev Ledger := List Report

namespace Ledger

/-- Add a report. -/
def push (l : Ledger) (r : Report) : Ledger := l ++ [r]

/-- The reports, followed by one for every coordinate of a table that is not checked, in order;
without a table, the reports alone. -/
def snapshot (l : Ledger) (coverage : Option Coverage) : List Report :=
  match coverage with
  | none => l
  | some t => l ++ t.unchecked.map fun c => .ofFault (.uncovered c)

end Ledger

end ApiContract
