/-
**Patterns.**

A pattern is made of characters, conditions on places, sequences, choices and repetitions.  It
matches a text if some part of the text is made as the pattern says.  Matching follows all
possibilities at once: it turns the set of places where a part may begin into the set of places
where it may end.

Main definitions:

* `Pattern` — patterns over any kind of tests;
* `Pattern.ends` — where a pattern may end, from where it may begin; a set of places is a number
  whose bit `i` says whether the place before character `i` is in it;
* `Pattern.CharClass`, `Pattern.Condition` — tests on characters and on places;
* `Pattern.occursIn` — whether a pattern matches a part of a text.
-/

import ApiContract.Text.Category

set_option autoImplicit false

namespace ApiContract

/-- A pattern over tests `σ` on characters and tests `τ` on places. -/
inductive Pattern (σ τ : Type) where
  /-- Nothing. -/
  | empty
  /-- A character that passes a test. -/
  | char (test : σ)
  /-- A place that passes a test. -/
  | place (test : τ)
  /-- One pattern, then another. -/
  | seq (first second : Pattern σ τ)
  /-- One of two patterns. -/
  | alt (left right : Pattern σ τ)
  /-- A pattern at least `least` times, and at most as often as a limit says. -/
  | rep (least : Nat) (most : Option Nat) (body : Pattern σ τ)
  deriving Inhabited

namespace Pattern

variable {σ τ : Type}

/-- The patterns in a sequence. -/
def seqOf : List (Pattern σ τ) → Pattern σ τ
  | [] => .empty
  | [p] => p
  | p :: ps => .seq p (seqOf ps)

/-- One of several patterns, at least one. -/
def altOf : List (Pattern σ τ) → Pattern σ τ
  | [] => .empty
  | [p] => p
  | p :: ps => .alt p (altOf ps)

/-- The pattern with other tests. -/
def map {σ' τ' : Type} (f : σ → σ') (g : τ → τ') : Pattern σ τ → Pattern σ' τ'
  | .empty => .empty
  | .char s => .char (f s)
  | .place t => .place (g t)
  | .seq p q => .seq (map f g p) (map f g q)
  | .alt p q => .alt (map f g p) (map f g q)
  | .rep least most p => .rep least most (map f g p)

/-! ### Sets of places -/

/-- Apply a function to a set of places a number of times, or until nothing changes. -/
def repeated (f : Nat → Nat) : Nat → Nat → Nat
  | 0, s => s
  | n + 1, s =>
    let t := f s
    if t = s then s else repeated f n t

/-- Add to a set of places what a function makes of it, a number of times or until nothing
changes. -/
def accumulated (f : Nat → Nat) : Nat → Nat → Nat
  | 0, s => s
  | n + 1, s =>
    let t := s ||| f s
    if t = s then s else accumulated f n t

/-- Where a pattern may end in a text with a given number of places, from where it may begin.  The
tests are given as the sets of places before characters, and of places, that pass them.  More
repetitions than there are places change nothing. -/
def ends (places : Nat) : Pattern Nat Nat → Nat → Nat
  | .empty, s => s
  | .char m, s => (s &&& m) <<< 1
  | .place m, s => s &&& m
  | .seq p q, s => ends places q (ends places p s)
  | .alt p q, s => ends places p s ||| ends places q s
  | .rep least most p, s =>
    let t := repeated (ends places p) (min least places) s
    accumulated (ends places p)
      (match most with | some m => min (m - least) places | none => places) t

/-! ### Tests -/

/-- A test on characters. -/
abbrev CharClass := Char → Bool

/-- A condition on a place. -/
inductive Condition where
  /-- The begin of the text. -/
  | textStart
  /-- The end of the text. -/
  | textEnd
  /-- The begin of a line; carriage returns may end lines too. -/
  | lineStart (carriageReturns : Bool)
  /-- The end of a line; carriage returns may end lines too. -/
  | lineEnd (carriageReturns : Bool)
  /-- The begin or the end of a word. -/
  | boundary (isWord : CharClass)
  /-- Neither the begin nor the end of a word. -/
  | noBoundary (isWord : CharClass)
  /-- The begin of a word. -/
  | wordStart (isWord : CharClass)
  /-- The end of a word. -/
  | wordEnd (isWord : CharClass)
  /-- No word comes before. -/
  | noWordBefore (isWord : CharClass)
  /-- No word comes after. -/
  | noWordAfter (isWord : CharClass)

/-- Whether a condition holds between a character and the next one. -/
def Condition.holds (before after : Option Char) : Condition → Bool
  | .textStart => before.isNone
  | .textEnd => after.isNone
  | .lineStart false => before.all (· = '\n')
  | .lineStart true => before.all fun c => c = '\n' || (c = '\r' && after != some '\n')
  | .lineEnd false => after.all (· = '\n')
  | .lineEnd true => after.all fun c => c = '\r' || (c = '\n' && before != some '\r')
  | .boundary w => before.any w != after.any w
  | .noBoundary w => before.any w == after.any w
  | .wordStart w => !before.any w && after.any w
  | .wordEnd w => before.any w && !after.any w
  | .noWordBefore w => !before.any w
  | .noWordAfter w => !after.any w

/-- The places before the characters that pass a test. -/
def placesBefore (p : CharClass) : List Char → Nat
  | [] => 0
  | c :: cs => (if p c then 1 else 0) + 2 * placesBefore p cs

/-- The places where a condition holds; `before` is the character before the first place. -/
def placesWhere (t : Condition) (before : Option Char) : List Char → Nat
  | [] => if t.holds before none then 1 else 0
  | c :: cs => (if t.holds before (some c) then 1 else 0) + 2 * placesWhere t (some c) cs

/-- Whether a pattern matches a part of a text. -/
def occursIn (p : Pattern CharClass Condition) (cs : List Char) : Bool :=
  let places := cs.length + 1
  let located := p.map (fun s => placesBefore s cs) fun t => placesWhere t none cs
  located.ends places (Nat.pow 2 places - 1) != 0

end Pattern

end ApiContract
