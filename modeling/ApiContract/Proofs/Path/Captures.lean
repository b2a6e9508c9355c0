/-
**What the pattern of a template captures.**

A template is matched as a pattern, with a group for each placeholder.  A backtracking matcher tries
what a group may take in a fixed order, from the shortest text on for a lazy group and from the
longest on for a greedy one; of the ways to match a whole text the one that it meets first counts.

A greedy group is followed by the end of the text or by a slash, so that there is no choice in what
it takes.  The first way is therefore the one that the search for the shortest texts finds.

Main definitions:

* `Capture.ways` — the ways to match a text, in the order in which they are met.

Main results:

* `Capture.flatMap_reverse_beginnings` — greedy or lazy makes no difference before a slash;
* `Capture.head?_ways` — **the way that is met first is what the search finds**.
-/

import ApiContract.Path.Capture
import ApiContract.Path.Cut

set_option relaxedAutoImplicit false
set_option autoImplicit false

namespace ApiContract.Capture

open Cut (Step first? shortest partSteps stepsOf)
open Template (Part Segment)

/-! ### Ways to match -/

/-- The non-empty beginnings of a text that are free of slashes, the shortest first, each with what
is left. -/
def beginnings : List Char → List (List Char × List Char)
  | [] => []
  | c :: cs => if c = '/' then [] else ([c], cs) :: (beginnings cs).map fun p => (c :: p.1, p.2)

/-- The ways to match a whole text, as the texts of the groups, in the order in which a backtracking
matcher meets them. -/
def ways : List Piece → List Char → List (List (List Char))
  | [], cs => if cs = [] then [[]] else []
  | .char _ :: _, [] => []
  | .char a :: pieces, c :: cs => if a = c then ways pieces cs else []
  | .group greedy :: pieces, cs =>
    (if greedy then (beginnings cs).reverse else beginnings cs).flatMap fun p =>
      (ways pieces p.2).map (p.1 :: ·)

/-! ### Greedy groups -/

/-- If nothing but a slash may follow a beginning, only the longest one counts, so that it does not
matter in which order they are tried. -/
theorem flatMap_reverse_beginnings {β : Type} {next : List Char × List Char → List β}
    (h : ∀ text c cs, c ≠ '/' → next (text, c :: cs) = []) (cs : List Char) :
    (beginnings cs).reverse.flatMap next = (beginnings cs).flatMap next := by
  induction cs generalizing next with
  | nil => rfl
  | cons c cs ih =>
      rw [beginnings]
      split
      · rfl
      · have hlonger := @ih (fun p => next (c :: p.1, p.2)) fun text d ds hd =>
          h (c :: text) d ds hd
        rw [List.reverse_cons, List.flatMap_append, ← List.map_reverse, List.flatMap_map, hlonger,
          List.flatMap_singleton, List.flatMap_cons, List.flatMap_map]
        -- either the text goes on, and the short beginning leads nowhere, or it is the only one
        cases cs with
        | nil => simp [beginnings]
        | cons d ds =>
            by_cases hd : d = '/'
            · simp [beginnings, hd]
            · simp [h [c] d ds hd]

/-- A pattern matches no text that goes on with anything but a slash. -/
def Closed (pieces : List Piece) : Prop := ∀ c cs, c ≠ '/' → ways pieces (c :: cs) = []

theorem closed_nil : Closed [] := fun _ _ _ => rfl

theorem closed_slash (pieces : List Piece) : Closed (.char '/' :: pieces) := by
  intro c cs hc
  rw [ways, if_neg (Ne.symm hc)]

/-! ### The way that is met first -/

section

variable {pieces : List Piece} {steps : List Step}

/-- A lazy group takes the shortest beginning after which the pattern goes on. -/
theorem head?_ways_lazy (taken cs : List Char) :
    ((beginnings cs).flatMap fun p => (ways pieces p.2).map ((taken ++ p.1) :: ·)).head? =
      shortest (fun cs => (ways pieces cs).head?) taken cs := by
  induction cs generalizing taken with
  | nil => rfl
  | cons c cs ih =>
      rw [beginnings, shortest]
      split
      · rfl
      · have hlonger : (((beginnings cs).map fun p => (c :: p.1, p.2)).flatMap fun p =>
            (ways pieces p.2).map ((taken ++ p.1) :: ·)).head? =
            shortest (fun cs => (ways pieces cs).head?) (taken ++ [c]) cs := by
          rw [List.flatMap_map, ← ih]
          simp only [List.append_assoc, List.singleton_append]
        rw [List.flatMap_cons, List.head?_append, hlonger, List.head?_map]
        cases (ways pieces cs).head? <;> rfl

/-- A group takes what the search takes for a placeholder, whether it is lazy or greedy: a greedy
one stands only where the pattern goes on with a slash. -/
theorem head?_ways_group {greedy : Bool} (hclosed : greedy = true → Closed pieces)
    (h : ∀ cs, (ways pieces cs).head? = first? steps cs) (cs : List Char) :
    (ways (.group greedy :: pieces) cs).head? = first? (.hole :: steps) cs := by
  have hlazy : (ways (.group greedy :: pieces) cs) =
      (beginnings cs).flatMap fun p => (ways pieces p.2).map (p.1 :: ·) := by
    cases greedy with
    | false => rfl
    | true =>
        refine flatMap_reverse_beginnings (fun text c cs hc => ?_) cs
        rw [hclosed rfl c cs hc]
        rfl
  rw [hlazy, Cut.first?_hole, ← funext h]
  exact head?_ways_lazy [] cs

theorem head?_ways_literal (h : ∀ cs, (ways pieces cs).head? = first? steps cs)
    (text cs : List Char) :
    (ways (text.map .char ++ pieces) cs).head? = first? (text.map .char ++ steps) cs := by
  induction text generalizing cs with
  | nil => exact h cs
  | cons a text ih =>
      cases cs with
      | nil => rfl
      | cons c cs =>
          rw [List.map_cons, List.map_cons, List.cons_append, List.cons_append, ways,
            Cut.first?_char]
          split
          · exact ih cs
          · rfl

/-- The pieces of a segment are met as its steps are searched, if what follows is and begins with a
slash. -/
theorem head?_ways_segment (hclosed : Closed pieces)
    (h : ∀ cs, (ways pieces cs).head? = first? steps cs) (parts : Segment) (cs : List Char) :
    (ways (segmentPieces parts ++ pieces) cs).head? =
      first? (parts.flatMap partSteps ++ steps) cs := by
  induction parts generalizing cs with
  | nil => exact h cs
  | cons part parts ih =>
      rw [List.flatMap_cons, List.append_assoc]
      cases part with
      | literal text =>
          rw [segmentPieces, List.append_assoc]
          exact head?_ways_literal ih text.toList cs
      | param name =>
          refine head?_ways_group (fun hlast => ?_) ih cs
          rw [List.isEmpty_iff.1 hlast]
          exact hclosed

theorem head?_ways_segments (segments : List Segment) (cs : List Char) :
    (ways (segments.flatMap fun segment => .char '/' :: segmentPieces segment) cs).head? =
      first? (segments.flatMap fun segment => .char '/' :: segment.flatMap partSteps) cs := by
  induction segments generalizing cs with
  | nil =>
      cases cs <;> rfl
  | cons segment segments ih =>
      have hclosed : Closed
          (segments.flatMap fun segment => .char '/' :: segmentPieces segment) := by
        cases segments with
        | nil => exact closed_nil
        | cons next segments => exact closed_slash _
      exact head?_ways_literal (head?_ways_segment hclosed ih segment) ['/'] cs

end

/-- **The way that is met first is what the search for the shortest texts finds.** -/
theorem head?_ways (segments : List Segment) (cs : List Char) :
    (ways (piecesOf segments) cs).head? = first? (stepsOf segments) cs := by
  cases segments with
  | nil => exact head?_ways_literal (fun cs => by cases cs <;> rfl) ['/'] cs
  | cons segment segments => exact head?_ways_segments (segment :: segments) cs

/-- The first of two groups is lazy, and the second takes what is left. -/
example : ways (piecesOf [[.param "name", .literal ".", .param "ext"]]) "/a.b.c".toList =
    [[['a'], ['b', '.', 'c']], [['a', '.', 'b'], ['c']]] := by decide

end ApiContract.Capture
