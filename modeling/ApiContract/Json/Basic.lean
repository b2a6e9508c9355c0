/-
**JSON values.**

Main definitions:

* `Json.Number` — integers of 64 bits and floating-point numbers, which are told apart;
* `Json` — values, with the members of an object in the order of their names;
* `Json.same` — equality of values, where floating-point numbers are compared as numbers;
* `Json.insertMember` — a member added to an object.

Main results:

* `Json.mem_memberNames_insertMember` — the names after an insertion are those before it and the
  new one.
-/

import ApiContract.Decimal.Binary

set_option autoImplicit false

namespace ApiContract

/-- A number: an integer that fits 64 bits, or a floating-point number. -/
inductive Json.Number where
  /-- An integer from `-2 ^ 63` to `2 ^ 64 - 1`. -/
  | int (n : Int)
  /-- A finite floating-point number. -/
  | float (x : Float)

/-- A value.  The members of an object are in the order of their names, each name once. -/
inductive Json where
  | null
  | bool (b : Bool)
  | number (n : Json.Number)
  | string (s : String)
  | array (items : List Json)
  | object (members : List (String × Json))
  deriving Inhabited

namespace Json

/-- Equality of numbers: an integer is never a floating-point number. -/
def Number.same : Number → Number → Bool
  | .int m, .int n => m == n
  | .float x, .float y => x == y
  | _, _ => false

/-- The number as floating point, rounded to the nearest. -/
def Number.toFloat : Number → Float
  | .int n => Decimal.toNearest n
  | .float x => x

mutual

/-- Equality of values. -/
def same : Json → Json → Bool
  | .null, .null => true
  | .bool a, .bool b => a == b
  | .number m, .number n => m.same n
  | .string s, .string t => s == t
  | .array xs, .array ys => sameItems xs ys
  | .object ms, .object ns => sameMembers ms ns
  | _, _ => false

/-- Equality of the items of two arrays. -/
def sameItems : List Json → List Json → Bool
  | [], [] => true
  | x :: xs, y :: ys => same x y && sameItems xs ys
  | _, _ => false

/-- Equality of the members of two objects. -/
def sameMembers : List (String × Json) → List (String × Json) → Bool
  | [], [] => true
  | (k, v) :: ms, (l, w) :: ns => k == l && same v w && sameMembers ms ns
  | _, _ => false

end

/-- The names of members. -/
def memberNames (members : List (String × Json)) : List String := members.map Prod.fst

/-- Add a member where its name belongs; a member with that name is replaced. -/
def insertMember : List (String × Json) → String → Json → List (String × Json)
  | [], name, value => [(name, value)]
  | (k, v) :: ms, name, value =>
    if k = name then (k, value) :: ms
    else if name < k then (name, value) :: (k, v) :: ms
    else (k, v) :: insertMember ms name value

/-- The object with the given members, the last of those with one name. -/
def ofMembers (members : List (String × Json)) : Json :=
  .object (members.foldl (fun ms m => insertMember ms m.1 m.2) [])

/-- The member of a name. -/
def member? : List (String × Json) → String → Option Json
  | [], _ => none
  | (k, v) :: ms, name => if k = name then some v else member? ms name

/-- The names after an insertion: the old ones and the new one. -/
theorem mem_memberNames_insertMember (ms : List (String × Json)) (name : String) (value : Json)
    (k : String) :
    k ∈ memberNames (insertMember ms name value) ↔ k ∈ memberNames ms ∨ k = name := by
  induction ms with
  | nil => simp [insertMember, memberNames]
  | cons m ms ih =>
    obtain ⟨l, v⟩ := m
    simp only [memberNames] at ih ⊢
    unfold insertMember
    by_cases h₁ : l = name
    · subst h₁; simp only [if_true, List.map_cons, List.mem_cons]; grind
    · by_cases h₂ : name < l
      · simp only [if_neg h₁, if_pos h₂, List.map_cons, List.mem_cons]; grind
      · simp only [if_neg h₁, if_neg h₂, List.map_cons, List.mem_cons, ih]; grind

end Json

end ApiContract
