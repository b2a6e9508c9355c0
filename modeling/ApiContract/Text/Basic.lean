/-
**Cutting text.**

Texts are cut as lists of characters: at a separator, at the first occurrence of a pattern, at a
prefix, or at the ends.

Main definitions:

* `Text.fields` — the pieces between separators, at least one;
* `Text.cutAt` — what stands before and after the first occurrence of a pattern;
* `Text.replaceAll` — every occurrence of a pattern replaced, from left to right;
* `Text.trimEnds` — a text without the leading and trailing characters of a class.
-/

set_option autoImplicit false

namespace ApiContract.Text

/-- The pieces between the occurrences of a separator: one more than there are separators. -/
def fields (sep : Char) : List Char → List (List Char)
  | [] => [[]]
  | c :: cs =>
    if c = sep then [] :: fields sep cs
    else match fields sep cs with
      | [] => [[c]]
      | f :: fs => (c :: f) :: fs

theorem fields_ne_nil (sep : Char) (cs : List Char) : fields sep cs ≠ [] := by
  cases cs with
  | nil => simp [fields]
  | cons c cs =>
    simp only [fields]
    split
    · simp
    · split <;> simp

/-- What stands before and after the first occurrence of a pattern. -/
def cutAt (pattern : List Char) : List Char → Option (List Char × List Char)
  | [] => if pattern = [] then some ([], []) else none
  | c :: cs =>
    match pattern.isPrefixOf? (c :: cs) with
    | some rest => some ([], rest)
    | none => (cutAt pattern cs).map fun p => (c :: p.1, p.2)

/-- Whether a pattern occurs. -/
def occurs (pattern cs : List Char) : Bool := (cutAt pattern cs).isSome

/-- Replace the occurrences of a non-empty pattern, the first one first; `skip` characters of an
occurrence are still to be dropped. -/
def replaceFrom (pattern new : List Char) : Nat → List Char → List Char
  | _, [] => []
  | skip + 1, _ :: cs => replaceFrom pattern new skip cs
  | 0, c :: cs =>
    if pattern.isPrefixOf (c :: cs) then new ++ replaceFrom pattern new (pattern.length - 1) cs
    else c :: replaceFrom pattern new 0 cs

/-- The text with every occurrence of a non-empty pattern replaced. -/
def replaceAll (pattern new : List Char) (cs : List Char) : List Char :=
  replaceFrom pattern new 0 cs

/-- The text without its trailing characters of a class. -/
def trimRight (p : Char → Bool) (cs : List Char) : List Char := (cs.reverse.dropWhile p).reverse

/-- The text without its leading and trailing characters of a class. -/
def trimEnds (p : Char → Bool) (cs : List Char) : List Char := trimRight p (cs.dropWhile p)

/-- The texts with a separator between every two of them. -/
def joined (sep : String) : List String → String
  | [] => ""
  | [s] => s
  | s :: t :: r => s ++ sep ++ joined sep (t :: r)

/-- The lower-case form of an ASCII letter, every other character as it is. -/
def lowerAscii (c : Char) : Char := if 'A' ≤ c ∧ c ≤ 'Z' then Char.ofNat (c.toNat + 32) else c

/-- Equal up to the case of ASCII letters. -/
def equalIgnoringCase (s t : String) : Bool := s.toList.map lowerAscii = t.toList.map lowerAscii

/-- A text with its ASCII letters in lower case. -/
def lowerCased (s : String) : String := String.ofList (s.toList.map lowerAscii)

/-- The value of a hexadecimal digit. -/
def hexValue? (c : Char) : Option Nat :=
  if '0' ≤ c ∧ c ≤ '9' then some (c.toNat - '0'.toNat)
  else if 'a' ≤ c ∧ c ≤ 'f' then some (c.toNat - 'a'.toNat + 10)
  else if 'A' ≤ c ∧ c ≤ 'F' then some (c.toNat - 'A'.toNat + 10)
  else none

/-- The lower-case hexadecimal digit of a number below sixteen. -/
def hexDigit (n : Nat) : Char :=
  if n < 10 then Char.ofNat ('0'.toNat + n) else Char.ofNat ('a'.toNat + (n - 10))

/-- A number in lower-case hexadecimal, without leading zeros. -/
def hexadecimal (n : Nat) : List Char := Nat.toDigits 16 n

/-- Whether a character is a decimal ASCII digit. -/
def isDigit (c : Char) : Bool := '0' ≤ c && c ≤ '9'

end ApiContract.Text
