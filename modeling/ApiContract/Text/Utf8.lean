/-
**UTF-8.**

Bodies and header values are bytes.  They are cut into characters and into maximal broken pieces:
a lead byte with as many of the continuation bytes it asks for as really follow.  Strict decoding
names the first broken piece, lenient decoding writes the replacement character for each.

Main definitions:

* `Utf8.encode` — the bytes of a text;
* `Utf8.pieces` — the characters and broken pieces of a list of bytes;
* `Utf8.decode` — the text, or where and how the bytes are broken;
* `Utf8.decodeLossy` — the text with one replacement character for each broken piece.
-/

import ApiContract.Text.Basic

set_option autoImplicit false

namespace ApiContract.Utf8

/-- The bytes of a text. -/
def encode (cs : List Char) : List UInt8 := cs.flatMap String.utf8EncodeChar

/-- The bytes of a text. -/
def bytes (s : String) : List UInt8 := encode s.toList

/-- A piece of a list of bytes. -/
inductive Piece where
  /-- A character. -/
  | char (c : Char)
  /-- Bytes that no character starts with. -/
  | broken (length : Nat)
  /-- The start of a character that the end of the bytes cuts off. -/
  | unfinished (length : Nat)
  deriving DecidableEq, Repr

/-- The number of bytes of a piece. -/
def Piece.size : Piece → Nat
  | .char c => c.utf8Size
  | .broken n => n
  | .unfinished n => n

/-- Whether a byte may continue a character. -/
def isContinuation (b : UInt8) : Bool := 0x80 ≤ b && b ≤ 0xBF

/-- Whether a byte may stand second, after the lead byte of a character of three bytes. -/
def isSecondOfThree (a b : UInt8) : Bool :=
  if a = 0xE0 then 0xA0 ≤ b && b ≤ 0xBF
  else if a = 0xED then 0x80 ≤ b && b ≤ 0x9F
  else isContinuation b

/-- Whether a byte may stand second, after the lead byte of a character of four bytes. -/
def isSecondOfFour (a b : UInt8) : Bool :=
  if a = 0xF0 then 0x90 ≤ b && b ≤ 0xBF
  else if a = 0xF4 then 0x80 ≤ b && b ≤ 0x8F
  else isContinuation b

/-- The six payload bits of a continuation byte. -/
def payload (b : UInt8) : Nat := b.toNat % 64

/-- The characters and broken pieces of a list of bytes, in order. -/
def pieces : List UInt8 → List Piece
  | [] => []
  | a :: r =>
    if a < 0x80 then .char (Char.ofNat a.toNat) :: pieces r
    else if 0xC2 ≤ a && a ≤ 0xDF then
      match r with
      | [] => [.unfinished 1]
      | b :: r' =>
        if isContinuation b then .char (Char.ofNat (a.toNat % 32 * 64 + payload b)) :: pieces r'
        else .broken 1 :: pieces (b :: r')
    else if 0xE0 ≤ a && a ≤ 0xEF then
      match r with
      | [] => [.unfinished 1]
      | b :: r' =>
        if isSecondOfThree a b then
          match r' with
          | [] => [.unfinished 2]
          | c :: r'' =>
            if isContinuation c then
              .char (Char.ofNat ((a.toNat % 16 * 64 + payload b) * 64 + payload c)) :: pieces r''
            else .broken 2 :: pieces (c :: r'')
        else .broken 1 :: pieces (b :: r')
    else if 0xF0 ≤ a && a ≤ 0xF4 then
      match r with
      | [] => [.unfinished 1]
      | b :: r' =>
        if isSecondOfFour a b then
          match r' with
          | [] => [.unfinished 2]
          | c :: r'' =>
            if isContinuation c then
              match r'' with
              | [] => [.unfinished 3]
              | d :: r''' =>
                if isContinuation d then
                  .char (Char.ofNat
                    (((a.toNat % 8 * 64 + payload b) * 64 + payload c) * 64 + payload d))
                    :: pieces r'''
                else .broken 3 :: pieces (d :: r''')
            else .broken 2 :: pieces (c :: r'')
        else .broken 1 :: pieces (b :: r')
    else .broken 1 :: pieces r

/-- Why bytes are no text. -/
inductive Error where
  /-- Bytes that no character starts with. -/
  | broken (length index : Nat)
  /-- A character that the end of the bytes cuts off. -/
  | unfinished (index : Nat)
  deriving DecidableEq, Repr

/-- The text of an error. -/
def Error.message : Error → String
  | .broken n i => s!"invalid utf-8 sequence of {n} bytes from index {i}"
  | .unfinished i => s!"incomplete utf-8 byte sequence from index {i}"

/-- The characters of a list of pieces that begins at a byte index, up to the first broken one. -/
def collect : Nat → List Piece → Except Error (List Char)
  | _, [] => .ok []
  | i, .char c :: ps =>
    match collect (i + c.utf8Size) ps with
    | .ok cs => .ok (c :: cs)
    | .error e => .error e
  | i, .broken n :: _ => .error (.broken n i)
  | i, .unfinished _ :: _ => .error (.unfinished i)

/-- The characters of the bytes, or the first reason why they are none. -/
def decode (bs : List UInt8) : Except Error (List Char) := collect 0 (pieces bs)

/-- The text of the bytes, if they are text. -/
def decode? (bs : List UInt8) : Option (List Char) :=
  match decode bs with
  | .ok cs => some cs
  | .error _ => none

/-- The characters of the bytes, with U+FFFD for each broken piece. -/
def decodeLossy (bs : List UInt8) : List Char :=
  (pieces bs).map fun
    | .char c => c
    | _ => Char.ofNat 0xFFFD

end ApiContract.Utf8
