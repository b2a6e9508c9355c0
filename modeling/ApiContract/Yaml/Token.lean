/-
**Tokens of markup text.**

The structure of a text is in its indentation, in brackets and in a few signs.  A key need not be
marked: that a token begins a key is known only when a colon follows it on its line, and then the
mark for the key is put before it.

Main definitions:

* `Yaml.Token` — the tokens;
* `Yaml.Reading` — the state of reading: open indentations and the places where a key may begin;
* `Yaml.tokens?` — the tokens of a text.
-/

import ApiContract.Yaml.BlockText
import ApiContract.Yaml.FlowText
import ApiContract.Yaml.Scalar
import ApiContract.Yaml.Tag

set_option autoImplicit false

namespace ApiContract.Yaml

/-- A token. -/
inductive Token where
  | directive (d : Directive)
  | documentStart | documentEnd
  | blockListStart | blockMapStart | blockEnd
  | flowListStart | flowListEnd | flowMapStart | flowMapEnd
  | blockItem | flowItem | key | value
  | reference (name : String)
  | anchor (name : String)
  | tag (t : Tag)
  | scalar (text : String) (style : Style)
  deriving Inhabited

/-- A token that may begin a key without a mark. -/
structure Candidate where
  /-- Whether only a key can stand here. -/
  isRequired : Bool
  /-- The number of tokens before it. -/
  position : Nat
  /-- Where it begins. -/
  place : Place

/-- The state of reading. -/
structure Reading where
  /-- What is left of the text. -/
  cursor : Cursor
  /-- The tokens so far. -/
  tokens : Array Token
  /-- The columns of the open block structures, the innermost first. -/
  indents : List Nat
  /-- The candidate outside brackets. -/
  outer : Option Candidate
  /-- The candidates inside each open bracket, the innermost first. -/
  inner : List (Option Candidate)
  /-- Whether a key without a mark may begin here. -/
  keyAllowed : Bool

namespace Reading

/-- Begin to read a text. -/
def start (cs : List Char) : Reading := ⟨⟨cs, .first⟩, #[], [], none, [], true⟩

/-- Whether a bracket is open. -/
def inFlow (r : Reading) : Bool := !r.inner.isEmpty

/-- The column after that of the innermost block structure. -/
def leastIndent (r : Reading) : Nat :=
  match r.indents with
  | [] => 0
  | n :: _ => n + 1

/-- The column of the next character. -/
def column (r : Reading) : Nat := r.cursor.place.column

/-- Add a token and pass the characters that it is made of. -/
def emitPast (r : Reading) (t : Token) (k : Cursor) : Reading :=
  { r with tokens := r.tokens.push t, cursor := k }

/-! ### Candidates -/

/-- The innermost candidate. -/
def candidate (r : Reading) : Option Candidate :=
  match r.inner with
  | [] => r.outer
  | c :: _ => c

/-- Replace the innermost candidate. -/
def setCandidate (r : Reading) (c : Option Candidate) : Reading :=
  match r.inner with
  | [] => { r with outer := c }
  | _ :: cs => { r with inner := c :: cs }

/-- Give the innermost candidate up; an error if a key is required there. -/
def dropCandidate? (r : Reading) : Option Reading :=
  match r.candidate with
  | some c => if c.isRequired then none else some (r.setCandidate none)
  | none => some (r.setCandidate none)

/-- The next token may begin a key, if a key may stand here at all. -/
def saveCandidate? (r : Reading) : Option Reading :=
  if r.keyAllowed then
    let isRequired := !r.inFlow && r.indents.head? == some r.column
    r.dropCandidate?.map fun r =>
      r.setCandidate (some ⟨isRequired, r.tokens.size, r.cursor.place⟩)
  else some r

/-- Whether a candidate is too far back to begin a key that ends here: a key is on one line and has
at most 1024 characters. -/
def isStale (r : Reading) (c : Candidate) : Bool :=
  c.place.line < r.cursor.place.line || c.place.index + 1024 < r.cursor.place.index

/-- Give up the candidates that are too far back; an error if a key is required at one of them. -/
def dropStale? (r : Reading) : Option Reading :=
  let refuses (c : Option Candidate) : Bool := c.any fun c => r.isStale c && c.isRequired
  let keep (c : Option Candidate) : Option Candidate := c.filter fun c => !r.isStale c
  if refuses r.outer || r.inner.any refuses then none
  else some { r with outer := keep r.outer, inner := r.inner.map keep }

/-! ### Indentation -/

/-- Open a block structure at a column, unless one is open there; its token goes to a position. -/
def openBlock (r : Reading) (column position : Nat) (t : Token) : Reading :=
  if !r.inFlow && r.leastIndent ≤ column then
    { r with indents := column :: r.indents, tokens := r.tokens.insertIdxIfInBounds position t }
  else r

/-- Open a block structure at the cursor, unless one is open at its column. -/
def openBlockHere (r : Reading) (t : Token) : Reading := r.openBlock r.column r.tokens.size t

/-- The open columns that end at a column, and those that do not; `none` ends all. -/
def endedIndents (column : Option Nat) (indents : List Nat) : List Nat × List Nat :=
  indents.span fun n =>
    match column with
    | some c => c < n
    | none => true

/-- Close the block structures that end at a column. -/
def closeBlocks (r : Reading) (column : Option Nat) : Reading :=
  if r.inFlow then r
  else
    let (ended, open_) := endedIndents column r.indents
    { r with indents := open_, tokens := r.tokens ++ ended.map fun _ => Token.blockEnd }

/-! ### Tokens -/

/-- Pass blanks, comments and line ends.  A tab is a blank only where no key may begin.  Outside
brackets a key may begin on a new line. -/
def skipBlanks : Nat → Reading → Reading
  | 0, r => r
  | fuel + 1, r =>
    let tabs := r.inFlow || !r.keyAllowed
    let k := (r.cursor.skipWhile fun c => c = ' ' || (tabs && c = '\t')).skipComment
    if k.rest ≠ [] && k.isAtLineEnd then
      skipBlanks fuel { r with cursor := k.next, keyAllowed := r.keyAllowed || !r.inFlow }
    else { r with cursor := k }

/-- Read what stands outside every structure: it closes all blocks. -/
def atTopLevel? (r : Reading) : Option Reading :=
  (r.closeBlocks none).dropCandidate?.map fun r => { r with keyAllowed := false }

/-- Read an opening bracket. -/
def openFlow? (r : Reading) (t : Token) : Option Reading :=
  r.saveCandidate?.map fun r =>
    { r with inner := none :: r.inner, keyAllowed := true }.emitPast t r.cursor.next

/-- Read a closing bracket. -/
def closeFlow? (r : Reading) (t : Token) : Option Reading :=
  r.dropCandidate?.map fun r =>
    { r with inner := r.inner.drop 1, keyAllowed := false }.emitPast t r.cursor.next

/-- Read a comma inside brackets. -/
def flowItem? (r : Reading) : Option Reading :=
  r.dropCandidate?.map fun r => { r with keyAllowed := true }.emitPast .flowItem r.cursor.next

/-- Read a sign that begins a block structure or stands in one; `none` where none may begin. -/
def inBlock? (r : Reading) (opening : Token) : Option Reading :=
  if r.inFlow then some r
  else if r.keyAllowed then some (r.openBlockHere opening)
  else none

/-- Read the sign for an item. -/
def blockItem? (r : Reading) : Option Reading :=
  match r.inBlock? .blockListStart with
  | none => none
  | some r =>
    r.dropCandidate?.map fun r => { r with keyAllowed := true }.emitPast .blockItem r.cursor.next

/-- Read the mark for a key. -/
def key? (r : Reading) : Option Reading :=
  match r.inBlock? .blockMapStart with
  | none => none
  | some r =>
    r.dropCandidate?.map fun r => { r with keyAllowed := !r.inFlow }.emitPast .key r.cursor.next

/-- Read the mark for a value: the candidate becomes a key. -/
def value? (r : Reading) : Option Reading :=
  match r.candidate with
  | some c =>
    let r := { r with tokens := r.tokens.insertIdxIfInBounds c.position .key }
    let r := (r.openBlock c.place.column c.position .blockMapStart).setCandidate none
    some ({ r with keyAllowed := false }.emitPast .value r.cursor.next)
  | none =>
    (r.inBlock? .blockMapStart).map fun r =>
      { r with keyAllowed := !r.inFlow }.emitPast .value r.cursor.next

/-- Read a token that may begin a key. -/
def leaf? (r : Reading) (read : Cursor → Option (Token × Cursor)) : Option Reading :=
  match r.saveCandidate?, read r.cursor with
  | some r, some (t, k) => some ({ r with keyAllowed := false }.emitPast t k)
  | _, _ => none

/-- Read a block of text. -/
def block? (r : Reading) (isFolded : Bool) : Option Reading :=
  match r.dropCandidate?, blockText? isFolded r.leastIndent r.cursor.next with
  | some r, some (text, k) =>
    some ({ r with keyAllowed := true }.emitPast
      (.scalar text (if isFolded then .folded else .literal)) k)
  | _, _ => none

/-- Read plain text. -/
def plain? (r : Reading) : Option Reading :=
  match r.saveCandidate?, plainText? ⟨r.inFlow, r.leastIndent⟩ r.cursor with
  | some r, some (text, broken, k) =>
    some ({ r with keyAllowed := broken }.emitPast (.scalar text .plain) k)
  | _, _ => none

/-- The signs that plain text does not begin with. -/
def isIndicator (c : Char) : Bool :=
  c ∈ ['-', '?', ':', ',', '[', ']', '\x7b', '\x7d', '#', '&', '*', '!', '|', '>', '\'', '"', '%',
    '@', Char.ofNat 0x60]

/-- Whether plain text begins here. -/
def startsPlain (r : Reading) (c : Char) (next : Option Char) : Bool :=
  !(isBlank c || isBreak c || isIndicator c) || (c = '-' && !next.any isBlank) ||
    (!r.inFlow && (c = '?' || c = ':') && !separates next)

/-- Read the next token, which begins with a character. -/
def readToken? (r : Reading) (c : Char) (cs : List Char) : Option Reading :=
  let k := r.cursor
  let next := cs.head?
  if r.column = 0 && c = '%' then
    match r.atTopLevel?, directive? k with
    | some r, some (d, k) => some (r.emitPast (.directive d) k)
    | _, _ => none
  else if r.column = 0 && isMarkOf '-' (c :: cs) then
    r.atTopLevel?.map fun r => r.emitPast .documentStart k.next.next.next
  else if r.column = 0 && isMarkOf '.' (c :: cs) then
    r.atTopLevel?.map fun r => r.emitPast .documentEnd k.next.next.next
  else if c = '[' then r.openFlow? .flowListStart
  else if c = '\x7b' then r.openFlow? .flowMapStart
  else if c = ']' then r.closeFlow? .flowListEnd
  else if c = '\x7d' then r.closeFlow? .flowMapEnd
  else if c = ',' then r.flowItem?
  else if c = '-' && separates next then r.blockItem?
  else if c = '?' && (r.inFlow || separates next) then r.key?
  else if c = ':' && (r.inFlow || separates next) then r.value?
  else if c = '*' then r.leaf? fun k => (anchorName? k).map fun a => (.reference a.1, a.2)
  else if c = '&' then r.leaf? fun k => (anchorName? k).map fun a => (.anchor a.1, a.2)
  else if c = '!' then r.leaf? fun k => (tag? r.inFlow k).map fun a => (.tag a.1, a.2)
  else if c = '|' && !r.inFlow then r.block? false
  else if c = '>' && !r.inFlow then r.block? true
  else if c = '\'' then
    r.leaf? fun k => (quotedText? k).map fun a => (.scalar a.1 .singleQuoted, a.2)
  else if c = '"' then
    r.leaf? fun k => (quotedText? k).map fun a => (.scalar a.1 .doubleQuoted, a.2)
  else if r.startsPlain c next then r.plain?
  else none

/-- Read the tokens that are left; every step passes at least one character. -/
def readAll? : Nat → Reading → Option (List Token)
  | 0, _ => none
  | fuel + 1, r =>
    let r := skipBlanks r.cursor.rest.length r
    match r.dropStale? with
    | none => none
    | some r =>
      let r := r.closeBlocks (some r.column)
      match r.cursor.rest with
      | [] => r.atTopLevel?.map fun r => r.tokens.toList
      | c :: cs =>
        match r.readToken? c cs with
        | some r => readAll? fuel r
        | none => none

end Reading

/-- The tokens of a text. -/
def tokens? (cs : List Char) : Option (List Token) :=
  match normalized? cs with
  | some cs => (Reading.start cs).readAll? (cs.length + 1)
  | none => none

end ApiContract.Yaml
