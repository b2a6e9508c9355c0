/-
**Nodes of a document.**

The tokens of a text form nodes: scalars, lists, maps and references to nodes with an anchor.
A node may be left out where its place is clear, and is then an empty scalar.

Main definitions:

* `Yaml.Node` — the nodes;
* `Yaml.Feed`, `Yaml.Reader` — the tokens that are left, and functions that read them;
* `Yaml.document?` — the node of a text with one document.
-/

import ApiContract.Yaml.Token

set_option autoImplicit false

namespace ApiContract.Yaml

/-- A node.  Anchors are numbered. -/
inductive Node where
  /-- A reference to the node with an anchor. -/
  | reference (anchor : Nat)
  /-- A scalar. -/
  | scalar (anchor : Option Nat) (value : Scalar)
  /-- A list. -/
  | list (anchor : Option Nat) (items : List Node)
  /-- A map. -/
  | map (anchor : Option Nat) (entries : List (Node × Node))
  deriving Inhabited

/-- The node that is left out. -/
def Node.missing : Node := .scalar none ⟨"", .plain, none⟩

/-- What is left to read, and what names stand for. -/
structure Feed where
  /-- The tokens that are left. -/
  tokens : List Token
  /-- What the handles of tags stand for. -/
  handles : Handles
  /-- The number of each anchor seen so far. -/
  anchors : Dict Nat

/-- A function that reads tokens, or fails. -/
abbrev Reader := StateT Feed Option

namespace Reader

/-- The next token. -/
def peek : Reader (Option Token) := fun f => some (f.tokens.head?, f)

/-- Pass a token. -/
def skip : Reader Unit := fun f => some ((), { f with tokens := f.tokens.drop 1 })

/-- The number of an anchor that has been seen. -/
def lookUp (name : String) : Reader Nat := fun f => (f.anchors.get? name).map fun n => (n, f)

/-- Number an anchor: its number is that of the names seen before. -/
def enter (name : String) : Reader Nat := fun f =>
  let n := f.anchors.length
  some (n, { f with anchors := f.anchors.insert name n })

/-- The full form of a tag. -/
def fullTag (t : Tag) : Reader String := fun f => (t.full? f.handles).map fun s => (s, f)

/-- The anchor that stands here, if any. -/
def anchor? : Reader (Option Nat) := do
  match ← peek with
  | some (.anchor name) => skip; return some (← enter name)
  | _ => return none

/-- The tag that stands here, if any. -/
def tag? : Reader (Option String) := do
  match ← peek with
  | some (.tag t) => skip; return some (← fullTag t)
  | _ => return none

/-- The anchor and the tag before a node, in either order. -/
def properties : Reader (Option Nat × Option String) := do
  match ← anchor? with
  | some a => return (some a, ← tag?)
  | none =>
    match ← tag? with
    | some t => return (← anchor?, some t)
    | none => return (none, none)

/-! ### Nodes -/

/-- Whether the token that comes next is one for which a node is left out. -/
def isMissingBefore (f : Token → Bool) : Reader Bool := do
  return (← peek).any f

/-- The tokens after the sign for an item before which the item is left out. -/
def endsItem : Token → Bool
  | .blockItem | .blockEnd => true
  | _ => false

/-- The same in a list that is not indented. -/
def endsFlushItem : Token → Bool
  | .blockItem | .blockEnd | .key | .value => true
  | _ => false

/-- The tokens after the mark for a key or a value before which it is left out. -/
def endsEntry : Token → Bool
  | .blockEnd | .key | .value => true
  | _ => false

/-- The tokens before which a key is left out in a list in brackets. -/
def endsPairKey : Token → Bool
  | .value | .flowItem | .flowListEnd => true
  | _ => false

/-- The tokens before which a value is left out in a list in brackets. -/
def endsPairValue : Token → Bool
  | .flowItem | .flowListEnd => true
  | _ => false

/-- The tokens before which a key is left out in a map in brackets. -/
def endsFlowKey : Token → Bool
  | .value | .flowItem | .flowMapEnd => true
  | _ => false

/-- The tokens before which a value is left out in a map in brackets. -/
def endsFlowValue : Token → Bool
  | .flowItem | .flowMapEnd => true
  | _ => false

mutual

/-- Read a node.  Block structures may stand here if `inBlock`, and among them a list that is not
indented if `flush`. -/
def node : Nat → (inBlock flush : Bool) → Reader Node
  | 0, _, _ => failure
  | fuel + 1, inBlock, flush => do
    match ← peek with
    | some (.reference name) => skip; return .reference (← lookUp name)
    | _ =>
      let (anchor, tag) ← properties
      content fuel inBlock flush anchor tag

/-- Read what follows the anchor and the tag of a node. -/
def content : Nat → (inBlock flush : Bool) → Option Nat → Option String → Reader Node
  | 0, _, _, _, _ => failure
  | fuel + 1, inBlock, flush, anchor, tag => do
    match ← peek, inBlock, flush with
    | some .blockItem, _, true => return .list anchor (← flushItems fuel)
    | some (.scalar text style), _, _ =>
      skip
      return .scalar anchor ⟨text, style, if tag = some "!" then none else tag⟩
    | some .flowListStart, _, _ => skip; return .list anchor (← flowItems fuel true)
    | some .flowMapStart, _, _ => skip; return .map anchor (← flowEntries fuel true)
    | some .blockListStart, true, _ => skip; return .list anchor (← blockItems fuel)
    | some .blockMapStart, true, _ => skip; return .map anchor (← blockEntries fuel)
    | _, _, _ =>
      if anchor.isSome || tag.isSome then return .scalar anchor ⟨"", .plain, tag⟩ else failure

/-- Read a node, or nothing before certain tokens. -/
def nodeUnless : Nat → (Token → Bool) → (inBlock flush : Bool) → Reader Node
  | 0, _, _, _ => failure
  | fuel + 1, ends, inBlock, flush => do
    if ← isMissingBefore ends then return .missing else node fuel inBlock flush

/-- Read the items of an indented list, and its end. -/
def blockItems : Nat → Reader (List Node)
  | 0 => failure
  | fuel + 1 => do
    match ← peek with
    | some .blockItem =>
      skip
      let item ← nodeUnless fuel endsItem true false
      return item :: (← blockItems fuel)
    | some .blockEnd => skip; return []
    | _ => failure

/-- Read the items of a list that is not indented. -/
def flushItems : Nat → Reader (List Node)
  | 0 => failure
  | fuel + 1 => do
    match ← peek with
    | some .blockItem =>
      skip
      let item ← nodeUnless fuel endsFlushItem true false
      return item :: (← flushItems fuel)
    | _ => return []

/-- Read the entries of an indented map, and its end. -/
def blockEntries : Nat → Reader (List (Node × Node))
  | 0 => failure
  | fuel + 1 => do
    match ← peek with
    | some .key =>
      skip
      let key ← nodeUnless fuel endsEntry true true
      let value ← blockValue fuel
      return (key, value) :: (← blockEntries fuel)
    | some .blockEnd => skip; return []
    | _ => failure

/-- Read the value of an entry of an indented map; without its mark it is left out. -/
def blockValue : Nat → Reader Node
  | 0 => failure
  | fuel + 1 => do
    match ← peek with
    | some .value => skip; nodeUnless fuel endsEntry true true
    | _ => return .missing

/-- Read the items of a list in brackets, and its end; `first` says that no comma is due. -/
def flowItems : Nat → (first : Bool) → Reader (List Node)
  | 0, _ => failure
  | fuel + 1, first => do
    match ← peek with
    | some .flowListEnd => skip; return []
    | t =>
      if first then flowItem fuel
      else match t with
        | some .flowItem => skip; flowItem fuel
        | _ => failure

/-- Read an item of a list in brackets and the items after it.  A marked key makes a map with one
entry; where the key is left out, the token that stands instead of it is passed. -/
def flowItem : Nat → Reader (List Node)
  | 0 => failure
  | fuel + 1 => do
    match ← peek with
    | some .flowListEnd => skip; return []
    | some .key =>
      skip
      let isMissing ← isMissingBefore endsPairKey
      let key ← if isMissing then (do skip; return Node.missing) else node fuel false false
      let value ← pairValue fuel
      return .map none [(key, value)] :: (← flowItems fuel false)
    | _ =>
      let item ← node fuel false false
      return item :: (← flowItems fuel false)

/-- Read the value of a map with one entry; without its mark it is left out. -/
def pairValue : Nat → Reader Node
  | 0 => failure
  | fuel + 1 => do
    match ← peek with
    | some .value => skip; nodeUnless fuel endsPairValue false false
    | _ => return .missing

/-- Read the entries of a map in brackets, and its end; `first` says that no comma is due. -/
def flowEntries : Nat → (first : Bool) → Reader (List (Node × Node))
  | 0, _ => failure
  | fuel + 1, first => do
    match ← peek with
    | some .flowMapEnd => skip; return []
    | t =>
      if first then flowEntry fuel
      else match t with
        | some .flowItem => skip; flowEntry fuel
        | _ => failure

/-- Read an entry of a map in brackets and the entries after it.  Without the mark for a key, the
node is a key whose value is left out. -/
def flowEntry : Nat → Reader (List (Node × Node))
  | 0 => failure
  | fuel + 1 => do
    match ← peek with
    | some .flowMapEnd => skip; return []
    | some .key =>
      skip
      let key ← nodeUnless fuel endsFlowKey false false
      let value ← flowValue fuel
      return (key, value) :: (← flowEntries fuel false)
    | _ =>
      let key ← node fuel false false
      return (key, .missing) :: (← flowEntries fuel false)

/-- Read the value of an entry of a map in brackets; without its mark it is left out. -/
def flowValue : Nat → Reader Node
  | 0 => failure
  | fuel + 1 => do
    match ← peek with
    | some .value => skip; nodeUnless fuel endsFlowValue false false
    | _ => return .missing

end

end Reader

/-! ### Documents -/

/-- The directives at the begin, and the tokens after them. -/
def leadingDirectives : List Token → List Directive × List Token
  | .directive d :: ts =>
    let r := leadingDirectives ts
    (d :: r.1, r.2)
  | ts => ([], ts)

/-- Whether a document is empty if this token follows its begin. -/
def endsDocument : Token → Bool
  | .directive _ | .documentStart | .documentEnd => true
  | _ => false

/-- Whether nothing but marks for the end of a document is left. -/
def isOver (ts : List Token) : Bool :=
  ts.all fun
    | .documentEnd => true
    | _ => false

/-- The node that tokens form, and the tokens after it. -/
def nodeOf? (handles : Handles) (ts : List Token) : Option (Node × List Token) :=
  (Reader.node (4 * ts.length + 4) true false ⟨ts, handles, []⟩).map fun r => (r.1, r.2.tokens)

/-- The node of tokens with one document; `some none` for tokens without a document. -/
def documentOf? (ts : List Token) : Option (Option Node) :=
  let (directives, afterDirectives) := leadingDirectives ts
  let read : Option (Node × List Token) :=
    match directives, afterDirectives with
    | ds, .documentStart :: body =>
      match Handles.ofDirectives? ds with
      | none => none
      | some handles =>
        match body with
        | [] => some (.missing, [])
        | t :: _ => if endsDocument t then some (.missing, body) else nodeOf? handles body
    | [], body => nodeOf? .standard body
    | _ :: _, _ => none
  if ts.isEmpty then some none
  else match read with
    | some (n, rest) => if isOver rest then some (some n) else none
    | none => none

/-- The node of a text with at most one document; `some none` for a text without a document. -/
def document? (cs : List Char) : Option (Option Node) :=
  match tokens? cs with
  | some ts => documentOf? ts
  | none => none

end ApiContract.Yaml
