import Multilint.Yaml.Tokens
/-!
# Nodes of YAML

A text holds at most one document. Its node is a tree in which an alias stands as a number, and the
document says which node each number leads to. Numbers are given by names: a name gets the number of names
known before it, and one that is given again counts as known, so two anchors can share a number. The one
that starts last is the one that counts, and so an alias may lead to a node that it is a part of.
-/

namespace Multilint

namespace Yaml

/-- A node of a document. -/
inductive Node where
  /-- A scalar, its style and its tag. -/
  | scalar (style : ScalarStyle) (tag : Option TagText) (text : String)
  /-- A list of nodes. -/
  | sequence (tag : Option TagText) (items : List Node)
  /-- Pairs of nodes. -/
  | mapping (tag : Option TagText) (pairs : List (Node × Node))
  /-- The node of a number. -/
  | alias (number : Nat)
  deriving Repr, Inhabited

/-- A document: its node, and the nodes that aliases lead to. -/
structure Document where
  /-- The node. -/
  root : Node
  /-- The nodes under their numbers. -/
  targets : List (Nat × Node)
  deriving Repr, Inhabited

namespace Node

/-- What stands where a node could be and is not. -/
def empty : Node := .scalar .plain none ""

mutual

/-- The number of marks that a node is written with: one for a scalar or an alias, and one at each end of
a list or of pairs. -/
def marks : Node → Nat
  | .scalar _ _ _ => 1
  | .alias _ => 1
  | .sequence _ ns => 2 + listMarks ns
  | .mapping _ ps => 2 + pairMarks ps

/-- The number of marks of nodes. -/
def listMarks : List Node → Nat
  | [] => 0
  | n :: ns => n.marks + listMarks ns

/-- The number of marks of pairs of nodes. -/
def pairMarks : List (Node × Node) → Nat
  | [] => 0
  | (k, v) :: ps => k.marks + v.marks + pairMarks ps

end

/-- The tags of a document: what their handles stand for. -/
abbrev Handles := List (String × TagText)

/-- The handles every document has. -/
def commonHandles : Handles :=
  [("!", Utf8.bytes "!"), ("!!", Utf8.bytes "tag:yaml.org,2002:")]

/-- The tag that a handle and the rest of the tag write. -/
def resolveTag (handles : Handles) (handle : Option String) (rest : TagText) : Option TagText :=
  match handle with
  | none => some rest
  | some h => ((handles ++ commonHandles).find? (·.1 = h)).map fun e => e.2 ++ rest

/-- What is known and left while nodes are read. -/
structure Unread where
  /-- The tokens left. -/
  tokens : List Token
  /-- The numbers of the names, each name once. -/
  names : List (String × Nat) := []
  /-- The number of anchors so far. -/
  anchors : Nat := 0
  /-- The anchor that counts for each number. -/
  owners : List (Nat × Nat) := []
  /-- The nodes of the anchors. -/
  named : List (Nat × Node) := []

/-- The nodes that numbers stand for at the end. -/
def Unread.targets (u : Unread) : List (Nat × Node) :=
  u.owners.filterMap fun (number, anchor) => (u.named.find? (·.1 = anchor)).map fun e => (number, e.2)

/-- A reader of nodes; nothing where the tokens make no node. -/
abbrev Reader := StateT Unread Option

namespace Reader

/-- The next token. -/
def peek : Reader (Option Token) := do return (← get).tokens.head?

/-- Passes over a token. -/
def drop : Reader Unit := modify fun u => { u with tokens := u.tokens.drop 1 }

/-- Whether a given token comes next; if so, it is passed over. -/
def accept (t : Token) : Reader Bool := do
  if (← peek) == some t then do drop; return true
  else return false

/-- Refuses the tokens. -/
def refuse {α : Type} : Reader α := failure

/-- Whether one of some tokens comes next. -/
def ahead (ts : List Token) : Reader Bool := do
  match ← peek with
  | some t => return ts.contains t
  | none => return false

/-- Gives a name to the node that starts here, and says which anchor this is. -/
def openAnchor (name : String) : Reader Nat := do
  let u ← get
  let number := u.names.length
  set { u with
    names := (name, number) :: u.names.filter (·.1 ≠ name)
    anchors := u.anchors + 1
    owners := (number, u.anchors) :: u.owners.filter (·.1 ≠ number) }
  return u.anchors

/-- Keeps the node of an anchor. -/
def keepNamed (anchor : Nat) (n : Node) : Reader Unit :=
  modify fun u => { u with named := (anchor, n) :: u.named }

/-- The number of a name, which must be known. -/
def numberOf (name : String) : Reader Nat := do
  match (← get).names.find? (·.1 = name) with
  | some (_, number) => return number
  | none => refuse

end Reader

open Reader

/-- The anchor and the tag in front of a node, in any order. -/
def properties (handles : Handles) : Reader (Option String × Option TagText) := do
  let anchor : Reader (Option String) := do
    match ← peek with
    | some (.anchor a) => do drop; return some a
    | _ => return none
  let tag : Reader (Option TagText) := do
    match ← peek with
    | some (.tag h r) => do
      drop
      match resolveTag handles h r with
      | some t => return some t
      | none => refuse
    | _ => return none
  let a ← anchor
  let t ← tag
  match a, t with
  | none, some t => return (← anchor, some t)
  | a, t => return (a, t)

mutual

/-- A node; `block` allows blocks, and `bare` entries that are not indented further than their key. The
fuel is the number of tokens. -/
def node (handles : Handles) : Nat → Bool → Bool → Reader Node
  | 0, _, _ => refuse
  | fuel + 1, block, bare => do
    match ← peek with
    | some (.alias name) => do drop; return .alias (← numberOf name)
    | _ => do
      let (name, tag) ← properties handles
      match name with
      | none => content handles fuel block bare tag tag.isSome
      | some name => do
        let anchor ← openAnchor name
        let n ← content handles fuel block bare tag true
        keepNamed anchor n
        return n

/-- A node behind its properties. -/
def content (handles : Handles) : Nat → Bool → Bool → Option TagText → Bool → Reader Node
  | 0, _, _, _, _ => refuse
  | fuel + 1, block, bare, tag, marked => do
    match ← peek with
    | some .blockEntry =>
      if bare then return .sequence tag (← bareEntries handles fuel)
      else if marked then return .scalar .plain tag ""
      else refuse
    | some (.scalar style text) => do drop; return .scalar style tag text
    | some .flowSequenceStart => do
      drop
      return .sequence tag (← flowItems handles fuel true)
    | some .flowMappingStart => do
      drop
      return .mapping tag (← flowPairs handles fuel true)
    | some .blockSequenceStart =>
      if block then do
        drop
        return .sequence tag (← entries handles fuel)
      else if marked then return .scalar .plain tag ""
      else refuse
    | some .blockMappingStart =>
      if block then do
        drop
        return .mapping tag (← pairs handles fuel)
      else if marked then return .scalar .plain tag ""
      else refuse
    | _ => if marked then return .scalar .plain tag "" else refuse

/-- A node, or the empty one where one of some tokens comes next. -/
def nodeUnless (handles : Handles) : Nat → Bool → Bool → List Token → Reader Node
  | 0, _, _, _ => refuse
  | fuel + 1, block, bare, stops => do
    if ← ahead stops then return empty else node handles fuel block bare

/-- The entries of a block up to its end. -/
def entries (handles : Handles) : Nat → Reader (List Node)
  | 0 => refuse
  | fuel + 1 => do
    if ← accept .blockEnd then return []
    else if ← accept .blockEntry then do
      let n ← nodeUnless handles fuel true false [.blockEntry, .blockEnd]
      return n :: (← entries handles fuel)
    else refuse

/-- Entries that have no block of their own. -/
def bareEntries (handles : Handles) : Nat → Reader (List Node)
  | 0 => refuse
  | fuel + 1 => do
    if ← accept .blockEntry then do
      let n ← nodeUnless handles fuel true false [.blockEntry, .key, .value, .blockEnd]
      return n :: (← bareEntries handles fuel)
    else return []

/-- The keys and values of a block up to its end. -/
def pairs (handles : Handles) : Nat → Reader (List (Node × Node))
  | 0 => refuse
  | fuel + 1 => do
    if ← accept .blockEnd then return []
    else if ← accept .key then do
      let k ← nodeUnless handles fuel true true [.key, .value, .blockEnd]
      let v ← if ← accept .value then
          nodeUnless handles fuel true true [.key, .value, .blockEnd]
        else pure empty
      return (k, v) :: (← pairs handles fuel)
    else refuse

/-- The value behind a key in brackets or braces. -/
def flowValue (handles : Handles) : Nat → List Token → Reader Node
  | 0, _ => refuse
  | fuel + 1, stops => do
    if ← accept .value then nodeUnless handles fuel false false stops else return empty

/-- The items in brackets. A key among them makes an item that is a mapping of one pair; a key mark without
a key takes the token behind it along. -/
def flowItems (handles : Handles) : Nat → Bool → Reader (List Node)
  | 0, _ => refuse
  | fuel + 1, first => do
    if ← accept .flowSequenceEnd then return []
    else do
      if !first then
        if !(← accept .flowEntry) then refuse
      if ← accept .flowSequenceEnd then return []
      else if ← accept .key then do
        let k ← if ← ahead [.value, .flowEntry, .flowSequenceEnd] then do drop; pure empty
          else node handles fuel false false
        let v ← flowValue handles fuel [.flowEntry, .flowSequenceEnd]
        return .mapping none [(k, v)] :: (← flowItems handles fuel false)
      else do
        let n ← node handles fuel false false
        return n :: (← flowItems handles fuel false)

/-- The pairs in braces. -/
def flowPairs (handles : Handles) : Nat → Bool → Reader (List (Node × Node))
  | 0, _ => refuse
  | fuel + 1, first => do
    if ← accept .flowMappingEnd then return []
    else do
      if !first then
        if !(← accept .flowEntry) then refuse
      if ← accept .flowMappingEnd then return []
      else if ← accept .key then do
        let k ← nodeUnless handles fuel false false [.value, .flowEntry, .flowMappingEnd]
        let v ← flowValue handles fuel [.flowEntry, .flowMappingEnd]
        return (k, v) :: (← flowPairs handles fuel false)
      else do
        let k ← node handles fuel false false
        return (k, empty) :: (← flowPairs handles fuel false)

end

/-- The directives in front of a document. -/
def directives : Nat → Bool → Handles → Reader Handles
  | 0, _, _ => refuse
  | fuel + 1, versioned, handles => do
    match ← peek with
    | some (.version ok) =>
      if versioned || !ok then refuse
      else do drop; directives fuel true handles
    | some (.tagHandle h e) =>
      if handles.any (·.1 = h) then refuse
      else do drop; directives fuel versioned ((h, e) :: handles)
    | _ => return handles

/-- Passes over the marks of the end of a document. -/
def skipEnds : Nat → Reader Unit
  | 0 => return ()
  | fuel + 1 => do if ← accept .documentEnd then skipEnds fuel

/-- Whether a token starts a directive. -/
def isDirective : Token → Bool
  | .version _ => true
  | .tagHandle _ _ => true
  | _ => false

/-- The only document of a text, if there is one. A document without a mark at its start is not empty. -/
def document : Reader (Option Node) := do
  let fuel := 4 * (← get).tokens.length + 4
  match ← peek with
  | none => return none
  | some t => do
    let handles ← directives fuel false []
    let started ← accept .documentStart
    if isDirective t && !started then refuse
    let bare ← match ← peek with
      | none => pure true
      | some t => pure (t == .documentEnd || t == .documentStart || isDirective t)
    let n ← if started && bare then pure empty else node handles fuel true false
    skipEnds fuel
    match ← peek with
    | none => return some n
    | some _ => refuse

end Node

/-- The document of a text, if it has one. -/
def Document.ofText? (text : List Char) : Option (Option Document) := do
  let tokens ← Token.ofText? text
  let (n, u) ← Node.document.run { tokens }
  return n.map fun root => ⟨root, u.targets⟩

end Yaml

end Multilint
