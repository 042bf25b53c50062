import BackendLink.Yaml.Node
import BackendLink.Yaml.Scan

/-!
# From tokens to trees

Each function reads one construct from the front of the tokens. It answers with what it has read and
with the state behind it, or with no state where the tokens end or do not fit; what it has read then
ends in a cut. The bound `fuel` is above any depth that the tokens can reach.
-/

namespace BackendLink.Yaml

/-- What is left to read, and the names given so far. -/
structure Composer where
  tokens : List Token
  /-- Anchors by name; a number is how many names there were before. -/
  anchors : List (List Char × Nat) := []
  /-- What the handles of tags stand for. -/
  handles : List (List Char × List Char) := []
  deriving Repr

namespace Composer

def next (c : Composer) : Option Token := c.tokens.head?

def skip (c : Composer) : Composer := { c with tokens := c.tokens.tail }

/-- What tags stand for unless a document says otherwise. -/
def defaultHandles : List (List Char × List Char) :=
  [(['!'], ['!']), (['!', '!'], "tag:yaml.org,2002:".toList)]

def meaning? (c : Composer) (handle : List Char) : Option (List Char) :=
  (c.handles ++ defaultHandles).lookup handle

/-- Gives a name to the node that follows. A name that is in use is given anew. -/
def name (anchor : Option (List Char)) (c : Composer) : Option Nat × Composer :=
  match anchor with
  | none => (none, c)
  | some a =>
    let named := c.anchors.filter fun entry => entry.1 != a
    (some c.anchors.length, { c with anchors := (a, c.anchors.length) :: named })

/-- The marks in front of a node: an anchor and a tag, in either order. -/
structure Properties where
  anchor : Option (List Char) := none
  tag : Option (List Char × List Char) := none

def properties (c : Composer) : Properties × Composer :=
  match c.tokens with
  | .anchor a :: .tag h s :: _ => (⟨some a, some (h, s)⟩, c.skip.skip)
  | .tag h s :: .anchor a :: _ => (⟨some a, some (h, s)⟩, c.skip.skip)
  | .anchor a :: _ => (⟨some a, none⟩, c.skip)
  | .tag h s :: _ => (⟨none, some (h, s)⟩, c.skip)
  | _ => ({}, c)

/-- The full form of a tag; its handle must have been given a meaning. -/
def fullTag? (c : Composer) : Option (List Char × List Char) → Option (Option (List Char))
  | none => some none
  | some (handle, suffix) =>
    if handle.isEmpty then some (some suffix)
    else (c.meaning? handle).map fun m => some (m ++ suffix)

/-- The tokens that show, where a key or a value may stand in a block mapping, that it is empty. -/
def endsBlockPart : Token → Bool
  | .key | .value | .blockEnd => true
  | _ => false

def endsBlockItem : Token → Bool
  | .blockEntry | .blockEnd => true
  | _ => false

def endsIndentlessItem : Token → Bool
  | .blockEntry | .key | .value | .blockEnd => true
  | _ => false

/-- The same inside brackets, for a value and for a key. -/
def endsFlowItem : Token → Bool
  | .flowEntry | .flowSequenceEnd => true
  | _ => false

def endsFlowPair : Token → Bool
  | .value | .flowEntry | .flowSequenceEnd => true
  | _ => false

def endsFlowValue : Token → Bool
  | .flowEntry | .flowMappingEnd => true
  | _ => false

def endsFlowKey : Token → Bool
  | .value | .flowEntry | .flowMappingEnd => true
  | _ => false

mutual

/-- One node. Block collections are read only where `block` holds, and a sequence without an
indentation of its own only where `indentless` does. -/
def node (block indentless : Bool) : Nat → Composer → Node × Option Composer
  | 0, _ => (.cut, none)
  | fuel + 1, c =>
    match c.next with
    | some (.reference a) =>
      match c.anchors.lookup a with
      | none => (.cut, none)
      | some n => (.reference n, some c.skip)
    | _ =>
      let (marks, start) := c.properties
      match start.next, start.fullTag? marks.tag with
      | none, _ | _, none => (.cut, none)
      | some t, some tag =>
        match t with
        | .blockEntry =>
          if indentless then
            let (anchor, inside) := start.name marks.anchor
            let (items, after) := indentlessItems fuel inside
            (.sequence anchor items, after)
          else emptyNode marks tag start
        | .scalar text style =>
          let (anchor, inside) := start.name marks.anchor
          (.scalar anchor tag style text, some inside.skip)
        | .flowSequenceStart =>
          let (anchor, inside) := start.name marks.anchor
          let (items, after) := flowItems true fuel inside.skip
          (.sequence anchor items, after)
        | .flowMappingStart =>
          let (anchor, inside) := start.name marks.anchor
          let (entries, after) := flowEntries true fuel inside.skip
          (.mapping anchor entries, after)
        | .blockSequenceStart =>
          if block then
            let (anchor, inside) := start.name marks.anchor
            let (items, after) := blockItems fuel inside.skip
            (.sequence anchor items, after)
          else emptyNode marks tag start
        | .blockMappingStart =>
          if block then
            let (anchor, inside) := start.name marks.anchor
            let (entries, after) := blockEntries fuel inside.skip
            (.mapping anchor entries, after)
          else emptyNode marks tag start
        | _ => emptyNode marks tag start

/-- A node of which only marks were written, if there are any. -/
def emptyNode (marks : Properties) (tag : Option (List Char)) (c : Composer) :
    Node × Option Composer :=
  if marks.anchor.isNone && tag.isNone then (.cut, none)
  else
    let (anchor, after) := c.name marks.anchor
    (.scalar anchor tag .plain [], some after)

/-- A node, or an empty one before a token that ends its place. -/
def nodeUnless (ends : Token → Bool) (block indentless : Bool) : Nat → Composer →
    Node × Option Composer
  | 0, _ => (.cut, none)
  | fuel + 1, c =>
    match c.next with
    | none => (.cut, none)
    | some t => if ends t then (.empty, some c) else node block indentless fuel c

def blockItems : Nat → Composer → List Node × Option Composer
  | 0, _ => ([.cut], none)
  | fuel + 1, c =>
    match c.next with
    | some .blockEntry =>
      match nodeUnless endsBlockItem true false fuel c.skip with
      | (item, none) => ([item, .cut], none)
      | (item, some after) =>
        let (items, last) := blockItems fuel after
        (item :: items, last)
    | some .blockEnd => ([], some c.skip)
    | _ => ([.cut], none)

def indentlessItems : Nat → Composer → List Node × Option Composer
  | 0, _ => ([.cut], none)
  | fuel + 1, c =>
    match c.next with
    | some .blockEntry =>
      match nodeUnless endsIndentlessItem true false fuel c.skip with
      | (item, none) => ([item, .cut], none)
      | (item, some after) =>
        let (items, last) := indentlessItems fuel after
        (item :: items, last)
    | some _ => ([], some c)
    | none => ([.cut], none)

def blockEntries : Nat → Composer → List (Node × Node) × Option Composer
  | 0, _ => ([(.cut, .cut)], none)
  | fuel + 1, c =>
    match c.next with
    | some .key =>
      match nodeUnless endsBlockPart true true fuel c.skip with
      | (k, none) => ([(k, .cut)], none)
      | (k, some behindKey) =>
        match blockValue fuel behindKey with
        | (v, none) => ([(k, v), (.cut, .cut)], none)
        | (v, some after) =>
          let (entries, last) := blockEntries fuel after
          ((k, v) :: entries, last)
    | some .blockEnd => ([], some c.skip)
    | _ => ([(.cut, .cut)], none)

def blockValue : Nat → Composer → Node × Option Composer
  | 0, _ => (.cut, none)
  | fuel + 1, c =>
    match c.next with
    | none => (.cut, none)
    | some .value => nodeUnless endsBlockPart true true fuel c.skip
    | some _ => (.empty, some c)

def flowItems (first : Bool) : Nat → Composer → List Node × Option Composer
  | 0, _ => ([.cut], none)
  | fuel + 1, c =>
    match c.next with
    | none => ([.cut], none)
    | some .flowSequenceEnd => ([], some c.skip)
    | some t =>
      if !first && t != .flowEntry then ([.cut], none)
      else
        let start := if first then c else c.skip
        match start.next with
        | none => ([.cut], none)
        | some .flowSequenceEnd => ([], some start.skip)
        | some .key =>
          match pair fuel start.skip with
          | (entry, none) => ([.mapping none [entry, (.cut, .cut)], .cut], none)
          | (entry, some after) =>
            let (items, last) := flowItems false fuel after
            (.mapping none [entry] :: items, last)
        | some _ =>
          match node false false fuel start with
          | (item, none) => ([item, .cut], none)
          | (item, some after) =>
            let (items, last) := flowItems false fuel after
            (item :: items, last)

/-- A single pair in a sequence. A key that is not written takes the token in its place with it. -/
def pair : Nat → Composer → (Node × Node) × Option Composer
  | 0, _ => ((.cut, .cut), none)
  | fuel + 1, c =>
    let (k, behind) : Node × Option Composer :=
      match c.next with
      | none => (.cut, none)
      | some t => if endsFlowPair t then (.empty, some c.skip) else node false false fuel c
    match behind with
    | none => ((k, .cut), none)
    | some behindKey =>
      match behindKey.next with
      | none => ((k, .cut), none)
      | some .value =>
        let (v, after) := nodeUnless endsFlowItem false false fuel behindKey.skip
        ((k, v), after.bind fun a => a.next.map fun _ => a)
      | some _ => ((k, .empty), some behindKey)

def flowEntries (first : Bool) : Nat → Composer → List (Node × Node) × Option Composer
  | 0, _ => ([(.cut, .cut)], none)
  | fuel + 1, c =>
    match c.next with
    | none => ([(.cut, .cut)], none)
    | some .flowMappingEnd => ([], some c.skip)
    | some t =>
      if !first && t != .flowEntry then ([(.cut, .cut)], none)
      else
        let start := if first then c else c.skip
        match start.next with
        | none => ([(.cut, .cut)], none)
        | some .flowMappingEnd => ([], some start.skip)
        | some .key =>
          match nodeUnless endsFlowKey false false fuel start.skip with
          | (k, none) => ([(k, .cut)], none)
          | (k, some behindKey) =>
            match flowValue fuel behindKey with
            | (v, none) => ([(k, v), (.cut, .cut)], none)
            | (v, some after) =>
              let (entries, last) := flowEntries false fuel after
              ((k, v) :: entries, last)
        | some _ =>
          match node false false fuel start with
          | (k, none) => ([(k, .cut)], none)
          | (k, some behindKey) =>
            match behindKey.next with
            | none => ([(k, .cut)], none)
            | some _ =>
              let (entries, last) := flowEntries false fuel behindKey
              ((k, .empty) :: entries, last)

def flowValue : Nat → Composer → Node × Option Composer
  | 0, _ => (.cut, none)
  | fuel + 1, c =>
    match c.next with
    | none => (.cut, none)
    | some .value => nodeUnless endsFlowValue false false fuel c.skip
    | some _ => (.empty, some c)

end

/-- The lines in front of a document: at most one version, which must be 1.1 or 1.2, and no handle
twice. -/
def directives : List Token → (version : Bool) → List (List Char × List Char) →
    Option (List (List Char × List Char) × List Token)
  | .version major minor :: rest, version, handles =>
    if version || major != 1 || (minor != 1 && minor != 2) then none
    else directives rest true handles
  | .tagHandle handle meaning :: rest, version, handles =>
    if (handles.lookup handle).isSome then none
    else directives rest version (handles ++ [(handle, meaning)])
  | rest, _, handles => some (handles, rest)

/-- The root of a document that starts with a marker; it may be empty. -/
def markedRoot (fuel : Nat) (c : Composer) : Node × Option Composer :=
  match c.next with
  | none => (.cut, none)
  | some (.version ..) | some (.tagHandle ..) | some .documentStart | some .documentEnd
  | some .streamEnd => (.empty, some c)
  | some _ => node true false fuel c

end Composer

/-- The root of a text's first document and what is left behind it. -/
def Composer.firstRoot (fuel : Nat) (tokens : List Token) : Option Node × Option Composer :=
  match tokens with
  | [] => (some .cut, none)
  | .streamEnd :: _ => (none, some { tokens := tokens })
  | .version .. :: _ | .tagHandle .. :: _ | .documentStart :: _ =>
    match directives tokens false [] with
    | some (handles, .documentStart :: rest) =>
      let (root, behind) := markedRoot fuel { tokens := rest, handles := handles }
      (some root, behind)
    | _ => (some .cut, none)
  | _ =>
    let (root, behind) := node true false fuel { tokens := tokens }
    (some root, behind)

/-- Nothing but ends of documents is left. -/
def Composer.isAtEnd (c : Composer) : Bool :=
  (c.tokens.dropWhile fun t => t == Token.documentEnd).head? == some .streamEnd

/-- The first document of a text's tokens. It is complete only if nothing follows it. -/
def compose (tokens : List Token) : Document :=
  let (root, behind) := Composer.firstRoot (4 * tokens.length + 8) tokens
  ⟨root, behind.any Composer.isAtEnd⟩

/-- The document that a text holds. -/
def read (text : List Char) : Document := compose (scan text).tokens

end BackendLink.Yaml
