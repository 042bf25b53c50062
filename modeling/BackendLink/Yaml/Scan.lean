import BackendLink.Yaml.Scan.Block
import BackendLink.Yaml.Scan.Plain
import BackendLink.Yaml.Scan.Quoted
import BackendLink.Yaml.Scan.Tag
import BackendLink.Yaml.Token

/-!
# From text to tokens

Indentation becomes tokens that open and close block collections. A mapping key is known as one only
when the colon behind it is reached, so a place where a key may have started is remembered, and the
key's token is put in front of what stands there.

`scan` answers with the tokens of a whole document, or with those that a reader has seen when it
comes to the first fault: a reader sees no token that a key may still be put in front of.
-/

namespace BackendLink.Yaml

/-- A place where a mapping key may have started. -/
structure PendingKey where
  /-- Nothing else can stand here. -/
  required : Bool
  /-- How many tokens come before. -/
  position : Nat
  index : Nat
  line : Nat
  column : Nat
  deriving DecidableEq, Repr

structure Scanner where
  cursor : Cursor
  /-- The tokens so far, the latest first. -/
  produced : List Token := []
  /-- How many brackets are open. -/
  depth : Nat := 0
  /-- The column of the innermost block collection. -/
  indent : Int := -1
  /-- The columns of those around it. -/
  outer : List Int := []
  keyAllowed : Bool := true
  /-- The key that may have started, for each open bracket and outside all of them. -/
  keys : List (Option PendingKey) := [none]
  deriving Repr

namespace Scanner

def flow (s : Scanner) : Bool := s.depth != 0

def produce (t : Token) (s : Scanner) : Scanner := { s with produced := t :: s.produced }

/-- Puts a token in front of the one at `position`. -/
def produceAt (position : Nat) (t : Token) (s : Scanner) : Scanner :=
  let later := s.produced.length - position
  { s with produced := s.produced.take later ++ t :: s.produced.drop later }

def advance (n : Nat) (s : Scanner) : Scanner := { s with cursor := s.cursor.advance n }

/-! ## Between tokens -/

/-- Past a mark of byte order at the start of a line. -/
def skipMark (c : Cursor) : Cursor :=
  if c.column == 0 && c.next = some '\uFEFF' then c.advance 1 else c

/-- Past blanks and a comment. A tab is no indentation: outside brackets it is passed only behind
something that no key may follow. -/
def skipBlanks (tabs : Bool) (c : Cursor) : Cursor :=
  ((skipMark c).advanceWhile fun x => x == ' ' || (tabs && x == '\t')).skipComment

theorem length_skipBlanks_le (tabs : Bool) (c : Cursor) :
    (skipBlanks tabs c).rest.length ≤ c.rest.length := by
  have mark : (skipMark c).rest.length ≤ c.rest.length := by
    unfold skipMark
    split
    next => exact Cursor.length_advance_le 1 c
    next => exact Nat.le_refl _
  have blanks := Nat.le_trans (Cursor.length_advance_le
    ((skipMark c).rest.takeWhile fun x => x == ' ' || (tabs && x == '\t')).length (skipMark c)) mark
  unfold skipBlanks Cursor.skipComment
  split
  next => exact Nat.le_trans (Cursor.length_advance_le _ _) blanks
  next => exact blanks

/-- Past blanks, comments and line breaks. -/
def skipToToken (s : Scanner) : Scanner :=
  let c := skipBlanks (s.flow || !s.keyAllowed) s.cursor
  match _ : c.rest with
  | [] => { s with cursor := c }
  | x :: _ =>
    if _ : isBreak x then
      skipToToken { s with cursor := c.skipBreak, keyAllowed := s.keyAllowed || !s.flow }
    else { s with cursor := c }
termination_by s.cursor.rest.length
decreasing_by
  exact Nat.lt_of_lt_of_le (Cursor.length_skipBreak_lt (by assumption) (by assumption))
    (length_skipBlanks_le _ _)

/-! ## Keys that may have started -/

/-- A key stands on one line and is at most 1024 characters long. -/
def isStale (c : Cursor) (k : PendingKey) : Bool := k.line < c.line || k.index + 1024 < c.index

/-- Forgets the keys that can no longer be; a required one must not be among them. -/
def dropStale (s : Scanner) : Option Scanner :=
  let stale (k : Option PendingKey) : Bool := k.any (isStale s.cursor)
  if s.keys.any fun k => stale k && k.any PendingKey.required then none
  else some { s with keys := s.keys.map fun k => if stale k then none else k }

/-- Forgets the key at the current depth; it must not be required. -/
def dropKey (s : Scanner) : Option Scanner :=
  match s.keys with
  | [] => some s
  | k :: rest => if k.any PendingKey.required then none else some { s with keys := none :: rest }

/-- Remembers that a key may start here. -/
def saveKey (s : Scanner) : Option Scanner :=
  if s.keyAllowed then
    let c := s.cursor
    let key : PendingKey :=
      { required := !s.flow && s.indent == (c.column : Int), position := s.produced.length,
        index := c.index, line := c.line, column := c.column }
    s.dropKey.map fun s => { s with keys := some key :: s.keys.drop 1 }
  else some s

/-! ## Indentation -/

/-- The block collections that end where a line starts at `column`. -/
def closed (column : Int) : Int → List Int → Nat × Int × List Int
  | indent, [] => (0, indent, [])
  | indent, o :: outer =>
    if column < indent then
      let (n, last) := closed column o outer
      (n + 1, last)
    else (0, indent, o :: outer)

/-- Closes the block collections to the right of `column`. -/
def closeTo (column : Int) (s : Scanner) : Scanner :=
  if s.flow then s
  else
    let (n, indent, outer) := closed column s.indent s.outer
    { s with produced := List.replicate n .blockEnd ++ s.produced, indent, outer }

/-- Opens a block collection at `column` unless one is open there; its token goes in front of the
one at `position`. -/
def openAt (column : Nat) (position : Nat) (t : Token) (s : Scanner) : Scanner :=
  if s.flow || (column : Int) ≤ s.indent then s
  else { s with outer := s.indent :: s.outer, indent := column }.produceAt position t

/-! ## One token -/

/-- The end of the document's text. -/
def atEnd (s : Scanner) : Option Scanner :=
  (s.closeTo (-1)).dropKey.map fun s => { s with keyAllowed := false }.produce .streamEnd

def marker (t : Token) (s : Scanner) : Option Scanner :=
  (s.closeTo (-1)).dropKey.map fun s => ({ s with keyAllowed := false }.advance 3).produce t

def directiveToken (c : Cursor) : Option (Token × Cursor) := do
  let start := c.advance 1
  let name := start.rest.takeWhile isWord
  let behind := start.advance name.length
  if name.isEmpty || !endsWord behind.next then none
  else
    let value := behind.advanceWhile isBlank
    if name = "YAML".toList then
      let (major, dot) ← scanVersionNumber value
      if dot.next != some '.' then none
      else
        let (minor, last) ← scanVersionNumber (dot.advance 1)
        some (.version major minor, last)
    else if name = "TAG".toList then
      let handle ← tagHandle value.rest
      if !isClosedHandle handle && handle != ['!'] then none
      else
        let after := value.advance handle.length
        if !after.next.any isBlank then none
        else
          let (meaning, last) ← scanTagRest true [] (after.advanceWhile isBlank)
          if endsWord last.next then some (.tagHandle handle meaning, last) else none
    else none

def directive (s : Scanner) : Option Scanner := do
  let s ← (s.closeTo (-1)).dropKey
  let (t, behind) ← directiveToken s.cursor
  let cursor ← skipLineEnd behind
  some ({ s with keyAllowed := false, cursor }.produce t)

def openFlow (t : Token) (s : Scanner) : Option Scanner := do
  let s ← s.saveKey
  some (({ s with keys := none :: s.keys, depth := s.depth + 1, keyAllowed := true }.advance 1).produce t)

def closeFlow (t : Token) (s : Scanner) : Option Scanner := do
  let s ← s.dropKey
  let s := if s.flow then { s with depth := s.depth - 1, keys := s.keys.drop 1 } else s
  some (({ s with keyAllowed := false }.advance 1).produce t)

def flowEntry (s : Scanner) : Option Scanner := do
  let s ← s.dropKey
  some (({ s with keyAllowed := true }.advance 1).produce .flowEntry)

/-- Opens a block collection here, where a new entry must be allowed. -/
def openHere (t : Token) (s : Scanner) : Option Scanner :=
  if s.flow then some s
  else if !s.keyAllowed then none
  else some (s.openAt s.cursor.column s.produced.length t)

def blockEntry (s : Scanner) : Option Scanner := do
  let s ← s.openHere .blockSequenceStart
  let s ← s.dropKey
  some (({ s with keyAllowed := true }.advance 1).produce .blockEntry)

def explicitKey (s : Scanner) : Option Scanner := do
  let s ← s.openHere .blockMappingStart
  let s ← s.dropKey
  some (({ s with keyAllowed := !s.flow }.advance 1).produce .key)

def mappingValue (s : Scanner) : Option Scanner :=
  match s.keys with
  | some k :: keys =>
    let s := (s.produceAt k.position .key).openAt k.column k.position .blockMappingStart
    some (({ s with keys := none :: keys, keyAllowed := false }.advance 1).produce .value)
  | _ => do
    let s ← s.openHere .blockMappingStart
    some (({ s with keyAllowed := !s.flow }.advance 1).produce .value)

def named (t : List Char → Token) (s : Scanner) : Option Scanner := do
  let s ← s.saveKey
  let (name, cursor) ← scanName s.cursor
  some ({ s with keyAllowed := false, cursor }.produce (t name))

def tag (s : Scanner) : Option Scanner := do
  let s ← s.saveKey
  let (handle, suffix, cursor) ← scanTag s.flow s.cursor
  some ({ s with keyAllowed := false, cursor }.produce (.tag handle suffix))

def blockScalar (isLiteral : Bool) (s : Scanner) : Option Scanner := do
  let s ← s.dropKey
  let (text, cursor) ← scanBlock isLiteral s.indent s.cursor
  some ({ s with keyAllowed := true, cursor }.produce
    (.scalar text (if isLiteral then .literal else .folded)))

def quotedScalar (single : Bool) (s : Scanner) : Option Scanner := do
  let s ← s.saveKey
  let (text, cursor) ← scanQuoted single s.cursor
  some ({ s with keyAllowed := false, cursor }.produce
    (.scalar text (if single then .singleQuoted else .doubleQuoted)))

def plainScalar (s : Scanner) : Option Scanner := do
  let s ← s.saveKey
  let (text, broken, cursor) ← scanPlain s.flow (s.indent + 1) s.cursor
  some ({ s with keyAllowed := broken, cursor }.produce (.scalar text .plain))

/-- The token that starts with the character `x`, before `next`. -/
def tokenAt (x : Char) (next : Option Char) (s : Scanner) : Option Scanner :=
  if s.cursor.column == 0 && x == '%' then s.directive
  else if s.cursor.atMarker '-' then s.marker .documentStart
  else if s.cursor.atMarker '.' then s.marker .documentEnd
  else if x == '[' then s.openFlow .flowSequenceStart
  else if x == '{' then s.openFlow .flowMappingStart
  else if x == ']' then s.closeFlow .flowSequenceEnd
  else if x == '}' then s.closeFlow .flowMappingEnd
  else if x == ',' then s.flowEntry
  else if x == '-' && endsWord next then s.blockEntry
  else if x == '?' && (s.flow || endsWord next) then s.explicitKey
  else if x == ':' && (s.flow || endsWord next) then s.mappingValue
  else if x == '*' then s.named .reference
  else if x == '&' then s.named .anchor
  else if x == '!' then s.tag
  else if x == '|' && !s.flow then s.blockScalar true
  else if x == '>' && !s.flow then s.blockScalar false
  else if x == '\'' then s.quotedScalar true
  else if x == '"' then s.quotedScalar false
  else if !(isBlank x || isIndicator x) || (x == '-' && !next.any isBlank) ||
      (!s.flow && (x == '?' || x == ':') && !endsWord next) then s.plainScalar
  else none

/-- Passes to the next token and produces it, with what its place opens or closes. -/
def step (s : Scanner) : Option Scanner := do
  let s ← s.skipToToken.dropStale
  let s := s.closeTo s.cursor.column
  match s.cursor.rest with
  | [] => s.atEnd
  | x :: rest => s.tokenAt x rest.head?

/-- The tokens that no key can be put in front of any more. -/
def settled (s : Scanner) : List Token :=
  let positions := s.keys.filterMap fun k => k.map PendingKey.position
  s.produced.reverse.take (positions.foldl min s.produced.length)

end Scanner

/-- The tokens of a text, and whether there was no fault. -/
structure Scanned where
  tokens : List Token
  complete : Bool
  deriving DecidableEq, Repr

/-- Steps to the end of the text or to the first fault; `fuel` bounds the number of steps. Every step
but the last reads at least one character, so the length of a text and one more are enough. -/
def scanFrom : Nat → Scanner → Scanned
  | 0, s => ⟨s.settled, false⟩
  | fuel + 1, s =>
    match s.step with
    | none => ⟨s.settled, false⟩
    | some after =>
      if after.produced.head? = some .streamEnd then ⟨after.produced.reverse, true⟩
      else
        match after.dropStale with
        | none => ⟨s.settled, false⟩
        | some kept => scanFrom fuel kept

/-- The tokens of a document's text. A text that holds a character it must not hold has none. -/
def scan (text : List Char) : Scanned :=
  if text.all isAllowed then
    let start := if text.head? = some '\uFEFF' then text.drop 1 else text
    scanFrom (text.length + 2) { cursor := { rest := start } }
  else ⟨[], false⟩

end BackendLink.Yaml
