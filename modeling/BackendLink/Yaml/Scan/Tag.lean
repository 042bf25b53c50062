import BackendLink.Text.Utf8
import BackendLink.Yaml.Cursor

/-!
# Anchors, tags and directives

The marks in front of a node and the lines in front of a document.
-/

namespace BackendLink.Yaml

/-- The name behind `&` or `*`. It ends before a blank or one of a few indicators. -/
def scanName (c : Cursor) : Option (List Char × Cursor) :=
  let start := c.advance 1
  let name := start.rest.takeWhile isWord
  let behind := start.advance name.length
  let ends := endsWord behind.next || behind.next.any fun x =>
    x == '?' || x == ':' || x == ',' || x == ']' || x == '}' || x == '%' || x == '@' || x == '\x60'
  if name.isEmpty || !ends then none else some (name, behind)

/-- Characters of a tag; inside angle brackets commas and square brackets are among them. -/
def isTagChar (verbatim : Bool) (x : Char) : Bool :=
  isWord x || x == ';' || x == '/' || x == '?' || x == ':' || x == '@' || x == '&' || x == '=' ||
    x == '+' || x == '$' || x == '.' || x == '%' || x == '!' || x == '~' || x == '*' || x == '\'' ||
    x == '(' || x == ')' || (verbatim && (x == ',' || x == '[' || x == ']'))

/-- One byte written as a percent sign and two digits. -/
def percentByte? : List Char → Option UInt8
  | '%' :: a :: b :: _ => do some (UInt8.ofNat ((← hexValue? a) * 16 + (← hexValue? b)))
  | _ => none

/-- The bytes of one character written with percent signs: the first byte says how many. -/
def percentChar? (text : List Char) : Option (Char × Nat) := do
  let first ← percentByte? text
  let more ←
    if first < 0x80 then some 0
    else if 0xC0 ≤ first && first < 0xE0 then some 1
    else if 0xE0 ≤ first && first < 0xF0 then some 2
    else if 0xF0 ≤ first && first < 0xF8 then some 3
    else none
  let rest ← (List.range more).mapM fun k => percentByte? (text.drop (3 * (k + 1)))
  match Utf8.decode (first :: rest) with
  | [.char x] => some (x, 3 * (more + 1))
  | _ => none

/-- The characters of a tag at the front of a text and how many were read. -/
def tagText (verbatim : Bool) (text : List Char) : Option (List Char × Nat) :=
  match text with
  | [] => some ([], 0)
  | x :: rest =>
    if !isTagChar verbatim x then some ([], 0)
    else if x == '%' then
      match percentChar? text with
      | none => none
      | some (y, length) =>
        (tagText verbatim (rest.drop (length - 1))).map fun (t, n) => (y :: t, n + length)
    else (tagText verbatim rest).map fun (t, n) => (x :: t, n + 1)
termination_by text.length
decreasing_by
  all_goals simp only [List.length_cons, List.length_drop]; omega

/-- The rest of a tag behind what was already read of it; together they must not be empty. -/
def scanTagRest (verbatim : Bool) (begun : List Char) (c : Cursor) : Option (List Char × Cursor) :=
  match tagText verbatim c.rest with
  | none => none
  | some (text, n) =>
    if begun.isEmpty && n == 0 then none else some (begun.drop 1 ++ text, c.advance n)

/-- `!`, word characters, and perhaps a closing `!`. -/
def tagHandle (text : List Char) : Option (List Char) :=
  match text with
  | '!' :: rest =>
    let name := rest.takeWhile isWord
    if (rest.drop name.length).head? = some '!' then some ('!' :: (name ++ ['!']))
    else some ('!' :: name)
  | _ => none

/-- A handle with a closing mark of its own. -/
def isClosedHandle (handle : List Char) : Bool :=
  handle.length ≥ 2 && handle.getLast? == some '!'

/-- A tag as handle and rest: `!<tag>`, `!handle!rest` or `!rest`. -/
def scanTag (flow : Bool) (c : Cursor) : Option (List Char × List Char × Cursor) := do
  let (handle, suffix, behind) ←
    if c.rest[1]? = some '<' then do
      let (suffix, behind) ← scanTagRest true [] (c.advance 2)
      if behind.next = some '>' then some ([], suffix, behind.advance 1) else none
    else do
      let handle ← tagHandle c.rest
      let after := c.advance handle.length
      if isClosedHandle handle then
        let (suffix, behind) ← scanTagRest false [] after
        some (handle, suffix, behind)
      else
        let (suffix, behind) ← scanTagRest false handle after
        if suffix.isEmpty then some ([], ['!'], behind) else some (['!'], suffix, behind)
  if endsWord behind.next || (flow && behind.next = some ',') then some (handle, suffix, behind)
  else none

/-- A number of a version: up to nine digits. -/
def scanVersionNumber (c : Cursor) : Option (Nat × Cursor) :=
  let digits := c.rest.takeWhile Char.isDigit
  if digits.isEmpty || digits.length > 9 then none
  else some (digits.foldl (fun n d => n * 10 + (d.toNat - '0'.toNat)) 0, c.advance digits.length)

end BackendLink.Yaml
