import BackendLink.Yaml.Scan.Gap

/-!
# Quoted scalars

Between single quotes a doubled quote stands for one and nothing else is special. Between double
quotes a backslash starts an escape. In both, gaps are folded as in plain scalars.
-/

namespace BackendLink.Yaml

/-- The escapes of one letter. -/
def escapedChar? : Char → Option Char
  | '0' => some '\x00'
  | 'a' => some '\x07'
  | 'b' => some '\x08'
  | 't' | '\t' => some '\t'
  | 'n' => some '\n'
  | 'v' => some '\x0b'
  | 'f' => some '\x0c'
  | 'r' => some '\r'
  | 'e' => some '\x1b'
  | ' ' => some ' '
  | '"' => some '"'
  | '/' => some '/'
  | '\\' => some '\\'
  | 'N' => some '\u0085'
  | '_' => some '\u00a0'
  | 'L' => some '\u2028'
  | 'P' => some '\u2029'
  | _ => none

/-- How many digits follow an escape by number. -/
def escapeDigits? : Char → Option Nat
  | 'x' => some 2
  | 'u' => some 4
  | 'U' => some 8
  | _ => none

/-- The number of hexadecimal digits, all of which must be there. -/
def hexNumber? (count : Nat) (text : List Char) : Option Nat :=
  if text.length < count then none
  else (text.take count).foldlM (fun n c => (hexValue? c).map (n * 16 + ·)) 0

/-- The escape behind a backslash: its character and its length. -/
def escape? : List Char → Option (Char × Nat)
  | [] => none
  | x :: rest =>
    match escapedChar? x with
    | some c => some (c, 1)
    | none => do
      let count ← escapeDigits? x
      let c ← charOf? (← hexNumber? count rest)
      some (c, count + 1)

/-- What one part of a quoted scalar stands for, and the cursor behind it: a gap, an escape, or a
character that is neither. A backslash in front of a line break belongs to the gap. -/
def quotedPart (single : Bool) (c : Cursor) : Option (List Char × Cursor) :=
  match c.rest with
  | [] => none
  | x :: rest =>
    if isBlank x || isBreak x then
      (scanGap none {} c).map fun (gap, after) => (gap.text, after)
    else if single then
      if x == '\'' then some ([x], c.advance 2) else some ([x], c.advance 1)
    else if x == '\\' then
      if rest.head?.any isBreak then
        (scanGap none { broken := true } (c.advance 1).skipBreak).map fun (gap, after) =>
          (gap.text, after)
      else (escape? rest).map fun (y, length) => ([y], c.advance (length + 1))
    else some ([x], c.advance 1)

/-- A part is not empty. -/
theorem length_lt_of_quotedPart {single : Bool} {c after : Cursor} {text : List Char}
    (read : quotedPart single c = some (text, after)) : after.rest.length < c.rest.length := by
  unfold quotedPart at read
  split at read
  next => contradiction
  next x rest here =>
    split at read
    next starts =>
      obtain ⟨⟨gap, behind⟩, scanned, same⟩ := Option.map_eq_some_iff.mp read
      injection same with _ same
      exact same ▸ length_lt_of_scanGap here starts scanned
    next =>
      split at read
      next =>
        split at read
        all_goals
          injection read with same
          injection same with _ same
          exact same ▸ Cursor.length_advance_lt here
      next =>
        split at read
        next =>
          split at read
          next =>
            obtain ⟨⟨gap, behind⟩, scanned, same⟩ := Option.map_eq_some_iff.mp read
            injection same with _ same
            exact same ▸ Nat.lt_of_le_of_lt (length_le_of_scanGap scanned)
              (Nat.lt_of_le_of_lt (Cursor.length_skipBreak_le _) (Cursor.length_advance_lt here))
          next =>
            obtain ⟨⟨y, length⟩, _, same⟩ := Option.map_eq_some_iff.mp read
            injection same with _ same
            exact same ▸ Cursor.length_advance_lt here
        next =>
          injection read with same
          injection same with _ same
          exact same ▸ Cursor.length_advance_lt here

/-- The closing quote is here: a single one must not be doubled. -/
def atClosingQuote (single : Bool) (c : Cursor) : Bool :=
  if single then c.next == some '\'' && c.rest[1]? != some '\'' else c.next == some '"'

/-- The rest of a quoted scalar and the cursor behind its closing quote. A quoted scalar holds no
document marker at the start of a line. -/
def scanQuotedFrom (single : Bool) (c : Cursor) : Option (List Char × Cursor) :=
  if atClosingQuote single c then some ([], c.advance 1)
  else
    match _ : quotedPart single c with
    | none => none
    | some (text, after) =>
      if after.atDocumentMarker then none
      else (scanQuotedFrom single after).map fun (more, last) => (text ++ more, last)
termination_by c.rest.length
decreasing_by exact length_lt_of_quotedPart (by assumption)

/-- A quoted scalar from its opening quote on. -/
def scanQuoted (single : Bool) (c : Cursor) : Option (List Char × Cursor) :=
  scanQuotedFrom single (c.advance 1)

end BackendLink.Yaml
