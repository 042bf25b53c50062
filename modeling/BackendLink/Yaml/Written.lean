import BackendLink.Yaml.Scalar
import BackendLink.Yaml.Token

/-!
# Written scalars

How a text is written so that reading it gives the same text back: plain where it stands for itself,
between quotes where it would be taken for something else, as a literal block where it has several
lines, and with escapes where nothing else holds it.

* `preferredStyle` is the style a text asks for, `style` the one that can hold it.
* `written` writes a text as the value of a key; `indent` is where its further lines start.
-/

namespace BackendLink.Yaml

/-- Characters that are written as they are. -/
def isPrintable (c : Char) : Bool :=
  let n := c.toNat
  n == 0x0A || (0x20 ≤ n && n ≤ 0x7E) || (0xA0 ≤ n && n ≤ 0xD7FF) ||
    (0xE000 ≤ n && n ≤ 0xFFFD && n != 0xFEFF) || 0x10000 ≤ n

/-- Somewhere a character with `p` stands right before one with `q`. -/
def hasAdjacent (p q : Char → Bool) : List Char → Bool
  | a :: b :: rest => (p a && q b) || hasAdjacent p q (b :: rest)
  | _ => false

/-- A colon before a blank or the end, or a number sign behind a blank: each would end the scalar. -/
def hasInnerIndicator : List Char → Bool
  | a :: b :: rest =>
    (b == ':' && endsWord rest.head?) || (b == '#' && endsWord (some a)) ||
      hasInnerIndicator (b :: rest)
  | _ => false

/-- The front of a text would not start a plain scalar. -/
def startsWithIndicator (text : List Char) : Bool :=
  match text with
  | [] => false
  | c :: rest =>
    if c == '-' || c == '?' || c == ':' then
      endsWord rest.head? || (c == '-' && rest.take 2 == ['-', '-'])
    else isIndicator c || text.take 3 == ['.', '.', '.']

def isSpace (c : Char) : Bool := c == ' '

/-- The text can stand without quotes, in one line. -/
def holdsPlain (text : List Char) : Bool :=
  text.all isPrintable && !text.any isBreak && text.head? != some ' ' && text.getLast? != some ' ' &&
    !startsWithIndicator text && !hasInnerIndicator text

/-- The text can stand between single quotes: folding keeps it. -/
def holdsQuoted (text : List Char) : Bool :=
  text.all isPrintable && !hasAdjacent isBreak isSpace text && !hasAdjacent isSpace isBreak text

/-- The text can stand as a literal block: no line loses its end. -/
def holdsLiteral (text : List Char) : Bool :=
  !text.isEmpty && text.all isPrintable && text.getLast? != some ' ' &&
    !hasAdjacent isSpace isBreak text

def preferredStyle (text : List Char) : Style :=
  if '\n' ∈ text then .literal
  else if meaning text ≠ .text || isPaddedNumber text then .singleQuoted
  else .plain

/-- The style that a text is written in: quotes in place of none, escapes in place of the rest. -/
def style (text : List Char) : Style :=
  let quoted := if holdsQuoted text then .singleQuoted else .doubleQuoted
  match preferredStyle text with
  | .plain => if holdsPlain text then .plain else quoted
  | .singleQuoted => quoted
  | .literal => if holdsLiteral text then .literal else .doubleQuoted
  | other => other

def spaces (indent : Nat) : List Char := List.replicate indent ' '

/-- The lines of a quoted scalar. A lone line feed would be folded into a space and is doubled; a line
starts at the indentation, also when nothing but the closing quote is left for it. -/
def quotedLines (indent : Nat) : (lineStart : Bool) → List Char → List Char
  | lineStart, [] => if lineStart then spaces indent else []
  | lineStart, c :: rest =>
    if c == ' ' then c :: quotedLines indent lineStart rest
    else if isBreak c then
      (if !lineStart && c == '\n' then ['\n'] else []) ++ c :: quotedLines indent true rest
    else
      (if lineStart then spaces indent else []) ++ (if c == '\'' then ['\'', '\''] else [c]) ++
        quotedLines indent false rest

/-- Upper-case hexadecimal of a given width. -/
def hexDigits : (width : Nat) → Nat → List Char
  | 0, _ => []
  | width + 1, n => hexDigits width (n / 16) ++ [(Nat.digitChar (n % 16)).toUpper]

def escape (c : Char) : List Char :=
  match c with
  | '\x00' => ['\\', '0']
  | '\x07' => ['\\', 'a']
  | '\x08' => ['\\', 'b']
  | '\t' => ['\\', 't']
  | '\n' => ['\\', 'n']
  | '\x0b' => ['\\', 'v']
  | '\x0c' => ['\\', 'f']
  | '\r' => ['\\', 'r']
  | '\x1b' => ['\\', 'e']
  | '"' => ['\\', '"']
  | '\\' => ['\\', '\\']
  | '\u0085' => ['\\', 'N']
  | '\u2028' => ['\\', 'L']
  | '\u2029' => ['\\', 'P']
  | c =>
    let n := c.toNat
    if n < 0x100 then ['\\', 'x'] ++ hexDigits 2 n
    else if n < 0x10000 then ['\\', 'u'] ++ hexDigits 4 n
    else ['\\', 'U'] ++ hexDigits 8 n

def escaped (c : Char) : List Char :=
  if !isPrintable c || isBreak c || c == '"' || c == '\\' then escape c else [c]

/-- The lines of a literal block; an empty line is not indented. -/
def literalLines (indent : Nat) : (lineStart : Bool) → List Char → List Char
  | _, [] => []
  | lineStart, c :: rest =>
    if isBreak c then c :: literalLines indent true rest
    else (if lineStart then spaces indent else []) ++ c :: literalLines indent false rest

/-- Whether the breaks at the end of a block are dropped, kept or counted as one. -/
def chomping (text : List Char) : List Char :=
  match text.reverse with
  | [] => ['-']
  | [c] => if isBreak c then ['+'] else ['-']
  | c :: d :: _ => if !isBreak c then ['-'] else if isBreak d then ['+'] else []

/-- The mark of a literal block. The indentation is named where the text starts with what looks like
more of it. -/
def literalMark (text : List Char) : List Char :=
  ['|'] ++ (if text.head?.any fun c => isSpace c || isBreak c then ['2'] else []) ++ chomping text

/-- A text as the value of a key, from behind the colon to the start of the next line. -/
def written (indent : Nat) (text : List Char) : List Char :=
  match style text with
  | .plain => [' '] ++ text ++ ['\n']
  | .singleQuoted => [' ', '\''] ++ quotedLines indent false text ++ ['\'', '\n']
  | .literal =>
    [' '] ++ literalMark text ++ ['\n'] ++ literalLines indent true text ++
      (if text.getLast?.any isBreak then [] else ['\n'])
  | _ => [' ', '"'] ++ text.flatMap escaped ++ ['"', '\n']

end BackendLink.Yaml
