import BackendLink.Yaml.Character

/-!
# Positions in a document

A cursor is what is left of a document and where that starts: how many characters came before, in
which line, and how many of them in that line.
-/

namespace BackendLink.Yaml

structure Cursor where
  rest : List Char
  index : Nat := 0
  line : Nat := 0
  column : Nat := 0
  deriving DecidableEq, Repr

namespace Cursor

def next (c : Cursor) : Option Char := c.rest.head?

/-- Past `n` characters of the same line. -/
def advance (n : Nat) (c : Cursor) : Cursor :=
  ⟨c.rest.drop n, c.index + n, c.line, c.column + n⟩

/-- Past the characters of this line for which `p` holds. -/
def advanceWhile (p : Char → Bool) (c : Cursor) : Cursor :=
  c.advance (c.rest.takeWhile p).length

/-- The line break here as a document's text has it, and the cursor behind it. The two-character
break counts once; all breaks but the line and paragraph separators read as line feeds. -/
def takeBreak (c : Cursor) : List Char × Cursor :=
  match c.rest with
  | '\r' :: '\n' :: rest => (['\n'], ⟨rest, c.index + 2, c.line + 1, 0⟩)
  | b :: rest =>
    if b == '\u2028' || b == '\u2029' then ([b], ⟨rest, c.index + 1, c.line + 1, 0⟩)
    else if isBreak b then (['\n'], ⟨rest, c.index + 1, c.line + 1, 0⟩)
    else ([], c)
  | [] => ([], c)

def skipBreak (c : Cursor) : Cursor := c.takeBreak.2

/-! ## Less is left behind -/

theorem length_advance (n : Nat) (c : Cursor) : (c.advance n).rest.length = c.rest.length - n :=
  List.length_drop

theorem length_advance_le (n : Nat) (c : Cursor) :
    (c.advance n).rest.length ≤ c.rest.length := by
  rw [length_advance]; exact Nat.sub_le ..

theorem length_advance_lt {n : Nat} {c : Cursor} {x : Char} {rest : List Char}
    (here : c.rest = x :: rest) : (c.advance (n + 1)).rest.length < c.rest.length := by
  rw [length_advance, here, List.length_cons]; omega

theorem length_skipBreak_le (c : Cursor) : c.skipBreak.rest.length ≤ c.rest.length := by
  unfold skipBreak takeBreak
  split
  next rest here => rw [here]; exact Nat.le_add_right _ 2
  next b rest _ here =>
    split
    · rw [here]; exact Nat.le_succ _
    · split
      · rw [here]; exact Nat.le_succ _
      · exact Nat.le_refl _
  next => exact Nat.le_refl _

theorem length_skipBreak_lt {c : Cursor} {x : Char} {rest : List Char} (here : c.rest = x :: rest)
    (breaks : isBreak x = true) : c.skipBreak.rest.length < c.rest.length := by
  unfold skipBreak takeBreak
  split
  next rest here => rw [here]; exact Nat.lt_add_of_pos_right Nat.two_pos
  next b rest _ found =>
    split
    · rw [found]; exact Nat.lt_succ_self _
    · rw [found] at here
      injection here with same
      rw [if_pos (same ▸ breaks), found]
      exact Nat.lt_succ_self _
  next found => rw [found] at here; contradiction

/-! ## Comments and markers -/

/-- Past a comment, if one starts here: up to the end of the line. -/
def skipComment (c : Cursor) : Cursor :=
  if c.next = some '#' then c.advanceWhile (fun x => !isBreak x) else c

/-- Three times `mark` at the start of a line, alone. -/
def atMarker (mark : Char) (c : Cursor) : Bool :=
  c.column == 0 && match c.rest with
    | a :: b :: d :: rest => a == mark && b == mark && d == mark && endsWord rest.head?
    | _ => false

/-- A document starts or ends here. -/
def atDocumentMarker (c : Cursor) : Bool := c.atMarker '-' || c.atMarker '.'

end Cursor
end BackendLink.Yaml
