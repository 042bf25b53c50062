import BackendLink.Yaml.Cursor

/-!
# Block scalars

A block scalar is the indented lines behind its header. Literal scalars keep their line breaks,
folded ones join lines that start with no blank. The header says what becomes of the breaks at the
end, and may give the indentation, which else is that of the first line that is not empty.
-/

namespace BackendLink.Yaml

/-- What becomes of the line breaks at the end of a block scalar. -/
inductive Chomping
  | strip
  | clip
  | keep
  deriving DecidableEq, Repr

def chomping? : Char → Option Chomping
  | '+' => some .keep
  | '-' => some .strip
  | _ => none

/-- An indentation in a header: a digit other than zero. The second part is whether it is well
formed. -/
def increment? (next : Option Char) : Option Nat × Bool :=
  match next with
  | some x => if x.isDigit then (some (x.toNat - '0'.toNat), x != '0') else (none, true)
  | none => (none, true)

/-- The two indicators of a header, in either order, and the cursor behind them. -/
def scanIndicators (c : Cursor) : Option (Chomping × Option Nat × Cursor) :=
  match c.next.bind chomping? with
  | some chomping =>
    let after := c.advance 1
    match increment? after.next with
    | (_, false) => none
    | (some n, true) => some (chomping, some n, after.advance 1)
    | (none, true) => some (chomping, none, after)
  | none =>
    match increment? c.next with
    | (_, false) => none
    | (none, true) => some (.clip, none, c)
    | (some n, true) =>
      let after := c.advance 1
      match after.next.bind chomping? with
      | some chomping => some (chomping, some n, after.advance 1)
      | none => some (.clip, some n, after)

/-- Past blanks and a comment to the end of the line, and past the break there. -/
def skipLineEnd (c : Cursor) : Option Cursor :=
  let behind := (c.advanceWhile isBlank).skipComment
  if endsLine behind.next then some behind.skipBreak else none

/-- Past indentation: spaces up to the column `indent`, or all of them when that is not known. -/
def skipIndent (indent : Option Nat) (c : Cursor) : Cursor :=
  let spaces := (c.rest.takeWhile (· == ' ')).length
  c.advance (indent.elim spaces fun n => min spaces (n - c.column))

/-- Passes empty lines and the indentation behind them. The answer has their breaks, the widest
column reached, and the cursor. A tab in place of indentation is refused. -/
def scanEmptyLines (indent : Option Nat) (breaks : List Char) (widest : Nat) (c : Cursor) :
    Option (List Char × Nat × Cursor) :=
  let here := skipIndent indent c
  let widest := max widest here.column
  match _ : here.rest with
  | [] => some (breaks, widest, here)
  | x :: _ =>
    if x == '\t' && indent.all (here.column < ·) then none
    else if _ : isBreak x then
      scanEmptyLines indent (breaks ++ here.takeBreak.1) widest here.skipBreak
    else some (breaks, widest, here)
termination_by c.rest.length
decreasing_by
  exact Nat.lt_of_lt_of_le (Cursor.length_skipBreak_lt (by assumption) (by assumption))
    (Cursor.length_advance_le _ c)

/-- Empty lines take nothing back. -/
theorem length_le_of_scanEmptyLines {indent : Option Nat} {breaks text : List Char}
    {widest column : Nat} {c last : Cursor}
    (scanned : scanEmptyLines indent breaks widest c = some (text, column, last)) :
    last.rest.length ≤ c.rest.length := by
  fun_induction scanEmptyLines indent breaks widest c with
  | case1 breaks widest c =>
    injection scanned with same; injection same with _ same; injection same with _ same
    exact same ▸ Cursor.length_advance_le _ c
  | case2 => contradiction
  | case3 breaks widest c here _ x rest _ _ _ ih =>
    exact Nat.le_trans (ih scanned)
      (Nat.le_trans (Cursor.length_skipBreak_le here) (Cursor.length_advance_le _ c))
  | case4 breaks widest c =>
    injection scanned with same; injection same with _ same; injection same with _ same
    exact same ▸ Cursor.length_advance_le _ c

/-- The cursor behind a line and its break. -/
def skipLine (c : Cursor) : Cursor := (c.advanceWhile fun x => !isBreak x).skipBreak

/-- A line is not empty, or its break is there. -/
theorem length_skipLine_lt {c : Cursor} {x : Char} {rest : List Char} (here : c.rest = x :: rest) :
    (skipLine c).rest.length < c.rest.length := by
  unfold skipLine Cursor.advanceWhile
  cases breaks : isBreak x with
  | true =>
    rw [here, List.takeWhile_cons_of_neg (by rw [breaks]; decide)]
    exact here ▸ @Cursor.length_skipBreak_lt (c.advance 0) x rest here breaks
  | false =>
    rw [here, List.takeWhile_cons_of_pos (by rw [breaks]; rfl)]
    exact here ▸ Nat.lt_of_le_of_lt (Cursor.length_skipBreak_le _) (Cursor.length_advance_lt here)

/-- The lines of a block scalar at column `indent`: the text up to its last line, the break behind
that line, the breaks of the empty lines that follow, and the cursor. -/
def scanBlockLines (isLiteral : Bool) (indent : Nat) (first others : List Char) (afterBlank : Bool)
    (c : Cursor) : Option (List Char × List Char × List Char × Cursor) :=
  match _ : c.rest with
  | [] => some ([], first, others, c)
  | x :: _ =>
    if c.column != indent then some ([], first, others, c)
    else
      let startsBlank := isBlank x
      let joint :=
        if !isLiteral && first.head? = some '\n' && !afterBlank && !startsBlank then
          if others.isEmpty then [' '] else others
        else first ++ others
      let line := c.rest.takeWhile fun x => !isBreak x
      let br := (c.advance line.length).takeBreak.1
      match _ : scanEmptyLines (some indent) [] 0 (skipLine c) with
      | none => none
      | some (breaks, _, last) =>
        (scanBlockLines isLiteral indent br breaks startsBlank last).map
          fun (text, rest) => (joint ++ line ++ text, rest)
termination_by c.rest.length
decreasing_by
  exact Nat.lt_of_le_of_lt (length_le_of_scanEmptyLines (by assumption))
    (length_skipLine_lt (by assumption))

/-- A block scalar from its indicator on; `parent` is the indentation of what it stands in. -/
def scanBlock (isLiteral : Bool) (parent : Int) (c : Cursor) : Option (List Char × Cursor) := do
  let (chomping, increment, after) ← scanIndicators (c.advance 1)
  let start ← skipLineEnd after
  let given := increment.map fun n => if 0 ≤ parent then parent.toNat + n else n
  let (breaks, widest, body) ← scanEmptyLines given [] 0 start
  let indent := given.getD (max widest (max (parent + 1).toNat 1))
  let (text, last, others, behind) ← scanBlockLines isLiteral indent [] breaks false body
  let ending := match chomping with
    | .strip => []
    | .clip => last
    | .keep => last ++ others
  some (text ++ ending, behind)

end BackendLink.Yaml
