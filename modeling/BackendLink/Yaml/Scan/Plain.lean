import BackendLink.Yaml.Scan.Gap

/-!
# Plain scalars

A plain scalar is a run of words and the gaps between them. It ends at a colon that ends a word, at
a comment, at the start of a document, where the lines return to the left of its margin, and inside
brackets at a comma or a bracket.
-/

namespace BackendLink.Yaml

/-- A colon inside brackets with an indicator right behind it, which is refused. -/
def isBareColon (flow : Bool) (x : Char) (next : Option Char) : Bool :=
  flow && x == ':' && next.any fun y => isFlowIndicator y || y == '?'

/-- A character that ends a plain scalar inside a word. -/
def endsPlain (flow : Bool) (x : Char) (next : Option Char) : Bool :=
  (x == ':' && endsWord next) || (flow && isFlowIndicator x)

/-- The word at the front of a text. -/
def plainWord (flow : Bool) : List Char → Option (List Char)
  | [] => some []
  | x :: rest =>
    if isBlank x || isBreak x then some []
    else if isBareColon flow x rest.head? then none
    else if endsPlain flow x rest.head? then some []
    else (plainWord flow rest).map (x :: ·)

/-- A word is the front of the text it is read from. -/
theorem length_le_of_plainWord {flow : Bool} {text word : List Char}
    (read : plainWord flow text = some word) : word.length ≤ text.length := by
  induction text generalizing word with
  | nil => injection read with same; exact same ▸ Nat.le_refl _
  | cons x rest ih =>
    rw [plainWord] at read
    split at read
    next => injection read with same; exact same ▸ Nat.zero_le _
    next =>
      split at read
      next => contradiction
      next =>
        split at read
        next => injection read with same; exact same ▸ Nat.zero_le _
        next =>
          obtain ⟨w, found, rfl⟩ := Option.map_eq_some_iff.mp read
          exact Nat.succ_le_succ (ih found)

/-- The rest of a plain scalar behind the gap `g`: its text, whether a line has ended since the last
word, and the cursor behind. -/
def scanPlainFrom (flow : Bool) (margin : Int) (g : Gap) (c : Cursor) :
    Option (List Char × Bool × Cursor) :=
  if c.atDocumentMarker || c.next = some '#' then some ([], g.broken, c)
  else
    match _ : plainWord flow c.rest with
    | none => none
    | some [] => some ([], g.broken, c)
    | some (x :: xs) =>
      let behind := c.advance (xs.length + 1)
      if !behind.next.any fun x => isBlank x || isBreak x then
        some (g.text ++ x :: xs, false, behind)
      else
        match _ : scanGap (some margin) {} behind with
        | none => none
        | some (gap, after) =>
          if !flow && (after.column : Int) < margin then
            some (g.text ++ x :: xs, gap.broken, after)
          else
            (scanPlainFrom flow margin gap after).map fun (text, broken, last) =>
              (g.text ++ x :: xs ++ text, broken, last)
termination_by c.rest.length
decreasing_by
  have bound : (x :: xs).length ≤ c.rest.length := length_le_of_plainWord (by assumption)
  have step : after.rest.length ≤ behind.rest.length := length_le_of_scanGap (by assumption)
  rw [Cursor.length_advance] at step
  rw [List.length_cons] at bound
  omega

def scanPlain (flow : Bool) (margin : Int) (c : Cursor) : Option (List Char × Bool × Cursor) :=
  scanPlainFrom flow margin {} c

end BackendLink.Yaml
