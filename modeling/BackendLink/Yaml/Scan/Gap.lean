import BackendLink.Yaml.Cursor

/-!
# Gaps between the words of a scalar

Blanks between two words of one line belong to the scalar. Where the line breaks, the blanks around
the break are dropped and the break is folded: one line feed becomes a space, further breaks stay.
-/

namespace BackendLink.Yaml

structure Gap where
  /-- Blanks before the first line break. -/
  blanks : List Char := []
  /-- The first line break. -/
  first : List Char := []
  /-- The line breaks behind it. -/
  others : List Char := []
  /-- The line has ended, by a break that counts or by an escaped one. -/
  broken : Bool := false
  deriving DecidableEq, Repr

/-- What a gap contributes to the scalar. -/
def Gap.text (g : Gap) : List Char :=
  if !g.broken then g.blanks
  else if g.first.head? = some '\n' then (if g.others.isEmpty then [' '] else g.others)
  else g.first ++ g.others

/-- Passes blanks and line breaks. With a `margin`, a tab to the left of it is refused on a line of
its own. -/
def scanGap (margin : Option Int) (g : Gap) (c : Cursor) : Option (Gap × Cursor) :=
  match _ : c.rest with
  | [] => some (g, c)
  | x :: _ =>
    if isBlank x then
      if g.broken then
        if x == '\t' && margin.any fun m => (c.column : Int) < m then none
        else scanGap margin g (c.advance 1)
      else scanGap margin { g with blanks := g.blanks ++ [x] } (c.advance 1)
    else if _ : isBreak x then
      if g.broken then scanGap margin { g with others := g.others ++ c.takeBreak.1 } c.skipBreak
      else scanGap margin { g with first := c.takeBreak.1, broken := true } c.skipBreak
    else some (g, c)
termination_by c.rest.length
decreasing_by
  all_goals first
    | exact Cursor.length_advance_lt (by assumption)
    | exact Cursor.length_skipBreak_lt (by assumption) (by assumption)

/-- A gap takes nothing back. -/
theorem length_le_of_scanGap {margin : Option Int} {g gap : Gap} {c after : Cursor}
    (scanned : scanGap margin g c = some (gap, after)) : after.rest.length ≤ c.rest.length := by
  fun_induction scanGap margin g c with
  | case1 g c => injection scanned with same; injection same with _ same; exact same ▸ Nat.le_refl _
  | case2 => contradiction
  | case3 g c x rest here _ _ _ ih =>
    exact Nat.le_trans (ih scanned) (Cursor.length_advance_le 1 c)
  | case4 g c x rest here _ _ ih =>
    exact Nat.le_trans (ih scanned) (Cursor.length_advance_le 1 c)
  | case5 g c x rest here _ _ _ ih =>
    exact Nat.le_trans (ih scanned) (Cursor.length_skipBreak_le c)
  | case6 g c x rest here _ _ _ ih =>
    exact Nat.le_trans (ih scanned) (Cursor.length_skipBreak_le c)
  | case7 g c => injection scanned with same; injection same with _ same; exact same ▸ Nat.le_refl _

/-- A gap that starts with a blank or a break is not empty. -/
theorem length_lt_of_scanGap {margin : Option Int} {g gap : Gap} {c after : Cursor} {x : Char}
    {rest : List Char} (here : c.rest = x :: rest) (starts : (isBlank x || isBreak x) = true)
    (scanned : scanGap margin g c = some (gap, after)) : after.rest.length < c.rest.length := by
  rw [scanGap] at scanned
  split at scanned
  next found => rw [found] at here; contradiction
  next y _ found =>
    rw [found] at here
    injection here with same
    subst same
    split at scanned
    next =>
      have step := Cursor.length_advance_lt (n := 0) found
      split at scanned
      next =>
        split at scanned
        next => contradiction
        next => exact Nat.lt_of_le_of_lt (length_le_of_scanGap scanned) step
      next => exact Nat.lt_of_le_of_lt (length_le_of_scanGap scanned) step
    next notBlank =>
      rw [Bool.eq_false_iff.mpr notBlank, Bool.false_or] at starts
      have step := Cursor.length_skipBreak_lt found starts
      rw [dif_pos starts] at scanned
      split at scanned
      next => exact Nat.lt_of_le_of_lt (length_le_of_scanGap scanned) step
      next => exact Nat.lt_of_le_of_lt (length_le_of_scanGap scanned) step

end BackendLink.Yaml
