import BackendLink.Yaml.Scan
import BackendLink.Yaml.Written

/-!
# Reading off the front of a text

* `Cursor.past` is the cursor behind a text, and `startsToken` says where a token may start.
* The breaks of a printable text are read as they stand (`takeBreak_eq`).
-/

namespace BackendLink.Yaml

@[simp] theorem spaces_zero : spaces 0 = [] := rfl

@[simp] theorem spaces_succ (n : Nat) : spaces (n + 1) = ' ' :: spaces n := rfl

@[simp] theorem length_spaces (n : Nat) : (spaces n).length = n := List.length_replicate

theorem eq_of_mem_spaces {n : Nat} {x : Char} (member : x ∈ spaces n) : x = ' ' :=
  List.eq_of_mem_replicate member

theorem not_isBreak_of_mem_spaces {n : Nat} : ∀ x ∈ spaces n, isBreak x = false := by
  intro x member
  rw [eq_of_mem_spaces member]
  rfl

theorem exists_spaces (text : List Char) :
    ∃ n rest, text = spaces n ++ rest ∧ rest.head? ≠ some ' ' := by
  induction text with
  | nil => exact ⟨0, [], rfl, by simp⟩
  | cons x text ih =>
      by_cases space : x = ' '
      · obtain ⟨n, rest, rfl, head⟩ := ih
        exact ⟨n + 1, rest, by rw [space, spaces_succ, List.cons_append], head⟩
      · exact ⟨0, x :: text, rfl, by simpa using space⟩

theorem spaces_append_cons (n : Nat) (rest : List Char) :
    spaces n ++ ' ' :: rest = ' ' :: (spaces n ++ rest) := by
  induction n with
  | zero => rfl
  | succ n ih => rw [spaces_succ, List.cons_append, ih, List.cons_append]

/-! ## Printable breaks -/

theorem printable_break {x : Char} (printable : isPrintable x = true) (breaks : isBreak x = true) :
    x = '\n' ∨ x = '\u2028' ∨ x = '\u2029' := by
  simp only [isBreak, Bool.or_eq_true, beq_iff_eq] at breaks
  rcases breaks with (((rfl | rfl) | rfl) | rfl) | rfl
  · exact absurd printable (by decide)
  · exact .inl rfl
  · exact absurd printable (by decide)
  · exact .inr (.inl rfl)
  · exact .inr (.inr rfl)

theorem isBlank_iff {x : Char} : isBlank x = true ↔ x = ' ' ∨ x = '\t' := by
  simp [isBlank]

theorem printable_blank {x : Char} (printable : isPrintable x = true) (blank : isBlank x = true) :
    x = ' ' := by
  rcases isBlank_iff.mp blank with rfl | rfl
  · rfl
  · exact absurd printable (by decide)

theorem isAllowed_of_printable {x : Char} (printable : isPrintable x = true) :
    isAllowed x = true := by
  simp only [isPrintable, isAllowed, Bool.or_eq_true, Bool.and_eq_true, beq_iff_eq,
    decide_eq_true_eq] at printable ⊢
  omega

/-! ## Cursors -/

namespace Cursor

/-- The cursor behind a text. -/
def past (c : Cursor) : List Char → Cursor
  | [] => c
  | x :: text =>
    (if isBreak x then ⟨c.rest.drop 1, c.index + 1, c.line + 1, 0⟩ else c.advance 1 : Cursor).past
      text

@[simp] theorem past_nil (c : Cursor) : c.past [] = c := rfl

theorem past_append (c : Cursor) (a b : List Char) : c.past (a ++ b) = (c.past a).past b := by
  induction a generalizing c with
  | nil => rfl
  | cons x a ih => exact ih _

theorem rest_past {c : Cursor} {text rest : List Char} (here : c.rest = text ++ rest) :
    (c.past text).rest = rest := by
  induction text generalizing c with
  | nil => exact here
  | cons x text ih =>
      refine ih ?_
      split <;> simp [advance, here]

theorem advance_eq_past {word : List Char} (line : ∀ x ∈ word, isBreak x = false) (c : Cursor) :
    c.advance word.length = c.past word := by
  induction word generalizing c with
  | nil => rfl
  | cons x word ih =>
      rw [past, line x List.mem_cons_self, if_neg (by decide),
        ← ih (fun y member => line y (List.mem_cons_of_mem x member))]
      simp only [advance, List.length_cons, List.drop_drop, Nat.add_comm word.length 1,
        Nat.add_assoc]

theorem column_past {word : List Char} (line : ∀ x ∈ word, isBreak x = false) (c : Cursor) :
    (c.past word).column = c.column + word.length := by
  rw [← advance_eq_past line]
  rfl

theorem column_past_break {x : Char} {word : List Char} (breaks : isBreak x = true)
    (line : ∀ y ∈ word, isBreak y = false) (c : Cursor) (text : List Char) :
    (c.past (text ++ x :: word)).column = word.length := by
  rw [past_append, past, breaks, if_pos rfl, column_past line, Nat.zero_add]

/-- The indentation behind the last break. -/
theorem column_past_line {x : Char} (breaks : isBreak x = true) (c : Cursor) (text : List Char)
    (n : Nat) : (c.past (text ++ x :: spaces n)).column = n := by
  rw [column_past_break breaks not_isBreak_of_mem_spaces, length_spaces]

theorem column_past_breaks {x : Char} {breaks : List Char}
    (all : (x :: breaks).all isBreak = true) (c : Cursor) (n : Nat) :
    (c.past (x :: breaks ++ spaces n)).column = n := by
  induction breaks generalizing x c with
  | nil =>
      have here : isBreak x = true := by simpa using all
      exact column_past_line here c [] n
  | cons y breaks ih => exact ih (Bool.and_eq_true_iff.mp all).2 _

/-- From the start of a line over empty lines to the indentation of another one. -/
theorem column_past_indent {c : Cursor} {breaks : List Char} (all : breaks.all isBreak = true)
    (start : c.column = 0) (n : Nat) : (c.past (breaks ++ spaces n)).column = n := by
  cases breaks with
  | nil =>
      rw [List.nil_append, column_past not_isBreak_of_mem_spaces, start, length_spaces, Nat.zero_add]
  | cons x breaks => exact column_past_breaks all c n

theorem column_past_space (c : Cursor) : (c.past [' ']).column = c.column + 1 := rfl

theorem takeBreak_eq {c : Cursor} {x : Char} {rest : List Char} (here : c.rest = x :: rest)
    (printable : isPrintable x = true) (breaks : isBreak x = true) :
    c.takeBreak = ([x], c.past [x]) := by
  unfold takeBreak
  rcases printable_break printable breaks with rfl | rfl | rfl
  all_goals simp [here, past, isBreak]

theorem skipBreak_eq {c : Cursor} {x : Char} {rest : List Char} (here : c.rest = x :: rest)
    (printable : isPrintable x = true) (breaks : isBreak x = true) :
    c.skipBreak = c.past [x] := by
  rw [skipBreak, takeBreak_eq here printable breaks]

theorem not_atMarker {c : Cursor} {x mark : Char} {rest : List Char} (here : c.rest = x :: rest)
    (other : x ≠ mark) : c.atMarker mark = false := by
  unfold atMarker
  rw [here]
  rcases rest with _ | ⟨y, _ | ⟨z, rest⟩⟩ <;> simp [other]

theorem not_atDocumentMarker {c : Cursor} (inside : 0 < c.column) : c.atDocumentMarker = false := by
  simp [atDocumentMarker, atMarker, Nat.ne_of_gt inside]

theorem not_atMarker_space (c : Cursor) (mark : Char) : (c.past [' ']).atMarker mark = false := by
  simp [atMarker, column_past_space]

end Cursor

/-! ## Gaps -/

/-- The text does not go on with a blank or a break. -/
def endsGap (text : List Char) : Bool := text.head?.all fun x => !isBlank x && !isBreak x

section Gap

variable {margin : Option Int} {g : Gap} {c : Cursor} {rest : List Char}

theorem scanGap_end (ends : endsGap c.rest = true) : scanGap margin g c = some (g, c) := by
  rw [scanGap]
  split
  · rfl
  · rename_i x more here
    simp only [here, endsGap, List.head?_cons, Option.all_some, Bool.and_eq_true, Bool.not_eq_true']
      at ends
    simp [ends]

theorem scanGap_space (here : c.rest = ' ' :: rest) : scanGap margin g c =
    scanGap margin { g with blanks := if g.broken then g.blanks else g.blanks ++ [' '] }
      (c.past [' ']) := by
  rw [scanGap]
  split
  · rename_i none
    rw [none] at here
    cases here
  · rename_i x more found
    rw [found] at here
    cases here
    obtain ⟨blanks, first, others, broken⟩ := g
    cases broken <;> rfl

theorem scanGap_spaces {n : Nat} (here : c.rest = spaces n ++ rest) (ends : endsGap rest = true) :
    scanGap margin g c =
      some ({ g with blanks := if g.broken then g.blanks else g.blanks ++ spaces n },
        c.past (spaces n)) := by
  induction n generalizing g c with
  | zero =>
      rw [scanGap_end (by simpa [here] using ends)]
      simp
  | succ n ih =>
      rw [scanGap_space here, ih (@Cursor.rest_past _ [' '] _ here)]
      cases broken : g.broken <;> simp [Cursor.past]

theorem scanGap_break {x : Char} (here : c.rest = x :: rest) (printable : isPrintable x = true)
    (breaks : isBreak x = true) : scanGap margin g c =
      scanGap margin (if g.broken then { g with others := g.others ++ [x] }
        else { g with first := [x], broken := true }) (c.past [x]) := by
  have blank : isBlank x = false := by
    rcases printable_break printable breaks with rfl | rfl | rfl <;> rfl
  rw [scanGap]
  split
  · rename_i none
    rw [none] at here
    cases here
  · rename_i y more found
    rw [found] at here
    cases here
    simp only [blank, breaks, Bool.false_eq_true, if_false, dif_pos,
      Cursor.takeBreak_eq found printable breaks, Cursor.skipBreak_eq found printable breaks]
    split <;> simp_all

theorem scanGap_breaks {breaks : List Char} {n : Nat} (here : c.rest = breaks ++ (spaces n ++ rest))
    (ends : endsGap rest = true) (printable : breaks.all isPrintable = true)
    (all : breaks.all isBreak = true) (broken : g.broken = true) :
    scanGap margin g c =
      some ({ g with others := g.others ++ breaks }, c.past (breaks ++ spaces n)) := by
  induction breaks generalizing g c with
  | nil =>
      rw [scanGap_spaces here ends, broken, if_pos rfl, List.append_nil]
      simp [← broken]
  | cons x breaks ih =>
      simp only [List.all_cons, Bool.and_eq_true] at printable all
      rw [scanGap_break here printable.1 all.1, broken, if_pos rfl,
        ih (@Cursor.rest_past _ [x] _ here) printable.2 all.2 rfl]
      simp [Cursor.past]

theorem scanGap_lines {x : Char} {breaks : List Char} {n : Nat}
    (here : c.rest = x :: breaks ++ (spaces n ++ rest)) (ends : endsGap rest = true)
    (printable : (x :: breaks).all isPrintable = true) (all : (x :: breaks).all isBreak = true) :
    scanGap margin {} c = some ({ first := [x], others := breaks, broken := true },
      c.past (x :: breaks ++ spaces n)) := by
  simp only [List.all_cons, Bool.and_eq_true] at printable all
  rw [scanGap_break here printable.1 all.1, if_neg (by decide),
    scanGap_breaks (@Cursor.rest_past _ [x] _ here) ends printable.2 all.2 rfl]
  rfl

end Gap

end BackendLink.Yaml
