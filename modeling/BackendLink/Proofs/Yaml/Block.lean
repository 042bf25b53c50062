import BackendLink.Proofs.Yaml.Cursor

/-!
# Literal blocks are read back

A text of printable characters is a run of breaks, or lines with runs of breaks before, between and
behind them. A block keeps all of it: the breaks of empty lines stand for themselves, and the mark
says what becomes of those at the end.
-/

namespace BackendLink.Yaml

structure IsLine (line : List Char) : Prop where
  ne_nil : line ≠ []
  printable : ∀ x ∈ line, isPrintable x = true
  not_break : ∀ x ∈ line, isBreak x = false

structure AreBreaks (breaks : List Char) : Prop where
  printable : breaks.all isPrintable = true
  all : breaks.all isBreak = true

/-- Lines with breaks between them. -/
inductive Lines : List Char → Prop
  | last {line : List Char} (isLine : IsLine line) : Lines line
  | more {line text : List Char} {x : Char} {breaks : List Char} (isLine : IsLine line)
      (areBreaks : AreBreaks (x :: breaks)) (later : Lines text) :
      Lines (line ++ (x :: breaks ++ text))

inductive Literal : List Char → Prop
  | breaks {front : List Char} (areBreaks : AreBreaks front) : Literal front
  | lines {front text last : List Char} (before : AreBreaks front) (lines : Lines text)
      (behind : AreBreaks last) : Literal (front ++ (text ++ last))

theorem AreBreaks.nil : AreBreaks [] := ⟨rfl, rfl⟩

theorem AreBreaks.cons {x : Char} {breaks : List Char} (areBreaks : AreBreaks breaks)
    (printable : isPrintable x = true) (isBreak : isBreak x = true) : AreBreaks (x :: breaks) where
  printable := by rw [List.all_cons, printable, areBreaks.printable]; rfl
  all := by rw [List.all_cons, isBreak, areBreaks.all]; rfl

theorem AreBreaks.tail {x : Char} {breaks : List Char} (areBreaks : AreBreaks (x :: breaks)) :
    AreBreaks breaks where
  printable := (Bool.and_eq_true_iff.mp areBreaks.printable).2
  all := (Bool.and_eq_true_iff.mp areBreaks.all).2

theorem IsLine.single {x : Char} (printable : isPrintable x = true) (not_break : isBreak x = false) :
    IsLine [x] :=
  ⟨List.cons_ne_nil x [], by simpa using printable, by simpa using not_break⟩

theorem Lines.cons {x : Char} {text : List Char} (lines : Lines text)
    (printable : isPrintable x = true) (not_break : isBreak x = false) : Lines (x :: text) := by
  have longer {line : List Char} (isLine : IsLine line) : IsLine (x :: line) :=
    ⟨List.cons_ne_nil x line, by simpa using ⟨printable, isLine.printable⟩,
      by simpa using ⟨not_break, isLine.not_break⟩⟩
  cases lines with
  | last isLine => exact .last (longer isLine)
  | more isLine areBreaks later => exact .more (longer isLine) areBreaks later

theorem literal_of_printable {text : List Char} (printable : text.all isPrintable = true) :
    Literal text := by
  induction text with
  | nil => exact .breaks .nil
  | cons x text ih =>
      obtain ⟨here, printable⟩ := Bool.and_eq_true_iff.mp (List.all_cons ▸ printable)
      cases breaks : isBreak x with
      | true =>
          cases ih printable with
          | breaks areBreaks => exact .breaks (areBreaks.cons here breaks)
          | lines before lines behind => exact .lines (before.cons here breaks) lines behind
      | false =>
          cases ih printable with
          | breaks areBreaks => exact .lines .nil (.last (.single here breaks)) areBreaks
          | @lines front text last before lines behind =>
              cases front with
              | nil => exact .lines .nil (lines.cons here breaks) behind
              | cons y front =>
                  have text := Literal.lines .nil (.more (.single here breaks) before lines) behind
                  simpa using text

/-! ## Empty lines and indentation -/

section Scan

variable {n m : Nat} {c : Cursor} {rest : List Char}

/-- What stands behind an indentation that was passed. -/
def startsLine (text : List Char) : Bool := text.head?.all fun x => !isBreak x && x != '\t'

theorem skipIndent_eq {indent : Option Nat} (column : c.column = 0)
    (here : c.rest = spaces m ++ rest) (fits : indent.all (m ≤ ·) = true)
    (ends : rest.head? ≠ some ' ' ∨ indent = some m) :
    skipIndent indent c = c.past (spaces m) := by
  have past : c.advance m = c.past (spaces m) := by
    simpa using Cursor.advance_eq_past (@not_isBreak_of_mem_spaces m) c
  have run : c.rest.takeWhile (· == ' ') = spaces m ++ rest.takeWhile (· == ' ') := by
    rw [here, List.takeWhile_append_of_pos]
    intro x member
    simpa using eq_of_mem_spaces member
  have stop : rest.head? ≠ some ' ' → rest.takeWhile (· == ' ') = [] := by
    intro head
    cases rest with
    | nil => rfl
    | cons x rest => simpa [List.takeWhile_cons] using head
  rw [← past, skipIndent, run, column]
  congr 1
  cases indent with
  | none =>
      rcases ends with ends | same
      · simp [stop ends]
      · cases same
  | some n =>
      have fits : m ≤ n := by simpa using fits
      rcases ends with ends | same
      · simp [stop ends, Nat.min_eq_left fits]
      · cases same
        simp

theorem scanEmptyLines_eq {indent : Option Nat} {breaks acc : List Char} {widest : Nat}
    (areBreaks : AreBreaks breaks) (column : c.column = 0)
    (here : c.rest = breaks ++ (spaces m ++ rest)) (fits : indent.all (m ≤ ·) = true)
    (ends : rest.head? ≠ some ' ' ∨ indent = some m) (starts : startsLine rest = true) :
    scanEmptyLines indent acc widest c =
      some (acc ++ breaks, max widest m, c.past (breaks ++ spaces m)) := by
  induction breaks generalizing acc widest c with
  | nil =>
      have skipped := skipIndent_eq column here fits ends
      have behind : (skipIndent indent c).rest = rest := by
        rw [skipped]
        exact Cursor.rest_past here
      have wide : (c.past (spaces m)).column = m := @Cursor.column_past_indent c [] rfl column m
      rw [scanEmptyLines]
      split
      · simp [skipped, wide]
      · rename_i x more found
        rw [behind] at found
        simp only [startsLine, found, List.head?_cons, Option.all_some, Bool.and_eq_true,
          Bool.not_eq_true', bne_iff_ne] at starts
        simp [starts, skipped, wide]
  | cons x breaks ih =>
      obtain ⟨printable, -⟩ := Bool.and_eq_true_iff.mp areBreaks.printable
      obtain ⟨isBreak, -⟩ := Bool.and_eq_true_iff.mp areBreaks.all
      have here : c.rest = x :: (breaks ++ (spaces m ++ rest)) := here
      have other : x ≠ ' ' ∧ x ≠ '\t' := by
        constructor <;> rintro rfl <;> cases isBreak
      have skipped : skipIndent indent c = c :=
        @skipIndent_eq 0 c _ indent column here (by cases indent <;> simp)
          (.inl (by simpa using other.1))
      have start : (c.past [x]).column = 0 := by simp [Cursor.past, isBreak]
      rw [scanEmptyLines]
      split
      · rename_i none
        rw [skipped, here] at none
        cases none
      · rename_i y more found
        rw [skipped, here] at found
        cases found
        simp only [skipped, other.2, isBreak, column, beq_iff_eq, Bool.and_eq_true, false_and,
          if_false, dif_pos, Cursor.takeBreak_eq here printable isBreak,
          Cursor.skipBreak_eq here printable isBreak, Nat.max_zero]
        rw [ih areBreaks.tail start (@Cursor.rest_past c [x] _ here)]
        simp [Cursor.past]

/-! ## Lines -/

theorem scanBlockLines_end {first others : List Char} {blank : Bool} (other : c.column ≠ n) :
    scanBlockLines true n first others blank c = some ([], first, others, c) := by
  rw [scanBlockLines]
  split
  · rfl
  · simp [other]

theorem scanBlockLines_line {line breaks : List Char} {x : Char} {first others : List Char}
    {blank : Bool} (isLine : IsLine line) (areBreaks : AreBreaks (x :: breaks))
    (column : c.column = n) (here : c.rest = line ++ (x :: breaks ++ (spaces m ++ rest)))
    (fits : m ≤ n) (ends : rest.head? ≠ some ' ' ∨ n = m) (starts : startsLine rest = true) :
    ∃ blank', scanBlockLines true n first others blank c =
      (scanBlockLines true n [x] breaks blank' (c.past (line ++ (x :: breaks ++ spaces m)))).map
        fun (text, rest) => (first ++ others ++ line ++ text, rest) := by
  obtain ⟨y, more, rfl⟩ := List.exists_cons_of_ne_nil isLine.ne_nil
  obtain ⟨printable, -⟩ := Bool.and_eq_true_iff.mp areBreaks.printable
  obtain ⟨isBreak', -⟩ := Bool.and_eq_true_iff.mp areBreaks.all
  have taken : c.rest.takeWhile (fun x => !isBreak x) = y :: more := by
    rw [here, List.takeWhile_append_of_pos (fun z member => by simp [isLine.not_break z member])]
    simp [isBreak']
  have past : c.advance (y :: more).length = c.past (y :: more) :=
    Cursor.advance_eq_past isLine.not_break c
  have behind := Cursor.rest_past here
  have break' := Cursor.takeBreak_eq behind printable isBreak'
  have line : skipLine c = (c.past (y :: more)).past [x] := by
    rw [skipLine, Cursor.advanceWhile, taken, past, Cursor.skipBreak, break']
  have start : ((c.past (y :: more)).past [x]).column = 0 := by simp [Cursor.past, isBreak']
  have empty := @scanEmptyLines_eq m _ rest (some n) breaks [] 0 areBreaks.tail start
    (@Cursor.rest_past _ [x] _ behind) (by simpa using fits) (by simpa using ends) starts
  refine ⟨isBlank y, ?_⟩
  rw [scanBlockLines]
  split
  · rename_i none
    rw [here] at none
    cases none
  · rename_i z rest found
    rw [here] at found
    cases found
    rw [if_neg (by simp [column])]
    rw [← line] at empty
    simp only [Bool.not_true, Bool.false_and, Bool.false_eq_true, if_false, taken, past, break']
    split
    · rename_i none
      rw [none] at empty
      cases empty
    · rename_i found
      rw [found] at empty
      cases empty
      rw [line, ← Cursor.past_append, ← Cursor.past_append]
      simp

theorem literalLines_line {line : List Char} (line' : ∀ x ∈ line, isBreak x = false)
    (text : List Char) : literalLines n false (line ++ text) = line ++ literalLines n false text := by
  induction line with
  | nil => rfl
  | cons x line ih =>
      simp only [List.forall_mem_cons] at line'
      simp [literalLines, line'.1, ih line'.2]

theorem literalLines_breaks {breaks : List Char} (all : breaks.all isBreak = true)
    (text : List Char) :
    literalLines n true (breaks ++ text) = breaks ++ literalLines n true text := by
  induction breaks with
  | nil => rfl
  | cons x breaks ih =>
      simp only [List.all_cons, Bool.and_eq_true] at all
      simp [literalLines, all.1, ih all.2]

theorem literalLines_break {x : Char} {breaks : List Char} (all : (x :: breaks).all isBreak = true)
    (lineStart : Bool) (text : List Char) :
    literalLines n lineStart (x :: breaks ++ text) = x :: breaks ++ literalLines n true text := by
  simp only [List.all_cons, Bool.and_eq_true] at all
  simp [literalLines, all.1, literalLines_breaks all.2]

theorem Lines.exists_cons {text : List Char} (lines : Lines text) :
    ∃ x rest, text = x :: rest ∧ isPrintable x = true ∧ isBreak x = false := by
  have front {line : List Char} (isLine : IsLine line) (rest : List Char) :
      ∃ x more, line ++ rest = x :: more ∧ isPrintable x = true ∧ isBreak x = false := by
    obtain ⟨x, more, rfl⟩ := List.exists_cons_of_ne_nil isLine.ne_nil
    exact ⟨x, more ++ rest, rfl, isLine.printable x List.mem_cons_self,
      isLine.not_break x List.mem_cons_self⟩
  cases lines with
  | last isLine => simpa using front isLine []
  | more isLine areBreaks later => exact front isLine _

theorem Lines.literalLines_start {text : List Char} (lines : Lines text) (rest : List Char) :
    literalLines n true (text ++ rest) = spaces n ++ literalLines n false (text ++ rest) := by
  obtain ⟨x, more, rfl, -, not_break⟩ := lines.exists_cons
  simp [literalLines, not_break]

theorem Lines.startsLine {text : List Char} (lines : Lines text) (rest : List Char) :
    Yaml.startsLine (literalLines n false text ++ rest) = true := by
  obtain ⟨x, more, rfl, printable, not_break⟩ := lines.exists_cons
  have tab : x ≠ '\t' := by
    rintro rfl
    revert printable
    decide
  simp [literalLines, not_break, Yaml.startsLine, tab]

theorem scanBlockLines_lines {text breaks : List Char} {x : Char} (lines : Lines text)
    (behind : AreBreaks (x :: breaks)) {first others : List Char} {blank : Bool}
    (column : c.column = n)
    (here : c.rest = literalLines n false text ++ (x :: breaks ++ (spaces m ++ rest)))
    (left : m < n) (ends : rest.head? ≠ some ' ') (starts : startsLine rest = true) :
    scanBlockLines true n first others blank c = some (first ++ others ++ text, [x], breaks,
      c.past (literalLines n false text ++ (x :: breaks ++ spaces m))) := by
  induction lines generalizing c first others blank with
  | @last line isLine =>
      have row := @literalLines_line n line isLine.not_break []
      simp only [List.append_nil, literalLines] at row
      rw [row] at here ⊢
      obtain ⟨blank', read⟩ := @scanBlockLines_line n m c rest line breaks x first others blank
        isLine behind column here (Nat.le_of_lt left) (.inl ends) starts
      have other : (c.past (line ++ (x :: breaks ++ spaces m))).column ≠ n := by
        rw [Cursor.past_append, Cursor.column_past_breaks behind.all]
        exact Nat.ne_of_lt left
      rw [read, scanBlockLines_end other]
      simp
  | @more line text y between isLine areBreaks later ih =>
      have row : literalLines n false (line ++ (y :: between ++ text)) =
          line ++ (y :: between ++ (spaces n ++ literalLines n false text)) := by
        have start := @Lines.literalLines_start n text later []
        simp only [List.append_nil] at start
        rw [literalLines_line isLine.not_break, literalLines_break areBreaks.all, start]
      rw [row] at here ⊢
      have here : c.rest = line ++ (y :: between ++ (spaces n ++
          (literalLines n false text ++ (x :: breaks ++ (spaces m ++ rest))))) := by
        simpa using here
      obtain ⟨blank', read⟩ := @scanBlockLines_line n n c _ line between y first others blank
        isLine areBreaks column here (Nat.le_refl n) (.inr rfl) (later.startsLine _)
      have column' : (c.past (line ++ (y :: between ++ spaces n))).column = n := by
        rw [Cursor.past_append, Cursor.column_past_breaks areBreaks.all]
      have behind : (c.past (line ++ (y :: between ++ spaces n))).rest =
          literalLines n false text ++ (x :: breaks ++ (spaces m ++ rest)) := by
        refine Cursor.rest_past ?_
        simpa using here
      rw [read, ih column' behind, ← Cursor.past_append]
      simp

theorem literalLines_append {last : List Char} (all : last.all isBreak = true) (lineStart : Bool)
    (text : List Char) :
    literalLines n lineStart (text ++ last) = literalLines n lineStart text ++ last := by
  induction text generalizing lineStart with
  | nil =>
      cases last with
      | nil => rfl
      | cons x last => simpa [literalLines] using literalLines_break (n := n) all lineStart []
  | cons x text ih =>
      cases breaks : isBreak x <;> simp [literalLines, breaks, ih]

/-! ## The mark -/

/-- What a mark asks for. -/
def chompingOf : List Char → Chomping
  | ['-'] => .strip
  | ['+'] => .keep
  | _ => .clip

theorem chomping_cases (text : List Char) :
    chomping text = ['-'] ∨ chomping text = ['+'] ∨ chomping text = [] := by
  unfold chomping
  split <;> (repeat' split) <;> simp

theorem scanIndicators_eq {named : Bool} {mark : List Char}
    (cases : mark = ['-'] ∨ mark = ['+'] ∨ mark = [])
    (here : c.rest = (if named then ['2'] else []) ++ mark ++ '\n' :: rest) :
    scanIndicators c = some (chompingOf mark, if named then some 2 else none,
      c.past ((if named then ['2'] else []) ++ mark)) := by
  rcases cases with rfl | rfl | rfl <;> cases named <;>
    simp [scanIndicators, Cursor.next, here, chomping?, increment?, Cursor.advance, Cursor.past,
      isBreak, chompingOf]

theorem skipLineEnd_eq (here : c.rest = '\n' :: rest) : skipLineEnd c = some (c.past ['\n']) := by
  have stays : c.advanceWhile isBlank = c := by
    rw [Cursor.advanceWhile, here]
    rfl
  have next : c.next = some '\n' := by rw [Cursor.next, here]; rfl
  have comment : c.skipComment = c := by simp [Cursor.skipComment, next]
  rw [skipLineEnd, stays, comment, next, Cursor.skipBreak_eq here rfl rfl]
  rfl

theorem Lines.exists_last {text : List Char} (lines : Lines text) :
    ∃ front x, text = front ++ [x] ∧ isBreak x = false := by
  induction lines with
  | @last line isLine =>
      obtain ⟨front, x, same⟩ := (List.eq_nil_or_concat line).resolve_left isLine.ne_nil
      rw [List.concat_eq_append] at same
      exact ⟨front, x, same, isLine.not_break x (by simp [same])⟩
  | @more line text y between isLine areBreaks later ih =>
      obtain ⟨front, x, rfl, not_break⟩ := ih
      exact ⟨line ++ (y :: between ++ front), x, by simp, not_break⟩

theorem chomping_concat (text : List Char) {x : Char} (not_break : isBreak x = false) :
    chomping (text ++ [x]) = ['-'] := by
  unfold chomping
  rw [List.reverse_append, List.reverse_singleton, List.singleton_append]
  cases text.reverse <;> simp [not_break]

theorem chomping_concat_break (text : List Char) {x y : Char} (breaks : isBreak y = true) :
    chomping (text ++ [x, y]) = if isBreak x then ['+'] else [] := by
  simp [chomping, breaks]

theorem exists_concat₂ {α : Type} (a b : α) (l : List α) :
    ∃ front x y, a :: b :: l = front ++ [x, y] := by
  induction l generalizing a b with
  | nil => exact ⟨[], a, b, rfl⟩
  | cons c l ih =>
      obtain ⟨front, x, y, same⟩ := ih b c
      exact ⟨a :: front, x, y, by rw [same, List.cons_append]⟩

theorem chomping_breaks (front : List Char) {x y : Char} {rest : List Char}
    (all : (x :: y :: rest).all isBreak = true) : chomping (front ++ x :: y :: rest) = ['+'] := by
  obtain ⟨more, a, b, same⟩ := exists_concat₂ x y rest
  rw [same] at all ⊢
  simp only [List.all_append, List.all_cons, Bool.and_eq_true] at all
  rw [← List.append_assoc, chomping_concat_break _ all.2.2.1, if_pos all.2.1]

theorem chomping_only {x : Char} {breaks : List Char} (all : (x :: breaks).all isBreak = true) :
    chomping (x :: breaks) = ['+'] := by
  cases breaks with
  | nil =>
      have breaks : isBreak x = true := by simpa using all
      simp [chomping, breaks]
  | cons y rest => exact chomping_breaks [] all

theorem any_getLast?_breaks (front : List Char) {x : Char} {breaks : List Char}
    (all : (x :: breaks).all isBreak = true) :
    (front ++ x :: breaks).getLast?.any isBreak = true := by
  obtain ⟨more, z, same⟩ := (List.eq_nil_or_concat (x :: breaks)).resolve_left (by simp)
  rw [List.concat_eq_append] at same
  rw [same] at all ⊢
  rw [← List.append_assoc, List.getLast?_concat]
  simp only [List.all_append, List.all_cons, Bool.and_eq_true] at all
  simpa using all.2.1

/-- What is kept of the break that ends the last line and of those behind it. -/
def kept (x : Char) (breaks : List Char) : Chomping → List Char
  | .strip => []
  | .clip => [x]
  | .keep => x :: breaks

/-- A last line that has no break is ended by a line feed, and the mark takes that away. -/
theorem kept_lines (front : List Char) {text last : List Char} (lines : Lines text)
    (behind : AreBreaks last) :
    ∃ x breaks, AreBreaks (x :: breaks) ∧
      last ++ (if (front ++ (text ++ last)).getLast?.any isBreak then [] else ['\n']) =
        x :: breaks ∧
      kept x breaks (chompingOf (chomping (front ++ (text ++ last)))) = last := by
  obtain ⟨more, z, rfl, not_break⟩ := lines.exists_last
  match last with
  | [] =>
      refine ⟨'\n', [], ⟨rfl, rfl⟩, by simp [not_break], ?_⟩
      rw [List.append_nil, ← List.append_assoc, chomping_concat _ not_break]
      rfl
  | [x] =>
      have breaks : isBreak x = true := by simpa using behind.all
      refine ⟨x, [], behind, by simp [breaks], ?_⟩
      rw [List.append_assoc, ← List.append_assoc, List.singleton_append,
        chomping_concat_break _ breaks, if_neg (by simp [not_break])]
      rfl
  | x :: y :: rest =>
      refine ⟨x, y :: rest, behind, ?_, ?_⟩
      · rw [← List.append_assoc, if_pos (any_getLast?_breaks _ behind.all), List.append_nil]
      · rw [← List.append_assoc, chomping_breaks _ behind.all]
        rfl

/-! ## A block -/

/-- The lines of a block, with the break that ends the last of them. -/
def blockLines (n : Nat) (text : List Char) : List Char :=
  literalLines n true text ++ if text.getLast?.any isBreak then [] else ['\n']

theorem exists_last_blockLines {text : List Char} (nonempty : text ≠ []) :
    ∃ front x, blockLines n text = front ++ [x] ∧ isBreak x = true := by
  obtain ⟨front, x, same⟩ := (List.eq_nil_or_concat text).resolve_left nonempty
  rw [List.concat_eq_append] at same
  subst same
  rw [blockLines, List.getLast?_concat, Option.any_some]
  cases breaks : isBreak x with
  | true =>
      have row := @literalLines_append n [x] (by simpa using breaks) true front
      exact ⟨literalLines n true front, x, by simpa using row, breaks⟩
  | false => exact ⟨_, '\n', rfl, rfl⟩

/-- What is read of a block behind the line of its mark: the empty lines in front, the indentation and
then the lines, which with the breaks that are kept are `text`. -/
def ReadsBody (given : Option Nat) (i : Nat) (text : List Char) (c behind : Cursor) : Prop :=
  ∃ breaks widest body lines last others,
    scanEmptyLines given [] 0 c = some (breaks, widest, body) ∧
    given.getD (max widest (max ((i : Int) + 1).toNat 1)) = i + 2 ∧
    scanBlockLines true (i + 2) [] breaks false body = some (lines, last, others, behind) ∧
    lines ++ (match chompingOf (chomping text) with
      | .strip => []
      | .clip => last
      | .keep => last ++ others) = text

theorem blockLines_breaks {x : Char} {more : List Char} (all : (x :: more).all isBreak = true) :
    blockLines n (x :: more) = x :: more := by
  have whole := @literalLines_append n _ all true []
  have ends := any_getLast?_breaks [] all
  rw [List.nil_append] at whole ends
  rw [blockLines, whole, if_pos ends, List.append_nil]
  rfl

theorem readsBody_breaks {x : Char} {more : List Char} {i : Nat} (areBreaks : AreBreaks (x :: more))
    (column : c.column = 0) (here : c.rest = x :: more ++ (spaces m ++ rest)) (left : m ≤ i)
    (ends : rest.head? ≠ some ' ') (starts : startsLine rest = true) :
    ReadsBody (some (i + 2)) i (x :: more) c (c.past (x :: more ++ spaces m)) := by
  have other : (c.past (x :: more ++ spaces m)).column ≠ i + 2 := by
    rw [Cursor.column_past_breaks areBreaks.all]
    omega
  refine ⟨_, _, _, _, _, _, scanEmptyLines_eq areBreaks column here (by simp; omega) (.inl ends)
    starts, rfl, scanBlockLines_end other, ?_⟩
  rw [chomping_only areBreaks.all]
  rfl

theorem readsBody_lines {front text last : List Char} {i : Nat} {given : Option Nat}
    (before : AreBreaks front) (lines : Lines text) (behind : AreBreaks last)
    (column : c.column = 0)
    (here : c.rest = blockLines (i + 2) (front ++ (text ++ last)) ++ (spaces m ++ rest))
    (left : m ≤ i) (ends : rest.head? ≠ some ' ') (starts : startsLine rest = true)
    (known : given = some (i + 2) ∨ given = none ∧
      (front ++ (text ++ last)).head?.any (fun x => isSpace x || isBreak x) = false) :
    ReadsBody given i (front ++ (text ++ last)) c
      (c.past (blockLines (i + 2) (front ++ (text ++ last)) ++ spaces m)) := by
  obtain ⟨x, breaks, ended, close, keeps⟩ := kept_lines front lines behind
  have row : blockLines (i + 2) (front ++ (text ++ last)) =
      front ++ (spaces (i + 2) ++ (literalLines (i + 2) false text ++ x :: breaks)) := by
    rw [blockLines, literalLines_breaks before.all, lines.literalLines_start,
      literalLines_append behind.all, ← close]
    simp
  have atLine : given.all (i + 2 ≤ ·) = true ∧
      ((literalLines (i + 2) false text ++ (x :: breaks ++ (spaces m ++ rest))).head? ≠ some ' ' ∨
        given = some (i + 2)) := by
    rcases known with rfl | ⟨rfl, head⟩
    · simp
    · obtain ⟨y, more, rfl, -, not_break⟩ := lines.exists_cons
      cases front with
      | nil =>
          have space : y ≠ ' ' := by
            rintro rfl
            cases head
          simp [literalLines, not_break, space]
      | cons z front =>
          have breaks := before.all
          simp_all
  have here' : c.rest = front ++ (spaces (i + 2) ++
      (literalLines (i + 2) false text ++ (x :: breaks ++ (spaces m ++ rest)))) := by
    rw [here, row]
    simp
  have empty := @scanEmptyLines_eq _ _ _ _ _ [] 0 before column here' atLine.1 atLine.2
    (lines.startsLine _)
  have start := Cursor.column_past_indent before.all column (i + 2)
  rw [← List.append_assoc] at here'
  have read := @scanBlockLines_lines _ _ _ _ _ _ _ lines ended [] front false start
    (Cursor.rest_past here') (by omega) ends starts
  refine ⟨_, _, _, front ++ text, [x], breaks, empty, ?_, ?_, ?_⟩
  · cases given with
    | none =>
        simp only [Option.getD_none]
        omega
    | some n => simpa using known
  · rw [List.nil_append, read, row, ← Cursor.past_append]
    simp
  · rw [List.append_assoc]
    exact congrArg (front ++ ·) (congrArg (text ++ ·) keeps)

theorem readsBody {text : List Char} {i : Nat} {given : Option Nat} (nonempty : text ≠ [])
    (printable : text.all isPrintable = true) (column : c.column = 0)
    (here : c.rest = blockLines (i + 2) text ++ (spaces m ++ rest)) (left : m ≤ i)
    (ends : rest.head? ≠ some ' ') (starts : startsLine rest = true)
    (known : given = some (i + 2) ∨
      given = none ∧ text.head?.any (fun x => isSpace x || isBreak x) = false) :
    ReadsBody given i text c (c.past (blockLines (i + 2) text ++ spaces m)) := by
  cases literal_of_printable printable with
  | breaks areBreaks =>
      obtain ⟨x, more, rfl⟩ := List.exists_cons_of_ne_nil nonempty
      obtain ⟨isBreak', -⟩ := Bool.and_eq_true_iff.mp areBreaks.all
      obtain rfl : given = some (i + 2) := by
        refine known.resolve_right fun unknown => ?_
        simp [isBreak'] at unknown
      rw [blockLines_breaks areBreaks.all] at here ⊢
      exact readsBody_breaks areBreaks column here left ends starts
  | lines before lines behind =>
      exact readsBody_lines before lines behind column here left ends starts known

theorem scanBlock_eq {text : List Char} {i : Nat} (nonempty : text ≠ [])
    (printable : text.all isPrintable = true)
    (here : c.rest = literalMark text ++ '\n' :: (blockLines (i + 2) text ++ (spaces m ++ rest)))
    (left : m ≤ i) (ends : endsGap rest = true) :
    scanBlock true i c =
      some (text, c.past (literalMark text ++ '\n' :: (blockLines (i + 2) text ++ spaces m))) := by
  have notSpace : rest.head? ≠ some ' ' ∧ startsLine rest = true := by
    cases rest with
    | nil => exact ⟨by simp, rfl⟩
    | cons x rest => simp_all [endsGap, startsLine, isBlank]
  let named := text.head?.any fun x => isSpace x || isBreak x
  let mark := (if named then ['2'] else []) ++ chomping text
  have here : c.rest = ['|'] ++ (mark ++ ('\n' ::
      (blockLines (i + 2) text ++ (spaces m ++ rest)))) := by
    simpa [literalMark, mark, named] using here
  have behind := Cursor.rest_past here
  have indicators : scanIndicators (c.past ['|']) = some (chompingOf (chomping text),
      if named then some 2 else none, (c.past ['|']).past mark) :=
    scanIndicators_eq (chomping_cases text) behind
  have line := skipLineEnd_eq (Cursor.rest_past behind)
  have start := @Cursor.rest_past _ ['\n'] _ (Cursor.rest_past behind)
  have column : (((c.past ['|']).past mark).past ['\n']).column = 0 := rfl
  have known : (if named then some (i + 2) else none : Option Nat) = some (i + 2) ∨
      (if named then some (i + 2) else none : Option Nat) = none ∧ named = false := by
    cases named <;> simp
  obtain ⟨breaks, widest, body, lines, last, others, empty, wide, read, whole⟩ :=
    readsBody nonempty printable column start left notSpace.1 notSpace.2 known
  have given : (if named then some 2 else none : Option Nat).map
      (fun n => if 0 ≤ (i : Int) then (i : Int).toNat + n else n) =
        (if named then some (i + 2) else none : Option Nat) := by
    cases named <;> simp
  have first : c.advance 1 = c.past ['|'] := rfl
  simp only [scanBlock, first, indicators, line, given, empty, wide, read, Option.bind_eq_bind,
    Option.bind_some]
  refine congrArg some (Prod.ext whole ?_)
  simp only [← Cursor.past_append, literalMark, mark, named]
  simp

end Scan

end BackendLink.Yaml
