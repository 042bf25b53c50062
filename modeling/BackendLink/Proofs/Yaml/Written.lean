import BackendLink.Proofs.Yaml.Scan

/-!
# Written scalars are read back

A text that is written as the value of a key is one token, with the style that it was written in
(`leads_written`), and all that is written of it is printable (`printable_written`).
-/

namespace BackendLink.Yaml

namespace Scanner

/-- What the style of a text promises of it. -/
inductive Styled (text : List Char) : Style → Prop
  | plain (plain : PlainText text) (itself : meaning text = .text) : Styled text .plain
  | singleQuoted (folds : Folds text) : Styled text .singleQuoted
  | literal (nonempty : text ≠ []) (printable : text.all isPrintable = true) : Styled text .literal
  | doubleQuoted : Styled text .doubleQuoted

theorem styled (text : List Char) : Styled text (style text) := by
  have quoted (line : '\n' ∉ text) :
      Styled text (if holdsQuoted text then .singleQuoted else .doubleQuoted) := by
    split
    · rename_i holds
      simp only [holdsQuoted, Bool.and_eq_true, Bool.not_eq_true'] at holds
      exact .singleQuoted ⟨holds.1.1, line, holds.1.2, holds.2⟩
    · exact .doubleQuoted
  unfold style preferredStyle
  by_cases lines : '\n' ∈ text
  · simp only [lines, if_true]
    split
    · rename_i holds
      simp only [holdsLiteral, Bool.and_eq_true, Bool.not_eq_true'] at holds
      exact .literal (by simpa using holds.1.1.1) holds.1.1.2
    · exact .doubleQuoted
  · simp only [lines, if_false]
    by_cases taken : (decide (meaning text ≠ .text) || isPaddedNumber text) = true
    · simp only [taken, if_true]
      exact quoted lines
    · simp only [taken, Bool.false_eq_true, if_false]
      split
      · rename_i holds
        have itself : meaning text = .text := by simpa using (Bool.or_eq_false_iff.mp
          (Bool.eq_false_iff.mpr taken)).1
        refine .plain (plainText_of_holdsPlain ?_ holds) itself
        rintro rfl
        exact taken (by decide)
      · exact quoted lines

variable {c : Cursor} {produced : List Token} {outer : List Int} {rest : List Char} {i k : Nat}

theorem leads_written (text : List Char)
    (here : c.rest = written (i + 2) text ++ (spaces k ++ rest)) (left : k ≤ i)
    (inside : (i : Int) < c.column) (starts : startsToken rest = true) :
    ∃ t, Leads 1 (idle c produced i outer false) t ∧
      At t k rest (.scalar text (style text) :: produced) i outer := by
  have promised := styled text
  unfold written at here
  generalize style text = chosen at promised here ⊢
  cases promised with
  | plain plain itself => exact leads_plain plain (by simpa using here) left inside starts
  | singleQuoted folds =>
      have here : c.rest = ' ' :: '\'' :: ((quotedLines (i + 2) false text ++ ['\'']) ++
          '\n' :: (spaces k ++ rest)) := by simpa using here
      have behind := @Cursor.rest_past c [' '] _ here
      have read := @scanQuoted_single (i + 2) (by omega) text folds _
        ('\n' :: (spaces k ++ rest)) (by simpa using behind) (by simp)
      exact @leads_quoted _ _ _ _ _ _ _ true _ _ rfl here inside starts read
  | literal nonempty printable =>
      exact leads_literal nonempty printable (by simpa [blockLines] using here) left inside starts
  | doubleQuoted =>
      have here : c.rest = ' ' :: '"' :: ((text.flatMap escaped ++ ['"']) ++
          '\n' :: (spaces k ++ rest)) := by simpa using here
      have behind := @Cursor.rest_past c [' '] _ here
      have read := @scanQuoted_double text _ ('\n' :: (spaces k ++ rest)) (by simpa using behind)
      exact @leads_quoted _ _ _ _ _ _ _ false _ _ rfl here inside starts read

end Scanner

/-! ## Characters -/

theorem printable_spaces (n : Nat) : (spaces n).all isPrintable = true := by
  rw [List.all_eq_true]
  intro x member
  rw [eq_of_mem_spaces member]
  rfl

theorem printable_quotedLines {text : List Char} (printable : text.all isPrintable = true) (n : Nat)
    (lineStart : Bool) : (quotedLines n lineStart text).all isPrintable = true := by
  induction text generalizing lineStart with
  | nil =>
      unfold quotedLines
      split
      · exact printable_spaces n
      · rfl
  | cons x text ih =>
      rw [List.all_cons, Bool.and_eq_true] at printable
      have later := ih printable.2
      unfold quotedLines
      split
      · rw [List.all_cons, printable.1, later, Bool.and_self]
      · split
        · rw [List.all_append, List.all_cons, printable.1, later]
          split <;> rfl
        · have start : (if lineStart then spaces n else []).all isPrintable = true := by
            split
            · exact printable_spaces n
            · rfl
          have here : (if x == '\'' then ['\'', '\''] else [x]).all isPrintable = true := by
            split
            · rfl
            · simpa using printable.1
          rw [List.all_append, List.all_append, start, here, later, Bool.and_self, Bool.and_self]

theorem printable_literalLines {text : List Char} (printable : text.all isPrintable = true) (n : Nat)
    (lineStart : Bool) : (literalLines n lineStart text).all isPrintable = true := by
  induction text generalizing lineStart with
  | nil => rfl
  | cons x text ih =>
      rw [List.all_cons, Bool.and_eq_true] at printable
      have later := ih printable.2
      unfold literalLines
      split
      · rw [List.all_cons, printable.1, later, Bool.and_self]
      · rw [List.all_append, List.all_cons, printable.1, later, Bool.and_self, Bool.and_true]
        split
        · exact printable_spaces n
        · rfl

theorem printable_escaped (x : Char) : (escaped x).all isPrintable = true := by
  unfold escaped
  split
  · exact List.all_eq_true.mpr fun z member => ((escapes_escape x).printable z member).1
  · simp_all

theorem printable_literalMark (text : List Char) : (literalMark text).all isPrintable = true := by
  rcases chomping_cases text with mark | mark | mark
  all_goals
    unfold literalMark
    rw [mark]
    split <;> rfl

theorem printable_written (n : Nat) (text : List Char) :
    (written n text).all isPrintable = true := by
  have promised := Scanner.styled text
  unfold written
  generalize style text = chosen at promised
  cases promised with
  | plain plain itself =>
      have words := List.all_eq_true.mpr plain.words.printable
      simp only [List.all_append, words]
      rfl
  | singleQuoted folds =>
      simp only [List.all_append, printable_quotedLines folds.printable]
      rfl
  | literal nonempty printable =>
      simp only [List.all_append, printable_literalMark, printable_literalLines printable]
      split <;> rfl
  | doubleQuoted =>
      simp only [List.all_append, List.all_flatMap, printable_escaped]
      simp [isPrintable]

end BackendLink.Yaml
