import BackendLink.Proofs.Yaml.Cursor
import Mathlib.Algebra.Group.Nat.Defs

/-!
# Quoted scalars are read back

A quoted scalar is read part by part (`IsPart.append`).

* `scanQuoted_single` reads the lines that `quotedLines` writes: a text that can stand between single
  quotes has no space next to a break, so folding takes nothing away.
* `scanQuoted_double` reads the escapes of any text.
-/

namespace BackendLink.Yaml

section Part

variable {single : Bool} {c : Cursor} {rest : List Char}

/-- One part is written as `row` here and read as `text`. -/
structure IsPart (single : Bool) (c : Cursor) (row text : List Char) : Prop where
  opens : atClosingQuote single c = false
  reads : quotedPart single c = some (text, c.past row)
  inside : 0 < (c.past row).column

theorem IsPart.append {row text rows more : List Char} (part : IsPart single c row text)
    (later : scanQuotedFrom single (c.past row) = some (more, (c.past row).past rows)) :
    scanQuotedFrom single c = some (text ++ more, c.past (row ++ rows)) := by
  have reads := part.reads
  rw [scanQuotedFrom, if_neg (by simp [part.opens])]
  split
  · rename_i none
    rw [none] at reads
    cases reads
  · rename_i found
    rw [found] at reads
    cases reads
    simp [Cursor.not_atDocumentMarker part.inside, later, Cursor.past_append]

theorem atClosingQuote_cons {x : Char} (here : c.rest = x :: rest)
    (other : x ≠ '\'' ∧ x ≠ '"') : atClosingQuote single c = false := by
  cases single <;> simp [atClosingQuote, Cursor.next, here, other]

theorem isPart_spaces {n : Nat} (here : c.rest = spaces (n + 1) ++ rest)
    (ends : endsGap rest = true) (inside : 0 < c.column) :
    IsPart single c (spaces (n + 1)) (spaces (n + 1)) where
  opens := atClosingQuote_cons here (by decide)
  reads := by
    unfold quotedPart
    rw [scanGap_spaces here ends]
    simp [here, isBlank, Gap.text]
  inside := by
    rw [Cursor.column_past not_isBreak_of_mem_spaces]
    omega

theorem isPart_lines {x : Char} {breaks : List Char} {n : Nat}
    (here : c.rest = x :: breaks ++ (spaces n ++ rest)) (ends : endsGap rest = true)
    (printable : (x :: breaks).all isPrintable = true) (all : (x :: breaks).all isBreak = true)
    (other : x ≠ '\n') (positive : 0 < n) :
    IsPart single c (x :: breaks ++ spaces n) (x :: breaks) where
  opens := atClosingQuote_cons here (by constructor <;> rintro rfl <;> simp [isBreak] at all)
  reads := by
    have here' : c.rest = x :: (breaks ++ (spaces n ++ rest)) := here
    simp only [List.all_cons, Bool.and_eq_true] at all
    unfold quotedPart
    rw [scanGap_lines here ends printable (by simpa using all)]
    simp [here', all.1, Gap.text, other]
  inside := by
    rw [Cursor.column_past_breaks all]
    exact positive

/-- A quote is written twice. -/
theorem isPart_char {x : Char} (printable : isPrintable x = true) (space : x ≠ ' ')
    (breaks : isBreak x = false)
    (here : c.rest = (if x = '\'' then ['\'', '\''] else [x]) ++ rest) :
    IsPart true c (if x = '\'' then ['\'', '\''] else [x]) [x] := by
  by_cases quote : x = '\''
  · subst quote
    rw [if_pos rfl] at here ⊢
    refine ⟨by simp [atClosingQuote, Cursor.next, here], ?_, Nat.succ_pos (c.column + 1)⟩
    unfold quotedPart
    simp [here, isBlank, isBreak, Cursor.past, Cursor.advance]
  · rw [if_neg quote] at here ⊢
    have blank : isBlank x = false :=
      Bool.eq_false_iff.mpr fun blank => space (printable_blank printable blank)
    refine ⟨by simp [atClosingQuote, Cursor.next, here, quote], ?_, ?_⟩
    · unfold quotedPart
      simp [here, blank, breaks, quote, Cursor.past]
    · rw [Cursor.column_past (by simpa using breaks)]
      exact Nat.succ_pos c.column

end Part

/-! ## Single quotes -/

theorem hasAdjacent_append {p q : Char → Bool} {a b : List Char}
    (none : hasAdjacent p q (a ++ b) = false) : hasAdjacent p q b = false := by
  induction a with
  | nil => exact none
  | cons x a ih =>
      refine ih ?_
      cases more : a ++ b with
      | nil => rfl
      | cons y rest =>
          rw [List.cons_append, more, hasAdjacent] at none
          exact (Bool.or_eq_false_iff.mp none).2

theorem not_of_hasAdjacent {p q : Char → Bool} {a rest : List Char} {x y : Char}
    (none : hasAdjacent p q (a ++ x :: y :: rest) = false) (left : p x = true) : q y = false := by
  have here := hasAdjacent_append none
  simp only [hasAdjacent, left, Bool.true_and, Bool.or_eq_false_iff] at here
  exact here.1

/-- What keeps a text whole when its lines are folded. -/
structure Folds (text : List Char) : Prop where
  printable : text.all isPrintable = true
  no_lineFeed : '\n' ∉ text
  break_space : hasAdjacent isBreak isSpace text = false
  space_break : hasAdjacent isSpace isBreak text = false

theorem Folds.append {a b : List Char} (folds : Folds (a ++ b)) : Folds b where
  printable := (Bool.and_eq_true_iff.mp (List.all_append ▸ folds.printable)).2
  no_lineFeed member := folds.no_lineFeed (List.mem_append_right a member)
  break_space := hasAdjacent_append folds.break_space
  space_break := hasAdjacent_append folds.space_break

section Lines

variable {n : Nat}

theorem quotedLines_spaces (k : Nat) (text : List Char) :
    quotedLines n false (spaces k ++ text) = spaces k ++ quotedLines n false text := by
  induction k with
  | zero => rfl
  | succ k ih => simpa [quotedLines] using ih

theorem quotedLines_break {x : Char} (breaks : isBreak x = true) (other : x ≠ '\n')
    (lineStart : Bool) (text : List Char) :
    quotedLines n lineStart (x :: text) = x :: quotedLines n true text := by
  have space : x ≠ ' ' := by
    rintro rfl
    cases breaks
  simp [quotedLines, breaks, other, space]

theorem quotedLines_breaks {breaks : List Char} (all : breaks.all isBreak = true)
    (no_lineFeed : '\n' ∉ breaks) (text : List Char) :
    quotedLines n true (breaks ++ text) = breaks ++ quotedLines n true text := by
  induction breaks with
  | nil => rfl
  | cons x breaks ih =>
      simp only [List.all_cons, Bool.and_eq_true] at all
      simp only [List.mem_cons, not_or] at no_lineFeed
      rw [List.cons_append, quotedLines_break all.1 (Ne.symm no_lineFeed.1), ih all.2 no_lineFeed.2,
        List.cons_append]

theorem quotedLines_start {text : List Char}
    (head : ∀ x, text.head? = some x → x ≠ ' ' ∧ isBreak x = false) :
    quotedLines n true text = spaces n ++ quotedLines n false text := by
  cases text with
  | nil => simp [quotedLines]
  | cons x text =>
      obtain ⟨space, breaks⟩ := head x rfl
      simp [quotedLines, space, breaks]

theorem quotedLines_lines {x : Char} {more text : List Char} (all : (x :: more).all isBreak = true)
    (no_lineFeed : '\n' ∉ x :: more)
    (head : ∀ x, text.head? = some x → x ≠ ' ' ∧ isBreak x = false) :
    quotedLines n false (x :: more ++ text) =
      x :: more ++ spaces n ++ quotedLines n false text := by
  obtain ⟨first, others⟩ := Bool.and_eq_true_iff.mp (List.all_cons ▸ all)
  simp only [List.mem_cons, not_or] at no_lineFeed
  rw [List.cons_append, quotedLines_break first (Ne.symm no_lineFeed.1),
    quotedLines_breaks others no_lineFeed.2, quotedLines_start head, ← List.append_assoc]
  rfl

theorem quotedLines_cons {x : Char} (space : x ≠ ' ') (breaks : isBreak x = false)
    (text : List Char) : quotedLines n false (x :: text) =
      (if x = '\'' then ['\'', '\''] else [x]) ++ quotedLines n false text := by
  simp [quotedLines, space, breaks]

theorem endsGap_quotedLines {text : List Char} (printable : text.all isPrintable = true)
    (head : ∀ x, text.head? = some x → x ≠ ' ' ∧ isBreak x = false) (after : List Char) :
    endsGap (quotedLines n false text ++ '\'' :: after) = true := by
  cases text with
  | nil => simp [quotedLines, endsGap, isBlank, isBreak]
  | cons x text =>
      obtain ⟨space, breaks⟩ := head x rfl
      have blank : isBlank x = false := by
        rw [Bool.eq_false_iff]
        intro blank
        exact space (printable_blank (by simp_all) blank)
      rw [quotedLines_cons space breaks]
      split
      · rfl
      · simp [endsGap, blank, breaks]

end Lines

/-- A text that folds, part by part: all spaces that stand together are one gap, and so are the breaks
of empty lines with the indentation behind them. -/
inductive Parts : List Char → Prop
  | nil : Parts []
  | spaces (n : Nat) {text : List Char} (later : Parts text)
      (next : ∀ y, text.head? = some y → y ≠ ' ' ∧ isBreak y = false) :
      Parts (spaces (n + 1) ++ text)
  | breaks {x : Char} {more text : List Char} (printable : (x :: more).all isPrintable = true)
      (all : (x :: more).all isBreak = true) (no_lineFeed : '\n' ∉ x :: more) (later : Parts text)
      (next : ∀ y, text.head? = some y → y ≠ ' ' ∧ isBreak y = false) :
      Parts (x :: more ++ text)
  | char {x : Char} {text : List Char} (space : x ≠ ' ') (breaks : isBreak x = false)
      (later : Parts text) : Parts (x :: text)

theorem Parts.break {x : Char} {text : List Char} (printable : isPrintable x = true)
    (breaks : isBreak x = true) (other : '\n' ≠ x) (later : Parts text)
    (next : ∀ y, text.head? = some y → y ≠ ' ' ∧ isBreak y = false) : Parts (x :: text) :=
  @Parts.breaks x [] text (by simp [printable]) (by simp [breaks]) (by simpa using other) later next

theorem parts_of_folds {text : List Char} (folds : Folds text) : Parts text := by
  induction text with
  | nil => exact .nil
  | cons x text ih =>
      have later := ih (@Folds.append [x] text folds)
      have printable := Bool.and_eq_true_iff.mp (List.all_cons ▸ folds.printable)
      have no_lineFeed : '\n' ≠ x ∧ '\n' ∉ text := by simpa using folds.no_lineFeed
      by_cases space : x = ' '
      · subst space
        cases later with
        | nil => exact .spaces 0 .nil (by simp)
        | spaces n later next => exact .spaces (n + 1) later next
        | breaks fine all no_lineFeed later next =>
            have adjacent := not_of_hasAdjacent (a := []) folds.space_break rfl
            simp [adjacent] at all
        | char space breaks later =>
            exact .spaces 0 (.char space breaks later) (by simp [space, breaks])
      · by_cases breaks : isBreak x = true
        · cases later with
          | nil =>
              exact .break printable.1 breaks no_lineFeed.1 .nil (by simp)
          | spaces n later next =>
              cases not_of_hasAdjacent (a := []) folds.break_space breaks
          | @breaks y more text fine all none later next =>
              refine @Parts.breaks x (y :: more) text ?_ ?_ ?_ later next
              · rw [List.all_cons, printable.1, fine]
                rfl
              · rw [List.all_cons, breaks, all]
                rfl
              · simpa using ⟨no_lineFeed.1, by simpa using none⟩
          | char space others later =>
              exact .break printable.1 breaks no_lineFeed.1 (.char space others later)
                (by simp [space, others])
        · exact .char space (Bool.eq_false_iff.mpr breaks) later

theorem scanQuotedFrom_parts {n : Nat} (positive : 0 < n) {text : List Char} (parts : Parts text)
    (printable : text.all isPrintable = true) {c : Cursor} {after : List Char}
    (here : c.rest = quotedLines n false text ++ '\'' :: after)
    (closes : after.head? ≠ some '\'') (inside : 0 < c.column) :
    scanQuotedFrom true c = some (text, c.past (quotedLines n false text ++ ['\''])) := by
  induction parts generalizing c with
  | nil =>
      have here : c.rest = '\'' :: after := here
      have closing : atClosingQuote true c = true := by
        cases after <;> simp_all [atClosingQuote, Cursor.next]
      rw [scanQuotedFrom, if_pos closing]
      rfl
  | spaces k later next ih =>
      have behind := (Bool.and_eq_true_iff.mp (List.all_append ▸ printable)).2
      rw [quotedLines_spaces, List.append_assoc] at here ⊢
      have part := @isPart_spaces true _ _ _ here (endsGap_quotedLines behind next after) inside
      exact part.append (ih behind (Cursor.rest_past here) part.inside)
  | @breaks x more text fine all no_lineFeed later next ih =>
      have behind := (Bool.and_eq_true_iff.mp (List.all_append ▸ printable)).2
      rw [quotedLines_lines all no_lineFeed next, List.append_assoc] at here ⊢
      simp only [List.mem_cons, not_or] at no_lineFeed
      have part := @isPart_lines true _ _ _ _ _ (List.append_assoc .. ▸ here)
        (endsGap_quotedLines behind next after) fine all (Ne.symm no_lineFeed.1) positive
      exact part.append (ih behind (Cursor.rest_past here) part.inside)
  | char space breaks later ih =>
      obtain ⟨first, behind⟩ := Bool.and_eq_true_iff.mp (List.all_cons ▸ printable)
      rw [quotedLines_cons space breaks, List.append_assoc] at here ⊢
      have part := isPart_char first space breaks here
      exact part.append (ih behind (Cursor.rest_past here) part.inside)

/-! ## Double quotes -/

theorem length_hexDigits (width n : Nat) : (hexDigits width n).length = width := by
  induction width generalizing n with
  | zero => rfl
  | succ width ih => simp [hexDigits, ih]

theorem hexValue?_digit {d : Nat} (small : d < 16) :
    hexValue? (Nat.digitChar d).toUpper = some d := by
  revert d
  decide

theorem foldlM_hexDigits (width n : Nat) (small : n < 16 ^ width) :
    (hexDigits width n).foldlM (fun n c => (hexValue? c).map (n * 16 + ·)) 0 = some n := by
  induction width generalizing n with
  | zero => simp [hexDigits, Nat.lt_one_iff.mp small]
  | succ width ih =>
      have front := ih (n / 16) (by rw [Nat.pow_succ] at small; omega)
      rw [hexDigits, List.foldlM_append, front]
      simp [hexValue?_digit (Nat.mod_lt n (by decide : 0 < 16))]
      omega

theorem hexNumber?_hexDigits {width n : Nat} (small : n < 16 ^ width) (rest : List Char) :
    hexNumber? width (hexDigits width n ++ rest) = some n := by
  have taken : (hexDigits width n ++ rest).take width = hexDigits width n := by
    rw [List.take_append_of_le_length (by simp [length_hexDigits]), List.take_of_length_le]
    simp [length_hexDigits]
  rw [hexNumber?, taken, foldlM_hexDigits width n small]
  simp [length_hexDigits]

theorem charOf?_toNat (x : Char) : charOf? x.toNat = some x := by
  have valid : x.toNat < 0xD800 ∨ (0xDFFF < x.toNat ∧ x.toNat < 0x110000) := x.valid
  simp [charOf?, valid, Char.ofNat_toNat]

theorem escape?_number {x mark : Char} {width : Nat} (unnamed : escapedChar? mark = none)
    (digits : escapeDigits? mark = some width) (small : x.toNat < 16 ^ width) (rest : List Char) :
    escape? (mark :: hexDigits width x.toNat ++ rest) = some (x, width + 1) := by
  rw [List.cons_append, escape?, unnamed]
  simp [digits, hexNumber?_hexDigits small, charOf?_toNat]

theorem isPrintable_hexDigits (width n : Nat) :
    ∀ z ∈ hexDigits width n, isPrintable z = true ∧ isBreak z = false := by
  have digit : ∀ d < 16, isPrintable (Nat.digitChar d).toUpper = true ∧
      isBreak (Nat.digitChar d).toUpper = false := by decide
  induction width generalizing n with
  | zero => simp [hexDigits]
  | succ width ih =>
      intro z member
      rcases List.mem_append.mp member with front | last
      · exact ih (n / 16) z front
      · rw [List.mem_singleton.mp last]
        exact digit _ (Nat.mod_lt n (by decide))

/-- An escape reads back as its character, whatever stands behind it. -/
structure Escapes (x : Char) (escape : List Char) : Prop where
  backslash : escape.head? = some '\\'
  printable : ∀ z ∈ escape, isPrintable z = true ∧ isBreak z = false
  reads : ∀ rest, escape? (escape.tail ++ rest) = some (x, escape.length - 1)

theorem escapes_number {x mark : Char} {width : Nat} (unnamed : escapedChar? mark = none)
    (digits : escapeDigits? mark = some width)
    (printable : isPrintable mark = true ∧ isBreak mark = false)
    (small : x.toNat < 16 ^ width) : Escapes x (['\\', mark] ++ hexDigits width x.toNat) where
  backslash := rfl
  printable := by
    simp only [List.mem_append, List.mem_cons, List.not_mem_nil, or_false]
    rintro z ((rfl | rfl) | member)
    · decide
    · exact printable
    · exact isPrintable_hexDigits _ _ z member
  reads rest := by simpa [length_hexDigits] using escape?_number unnamed digits small rest

theorem escapes_escape (x : Char) : Escapes x (escape x) := by
  unfold escape
  split
  case h_15 =>
    have valid : x.toNat < 0xD800 ∨ (0xDFFF < x.toNat ∧ x.toNat < 0x110000) := x.valid
    have bound : x.toNat < 16 ^ 8 := by omega
    dsimp only
    split
    · rename_i small
      exact escapes_number rfl rfl (by decide) small
    · split
      · rename_i small
        exact escapes_number rfl rfl (by decide) small
      · exact escapes_number rfl rfl (by decide) bound
  all_goals exact ⟨rfl, List.forall_mem_cons.mpr ⟨by decide, by simp; decide⟩, fun rest => rfl⟩

theorem flatMap_escaped_spaces (k : Nat) (text : List Char) :
    (spaces k ++ text).flatMap escaped = spaces k ++ text.flatMap escaped := by
  induction k with
  | zero => rfl
  | succ k ih =>
      rw [spaces_succ, List.cons_append, List.flatMap_cons, ih]
      rfl

theorem head?_escaped {x : Char} (space : x ≠ ' ') (rest : List Char) :
    ∃ y more, escaped x ++ rest = y :: more ∧ isBlank y = false ∧ isBreak y = false ∧ y ≠ '"' := by
  unfold escaped
  split
  · obtain ⟨more, same⟩ := List.head?_eq_some_iff.mp (escapes_escape x).backslash
    exact ⟨'\\', more ++ rest, by rw [same]; rfl, rfl, rfl, by decide⟩
  · rename_i plain
    simp only [Bool.or_eq_true, Bool.not_eq_true', not_or, Bool.not_eq_false, beq_iff_eq,
      Bool.not_eq_true] at plain
    have blank : isBlank x = false :=
      Bool.eq_false_iff.mpr fun blank => space (printable_blank plain.1.1.1 blank)
    exact ⟨x, rest, rfl, blank, plain.1.1.2, plain.1.2⟩

theorem isPart_escaped {x : Char} {c : Cursor} {rest : List Char} (space : x ≠ ' ')
    (here : c.rest = escaped x ++ rest) (inside : 0 < c.column) :
    IsPart false c (escaped x) [x] := by
  have opens : atClosingQuote false c = false := by
    obtain ⟨z, more, same, -, -, quote⟩ := head?_escaped space rest
    simp [atClosingQuote, Cursor.next, here, same, quote]
  have column (line : ∀ z ∈ escaped x, isBreak z = false) : 0 < (c.past (escaped x)).column := by
    rw [Cursor.column_past line]
    omega
  unfold escaped at here column ⊢
  split
  · rename_i special
    rw [if_pos special] at here column
    obtain ⟨backslash, printable, reads⟩ := escapes_escape x
    obtain ⟨tail, same⟩ := List.head?_eq_some_iff.mp backslash
    rw [same] at here printable reads column ⊢
    have line : ∀ z ∈ '\\' :: tail, isBreak z = false := fun z member => (printable z member).2
    refine ⟨opens, ?_, column line⟩
    have breaks : (tail ++ rest).head?.any isBreak = false := by
      cases tail with
      | nil => cases reads []
      | cons z tail => simpa using line z (by simp)
    have read := reads rest
    have past := Cursor.advance_eq_past line c
    simp only [List.tail_cons, List.length_cons, Nat.add_sub_cancel] at read past
    unfold quotedPart
    simp [here, isBlank, isBreak, breaks, read, past, -List.head?_append]
  · rename_i plain
    rw [if_neg plain] at here column
    simp only [Bool.or_eq_true, Bool.not_eq_true', not_or, Bool.not_eq_false, beq_iff_eq,
      Bool.not_eq_true] at plain
    have blank : isBlank x = false :=
      Bool.eq_false_iff.mpr fun blank => space (printable_blank plain.1.1.1 blank)
    refine ⟨opens, ?_, column (by simpa using plain.1.1.2)⟩
    unfold quotedPart
    simp [here, blank, plain, Cursor.past]

/-- Any text: all spaces that stand together are one gap. -/
inductive Runs : List Char → Prop
  | nil : Runs []
  | spaces (n : Nat) {text : List Char} (later : Runs text) (head : text.head? ≠ some ' ') :
      Runs (spaces (n + 1) ++ text)
  | char {x : Char} {text : List Char} (space : x ≠ ' ') (later : Runs text) : Runs (x :: text)

theorem runs (text : List Char) : Runs text := by
  induction text with
  | nil => exact .nil
  | cons x text ih =>
      by_cases space : x = ' '
      · subst space
        cases ih with
        | nil => exact .spaces 0 .nil (by simp)
        | spaces n later head => exact .spaces (n + 1) later head
        | char space later => exact .spaces 0 (.char space later) (by simpa using space)
      · exact .char space ih

theorem endsGap_escaped {text : List Char} (head : text.head? ≠ some ' ') (after : List Char) :
    endsGap (text.flatMap escaped ++ '"' :: after) = true := by
  cases text with
  | nil => rfl
  | cons x text =>
      have space : x ≠ ' ' := fun space => head (congrArg some space)
      obtain ⟨z, more, same, blank, breaks, -⟩ :=
        head?_escaped space (text.flatMap escaped ++ '"' :: after)
      rw [List.flatMap_cons, List.append_assoc, same]
      simp [endsGap, blank, breaks]

theorem scanQuotedFrom_runs {text : List Char} (runs : Runs text) {c : Cursor} {after : List Char}
    (here : c.rest = text.flatMap escaped ++ '"' :: after) (inside : 0 < c.column) :
    scanQuotedFrom false c = some (text, c.past (text.flatMap escaped ++ ['"'])) := by
  induction runs generalizing c with
  | nil =>
      have here : c.rest = '"' :: after := here
      rw [scanQuotedFrom, if_pos (by simp [atClosingQuote, Cursor.next, here])]
      rfl
  | spaces k later head ih =>
      rw [flatMap_escaped_spaces, List.append_assoc] at here ⊢
      have part := @isPart_spaces false _ _ _ here (endsGap_escaped head after) inside
      exact part.append (ih (Cursor.rest_past here) part.inside)
  | char space later ih =>
      rw [List.flatMap_cons, List.append_assoc] at here ⊢
      have part := isPart_escaped space here inside
      exact part.append (ih (Cursor.rest_past here) part.inside)

/-! ## Between the quotes -/

theorem scanQuoted_single {n : Nat} (positive : 0 < n) {text : List Char} (folds : Folds text)
    {c : Cursor} {after : List Char}
    (here : c.rest = '\'' :: (quotedLines n false text ++ '\'' :: after))
    (closes : after.head? ≠ some '\'') :
    scanQuoted true c = some (text, c.past ('\'' :: (quotedLines n false text ++ ['\'']))) :=
  scanQuotedFrom_parts positive (parts_of_folds folds) folds.printable
    (@Cursor.rest_past c ['\''] _ here) closes (Nat.succ_pos c.column)

theorem scanQuoted_double (text : List Char) {c : Cursor} {after : List Char}
    (here : c.rest = '"' :: (text.flatMap escaped ++ '"' :: after)) :
    scanQuoted false c = some (text, c.past ('"' :: (text.flatMap escaped ++ ['"']))) :=
  scanQuotedFrom_runs (runs text) (@Cursor.rest_past c ['"'] _ here) (Nat.succ_pos c.column)

end BackendLink.Yaml
