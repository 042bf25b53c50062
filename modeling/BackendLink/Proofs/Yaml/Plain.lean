import BackendLink.Proofs.Yaml.Cursor

/-!
# Plain scalars are read as they stand

A text that holds plain is a row of words with spaces between them (`Words`). Its scalar goes to the
end of the line and over the indentation of the next one, which lies to the left of its margin.
-/

namespace BackendLink.Yaml

structure IsWord (word : List Char) : Prop where
  ne_nil : word ≠ []
  printable : ∀ x ∈ word, isPrintable x = true
  not_break : ∀ x ∈ word, isBreak x = false
  not_space : ∀ x ∈ word, x ≠ ' '
  no_colon : word.getLast? ≠ some ':'

namespace IsWord

variable {word : List Char}

theorem not_blank (isWord : IsWord word) {x : Char} (member : x ∈ word) : isBlank x = false := by
  rw [Bool.eq_false_iff]
  intro blank
  exact isWord.not_space x member (printable_blank (isWord.printable x member) blank)

theorem tail {x y : Char} (isWord : IsWord (x :: y :: word)) : IsWord (y :: word) where
  ne_nil := List.cons_ne_nil y word
  printable z member := isWord.printable z (List.mem_cons_of_mem x member)
  not_break z member := isWord.not_break z (List.mem_cons_of_mem x member)
  not_space z member := isWord.not_space z (List.mem_cons_of_mem x member)
  no_colon := by simpa using isWord.no_colon

theorem cons {x : Char} (isWord : IsWord word) (printable : isPrintable x = true)
    (not_break : isBreak x = false) (not_space : x ≠ ' ') : IsWord (x :: word) where
  ne_nil := List.cons_ne_nil x word
  printable := by simpa using ⟨printable, isWord.printable⟩
  not_break := by simpa using ⟨not_break, isWord.not_break⟩
  not_space := by simpa using ⟨not_space, isWord.not_space⟩
  no_colon := by
    obtain ⟨y, rest, rfl⟩ := List.exists_cons_of_ne_nil isWord.ne_nil
    simpa using isWord.no_colon

theorem plainWord_eq {y : Char} {rest : List Char} (isWord : IsWord word)
    (stops : plainWord false (y :: rest) = some []) :
    plainWord false (word ++ y :: rest) = some word := by
  induction word with
  | nil => exact absurd rfl isWord.ne_nil
  | cons x word ih =>
      have here : (isBlank x || isBreak x) = false := by
        simp [isWord.not_blank List.mem_cons_self, isWord.not_break x List.mem_cons_self]
      cases word with
      | nil =>
          have colon : x ≠ ':' := by simpa using isWord.no_colon
          rw [List.singleton_append, plainWord, here, if_neg (by decide), stops]
          simp [isBareColon, endsPlain, colon]
      | cons z word =>
          have next : (isBlank z || isBreak z) = false := by
            simp [isWord.not_blank (List.mem_cons_of_mem x List.mem_cons_self),
              isWord.not_break z (List.mem_cons_of_mem x List.mem_cons_self)]
          have later := ih isWord.tail
          rw [List.cons_append, plainWord, here, if_neg (by decide)]
          rw [List.cons_append] at later
          simp [isBareColon, endsPlain, endsWord, next, later]

end IsWord

/-- Words with spaces between them. -/
inductive Words : List Char → Prop
  | last {word : List Char} (isWord : IsWord word) : Words word
  | more {word text : List Char} (n : Nat) (isWord : IsWord word) (later : Words text)
      (noComment : text.head? ≠ some '#') : Words (word ++ (spaces (n + 1) ++ text))

namespace Words

variable {text : List Char}

theorem cons {x : Char} (words : Words text) (printable : isPrintable x = true)
    (not_break : isBreak x = false) (not_space : x ≠ ' ') : Words (x :: text) := by
  cases words with
  | last isWord => exact .last (isWord.cons printable not_break not_space)
  | more n isWord later noComment =>
      exact .more n (isWord.cons printable not_break not_space) later noComment

theorem exists_cons (words : Words text) :
    ∃ x rest, text = x :: rest ∧ isPrintable x = true ∧ isBreak x = false ∧ x ≠ ' ' := by
  have front {word : List Char} (isWord : IsWord word) (rest : List Char) :
      ∃ x more, word ++ rest = x :: more ∧ isPrintable x = true ∧ isBreak x = false ∧ x ≠ ' ' := by
    obtain ⟨x, more, rfl⟩ := List.exists_cons_of_ne_nil isWord.ne_nil
    exact ⟨x, more ++ rest, rfl, isWord.printable x List.mem_cons_self,
      isWord.not_break x List.mem_cons_self, isWord.not_space x List.mem_cons_self⟩
  cases words with
  | last isWord => simpa using front isWord []
  | more n isWord later noComment => exact front isWord _

theorem printable (words : Words text) : ∀ x ∈ text, isPrintable x = true := by
  induction words with
  | last isWord => exact isWord.printable
  | more n isWord later noComment ih =>
      intro x member
      simp only [List.mem_append] at member
      rcases member with member | member | member
      · exact isWord.printable x member
      · rw [eq_of_mem_spaces member]
        rfl
      · exact ih x member

theorem endsGap (words : Words text) (rest : List Char) : Yaml.endsGap (text ++ rest) = true := by
  obtain ⟨x, more, rfl, printable, not_break, not_space⟩ := words.exists_cons
  have blank : isBlank x = false := by
    rw [Bool.eq_false_iff]
    exact fun blank => not_space (printable_blank printable blank)
  simp [Yaml.endsGap, blank, not_break]

end Words

/-! ## Which texts are words -/

theorem hasInnerIndicator_append {a b : List Char} (none : hasInnerIndicator (a ++ b) = false) :
    hasInnerIndicator b = false := by
  induction a with
  | nil => exact none
  | cons x a ih =>
      refine ih ?_
      cases more : a ++ b with
      | nil => rfl
      | cons y rest =>
          rw [List.cons_append, more, hasInnerIndicator] at none
          simp only [Bool.or_eq_false_iff] at none
          exact none.2

/-- What a text that holds plain promises, also of what is left of it behind some of its words. -/
structure Flows (text : List Char) : Prop where
  first : ∃ x rest, text = x :: rest ∧ x ≠ ' '
  last : text.getLast? ≠ some ' '
  printable : ∀ x ∈ text, isPrintable x = true
  not_break : ∀ x ∈ text, isBreak x = false
  inner : hasInnerIndicator text = false
  no_colon : ∀ rest, text = ':' :: rest → endsWord rest.head? = false

namespace Flows

variable {x y : Char} {rest : List Char}

theorem not_space (flows : Flows (x :: rest)) : x ≠ ' ' := by
  obtain ⟨y, more, same, not_space⟩ := flows.first
  cases same
  exact not_space

theorem isWord (flows : Flows (x :: rest)) (other : x ≠ ':') : IsWord [x] where
  ne_nil := List.cons_ne_nil x []
  printable := by simpa using flows.printable x List.mem_cons_self
  not_break := by simpa using flows.not_break x List.mem_cons_self
  not_space := by simpa using flows.not_space
  no_colon := by simpa using other

theorem tail (flows : Flows (x :: y :: rest)) (space : y ≠ ' ') : Flows (y :: rest) where
  first := ⟨y, rest, rfl, space⟩
  last := by simpa using flows.last
  printable z member := flows.printable z (List.mem_cons_of_mem x member)
  not_break z member := flows.not_break z (List.mem_cons_of_mem x member)
  inner := @hasInnerIndicator_append [x] _ flows.inner
  no_colon more same := by
    obtain ⟨rfl, rfl⟩ := List.cons.inj same
    have inner := flows.inner
    simp only [hasInnerIndicator, Bool.or_eq_false_iff] at inner
    simpa using inner.1.1

/-- Behind spaces the text goes on with another word, which starts no comment. -/
theorem behind_spaces {n : Nat} (flows : Flows (x :: ' ' :: (spaces n ++ rest)))
    (head : rest.head? ≠ some ' ') : Flows rest ∧ rest.head? ≠ some '#' := by
  have inner : hasInnerIndicator (' ' :: rest) = false := by
    refine @hasInnerIndicator_append (x :: spaces n) _ ?_
    rw [List.cons_append, spaces_append_cons]
    exact flows.inner
  cases rest with
  | nil =>
      refine absurd ?_ flows.last
      rw [← spaces_append_cons, ← List.cons_append]
      exact List.getLast?_concat
  | cons z rest =>
      simp only [hasInnerIndicator, Bool.or_eq_false_iff] at inner
      refine ⟨⟨⟨z, rest, rfl, by simpa using head⟩, ?_, ?_, ?_, inner.2, ?_⟩, ?_⟩
      · simpa [List.getLast?_cons, List.getLast?_append] using flows.last
      · exact fun w member => flows.printable w (by simp [member])
      · exact fun w member => flows.not_break w (by simp [member])
      · rintro more same
        obtain ⟨rfl, rfl⟩ := List.cons.inj same
        simpa using inner.1.1
      · intro same
        simp only [List.head?_cons, Option.some.injEq] at same
        simp [same, endsWord, isBlank] at inner

theorem words {text : List Char} (flows : Flows text) : Words text := by
  obtain ⟨x, rest, rfl, not_space⟩ := flows.first
  cases rest with
  | nil =>
      refine .last (flows.isWord ?_)
      rintro rfl
      cases flows.no_colon [] rfl
  | cons y rest =>
      by_cases space : y = ' '
      · subst space
        have other : x ≠ ':' := by
          rintro rfl
          cases flows.no_colon _ rfl
        obtain ⟨n, later, rfl, head⟩ := exists_spaces rest
        obtain ⟨behind, comment⟩ := flows.behind_spaces head
        exact .more n (flows.isWord other) behind.words comment
      · exact (flows.tail space).words.cons (flows.printable x List.mem_cons_self)
          (flows.not_break x List.mem_cons_self) not_space
-- Spaces are passed all at once, so the text gets shorter but not by its tail.
termination_by text.length
decreasing_by all_goals simp_all <;> omega

end Flows

theorem words_of_holdsPlain {text : List Char} (nonempty : text ≠ [])
    (holds : holdsPlain text = true) : Words text := by
  simp only [holdsPlain, Bool.and_eq_true, Bool.not_eq_true', bne_iff_ne, List.all_eq_true,
    List.any_eq_false, Bool.not_eq_true] at holds
  obtain ⟨⟨⟨⟨⟨printable, not_break⟩, first⟩, last⟩, indicator⟩, inner⟩ := holds
  have flows : Flows text := by
    refine ⟨?_, last, printable, not_break, inner, ?_⟩
    · obtain ⟨x, rest, rfl⟩ := List.exists_cons_of_ne_nil nonempty
      exact ⟨x, rest, rfl, by simpa using first⟩
    · rintro rest rfl
      simpa [startsWithIndicator] using indicator
  exact flows.words

/-! ## Scanning -/

section Scan

variable {margin : Int} {g : Gap} {c : Cursor} {k : Nat} {rest : List Char}

theorem scanPlainFrom_word {word after : List Char} {y : Char} (isWord : IsWord word)
    (here : c.rest = word ++ y :: after) (stops : plainWord false (y :: after) = some [])
    (marker : c.atDocumentMarker = false) (comment : word.head? ≠ some '#') :
    scanPlainFrom false margin g c =
      if !(isBlank y || isBreak y) then some (g.text ++ word, false, c.past word)
      else
        match scanGap (some margin) {} (c.past word) with
        | none => none
        | some (gap, behind) =>
          if (behind.column : Int) < margin then some (g.text ++ word, gap.broken, behind)
          else (scanPlainFrom false margin gap behind).map fun (text, broken, last) =>
            (g.text ++ word ++ text, broken, last) := by
  have read : plainWord false c.rest = some word := here ▸ isWord.plainWord_eq stops
  obtain ⟨x, xs, rfl⟩ := List.exists_cons_of_ne_nil isWord.ne_nil
  have next : c.next ≠ some '#' := by simpa [Cursor.next, here] using comment
  have past : c.advance (xs.length + 1) = c.past (x :: xs) :=
    Cursor.advance_eq_past isWord.not_break c
  have behind : (c.past (x :: xs)).next = some y := by
    rw [Cursor.next, Cursor.rest_past here]
    rfl
  rw [scanPlainFrom, if_neg (by simp [marker, next])]
  split
  · rename_i none
    rw [none] at read
    cases read
  · rename_i nil
    rw [nil] at read
    cases read
  · rename_i z zs word
    rw [word] at read
    cases read
    simp only [past, behind, Option.any_some, Bool.not_false, Bool.true_and, decide_eq_true_eq]
    split
    · rfl
    · split <;> simp_all

theorem scanPlainFrom_words {text : List Char} (words : Words text)
    (here : c.rest = text ++ '\n' :: (spaces k ++ rest)) (ends : endsGap rest = true)
    (left : (k : Int) < margin) (inside : margin ≤ c.column) (comment : text.head? ≠ some '#') :
    scanPlainFrom false margin g c =
      some (g.text ++ text, true, c.past (text ++ '\n' :: spaces k)) := by
  induction words generalizing g c with
  | @last word isWord =>
      have marker : c.atDocumentMarker = false := Cursor.not_atDocumentMarker (by omega)
      have line : (c.past word).rest = '\n' :: [] ++ (spaces k ++ rest) := Cursor.rest_past here
      have column : ((c.past word).past (['\n'] ++ spaces k)).column = k := by
        rw [← Cursor.past_append]
        exact Cursor.column_past_line rfl c word k
      rw [scanPlainFrom_word isWord here rfl marker comment, if_neg (by decide),
        scanGap_lines line ends rfl rfl]
      simp only [column, left, if_true]
      rw [← Cursor.past_append, List.singleton_append]
  | @more word text n isWord later noComment ih =>
      have marker : c.atDocumentMarker = false := Cursor.not_atDocumentMarker (by omega)
      rw [List.append_assoc, List.append_assoc] at here
      have behind := Cursor.rest_past here
      have front : (word ++ (spaces (n + 1) ++ text)).head? = word.head? := by
        obtain ⟨x, xs, rfl⟩ := List.exists_cons_of_ne_nil isWord.ne_nil
        rfl
      have gap := @scanGap_spaces (some margin) {} _ _ _ behind (later.endsGap _)
      have column : ((c.past word).past (spaces (n + 1))).column =
          c.column + word.length + (n + 1) := by
        rw [Cursor.column_past not_isBreak_of_mem_spaces, Cursor.column_past isWord.not_break,
          length_spaces]
      rw [scanPlainFrom_word isWord here rfl marker (front ▸ comment), if_neg (by decide), gap]
      simp only [column]
      rw [if_neg (by omega), ih (Cursor.rest_past behind) (by omega) noComment]
      simp [Gap.text, Cursor.past_append, -spaces_succ]

theorem scanPlain_words {text : List Char} (words : Words text)
    (here : c.rest = text ++ '\n' :: (spaces k ++ rest)) (ends : endsGap rest = true)
    (left : (k : Int) < margin) (inside : margin ≤ c.column) (comment : text.head? ≠ some '#') :
    scanPlain false margin c = some (text, true, c.past (text ++ '\n' :: spaces k)) :=
  scanPlainFrom_words words here ends left inside comment

theorem scanPlain_key {key after : List Char} (isWord : IsWord key)
    (here : c.rest = key ++ ':' :: after) (ends : endsWord after.head? = true)
    (marker : c.atDocumentMarker = false) (comment : key.head? ≠ some '#') :
    scanPlain false margin c = some (key, false, c.past key) := by
  have stops : plainWord false (':' :: after) = some [] := by
    simp [plainWord, isBlank, isBreak, isBareColon, endsPlain, ends]
  rw [scanPlain, scanPlainFrom_word isWord here stops marker comment]
  rfl

end Scan

end BackendLink.Yaml
