import BackendLink.Proofs.Yaml.Block
import BackendLink.Proofs.Yaml.Plain
import BackendLink.Proofs.Yaml.Quoted

/-!
# Steps of the scanner in block mappings

What the scanner does from one place between tokens to the next, outside brackets.

* `Scanner.Ready` is a scanner whose next token starts at a given cursor; the collections that end
  there may still be open.
* `At.entry` reads a key and its colon, `leads_plain`, `leads_quoted` and `leads_literal` the value
  behind it, and `At.finish` the end of the text.
-/

namespace BackendLink.Yaml

/-- A token may start here. -/
def startsToken (text : List Char) : Bool :=
  text.head?.all fun x => !isBlank x && !isBreak x && x != '#' && x != '\uFEFF'

theorem startsToken_cons {x : Char} {rest : List Char} : startsToken (x :: rest) = true ↔
    isBlank x = false ∧ isBreak x = false ∧ x ≠ '#' ∧ x ≠ '\uFEFF' := by
  simp [startsToken, and_assoc]

theorem endsGap_of_startsToken {text : List Char} (starts : startsToken text = true) :
    endsGap text = true := by
  cases text with
  | nil => rfl
  | cons x rest =>
      obtain ⟨blank, breaks, -, -⟩ := startsToken_cons.mp starts
      simp [endsGap, blank, breaks]

namespace Scanner

/-- Outside brackets, where no key may have started. -/
def idle (c : Cursor) (produced : List Token) (indent : Int) (outer : List Int)
    (keyAllowed : Bool) : Scanner :=
  { cursor := c, produced, indent, outer, keyAllowed }

variable {c : Cursor} {produced : List Token} {indent : Int} {outer : List Int}
  {keyAllowed tabs : Bool} {rest : List Char} {n : Nat}

/-! ## Between tokens -/

theorem skipBlanks_eq (here : c.rest = spaces n ++ rest)
    (stops : ∀ x, rest.head? = some x → isBlank x = false ∧ x ≠ '#' ∧ x ≠ '\uFEFF') :
    skipBlanks tabs c = c.past (spaces n) := by
  have mark : skipMark c = c := by
    have next : c.next ≠ some '\uFEFF' := by
      rw [Cursor.next, here]
      cases n with
      | zero => exact fun head => (stops _ head).2.2 rfl
      | succ n => simp
    simp [skipMark, next]
  have run : c.rest.takeWhile (fun x => x == ' ' || (tabs && x == '\t')) = spaces n := by
    rw [here, List.takeWhile_append_of_pos (fun x member => by simp [eq_of_mem_spaces member])]
    cases rest with
    | nil => simp
    | cons x rest =>
        have blank := (stops x rfl).1
        simp only [isBlank, Bool.or_eq_false_iff] at blank
        simp [blank]
  have past : c.advance (spaces n).length = c.past (spaces n) :=
    Cursor.advance_eq_past not_isBreak_of_mem_spaces c
  have comment : (c.past (spaces n)).next ≠ some '#' := by
    rw [Cursor.next, Cursor.rest_past here]
    exact fun head => (stops _ head).2.1 rfl
  rw [skipBlanks, mark, Cursor.advanceWhile, run, past, Cursor.skipComment, if_neg comment]

theorem stops_of_startsToken (starts : startsToken rest = true) :
    ∀ x, rest.head? = some x → isBlank x = false ∧ x ≠ '#' ∧ x ≠ '\uFEFF' := by
  intro x head
  obtain ⟨more, rfl⟩ := List.head?_eq_some_iff.mp head
  obtain ⟨blank, -, comment, mark⟩ := startsToken_cons.mp starts
  exact ⟨blank, comment, mark⟩

theorem skipToToken_eq (s : Scanner) (here : s.cursor.rest = spaces n ++ rest)
    (starts : startsToken rest = true) :
    s.skipToToken = { s with cursor := s.cursor.past (spaces n) } := by
  have skipped := @skipBlanks_eq s.cursor (s.flow || !s.keyAllowed) rest n here
    (stops_of_startsToken starts)
  rw [skipToToken]
  split
  · rw [skipped]
  · rename_i x more found
    rw [skipped, Cursor.rest_past here] at found
    have breaks := (startsToken_cons.mp (found ▸ starts)).2.1
    simp [breaks, skipped]

theorem skipToToken_line (here : c.rest = '\n' :: (spaces n ++ rest))
    (starts : startsToken rest = true) :
    (idle c produced indent outer keyAllowed).skipToToken =
      idle (c.past ('\n' :: spaces n)) produced indent outer true := by
  have later := skipToToken_eq (idle (c.past ['\n']) produced indent outer true)
    (@Cursor.rest_past c ['\n'] _ here) starts
  generalize same : idle c produced indent outer keyAllowed = s
  have stays : skipBlanks (s.flow || !s.keyAllowed) s.cursor = c := by
    rw [← same]
    exact @skipBlanks_eq c _ _ 0 here (by simp [isBlank])
  rw [skipToToken]
  split
  · rename_i none
    rw [stays, here] at none
    cases none
  · rename_i x more found
    rw [stays, here] at found
    cases found
    rw [dif_pos (show isBreak '\n' = true from rfl), stays, Cursor.skipBreak_eq here rfl rfl, ← same]
    cases keyAllowed <;> exact later

/-! ## Closing collections -/

theorem closeTo_of_le {s : Scanner} {column : Int} (inside : s.indent ≤ column) :
    s.closeTo column = s := by
  have stays : closed column s.indent s.outer = (0, s.indent, s.outer) := by
    cases s.outer with
    | nil => rfl
    | cons o outer => rw [closed, if_neg (Int.not_lt.mpr inside)]
  unfold closeTo
  rw [stays]
  split <;> rfl

theorem closeTo_of_lt {column : Int} {o : Int} (left : column < indent) :
    (idle c produced indent (o :: outer) keyAllowed).closeTo column =
      (idle c (.blockEnd :: produced) o outer keyAllowed).closeTo column := by
  simp only [closeTo, idle, flow, closed, left, if_true]
  obtain ⟨k, last, around⟩ := closed column o outer
  simp [List.replicate_succ']

/-! ## Ready for a token -/

/-- The next token starts at `c`. Collections that end there may still be open. -/
def Ready (s : Scanner) (c : Cursor) (produced : List Token) (indent : Int) (outer : List Int)
    (keyAllowed : Bool) : Prop :=
  s.skipToToken.closeTo c.column = (idle c produced indent outer keyAllowed).closeTo c.column

theorem closeTo_cursor (s : Scanner) (column : Int) : (s.closeTo column).cursor = s.cursor := by
  unfold closeTo
  split <;> rfl

theorem closeTo_keys (s : Scanner) (column : Int) : (s.closeTo column).keys = s.keys := by
  unfold closeTo
  split <;> rfl

theorem dropStale_eq {s : Scanner} (keys : s.keys = [none]) : s.dropStale = some s := by
  obtain ⟨cursor, produced, depth, indent, outer, keyAllowed, same⟩ := s
  cases keys
  rfl

theorem Ready.step_eq {s : Scanner} (ready : Ready s c produced indent outer keyAllowed) :
    s.step = match c.rest with
      | [] => ((idle c produced indent outer keyAllowed).closeTo c.column).atEnd
      | x :: rest =>
        ((idle c produced indent outer keyAllowed).closeTo c.column).tokenAt x rest.head? := by
  have cursor : s.skipToToken.cursor = c := by
    have same := congrArg Scanner.cursor ready
    rwa [closeTo_cursor, closeTo_cursor] at same
  have keys : s.skipToToken.keys = [none] := by
    have same := congrArg Scanner.keys ready
    rwa [closeTo_keys, closeTo_keys] at same
  have rest : ((idle c produced indent outer keyAllowed).closeTo c.column).cursor.rest = c.rest := by
    rw [closeTo_cursor]
    rfl
  rw [step, dropStale_eq keys]
  simp only [Option.bind_eq_bind, Option.bind_some, cursor]
  rw [show _ = _ from ready]
  generalize (idle c produced indent outer keyAllowed).closeTo c.column = t at rest ⊢
  exact congrArg (fun text => match text with
    | [] => t.atEnd
    | x :: more => t.tokenAt x more.head?) rest

theorem ready_here (starts : startsToken c.rest = true) :
    Ready (idle c produced indent outer keyAllowed) c produced indent outer keyAllowed := by
  rw [Ready, @skipToToken_eq c.rest 0 (idle c produced indent outer keyAllowed) rfl starts]
  rfl

theorem ready_space (here : c.rest = ' ' :: rest) (starts : startsToken rest = true) :
    Ready (idle c produced indent outer keyAllowed) (c.past [' ']) produced indent outer
      keyAllowed := by
  rw [Ready, @skipToToken_eq rest 1 (idle c produced indent outer keyAllowed) here starts]
  rfl

theorem ready_line (here : c.rest = '\n' :: (spaces n ++ rest)) (starts : startsToken rest = true) :
    Ready (idle c produced indent outer keyAllowed) (c.past ('\n' :: spaces n)) produced indent outer
      true := by
  rw [Ready, skipToToken_line here starts]

theorem Ready.close {s : Scanner} {o : Int} (left : (c.column : Int) < indent)
    (ready : Ready s c produced indent (o :: outer) keyAllowed) :
    Ready s c (.blockEnd :: produced) o outer keyAllowed :=
  ready.trans (closeTo_of_lt left)

/-! ## Tokens -/

/-- What a plain scalar may start with. -/
def startsPlain (x : Char) (next : Option Char) : Bool :=
  if x == '-' || x == '?' || x == ':' then !endsWord next else !isIndicator x

theorem tokenAt_plain {s : Scanner} {x : Char} {next : Option Char}
    (starts : startsPlain x next = true) (blank : isBlank x = false) (outside : s.flow = false)
    (start : s.cursor.atMarker '-' = false) (stop : s.cursor.atMarker '.' = false) :
    s.tokenAt x next = s.plainScalar := by
  unfold startsPlain at starts
  split at starts
  · rename_i special
    simp only [Bool.or_eq_true, beq_iff_eq] at special
    have word : endsWord next = false := by simpa using starts
    have noBlank : next.any isBlank = false := by
      cases next with
      | none => rfl
      | some y => simp_all [endsWord]
    rcases special with (rfl | rfl) | rfl <;> simp [tokenAt, start, stop, outside, word, noBlank]
  · rename_i ordinary
    simp only [Bool.not_eq_true', isIndicator, isFlowIndicator, Bool.or_eq_false_iff] at starts
    simp [tokenAt, start, stop, starts, blank, isIndicator, isFlowIndicator]

end Scanner

/-! ## Names -/

theorem isWord_bounds {x : Char} (word : isWord x = true) : 0x2D ≤ x.toNat ∧ x.toNat ≤ 0x7A := by
  simp only [isWord, Bool.or_eq_true, Bool.and_eq_true, decide_eq_true_eq, beq_iff_eq,
    Char.le_def, UInt32.le_iff_toNat_le] at word
  rcases word with (((word | word) | word) | rfl) | rfl
  · exact ⟨Nat.le_trans (by decide) word.1, Nat.le_trans word.2 (by decide)⟩
  · exact ⟨Nat.le_trans (by decide) word.1, Nat.le_trans word.2 (by decide)⟩
  · exact ⟨Nat.le_trans (by decide) word.1, Nat.le_trans word.2 (by decide)⟩
  · decide
  · decide

theorem ne_of_isWord {x y : Char} (word : isWord x = true) (strange : isWord y = false) :
    x ≠ y := by
  rintro rfl
  rw [word] at strange
  cases strange

/-- Keys, and the words that stand for booleans, numbers and nothing. -/
def isName (name : List Char) : Bool :=
  !name.isEmpty && name.all isWord && name.head? != some '-'

section Name

variable {name rest : List Char} {x : Char}

theorem exists_cons_of_isName (isName : Yaml.isName name = true) :
    ∃ x more, name = x :: more ∧ isWord x = true ∧ x ≠ '-' := by
  cases name with
  | nil => cases isName
  | cons x more =>
      simp only [Yaml.isName, List.isEmpty_cons, List.all_cons, List.head?_cons, Bool.and_eq_true,
        bne_iff_ne, ne_eq, Option.some.injEq] at isName
      exact ⟨x, more, rfl, isName.1.2.1, isName.2⟩

theorem isWord_of_isName (isName : Yaml.isName name = true) : IsWord name := by
  have all : ∀ x ∈ name, isWord x = true := by
    simp only [Yaml.isName, Bool.and_eq_true, List.all_eq_true] at isName
    exact isName.1.2
  refine ⟨?_, ?_, ?_, ?_, ?_⟩
  · rintro rfl
    cases isName
  · intro x member
    have bounds := isWord_bounds (all x member)
    have inside : 0x20 ≤ x.toNat ∧ x.toNat ≤ 0x7E := by omega
    simp [isPrintable, inside]
  · intro x member
    have other {y : Char} := @ne_of_isWord x y (all x member)
    simp (disch := decide) [isBreak, other]
  · exact fun x member => ne_of_isWord (all x member) rfl
  · intro last
    exact ne_of_isWord (all ':' (List.mem_of_getLast? last)) rfl rfl

theorem startsPlain_of_isWord (word : isWord x = true) (dash : x ≠ '-') (next : Option Char) :
    Scanner.startsPlain x next = true := by
  have other {y : Char} := @ne_of_isWord x y word
  simp (disch := decide) [Scanner.startsPlain, isIndicator, isFlowIndicator, dash, other]

theorem startsToken_of_isName (isName : Yaml.isName name = true) :
    startsToken (name ++ rest) = true := by
  obtain ⟨x, more, rfl, word, dash⟩ := exists_cons_of_isName isName
  have whole := isWord_of_isName isName
  exact startsToken_cons.mpr ⟨whole.not_blank List.mem_cons_self,
    whole.not_break x List.mem_cons_self, ne_of_isWord word rfl, ne_of_isWord word rfl⟩

end Name

/-! ## Steps -/

namespace Scanner

/-- After `n` steps, none of which fails or comes to the end of the text. -/
def Leads (n : Nat) (s t : Scanner) : Prop := ∀ fuel, scanFrom (fuel + n) s = scanFrom fuel t

theorem Leads.trans {m n : Nat} {s t u : Scanner} (first : Leads m s t) (second : Leads n t u) :
    Leads (m + n) s u := by
  intro fuel
  rw [Nat.add_comm m n, ← Nat.add_assoc, first, second]

theorem Leads.one {s t : Scanner} (step : s.step = some t)
    (goesOn : t.produced.head? ≠ some .streamEnd) (fresh : t.dropStale = some t) :
    Leads 1 s t := by
  intro fuel
  simp [scanFrom, step, goesOn, fresh]

/-- What opens a collection at a column, if none is open there. -/
def opening (column : Nat) (indent : Int) : List Token :=
  if column ≤ indent then [] else [.blockMappingStart]

/-- The columns around a collection at a column. -/
def around (column : Nat) (indent : Int) (outer : List Int) : List Int :=
  if column ≤ indent then outer else indent :: outer

variable {s : Scanner} {c : Cursor} {produced : List Token} {indent : Int} {outer : List Int}
  {after : List Char}

/-- Behind a key the colon is awaited. -/
def behindKey (c : Cursor) (key : List Char) (produced : List Token) (indent : Int)
    (outer : List Int) : Scanner :=
  { cursor := c.past key, produced := .scalar key .plain :: produced, indent, outer,
    keyAllowed := false,
    keys := [some { required := indent == (c.column : Int), position := produced.length,
                    index := c.index, line := c.line, column := c.column }] }

theorem dropStale_behindKey {key : List Char} (line : ∀ x ∈ key, isBreak x = false)
    (short : key.length ≤ 1024) : (behindKey c key produced indent outer).dropStale =
      some (behindKey c key produced indent outer) := by
  have stays : ¬c.index + 1024 < (c.past key).index ∧ ¬c.line < (c.past key).line := by
    rw [← Cursor.advance_eq_past line]
    exact ⟨Nat.not_lt.mpr (Nat.add_le_add_left short c.index), Nat.lt_irrefl c.line⟩
  simp [dropStale, behindKey, isStale, stays]

theorem Ready.key {key : List Char} (ready : Ready s c produced indent outer true)
    (isName : Yaml.isName key = true) (short : key.length ≤ 1024)
    (here : c.rest = key ++ ':' :: after) (ends : endsWord after.head? = true)
    (inside : indent ≤ c.column) : Leads 1 s (behindKey c key produced indent outer) := by
  have isWord := isWord_of_isName isName
  obtain ⟨x, more, rfl, word, dash⟩ := exists_cons_of_isName isName
  have marker : c.atMarker '-' = false ∧ c.atMarker '.' = false :=
    ⟨Cursor.not_atMarker here dash, Cursor.not_atMarker here (ne_of_isWord word rfl)⟩
  have document : c.atDocumentMarker = false := by simp [Cursor.atDocumentMarker, marker]
  have comment : (x :: more).head? ≠ some '#' := by simpa using ne_of_isWord word rfl
  have read := @scanPlain_key (indent + 1) c _ _ isWord here ends document comment
  refine .one ?_ (by simp [behindKey]) (dropStale_behindKey isWord.not_break short)
  rw [ready.step_eq, closeTo_of_le inside, here]
  simp only [List.cons_append]
  rw [tokenAt_plain (startsPlain_of_isWord word dash _) (isWord.not_blank List.mem_cons_self) rfl
    marker.1 marker.2]
  simp [plainScalar, saveKey, dropKey, idle, flow, read, behindKey, produce]

theorem leads_colon {key : List Char} (isName : Yaml.isName key = true) (short : key.length ≤ 1024)
    (here : c.rest = key ++ ':' :: after) (ends : endsWord after.head? = true)
    (inside : indent ≤ c.column) :
    Leads 1 (behindKey c key produced indent outer)
      (idle (c.past (key ++ [':'])) ([.value, .scalar key .plain, .key] ++ opening c.column indent ++
        produced) c.column (around c.column indent outer) false) := by
  have behind : (c.past key).rest = ':' :: after := Cursor.rest_past here
  have starts : startsToken (':' :: after) = true := rfl
  have stays : (behindKey c key produced indent outer).skipToToken =
      behindKey c key produced indent outer :=
    @skipToToken_eq _ 0 (behindKey c key produced indent outer) behind starts
  have line := (isWord_of_isName isName).not_break
  have fresh := @dropStale_behindKey c produced indent outer key line short
  have open' : (behindKey c key produced indent outer).indent ≤
      ((behindKey c key produced indent outer).cursor.column : Int) := by
    show indent ≤ ((c.past key).column : Int)
    rw [Cursor.column_past line]
    omega
  refine .one ?_ (by simp [idle]) (dropStale_eq rfl)
  rw [step, stays, fresh]
  simp only [Option.bind_eq_bind, Option.bind_some]
  rw [closeTo_of_le open', show (behindKey c key produced indent outer).cursor.rest = _ from behind]
  have colon : (behindKey c key produced indent outer).tokenAt ':' after.head? =
      (behindKey c key produced indent outer).mappingValue := by
    have dash : (c.past key).atMarker '-' = false := Cursor.not_atMarker behind (by decide)
    have dot : (c.past key).atMarker '.' = false := Cursor.not_atMarker behind (by decide)
    simp [tokenAt, behindKey, dash, dot, flow, ends]
  simp only [colon]
  -- The key goes in front of its scalar, and with it the start of a mapping if this is its first.
  by_cases inner : (c.column : Int) ≤ indent
  · have same : (c.column : Int) = indent := Int.le_antisymm inner inside
    simp [mappingValue, behindKey, produceAt, openAt, flow, opening, around, produce, idle,
      advance, Cursor.past_append, same]
    rfl
  · simp [mappingValue, behindKey, produceAt, openAt, flow, inner, opening, around, produce, idle,
      advance, Cursor.past_append]
    refine ⟨rfl, ?_⟩
    rw [show produced.length + 1 + 1 - produced.length = 2 by omega]
    rfl

theorem Ready.entry {key : List Char} (ready : Ready s c produced indent outer true)
    (isName : Yaml.isName key = true) (short : key.length ≤ 1024)
    (here : c.rest = key ++ ':' :: after) (ends : endsWord after.head? = true)
    (inside : indent ≤ c.column) :
    Leads 2 s (idle (c.past (key ++ [':'])) ([.value, .scalar key .plain, .key] ++
      opening c.column indent ++ produced) c.column (around c.column indent outer) false) :=
  (ready.key isName short here ends inside).trans (leads_colon isName short here ends inside)

/-! ## Values -/

/-- The next token stands at the front of `text`, in a column. -/
def At (s : Scanner) (column : Nat) (text : List Char) (produced : List Token) (indent : Int)
    (outer : List Int) : Prop :=
  ∃ c : Cursor, c.rest = text ∧ c.column = column ∧ Ready s c produced indent outer true

variable {text rest : List Char} {i k : Nat}

theorem at_here (here : c.rest = text) (column : c.column = k) (starts : startsToken text = true) :
    At (idle c produced indent outer true) k text produced indent outer :=
  ⟨c, here, column, ready_here (here ▸ starts)⟩

theorem at_line {keyAllowed : Bool} (here : c.rest = '\n' :: (spaces k ++ rest))
    (starts : startsToken rest = true) :
    At (idle c produced indent outer keyAllowed) k rest produced indent outer := by
  refine ⟨c.past ('\n' :: spaces k), Cursor.rest_past here, ?_, ready_line here starts⟩
  exact Cursor.column_past_line rfl c [] k

theorem leads_value {d : Cursor} {x : Char} {text : List Char} {style : Style} {keyAllowed : Bool}
    (here : c.rest = ' ' :: x :: rest) (starts : startsToken (x :: rest) = true)
    (inside : indent < c.column)
    (token : (idle (c.past [' ']) produced indent outer false).tokenAt x rest.head? =
      some (idle d (.scalar text style :: produced) indent outer keyAllowed)) :
    Leads 1 (idle c produced indent outer false)
      (idle d (.scalar text style :: produced) indent outer keyAllowed) := by
  have column : indent ≤ ((c.past [' ']).column : Int) := by
    rw [Cursor.column_past_space]
    omega
  refine .one ?_ (by simp [idle]) (dropStale_eq rfl)
  rw [(ready_space here starts).step_eq, closeTo_of_le column, @Cursor.rest_past c [' '] _ here]
  exact token

theorem At.entry {key : List Char} {column : Nat} (isName : Yaml.isName key = true)
    (short : key.length ≤ 1024) (ends : endsWord after.head? = true) (inside : indent ≤ column)
    (here : At s column (key ++ ':' :: after) produced indent outer) :
    ∃ c, c.rest = after ∧ (column : Int) < c.column ∧
      Leads 2 s (idle c ([.value, .scalar key .plain, .key] ++ opening column indent ++ produced)
        column (around column indent outer) false) := by
  obtain ⟨c, front, rfl, ready⟩ := here
  have line : ∀ x ∈ key ++ [':'], isBreak x = false := by
    simpa [or_imp, forall_and] using ⟨(isWord_of_isName isName).not_break, rfl⟩
  refine ⟨c.past (key ++ [':']), Cursor.rest_past (by simpa using front), ?_,
    ready.entry isName short front ends inside⟩
  rw [Cursor.column_past line, List.length_append, List.length_singleton]
  omega

/-- A text that is written plain. -/
structure PlainText (text : List Char) : Prop where
  words : Words text
  starts : ∀ x rest, text = x :: rest → startsPlain x rest.head? = true

theorem plainText_of_isName (isName : Yaml.isName text = true) : PlainText text where
  words := .last (isWord_of_isName isName)
  starts x rest same := by
    obtain ⟨y, more, rfl, word, dash⟩ := exists_cons_of_isName isName
    cases same
    exact startsPlain_of_isWord word dash _

theorem plainText_of_holdsPlain (nonempty : text ≠ []) (holds : holdsPlain text = true) :
    PlainText text where
  words := words_of_holdsPlain nonempty holds
  starts x rest same := by
    subst same
    simp only [holdsPlain, Bool.and_eq_true, Bool.not_eq_true'] at holds
    have indicator := holds.1.2
    simp only [startsWithIndicator] at indicator
    unfold startsPlain
    split
    · rename_i special
      rw [if_pos special] at indicator
      simpa using (Bool.or_eq_false_iff.mp indicator).1
    · rename_i ordinary
      rw [if_neg ordinary] at indicator
      simpa using (Bool.or_eq_false_iff.mp indicator).1

theorem PlainText.exists_cons (plain : PlainText text) : ∃ x rest, text = x :: rest ∧
    ∀ more, startsToken (x :: more) = true ∧
      startsPlain x (rest ++ '\n' :: more).head? = true := by
  obtain ⟨x, rest, rfl, printable, breaks, space⟩ := plain.words.exists_cons
  have starts := plain.starts x rest rfl
  have blank : isBlank x = false :=
    Bool.eq_false_iff.mpr fun blank => space (printable_blank printable blank)
  have comment : x ≠ '#' := by
    rintro rfl
    cases starts
  have mark : x ≠ '\uFEFF' := by
    rintro rfl
    revert printable
    decide
  refine ⟨x, rest, rfl, fun more => ⟨startsToken_cons.mpr ⟨blank, breaks, comment, mark⟩, ?_⟩⟩
  cases rest with
  | nil =>
      unfold startsPlain at starts ⊢
      split <;> simp_all [endsWord]
  | cons y rest => exact starts

theorem leads_plain (plain : PlainText text)
    (here : c.rest = ' ' :: (text ++ '\n' :: (spaces k ++ rest))) (left : k ≤ i)
    (inside : (i : Int) < c.column) (starts : startsToken rest = true) :
    ∃ t, Leads 1 (idle c produced i outer false) t ∧
      At t k rest (.scalar text .plain :: produced) i outer := by
  obtain ⟨x, more, rfl, front⟩ := plain.exists_cons
  obtain ⟨startsHere, plainHere⟩ := front (spaces k ++ rest)
  have blank := (startsToken_cons.mp startsHere).1
  have comment := (startsToken_cons.mp startsHere).2.2.1
  have behind := @Cursor.rest_past c [' '] _ here
  have column := c.column_past_space
  have read := @scanPlain_words (i + 1) (c.past [' ']) k rest _ plain.words behind
    (endsGap_of_startsToken starts) (by omega) (by omega) (by simpa using comment)
  let d := (c.past [' ']).past (x :: more ++ '\n' :: spaces k)
  have rest' : d.rest = rest := Cursor.rest_past (by simpa using behind)
  have column' : d.column = k := Cursor.column_past_line rfl _ _ k
  have token : (idle (c.past [' ']) produced i outer false).tokenAt x
      (more ++ '\n' :: (spaces k ++ rest)).head? =
        some (idle d (.scalar (x :: more) .plain :: produced) i outer true) := by
    rw [tokenAt_plain plainHere blank rfl (c.not_atMarker_space '-') (c.not_atMarker_space '.')]
    simp [plainScalar, saveKey, idle, flow, read, produce, d]
  exact ⟨_, leads_value here startsHere inside token, at_here rest' column' starts⟩

theorem leads_quoted {single : Bool} {mark : Char} {body : List Char}
    (quote : mark = if single then '\'' else '"')
    (here : c.rest = ' ' :: mark :: (body ++ '\n' :: (spaces k ++ rest)))
    (inside : (i : Int) < c.column) (starts : startsToken rest = true)
    (read : scanQuoted single (c.past [' ']) = some (text, (c.past [' ']).past (mark :: body))) :
    ∃ t, Leads 1 (idle c produced i outer false) t ∧
      At t k rest (.scalar text (if single then .singleQuoted else .doubleQuoted) :: produced) i
        outer := by
  have behind := @Cursor.rest_past c [' '] _ here
  have token : (idle (c.past [' ']) produced i outer false).tokenAt mark
      (body ++ '\n' :: (spaces k ++ rest)).head? =
        some (idle ((c.past [' ']).past (mark :: body))
          (.scalar text (if single then .singleQuoted else .doubleQuoted) :: produced) i outer
          false) := by
    cases single <;> simp [quote, tokenAt, c.not_atMarker_space, idle, flow, quotedScalar, saveKey,
      read, produce]
  refine ⟨_, leads_value here ?_ inside token, at_line (Cursor.rest_past behind) starts⟩
  cases single <;> subst quote <;> rfl

theorem leads_literal (nonempty : text ≠ []) (printable : text.all isPrintable = true)
    (here : c.rest = ' ' :: (literalMark text ++ '\n' ::
      (blockLines (i + 2) text ++ (spaces k ++ rest))))
    (left : k ≤ i) (inside : (i : Int) < c.column) (starts : startsToken rest = true) :
    ∃ t, Leads 1 (idle c produced i outer false) t ∧
      At t k rest (.scalar text .literal :: produced) i outer := by
  obtain ⟨mark, same⟩ : ∃ mark, literalMark text = '|' :: mark := ⟨_, by
    rw [literalMark, List.append_assoc, List.singleton_append]⟩
  have behind : (c.past [' ']).rest = literalMark text ++ '\n' ::
      (blockLines (i + 2) text ++ (spaces k ++ rest)) := @Cursor.rest_past c [' '] _ here
  have read := scanBlock_eq nonempty printable behind left (endsGap_of_startsToken starts)
  let d := (c.past [' ']).past
    (literalMark text ++ '\n' :: (blockLines (i + 2) text ++ spaces k))
  have rest' : d.rest = rest := Cursor.rest_past (by simpa using behind)
  have column' : d.column = k := by
    obtain ⟨front, x, lines, breaks⟩ := @exists_last_blockLines (i + 2) text nonempty
    have row : literalMark text ++ '\n' :: (blockLines (i + 2) text ++ spaces k) =
        literalMark text ++ '\n' :: front ++ x :: spaces k := by simp [lines]
    simp only [d, row]
    rw [Cursor.column_past_line breaks]
  rw [same] at here
  have token : (idle (c.past [' ']) produced i outer false).tokenAt '|'
      (mark ++ '\n' :: (blockLines (i + 2) text ++ (spaces k ++ rest))).head? =
        some (idle d (.scalar text .literal :: produced) i outer true) := by
    simp [tokenAt, c.not_atMarker_space, idle, flow, blockScalar, dropKey, read, produce, d]
  exact ⟨_, leads_value here rfl inside token, at_here rest' column' starts⟩

theorem At.close {column : Nat} {o : Int} (left : (column : Int) < indent)
    (here : At s column text produced indent (o :: outer)) :
    At s column text (.blockEnd :: produced) o outer := by
  obtain ⟨c, rest, same, ready⟩ := here
  exact ⟨c, rest, same, ready.close (same ▸ left)⟩

/-! ## The end of the text -/

theorem At.finish (here : At s 0 [] produced 0 [-1]) (fuel : Nat) :
    scanFrom (fuel + 1) s = ⟨produced.reverse ++ [.blockEnd, .streamEnd], true⟩ := by
  obtain ⟨c, empty, column, ready⟩ := here
  have step := ready.step_eq
  rw [empty, column, closeTo_of_le (by simp [idle])] at step
  rw [scanFrom, step]
  simp [atEnd, closeTo, idle, flow, closed, dropKey, produce]

end Scanner

end BackendLink.Yaml
