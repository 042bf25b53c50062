import BackendLink.Config.Written
import BackendLink.Proofs.Yaml.Written
import BackendLink.Yaml.Compose

/-!
# Written records are read back as trees

A record is scanned in the order of its tree, whatever stands behind it: values and entries are two
halves of one induction (`leads_value`, `leads_entries`), and so is the composition of their tokens
(`node_tokens`, `blockEntries_tokens`). `read_render` puts both together for a whole document.
-/

namespace BackendLink.Config
open Yaml

namespace Written

mutual

/-- Words and keys are names, and every record has an entry. -/
def isFine : Written → Bool
  | .word name => isName name.toList
  | .text _ => true
  | .record entries => !entries.isEmpty && areFine entries

def areFine : List (String × Written) → Bool
  | [] => true
  | (key, value) :: rest =>
    isName key.toList && decide (key.toList.length ≤ 1024) && value.isFine && areFine rest

end

mutual

def tokens : Written → List Token
  | .word name => [.scalar name.toList .plain]
  | .text value => [.scalar value.toList (style value.toList)]
  | .record entries => .blockMappingStart :: (entriesTokens entries ++ [.blockEnd])

def entriesTokens : List (String × Written) → List Token
  | [] => []
  | (key, value) :: rest =>
    .key :: .scalar key.toList .plain :: .value :: (value.tokens ++ entriesTokens rest)

end

mutual

def node : Written → Node
  | .word name => .scalar none none .plain name.toList
  | .text value => .scalar none none (style value.toList) value.toList
  | .record entries => .mapping none (nodes entries)

def nodes : List (String × Written) → List (Node × Node)
  | [] => []
  | (key, value) :: rest => (.scalar none none .plain key.toList, value.node) :: nodes rest

end

/-! ## Texts -/

variable {entries more : List (String × Written)} {key : String} {value : Written} {n k : Nat}
  {rest text : List Char}

theorem areFine_cons : areFine ((key, value) :: more) = true ↔ isName key.toList = true ∧
    key.toList.length ≤ 1024 ∧ value.isFine = true ∧ areFine more = true := by
  simp [areFine, and_assoc]

theorem endsWord_render (value : Written) (n : Nat) (rest : List Char) :
    endsWord (value.render n ++ rest).head? = true := by
  cases value with
  | word text => rfl
  | record entries => rfl
  | text value =>
      rw [render, written]
      split <;> rfl

theorem renderEntries_cons_eq (rest : List Char) :
    renderEntries n ((key, value) :: more) ++ rest = spaces n ++ (key.toList ++ ':' ::
      (value.render (n + 2) ++ (renderEntries n more ++ rest))) := by
  simp [renderEntries]

/-- Behind the indentation the first key stands. -/
theorem exists_front (nonempty : entries ≠ []) (fine : areFine entries = true) (n : Nat)
    (rest : List Char) :
    ∃ text, renderEntries n entries ++ rest = spaces n ++ text ∧ startsToken text = true := by
  cases entries with
  | nil => exact absurd rfl nonempty
  | cons entry more =>
      obtain ⟨key, value⟩ := entry
      exact ⟨_, renderEntries_cons_eq rest, startsToken_of_isName (areFine_cons.mp fine).1⟩

mutual

theorem printable_render (n : Nat) : (value : Written) → value.isFine = true →
    (value.render n).all isPrintable = true
  | .word name, fine => by
      have word := List.all_eq_true.mpr (isWord_of_isName fine).printable
      simp only [render, List.all_append, word]
      rfl
  | .text value, _ => printable_written n value.toList
  | .record entries, fine => by
      rw [render, List.all_append,
        printable_renderEntries n entries (Bool.and_eq_true_iff.mp fine).2]
      rfl

theorem printable_renderEntries (n : Nat) : (entries : List (String × Written)) →
    areFine entries = true → (renderEntries n entries).all isPrintable = true
  | [], _ => rfl
  | (key, value) :: rest, fine => by
      obtain ⟨name, -, first, others⟩ := areFine_cons.mp fine
      have word := List.all_eq_true.mpr (isWord_of_isName name).printable
      simp only [renderEntries, List.all_append, printable_spaces, word,
        printable_render (n + 2) value first, printable_renderEntries n rest others]
      rfl

end

/-! ## Scanning -/

open Scanner

mutual

theorem leads_value {i k : Nat} (left : k ≤ i) {rest : List Char}
    (starts : startsToken rest = true) : (value : Written) → value.isFine = true →
    ∀ (c : Cursor) (produced : List Token) (outer : List Int),
      c.rest = value.render (i + 2) ++ (spaces k ++ rest) → (i : Int) < c.column →
      ∃ n t, n ≤ (value.render (i + 2)).length ∧ Leads n (idle c produced i outer false) t ∧
        At t k rest (value.tokens.reverse ++ produced) i outer
  | .word name, fine => by
      intro c produced outer here inside
      obtain ⟨t, leads, there⟩ := @leads_plain c produced outer name.toList rest i k
        (plainText_of_isName fine) (by simpa [render] using here) left inside starts
      exact ⟨1, t, by simp [render], leads, there⟩
  | .text value, _ => by
      intro c produced outer here inside
      obtain ⟨t, leads, there⟩ := @leads_written c produced outer rest i k value.toList here left
        inside starts
      have long : 1 ≤ (written (i + 2) value.toList).length := by
        unfold written
        split <;> simp
      exact ⟨1, t, long, leads, there⟩
  | .record entries, fine => by
      intro c produced outer here inside
      simp only [isFine, Bool.and_eq_true, Bool.not_eq_true', List.isEmpty_eq_false_iff] at fine
      obtain ⟨text, lines, front⟩ := exists_front fine.1 fine.2 (i + 2) (spaces k ++ rest)
      have line : c.rest = '\n' :: (spaces (i + 2) ++ text) := by
        rw [here, render, List.append_assoc, lines]
        rfl
      obtain ⟨n, t, bound, leads, there⟩ := leads_entries (by omega : k ≤ i + 2) starts entries
        fine.1 fine.2 _ _ i _ text lines (by omega) (at_line line front)
      -- The entries stand further in, so they open a mapping, and what comes behind them closes it.
      have inner : ¬ ((i + 2 : Nat) : Int) ≤ i := by omega
      simp only [opening, around, if_neg inner] at there
      refine ⟨n, t, ?_, leads, ?_⟩
      · rw [render, List.length_append]
        omega
      · simpa [tokens] using there.close (by omega)

theorem leads_entries {j k : Nat} (left : k ≤ j) {rest : List Char}
    (starts : startsToken rest = true) : (entries : List (String × Written)) → entries ≠ [] →
    areFine entries = true → ∀ (s : Scanner) (produced : List Token) (indent : Int)
      (outer : List Int) (text : List Char),
      renderEntries j entries ++ (spaces k ++ rest) = spaces j ++ text → indent ≤ j →
      At s j text produced indent outer →
      ∃ n t, n ≤ (renderEntries j entries).length ∧ Leads n s t ∧
        At t k rest ((entriesTokens entries).reverse ++ (opening j indent ++ produced)) j
          (around j indent outer)
  | [], nonempty, _ => absurd rfl nonempty
  | (key, value) :: more, _, fine => by
      intro s produced indent outer text lines inside here
      obtain ⟨name, short, first, others⟩ := areFine_cons.mp fine
      rw [renderEntries_cons_eq] at lines
      obtain rfl := List.append_cancel_left lines
      obtain ⟨c, behind, further, entered⟩ :=
        here.entry name short (endsWord_render value (j + 2) _) inside
      have size : 1 ≤ key.toList.length := List.length_pos_iff.mpr (isWord_of_isName name).ne_nil
      cases more with
      | nil =>
          obtain ⟨n, t, bound, leads, there⟩ :=
            leads_value left starts value first c _ _ behind further
          refine ⟨2 + n, t, ?_, entered.trans leads, by simpa [entriesTokens] using there⟩
          simp only [renderEntries, List.length_append, List.length_singleton]
          omega
      | cons entry more =>
          -- Behind the value stands the next key, in the column of this one.
          obtain ⟨text, lines, front⟩ := exists_front (by simp) others j (spaces k ++ rest)
          rw [lines] at behind
          obtain ⟨n, t, bound, leads, there⟩ :=
            leads_value (Nat.le_refl j) front value first c _ _ behind further
          obtain ⟨n', t', bound', leads', there'⟩ := leads_entries left starts (entry :: more)
            (by simp) others t _ j _ text lines (Int.le_refl j) there
          refine ⟨2 + n + n', t', ?_, (entered.trans leads).trans leads', ?_⟩
          · rw [renderEntries]
            simp only [List.length_append, List.length_singleton]
            omega
          · simpa [opening, around, entriesTokens] using there'

end

/-- The first character of a document is that of its first key. -/
theorem scan_render (nonempty : entries ≠ []) (fine : areFine entries = true) :
    scan (renderEntries 0 entries) =
      ⟨.blockMappingStart :: (entriesTokens entries ++ [.blockEnd, .streamEnd]), true⟩ := by
  have allowed : (renderEntries 0 entries).all isAllowed = true :=
    List.all_eq_true.mpr fun x member => isAllowed_of_printable
      (List.all_eq_true.mp (printable_renderEntries 0 entries fine) x member)
  obtain ⟨text, lines, front⟩ := exists_front nonempty fine 0 []
  have whole : renderEntries 0 entries = text := by simpa using lines
  have mark : (renderEntries 0 entries).head? ≠ some '\uFEFF' := by
    rw [whole]
    intro head
    exact (stops_of_startsToken front _ head).2.2 rfl
  obtain ⟨n, t, bound, leads, there⟩ :=
    leads_entries (Nat.le_refl 0) rfl entries nonempty fine _ [] (-1) [] text lines (by decide)
      (at_here (c := ⟨text, 0, 0, 0⟩) rfl rfl front)
  rw [scan, if_pos allowed, if_neg mark]
  obtain ⟨fuel, enough⟩ : ∃ fuel, (renderEntries 0 entries).length + 2 = fuel + 1 + n :=
    ⟨(renderEntries 0 entries).length + 1 - n, by omega⟩
  rw [enough, whole]
  refine (leads _).trans ((there.finish fuel).trans ?_)
  simp [opening]

/-! ## Composing -/

section Compose

open Composer

variable {c : Composer} {tokens : List Token} {indentless : Bool} {style : Style} {fuel : Nat}

theorem node_scalar (here : c.tokens = .scalar text style :: tokens) :
    Composer.node true indentless (fuel + 1) c =
      (.scalar none none style text, some { c with tokens }) := by
  simp [Composer.node, Composer.next, properties, fullTag?, name, skip, here]

theorem node_mapping (here : c.tokens = .blockMappingStart :: tokens) :
    Composer.node true indentless (fuel + 1) c =
      ((.mapping none (blockEntries fuel { c with tokens }).1),
        (blockEntries fuel { c with tokens }).2) := by
  simp [Composer.node, Composer.next, properties, fullTag?, name, skip, here]

theorem nodeUnless_tokens (value : Written) (here : c.tokens = value.tokens ++ tokens) :
    nodeUnless endsBlockPart true true (fuel + 1) c = Composer.node true true fuel c := by
  cases value <;> simp [nodeUnless, Composer.next, here, Written.tokens, endsBlockPart]

theorem blockEntries_entry (here : c.tokens = .key :: .scalar text .plain :: .value ::
    (value.tokens ++ tokens)) (read : Composer.node true true fuel
      { c with tokens := value.tokens ++ tokens } = (value.node, some { c with tokens })) :
    blockEntries (fuel + 3) c =
      ((.scalar none none .plain text, value.node) ::
          (blockEntries (fuel + 2) { c with tokens }).1,
        (blockEntries (fuel + 2) { c with tokens }).2) := by
  let behind : Composer := { c with tokens := .value :: (value.tokens ++ tokens) }
  have named : nodeUnless endsBlockPart true true (fuel + 2) c.skip =
      (.scalar none none .plain text, some behind) := by
    have scalar : c.skip.tokens = .scalar text .plain :: behind.tokens := congrArg List.tail here
    rw [nodeUnless, Composer.next, scalar]
    exact node_scalar scalar
  have valued : blockValue (fuel + 2) behind = (value.node, some { c with tokens }) := by
    rw [blockValue]
    exact (nodeUnless_tokens value rfl).trans read
  rw [blockEntries]
  simp only [Composer.next, here, List.head?_cons, named, valued]

end Compose

open Composer

mutual

/-- Every level of the tree takes two steps of the bound, every entry at least one token. -/
theorem node_tokens (indentless : Bool) : (value : Written) → ∀ (fuel : Nat) (c : Composer)
    (rest : List Token), c.tokens = value.tokens ++ rest → 4 * value.tokens.length ≤ fuel →
    Composer.node true indentless fuel c = (value.node, some { c with tokens := rest })
  | .word name => by
      intro fuel c rest here enough
      obtain ⟨fuel, rfl⟩ := Nat.exists_eq_add_of_le' (Nat.le_of_lt enough)
      exact node_scalar here
  | .text value => by
      intro fuel c rest here enough
      obtain ⟨fuel, rfl⟩ := Nat.exists_eq_add_of_le' (Nat.le_of_lt enough)
      exact node_scalar here
  | .record entries => by
      intro fuel c rest here enough
      simp only [tokens, List.length_cons, List.length_append, List.length_nil] at enough
      obtain ⟨fuel, rfl⟩ : ∃ more, fuel = more + 1 := ⟨fuel - 1, by omega⟩
      rw [node_mapping (here.trans List.cons_append), blockEntries_tokens entries fuel _ rest
        (by simp) (by omega), node]

theorem blockEntries_tokens : (entries : List (String × Written)) → ∀ (fuel : Nat) (c : Composer)
    (rest : List Token), c.tokens = entriesTokens entries ++ .blockEnd :: rest →
    4 * (entriesTokens entries).length < fuel →
    blockEntries fuel c = (nodes entries, some { c with tokens := rest })
  | [] => by
      intro fuel c rest here enough
      obtain ⟨fuel, rfl⟩ := Nat.exists_eq_add_of_lt enough
      simp [blockEntries, Composer.next, skip, here, nodes, entriesTokens]
  | (key, value) :: more => by
      intro fuel c rest here enough
      simp only [entriesTokens, List.length_cons, List.length_append] at enough
      obtain ⟨fuel, rfl⟩ : ∃ more, fuel = more + 3 := ⟨fuel - 3, by omega⟩
      have read := node_tokens true value fuel
        { c with tokens := value.tokens ++ (entriesTokens more ++ .blockEnd :: rest) } _ rfl
        (by omega)
      rw [blockEntries_entry (by simpa [entriesTokens] using here) read,
        blockEntries_tokens more (fuel + 2) _ rest rfl (by omega), nodes]

end

theorem read_render (nonempty : entries ≠ []) (fine : areFine entries = true) :
    Yaml.read (renderEntries 0 entries) = ⟨some (.mapping none (nodes entries)), true⟩ := by
  let all : List Token := .blockMappingStart :: (entriesTokens entries ++ [.blockEnd, .streamEnd])
  have enough : 4 * (Written.record entries).tokens.length ≤ 4 * all.length + 8 := by
    simp only [all, tokens, List.length_cons, List.length_append]
    omega
  have composed := node_tokens false (.record entries) (4 * all.length + 8) { tokens := all }
    [.streamEnd] (by simp [tokens, all]) enough
  rw [Yaml.read, scan_render nonempty fine, compose, firstRoot]
  · simp only [all] at composed
    simp only [composed]
    rfl
  all_goals simp

end Written

end BackendLink.Config
