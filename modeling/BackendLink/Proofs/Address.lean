import BackendLink.Address
import BackendLink.Proofs.Text.Unsigned

/-!
# The host of an address

An address is written in exactly one of three forms (`existsUnique_form`): with a host in brackets,
with a host in front of its only colon and a port behind it, or with no port that could be told from
the host. What `hostOf` gives for each form undoes the writing (`hostOf_inverts`).
-/

namespace BackendLink.Address
open Text

/-! ## The last colon -/

theorem splitLastColon_eq_none_iff {text : List Char} :
    splitLastColon text = none ↔ ':' ∉ text := by
  induction text with
  | nil => simp [splitLastColon]
  | cons c rest ih =>
      rw [splitLastColon, List.mem_cons, not_or, ← ih, eq_comm (a := ':')]
      cases splitLastColon rest with
      | some parts => simp
      | none => simp

theorem splitLastColon_eq_some_iff {text before after : List Char} :
    splitLastColon text = some (before, after) ↔
      text = before ++ ':' :: after ∧ ':' ∉ after := by
  constructor
  · intro cut
    induction text generalizing before with
    | nil => cases cut
    | cons c rest ih =>
        rw [splitLastColon] at cut
        split at cut
        · rename_i front back behind
          cases cut
          obtain ⟨rfl, last⟩ := ih behind
          exact ⟨rfl, last⟩
        · rename_i uncut
          split at cut
          · rename_i colon
            cases cut
            exact ⟨by rw [colon, List.nil_append], splitLastColon_eq_none_iff.mp uncut⟩
          · cases cut
  · rintro ⟨rfl, last⟩
    have uncut := splitLastColon_eq_none_iff.mpr last
    induction before with
    | nil => simp [splitLastColon, uncut]
    | cons c before ih => simp [splitLastColon, ih]

theorem eq_of_colon {text : String} {before after : List Char}
    (parts : text.toList = before ++ ':' :: after) :
    text = .ofList before ++ ":" ++ .ofList after := by
  apply String.toList_inj.mp
  simp [parts]

/-! ## Ports -/

/-- A number of 16 bits in decimal, behind any number of zeros and at most one plus sign. -/
def IsPort (text : String) : Prop := ∃ n ≤ 65535, Writes text.toList n

/-- A text without the plus sign at its front. -/
def behindSign : List Char → List Char
  | '+' :: rest => rest
  | text => text

theorem isSome_port?_iff {text : String} : (port? text.toList).isSome ↔ IsPort text := by
  simp [Option.isSome_iff_exists, port?, unsigned?_eq_some_iff, IsPort]

theorem writes_iff {text : List Char} {n : Nat} :
    Writes text n ↔ behindSign text ≠ [] ∧ (∀ c ∈ behindSign text, c.isDigit) ∧
      decimalValue (behindSign text) = n := by
  unfold behindSign
  split
  · rw [writes_plus, writes_digits_iff]
  · rename_i unsigned
    rw [writes_unsigned unsigned, writes_digits_iff]

theorem isPort_iff {text : String} :
    IsPort text ↔ behindSign text.toList ≠ [] ∧ (∀ c ∈ behindSign text.toList, c.isDigit) ∧
      decimalValue (behindSign text.toList) ≤ 65535 := by
  simp only [IsPort, writes_iff]
  constructor
  · rintro ⟨n, within, nonempty, digits, rfl⟩
    exact ⟨nonempty, digits, within⟩
  · rintro ⟨nonempty, digits, within⟩
    exact ⟨_, within, nonempty, digits, rfl⟩

theorem IsPort.plus_or_digit {text : String} (port : IsPort text) {c : Char}
    (member : c ∈ text.toList) : c = '+' ∨ c.isDigit := by
  obtain ⟨n, -, sign, zeros, signed, parts⟩ := port
  rw [parts] at member
  rcases List.mem_append.mp member with front | digit
  · rcases signed with rfl | rfl
    · cases front
    · exact .inl (List.mem_singleton.mp front)
  · exact .inr (isDigit_of_mem_form digit)

theorem IsPort.colon_not_mem {text : String} (port : IsPort text) : ':' ∉ text.toList :=
  fun colon => absurd (port.plus_or_digit colon) (by decide)

/-- A port has no colon, so an address is cut in front of it. -/
theorem IsPort.cut {port : String} (read : IsPort port) (host : String) :
    splitLastColon (host ++ ":" ++ port).toList = some (host.toList, port.toList) :=
  splitLastColon_eq_some_iff.mpr ⟨by simp, read.colon_not_mem⟩

theorem isPort_toString (n : UInt16) : IsPort (toString n.toNat) := by
  refine ⟨n.toNat, Nat.le_of_lt_succ n.toNat_lt, [], 0, .inl rfl, ?_⟩
  simp

/-! ## The three forms -/

/-- A bracket at the front is closed somewhere behind. -/
def Bracketed (addr : String) : Prop := ∃ rest : String, addr = "[" ++ rest ∧ ']' ∈ rest.toList

/-- The host stands in front of the only colon, and a port behind it. -/
def Ported (addr host : String) : Prop :=
  ∃ port, addr = host ++ ":" ++ port ∧ ':' ∉ host.toList ∧ IsPort port

/-- No colon splits the address into a host and a port. -/
inductive Portless (addr : String) : Prop
  | noColon (none : ':' ∉ addr.toList)
  | colons (front middle last : String) (parts : addr = front ++ ":" ++ middle ++ ":" ++ last)
  | noPort (front last : String) (parts : addr = front ++ ":" ++ last)
      (final : ':' ∉ last.toList) (unread : ¬ IsPort last)

inductive Form
  | bracketed
  | ported
  | portless

def Form.Fits (addr : String) : Form → Prop
  | bracketed => Bracketed addr
  | ported => ¬ Bracketed addr ∧ ∃ host, Ported addr host
  | portless => ¬ Bracketed addr ∧ Portless addr

theorem bracketed_iff {addr : String} :
    Bracketed addr ↔ ∃ host suffix : String,
      ']' ∉ host.toList ∧ addr = "[" ++ host ++ "]" ++ suffix := by
  constructor
  · rintro ⟨rest, rfl, closed⟩
    obtain ⟨host, suffix, parts, first⟩ := List.eq_append_cons_of_mem closed
    refine ⟨.ofList host, .ofList suffix, by simpa using first, ?_⟩
    apply String.toList_inj.mp
    simp [parts]
  · rintro ⟨host, suffix, -, rfl⟩
    exact ⟨host ++ "]" ++ suffix, by simp [String.append_assoc], by simp⟩

/-! ## What the host is -/

theorem hostOf_brackets {host : String} (closed : ']' ∉ host.toList) (suffix : String) :
    hostOf ("[" ++ host ++ "]" ++ suffix) = host := by
  have inside : (host.toList ++ ']' :: suffix.toList).takeWhile (· != ']') = host.toList := by
    rw [List.takeWhile_append_of_pos]
    · simp
    · intro c member
      have other : c ≠ ']' := fun same => closed (same ▸ member)
      simpa using other
  simp [hostOf, hostChars, inside]

theorem hostChars_of_not_bracketed {addr : String} (unclosed : ¬ Bracketed addr) :
    hostChars addr.toList = unbracketedHost addr.toList := by
  unfold hostChars
  split
  · rename_i rest parts
    have absent : ']' ∉ rest := by
      intro closed
      refine unclosed ⟨.ofList rest, ?_, by simpa using closed⟩
      apply String.toList_inj.mp
      simp [parts]
    rw [if_neg absent, parts]
  · rfl

theorem hostOf_ported {addr host : String} (unclosed : ¬ Bracketed addr)
    (ported : Ported addr host) : hostOf addr = host := by
  obtain ⟨port, rfl, only, read⟩ := ported
  have taken : ':' ∉ host.toList ∧ (port? port.toList).isSome :=
    ⟨only, isSome_port?_iff.mpr read⟩
  rw [hostOf, hostChars_of_not_bracketed unclosed, unbracketedHost, read.cut]
  simp only [if_pos taken, String.ofList_toList]

theorem Portless.of_cut {addr : String} (portless : Portless addr) {before after : List Char}
    (cut : splitLastColon addr.toList = some (before, after)) :
    ¬ (':' ∉ before ∧ (port? after).isSome) := by
  obtain ⟨parts, last⟩ := splitLastColon_eq_some_iff.mp cut
  rintro ⟨only, read⟩
  cases portless with
  | noColon none => exact none (by simp [parts])
  | colons front middle last' written =>
      -- One colon is in the address, where two are written.
      have one : addr.toList.count ':' = 1 := by
        simp [parts, List.count_eq_zero_of_not_mem only, List.count_eq_zero_of_not_mem last]
      rw [written] at one
      simp at one
      omega
  | noPort front last' written final unread =>
      have same : splitLastColon addr.toList = some (front.toList, last'.toList) :=
        splitLastColon_eq_some_iff.mpr ⟨by simp [written], final⟩
      rw [cut] at same
      obtain ⟨rfl, rfl⟩ := same
      exact unread (isSome_port?_iff.mp read)

theorem Ported.not_portless {addr host : String} (ported : Ported addr host) :
    ¬ Portless addr := by
  obtain ⟨port, rfl, only, read⟩ := ported
  exact fun portless => portless.of_cut (read.cut host) ⟨only, isSome_port?_iff.mpr read⟩

theorem hostOf_portless {addr : String} (unclosed : ¬ Bracketed addr)
    (portless : Portless addr) : hostOf addr = addr := by
  rw [hostOf, hostChars_of_not_bracketed unclosed, unbracketedHost]
  split
  · rename_i host port cut
    rw [if_neg (portless.of_cut cut), String.ofList_toList]
  · rw [String.ofList_toList]

theorem ported_or_portless (addr : String) : (∃ host, Ported addr host) ∨ Portless addr := by
  cases cut : splitLastColon addr.toList with
  | none => exact .inr (.noColon (splitLastColon_eq_none_iff.mp cut))
  | some parts =>
      obtain ⟨before, after⟩ := parts
      obtain ⟨written, last⟩ := splitLastColon_eq_some_iff.mp cut
      have whole := eq_of_colon written
      by_cases other : ':' ∈ before
      · obtain ⟨front, middle, rfl⟩ := List.append_of_mem other
        rw [eq_of_colon (String.toList_ofList (l := front ++ ':' :: middle))] at whole
        exact .inr (.colons _ _ _ whole)
      · by_cases read : IsPort (.ofList after)
        · exact .inl ⟨.ofList before, .ofList after, whole, by simpa using other, read⟩
        · exact .inr (.noPort _ _ whole (by simpa using last) read)

theorem existsUnique_form (addr : String) : ∃! form : Form, form.Fits addr := by
  by_cases closed : Bracketed addr
  · refine ⟨.bracketed, closed, fun form fits => ?_⟩
    cases form with
    | bracketed => rfl
    | ported => exact absurd closed fits.1
    | portless => exact absurd closed fits.1
  · rcases ported_or_portless addr with ⟨host, ported⟩ | portless
    · refine ⟨.ported, ⟨closed, host, ported⟩, fun form fits => ?_⟩
      cases form with
      | bracketed => exact absurd fits closed
      | ported => rfl
      | portless => exact absurd fits.2 ported.not_portless
    · refine ⟨.portless, ⟨closed, portless⟩, fun form fits => ?_⟩
      cases form with
      | bracketed => exact absurd fits closed
      | ported =>
          obtain ⟨host, ported⟩ := fits.2
          exact absurd portless ported.not_portless
      | portless => rfl

theorem hostOf_part (addr : String) : ∃ front back, addr = front ++ hostOf addr ++ back := by
  by_cases closed : Bracketed addr
  · obtain ⟨host, suffix, inside, rfl⟩ := bracketed_iff.mp closed
    refine ⟨"[", "]" ++ suffix, ?_⟩
    rw [hostOf_brackets inside, String.append_assoc]
  · rcases ported_or_portless addr with ⟨host, ported⟩ | portless
    · rw [hostOf_ported closed ported]
      obtain ⟨port, rfl, -⟩ := ported
      exact ⟨"", ":" ++ port, by simp [String.append_assoc]⟩
    · rw [hostOf_portless closed portless]
      exact ⟨"", "", by simp⟩

/-- What is behind a colon closes no bracket, unless it has one. -/
theorem not_bracketed_append {host port : String} (unclosed : ¬ Bracketed host)
    (absent : ']' ∉ port.toList) : ¬ Bracketed (host ++ ":" ++ port) := by
  rintro ⟨rest, written, closed⟩
  have parts : host.toList ++ ':' :: port.toList = '[' :: rest.toList := by
    simpa using congrArg String.toList written
  rcases List.append_eq_cons_iff.mp parts with ⟨-, first⟩ | ⟨inside, opened, behind⟩
  · cases (List.cons.inj first).1
  · refine unclosed ⟨.ofList inside, ?_, ?_⟩
    · apply String.toList_inj.mp
      simp [opened]
    · simpa [behind, absent] using closed

theorem hostOf_inverts :
    (∀ host suffix : String, ']' ∉ host.toList →
      Bracketed ("[" ++ host ++ "]" ++ suffix) ∧
        hostOf ("[" ++ host ++ "]" ++ suffix) = host) ∧
    (∀ addr, Bracketed addr → ∃ host suffix : String,
      ']' ∉ host.toList ∧ addr = "[" ++ host ++ "]" ++ suffix) ∧
    (∀ addr, ¬ Bracketed addr →
      (∀ host, Ported addr host → hostOf addr = host) ∧ (Portless addr → hostOf addr = addr)) ∧
    (∀ text : String, IsPort text ↔ behindSign text.toList ≠ [] ∧
      (∀ c ∈ behindSign text.toList, c.isDigit) ∧
      decimalValue (behindSign text.toList) ≤ 65535) ∧
    (∀ addr, ∃! form : Form, form.Fits addr) ∧
    (∀ addr, ∃ front back, addr = front ++ hostOf addr ++ back) ∧
    (∀ (host : String) (n : UInt16), ':' ∉ host.toList → ¬ Bracketed host →
      hostOf (host ++ ":" ++ toString n.toNat) = host) ∧
    ∀ addr : String, ¬ Bracketed addr → 2 ≤ addr.toList.count ':' → hostOf addr = addr := by
  refine ⟨fun host suffix inside => ⟨bracketed_iff.mpr ⟨host, suffix, inside, rfl⟩,
      hostOf_brackets inside suffix⟩, fun addr => bracketed_iff.mp,
    fun addr unclosed => ⟨fun host => hostOf_ported unclosed, hostOf_portless unclosed⟩,
    fun text => isPort_iff, existsUnique_form, hostOf_part, ?_, ?_⟩
  · intro host n only unclosed
    have port := isPort_toString n
    have absent : ']' ∉ (toString n.toNat).toList :=
      fun closed => absurd (port.plus_or_digit closed) (by decide)
    exact hostOf_ported (not_bracketed_append unclosed absent) ⟨_, rfl, only, port⟩
  · intro addr unclosed several
    rcases ported_or_portless addr with ⟨host, port, rfl, only, read⟩ | portless
    · have one : (host ++ ":" ++ port).toList.count ':' = 1 := by
        simp [List.count_eq_zero_of_not_mem only, List.count_eq_zero_of_not_mem read.colon_not_mem]
      omega
    · exact hostOf_portless unclosed portless

theorem hostOf_inverts_greatest :
    ']' ∉ "fe80::1".toList ∧ hostOf ("[" ++ "fe80::1" ++ "]" ++ ":5432") = "fe80::1" ∧
      ¬ Bracketed "größe:+0065535" ∧ Ported "größe:+0065535" "größe" ∧
      hostOf "größe:+0065535" = "größe" ∧
      ¬ Bracketed "größe:65536" ∧ Portless "größe:65536" ∧ hostOf "größe:65536" = "größe:65536" := by
  have unclosed {addr : String} (other : addr.toList.head? ≠ some '[') : ¬ Bracketed addr := by
    rintro ⟨rest, rfl, -⟩
    simp at other
  have inside : ']' ∉ "fe80::1".toList := by decide
  have greatest : ¬ Bracketed "größe:+0065535" := unclosed (by decide)
  have ported : Ported "größe:+0065535" "größe" :=
    ⟨"+0065535", by decide, by decide, 65535, Nat.le_refl _, ['+'], 2, .inr rfl, by decide⟩
  have greater : ¬ Bracketed "größe:65536" := unclosed (by decide)
  have unread : ¬ IsPort "65536" := by
    rw [← isSome_port?_iff]
    decide
  have portless : Portless "größe:65536" :=
    .noPort "größe" "65536" (by decide) (by decide) unread
  obtain ⟨brackets, -, bare, -⟩ := hostOf_inverts
  exact ⟨inside, (brackets _ _ inside).2, greatest, ported, (bare _ greatest).1 _ ported,
    greater, portless, (bare _ greater).2 portless⟩

end BackendLink.Address
