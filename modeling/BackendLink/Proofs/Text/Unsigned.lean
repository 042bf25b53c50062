import BackendLink.Text.Number
import Mathlib.Data.List.Induction

/-!
# Which texts are numbers

An unsigned number is read from exactly the texts that write it: its decimal digits behind any number
of zeros and at most one plus sign (`unsigned?_eq_some_iff`).
-/

namespace BackendLink.Text

/-- The text is the decimal form of `n`, behind leading zeros and an optional plus sign. -/
def Writes (text : List Char) (n : Nat) : Prop :=
  ∃ sign zeros, (sign = [] ∨ sign = ['+']) ∧
    text = sign ++ (List.replicate zeros '0' ++ Nat.toDigits 10 n)

theorem decimalValue_eq (digits : List Char) :
    decimalValue digits = Nat.ofDigitChars 10 digits 0 := by
  rw [decimalValue, Nat.ofDigitChars_eq_foldl]
  congr 1
  funext n c
  rw [digitValue, Nat.mul_comm]

theorem digitChar_digitValue {c : Char} (digit : c.isDigit) :
    digitValue c < 10 ∧ (digitValue c).digitChar = c := by
  have range := Char.isDigit_iff_toNat.mp digit
  simp only [show '0'.toNat = 48 from rfl, show '9'.toNat = 57 from rfl] at range
  have value : digitValue c = c.toNat - 48 := rfl
  have small : digitValue c < 10 := by omega
  refine ⟨small, Char.toNat_inj.mp ?_⟩
  rw [Nat.toNat_digitChar_of_lt_ten small]
  omega

/-- Digits are the decimal form of their value behind zeros. -/
theorem digits_eq {digits : List Char} (nonempty : digits ≠ []) (all : ∀ c ∈ digits, c.isDigit) :
    ∃ zeros, digits = List.replicate zeros '0' ++ Nat.toDigits 10 (decimalValue digits) := by
  induction digits using List.reverseRecOn with
  | nil => exact absurd rfl nonempty
  | append_singleton front c ih =>
      obtain ⟨small, char⟩ := digitChar_digitValue (all c (by simp))
      have last : Nat.toDigits 10 (digitValue c) = [c] := by
        rw [Nat.toDigits_of_lt_base small, char]
      have value : decimalValue (front ++ [c]) = 10 * decimalValue front + digitValue c := by
        simp [decimalValue, Nat.mul_comm]
      cases front with
      | nil => exact ⟨0, by simpa [decimalValue] using last.symm⟩
      | cons first others =>
          obtain ⟨zeros, form⟩ := ih (by simp) fun d member =>
            all d (List.mem_append_left [c] member)
          rcases Nat.eq_zero_or_pos (decimalValue (first :: others)) with zero | positive
          · -- All digits in front are zeros, so the last one stands alone.
            rw [zero, Nat.toDigits_zero, ← List.replicate_succ'] at form
            refine ⟨zeros + 1, ?_⟩
            rw [value, zero, Nat.mul_zero, Nat.zero_add, last, form]
          · refine ⟨zeros, ?_⟩
            rw [value, ← Nat.toDigits_append_toDigits (by decide) positive small, last,
              ← List.append_assoc, ← form]

theorem decimalValue_form (zeros n : Nat) :
    decimalValue (List.replicate zeros '0' ++ Nat.toDigits 10 n) = n := by
  rw [decimalValue_eq, Nat.ofDigitChars_append, Nat.ofDigitChars_replicate_zero, Nat.mul_zero,
    Nat.ofDigitChars_ten_toDigits]

theorem isDigit_of_mem_form {zeros n : Nat} {c : Char}
    (member : c ∈ List.replicate zeros '0' ++ Nat.toDigits 10 n) : c.isDigit := by
  rcases List.mem_append.mp member with zero | digit
  · rw [List.eq_of_mem_replicate zero]
    rfl
  · exact Nat.isDigit_of_mem_toDigits (by decide) (by decide) digit

/-- Behind the sign there are digits, at least one, and their value is `n`. -/
theorem writes_digits_iff {digits : List Char} {n : Nat} :
    (∃ zeros, digits = List.replicate zeros '0' ++ Nat.toDigits 10 n) ↔
      digits ≠ [] ∧ (∀ c ∈ digits, c.isDigit) ∧ decimalValue digits = n := by
  constructor
  · rintro ⟨zeros, rfl⟩
    refine ⟨?_, fun c => isDigit_of_mem_form, decimalValue_form zeros n⟩
    intro empty
    exact Nat.toDigits_ne_nil (List.append_eq_nil_iff.mp empty).2
  · rintro ⟨nonempty, all, rfl⟩
    exact digits_eq nonempty all

/-! ## The sign -/

theorem writes_plus {rest : List Char} {n : Nat} :
    Writes ('+' :: rest) n ↔ ∃ zeros, rest = List.replicate zeros '0' ++ Nat.toDigits 10 n := by
  constructor
  · rintro ⟨sign, zeros, rfl | rfl, parts⟩
    · have member : '+' ∈ List.replicate zeros '0' ++ Nat.toDigits 10 n := by
        rw [← List.nil_append (List.replicate zeros '0' ++ _), ← parts]
        exact List.mem_cons_self
      cases isDigit_of_mem_form member
    · exact ⟨zeros, (List.cons.inj parts).2⟩
  · rintro ⟨zeros, rfl⟩
    exact ⟨['+'], zeros, .inr rfl, rfl⟩

theorem writes_unsigned {text : List Char} {n : Nat} (unsigned : ∀ rest, text ≠ '+' :: rest) :
    Writes text n ↔ ∃ zeros, text = List.replicate zeros '0' ++ Nat.toDigits 10 n := by
  constructor
  · rintro ⟨sign, zeros, rfl | rfl, parts⟩
    · exact ⟨zeros, parts⟩
    · exact absurd parts (unsigned _)
  · rintro ⟨zeros, rfl⟩
    exact ⟨[], zeros, .inl rfl, rfl⟩

theorem unsigned?_eq_some_iff {limit n : Nat} {text : List Char} :
    unsigned? limit text = some n ↔ n ≤ limit ∧ Writes text n := by
  have digits (digits : List Char) :
      (if digits.isEmpty || !digits.all Char.isDigit then none
        else if decimalValue digits ≤ limit then some (decimalValue digits) else none) = some n ↔
      n ≤ limit ∧ ∃ zeros, digits = List.replicate zeros '0' ++ Nat.toDigits 10 n := by
    rw [writes_digits_iff]
    constructor
    · intro read
      split at read
      · cases read
      · rename_i wellFormed
        split at read
        · rename_i within
          cases read
          obtain ⟨nonempty, all⟩ : digits ≠ [] ∧ ∀ c ∈ digits, c.isDigit := by
            simpa using wellFormed
          exact ⟨within, nonempty, all, rfl⟩
        · cases read
    · rintro ⟨within, nonempty, all, rfl⟩
      have wellFormed : ¬ (digits.isEmpty || !digits.all Char.isDigit) := by
        simpa using ⟨nonempty, all⟩
      rw [if_neg wellFormed, if_pos within]
  unfold unsigned?
  split
  · rw [digits, writes_plus]
  · rename_i unsigned
    rw [digits, writes_unsigned unsigned]

end BackendLink.Text
