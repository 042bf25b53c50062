import BackendLink.Proofs.Yaml.Scan
import BackendLink.Yaml.Scalar

/-!
# Written numbers

The decimal form of a number is a name, and it is read as that number (`unsigned?_toDigits`).
-/

namespace BackendLink.Yaml

section Digits

variable {digits : List Char} {c : Char}

theorem digit_bounds (digit : c.isDigit = true) : 48 ≤ c.toNat ∧ c.toNat ≤ 57 :=
  Char.isDigit_iff_toNat.mp digit

theorem ne_of_isDigit {d : Char} (digit : c.isDigit = true) (other : d.isDigit = false) :
    c ≠ d := by
  rintro rfl
  rw [digit] at other
  cases other

theorem hexValue?_of_isDigit (digit : c.isDigit = true) :
    hexValue? c = some (c.toNat - 48) ∧ c.toNat - 48 < 10 := by
  have bounds := digit_bounds digit
  have range : (decide ('0' ≤ c) && decide (c ≤ '9')) = true := by
    simpa [Char.le_def, UInt32.le_iff_toNat_le] using bounds
  exact ⟨by rw [hexValue?, if_pos range]; rfl, by omega⟩

theorem digits?_eq (nonempty : digits ≠ []) (all : ∀ c ∈ digits, c.isDigit = true) :
    digits? 10 digits = some (Nat.ofDigitChars 10 digits 0) := by
  rw [digits?, if_neg (by simpa using nonempty)]
  generalize 0 = n
  clear nonempty
  induction digits generalizing n with
  | nil => rfl
  | cons c digits ih =>
      obtain ⟨value, small⟩ := hexValue?_of_isDigit (all c List.mem_cons_self)
      rw [List.foldlM_cons, value]
      simp only [small, if_true, Option.bind_eq_bind, Option.bind_some]
      rw [ih fun d member => all d (List.mem_cons_of_mem c member), Nat.ofDigitChars_cons,
        Nat.mul_comm 10 n]
      rfl

/-- Only zero has a zero in front. -/
theorem eq_zero_of_head_toDigits {n : Nat} (zero : (Nat.toDigits 10 n).head? = some '0') : n = 0 := by
  induction n using Nat.base_induction 10 (by decide) with
  | single n small =>
      rw [Nat.toDigits_of_lt_base small] at zero
      have same := congrArg Char.toNat (Option.some.inj zero)
      rw [Nat.toNat_digitChar_of_lt_ten small] at same
      exact Nat.add_left_cancel same
  | digit n last small positive ih =>
      obtain ⟨d, more, form⟩ := List.exists_cons_of_ne_nil (@Nat.toDigits_ne_nil n 10)
      rw [← Nat.toDigits_append_toDigits (by decide) positive small, form] at zero
      rw [form] at ih
      exact absurd (ih zero) (Nat.ne_of_gt positive)

theorem isDigit_toDigits {n : Nat} : ∀ c ∈ Nat.toDigits 10 n, c.isDigit = true :=
  fun _ => Nat.isDigit_of_mem_toDigits (by decide) (by decide)

theorem isName_toDigits (n : Nat) : isName (Nat.toDigits 10 n) = true := by
  have word : ∀ c ∈ Nat.toDigits 10 n, isWord c = true := by
    intro c member
    have bounds := digit_bounds (isDigit_toDigits c member)
    have range : '0' ≤ c ∧ c ≤ '9' := by simpa [Char.le_def, UInt32.le_iff_toNat_le] using bounds
    simp [isWord, range]
  have dash : (Nat.toDigits 10 n).head? ≠ some '-' := fun head =>
    ne_of_isDigit (isDigit_toDigits '-' (List.mem_of_head? head)) rfl rfl
  simpa [isName, dash] using word

theorem unsigned?_toDigits {limit n : Nat} (within : n ≤ limit) :
    unsigned? limit (Nat.toDigits 10 n) = some n := by
  obtain ⟨c, more, form⟩ := List.exists_cons_of_ne_nil (@Nat.toDigits_ne_nil n 10)
  have digits := @isDigit_toDigits n
  rw [form] at digits
  have plus : c ≠ '+' := ne_of_isDigit (digits c List.mem_cons_self) rfl
  have minus : c ≠ '-' := ne_of_isDigit (digits c List.mem_cons_self) rfl
  have announced : announcedBase (c :: more) = none := by
    unfold announcedBase
    split
    · exact absurd (digits 'x' (by simp_all)) (by decide)
    · exact absurd (digits 'o' (by simp_all)) (by decide)
    · exact absurd (digits 'b' (by simp_all)) (by decide)
    · rfl
  have padded : isPaddedNumber (c :: more) = false := by
    unfold isPaddedNumber
    split
    · rename_i first
      exact absurd (List.cons.inj first).1 plus
    · rename_i first
      exact absurd (List.cons.inj first).1 minus
    · dsimp only
      split
      · -- A zero in front is the whole of it.
        rename_i same
        have zero := @eq_zero_of_head_toDigits n (by rw [form, same]; rfl)
        rw [zero, Nat.toDigits_zero, same] at form
        cases form
      · rfl
  have value : digits? 10 (c :: more) = some n := by
    rw [← form, digits?_eq Nat.toDigits_ne_nil isDigit_toDigits, Nat.ofDigitChars_ten_toDigits]
  have unsigned : unsigned? limit (c :: more) = (digits? 10 (c :: more)).filter (· ≤ limit) := by
    unfold unsigned?
    split
    · rename_i first
      exact absurd (List.cons.inj first).1 plus
    · simp only [announced, padded, Bool.false_eq_true, if_false]
  rw [form, unsigned, value]
  simp [within]

end Digits

end BackendLink.Yaml
