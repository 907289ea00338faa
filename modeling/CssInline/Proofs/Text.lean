import CssInline.Text.Decimal
import CssInline.Text.Search
import Mathlib.Data.List.Basic

/-! Texts in texts, and numbers in decimal. -/

namespace CssInline.Text

/-! Search -/

theorem strip?_append (start rest : List Char) : strip? start (start ++ rest) = some rest := by
  induction start with
  | nil => rfl
  | cons c start ih => simp [strip?, ih]

theorem eq_append_of_strip? {start text rest : List Char}
    (stripped : strip? start text = some rest) : text = start ++ rest := by
  induction start generalizing text with
  | nil => exact Option.some.inj stripped
  | cons s start ih =>
    cases text with
    | nil => cases stripped
    | cons c text =>
      rw [strip?] at stripped
      split at stripped
      · rename_i same
        rw [same, ih stripped, List.cons_append]
      · cases stripped

theorem strip?_eq_none {start text : List Char} (apart : ¬ start <+: text) :
    strip? start text = none := by
  cases stripped : strip? start text with
  | none => rfl
  | some rest => exact absurd ⟨rest, (eq_append_of_strip? stripped).symm⟩ apart

theorem occurs_eq_true {part text : List Char} : occurs part text = true ↔ part <:+: text := by
  induction text with
  | nil => simp [occurs]
  | cons c text ih => simp [occurs, ih, List.infix_cons_iff]

theorem occurs_eq_false {part text : List Char} : occurs part text = false ↔ ¬ part <:+: text := by
  rw [← occurs_eq_true, Bool.not_eq_true]

/-! Decimals -/

theorem decimalValue_eq (digits : List Char) :
    decimalValue digits = Nat.ofDigitChars 10 digits 0 := by
  simp only [decimalValue, Nat.ofDigitChars_eq_foldl, Nat.mul_comm]

theorem isDigit_of_mem_decimal {n : Nat} {c : Char} (member : c ∈ decimal n) : c.isDigit :=
  Nat.isDigit_of_mem_toDigits (by decide) (by decide) member

theorem decimal_ne_nil (n : Nat) : decimal n ≠ [] :=
  Nat.toDigits_ne_nil

theorem decimalValue_decimal (n : Nat) : decimalValue (decimal n) = n := by
  rw [decimalValue_eq, decimal, Nat.ofDigitChars_ten_toDigits]

theorem decimal_of_lt_ten {n : Nat} (small : n < 10) : decimal n = [n.digitChar] :=
  Nat.toDigits_of_lt_base small

theorem decimal_append {n d : Nat} (positive : 0 < n) (small : d < 10) :
    decimal n ++ [d.digitChar] = decimal (10 * n + d) := by
  rw [← decimal_of_lt_ten small]
  exact Nat.toDigits_append_toDigits (by decide) positive small

theorem head?_decimal {n : Nat} (positive : 0 < n) : (decimal n).head? ≠ some '0' := by
  induction n using Nat.base_induction 10 (by decide) with
  | single n small =>
    rw [decimal_of_lt_ten small]
    intro zero
    have digit : n.digitChar = '0' := Option.some.inj zero
    have value := Nat.toNat_digitChar_sub_48_of_lt_ten small
    rw [digit] at value
    change 0 = n at value
    omega
  | digit n d small larger ih =>
    rw [← decimal_append larger small, List.head?_append_of_ne_nil _ (decimal_ne_nil n)]
    exact ih larger

theorem isCanonicalDecimal_decimal (n : Nat) : isCanonicalDecimal (decimal n) = true := by
  have digits : (decimal n).all Char.isDigit = true :=
    List.all_eq_true.mpr fun _ => isDigit_of_mem_decimal
  cases Nat.eq_zero_or_pos n with
  | inl zero => rw [zero]; rfl
  | inr positive => simp [isCanonicalDecimal, decimal_ne_nil, digits, head?_decimal positive]

theorem readDecimal?_decimal (n : Nat) : readDecimal? (decimal n) = some n := by
  rw [readDecimal?, if_pos (isCanonicalDecimal_decimal n), decimalValue_decimal]

theorem digitChar_sub {c : Char} (digit : c.isDigit) :
    c.toNat - '0'.toNat < 10 ∧ (c.toNat - '0'.toNat).digitChar = c := by
  have bounds : 48 ≤ c.toNat ∧ c.toNat ≤ 57 := by
    simpa [Char.isDigit, UInt32.le_iff_toNat_le] using digit
  have small : c.toNat - '0'.toNat < 10 := by
    change c.toNat - 48 < 10
    omega
  refine ⟨small, Char.toNat_inj.mp ?_⟩
  rw [Nat.toNat_digitChar_of_lt_ten small]
  change 48 + (c.toNat - 48) = c.toNat
  omega

/-- The digits after a positive number make it longer. -/
theorem decimal_foldl {n : Nat} (positive : 0 < n) {digits : List Char}
    (areDigits : ∀ c ∈ digits, c.isDigit) :
    decimal n ++ digits =
      decimal (digits.foldl (fun n digit => n * 10 + (digit.toNat - '0'.toNat)) n) := by
  induction digits generalizing n with
  | nil => exact List.append_nil _
  | cons c digits ih =>
    obtain ⟨small, same⟩ := digitChar_sub (areDigits c List.mem_cons_self)
    have extended : decimal n ++ [c] = decimal (n * 10 + (c.toNat - '0'.toNat)) := by
      rw [Nat.mul_comm, ← decimal_append positive small, same]
    rw [List.foldl_cons, ← ih (by omega) fun other member =>
      areDigits other (List.mem_cons_of_mem c member), ← extended, List.append_assoc]
    rfl

theorem decimal_decimalValue {digits : List Char} (canonical : isCanonicalDecimal digits = true) :
    decimal (decimalValue digits) = digits := by
  simp only [isCanonicalDecimal, Bool.and_eq_true, List.all_eq_true] at canonical
  obtain ⟨⟨nonempty, areDigits⟩, leading⟩ := canonical
  cases digits with
  | nil => cases nonempty
  | cons c digits =>
    obtain ⟨small, same⟩ := digitChar_sub (areDigits c List.mem_cons_self)
    have first : decimal (c.toNat - '0'.toNat) = [c] := by rw [decimal_of_lt_ten small, same]
    have value : decimalValue (c :: digits) = digits.foldl
        (fun n digit => n * 10 + (digit.toNat - '0'.toNat)) (c.toNat - '0'.toNat) := by
      simp only [decimalValue, List.foldl_cons, Nat.zero_mul, Nat.zero_add]
    cases digits with
    | nil => rw [value, List.foldl_nil, first]
    | cons d digits =>
      have positive : 0 < c.toNat - '0'.toNat := by
        cases Nat.eq_zero_or_pos (c.toNat - '0'.toNat) with
        | inl zero =>
          rw [zero] at same
          simp [← same, Nat.digitChar] at leading
        | inr positive => exact positive
      rw [value, ← decimal_foldl positive fun other member =>
        areDigits other (List.mem_cons_of_mem c member), first]
      rfl

theorem readDecimal?_eq_some {digits : List Char} {n : Nat} :
    readDecimal? digits = some n ↔ digits = decimal n := by
  constructor
  · intro read
    rw [readDecimal?] at read
    split at read
    · rename_i canonical
      rw [← Option.some.inj read, decimal_decimalValue canonical]
    · cases read
  · intro same
    rw [same, readDecimal?_decimal]

end CssInline.Text
