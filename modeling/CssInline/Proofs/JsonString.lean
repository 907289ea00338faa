import CssInline.Code.Lexeme
import CssInline.Text.JsonString
import CssInline.Proofs.Exposure.Step

/-! JSON strings as strings in code. -/

namespace CssInline

open Code

/-! Escapes -/

namespace Text

theorem hexNumber?_of_lt {n : Nat} (small : n < 0x20) :
    hexNumber? ['0', '0', hexDigit (n / 16), hexDigit (n % 16)] = some n := by
  have all : ∀ n < 0x20, hexNumber? ['0', '0', hexDigit (n / 16), hexDigit (n % 16)] = some n := by
    decide
  exact all n small

theorem charOfCode_toNat (c : Char) : charOfCode c.toNat = c := by
  have valid : c.toNat.isValidChar := c.valid
  rw [charOfCode, if_pos valid, Char.ofNat_toNat]

theorem hexDigit_of_lt {n : Nat} (small : n < 16) : hexDigit n ≠ '"' ∧ hexDigit n ≠ '\\' := by
  have all : ∀ n < 16, hexDigit n ≠ '"' ∧ hexDigit n ≠ '\\' := by decide
  exact all n small

/-- A character is written as one, or as an escape that stands for it. -/
theorem jsonChar_cases (c : Char) :
    (jsonChar c = [c] ∧ c ≠ '"' ∧ c ≠ '\\' ∧ c ≠ '\n' ∧ c ≠ '\r') ∨
      ∃ mark digits, jsonChar c = '\\' :: mark :: digits ∧
        (∀ digit ∈ digits, digit ≠ '"' ∧ digit ≠ '\\') ∧
        ∀ rest, escape? true (mark :: digits ++ rest) = some ([c], rest) := by
  unfold jsonChar
  split
  · exact .inr ⟨'"', [], rfl, nofun, fun rest => rfl⟩
  · exact .inr ⟨'\\', [], rfl, nofun, fun rest => rfl⟩
  · exact .inr ⟨'b', [], rfl, nofun, fun rest => rfl⟩
  · exact .inr ⟨'t', [], rfl, nofun, fun rest => rfl⟩
  · exact .inr ⟨'n', [], rfl, nofun, fun rest => rfl⟩
  · exact .inr ⟨'f', [], rfl, nofun, fun rest => rfl⟩
  · exact .inr ⟨'r', [], rfl, nofun, fun rest => rfl⟩
  · split
    · rename_i small
      refine .inr ⟨'u', ['0', '0', hexDigit (c.toNat / 16), hexDigit (c.toNat % 16)], rfl, ?_,
        fun rest => ?_⟩
      · have high := hexDigit_of_lt (n := c.toNat / 16) (by omega)
        have low := hexDigit_of_lt (n := c.toNat % 16) (by omega)
        simp [high, low]
      have code : unicodeCode? ('0' :: '0' :: hexDigit (c.toNat / 16) ::
          hexDigit (c.toNat % 16) :: rest) = some (c.toNat, rest) := by
        change (hexNumber? ['0', '0', hexDigit (c.toNat / 16), hexDigit (c.toNat % 16)]).map _ = _
        rw [hexNumber?_of_lt small]
        rfl
      have char : unicodeChar? ('0' :: '0' :: hexDigit (c.toNat / 16) ::
          hexDigit (c.toNat % 16) :: rest) = some (c, rest) := by
        have low : ¬ (0xd800 ≤ c.toNat ∧ c.toNat < 0xdc00) := by omega
        simp [unicodeChar?, code, low, charOfCode_toNat]
      change (unicodeChar? ('0' :: '0' :: hexDigit (c.toNat / 16) ::
          hexDigit (c.toNat % 16) :: rest)).map _ = _
      rw [char]
      rfl
    · exact .inl ⟨rfl, by assumption, by assumption, by assumption, by assumption⟩

end Text

namespace Code

/-! Strings -/

theorem stringValueFrom_jsonChars (text after : List Char) :
    ∀ (fuel : Nat) (done : List Char), (text.flatMap Text.jsonChar).length < fuel →
      stringValueFrom true '"' fuel done (text.flatMap Text.jsonChar ++ '"' :: after) =
        some (done.reverse ++ text, after) := by
  induction text with
  | nil =>
    intro fuel done enough
    cases fuel with
    | zero => cases enough
    | succ fuel => simp [stringValueFrom]
  | cons c text ih =>
    intro fuel done enough
    cases fuel with
    | zero => cases enough
    | succ fuel =>
      rw [List.flatMap_cons, List.append_assoc]
      rw [List.flatMap_cons, List.length_append] at enough
      cases Text.jsonChar_cases c with
      | inl plain =>
        obtain ⟨written, notQuote, notEscape, notFeed, notReturn⟩ := plain
        rw [written, List.length_singleton] at enough
        have step := ih fuel (c :: done) (by omega)
        have next : stringValueFrom true '"' (fuel + 1) done
            (c :: (text.flatMap Text.jsonChar ++ '"' :: after)) =
            stringValueFrom true '"' fuel (c :: done)
              (text.flatMap Text.jsonChar ++ '"' :: after) := by
          rw [stringValueFrom, if_neg notQuote, if_neg (by simp [notFeed, notReturn])]
          exact notEscape
        rw [written, List.singleton_append, next, step, List.reverse_cons, List.append_assoc]
        rfl
      | inr escaped =>
        obtain ⟨mark, digits, same, _, value⟩ := escaped
        rw [same, List.length_cons] at enough
        have step := ih fuel (c :: done) (by omega)
        rw [same, List.cons_append, stringValueFrom, value]
        simpa using step

theorem stringLexeme?_jsonString (text after : List Char) :
    stringLexeme? true (Text.jsonString text ++ after) =
      some (⟨String.ofList text, String.ofList (Text.jsonString text)⟩,
        (Text.jsonString text).length) := by
  have shape : Text.jsonString text ++ after =
      '"' :: (text.flatMap Text.jsonChar ++ '"' :: after) := by
    simp [Text.jsonString]
  have enough : (text.flatMap Text.jsonChar).length <
      (text.flatMap Text.jsonChar ++ '"' :: after).length + 1 := by
    simp only [List.length_append]
    omega
  have value := stringValueFrom_jsonChars text after _ [] enough
  have size : (text.flatMap Text.jsonChar ++ '"' :: after).length + 1 - after.length =
      (Text.jsonString text).length := by
    simp [Text.jsonString]
    omega
  rw [shape, stringLexeme?, if_pos (.inr rfl), value]
  simp only [Option.map_some, size, ← shape, List.take_left, List.reverse_nil, List.nil_append]

end Code

/-! Placeholders -/

namespace Placeholder

variable {stem : List Char} {count : Nat}

/-- Whether the rest of a string in quotes stays as it is. -/
def IsKept (stem : List Char) (count : Nat) (rest : List Char) : Prop :=
  ∀ (fuel : Nat) (scanner : Scanner), scanner.region = .quoted '"' → rest.length ≤ fuel →
    exposeFrom stem count fuel scanner rest = rest

theorem exposeFrom_nil (fuel : Nat) (scanner : Scanner) :
    exposeFrom stem count fuel scanner [] = [] := by
  cases fuel <;> rfl

theorem isKept_quote : IsKept stem count ['"'] := by
  intro fuel scanner quoted enough
  cases fuel with
  | zero => cases enough
  | succ fuel =>
    simp [exposeFrom, exposeAt?_quoted quoted, Scanner.step, Scanner.stepRegion, quoted,
      exposeFrom_nil]

theorem IsKept.cons {c : Char} {rest : List Char} (kept : IsKept stem count rest)
    (notQuote : c ≠ '"') (notEscape : c ≠ '\\') : IsKept stem count (c :: rest) := by
  intro fuel scanner quoted enough
  cases fuel with
  | zero => cases enough
  | succ fuel =>
    have later :=
      kept fuel { scanner with previous := some c } quoted (Nat.le_of_succ_le_succ enough)
    simpa [exposeFrom, exposeAt?_quoted quoted, Scanner.step, Scanner.stepRegion, quoted, notQuote,
      notEscape] using later

theorem IsKept.escape {rest : List Char} (kept : IsKept stem count rest) (mark : Char) :
    IsKept stem count ('\\' :: mark :: rest) := by
  intro fuel scanner quoted enough
  cases fuel with
  | zero => cases enough
  | succ fuel =>
    have later := kept fuel { scanner with previous := some mark } quoted
      (Nat.le_of_succ_le (Nat.le_of_succ_le_succ enough))
    simpa [exposeFrom, exposeAt?_quoted quoted, Scanner.step, Scanner.stepRegion, quoted]
      using later

theorem IsKept.append {rest : List Char} (kept : IsKept stem count rest) (run : List Char)
    (plain : ∀ c ∈ run, c ≠ '"' ∧ c ≠ '\\') : IsKept stem count (run ++ rest) := by
  induction run with
  | nil => exact kept
  | cons c run ih =>
    obtain ⟨notQuote, notEscape⟩ := plain c List.mem_cons_self
    have later := ih fun other member => plain other (List.mem_cons_of_mem c member)
    exact later.cons notQuote notEscape

theorem isKept_jsonChars (text : List Char) :
    IsKept stem count (text.flatMap Text.jsonChar ++ ['"']) := by
  induction text with
  | nil => exact isKept_quote
  | cons c text ih =>
    rw [List.flatMap_cons, List.append_assoc]
    cases Text.jsonChar_cases c with
    | inl plain =>
      obtain ⟨written, notQuote, notEscape, _⟩ := plain
      rw [written]
      exact ih.cons notQuote notEscape
    | inr escaped =>
      obtain ⟨mark, digits, written, plain, _⟩ := escaped
      rw [written]
      exact (ih.append digits plain).escape mark

/-- Placeholders in a JSON string stay as they are. -/
theorem expose_jsonString (isStem : IsStem stem) (text : List Char) :
    expose stem count (Text.jsonString text) = Text.jsonString text := by
  have apart : exposeAt? stem count .start (Text.jsonString text) = none := by
    have missing : take? stem count (Text.jsonString text) = none := by
      refine take?_of_strip?_none (Text.strip?_eq_none ?_)
      rintro ⟨rest, same⟩
      obtain ⟨c, stemRest, first⟩ := List.exists_cons_of_ne_nil isStem.nonempty
      rw [first] at same
      have quote : c = '"' := (List.cons.inj same).1
      have noQuote : '"' ∉ stem := isStem.not_mem (by decide) (by decide)
      rw [first, ← quote] at noQuote
      exact noQuote List.mem_cons_self
    simp [exposeAt?, missing]
  have inside : IsKept stem count (text.flatMap Text.jsonChar ++ ['"']) := isKept_jsonChars text
  have kept := inside (text.flatMap Text.jsonChar ++ ['"']).length
    ⟨.quoted '"', [.code 0], some '"'⟩ rfl (Nat.le_refl _)
  have shape : Text.jsonString text = '"' :: (text.flatMap Text.jsonChar ++ ['"']) := rfl
  rw [shape] at apart ⊢
  rw [expose, List.length_cons, exposeFrom, apart]
  exact congrArg ('"' :: ·) kept

end Placeholder

end CssInline
