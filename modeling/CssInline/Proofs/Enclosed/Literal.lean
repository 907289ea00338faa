import CssInline.Proofs.Enclosed.Lexeme

/-! Numbers, regular expressions and templates at the start of a text, with and without a closing
parenthesis after the text. -/

namespace CssInline.Code

open Reader

/-! Numbers -/

theorem digitsLength?_append_closing {isDigit : Char → Bool} (stops : isDigit '\n' = false)
    (text : List Char) : digitsLength? isDigit (text ++ closing) = digitsLength? isDigit text := by
  unfold digitsLength?
  rw [takeWhile_append_closing (by simp [stops])]

theorem length_of_digitsLength? {isDigit : Char → Bool} {text : List Char} {size : Nat}
    (found : digitsLength? isDigit text = some size) : size ≤ text.length := by
  unfold digitsLength? at found
  dsimp only at found
  split at found
  · cases found
  · rw [← Option.some.inj found]
    exact (List.takeWhile_prefix _).length_le

theorem length_of_sign (text : List Char) :
    (if text.head? == some '+' || text.head? == some '-' then 1 else 0) ≤ text.length := by
  cases text with
  | nil => exact Nat.le_refl 0
  | cons c text =>
    rw [List.length_cons]
    split <;> omega

theorem exponentLength?_append_closing (text : List Char) :
    exponentLength? (text ++ closing) = exponentLength? text := by
  cases text with
  | nil => rfl
  | cons e rest =>
    have short := length_of_sign rest
    rw [List.cons_append, exponentLength?, exponentLength?,
      head?_append_closing (by decide), head?_append_closing (by decide)]
    dsimp only
    rw [drop_append_closing short, digitsLength?_append_closing (by decide)]

theorem length_of_exponentLength? {text : List Char} {size : Nat}
    (found : exponentLength? text = some size) : size ≤ text.length := by
  cases text with
  | nil =>
    cases found
    exact Nat.le_refl _
  | cons e rest =>
    have short := length_of_sign rest
    rw [exponentLength?] at found
    dsimp only at found
    split at found
    · split at found
      · cases found
      · rename_i isSize
        have inside := length_of_digitsLength? isSize
        rw [List.length_drop] at inside
        rw [← Option.some.inj found, List.length_cons]
        omega
      · cases found
    · rw [← Option.some.inj found]
      exact Nat.zero_le _

theorem fractionLength?_append_closing (text : List Char) :
    fractionLength? (text ++ closing) = fractionLength? text := by
  by_cases dot : text.head? = some '.'
  · obtain ⟨rest, rfl⟩ := List.head?_eq_some_iff.mp dot
    rw [List.cons_append, fractionLength?, fractionLength?,
      digitsLength?_append_closing (by decide)]
    cases isSize : digitsLength? Char.isDigit rest with
    | none => rfl
    | some size =>
      simp only [Option.bind_eq_bind, Option.bind_some]
      rw [drop_append_closing (length_of_digitsLength? isSize), exponentLength?_append_closing]
  · have plain (rest : List Char) : text ≠ '.' :: rest := fun same => dot (by rw [same]; rfl)
    have plain' (rest : List Char) : text ++ closing ≠ '.' :: rest := by
      intro same
      cases text with
      | nil => simp [closing] at same
      | cons c text =>
        rw [List.cons_append, List.cons.injEq] at same
        exact plain text (by rw [same.1])
    rw [fractionLength?.eq_2 _ plain, fractionLength?.eq_2 _ plain', exponentLength?_append_closing]

theorem length_of_fractionLength? {text : List Char} {size : Nat}
    (found : fractionLength? text = some size) : size ≤ text.length := by
  unfold fractionLength? at found
  split at found
  · rename_i rest
    obtain ⟨digits, isDigits, found⟩ := Option.bind_eq_some_iff.mp found
    obtain ⟨exponent, isExponent, same⟩ := Option.bind_eq_some_iff.mp found
    have inside := length_of_digitsLength? isDigits
    have after := length_of_exponentLength? isExponent
    rw [List.length_drop] at after
    rw [← Option.some.inj same, List.length_cons]
    omega
  · exact length_of_exponentLength? found

theorem bigSuffix_append_closing (text : List Char) :
    bigSuffix (text ++ closing) = bigSuffix text := by
  rw [bigSuffix, bigSuffix, head?_append_closing (by decide)]

theorem bigSuffix_le (text : List Char) : bigSuffix text ≤ text.length := by
  cases text with
  | nil => exact Nat.le_refl 0
  | cons c text =>
    unfold bigSuffix
    rw [List.length_cons]
    split <;> omega

theorem radixLength?_append_closing {isDigit : Char → Bool} (stops : isDigit '\n' = false)
    (text : List Char) : radixLength? isDigit (text ++ closing) = radixLength? isDigit text := by
  unfold radixLength?
  rw [digitsLength?_append_closing stops]
  cases isSize : digitsLength? isDigit text with
  | none => rfl
  | some size =>
    simp only [Option.bind_eq_bind, Option.bind_some]
    rw [drop_append_closing (length_of_digitsLength? isSize), bigSuffix_append_closing]

theorem length_of_radixLength? {isDigit : Char → Bool} {text : List Char} {size : Nat}
    (found : radixLength? isDigit text = some size) : 0 < size ∧ size ≤ text.length + 2 := by
  unfold radixLength? at found
  obtain ⟨digits, isDigits, found⟩ := Option.bind_eq_some_iff.mp found
  split at found
  · cases found
  · have inside := length_of_digitsLength? isDigits
    have after := bigSuffix_le (text.drop digits)
    rw [List.length_drop] at after
    rw [← Option.some.inj found]
    omega

/-- The letters after a zero that choose another base. -/
def radixLetters : List Char :=
  ['x', 'X', 'o', 'O', 'b', 'B']

theorem numberSize?_radix {letter : Char} (isRadix : letter ∈ radixLetters) :
    ∃ isDigit : Char → Bool, isDigit '\n' = false ∧ ∀ octal rest,
      numberSize? octal ('0' :: letter :: rest) = radixLength? isDigit rest := by
  simp only [radixLetters, List.mem_cons, List.not_mem_nil, or_false] at isRadix
  rcases isRadix with rfl | rfl | rfl | rfl | rfl | rfl
  iterate 2 exact ⟨fun c => (Text.hexValue? c).isSome, by decide, fun _ _ => rfl⟩
  iterate 2 exact ⟨isOctalDigit, by decide, fun _ _ => rfl⟩
  iterate 2 exact ⟨fun c => c == '0' || c == '1', by decide, fun _ _ => rfl⟩

theorem numberSize?_zero (octal : Bool) {rest : List Char}
    (noRadix : ∀ letter ∈ radixLetters, rest.head? ≠ some letter) :
    numberSize? octal ('0' :: rest) =
      let digits := rest.takeWhile Char.isDigit
      if digits.isEmpty then
        if rest.head? == some '_' then none
        else if bigSuffix rest = 1 then some 2
        else do return 1 + (← fractionLength? rest)
      else if !octal then none
      else if digits.all isOctalDigit then some (1 + digits.length)
      else do return 1 + digits.length + (← fractionLength? (rest.drop digits.length)) := by
  have other {letter : Char} (isRadix : letter ∈ radixLetters) (more : List Char) :
      rest = letter :: more → False := fun same => noRadix letter isRadix (by rw [same]; rfl)
  exact numberSize?.eq_8 octal rest (other (by decide)) (other (by decide)) (other (by decide))
    (other (by decide)) (other (by decide)) (other (by decide))

theorem numberSize?_plain (octal : Bool) {text : List Char} (noZero : text.head? ≠ some '0')
    (noDot : text.head? ≠ some '.') :
    numberSize? octal text = do
      let size ← digitsLength? Char.isDigit text
      if size = 0 then none
      else if bigSuffix (text.drop size) = 1 then return size + 1
      else return size + (← fractionLength? (text.drop size)) := by
  have other (rest : List Char) : text = '0' :: rest → False :=
    fun same => noZero (by rw [same]; rfl)
  exact numberSize?.eq_9 octal text (fun _ => other _) (fun _ => other _) (fun _ => other _)
    (fun _ => other _) (fun _ => other _) (fun _ => other _)
    (fun _ same => noDot (by rw [same]; rfl)) other

theorem numberSize?_append_closing (octal : Bool) (text : List Char) :
    numberSize? octal (text ++ closing) = numberSize? octal text := by
  cases text with
  | nil => rfl
  | cons c rest =>
    rw [List.cons_append]
    by_cases zero : c = '0'
    · subst zero
      by_cases radix : ∃ letter ∈ radixLetters, rest.head? = some letter
      · obtain ⟨letter, isRadix, starts⟩ := radix
        obtain ⟨rest, rfl⟩ := List.head?_eq_some_iff.mp starts
        obtain ⟨isDigit, stops, reads⟩ := numberSize?_radix isRadix
        rw [List.cons_append, reads, reads, radixLength?_append_closing stops]
      · have noRadix : ∀ letter ∈ radixLetters, rest.head? ≠ some letter :=
          fun letter isRadix starts => radix ⟨letter, isRadix, starts⟩
        have noRadix' : ∀ letter ∈ radixLetters, (rest ++ closing).head? ≠ some letter := by
          cases rest with
          | nil => simp [closing, radixLetters]
          | cons d rest => exact noRadix
        rw [numberSize?_zero octal noRadix, numberSize?_zero octal noRadix',
          takeWhile_append_closing (by decide), head?_append_closing (by decide),
          bigSuffix_append_closing, fractionLength?_append_closing]
        dsimp only
        rw [drop_append_closing (List.takeWhile_prefix _).length_le, fractionLength?_append_closing]
    · by_cases dot : c = '.'
      · subst dot
        exact fractionLength?_append_closing ('.' :: rest)
      · have noZero : (c :: rest).head? ≠ some '0' := fun same => zero (Option.some.inj same)
        have noDot : (c :: rest).head? ≠ some '.' := fun same => dot (Option.some.inj same)
        have noZero' : (c :: (rest ++ closing)).head? ≠ some '0' := noZero
        have noDot' : (c :: (rest ++ closing)).head? ≠ some '.' := noDot
        rw [numberSize?_plain octal noZero noDot, numberSize?_plain octal noZero' noDot',
          ← List.cons_append, digitsLength?_append_closing (by decide)]
        cases isSize : digitsLength? Char.isDigit (c :: rest) with
        | none => rfl
        | some size =>
          simp only [Option.bind_eq_bind, Option.bind_some]
          rw [drop_append_closing (length_of_digitsLength? isSize), bigSuffix_append_closing,
            fractionLength?_append_closing]

theorem length_of_fraction {before size : Nat} {rest : List Char}
    (found : (do return before + (← fractionLength? rest)) = some size) :
    before ≤ size ∧ size ≤ before + rest.length := by
  obtain ⟨fraction, isFraction, same⟩ := Option.bind_eq_some_iff.mp found
  have inside := length_of_fractionLength? isFraction
  cases same
  omega

theorem length_of_numberSize?_zero {octal : Bool} {rest : List Char} {size : Nat}
    (noRadix : ∀ letter ∈ radixLetters, rest.head? ≠ some letter)
    (found : numberSize? octal ('0' :: rest) = some size) : 0 < size ∧ size ≤ rest.length + 1 := by
  rw [numberSize?_zero octal noRadix] at found
  have digits := (List.takeWhile_prefix (l := rest) Char.isDigit).length_le
  have suffix := bigSuffix_le rest
  dsimp only at found
  split at found
  · split at found
    · cases found
    · split at found
      · cases found
        omega
      · have inside := length_of_fraction found
        omega
  · split at found
    · cases found
    · split at found
      · cases found
        omega
      · have inside := length_of_fraction found
        rw [List.length_drop] at inside
        omega

theorem length_of_numberSize?_plain {octal : Bool} {text : List Char} {size : Nat}
    (noZero : text.head? ≠ some '0') (noDot : text.head? ≠ some '.')
    (found : numberSize? octal text = some size) : 0 < size ∧ size ≤ text.length := by
  rw [numberSize?_plain octal noZero noDot] at found
  obtain ⟨digits, isDigits, found⟩ := Option.bind_eq_some_iff.mp found
  have inside := length_of_digitsLength? isDigits
  have suffix := bigSuffix_le (text.drop digits)
  rw [List.length_drop] at suffix
  split at found
  · cases found
  · split at found
    · cases found
      omega
    · have behind := length_of_fraction found
      rw [List.length_drop] at behind
      omega

theorem length_of_numberSize? {octal : Bool} {text : List Char} {size : Nat}
    (found : numberSize? octal text = some size) : 0 < size ∧ size ≤ text.length := by
  cases text with
  | nil => cases found
  | cons c rest =>
    by_cases zero : c = '0'
    · subst zero
      by_cases radix : ∃ letter ∈ radixLetters, rest.head? = some letter
      · obtain ⟨letter, isRadix, starts⟩ := radix
        obtain ⟨rest, rfl⟩ := List.head?_eq_some_iff.mp starts
        obtain ⟨isDigit, _, reads⟩ := numberSize?_radix isRadix
        rw [reads] at found
        exact length_of_radixLength? found
      · exact length_of_numberSize?_zero
          (fun letter isRadix starts => radix ⟨letter, isRadix, starts⟩) found
    · by_cases dot : c = '.'
      · subst dot
        refine ⟨?_, length_of_fractionLength? found⟩
        obtain ⟨digits, _, found⟩ := Option.bind_eq_some_iff.mp found
        obtain ⟨exponent, _, same⟩ := Option.bind_eq_some_iff.mp found
        cases same
        omega
      · exact length_of_numberSize?_plain (fun same => zero (Option.some.inj same))
          (fun same => dot (Option.some.inj same)) found

theorem numberLength?_append_closing (octal : Bool) (text : List Char) :
    numberLength? octal (text ++ closing) = numberLength? octal text := by
  unfold numberLength?
  rw [numberSize?_append_closing]
  cases isSize : numberSize? octal text with
  | none => rfl
  | some size =>
    simp only [Option.bind_eq_bind, Option.bind_some]
    rw [drop_append_closing (length_of_numberSize? isSize).2]
    cases text.drop size with
    | nil => rfl
    | cons c rest => rfl

theorem length_of_numberLength? {octal : Bool} {text : List Char} {size : Nat}
    (found : numberLength? octal text = some size) : 0 < size ∧ size ≤ text.length := by
  unfold numberLength? at found
  obtain ⟨size', isSize, found⟩ := Option.bind_eq_some_iff.mp found
  have inside := length_of_numberSize? isSize
  split at found
  · split at found
    · cases found
    · cases found
      exact inside
  · cases found
    exact inside

/-! Regular expressions and templates -/

theorem regexBodyLength?_cons {c : Char} (plain : c ≠ '\\') (inClass : Bool) (rest : List Char) :
    regexBodyLength? inClass (c :: rest) =
      if isLineBreak c then none
      else if c = '/' ∧ !inClass then some 1
      else if c = '[' then (regexBodyLength? true rest).map (· + 1)
      else if c = ']' then (regexBodyLength? false rest).map (· + 1)
      else (regexBodyLength? inClass rest).map (· + 1) :=
  regexBodyLength?.eq_3 inClass c rest fun _ _ same _ => plain same

theorem regexBodyLength?_append_closing (inClass : Bool) (text : List Char) :
    regexBodyLength? inClass (text ++ closing) = regexBodyLength? inClass text := by
  induction size : text.length using Nat.strongRecOn generalizing inClass text with
  | _ _ ih =>
    subst size
    cases text with
    | nil => rfl
    | cons c rest =>
      by_cases escapes : c = '\\'
      · subst escapes
        cases rest with
        | nil => rfl
        | cons d rest =>
          rw [List.cons_append, List.cons_append, regexBodyLength?.eq_2, regexBodyLength?.eq_2,
            ih rest.length (by simp only [List.length_cons]; omega) _ _ rfl]
      · rw [List.cons_append, regexBodyLength?_cons escapes, regexBodyLength?_cons escapes]
        simp only [ih rest.length (Nat.lt_succ_self _) _ _ rfl]

theorem length_of_regexBodyLength? {inClass : Bool} {text : List Char} {size : Nat}
    (found : regexBodyLength? inClass text = some size) : size ≤ text.length := by
  induction inClass, text using regexBodyLength?.induct generalizing size with
  | case1 => cases found
  | case2 inClass c rest isBreak =>
    rw [regexBodyLength?.eq_2, if_pos isBreak] at found
    cases found
  | case3 inClass c rest noBreak ih =>
    rw [regexBodyLength?.eq_2, if_neg noBreak] at found
    obtain ⟨size', inside, same⟩ := Option.map_eq_some_iff.mp found
    exact same ▸ Nat.add_le_add_right (ih inside) 2
  | case4 inClass c rest single isBreak =>
    rw [regexBodyLength?.eq_3 _ _ _ single, if_pos isBreak] at found
    cases found
  | case5 inClass c rest single noBreak closes =>
    rw [regexBodyLength?.eq_3 _ _ _ single, if_neg noBreak, if_pos closes] at found
    cases found
    exact Nat.le_add_left _ _
  | case6 inClass rest single noBreak goes ih =>
    rw [regexBodyLength?.eq_3 _ _ _ single, if_neg noBreak, if_neg goes, if_pos rfl] at found
    obtain ⟨size', inside, same⟩ := Option.map_eq_some_iff.mp found
    exact same ▸ Nat.add_le_add_right (ih inside) 1
  | case7 inClass rest single noBreak goes noOpen ih =>
    rw [regexBodyLength?.eq_3 _ _ _ single, if_neg noBreak, if_neg goes, if_neg noOpen,
      if_pos rfl] at found
    obtain ⟨size', inside, same⟩ := Option.map_eq_some_iff.mp found
    exact same ▸ Nat.add_le_add_right (ih inside) 1
  | case8 inClass c rest single noBreak goes noOpen noClose ih =>
    rw [regexBodyLength?.eq_3 _ _ _ single, if_neg noBreak, if_neg goes, if_neg noOpen,
      if_neg noClose] at found
    obtain ⟨size', inside, same⟩ := Option.map_eq_some_iff.mp found
    exact same ▸ Nat.add_le_add_right (ih inside) 1

theorem regexLength?_append_closing (text : List Char) :
    regexLength? (text ++ closing) = regexLength? text := by
  cases text with
  | nil => rfl
  | cons c rest =>
    by_cases slash : c = '/'
    · subst slash
      rw [List.cons_append, regexLength?, regexLength?, regexBodyLength?_append_closing]
      cases isSize : regexBodyLength? false rest with
      | none => rfl
      | some size =>
        have inside : 1 + size ≤ ('/' :: rest).length := by
          rw [List.length_cons, Nat.add_comm]
          exact Nat.succ_le_succ (length_of_regexBodyLength? isSize)
        simp only [Option.bind_eq_bind, Option.bind_some]
        rw [← List.cons_append, drop_append_closing inside, takeWhile_append_closing (by decide)]
    · rw [List.cons_append, regexLength?.eq_2 _ fun _ same => slash (List.cons.inj same).1,
        regexLength?.eq_2 _ fun _ same => slash (List.cons.inj same).1]

theorem length_of_regexLength? {text : List Char} {size : Nat}
    (found : regexLength? text = some size) : 0 < size ∧ size ≤ text.length := by
  unfold regexLength? at found
  split at found
  · rename_i rest
    obtain ⟨body, isBody, found⟩ := Option.bind_eq_some_iff.mp found
    have inside := length_of_regexBodyLength? isBody
    have flags := (List.takeWhile_prefix (l := ('/' :: rest).drop (1 + body)) isWordRest).length_le
    rw [List.length_drop, List.length_cons] at flags
    rw [List.length_cons]
    dsimp only at found
    split at found
    · cases found
      omega
    · cases found
  · cases found

theorem quasiText?_append_closing (text : List Char) :
    quasiText? (text ++ closing) = quasiText? text := by
  induction text using quasiText?.induct with
  | case1 | case2 | case4 | case6 => rfl
  | case3 c rest ih => rw [List.cons_append, List.cons_append, quasiText?.eq_3, quasiText?.eq_3, ih]
  | case5 c rest noTick noHole noEscape noEnd ih =>
    have noHole' (more : List Char) (dollar : c = '$') (same : rest ++ closing = '{' :: more) :
        False := by
      cases rest with
      | nil => simp [closing] at same
      | cons d rest =>
        rw [List.cons_append, List.cons.injEq] at same
        exact noHole rest dollar (by rw [same.1])
    have noSlash : c ≠ '\\' := fun slash => by
      cases rest with
      | nil => exact noEnd slash rfl
      | cons d rest => exact noEscape d rest slash rfl
    rw [List.cons_append, quasiText?.eq_5 _ _ noTick noHole noEscape noEnd,
      quasiText?.eq_5 _ _ noTick noHole' (fun _ _ slash _ => noSlash slash)
        (fun slash _ => noSlash slash), ih]

/-- What ends a text of a template still follows it. -/
theorem drop_of_quasiText? {text raw : List Char} (found : quasiText? text = some raw) :
    (∃ rest, text.drop raw.length = '\x60' :: rest) ∨
      ∃ rest, text.drop raw.length = '$' :: '{' :: rest := by
  induction text using quasiText?.induct generalizing raw with
  | case1 tail =>
    cases found
    exact .inl ⟨tail, rfl⟩
  | case2 tail =>
    cases found
    exact .inr ⟨tail, rfl⟩
  | case3 c rest ih =>
    rw [quasiText?.eq_3] at found
    obtain ⟨raw, inside, rfl⟩ := Option.map_eq_some_iff.mp found
    exact ih inside
  | case4 => cases found
  | case5 c rest noTick noHole noEscape noEnd ih =>
    rw [quasiText?.eq_5 _ _ noTick noHole noEscape noEnd] at found
    obtain ⟨raw, inside, rfl⟩ := Option.map_eq_some_iff.mp found
    exact ih inside
  | case6 => cases found

end CssInline.Code
