import Mathlib
import StyleNumber.Unit.Symbol

/-! # Reading quoted text

What a developer is shown of a text can be seen, character by character
(`isVisible_of_mem_quoted`), and says which text it is: the first character of a text can be
read off the quoted one (`readCharacter?_quotedCharacter`), so quoting loses nothing
(`quoted_injective`).
-/

namespace StyleNumber

/-! ## Hexadecimal digits -/

/-- The value of a hexadecimal digit in lower case. -/
def hexadecimalValue (digit : Char) : ℕ :=
  if digit.isDigit then digit.toNat - 48 else digit.toNat - 87

private theorem hexadecimalValue_digitChar :
    ∀ value < 16, hexadecimalValue (Nat.digitChar value) = value := by
  decide

private theorem toDigits_sixteen {number : ℕ} (large : 16 ≤ number) :
    Nat.toDigits 16 number =
      Nat.toDigits 16 (number / 16) ++ [Nat.digitChar (number % 16)] := by
  have last : number % 16 < 16 := Nat.mod_lt _ (by decide)
  rw [← Nat.toDigits_of_lt_base last,
    Nat.toDigits_append_toDigits (by decide) (Nat.div_pos large (by decide)) last,
    Nat.div_add_mod]

/-- The hexadecimal digits of a number have its value. -/
theorem foldl_toDigits_sixteen (number : ℕ) :
    (Nat.toDigits 16 number).foldl (fun value digit => 16 * value + hexadecimalValue digit) 0 =
      number := by
  induction number using Nat.strong_induction_on with
  | _ number ih =>
    by_cases small : number < 16
    · rw [Nat.toDigits_of_lt_base small, List.foldl_cons, List.foldl_nil,
        hexadecimalValue_digitChar number small, Nat.mul_zero, Nat.zero_add]
    · rw [toDigits_sixteen (Nat.le_of_not_lt small), List.foldl_append, ih _ (by omega),
        List.foldl_cons, List.foldl_nil,
        hexadecimalValue_digitChar _ (Nat.mod_lt _ (by decide)), Nat.div_add_mod]

/-- Every hexadecimal digit is the digit of a number below sixteen. -/
theorem exists_of_mem_toDigits_sixteen {number : ℕ} {digit : Char}
    (member : digit ∈ Nat.toDigits 16 number) : ∃ value < 16, digit = Nat.digitChar value := by
  induction number using Nat.strong_induction_on with
  | _ number ih =>
    by_cases small : number < 16
    · rw [Nat.toDigits_of_lt_base small, List.mem_singleton] at member
      exact ⟨number, small, member⟩
    · rw [toDigits_sixteen (Nat.le_of_not_lt small), List.mem_append, List.mem_singleton] at member
      rcases member with earlier | last
      · exact ih _ (by omega) earlier
      · exact ⟨number % 16, Nat.mod_lt _ (by decide), last⟩

/-! ## The first character -/

/-- The character of a code point in hexadecimal digits that a brace closes, and what follows. -/
def readCodePoint (characters : List Char) : Char × List Char :=
  let digits := characters.takeWhile (· ≠ '\x7d')
  (Char.ofNat (digits.foldl (fun value digit => 16 * value + hexadecimalValue digit) 0),
    characters.drop (digits.length + 1))

/-- The character that a letter behind a backslash names. -/
def namedCharacter (name : Char) : Char :=
  match name with
  | '0' => '\x00'
  | 't' => '\t'
  | 'n' => '\n'
  | 'r' => '\r'
  | other => other

/-- The first character of a text that is given as quoted, and the rest of what is given. -/
def readCharacter? : List Char → Option (Char × List Char)
  | '\\' :: 'u' :: _ :: rest => some (readCodePoint rest)
  | '\\' :: name :: rest => some (namedCharacter name, rest)
  | first :: rest => some (first, rest)
  | [] => none

private theorem takeWhile_toDigits (number : ℕ) (rest : List Char) :
    (Nat.toDigits 16 number ++ '\x7d' :: rest).takeWhile (· ≠ '\x7d') =
      Nat.toDigits 16 number := by
  have inner : ∀ value < 16, Nat.digitChar value ≠ '\x7d' := by decide
  rw [List.takeWhile_append_of_pos, List.takeWhile_cons_of_neg (by decide), List.append_nil]
  intro digit member
  obtain ⟨value, small, rfl⟩ := exists_of_mem_toDigits_sixteen member
  exact decide_eq_true (inner value small)

private theorem readCodePoint_toDigits (character : Char) (rest : List Char) :
    readCodePoint (Nat.toDigits 16 character.toNat ++ '\x7d' :: rest) = (character, rest) := by
  rw [readCodePoint, takeWhile_toDigits, foldl_toDigits_sixteen, Char.ofNat_toNat,
    ← List.drop_drop, List.drop_left, List.drop_one, List.tail_cons]

private theorem readCharacter?_of_ne {first : Char} (plain : first ≠ '\\') (rest : List Char) :
    readCharacter? (first :: rest) = some (first, rest) := by
  unfold readCharacter?
  split <;> grind

/-- **The first character is read back** from quoted text, whatever follows it. -/
theorem readCharacter?_quotedCharacter (character : Char) (rest : List Char) :
    readCharacter? (quotedCharacter character ++ rest) = some (character, rest) := by
  unfold quotedCharacter
  split
  case h_7 plain =>
    split
    · exact readCharacter?_of_ne plain rest
    · rw [List.append_assoc, List.append_assoc]
      exact congrArg some (readCodePoint_toDigits character rest)
  all_goals rfl

/-! ## Whole texts -/

private theorem eq_of_flatMap_quotedCharacter {first second : List Char}
    (same : first.flatMap quotedCharacter = second.flatMap quotedCharacter) : first = second := by
  induction first generalizing second with
  | nil =>
    cases second with
    | nil => rfl
    | cons other others =>
      have read := readCharacter?_quotedCharacter other (others.flatMap quotedCharacter)
      rw [← List.flatMap_cons, ← same] at read
      cases read
  | cons character characters ih =>
    have read := readCharacter?_quotedCharacter character (characters.flatMap quotedCharacter)
    rw [← List.flatMap_cons, same] at read
    cases second with
    | nil => cases read
    | cons other others =>
      rw [List.flatMap_cons, readCharacter?_quotedCharacter] at read
      obtain ⟨rfl, later⟩ := Prod.mk.inj (Option.some.inj read)
      rw [ih later.symm]

/-- **Quoting loses nothing**: texts that are quoted alike are the same. -/
theorem quoted_injective : Function.Injective quoted := by
  intro first second same
  simp only [quoted, String.ofList_inj, List.cons_append, List.cons.injEq,
    List.append_cancel_right_eq, true_and] at same
  exact String.toList_inj.mp (eq_of_flatMap_quotedCharacter same)

/-- Symbols that are shown alike are the same. -/
theorem UnitSymbol.inspected_injective : Function.Injective UnitSymbol.inspected := by
  rintro ⟨first⟩ ⟨second⟩ same
  simp only [inspected, String.append_right_inj, String.append_left_inj] at same
  rw [quoted_injective same]

private theorem isVisible_of_mem_quotedCharacter {character shown : Char}
    (member : shown ∈ quotedCharacter character) : isVisible shown := by
  have named : ['\\', '0', 't', 'n', 'r', '"', 'u', '\x7b', '\x7d'].all isVisible := by
    decide +kernel
  have digits : ∀ value < 16, isVisible (Nat.digitChar value) := by decide +kernel
  rw [List.all_eq_true] at named
  unfold quotedCharacter at member
  split at member
  case h_7 =>
    split at member
    case isTrue visible => rwa [List.mem_singleton.mp member]
    case isFalse =>
      rcases List.mem_append.mp member with front | closing
      · rcases List.mem_append.mp front with opening | digit
        · exact named shown (by grind)
        · obtain ⟨value, small, rfl⟩ := exists_of_mem_toDigits_sixteen digit
          exact digits value small
      · exact named shown (by grind)
  all_goals exact named shown (by grind)

/-- **Quoted text can be seen**, every character of it. -/
theorem isVisible_of_mem_quoted {text : String} {shown : Char}
    (member : shown ∈ (quoted text).toList) : isVisible shown := by
  simp only [quoted, String.toList_ofList, List.mem_append, List.mem_cons, List.mem_flatMap,
    List.not_mem_nil, or_false] at member
  have quote : isVisible '"' := by decide +kernel
  obtain (rfl | ⟨character, _, inside⟩) | rfl := member
  · exact quote
  · exact isVisible_of_mem_quotedCharacter inside
  · exact quote

/-- A tab has a name, a bell and an accent on nothing have none. -/
example : UnitSymbol.inspected ⟨"µ\t\x07\u0301"⟩ = "Unit(\"µ\\t\\u\x7b7\x7d\\u\x7b301\x7d\")" := by
  decide +kernel

end StyleNumber
