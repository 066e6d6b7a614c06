import StyleNumber.Number.Basic
import StyleNumber.Proofs.Decimal.Text
import StyleNumber.Proofs.Number.Coercion
import StyleNumber.Proofs.Signature.Reading

/-! # Reading numbers

Nothing stands between the scalar and the units in the text of a number. Still the text of the
scalar can be taken off (`Double.readScalar_text`): a finite one consists of a sign, digits and
a point, and no unit may begin with a digit or a point (`UnitSymbol.Separable`). What is left
is the text of the units, so the text of a number tells its units and how its scalar is written
(`Number.readText_text`). Hence the texts of signatures and of numbers are unambiguous
(`Number.texts_unambiguous`).
-/

namespace StyleNumber

/-- Whether a character belongs to the digits of a number and their point. -/
def isNumeral (character : Char) : Bool :=
  character.isDigit || character = '.'

/-- Whether a symbol can be told apart from digits in front of it. -/
def UnitSymbol.Separable (symbol : UnitSymbol) : Prop :=
  ∀ initial ∈ symbol.text.toList.head?, ¬isNumeral initial

instance (symbol : UnitSymbol) : Decidable symbol.Separable :=
  decidable_of_iff (symbol.text.toList.head?.all fun initial => !isNumeral initial) (by
    simp [UnitSymbol.Separable, Option.all_eq_true])

namespace Decimal

/-- Behind its sign, a decimal is written with digits and a point. -/
theorem exists_characters_eq (decimal : Decimal) :
    ∃ initial others, (∀ character ∈ initial :: others, isNumeral character) ∧
      decimal.characters =
        (if signed decimal.negative decimal.count < 0 then ['-'] else []) ++
          initial :: others := by
  have bounded := mod_tenPow_lt decimal.count decimal.places
  have wholeNumeral : ∀ character ∈ Nat.toDigits 10 (decimal.count / tenPow decimal.places),
      isNumeral character := by
    intro character member
    have isDigit := Nat.isDigit_of_mem_toDigits (by decide) (le_refl 10) member
    rw [isNumeral, isDigit, Bool.true_or]
  have fractionNumeral : ∀ character ∈
      (if fractionDigits decimal.places (decimal.count % tenPow decimal.places) = [] then []
        else '.' :: fractionDigits decimal.places (decimal.count % tenPow decimal.places)),
      isNumeral character := by
    intro character member
    split at member
    · cases member
    · rcases List.mem_cons.mp member with rfl | digit
      · rfl
      · rw [isNumeral, isDigit_of_mem_fractionDigits bounded character digit, Bool.true_or]
  obtain ⟨initial, others, whole⟩ := List.exists_cons_of_ne_nil
    (Nat.toDigits_ne_nil : Nat.toDigits 10 (decimal.count / tenPow decimal.places) ≠ [])
  rw [whole] at wholeNumeral
  rw [characters_eq, whole, List.append_assoc, List.cons_append]
  refine ⟨initial, _, ?_, rfl⟩
  intro character member
  rw [← List.cons_append] at member
  rcases List.mem_append.mp member with inWhole | inFraction
  · exact wholeNumeral character inWhole
  · exact fractionNumeral character inFraction

end Decimal

namespace Double

/-- The text of a scalar without a sign, at the front of a text. -/
def readUnsigned (characters : List Char) : List Char :=
  if characters.head? = some 'N' then "NaN".toList
  else if characters.head? = some 'I' then "Infinity".toList
  else characters.takeWhile isNumeral

/-- The text of a scalar at the front of a text. -/
def readScalar (characters : List Char) : List Char :=
  if characters.head? = some '-' then '-' :: readUnsigned characters.tail
  else readUnsigned characters

private theorem readUnsigned_of_numeral {initial : Char} {others rest : List Char}
    (numeral : ∀ character ∈ initial :: others, isNumeral character)
    (separate : ∀ next ∈ rest.head?, ¬isNumeral next) :
    readUnsigned (initial :: others ++ rest) = initial :: others := by
  have isFirst : isNumeral initial := numeral initial List.mem_cons_self
  have notNan : initial ≠ 'N' := by
    rintro rfl
    exact absurd isFirst (by decide)
  have notInfinity : initial ≠ 'I' := by
    rintro rfl
    exact absurd isFirst (by decide)
  have stops : rest.takeWhile isNumeral = [] := by
    cases rest with
    | nil => rfl
    | cons next rest => exact List.takeWhile_cons_of_neg (separate next rfl)
  rw [readUnsigned, if_neg (by simpa using notNan), if_neg (by simpa using notInfinity),
    List.takeWhile_append_of_pos numeral, stops, List.append_nil]

/-- **The text of a scalar can be taken off** what is written behind it, unless that begins with
a digit or a point. -/
theorem readScalar_text (value : Double) (rest : List Char)
    (separate : ∀ next ∈ rest.head?, ¬isNumeral next) :
    readScalar (value.text.toList ++ rest) = value.text.toList := by
  cases value with
  | nan => rfl
  | infinite negative => cases negative <;> rfl
  | finite negative magnitude =>
    obtain ⟨initial, others, numeral, characters⟩ :=
      (magnitude.toDecimal negative precision).exists_characters_eq
    have notSign : initial ≠ '-' := by
      rintro rfl
      exact absurd (numeral '-' List.mem_cons_self) (by decide)
    have unsigned := readUnsigned_of_numeral numeral separate
    rw [text_finite, Decimal.text, String.toList_ofList, characters]
    split
    · rw [List.singleton_append, List.cons_append, readScalar, if_pos List.head?_cons,
        List.tail_cons, unsigned]
    · rw [List.nil_append, readScalar, if_neg (by simpa using notSign), unsigned]

/-- Every double is written with some character. -/
theorem text_ne_empty (value : Double) : value.text ≠ "" := by
  cases value with
  | nan => decide
  | infinite negative => cases negative <;> decide
  | finite negative magnitude =>
    obtain ⟨initial, others, _, characters⟩ :=
      (magnitude.toDecimal negative precision).exists_characters_eq
    rw [text_finite, Decimal.text, characters, ne_eq, String.ofList_eq_empty_iff]
    exact List.append_ne_nil_of_right_ne_nil _ (List.cons_ne_nil _ _)

end Double

namespace Signature

/-- Whether no symbol of a signature begins with a digit or a point. -/
def Separable (units : Signature) : Prop :=
  ∀ unit ∈ units.numerators ++ units.denominators, unit.Separable

instance (units : Signature) : Decidable units.Separable :=
  inferInstanceAs (Decidable (∀ _ ∈ _, _))

/-- The text of units that can be told apart from digits begins with something else. -/
theorem exists_toList_text {units : Signature} (bearing : ¬units.isEmpty) (plain : units.Plain)
    (separable : units.Separable) :
    ∃ initial others, units.text.toList = initial :: others ∧ ¬isNumeral initial := by
  rcases text_begins bearing with ⟨rest, begins⟩ | ⟨unit, isUnit, rest, begins⟩
  · rw [begins, String.toList_append]
    exact ⟨'(', rest.toList, rfl, by decide⟩
  · obtain ⟨initial, others, symbol⟩ :=
      List.exists_cons_of_ne_nil (mt String.toList_eq_nil_iff.mp (plain unit isUnit).1)
    rw [begins, String.toList_append, symbol, List.cons_append]
    refine ⟨initial, _, rfl, separable unit isUnit initial ?_⟩
    rw [symbol]
    rfl

end Signature

namespace Number

variable {number : Number Double}

/-- Behind a number with units stands the text of its signature. -/
theorem unitText_of_hasUnits (bearing : number.hasUnits) : number.unitText = number.units.text :=
  if_pos bearing

/-- Behind a number without units stands nothing. -/
theorem unitText_of_not_hasUnits (bare : ¬number.hasUnits) : number.unitText = "" :=
  if_neg bare

/-- The text of the scalar and the units, read from the text of a number. -/
def readText (characters : List Char) : List Char × Signature :=
  let scalar := Double.readScalar characters
  let units := characters.drop scalar.length
  (scalar, if units = [] then .unitless else .read units)

/-- **Reading the text of a number** gives the text of its scalar and its units back. -/
theorem readText_text (plain : number.units.Plain) (separable : number.units.Separable) :
    readText number.text.toList = (number.value.text.toList, number.units) := by
  by_cases bearing : number.hasUnits
  · obtain ⟨initial, others, begins, separate⟩ :=
      Signature.exists_toList_text (hasUnits_iff.mp bearing) plain separable
    have scalar : Double.readScalar (number.value.text.toList ++ number.units.text.toList) =
        number.value.text.toList := by
      apply Double.readScalar_text
      rw [begins]
      rintro next ⟨⟩
      exact separate
    have nonempty : number.units.text.toList ≠ [] := by
      rw [begins]
      exact List.cons_ne_nil _ _
    simp only [readText, text, unitText_of_hasUnits bearing, String.toList_append, scalar,
      List.drop_left, if_neg nonempty, Signature.read_text plain]
  · have scalar := Double.readScalar_text number.value [] (by rintro next ⟨⟩)
    rw [List.append_nil] at scalar
    have unitless : number.units = .unitless := by
      rw [hasUnits_iff, not_not] at bearing
      exact Signature.isEmpty_iff.mp bearing
    simp only [readText, text, unitText_of_not_hasUnits bearing, String.append_empty, scalar,
      List.drop_length, ↓reduceIte, unitless]

/-- **Texts are unambiguous.** Signatures of plain symbols have the same text only if they are
the same, symbol by symbol. If no symbol begins with a digit or a point either, numbers have the
same text only if their scalars are written alike and their units are the same. -/
theorem texts_unambiguous :
    (∀ first second : Signature, first.Plain → second.Plain →
      first.text = second.text → first = second) ∧
    ∀ first second : Number Double,
      first.units.Plain → first.units.Separable → second.units.Plain → second.units.Separable →
        first.text = second.text →
          first.value.text = second.value.text ∧ first.units = second.units := by
  constructor
  · intro first second firstPlain secondPlain same
    rw [← Signature.read_text firstPlain, same, Signature.read_text secondPlain]
  · intro first second firstPlain firstSeparable secondPlain secondSeparable same
    have firstRead := readText_text firstPlain firstSeparable
    rw [same, readText_text secondPlain secondSeparable, Prod.mk.injEq] at firstRead
    exact ⟨(String.toList_inj.mp firstRead.1).symm, firstRead.2.symm⟩

/-- Three and a little less than three pixels per second are both written `3px/s`, hence have
the same units and the same text of the scalar. -/
theorem three_pixels_per_second_read :
    let units : Signature := ⟨[⟨"px"⟩], [⟨"s"⟩]⟩
    let three : Number Double := ofUnits 3 units
    let almost : Number Double := ofUnits 2.9999999999999 units
    (units.Plain ∧ units.Separable ∧ units.text = "px/s" ∧ almost.value < three.value ∧
        three.text = "3px/s" ∧ almost.text = "3px/s") ∧
      three.value.text = almost.value.text ∧ three.value.text = "3" ∧
      three.units = almost.units := by
  intro units three almost
  have plain : units.Plain := by decide
  have separable : units.Separable := by decide
  have threeText : three.text = "3px/s" := by decide +kernel
  have almostText : almost.text = "3px/s" := by decide +kernel
  have read := texts_unambiguous.2 three almost plain separable plain separable
    (threeText.trans almostText.symm)
  exact ⟨⟨plain, separable, by decide +kernel, by decide +kernel, threeText, almostText⟩,
    read.1, by decide +kernel, read.2⟩

end Number

end StyleNumber
