import StyleNumber.Signature.Basic

/-! # Reading signatures

The text of a signature can be read back (`Signature.read_text`): the signs that join the
symbols tell the five shapes apart and the symbols from each other, as long as no symbol is
empty, contains one of these signs or is the text of the signature without units
(`UnitSymbol.Plain`). It begins with a symbol or a parenthesis (`Signature.text_begins`), and it
is empty for the empty symbol alone (`Signature.text_eq_empty_iff`).
-/

namespace StyleNumber

namespace UnitSymbol

/-- Whether a symbol can be told apart from what stands around it in a text. -/
def Plain (symbol : UnitSymbol) : Prop :=
  symbol.text ≠ "" ∧ symbol.text ≠ "no units" ∧
    ∀ sign ∈ ['*', '/', '(', ')', '^'], sign ∉ symbol.text.toList

-- The signs are named by `List.all`: a quantifier over characters would try every character.
instance (symbol : UnitSymbol) : Decidable symbol.Plain :=
  decidable_of_iff (symbol.text ≠ "" ∧ symbol.text ≠ "no units" ∧
    ['*', '/', '(', ')', '^'].all fun sign => sign ∉ symbol.text.toList) (by
      simp only [Plain, List.all_eq_true, decide_eq_true_eq])

end UnitSymbol

namespace Signature

/-- Whether all symbols of a signature are plain. -/
def Plain (units : Signature) : Prop :=
  ∀ unit ∈ units.numerators ++ units.denominators, unit.Plain

instance (units : Signature) : Decidable units.Plain :=
  inferInstanceAs (Decidable (∀ _ ∈ _, _))

/-- The symbols of a product. -/
def readProduct (characters : List Char) : List UnitSymbol :=
  (characters.splitOn '*').map fun symbol => ⟨String.ofList symbol⟩

/-- The signature that a text stands for. -/
def read (characters : List Char) : Signature :=
  if characters = "no units".toList then unitless
  else if '^' ∈ characters then
    ⟨[], readProduct ((characters.takeWhile (· ≠ '^')).filter (· ∉ ['(', ')']))⟩
  else if '/' ∈ characters then
    ⟨readProduct (characters.takeWhile (· ≠ '/')),
      readProduct (characters.dropWhile (· ≠ '/')).tail⟩
  else ⟨readProduct characters, []⟩

private theorem toList_productText (units : List UnitSymbol) :
    (productText units).toList = ['*'].intercalate (units.map (·.text.toList)) := by
  rw [productText, String.toList_intercalate, List.map_map]
  rfl

private theorem productText_singleton (unit : UnitSymbol) : productText [unit] = unit.text :=
  String.intercalate_singleton

private theorem productText_cons {unit : UnitSymbol} {units : List UnitSymbol}
    (nonempty : units ≠ []) :
    productText (unit :: units) = unit.text ++ "*" ++ productText units :=
  String.intercalate_cons_of_ne_nil (mt List.map_eq_nil_iff.mp nonempty)

/-- A product consists of its symbols and of signs of multiplication. -/
theorem mem_productText {character : Char} {units : List UnitSymbol}
    (member : character ∈ (productText units).toList) :
    character = '*' ∨ ∃ unit ∈ units, character ∈ unit.text.toList := by
  induction units with
  | nil => simp [productText] at member
  | cons unit units ih =>
    by_cases last : units = []
    · rw [last, productText_singleton] at member
      exact .inr ⟨unit, List.mem_cons_self, member⟩
    · rw [productText_cons last, String.toList_append, String.toList_append, List.mem_append,
        List.mem_append] at member
      rcases member with (first | sign) | later
      · exact .inr ⟨unit, List.mem_cons_self, first⟩
      · exact .inl (List.mem_singleton.mp sign)
      · rcases ih later with sign | ⟨other, isUnit, inside⟩
        · exact .inl sign
        · exact .inr ⟨other, List.mem_cons_of_mem _ isUnit, inside⟩

section

variable {units : List UnitSymbol} (plain : ∀ unit ∈ units, unit.Plain)

include plain

private theorem not_mem_productText {sign : Char} (isSign : sign ∈ ['/', '(', ')', '^']) :
    sign ∉ (productText units).toList := by
  intro member
  rcases mem_productText member with rfl | ⟨unit, isUnit, inside⟩
  · exact absurd isSign (by decide)
  · exact (plain unit isUnit).2.2 sign (List.mem_cons_of_mem _ isSign) inside

/-- A product is read back symbol by symbol. -/
theorem readProduct_productText (nonempty : units ≠ []) :
    readProduct (productText units).toList = units := by
  rw [readProduct, toList_productText, List.splitOn_intercalate]
  · simp [Function.comp_def]
  · intro symbol member
    obtain ⟨unit, isUnit, rfl⟩ := List.mem_map.mp member
    exact (plain unit isUnit).2.2 '*' (by decide)
  · exact mt List.map_eq_nil_iff.mp nonempty

private theorem productText_ne : (productText units).toList ≠ "no units".toList := by
  intro same
  by_cases empty : units = []
  · rw [empty] at same
    exact absurd same (by decide)
  · have read := readProduct_productText plain empty
    have alone : readProduct "no units".toList = [⟨"no units"⟩] := by decide +kernel
    rw [same, alone] at read
    exact (plain ⟨"no units"⟩ (read ▸ List.mem_cons_self)).2.1 rfl

end

/-! ## The five shapes -/

private theorem read_reciprocal {product : List Char} (noPower : '^' ∉ product) :
    read (product ++ "^-1".toList) = ⟨[], readProduct (product.filter (· ∉ ['(', ')']))⟩ := by
  have power : '^' ∈ product ++ "^-1".toList := List.mem_append_right _ (by decide)
  have notUnitless : product ++ "^-1".toList ≠ "no units".toList := fun same =>
    absurd (same ▸ power) (by decide)
  have before : (product ++ "^-1".toList).takeWhile (· ≠ '^') = product := by
    rw [List.takeWhile_append_of_pos]
    · exact List.append_nil product
    · intro character member
      simpa using ne_of_mem_of_not_mem member noPower
  rw [read, if_neg notUnitless, if_pos power, before]

private theorem read_fraction {above below : List Char} (noPowerAbove : '^' ∉ above)
    (noPowerBelow : '^' ∉ below) (noBar : '/' ∉ above) :
    read (above ++ '/' :: below) = ⟨readProduct above, readProduct below⟩ := by
  have bar : '/' ∈ above ++ '/' :: below := List.mem_append_right _ List.mem_cons_self
  have notUnitless : above ++ '/' :: below ≠ "no units".toList := fun same =>
    absurd (same ▸ bar) (by decide)
  have noPower : '^' ∉ above ++ '/' :: below := by
    simp [noPowerAbove, noPowerBelow]
  have noneBar : ∀ character ∈ above, decide (character ≠ '/') = true := by
    intro character member
    simpa using ne_of_mem_of_not_mem member noBar
  have before : (above ++ '/' :: below).takeWhile (· ≠ '/') = above := by
    rw [List.takeWhile_append_of_pos noneBar]
    exact List.append_nil above
  have after : (above ++ '/' :: below).dropWhile (· ≠ '/') = '/' :: below := by
    rw [List.dropWhile_append_of_pos noneBar]
    rfl
  rw [read, if_neg notUnitless, if_neg noPower, if_pos bar, before, after, List.tail_cons]

private theorem read_product {product : List Char} (notUnitless : product ≠ "no units".toList)
    (noPower : '^' ∉ product) (noBar : '/' ∉ product) :
    read product = ⟨readProduct product, []⟩ := by
  rw [read, if_neg notUnitless, if_neg noPower, if_neg noBar]

private theorem filter_eq_self_of_not_mem {product : List Char}
    (noParenthesis : ∀ sign ∈ ['(', ')'], sign ∉ product) :
    product.filter (· ∉ ['(', ')']) = product := by
  rw [List.filter_eq_self]
  intro character member
  exact decide_eq_true fun isSign => noParenthesis character isSign member

/-- **Reading the text of a signature gives the signature back.** -/
theorem read_text {units : Signature} (plain : units.Plain) : read units.text.toList = units := by
  obtain ⟨above, below⟩ := units
  have abovePlain : ∀ unit ∈ above, unit.Plain := fun unit member =>
    plain unit (List.mem_append_left _ member)
  have belowPlain : ∀ unit ∈ below, unit.Plain := fun unit member =>
    plain unit (List.mem_append_right _ member)
  have noPowerAbove : '^' ∉ (productText above).toList :=
    not_mem_productText abovePlain (by decide)
  have noPowerBelow : '^' ∉ (productText below).toList :=
    not_mem_productText belowPlain (by decide)
  have noBarAbove : '/' ∉ (productText above).toList := not_mem_productText abovePlain (by decide)
  have noParenthesis : (productText below).toList.filter (· ∉ ['(', ')']) =
      (productText below).toList :=
    filter_eq_self_of_not_mem fun sign isParenthesis => not_mem_productText belowPlain
      (List.mem_cons_of_mem _ (List.mem_append_left ['^'] isParenthesis))
  cases above with
  | nil =>
    cases below with
    | nil => rfl
    | cons first others =>
      have nonempty := List.cons_ne_nil first others
      cases others with
      | nil =>
        have shape : text ⟨[], [first]⟩ = productText [first] ++ "^-1" := by
          rw [text, productText_singleton]
        rw [shape, String.toList_append, read_reciprocal noPowerBelow, noParenthesis,
          readProduct_productText belowPlain nonempty]
      | cons second others =>
        have shape : (text ⟨[], first :: second :: others⟩).toList =
            ('(' :: ((productText (first :: second :: others)).toList ++ [')'])) ++
              "^-1".toList := by
          simp [text]
        have noPower :
            '^' ∉ '(' :: ((productText (first :: second :: others)).toList ++ [')']) := by
          simpa using noPowerBelow
        rw [shape, read_reciprocal noPower, List.filter_cons_of_neg (by decide),
          List.filter_append, noParenthesis, List.filter_cons_of_neg (by decide), List.filter_nil,
          List.append_nil, readProduct_productText belowPlain nonempty]
  | cons numerator numerators =>
    have aboveNonempty := List.cons_ne_nil numerator numerators
    cases below with
    | nil =>
      have shape : text ⟨numerator :: numerators, []⟩ = productText (numerator :: numerators) := rfl
      rw [shape, read_product (productText_ne abovePlain) noPowerAbove noBarAbove,
        readProduct_productText abovePlain aboveNonempty]
    | cons denominator denominators =>
      have shape : (text ⟨numerator :: numerators, denominator :: denominators⟩).toList =
          (productText (numerator :: numerators)).toList ++
            '/' :: (productText (denominator :: denominators)).toList := by
        simp [text]
      rw [shape, read_fraction noPowerAbove noPowerBelow noBarAbove,
        readProduct_productText abovePlain aboveNonempty,
        readProduct_productText belowPlain (List.cons_ne_nil _ _)]

/-! ## How texts begin -/

private theorem exists_productText_eq (unit : UnitSymbol) (units : List UnitSymbol) :
    ∃ rest, productText (unit :: units) = unit.text ++ rest := by
  by_cases last : units = []
  · exact ⟨"", by rw [last, productText_singleton, String.append_empty]⟩
  · exact ⟨_, by rw [productText_cons last, String.append_assoc]⟩

/-- The text of units begins with one of them or with a parenthesis. -/
theorem text_begins {units : Signature} (bearing : ¬units.isEmpty) :
    (∃ rest, units.text = "(" ++ rest) ∨
      ∃ unit ∈ units.numerators ++ units.denominators, ∃ rest, units.text = unit.text ++ rest := by
  obtain ⟨above, below⟩ := units
  cases above with
  | nil =>
    cases below with
    | nil => exact absurd rfl bearing
    | cons first others =>
      cases others with
      | nil => exact .inr ⟨first, List.mem_cons_self, _, rfl⟩
      | cons second others => exact .inl ⟨_, String.append_assoc⟩
  | cons numerator numerators =>
    obtain ⟨rest, product⟩ := exists_productText_eq numerator numerators
    right
    cases below with
    | nil => exact ⟨numerator, List.mem_cons_self, rest, product⟩
    | cons denominator denominators =>
      have shape : text ⟨numerator :: numerators, denominator :: denominators⟩ =
          productText (numerator :: numerators) ++ "/" ++
            productText (denominator :: denominators) := rfl
      rw [product, String.append_assoc, String.append_assoc] at shape
      exact ⟨numerator, List.mem_cons_self, _, shape⟩

/-! ## Signatures without text -/

private theorem productText_eq_empty_iff {unit : UnitSymbol} {units : List UnitSymbol} :
    productText (unit :: units) = "" ↔ unit.text = "" ∧ units = [] := by
  by_cases last : units = []
  · rw [last, productText_singleton, and_iff_left rfl]
  · rw [productText_cons last]
    simp [last]

/-- Among the units with something to write, just the single empty symbol has an empty text. -/
theorem text_eq_empty_iff {units : Signature} (bearing : ¬units.isEmpty) :
    units.text = "" ↔ units = single ⟨""⟩ := by
  obtain ⟨above, below⟩ := units
  cases above with
  | nil =>
    cases below with
    | nil => exact absurd rfl bearing
    | cons first others => cases others <;> simp [text, single]
  | cons numerator numerators =>
    cases below with
    | nil =>
      rw [text, productText_eq_empty_iff]
      · cases numerator
        simp [single]
      · simp
    | cons denominator denominators => simp [text, single]

end Signature

end StyleNumber
