import StyleNumber.Number.Argument
import StyleNumber.Proofs.Double.Range

/-! # Checks of a range

A number is accepted as an argument in a range exactly if its scalar is within the range, up to
the tolerance, and the scalar that is passed on lies in the range exactly. Any other number is
reported, with the bounds in its own units (`Number.valueInRange_eq_error_iff`).
-/

namespace StyleNumber

namespace Number

variable {number : Number Double} {least most : Double} {name : Option String}

private theorem valueInRange_eq_ok_iff {value : Double} :
    number.valueInRange least most name = .ok value ↔
      number.value.clamp? least most = some value := by
  unfold valueInRange
  cases number.value.clamp? least most <;> simp

private theorem valueInRange_eq_error_iff (ordered : least ≤ most) {error : Error} :
    number.valueInRange least most name = .error error ↔
      ¬number.value.Within least most ∧
        error = .argument name (.outOfRange number.text (least.text ++ number.unitText)
          (most.text ++ number.unitText)) := by
  rw [← Double.exists_clamp?_iff ordered]
  unfold valueInRange
  cases number.value.clamp? least most <;> simp [eq_comm]

/-- **The checks of a range agree.** Clamping a double to a range succeeds exactly where the
double is within the range up to the tolerance; it gives a double in the range, either the same
or a bound close to it; and it leaves a double alone that no bound is close to exactly where the
double is strictly inside. Hence what a number passes on as an argument lies in the range, and
exactly the numbers that are not within it are reported. -/
theorem range_checks_agree :
    (∀ number least most : Double, least ≤ most →
      ((∃ value, number.clamp? least most = some value) ↔ number.Within least most) ∧
      (∀ value, number.clamp? least most = some value →
        least ≤ value ∧ value ≤ most ∧
          (value = number ∨ (value = least ∨ value = most) ∧ number.Close value)) ∧
      (number.Inside least most ↔
        number.clamp? least most = some number ∧ ¬number.Close least ∧ ¬number.Close most)) ∧
    ∀ (number : Number Double) (least most : Double) (name : Option String), least ≤ most →
      ((∃ value, number.valueInRange least most name = .ok value) ↔
        number.value.Within least most) ∧
      (∀ value, number.valueInRange least most name = .ok value →
        least ≤ value ∧ value ≤ most) ∧
      ∀ error, number.valueInRange least most name = .error error ↔
        ¬number.value.Within least most ∧
          error = .argument name (.outOfRange number.text (least.text ++ number.unitText)
            (most.text ++ number.unitText)) := by
  constructor
  · intro number least most ordered
    exact ⟨Double.exists_clamp?_iff ordered, fun value => Double.mem_range_of_clamp? ordered,
      Double.inside_iff⟩
  · intro number least most name ordered
    refine ⟨?_, ?_, fun error => valueInRange_eq_error_iff ordered⟩
    · simp only [valueInRange_eq_ok_iff, Double.exists_clamp?_iff ordered]
    · intro value accepted
      obtain ⟨lower, upper, _⟩ :=
        Double.mem_range_of_clamp? ordered (valueInRange_eq_ok_iff.mp accepted)
      exact ⟨lower, upper⟩

/-- A little less than one lies below both bounds of a range that is narrower than the tolerance,
and still passes for its lower bound; `150%` is out of range. -/
theorem narrow_range_clamps :
    let least : Double := 1
    let most : Double := 1.000000000001
    let narrow : Number Double := ofUnit 0.999999999999 ⟨"px"⟩
    let percent : Number Double := ofUnit 150 ⟨"%"⟩
    (least ≤ most ∧ narrow.value < least ∧ narrow.value.clamp? least most = some least) ∧
      narrow.value.Within least most ∧
      percent.valueInRange least most (some "weight") =
        .error (.argument (some "weight") (.outOfRange "150%" "1%" "1%")) := by
  intro least most narrow percent
  have clamped : narrow.value.clamp? least most = some least := by decide +kernel
  have within := (range_checks_agree.1 narrow.value least most (by decide +kernel)).1.mp
    ⟨least, clamped⟩
  have outside : ¬percent.value.Within least most := by decide +kernel
  refine ⟨⟨by decide +kernel, by decide +kernel, clamped⟩, within, ?_⟩
  exact ((range_checks_agree.2 percent least most (some "weight") (by decide +kernel)).2.2 _).mpr
    ⟨outside, by decide +kernel⟩

end Number

end StyleNumber
