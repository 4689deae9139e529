import Mathlib.Algebra.Order.Ring.Unbundled.Rat
import TestWorker.Clock

namespace TestWorker

namespace Double

/-- A number, and not a negative one. -/
def AtLeastZero (x : Double) : Prop := x.isNaN = false ∧ x.lt (zero false) = false

theorem toRat?_zero : (zero false).toRat? = some 0 := by
  decide +kernel

theorem finite_atLeastZero (m : Nat) (e : Int) : (finite false m e).AtLeastZero := by
  refine ⟨rfl, ?_⟩
  have hnonneg : (0 : Rat) ≤ mkRat (m * wholePower 2 e : Nat) (wholePower 2 (-e)) :=
    Rat.mkRat_nonneg (Int.natCast_nonneg _) _
  have hvalue : (finite false m e).toRat? =
      some (mkRat (m * wholePower 2 e : Nat) (wholePower 2 (-e))) :=
    rfl
  have hlt : (finite false m e).lt (zero false) =
      decide ((finite false m e).toRat?.getD 0 < (zero false).toRat?.getD 0) := rfl
  rw [hlt, hvalue, toRat?_zero]
  simpa using not_lt.2 hnonneg

theorem ofQuotient_atLeastZero (num den : Nat) : (ofQuotient false num den).AtLeastZero := by
  have hround : ∀ p : Nat × Int,
      (if 971 < p.2 then infinite false else finite false p.1 p.2).AtLeastZero := by
    intro p
    split
    · exact ⟨rfl, rfl⟩
    · exact finite_atLeastZero p.1 p.2
  unfold ofQuotient
  split
  · exact finite_atLeastZero 0 (-1074)
  · exact hround _

end Double

theorem Clock.elapsed_atLeastZero (started now : Instant) :
    (Clock.elapsed started now).AtLeastZero :=
  Double.ofQuotient_atLeastZero _ _

end TestWorker
