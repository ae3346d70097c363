/-!
Rounding a quotient of natural numbers to the nearest one, a tie to the even neighbour.
-/

namespace SceneFrames.Number

/-- The natural number nearest to `num / den`; of two nearest ones, the even. -/
def roundDiv (num den : Nat) : Nat :=
  let q := num / den
  let r := num % den
  if den < 2 * r || (2 * r == den && q % 2 == 1) then q + 1 else q

/-- The result is within half a unit of the quotient. -/
theorem roundDiv_near (num den : Nat) (h : 0 < den) :
    2 * (roundDiv num den * den) ≤ 2 * num + den ∧
      2 * num ≤ 2 * (roundDiv num den * den) + den := by
  have hd : den * (num / den) + num % den = num := Nat.div_add_mod num den
  have hr : num % den < den := Nat.mod_lt _ h
  unfold roundDiv
  simp only [Bool.or_eq_true, decide_eq_true_eq, Bool.and_eq_true, beq_iff_eq]
  split
  · rename_i hc
    have : den ≤ 2 * (num % den) := by omega
    rw [Nat.add_mul, Nat.mul_comm (num / den) den]
    omega
  · rename_i hc
    have : 2 * (num % den) ≤ den := by omega
    rw [Nat.mul_comm (num / den) den]
    omega

theorem roundDiv_one (n : Nat) : roundDiv n 1 = n := by simp [roundDiv, Nat.mod_one]

end SceneFrames.Number
