/-!
Whole numbers nearest to a quotient. `roundDiv` is the only place where a value is rounded to
nearest: binary and decimal texts both reduce to it.
-/
namespace AccessLog

/-- The whole number nearest to `num / den`; of two equally near ones, the even one. -/
def roundDiv (num den : Nat) : Nat :=
  let q := num / den
  let r := num % den
  if 2 * r < den then q
  else if den < 2 * r then q + 1
  else q + q % 2

/-- Twice the distance to the quotient never exceeds one unit, from below. -/
theorem two_mul_roundDiv_le (num : Nat) {den : Nat} (h : 0 < den) :
    2 * (roundDiv num den * den) ≤ 2 * num + den := by
  have e := Nat.div_add_mod num den
  have l := Nat.mod_lt num h
  have c : den * (num / den) = num / den * den := Nat.mul_comm ..
  unfold roundDiv
  simp only
  split
  · omega
  · split
    · rw [Nat.add_mul]; omega
    · have p : num / den % 2 * den ≤ den := by
        have : num / den % 2 ≤ 1 := by omega
        simpa using Nat.mul_le_mul_right den this
      rw [Nat.add_mul]; omega

end AccessLog
