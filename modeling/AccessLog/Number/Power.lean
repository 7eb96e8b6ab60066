/-!
Powers with whole exponents of either sign, as fractions: `base ^ e` is `num base e / den base e`,
where one of the two is 1.
-/
namespace AccessLog.Power

def num (base : Nat) (e : Int) : Nat := Nat.pow base e.toNat

def den (base : Nat) (e : Int) : Nat := Nat.pow base (-e).toNat

@[simp] theorem num_zero (base : Nat) : num base 0 = 1 := rfl

@[simp] theorem num_natCast (base n : Nat) : num base n = Nat.pow base n := rfl

@[simp] theorem den_natCast (base n : Nat) : den base n = 1 := by
  have : (-(n : Int)).toNat = 0 := by omega
  rw [den, this]
  rfl

theorem num_pos {base : Nat} (h : 0 < base) (e : Int) : 0 < num base e := Nat.pow_pos h

theorem den_pos {base : Nat} (h : 0 < base) (e : Int) : 0 < den base e := Nat.pow_pos h

end AccessLog.Power
