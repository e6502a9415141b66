import Mathlib
import Multichain.Proofs.FieldPrime

/-!
Points that are found from one coordinate. The two roots of a square have different parities, and no
point has a zero for its second coordinate, so that every coordinate of a point belongs to one point
of either parity. Main statements: `lift_eq_some_iff`, `exists_lift_iff`.
-/

set_option autoImplicit false

namespace Multichain.Secp256k1

instance : Fact fieldSize.Prime := ⟨prime_fieldSize⟩

theorem power_eq (base exponent : Nat) : power base exponent = base ^ exponent % fieldSize := by
  rw [← powerModulo_eq]
  fun_induction power base exponent with
  | case1 base => simp [powerModulo, fieldSize]
  | case2 base exponent present half odd ih | case3 base exponent present half odd ih =>
    unfold powerModulo
    simp [present, odd, half, ih]

theorem power_lt (base exponent : Nat) : power base exponent < fieldSize := by
  rw [power_eq]
  exact Nat.mod_lt _ (by decide)

theorem cast_power (base exponent : Nat) :
    (power base exponent : ZMod fieldSize) = (base : ZMod fieldSize) ^ exponent := by
  rw [power_eq, ZMod.natCast_mod, Nat.cast_pow]

theorem cast_curveValue (x : Nat) :
    (curveValue x : ZMod fieldSize) = (x : ZMod fieldSize) ^ 3 + 7 := by
  rw [curveValue, ZMod.natCast_mod, Nat.cast_add, Nat.cast_mul, ZMod.natCast_mod]
  push_cast
  ring

theorem onCurve_iff (point : Point) :
    point.onCurve = true ↔ point.x < fieldSize ∧ point.y < fieldSize ∧
      (point.y : ZMod fieldSize) ^ 2 = (point.x : ZMod fieldSize) ^ 3 + 7 := by
  have equation : point.y * point.y % fieldSize = curveValue point.x ↔
      (point.y : ZMod fieldSize) ^ 2 = (point.x : ZMod fieldSize) ^ 3 + 7 := by
    have small : curveValue point.x < fieldSize := Nat.mod_lt _ (by decide)
    rw [← cast_curveValue, sq, ← Nat.cast_mul, ZMod.natCast_eq_natCast_iff',
      Nat.mod_eq_of_lt small]
  simp only [Point.onCurve, Bool.and_eq_true, decide_eq_true_eq, beq_iff_eq, equation, and_assoc]

theorem eq_of_cast_eq (first second : Nat) (firstSmall : first < fieldSize)
    (secondSmall : second < fieldSize)
    (same : (first : ZMod fieldSize) = (second : ZMod fieldSize)) : first = second := by
  rwa [ZMod.natCast_eq_natCast_iff', Nat.mod_eq_of_lt firstSmall, Nat.mod_eq_of_lt secondSmall] at same

theorem cast_mirrored (y : Nat) (small : y < fieldSize) :
    ((fieldSize - y : Nat) : ZMod fieldSize) = -(y : ZMod fieldSize) := by
  rw [Nat.cast_sub small.le, ZMod.natCast_self, zero_sub]

-- The field size is one less than a multiple of four.
theorem pow_root (value root : ZMod fieldSize) (square : root ^ 2 = value) :
    value ^ ((fieldSize + 1) / 4) = root ∨ value ^ ((fieldSize + 1) / 4) = -root := by
  have exponent : 2 * ((fieldSize + 1) / 4 * 2) = fieldSize + 1 := by decide
  apply sq_eq_sq_iff_eq_or_eq_neg.mp
  calc
    (value ^ ((fieldSize + 1) / 4)) ^ 2 = root ^ (fieldSize + 1) := by
      rw [← square, ← pow_mul, ← pow_mul, exponent]
    _ = root ^ 2 := by rw [pow_succ, ZMod.pow_card, sq]

theorem no_cube (x : ZMod fieldSize) : x ^ 3 + 7 ≠ 0 := by
  intro zero
  have cube : x ^ 3 = ((fieldSize - 7 : Nat) : ZMod fieldSize) := by
    rw [cast_mirrored 7 (by decide)]
    exact eq_neg_of_add_eq_zero_left zero
  -- a cube to a third of the order of the field is one, which minus seven is not
  have power : ((fieldSize - 7 : Nat) : ZMod fieldSize) ^ ((fieldSize - 1) / 3) ≠ 1 := by
    rw [Ne, ← powerModulo_eq_one_iff _ _ _ (by decide)]
    decide +kernel
  have present : x ≠ 0 := by
    rintro rfl
    have seven : (7 : ZMod fieldSize) = 0 := by simpa using zero
    have small : 7 = 0 := eq_of_cast_eq 7 0 (by decide) (by decide) (by simpa using seven)
    cases small
  have exponent : 3 * ((fieldSize - 1) / 3) = fieldSize - 1 := by decide
  apply power
  rw [← cube, ← pow_mul, exponent, ZMod.pow_card_sub_one_eq_one present]

theorem y_pos (x y : Nat) (point : (Point.mk x y).onCurve = true) : 0 < y := by
  obtain ⟨-, -, equation⟩ := (onCurve_iff _).mp point
  apply Nat.pos_of_ne_zero
  rintro rfl
  apply no_cube x
  simpa using equation.symm

theorem onCurve_mirrored (x y : Nat) (point : (Point.mk x y).onCurve = true) :
    (Point.mk x (fieldSize - y)).onCurve = true := by
  have positive := y_pos x y point
  obtain ⟨first, second, equation⟩ := (onCurve_iff _).mp point
  refine (onCurve_iff _).mpr ⟨first, Nat.sub_lt (by decide) positive, ?_⟩
  simpa [cast_mirrored y second] using equation

theorem root_cases (x y : Nat) (point : (Point.mk x y).onCurve = true) :
    power (curveValue x) ((fieldSize + 1) / 4) = y ∨
      power (curveValue x) ((fieldSize + 1) / 4) = fieldSize - y := by
  obtain ⟨-, mirroredSmall, -⟩ := (onCurve_iff _).mp (onCurve_mirrored x y point)
  obtain ⟨-, small, equation⟩ := (onCurve_iff _).mp point
  have roots := pow_root (curveValue x) y (by rw [cast_curveValue, equation])
  rw [← cast_power, ← cast_mirrored y small] at roots
  cases roots with
  | inl same => exact .inl (eq_of_cast_eq _ _ (power_lt ..) small same)
  | inr other => exact .inr (eq_of_cast_eq _ _ (power_lt ..) mirroredSmall other)

def pick (odd : Bool) (root : Nat) : Nat :=
  if (root % 2 == 1) == odd then root else fieldSize - root

theorem mod_two_mirrored (y : Nat) (small : y < fieldSize) : (fieldSize - y) % 2 = 1 - y % 2 := by
  have odd : fieldSize % 2 = 1 := by decide
  omega

theorem parity_mirrored (y : Nat) (small : y < fieldSize) :
    ((fieldSize - y) % 2 == 1) = !(y % 2 == 1) := by
  rw [mod_two_mirrored y small]
  rcases Nat.mod_two_eq_zero_or_one y with parity | parity <;> rw [parity] <;> rfl

theorem parity_pick (odd : Bool) (root : Nat) (small : root < fieldSize) :
    (pick odd root % 2 == 1) = odd := by
  rw [pick]
  split_ifs with same
  · exact beq_iff_eq.mp same
  · rw [parity_mirrored root small]
    simpa [Bool.eq_not] using same

theorem onCurve_pick (odd : Bool) (x y : Nat) (point : (Point.mk x y).onCurve = true) :
    (Point.mk x (pick odd y)).onCurve = true := by
  rw [pick]
  split_ifs
  · exact point
  · exact onCurve_mirrored x y point

theorem pick_root (x y : Nat) (point : (Point.mk x y).onCurve = true) :
    pick (y % 2 == 1) (power (curveValue x) ((fieldSize + 1) / 4)) = y := by
  obtain ⟨-, small, -⟩ := (onCurve_iff _).mp point
  cases root_cases x y point with
  | inl same => simp [pick, same]
  | inr other =>
    rw [pick, other, parity_mirrored y small]
    simp [Nat.sub_sub_self small.le]

theorem Point.lift_eq_some_iff (odd : Bool) (x : Nat) (point : Point) :
    lift odd x = some point ↔ point.x = x ∧ (point.y % 2 == 1) = odd ∧ point.onCurve = true := by
  obtain ⟨px, y⟩ := point
  let root := power (curveValue x) ((fieldSize + 1) / 4)
  have lifted : lift odd x =
      if (Point.mk x (pick odd root)).onCurve then some ⟨x, pick odd root⟩ else none := rfl
  rw [lifted]
  constructor
  · intro found
    split_ifs at found with point
    obtain ⟨rfl, rfl⟩ := Point.mk.inj (Option.some.inj found)
    exact ⟨rfl, parity_pick odd root (power_lt ..), point⟩
  · rintro ⟨rfl, rfl, point⟩
    rw [pick_root px y point, if_pos point]

theorem Point.exists_lift_iff (odd : Bool) (x : Nat) :
    (∃ point, lift odd x = some point) ↔ ∃ y, (Point.mk x y).onCurve = true := by
  simp only [lift_eq_some_iff]
  constructor
  · rintro ⟨point, rfl, -, found⟩
    exact ⟨point.y, found⟩
  · rintro ⟨y, found⟩
    obtain ⟨-, small, -⟩ := (onCurve_iff _).mp found
    exact ⟨⟨x, pick odd y⟩, rfl, parity_pick odd y small, onCurve_pick odd x y found⟩

end Multichain.Secp256k1
