import Mathlib.Tactic.FieldSimp
import Mathlib.Tactic.LinearCombination
import PeerDiscovery.Curve.Ed25519
import PeerDiscovery.Proofs.Curve.Field

/-!
# Points stay on the curve

Addition has no exceptions, because minus one is a square in the field and the parameter of the
curve is none: no denominator is zero.  So every multiple of the base point is on the curve, and
what it is compressed to can be decompressed again.
-/

namespace PeerDiscovery

namespace Ed25519

section

variable {F : Type} [Field F]

/-- Extended coordinates of a point of the curve with a parameter. -/
structure IsPoint (parameter x y z t : F) : Prop where
  finite : z ≠ 0
  product : x * y = z * t
  equation : y ^ 2 - x ^ 2 = z ^ 2 + parameter * t ^ 2

/-- What the parameter of a curve has to be like for addition to have no exceptions. -/
structure IsComplete (parameter : F) : Prop where
  two : (2 : F) ≠ 0
  imaginary : ∃ unit : F, unit ^ 2 = -1
  nonsquare : ¬IsSquare parameter

namespace IsPoint

variable {parameter x y z t x₁ y₁ z₁ t₁ x₂ y₂ z₂ t₂ : F}

theorem scale (isPoint : IsPoint parameter x y z t) {scalar : F} (nonzero : scalar ≠ 0) :
    IsPoint parameter (scalar * x) (scalar * y) (scalar * z) (scalar * t) where
  finite := mul_ne_zero nonzero isPoint.finite
  product := by linear_combination scalar ^ 2 * isPoint.product
  equation := by linear_combination scalar ^ 2 * isPoint.equation

theorem sum_sq (isPoint : IsPoint parameter x y z t) :
    (x ^ 2 + y ^ 2) ^ 2 = (z ^ 2 + parameter * t ^ 2) ^ 2 + 4 * (z * t) ^ 2 := by
  rw [← isPoint.equation, ← isPoint.product]
  ring

/-- If a denominator of a sum were zero, each way to combine the coordinates of the points would
give the parameter as a quotient of squares. -/
theorem mul_sq_eq_sq {sign unit : F} (sign_sq : sign ^ 2 = 1) (unit_sq : unit ^ 2 = -1)
    (first : IsPoint parameter x₁ y₁ z₁ t₁) (second : IsPoint parameter x₂ y₂ z₂ t₂)
    (vanishes : parameter * t₁ * t₂ = sign * (z₁ * z₂)) :
    parameter * (t₁ * (y₂ + unit * x₂)) ^ 2 = (z₂ * (y₁ + sign * unit * x₁)) ^ 2 := by
  have squares : parameter * t₁ ^ 2 * (y₂ ^ 2 - x₂ ^ 2) = z₂ ^ 2 * (y₁ ^ 2 - x₁ ^ 2) := by
    linear_combination parameter * t₁ ^ 2 * second.equation - z₂ ^ 2 * first.equation +
      (parameter * t₁ * t₂ + sign * (z₁ * z₂)) * vanishes + z₁ ^ 2 * z₂ ^ 2 * sign_sq
  have products : parameter * t₁ ^ 2 * (x₂ * y₂) = sign * z₂ ^ 2 * (x₁ * y₁) := by
    linear_combination parameter * t₁ ^ 2 * second.product + t₁ * z₂ * vanishes -
      sign * z₂ ^ 2 * first.product
  linear_combination squares + 2 * unit * products +
    (parameter * t₁ ^ 2 * x₂ ^ 2 - z₂ ^ 2 * x₁ ^ 2 * sign ^ 2) * unit_sq +
    z₂ ^ 2 * x₁ ^ 2 * sign_sq

theorem denominator_ne_zero {sign : F} (complete : IsComplete parameter) (sign_sq : sign ^ 2 = 1)
    (first : IsPoint parameter x₁ y₁ z₁ t₁) (second : IsPoint parameter x₂ y₂ z₂ t₂) :
    parameter * t₁ * t₂ ≠ sign * (z₁ * z₂) := by
  intro vanishes
  have signNonzero : sign ≠ 0 := by
    rintro rfl
    simp at sign_sq
  have product : parameter * t₁ * t₂ ≠ 0 := by
    rw [vanishes]
    exact mul_ne_zero signNonzero (mul_ne_zero first.finite second.finite)
  have nonzero₁ : t₁ ≠ 0 := fun zero => product (by rw [zero]; ring)
  have nonzero₂ : t₂ ≠ 0 := fun zero => product (by rw [zero]; ring)
  have combination : ∀ unit : F, unit ^ 2 = -1 → y₂ + unit * x₂ = 0 := by
    intro unit unit_sq
    by_contra nonzero
    have denominator : t₁ * (y₂ + unit * x₂) ≠ 0 := mul_ne_zero nonzero₁ nonzero
    refine complete.nonsquare ⟨z₂ * (y₁ + sign * unit * x₁) / (t₁ * (y₂ + unit * x₂)), ?_⟩
    rw [div_mul_div_comm, eq_div_iff (mul_ne_zero denominator denominator), ← sq, ← sq]
    exact mul_sq_eq_sq sign_sq unit_sq first second vanishes
  -- Both combinations vanish, for the imaginary unit and for its opposite.
  obtain ⟨unit, unit_sq⟩ := complete.imaginary
  have plus := combination unit unit_sq
  have minus := combination (-unit) (by rw [neg_sq, unit_sq])
  have y_zero : y₂ = 0 := by
    have twice : 2 * y₂ = 0 := by linear_combination plus + minus
    exact (mul_eq_zero.1 twice).resolve_left complete.two
  have zt_zero : z₂ * t₂ = 0 := by rw [← second.product, y_zero, mul_zero]
  exact (mul_ne_zero second.finite nonzero₂) zt_zero

theorem add (complete : IsComplete parameter) (first : IsPoint parameter x₁ y₁ z₁ t₁)
    (second : IsPoint parameter x₂ y₂ z₂ t₂) :
    IsPoint parameter
      ((x₁ * y₂ + x₂ * y₁) * (z₁ * z₂ - parameter * t₁ * t₂))
      ((z₁ * z₂ + parameter * t₁ * t₂) * (y₁ * y₂ + x₁ * x₂))
      ((z₁ * z₂ - parameter * t₁ * t₂) * (z₁ * z₂ + parameter * t₁ * t₂))
      ((x₁ * y₂ + x₂ * y₁) * (y₁ * y₂ + x₁ * x₂)) where
  finite := by
    have other : ∀ sign : F, sign ^ 2 = 1 → parameter * t₁ * t₂ ≠ sign * (z₁ * z₂) :=
      fun sign sign_sq => denominator_ne_zero complete sign_sq first second
    refine mul_ne_zero (fun zero => other 1 (by ring) ?_) fun zero => other (-1) (by ring) ?_
    · linear_combination -zero
    · linear_combination zero
  product := by ring
  equation := by
    have difference : (y₁ * y₂ + x₁ * x₂) ^ 2 - (x₁ * y₂ + x₂ * y₁) ^ 2 =
        (z₁ ^ 2 + parameter * t₁ ^ 2) * (z₂ ^ 2 + parameter * t₂ ^ 2) := by
      rw [← first.equation, ← second.equation]
      ring
    have sum : (y₁ * y₂ + x₁ * x₂) ^ 2 + (x₁ * y₂ + x₂ * y₁) ^ 2 =
        (x₁ ^ 2 + y₁ ^ 2) * (x₂ ^ 2 + y₂ ^ 2) + 4 * (z₁ * t₁) * (z₂ * t₂) := by
      rw [← first.product, ← second.product]
      ring
    have product : (x₁ * y₂ + x₂ * y₁) * (y₁ * y₂ + x₁ * x₂) =
        z₁ * t₁ * (x₂ ^ 2 + y₂ ^ 2) + z₂ * t₂ * (x₁ ^ 2 + y₁ ^ 2) := by
      rw [← first.product, ← second.product]
      ring
    have square₁ := first.sum_sq
    have square₂ := second.sum_sq
    linear_combination
      ((z₁ * z₂) ^ 2 + (parameter * t₁ * t₂) ^ 2) * difference +
        2 * (z₁ * z₂) * (parameter * t₁ * t₂) * sum -
        parameter * ((x₁ * y₂ + x₂ * y₁) * (y₁ * y₂ + x₁ * x₂) +
          (z₁ * t₁ * (x₂ ^ 2 + y₂ ^ 2) + z₂ * t₂ * (x₁ ^ 2 + y₁ ^ 2))) * product -
        parameter * (z₁ * t₁) ^ 2 * square₂ - parameter * (z₂ * t₂) ^ 2 * square₁

/-- Twice a point is a point, by the shorter formulas. -/
theorem double (complete : IsComplete parameter) (isPoint : IsPoint parameter x y z t) :
    IsPoint parameter
      ((x ^ 2 + y ^ 2 - (x + y) ^ 2) * (2 * z ^ 2 + (x ^ 2 - y ^ 2)))
      ((x ^ 2 - y ^ 2) * (x ^ 2 + y ^ 2))
      ((2 * z ^ 2 + (x ^ 2 - y ^ 2)) * (x ^ 2 - y ^ 2))
      ((x ^ 2 + y ^ 2 - (x + y) ^ 2) * (x ^ 2 + y ^ 2)) := by
  have sum := (isPoint.add complete isPoint).scale (neg_ne_zero.2 one_ne_zero)
  have plus : z * z + parameter * t * t = -(x ^ 2 - y ^ 2) := by
    linear_combination -isPoint.equation
  have minus : z * z - parameter * t * t = 2 * z ^ 2 + (x ^ 2 - y ^ 2) := by
    linear_combination isPoint.equation
  rw [plus, minus] at sum
  convert sum using 1 <;> ring

end IsPoint

end

open Field25519

theorem isComplete_curveParameter : IsComplete (curveParameter : ZMod modulus) where
  two := by
    intro zero
    have same : ((2 : Nat) : ZMod modulus) = (0 : Nat) := by exact_mod_cast zero
    exact absurd (eq_of_cast_eq same (by decide +kernel) (by decide +kernel)) (by decide)
  imaginary := by
    have square_eq : square rootOfMinusOne = neg 1 := by decide +kernel
    refine ⟨rootOfMinusOne, ?_⟩
    rw [← cast_square, square_eq, cast_neg (by decide +kernel), Nat.cast_one]
  nonsquare := by
    have nonzero : (curveParameter : ZMod modulus) ≠ 0 := by
      rw [← Nat.cast_zero]
      intro zero
      exact absurd (eq_of_cast_eq zero (by decide +kernel) modulus_pos) (by decide +kernel)
    -- By Euler's criterion a power with half of the exponent decides, and it is minus one.
    have power : pow curveParameter (modulus / 2) = neg 1 := by decide +kernel
    rw [ZMod.euler_criterion modulus nonzero, ← cast_pow _ (by decide +kernel), power,
      ← Nat.cast_one]
    intro one
    exact absurd (eq_of_cast_eq one (by decide +kernel) (by decide +kernel)) (by decide +kernel)

namespace Point

structure OnCurve (point : Point) : Prop where
  x_lt : point.x < modulus
  y_lt : point.y < modulus
  isPoint : IsPoint (curveParameter : ZMod modulus) point.x point.y point.z point.t

namespace OnCurve

variable {point left right : Point}

theorem zero : zero.OnCurve where
  x_lt := by decide +kernel
  y_lt := by decide +kernel
  isPoint := ⟨by simp [Point.zero], by simp [Point.zero], by simp [Point.zero]⟩

theorem add (left_on : left.OnCurve) (right_on : right.OnCurve) : (left.add right).OnCurve where
  x_lt := mul_lt _ _
  y_lt := mul_lt _ _
  isPoint := by
    have four : (4 : ZMod modulus) ≠ 0 := by
      have square_eq : (4 : ZMod modulus) = 2 ^ 2 := by norm_num
      rw [square_eq]
      exact pow_ne_zero 2 isComplete_curveParameter.two
    have sum := (left_on.isPoint.add isComplete_curveParameter right_on.isPoint).scale four
    simp only [Point.add, cast_mul, cast_sub _ left_on.x_lt, cast_sub _ right_on.x_lt,
      cast_sub _ (mul_lt _ _), Field25519.cast_add, Nat.cast_mul, Nat.cast_ofNat]
    convert sum using 1 <;> ring

theorem double (on : point.OnCurve) : point.double.OnCurve where
  x_lt := mul_lt _ _
  y_lt := mul_lt _ _
  isPoint := by
    have twice := on.isPoint.double isComplete_curveParameter
    simp only [Point.double, cast_mul, cast_square, Field25519.cast_add,
      cast_sub _ (square_lt _), Nat.cast_ofNat]
    exact twice

theorem multiplyBits {sum : Point} (on : point.OnCurve) (sum_on : sum.OnCurve)
    (scalar bits : Nat) : (point.multiplyBits scalar bits sum).OnCurve := by
  induction bits generalizing sum with
  | zero => exact sum_on
  | succ bits ih =>
    rw [Point.multiplyBits]
    refine ih ?_
    split
    · exact sum_on.double.add on
    · exact sum_on.double

theorem multiply (on : point.OnCurve) (scalar : Nat) : (point.multiply scalar).OnCurve :=
  on.multiplyBits zero scalar 256

theorem base : base.OnCurve where
  x_lt := by decide +kernel
  y_lt := by decide +kernel
  isPoint := by
    have equation : sub (square Point.base.y) (square Point.base.x) =
        Field25519.add 1 (mul curveParameter (square Point.base.t)) := by
      decide +kernel
    have cast_equation := congrArg (Nat.cast : Nat → ZMod modulus) equation
    rw [cast_sub _ (square_lt _), Field25519.cast_add, cast_mul, cast_square, cast_square,
      cast_square] at cast_equation
    refine ⟨?_, ?_, ?_⟩
    · simp [Point.base, affine]
    · simp [Point.base, affine]
    · rw [cast_equation]
      simp [Point.base, affine]

/-- What a point of the curve is compressed to can be decompressed. -/
theorem isSome_decompress? (on : point.OnCurve) : (decompress? point.compress).isSome := by
  have nonzero := on.isPoint.finite
  rw [decompress?, compress]
  dsimp only
  rw [ofBlock_ofNatLE (mul_lt _ _)]
  have ratio : (sub (square (mul point.y (inverse point.z))) 1 : ZMod modulus) =
      ((point.x : ZMod modulus) / point.z) ^ 2 *
        (Field25519.add (mul curveParameter (square (mul point.y (inverse point.z)))) 1 : Nat) := by
    rw [cast_sub _ (by decide +kernel), Field25519.cast_add, cast_mul, cast_square, cast_mul,
      cast_inverse, Nat.cast_one]
    field_simp
    linear_combination point.z ^ 2 * on.isPoint.equation -
      curveParameter * (point.x * point.y + point.z * point.t) * on.isPoint.product
  obtain ⟨root, found⟩ := Option.isSome_iff_exists.1 (isSome_sqrtRatio? (sub_lt _ _) ratio)
  rw [found]
  rfl

end OnCurve

end Point

theorem isSome_decompress?_publicKey (seed : Block 32) :
    (Point.decompress? (publicKey seed)).isSome :=
  (Point.OnCurve.base.multiply (secretScalar seed)).isSome_decompress?

end Ed25519

end PeerDiscovery
