import Mathlib.NumberTheory.LegendreSymbol.Basic
import Mathlib.NumberTheory.LucasPrimality
import Mathlib.Tactic.NormNum.Prime
import PeerDiscovery.Curve.Field25519

/-!
# The field of Curve25519 is a field

The modulus is prime.  So the operations on reduced numbers are those of a field, powers give
inverses, and a quotient that is a square has its root found.
-/

namespace PeerDiscovery

/-- A power modulo a number: from the highest bit of the exponent on, square, and multiply where
the bit is set. -/
def powMod (modulus base exponent : Nat) : Nat → Nat → Nat
  | 0, result => result
  | bits + 1, result =>
    let squared := result * result % modulus
    powMod modulus base exponent bits
      (if exponent.testBit bits then squared * base % modulus else squared)

theorem cast_powMod (modulus base exponent bits result : Nat) :
    (powMod modulus base exponent bits result : ZMod modulus) =
      result ^ 2 ^ bits * base ^ (exponent % 2 ^ bits) := by
  induction bits generalizing result with
  | zero => simp [powMod, Nat.mod_one]
  | succ bits ih =>
    have lower : exponent % 2 ^ (bits + 1) =
        exponent % 2 ^ bits + 2 ^ bits * (exponent.testBit bits).toNat := by
      rw [Nat.mod_pow_succ, Nat.toNat_testBit]
    rw [powMod, ih, lower]
    cases exponent.testBit bits with
    | true =>
      simp only [if_true, ZMod.natCast_mod, Nat.cast_mul, Bool.toNat_true]
      ring
    | false =>
      simp only [Bool.false_eq_true, if_false, ZMod.natCast_mod, Nat.cast_mul, Bool.toNat_false]
      ring

theorem powMod_lt {modulus : Nat} (positive : 0 < modulus) (base exponent bits : Nat)
    {result : Nat} (reduced : result < modulus) :
    powMod modulus base exponent bits result < modulus := by
  induction bits generalizing result with
  | zero => exact reduced
  | succ bits ih =>
    rw [powMod]
    refine ih ?_
    split <;> exact Nat.mod_lt _ positive

/-- Whether `base` generates all numbers below `number` but zero: if the number before it is the
product of these prime factors, no earlier power of the base than the last is one. -/
def generates (number base : Nat) (factors : List Nat) : Bool :=
  let power (exponent : Nat) : Nat := powMod number base exponent 256 1
  1 < number && number ≤ 2 ^ 256 && factors.prod == number - 1 && power (number - 1) == 1 &&
    factors.all fun factor => power ((number - 1) / factor) != 1

theorem prime_of_generates {number : Nat} (base : Nat) {factors : List Nat}
    (primes : ∀ factor ∈ factors, factor.Prime) (holds : generates number base factors = true) :
    number.Prime := by
  simp only [generates, Bool.and_eq_true, decide_eq_true_iff, beq_iff_eq,
    List.all_eq_true, bne_iff_ne, ne_eq] at holds
  obtain ⟨⟨⟨⟨above, below⟩, product⟩, last⟩, others⟩ := holds
  have isOne : ∀ exponent ≤ number - 1, (base : ZMod number) ^ exponent = 1 ↔
      powMod number base exponent 256 1 = 1 := by
    intro exponent bound
    have small : exponent % 2 ^ 256 = exponent := Nat.mod_eq_of_lt (by omega)
    have power := cast_powMod number base exponent 256 1
    rw [Nat.cast_one, one_pow, one_mul, small] at power
    rw [← power, ← Nat.cast_one (R := ZMod number), ZMod.natCast_eq_natCast_iff',
      Nat.mod_eq_of_lt above, Nat.mod_eq_of_lt (powMod_lt (by omega) _ _ _ above)]
  refine lucas_primality number (base : ZMod number) ((isOne _ le_rfl).2 last) ?_
  intro factor prime divides
  rw [← product, Prime.dvd_prod_iff prime.prime] at divides
  obtain ⟨listed, isListed, divides⟩ := divides
  rw [(Nat.prime_dvd_prime_iff_eq prime (primes listed isListed)).1 divides]
  exact fun one => others listed isListed ((isOne _ (Nat.div_le_self _ _)).1 one)

namespace Field25519

theorem modulus_eq : modulus = 2 ^ 255 - 19 := by decide +kernel

/-- The modulus is prime, by the primes that divide the number before it, and so on down to
primes that are small.  The others are named by their first digits. -/
theorem prime_modulus : modulus.Prime := by
  have prime_2773 : Nat.Prime 2773320623 := by
    have factors : ∀ factor ∈ [2, 2437, 569003], Nat.Prime factor := by norm_num
    exact prime_of_generates 5 factors (by decide +kernel)
  have prime_72106 : Nat.Prime 72106336199 := by
    have factors : ∀ factor ∈ [2, 13], Nat.Prime factor := by norm_num
    exact prime_of_generates 7 (List.forall_mem_cons.2 ⟨prime_2773, factors⟩) (by decide +kernel)
  have prime_19195 : Nat.Prime 1919519569386763 := by
    have factors : ∀ factor ∈ [2, 3, 7, 19, 47, 47, 127, 8574133], Nat.Prime factor := by norm_num
    exact prime_of_generates 2 factors (by decide +kernel)
  have prime_31757 : Nat.Prime 31757755568855353 := by
    have factors : ∀ factor ∈ [2, 2, 2, 3, 31, 107, 223, 4153, 430751], Nat.Prime factor := by
      norm_num
    exact prime_of_generates 10 factors (by decide +kernel)
  have prime_75445 : Nat.Prime 75445702479781427272750846543864801 := by
    have factors : ∀ factor ∈ [2, 2, 2, 2, 2, 3, 3, 5, 5, 75707], Nat.Prime factor := by norm_num
    exact prime_of_generates 7
      (List.forall_mem_cons.2 ⟨prime_72106, List.forall_mem_cons.2 ⟨prime_19195, factors⟩⟩)
      (by decide +kernel)
  have prime_74058 : Nat.Prime
      74058212732561358302231226437062788676166966415465897661863160754340907 := by
    have factors : ∀ factor ∈ [2, 3, 353, 57467, 132049, 1923133], Nat.Prime factor := by norm_num
    exact prime_of_generates 2
      (List.forall_mem_cons.2 ⟨prime_31757, List.forall_mem_cons.2 ⟨prime_75445, factors⟩⟩)
      (by decide +kernel)
  have factors : ∀ factor ∈ [2, 2, 3, 65147], Nat.Prime factor := by norm_num
  exact prime_of_generates 2 (List.forall_mem_cons.2 ⟨prime_74058, factors⟩) (by decide +kernel)

instance : Fact modulus.Prime := ⟨prime_modulus⟩

theorem modulus_pos : 0 < modulus := prime_modulus.pos

section

variable {left right value : Nat}

@[simp]
theorem cast_add (left right : Nat) : (add left right : ZMod modulus) = left + right := by
  rw [add, ZMod.natCast_mod, Nat.cast_add]

@[simp]
theorem cast_mul (left right : Nat) : (mul left right : ZMod modulus) = left * right := by
  rw [mul, ZMod.natCast_mod, Nat.cast_mul]

@[simp]
theorem cast_square (value : Nat) : (square value : ZMod modulus) = value ^ 2 := by
  rw [square, cast_mul, sq]

theorem cast_sub (left : Nat) (reduced : right < modulus) :
    (sub left right : ZMod modulus) = left - right := by
  rw [sub, ZMod.natCast_mod, Nat.cast_add, Nat.cast_sub reduced.le, ZMod.natCast_self, zero_sub,
    sub_eq_add_neg]

theorem cast_neg (reduced : value < modulus) : (neg value : ZMod modulus) = -value := by
  rw [neg, cast_sub 0 reduced, Nat.cast_zero, zero_sub]

theorem mul_lt (left right : Nat) : mul left right < modulus := Nat.mod_lt _ modulus_pos

theorem square_lt (value : Nat) : square value < modulus := mul_lt _ _

theorem sub_lt (left right : Nat) : sub left right < modulus := Nat.mod_lt _ modulus_pos

theorem eq_of_cast_eq (same : (left : ZMod modulus) = right) (leftReduced : left < modulus)
    (rightReduced : right < modulus) : left = right := by
  rwa [ZMod.natCast_eq_natCast_iff', Nat.mod_eq_of_lt leftReduced,
    Nat.mod_eq_of_lt rightReduced] at same

end

theorem powBits_eq (base exponent bits result : Nat) :
    powBits base exponent bits result = powMod modulus base exponent bits result := by
  induction bits generalizing result with
  | zero => rfl
  | succ bits ih =>
    rw [powBits, powMod]
    exact ih _

theorem cast_pow (base : Nat) {exponent : Nat} (bounded : exponent < 2 ^ 256) :
    (pow base exponent : ZMod modulus) = base ^ exponent := by
  rw [pow, powBits_eq, cast_powMod, Nat.cast_one, one_pow, one_mul, Nat.mod_eq_of_lt bounded]

theorem modulus_lt : modulus < 2 ^ 255 := by decide +kernel

@[simp]
theorem cast_inverse (value : Nat) : (inverse value : ZMod modulus) = (value : ZMod modulus)⁻¹ := by
  have bounded : modulus - 2 < 2 ^ 256 := by decide +kernel
  rw [inverse, cast_pow value bounded]
  by_cases zero : (value : ZMod modulus) = 0
  · have exponent : modulus - 2 ≠ 0 := by decide +kernel
    rw [zero, inv_zero, zero_pow exponent]
  · have last : (value : ZMod modulus) ^ (modulus - 2) * value = 1 := by
      have exponent : modulus - 2 + 1 = modulus - 1 := by decide +kernel
      rw [← pow_succ, exponent, ZMod.pow_card_sub_one_eq_one zero]
    exact eq_inv_of_mul_eq_one_left last

/-- A quotient that is a square has its root found. -/
theorem isSome_sqrtRatio? {numerator denominator : Nat} (reduced : numerator < modulus)
    {root : ZMod modulus} (isRoot : (numerator : ZMod modulus) = root ^ 2 * denominator) :
    (sqrtRatio? numerator denominator).isSome := by
  have bounded : (modulus - 5) / 8 < 2 ^ 256 := by decide +kernel
  have exponents : 2 * ((modulus - 5) / 8) + 1 = modulus / 4 := by decide +kernel
  have halves : 2 * (modulus / 4) = modulus / 2 := by decide +kernel
  unfold sqrtRatio?
  extract_lets cube seventh candidate check
  -- The check comes out as the numerator times a power of a square, which is one or minus one.
  have power : (check : ZMod modulus) =
      numerator * (root * denominator ^ 4) ^ (modulus / 2) := by
    simp only [check, candidate, seventh, cube, cast_mul, cast_square, cast_pow _ bounded]
    rw [← halves, ← exponents, isRoot]
    ring
  have isNumerator : check = numerator ∨ check = neg numerator := by
    have checkReduced : check < modulus := mul_lt _ _
    by_cases zero : root * denominator ^ 4 = 0
    · have numeratorZero : (numerator : ZMod modulus) = 0 := by
        rw [isRoot]
        rcases mul_eq_zero.1 zero with rootZero | denominatorZero
        · rw [rootZero]
          ring
        · rw [pow_eq_zero_iff (by decide)] at denominatorZero
          rw [denominatorZero, mul_zero]
      refine Or.inl (eq_of_cast_eq ?_ checkReduced reduced)
      rw [power, numeratorZero, zero_mul]
    · rcases ZMod.pow_div_two_eq_neg_one_or_one modulus zero with one | minusOne
      · refine Or.inl (eq_of_cast_eq ?_ checkReduced reduced)
        rw [power, one, mul_one]
      · refine Or.inr (eq_of_cast_eq ?_ checkReduced (sub_lt _ _))
        rw [power, minusOne, cast_neg reduced, mul_neg_one]
  rcases isNumerator with same | opposite
  · rw [if_pos same]
    rfl
  · rw [if_pos opposite]
    split <;> rfl

/-- Whoever writes a reduced number in 32 bytes reads it again, whatever the highest bit is. -/
theorem ofBlock_ofNatLE {value : Nat} (reduced : value < modulus) (highest : Prop)
    [Decidable highest] :
    ofBlock (Block.ofNatLE 32 (if highest then value + (1 <<< 255) else value)) = value := by
  have size : Bytes.bound 32 = 2 ^ 256 := by decide +kernel
  have power : (1 <<< 255 : Nat) = 2 ^ 255 := by decide +kernel
  have below : value < 2 ^ 255 := reduced.trans modulus_lt
  have written : (if highest then value + 2 ^ 255 else value) % 2 ^ 256 % 2 ^ 255 = value := by
    split <;> omega
  rw [ofBlock, Block.toNatLE, Block.ofNatLE, Bytes.toNatLE_ofNatLE, size, power, written,
    Nat.mod_eq_of_lt reduced]

theorem ofBlock_toBlock {value : Nat} (reduced : value < modulus) :
    ofBlock (toBlock value) = value := by
  have written := ofBlock_ofNatLE reduced False
  rwa [if_neg not_false] at written

end Field25519

end PeerDiscovery
