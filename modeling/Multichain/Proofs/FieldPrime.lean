import Mathlib
import Multichain.Curve.Secp256k1

/-!
The field of the curve is one: its size is a prime number. The primes of the chain are certified from
the smallest on, each by the factors of its predecessor. Main statement: `prime_fieldSize`.
-/

set_option autoImplicit false

namespace Multichain.Secp256k1

def powerModulo (modulus base exponent : Nat) : Nat :=
  if exponent = 0 then 1 % modulus
  else
    let half := powerModulo modulus (base * base % modulus) (exponent / 2)
    if exponent % 2 = 1 then half * base % modulus else half
  termination_by exponent

theorem powerModulo_eq (modulus base exponent : Nat) :
    powerModulo modulus base exponent = base ^ exponent % modulus := by
  fun_induction powerModulo modulus base exponent with
  | case1 base => rw [pow_zero]
  | case2 base exponent present half odd ih =>
    have digits : exponent = 2 * (exponent / 2) + 1 := by omega
    rw [← Nat.pow_mod] at ih
    conv_rhs => rw [digits, pow_succ, pow_mul, sq]
    rw [show half = _ from ih, Nat.mod_mul_mod]
  | case3 base exponent present half even ih =>
    have digits : exponent = 2 * (exponent / 2) := by omega
    rw [← Nat.pow_mod] at ih
    conv_rhs => rw [digits, pow_mul, sq]
    exact ih

theorem powerModulo_eq_one_iff (modulus base exponent : Nat) (large : 1 < modulus) :
    powerModulo modulus base exponent = 1 ↔ (base : ZMod modulus) ^ exponent = 1 := by
  rw [powerModulo_eq, ← Nat.cast_pow, ← Nat.cast_one (R := ZMod modulus),
    ZMod.natCast_eq_natCast_iff', Nat.mod_eq_of_lt large]

def Certifies (base : Nat) (factors : List Nat) (number : Nat) : Prop :=
  1 < number ∧ factors.prod = number - 1 ∧ powerModulo number base (number - 1) = 1 ∧
    ∀ factor ∈ factors, powerModulo number base ((number - 1) / factor) ≠ 1

instance (base : Nat) (factors : List Nat) (number : Nat) :
    Decidable (Certifies base factors number) :=
  inferInstanceAs (Decidable (_ ∧ _ ∧ _ ∧ _))

theorem prime_of_certifies (base : Nat) (factors : List Nat) (number : Nat)
    (certified : Certifies base factors number) (primes : ∀ factor ∈ factors, factor.Prime) :
    number.Prime := by
  obtain ⟨large, product, whole, parts⟩ := certified
  apply lucas_primality number (base : ZMod number)
  · exact (powerModulo_eq_one_iff _ _ _ large).mp whole
  · intro factor prime divides one
    rw [← product] at divides
    have listed : factor ∈ factors :=
      mem_list_primes_of_dvd_prod prime.prime (fun other found => (primes other found).prime) divides
    exact parts factor listed ((powerModulo_eq_one_iff _ _ _ large).mpr one)

theorem prime_58_bits : Nat.Prime 173378833005251801 := by
  apply prime_of_certifies 6 [2, 2, 2, 5, 5, 2621, 24809, 13331831]
  · decide +kernel
  · norm_num

theorem prime_75_bits : Nat.Prime 22149492674086928081353 := by
  apply prime_of_certifies 5 [2, 2, 2, 3, 5323, 173378833005251801]
  · decide +kernel
  · simp only [List.forall_mem_cons, prime_58_bits]
    norm_num

theorem prime_77_bits : Nat.Prime 132896956044521568488119 := by
  apply prime_of_certifies 6 [2, 3, 22149492674086928081353]
  · decide +kernel
  · simp only [List.forall_mem_cons, prime_75_bits]
    norm_num

theorem prime_128_bits : Nat.Prime 255515944373312847190720520512484175977 := by
  apply prime_of_certifies 3
    [2, 2, 2, 7, 7, 11, 1627, 2657, 4423, 41201, 96557, 7240687, 107590001]
  · decide +kernel
  · norm_num

theorem prime_237_bits :
    Nat.Prime 205115282021455665897114700593932402728804164701536103180137503955397371 := by
  apply prime_of_certifies 10
    [2, 3, 5, 29, 29, 31, 7723, 132896956044521568488119, 255515944373312847190720520512484175977]
  · decide +kernel
  · simp only [List.forall_mem_cons, prime_77_bits, prime_128_bits]
    norm_num

theorem prime_fieldSize : fieldSize.Prime := by
  apply prime_of_certifies 3
    [2, 3, 7, 13441, 205115282021455665897114700593932402728804164701536103180137503955397371]
  · decide +kernel
  · simp only [List.forall_mem_cons, prime_237_bits]
    norm_num

end Multichain.Secp256k1
