/-!
# Modular arithmetic

Powers by repeated squaring, and the test whether a number is prime.
-/

namespace PemBundle.Arith

/-- `base ^ exponent` modulo `modulus`. -/
def powMod (base exponent modulus : Nat) : Nat :=
  if exponent = 0 then 1 % modulus
  else
    let half := powMod base (exponent / 2) modulus
    let square := half * half % modulus
    if exponent % 2 = 0 then square else square * base % modulus
termination_by exponent

/-- A factor of a square may be reduced before it is squared. -/
theorem square_mul_mod (half base modulus : Nat) :
    (half % modulus) * (half % modulus) % modulus * base % modulus =
      half * half * base % modulus := by
  rw [← Nat.mul_mod, Nat.mul_mod, Nat.mod_mod, ← Nat.mul_mod]

/-- Repeated squaring computes the power. -/
theorem powMod_eq (base exponent modulus : Nat) :
    powMod base exponent modulus = base.pow exponent % modulus := by
  rw [Nat.pow_eq]
  induction exponent using Nat.strongRecOn with
  | _ exponent ih =>
      rw [powMod]
      split
      · simp [*]
      · rename_i hpos
        have hsplit : exponent = exponent / 2 + exponent / 2 + exponent % 2 := by omega
        simp only [ih (exponent / 2) (by omega)]
        split
        · rename_i heven
          conv => rhs; rw [hsplit, heven, Nat.add_zero, Nat.pow_add]
          rw [← Nat.mul_mod]
        · rename_i hodd
          have hone : exponent % 2 = 1 := by omega
          conv => rhs; rw [hsplit, hone, Nat.pow_succ, Nat.pow_add]
          exact square_mul_mod _ base modulus

/-- `n` without its factors of two, and their number; `fuel` bounds it. -/
def splitTwos (fuel n : Nat) : Nat × Nat :=
  match fuel with
  | 0 => (n, 0)
  | fuel + 1 =>
      if n % 2 = 0 then
        let (odd, twos) := splitTwos fuel (n / 2)
        (odd, twos + 1)
      else (n, 0)

/-- Whether `x`, squared fewer than `count` times, is ever minus one modulo `n`. -/
def reachesMinusOne (n : Nat) : (count : Nat) → (x : Nat) → Bool
  | 0, _ => false
  | count + 1, x => x = n - 1 || reachesMinusOne n count (x * x % n)

/-- Whether `base` is no witness that the odd number `n` is composite. -/
def passesBase (n base : Nat) : Bool :=
  let (odd, twos) := splitTwos n.log2 (n - 1)
  let x := powMod base odd n
  x = 1 || reachesMinusOne n twos x

/-- The primes that are tried as divisors and as bases. -/
def smallPrimes : List Nat :=
  [2, 3, 5, 7, 11, 13, 17, 19, 23, 29, 31, 37, 41, 43, 47, 53]

/-- Whether `n` is prime, decided by trial division and strong pseudo-prime tests. -/
def isPrime (n : Nat) : Bool :=
  if n < 2 then false
  else if n ∈ smallPrimes then true
  else if smallPrimes.any (n % · = 0) then false
  else smallPrimes.all (passesBase n)

end PemBundle.Arith
