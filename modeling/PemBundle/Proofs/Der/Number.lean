import PemBundle.Der.Writer
import Mathlib.Algebra.Group.Nat.Defs

/-!
# Numbers as bytes

A number is read back from the fewest bytes that write it, and from a fixed count of bytes that can
hold it. The fewest bytes start with no zero.
-/

namespace PemBundle.Der

theorem bigEndian_concat (bytes : List UInt8) (b : UInt8) :
    bigEndian (bytes ++ [b]) = bigEndian bytes * 256 + b.toNat := by
  simp [bigEndian]

theorem toNat_ofNat_mod (n : Nat) : (UInt8.ofNat (n % 256)).toNat = n % 256 := by simp

/-- A last byte holds the remainder of a number, the bytes before it the quotient. -/
theorem bigEndian_concat_mod {bytes : List UInt8} {n : Nat} (h : bigEndian bytes = n / 256) :
    bigEndian (bytes ++ [UInt8.ofNat (n % 256)]) = n := by
  rw [bigEndian_concat, h, toNat_ofNat_mod]
  exact Nat.div_add_mod' n 256

theorem div_lt_pow {n k : Nat} (h : n < 256 ^ (k + 1)) : n / 256 < 256 ^ k :=
  Nat.div_lt_of_lt_mul (by rwa [Nat.pow_succ'] at h)

theorem bytesOfNat_succ {n : Nat} (h : n ≠ 0) (fuel : Nat) :
    bytesOfNat (fuel + 1) n = bytesOfNat fuel (n / 256) ++ [UInt8.ofNat (n % 256)] := by
  rw [bytesOfNat, if_neg h]

theorem bytesOfNat_zero (fuel : Nat) : bytesOfNat fuel 0 = [] := by
  cases fuel <;> rfl

theorem bigEndian_bytesOfNat {fuel n : Nat} (h : n < 256 ^ fuel) :
    bigEndian (bytesOfNat fuel n) = n := by
  induction fuel generalizing n with
  | zero =>
      obtain rfl : n = 0 := by simpa using h
      rfl
  | succ fuel ih =>
      by_cases hn : n = 0
      · subst hn
        rfl
      · rw [bytesOfNat_succ hn]
        exact bigEndian_concat_mod (ih (div_lt_pow h))

/-- A number below a power of 256 has no more bytes than the exponent. -/
theorem length_bytesOfNat_le {k n : Nat} (h : n < 256 ^ k) (fuel : Nat) :
    (bytesOfNat fuel n).length ≤ k := by
  induction fuel generalizing n k with
  | zero => exact Nat.zero_le k
  | succ fuel ih =>
      by_cases hn : n = 0
      · rw [hn, bytesOfNat_zero]
        exact Nat.zero_le k
      · cases k with
        | zero => exact absurd (by simpa using h) hn
        | succ k =>
            rw [bytesOfNat_succ hn, List.length_append]
            exact Nat.succ_le_succ (ih (div_lt_pow h))

/-- The first byte of a number is not zero. -/
theorem head?_bytesOfNat {fuel n : Nat} (h : n < 256 ^ fuel) :
    (bytesOfNat fuel n).head? ≠ some 0 := by
  induction fuel generalizing n with
  | zero => simp [bytesOfNat]
  | succ fuel ih =>
      by_cases hn : n = 0
      · simp [hn, bytesOfNat_zero]
      · rw [bytesOfNat_succ hn]
        by_cases hhigh : n / 256 = 0
        · -- The number is its only byte.
          have hmod : n % 256 = n := Nat.mod_eq_of_lt (by omega)
          rw [hhigh, bytesOfNat_zero, List.nil_append, List.head?_cons, hmod]
          intro hzero
          have hbyte := congrArg UInt8.toNat (Option.some.inj hzero)
          rw [← hmod, toNat_ofNat_mod, hmod] at hbyte
          exact hn hbyte
        · have hhead := ih (div_lt_pow h)
          have hvalue := bigEndian_bytesOfNat (div_lt_pow h)
          cases hbytes : bytesOfNat fuel (n / 256) with
          | nil =>
              rw [hbytes] at hvalue
              exact absurd hvalue.symm hhigh
          | cons b rest =>
              rw [hbytes] at hhead
              exact hhead

/-! ### The fewest bytes -/

/-- A number fits into as many bytes as its logarithm says. -/
theorem lt_pow_log2 (n : Nat) : n < 256 ^ (n.log2 / 8 + 1) := by
  have hexponent : n.log2 + 1 ≤ 8 * (n.log2 / 8 + 1) := by omega
  calc
    n < 2 ^ (n.log2 + 1) := Nat.lt_log2_self
    _ ≤ 2 ^ (8 * (n.log2 / 8 + 1)) := Nat.pow_le_pow_right (by decide) hexponent
    _ = 256 ^ (n.log2 / 8 + 1) := by rw [Nat.pow_mul]

theorem bigEndian_minimalBytes (n : Nat) : bigEndian (minimalBytes n) = n :=
  bigEndian_bytesOfNat (lt_pow_log2 n)

theorem head?_minimalBytes (n : Nat) : (minimalBytes n).head? ≠ some 0 :=
  head?_bytesOfNat (lt_pow_log2 n)

theorem length_minimalBytes_le {k n : Nat} (h : n < 256 ^ k) : (minimalBytes n).length ≤ k :=
  length_bytesOfNat_le h _

/-! ### A fixed count of bytes -/

theorem length_fixedBytes (width n : Nat) : (fixedBytes width n).length = width := by
  induction width generalizing n with
  | zero => rfl
  | succ width ih => rw [fixedBytes, List.length_append, ih]; rfl

theorem bigEndian_fixedBytes {width n : Nat} (h : n < 256 ^ width) :
    bigEndian (fixedBytes width n) = n := by
  induction width generalizing n with
  | zero =>
      obtain rfl : n = 0 := by simpa using h
      rfl
  | succ width ih => exact bigEndian_concat_mod (ih (div_lt_pow h))

end PemBundle.Der
