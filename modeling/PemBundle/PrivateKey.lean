import PemBundle.Curve.Standard
import PemBundle.X509.Algorithm

/-!
# Private keys

A key is the numbers or the secret bytes of its type. Which types a text may hold and how it is
written depends on the kind of the key alone.
-/

namespace PemBundle

/-- The kinds of key. -/
inductive KeyKind
  | rsa
  | ec
  | dsa
  | ed25519
  | ed448
  | x25519
  | x448
  deriving DecidableEq

/-- The name of the kind, as events and messages give it. -/
def KeyKind.name : KeyKind → String
  | .rsa => "RSAPrivateKey"
  | .ec => "ECPrivateKey"
  | .dsa => "DSAPrivateKey"
  | .ed25519 => "Ed25519PrivateKey"
  | .ed448 => "Ed448PrivateKey"
  | .x25519 => "X25519PrivateKey"
  | .x448 => "X448PrivateKey"

/-- The numbers of a key with two prime factors. -/
structure RsaNumbers where
  n : Nat
  e : Nat
  d : Nat
  p : Nat
  q : Nat
  dmp1 : Nat
  dmq1 : Nat
  iqmp : Nat
  deriving DecidableEq

/-- A private number on a curve with its public point. -/
structure EcNumbers where
  curve : Curve
  d : Nat
  x : Nat
  y : Nat
  deriving DecidableEq

/-- A private key. -/
inductive PrivateKey
  | rsa (numbers : RsaNumbers)
  | ec (numbers : EcNumbers)
  | dsa (group : X509.GroupNumbers) (x : Nat)
  | ed25519 (secret : List UInt8)
  | ed448 (secret : List UInt8)
  | x25519 (secret : List UInt8)
  | x448 (secret : List UInt8)
  deriving DecidableEq

/-- The kind of a key. -/
def PrivateKey.kind : PrivateKey → KeyKind
  | .rsa _ => .rsa
  | .ec _ => .ec
  | .dsa _ _ => .dsa
  | .ed25519 _ => .ed25519
  | .ed448 _ => .ed448
  | .x25519 _ => .x25519
  | .x448 _ => .x448

/-- Whether the numbers belong together: the modulus is the product of two odd primes, the exponents
are inverse to each other, and the remaining numbers are the remainders that speed up decryption. -/
def RsaNumbers.consistent (k : RsaNumbers) : Bool :=
  k.e % 2 = 1 && k.e ≠ 1 && k.p % 2 = 1 && k.q % 2 = 1 && Arith.isPrime k.p && Arith.isPrime k.q &&
    k.n = k.p * k.q && k.d * k.e % Nat.lcm (k.p - 1) (k.q - 1) = 1 &&
    k.dmp1 = k.d % (k.p - 1) && k.dmq1 = k.d % (k.q - 1) &&
    k.iqmp < k.p && k.iqmp * k.q % k.p = 1

end PemBundle
