import PemBundle.Arith.Modular
import PemBundle.Der.Writer

/-!
# Points of elliptic curves

Curves in short Weierstrass form over a prime field. Points are added in projective coordinates,
where `(x, y, z)` stands for the point `(x / z², y / z³)` and `z = 0` for the point at infinity.
-/

namespace PemBundle

/-- A curve `y² = x³ + a x + b` modulo `p` with a base point and its order. -/
structure Curve where
  name : String
  oid : Der.Oid
  p : Nat
  a : Nat
  b : Nat
  gx : Nat
  gy : Nat
  order : Nat
  deriving DecidableEq

namespace Curve

/-- How many bytes write a number below `n`. -/
def byteWidth (n : Nat) : Nat := n.log2 / 8 + 1

/-- How many bytes write a coordinate. -/
def fieldWidth (curve : Curve) : Nat := byteWidth curve.p

/-- How many bytes write a private number. -/
def scalarWidth (curve : Curve) : Nat := byteWidth curve.order

/-- A point in projective coordinates. -/
structure Point where
  x : Nat
  y : Nat
  z : Nat
  deriving DecidableEq

/-- The point at infinity. -/
def Point.infinity : Point := ⟨1, 1, 0⟩

/-- The base point. -/
def base (curve : Curve) : Point := ⟨curve.gx, curve.gy, 1⟩

/-- The difference modulo `p`. -/
def subMod (p m n : Nat) : Nat := (m + (p - n % p)) % p

/-- Twice a point. -/
def double (curve : Curve) (point : Point) : Point :=
  let p := curve.p
  if point.z = 0 ∨ point.y = 0 then .infinity
  else
    let yy := point.y * point.y % p
    let s := 4 * point.x * yy % p
    let zz := point.z * point.z % p
    let m := (3 * point.x * point.x + curve.a * (zz * zz % p)) % p
    let x := subMod p (m * m) (2 * s)
    ⟨x, subMod p (m * subMod p s x) (8 * (yy * yy % p)), 2 * point.y * point.z % p⟩

/-- The sum of two points. -/
def add (curve : Curve) (first second : Point) : Point :=
  let p := curve.p
  if first.z = 0 then second
  else if second.z = 0 then first
  else
    let zz1 := first.z * first.z % p
    let zz2 := second.z * second.z % p
    let u1 := first.x * zz2 % p
    let u2 := second.x * zz1 % p
    let s1 := first.y * (zz2 * second.z % p) % p
    let s2 := second.y * (zz1 * first.z % p) % p
    if u1 = u2 then
      if s1 = s2 then curve.double first else .infinity
    else
      let h := subMod p u2 u1
      let r := subMod p s2 s1
      let hh := h * h % p
      let hhh := hh * h % p
      let v := u1 * hh % p
      let x := subMod p (subMod p (r * r) hhh) (2 * v)
      ⟨x, subMod p (r * subMod p v x) (s1 * hhh), first.z * second.z % p * h % p⟩

/-- `scalar` times a point, by repeated doubling. -/
def multiply (curve : Curve) (scalar : Nat) (point : Point) : Point :=
  if scalar = 0 then .infinity
  else
    let half := curve.double (curve.multiply (scalar / 2) point)
    if scalar % 2 = 0 then half else curve.add half point
termination_by scalar

/-- The plane coordinates of a point that is not at infinity. -/
def coordinates? (curve : Curve) (point : Point) : Option (Nat × Nat) :=
  let p := curve.p
  if point.z = 0 then none
  else
    let inverse := Arith.powMod point.z (p - 2) p
    let square := inverse * inverse % p
    some (point.x * square % p, point.y * (square * inverse % p) % p)

/-- The coordinates of `scalar` times the base point, for a scalar below the order. -/
def publicPoint? (curve : Curve) (scalar : Nat) : Option (Nat × Nat) :=
  if 0 < scalar ∧ scalar < curve.order then
    curve.coordinates? (curve.multiply scalar curve.base)
  else none

/-- The uncompressed form of a point: a mark and both coordinates. -/
def writePoint (curve : Curve) (x y : Nat) : List UInt8 :=
  0x04 :: Der.fixedBytes curve.fieldWidth x ++ Der.fixedBytes curve.fieldWidth y

/-- All forms of a point: uncompressed, with its parity marked, and compressed. -/
def pointForms (curve : Curve) (x y : Nat) : List (List UInt8) :=
  let xs := Der.fixedBytes curve.fieldWidth x
  let ys := Der.fixedBytes curve.fieldWidth y
  let parity := UInt8.ofNat (y % 2)
  [curve.writePoint x y, (0x06 + parity) :: xs ++ ys, (0x02 + parity) :: xs]

end Curve

end PemBundle
