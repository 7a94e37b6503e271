import QuoteService.Curve.Parameters
import QuoteService.Der.Element
import QuoteService.Number.Modular

/-!
# Points

Points are computed in coordinates `(X, Y, Z)` that stand for `(X / Z², Y / Z³)`; `Z = 0` is the
point at infinity.

* `Curve.publicPoint`: the multiple of the base point by a secret.
* `Point.encode`, `Point.encodings`: the uncompressed form, and all three forms.
* `Curve.isPointEncoding`: whether bytes are a point of a curve.
-/

namespace QuoteService

/-- A point by its two coordinates. -/
structure Point where
  x : Nat
  y : Nat
  deriving DecidableEq

namespace Curve

/-- A point in three coordinates. -/
structure Triple where
  x : Nat
  y : Nat
  z : Nat

/-- `x - y` modulo `m`, for `y` below `m`. -/
def subMod (m x y : Nat) : Nat := (x + (m - y)) % m

/-- The point at infinity. -/
def infinity : Triple := ⟨1, 1, 0⟩

/-- Twice a point. -/
def double (m a : Nat) (p : Triple) : Triple :=
  if p.z = 0 ∨ p.y = 0 then infinity
  else
    let yy := p.y * p.y % m
    let s := 4 * p.x * yy % m
    let zz := p.z * p.z % m
    let slope := (3 * p.x * p.x + a * (zz * zz % m)) % m
    let x := subMod m (slope * slope) (2 * s % m)
    ⟨x, subMod m (slope * subMod m s x) (8 * (yy * yy % m) % m), 2 * p.y * p.z % m⟩

/-- The sum of two points. -/
def add (m a : Nat) (p q : Triple) : Triple :=
  if p.z = 0 then q
  else if q.z = 0 then p
  else
    let pzz := p.z * p.z % m
    let qzz := q.z * q.z % m
    let u1 := p.x * qzz % m
    let u2 := q.x * pzz % m
    let s1 := p.y * (qzz * q.z % m) % m
    let s2 := q.y * (pzz * p.z % m) % m
    let h := subMod m u2 u1
    let r := subMod m s2 s1
    if h = 0 then if r = 0 then double m a p else infinity
    else
      let hh := h * h % m
      let hhh := hh * h % m
      let v := u1 * hh % m
      let x := subMod m (subMod m (r * r) hhh) (2 * v % m)
      ⟨x, subMod m (r * subMod m v x) (s1 * hhh % m), h * (p.z * q.z % m) % m⟩

/-- `n` times a point. -/
def multiply (m a n : Nat) (p : Triple) : Triple :=
  if n = 0 then infinity
  else
    let half := double m a (multiply m a (n / 2) p)
    if n % 2 = 1 then add m a half p else half
termination_by n
decreasing_by omega

/-- The coordinates of a point that is not at infinity. -/
def toPoint (m : Nat) (p : Triple) : Point :=
  let inverse := Number.powMod p.z (m - 2) m
  let square := inverse * inverse % m
  ⟨p.x * square % m, p.y * (square * inverse % m) % m⟩

/-- The public point of a secret. -/
def publicPoint (c : Curve) (secret : Nat) : Point :=
  let k := c.parameters
  toPoint k.modulus (multiply k.modulus k.a secret ⟨k.baseX, k.baseY, 1⟩)

/-- The right side of the equation of a curve. -/
def rightSide (c : Curve) (x : Nat) : Nat :=
  let k := c.parameters
  (x * x % k.modulus * x + k.a * x + k.b) % k.modulus

/-- Whether two coordinates satisfy the equation of a curve. -/
def contains (c : Curve) (x y : Nat) : Bool :=
  let k := c.parameters
  x < k.modulus && y < k.modulus && y * y % k.modulus == c.rightSide x

/-- Whether some point of a curve has the first coordinate `x`. -/
def containsX (c : Curve) (x : Nat) : Bool :=
  let k := c.parameters
  x < k.modulus &&
    (c.rightSide x == 0 || Number.powMod (c.rightSide x) ((k.modulus - 1) / 2) k.modulus == 1)

/-- Whether bytes are a point of a curve: uncompressed, with both coordinates and the parity of the
second, or the first coordinate and that parity only. -/
def isPointEncoding (c : Curve) (bs : List UInt8) : Bool :=
  let n := c.coordinateLength
  match bs with
  | [] => false
  | form :: r =>
    let x := Der.ofBigEndian (r.take n)
    let y := Der.ofBigEndian (r.drop n)
    if form = 4 then r.length == 2 * n && c.contains x y
    else if form = 6 ∨ form = 7 then
      r.length == 2 * n && c.contains x y && y % 2 == form.toNat - 6
    else if form = 2 ∨ form = 3 then r.length == n && c.containsX x
    else false

end Curve

namespace Point

/-- The uncompressed form of a point. -/
def encode (p : Point) (c : Curve) : List UInt8 :=
  4 :: (Der.fixedBytes c.coordinateLength p.x ++ Der.fixedBytes c.coordinateLength p.y)

/-- The three forms of a point: uncompressed, compressed, and both together. -/
def encodings (p : Point) (c : Curve) : List (List UInt8) :=
  let x := Der.fixedBytes c.coordinateLength p.x
  let y := Der.fixedBytes c.coordinateLength p.y
  let parity := UInt8.ofNat (p.y % 2)
  [p.encode c, (2 + parity) :: x, (6 + parity) :: (x ++ y)]

end Point

end QuoteService
