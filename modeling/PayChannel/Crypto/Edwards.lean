/-!
# The Edwards curve modulo 2^255 - 19

Points of `-x^2 + y^2 = 1 + d x^2 y^2` over the integers modulo the prime `p`, in extended
coordinates: `x = X/Z`, `y = Y/Z`, `x y = T/Z`.  The addition law has no exceptions on this curve.
Field elements are natural numbers below `p`.
-/

namespace PayChannel.Edwards

def p : Nat := Nat.pow 2 255 - 19

def order : Nat := Nat.pow 2 252 + 27742317777372353535851937790883648493

/-! ## The field -/

def add (a b : Nat) : Nat := (a + b) % p

def sub (a b : Nat) : Nat := (a + (p - b)) % p

def mul (a b : Nat) : Nat := a * b % p

/-- the power of `a` to the number whose bits are given, highest bit first -/
def powBits (a : Nat) (bits : List Bool) : Nat :=
  bits.foldl (fun acc bit => if bit then mul (mul acc acc) a else mul acc acc) 1

def bits : Nat → Nat → List Bool
  | 0, _ => []
  | count + 1, n => n.testBit count :: bits count n

/-- the power of `a` to `n`, for `n` below 2^255 -/
def pow (a n : Nat) : Nat := powBits a (bits 255 n)

def inv (a : Nat) : Nat := pow a (p - 2)

/-- the constant of the curve, `-121665/121666` -/
def d : Nat := sub 0 (mul 121665 (inv 121666))

def sqrtMinusOne : Nat := pow 2 ((p - 1) / 4)

/-- the even square root of `u/v`, if `u/v` has a square root -/
def sqrtRatio? (u v : Nat) : Option Nat :=
  let v3 := mul (mul v v) v
  let v7 := mul (mul v3 v3) v
  let r := mul (mul u v3) (pow (mul u v7) ((p - 5) / 8))
  let check := mul v (mul r r)
  let root? :=
    if check = u then some r
    else if check = sub 0 u then some (mul r sqrtMinusOne)
    else none
  root?.map fun x => if x % 2 = 1 then sub 0 x else x

/-! ## The points -/

/-- a point in extended coordinates -/
structure Point where
  X : Nat
  Y : Nat
  Z : Nat
  T : Nat

namespace Point

def zero : Point := ⟨0, 1, 1, 0⟩

def twoD : Nat := add d d

def add (P Q : Point) : Point :=
  let a := mul (sub P.Y P.X) (sub Q.Y Q.X)
  let b := mul (Edwards.add P.Y P.X) (Edwards.add Q.Y Q.X)
  let c := mul (mul P.T twoD) Q.T
  let z := mul (Edwards.add P.Z P.Z) Q.Z
  let e := sub b a
  let f := sub z c
  let g := Edwards.add z c
  let h := Edwards.add b a
  ⟨mul e f, mul g h, mul f g, mul e h⟩

def double (P : Point) : Point :=
  let a := mul P.X P.X
  let b := mul P.Y P.Y
  let z := mul P.Z P.Z
  let s := Edwards.add P.X P.Y
  let e := sub (mul s s) (Edwards.add a b)
  let g := sub b a
  let f := sub g (Edwards.add z z)
  let h := sub 0 (Edwards.add a b)
  ⟨mul e f, mul g h, mul f g, mul e h⟩

def neg (P : Point) : Point :=
  ⟨sub 0 P.X, P.Y, P.Z, sub 0 P.T⟩

/-- the multiple of a point by `n`, for `n` below 2^256 -/
def scale (n : Nat) (P : Point) : Point :=
  (bits 256 n).foldl (fun acc bit => if bit then (acc.double).add P else acc.double) zero

/-- the number that encodes a point in 256 bits: `y`, and above it the lowest bit of `x` -/
def encode (P : Point) : Nat :=
  let zi := inv P.Z
  let x := mul P.X zi
  let y := mul P.Y zi
  y + x % 2 * Nat.pow 2 255

/-- the point that a number of 256 bits encodes.  The height `y` is taken modulo `p`, and the
sign is ignored where `x` is zero. -/
def decode? (n : Nat) : Option Point :=
  let y := n % Nat.pow 2 255 % p
  let yy := mul y y
  (sqrtRatio? (sub yy 1) (Edwards.add (mul d yy) 1)).map fun r =>
    let x := if n.testBit 255 then sub 0 r else r
    ⟨x, y, 1, mul x y⟩

/-- the base point: height `4/5`, even `x` -/
def base : Point :=
  (decode? (mul 4 (inv 5))).getD zero

end Point
end PayChannel.Edwards
