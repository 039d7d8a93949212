import Warrant.Digest.Sha256
import Warrant.Digest.Sha512
import Warrant.Key

/-!
Ed25519 signatures. Verification computes the point `[s]B - [k]A` and compares its encoding, byte
for byte, with the first half of the signature; points of small order are not refused.
-/

namespace Warrant.Ed25519

def p : Nat := Nat.pow 2 255 - 19

def order : Nat := Nat.pow 2 252 + 27742317777372353535851937790883648493

def power : (fuel : Nat) → (base exponent : Nat) → Nat
  | 0, _, _ => 1
  | fuel + 1, base, exponent =>
    let rest := power fuel (base * base % p) (exponent / 2)
    if exponent % 2 = 1 then rest * base % p else rest

def inverse (x : Nat) : Nat :=
  power 255 x (p - 2)

def negate (x : Nat) : Nat :=
  (p - x % p) % p

/-- The constant of the curve `-x² + y² = 1 + d x² y²`. -/
def d : Nat :=
  negate 121665 * inverse 121666 % p

def rootOfMinusOne : Nat :=
  power 255 2 ((p - 1) / 4)

/-- A point `(x / z, y / z)` with `t = x y / z`. -/
structure Point where
  x : Nat
  y : Nat
  z : Nat
  t : Nat

namespace Point

def neutral : Point := ⟨0, 1, 1, 0⟩

def neg (a : Point) : Point :=
  { a with x := negate a.x, t := negate a.t }

def addWith (curve : Nat) (a b : Point) : Point :=
  let m := (a.y + p - a.x) * (b.y + p - b.x) % p
  let n := (a.y + a.x) * (b.y + b.x) % p
  let c := 2 * a.t * b.t % p * curve % p
  let w := 2 * a.z * b.z % p
  let e := n + p - m
  let f := w + p - c
  let g := w + c
  let h := n + m
  ⟨e * f % p, g * h % p, f * g % p, e * h % p⟩

def add (a b : Point) : Point :=
  addWith d a b

def multiply (curve : Nat) : (fuel : Nat) → (n : Nat) → Point → Point
  | 0, _, _ => neutral
  | fuel + 1, n, a =>
    let rest := multiply curve fuel (n / 2) (addWith curve a a)
    if n % 2 = 1 then addWith curve rest a else rest

def scale (n : Nat) (a : Point) : Point :=
  multiply d 256 n a

def encode (a : Point) : Bytes :=
  let inv := inverse a.z
  let x := a.x * inv % p
  let y := a.y * inv % p
  Bytes.ofNatLittleEndian 32 (y + x % 2 * Nat.pow 2 255)

/-- The point with a y coordinate and a parity of x. The coordinate is taken modulo `p`, and the
sign bit is accepted where x is zero. -/
def decode? (bytes : Bytes) : Option Point :=
  let n := Bytes.littleEndian bytes
  let parity := n / Nat.pow 2 255 % 2
  let y := n % Nat.pow 2 255 % p
  let u := (y * y + p - 1) % p
  let v := (d * (y * y % p) + 1) % p
  let v3 := v * v % p * v % p
  let x := u * v3 % p * power 255 (u * (v3 * v3 % p * v % p) % p) ((p - 5) / 8) % p
  let check := v * (x * x % p) % p
  let root? :=
    if check = u then some x
    else if check = negate u then some (x * rootOfMinusOne % p)
    else none
  root?.map fun root =>
    let x := if root % 2 = parity then root else negate root
    ⟨x, y, 1, x * y % p⟩

end Point

def base : Point :=
  let y := 4 * inverse 5 % p
  (Point.decode? (Bytes.ofNatLittleEndian 32 y)).getD Point.neutral

def clamp (bytes : Bytes) : Nat :=
  Bytes.littleEndian bytes % Nat.pow 2 254 / 8 * 8 + Nat.pow 2 254

structure Secret where
  scalar : Nat
  nonceKey : Bytes

def expand (seed : Bytes) : Secret :=
  let h := Sha512.digest seed
  ⟨clamp (h.take 32), h.drop 32⟩

def publicKey (seed : Bytes) : Bytes :=
  (base.scale (expand seed).scalar).encode

def sign (seed message : Bytes) : Bytes :=
  let secret := expand seed
  let r := Bytes.littleEndian (Sha512.digest (secret.nonceKey ++ message)) % order
  let commitment := (base.scale r).encode
  let k := Bytes.littleEndian (Sha512.digest (commitment ++ publicKey seed ++ message)) % order
  commitment ++ Bytes.ofNatLittleEndian 32 ((r + k * secret.scalar) % order)

def isPoint (bytes : Bytes) : Bool :=
  (Point.decode? bytes).isSome

def verify (key message signature : Bytes) : Bool :=
  let commitment := signature.take 32
  let s := Bytes.littleEndian (signature.drop 32)
  let k := Bytes.littleEndian (Sha512.digest (commitment ++ key ++ message)) % order
  match Point.decode? key with
  | some a =>
    signature.length == 64 && decide (s < order) &&
      ((base.scale s).add (a.neg.scale k)).encode == commitment
  | none => false

end Warrant.Ed25519

namespace Warrant

instance standard : Scheme where
  publicKey key := ⟨Ed25519.publicKey key.seed, by simp [Ed25519.publicKey, Ed25519.Point.encode]⟩
  isKey key := Ed25519.isPoint key.bytes
  sign key := Ed25519.sign key.seed
  verify key := Ed25519.verify key.bytes
  digest := Sha256.digest

end Warrant
