import Warrant.Decimal.Nearest

namespace Warrant

namespace Shortest

/-- A positive double `mantissa * 2 ^ exponent` and the interval of the numbers that round to it,
all in units of `2 ^ (exponent - 2)`. The ends belong to it when the mantissa is even. -/
structure Interval where
  low : Nat
  value : Nat
  high : Nat
  exponent : Int
  closed : Bool

def interval (bits : Nat) : Interval :=
  let field := bits / Decimal.hiddenBit % 2048
  let fraction := bits % Decimal.hiddenBit
  let mantissa := if field = 0 then fraction else fraction + Decimal.hiddenBit
  let exponent : Int := (max 1 field : Nat) - 1075
  { low := if fraction = 0 ∧ 1 < field then 4 * mantissa - 1 else 4 * mantissa - 2
    value := 4 * mantissa
    high := 4 * mantissa + 2
    exponent := exponent - 2
    closed := mantissa % 2 = 0 }

def quotient (n : Nat) (b k : Int) : Nat × Nat :=
  (n * Nat.pow 2 b.toNat * Nat.pow 10 (-k).toNat, Nat.pow 2 (-b).toNat * Nat.pow 10 k.toNat)

def Interval.contains (i : Interval) (k : Int) (c : Nat) : Bool :=
  let (low, d) := quotient i.low i.exponent k
  let (high, _) := quotient i.high i.exponent k
  if i.closed then low ≤ c * d && c * d ≤ high else low < c * d && c * d < high

/-- The grid points of step `10 ^ k` on both sides of the value, those of the interval, nearest
first; of two at the same distance the even one comes first. -/
def Interval.onGrid (i : Interval) (k : Int) : Option Nat :=
  let (n, d) := quotient i.value i.exponent k
  let nearest := roundHalfEven n d
  let other := if nearest = n / d then n / d + 1 else n / d
  if i.contains k nearest then some nearest
  else if i.contains k other then some other
  else none

def Interval.leading (i : Interval) : Int :=
  let guess : Int := ((Nat.log2 i.value : Int) + i.exponent) * 30103 / 100000
  let above (k : Int) : Bool :=
    let (n, d) := quotient i.value i.exponent k
    d ≤ n
  if above (guess + 1) then guess + 1 else if above guess then guess else guess - 1

/-- The coarsest grid that has a point in the interval, of steps that leave one to seventeen
digits. -/
def Interval.shortest (i : Interval) : Decimal :=
  let top := i.leading
  let steps := (List.range 17).map fun j : Nat => top - (j : Int)
  match steps.findSome? fun k => (i.onGrid k).map fun c => (⟨c, k⟩ : Decimal) with
  | some d => d
  | none => ⟨0, 0⟩

def stripZeros : (fuel : Nat) → Decimal → Decimal
  | 0, d => d
  | fuel + 1, d =>
    if d.coefficient % 10 = 0 then stripZeros fuel ⟨d.coefficient / 10, d.exponent + 1⟩ else d

end Shortest

def shortest (bits : Nat) : Decimal :=
  Shortest.stripZeros 17 (Shortest.interval bits).shortest

structure NumberLayout where
  positional : Int → Bool
  pointKept : Bool

namespace NumberLayout

def zeros (n : Nat) : List Char :=
  List.replicate n '0'

def writePositional (l : NumberLayout) (ds : List Char) (top : Int) : List Char :=
  if top < 0 then '0' :: '.' :: zeros (-top - 1).toNat ++ ds
  else if ds.length ≤ top.toNat + 1 then
    ds ++ zeros (top.toNat + 1 - ds.length) ++ (if l.pointKept then ['.', '0'] else [])
  else ds.take (top.toNat + 1) ++ '.' :: ds.drop (top.toNat + 1)

def writeExponent (e : Int) : List Char :=
  'e' :: (if e < 0 then '-' else '+') :: Nat.toDigits 10 e.natAbs

def writeDecimal (l : NumberLayout) (d : Decimal) : List Char :=
  let ds := Nat.toDigits 10 d.coefficient
  let top : Int := d.exponent + ds.length - 1
  if l.positional top then l.writePositional ds top
  else
    match ds with
    | [] => []
    | [c] => c :: writeExponent top
    | c :: more => c :: '.' :: more ++ writeExponent top

def write (l : NumberLayout) (bits : Nat) : String :=
  let sign := if Decimal.signBit ≤ bits then ['-'] else []
  let magnitude := bits % Decimal.signBit
  let d := if magnitude = 0 then ⟨0, 0⟩ else shortest magnitude
  String.ofList (sign ++ l.writeDecimal d)

def document : NumberLayout where
  positional top := -5 ≤ top && top ≤ 15
  pointKept := true

def plain : NumberLayout where
  positional _ := true
  pointKept := false

end NumberLayout

def plainNumber (x : Float) : String :=
  if x.isNaN then "NaN"
  else if x.isInf then (if x < 0 then "-inf" else "inf")
  else NumberLayout.plain.write x.toBits.toNat

end Warrant
