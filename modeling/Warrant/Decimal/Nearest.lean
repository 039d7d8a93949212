namespace Warrant

/-- The number `coefficient * 10 ^ exponent`. -/
structure Decimal where
  coefficient : Nat
  exponent : Int
  deriving DecidableEq

/-- The whole number nearest to `num / den`; a half goes to the even neighbour. -/
def roundHalfEven (num den : Nat) : Nat :=
  let q := num / den
  let twice := 2 * (num % den)
  if twice < den then q
  else if den < twice then q + 1
  else if q % 2 = 0 then q else q + 1

namespace Decimal

def ratio (d : Decimal) : Nat × Nat :=
  match d.exponent with
  | .ofNat e => (d.coefficient * Nat.pow 10 e, 1)
  | .negSucc e => (d.coefficient, Nat.pow 10 (e + 1))

def scaled (num den : Nat) : (e : Int) → Nat × Nat
  | .ofNat e => (num, den * Nat.pow 2 e)
  | .negSucc e => (num * Nat.pow 2 (e + 1), den)

def hiddenBit : Nat := 0x10000000000000

def signBit : Nat := 0x8000000000000000

/-- The exponent that gives the quotient a 53-bit whole part, or the least exponent of a double. -/
def binaryExponent (num den : Nat) : Int :=
  let e : Int := (Nat.log2 num : Int) - Nat.log2 den - 52
  let (n, d) := scaled num den e
  max (-1074) (if n / d < hiddenBit then e - 1 else e)

def infinityBits : Nat := 0x7FF0000000000000

/-- The bits of the double nearest to `num / den`. A fraction that rounds up to the next power of
two carries into the exponent's bits, where it belongs. -/
def nearestBits (num den : Nat) : Nat :=
  let e := binaryExponent num den
  let (n, d) := scaled num den e
  min infinityBits ((e + 1074).toNat * hiddenBit + roundHalfEven n d)

def size (n : Nat) : Nat :=
  (Nat.toDigits 10 n).length

def toBits (d : Decimal) : Nat :=
  if d.coefficient = 0 then 0
  else
    let magnitude := d.exponent + size d.coefficient
    if 310 < magnitude then infinityBits
    else if magnitude < -330 then 0
    else nearestBits d.ratio.1 d.ratio.2

def toFloat (negative : Bool) (d : Decimal) : Float :=
  Float.ofBits (UInt64.ofNat (if negative then d.toBits + signBit else d.toBits))

end Decimal

def ofDigits (digits : List Char) : Nat :=
  digits.foldl (fun n c => 10 * n + (c.toNat - 48)) 0

namespace Decimal

def ofChars? (text : List Char) : Option Decimal :=
  let whole := text.takeWhile Char.isDigit
  let rest := text.dropWhile Char.isDigit
  let (fraction, rest) :=
    match rest with
    | '.' :: tail => (tail.takeWhile Char.isDigit, tail.dropWhile Char.isDigit)
    | tail => ([], tail)
  if whole.isEmpty && fraction.isEmpty then none
  else
    let shifted (e : Int) : Decimal := ⟨ofDigits (whole ++ fraction), e - fraction.length⟩
    match rest with
    | [] => some (shifted 0)
    | mark :: tail =>
      if mark = 'e' ∨ mark = 'E' then
        let (negative, digits) :=
          match tail with
          | '-' :: t => (true, t)
          | '+' :: t => (false, t)
          | t => (false, t)
        if digits.isEmpty || !digits.all Char.isDigit then none
        else some (shifted (if negative then -(ofDigits digits : Int) else ofDigits digits))
      else none

end Decimal

def readFloat? (text : String) : Option Float :=
  let (negative, body) :=
    match text.toList with
    | '-' :: t => (true, t)
    | '+' :: t => (false, t)
    | t => (false, t)
  match String.ofList (body.map Char.toLower) with
  | "inf" | "infinity" =>
    some (Float.ofBits (if negative then 0xFFF0000000000000 else 0x7FF0000000000000))
  | "nan" => some (Float.ofBits 0x7FF8000000000000)
  | _ => (Decimal.ofChars? body).map (Decimal.toFloat negative)

end Warrant
