import Warrant.Text.Utf8

/-!
Base64 with the standard alphabet. Reading accepts the written form alone: padding is required, and
the unused bits of the last symbol are zero.
-/

namespace Warrant.Base64

inductive Error
  | symbol (byte : UInt8) (offset : Nat)
  | length (read : Nat)
  | padding
  | lastSymbol (byte : UInt8) (offset : Nat)
  deriving DecidableEq

def Error.message : Error → String
  | .symbol byte offset => s!"Invalid symbol {byte.toNat}, offset {offset}."
  | .length read => s!"Invalid input length: {read}"
  | .padding => "Invalid padding"
  | .lastSymbol byte offset => s!"Invalid last symbol {byte.toNat}, offset {offset}."

def symbol (n : Nat) : UInt8 :=
  if n < 26 then UInt8.ofNat (65 + n)
  else if n < 52 then UInt8.ofNat (71 + n)
  else if n < 62 then UInt8.ofNat (n - 4)
  else if n = 62 then 43
  else 47

def value? (byte : UInt8) : Option Nat :=
  if 65 ≤ byte ∧ byte ≤ 90 then some (byte.toNat - 65)
  else if 97 ≤ byte ∧ byte ≤ 122 then some (byte.toNat - 71)
  else if 48 ≤ byte ∧ byte ≤ 57 then some (byte.toNat + 4)
  else if byte = 43 then some 62
  else if byte = 47 then some 63
  else none

abbrev pad : UInt8 := 61

def encode : Bytes → Bytes
  | [] => []
  | [a] => [symbol (a.toNat / 4), symbol (a.toNat % 4 * 16), pad, pad]
  | [a, b] =>
    [symbol (a.toNat / 4), symbol (a.toNat % 4 * 16 + b.toNat / 16), symbol (b.toNat % 16 * 4), pad]
  | a :: b :: c :: rest =>
    symbol (a.toNat / 4) :: symbol (a.toNat % 4 * 16 + b.toNat / 16) ::
      symbol (b.toNat % 16 * 4 + c.toNat / 64) :: symbol (c.toNat % 64) :: encode rest

def read (byte : UInt8) (offset : Nat) : Except Error Nat :=
  match value? byte with
  | some n => .ok n
  | none => .error (.symbol byte offset)

/-- The last group of a text, from left to right: the numbers of its symbols, and the offset of its
first padding symbol. Padding never stands in the first two places, and nothing follows it. -/
def readGroup (start : Nat) : Bytes → (symbols : List Nat) → (padding : Option Nat) →
    Except Error (List Nat)
  | [], symbols, _ => .ok symbols
  | byte :: rest, symbols, some p =>
    if byte = pad then readGroup start rest symbols (some p) else .error (.symbol pad p)
  | byte :: rest, symbols, none =>
    if byte = pad then
      if symbols.length < 2 then .error (.symbol pad (start + symbols.length))
      else readGroup start rest symbols (some (start + symbols.length))
    else do
      let n ← read byte (start + symbols.length)
      readGroup start rest (symbols ++ [n]) none

def decodeLast (start : Nat) (group : Bytes) : Except Error Bytes := do
  let symbols ← readGroup start group [] none
  match symbols with
  | [a, b] =>
    if group.length ≠ 4 then .error .padding
    else if b % 16 ≠ 0 then .error (.lastSymbol (symbol b) (start + 1))
    else .ok [UInt8.ofNat (a * 4 + b / 16)]
  | [a, b, c] =>
    if group.length ≠ 4 then .error .padding
    else if c % 4 ≠ 0 then .error (.lastSymbol (symbol c) (start + 2))
    else .ok [UInt8.ofNat (a * 4 + b / 16), UInt8.ofNat (b % 16 * 16 + c / 4)]
  | [a, b, c, d] =>
    .ok [UInt8.ofNat (a * 4 + b / 16), UInt8.ofNat (b % 16 * 16 + c / 4),
      UInt8.ofNat (c % 4 * 64 + d)]
  | few => .error (.length (start + few.length))

def decodeFrom (start : Nat) : Bytes → Except Error Bytes
  | [] => .ok []
  | a :: b :: c :: d :: e :: rest => do
    let v ← read a start
    let w ← read b (start + 1)
    let x ← read c (start + 2)
    let y ← read d (start + 3)
    let tail ← decodeFrom (start + 4) (e :: rest)
    return UInt8.ofNat (v * 4 + w / 16) :: UInt8.ofNat (w % 16 * 16 + x / 4) ::
      UInt8.ofNat (x % 4 * 64 + y) :: tail
  | group => decodeLast start group

/-- A single byte after the last whole group is looked at first: one that is neither a symbol nor
padding, such as a line break, is told before all other faults. -/
def decode (text : Bytes) : Except Error Bytes :=
  match text.getLast? with
  | some last =>
    if text.length % 4 = 1 ∧ last ≠ pad ∧ value? last = none then
      .error (.symbol last (text.length - 1))
    else decodeFrom 0 text
  | none => .ok []

def encodeText (bytes : Bytes) : String :=
  String.ofList ((encode bytes).map fun b => Char.ofNat b.toNat)

def decodeText (text : String) : Except Error Bytes :=
  decode (Text.utf8 text)

end Warrant.Base64
