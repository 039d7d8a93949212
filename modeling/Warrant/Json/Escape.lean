import Warrant.Json
import Warrant.Text.Utf8

namespace Warrant.Json.Escape

abbrev backslash : UInt8 := 92

def encodeByte (b : UInt8) : Bytes :=
  if b = 34 then [backslash, 34]
  else if b = backslash then [backslash, backslash]
  else if b = 8 then [backslash, 98]
  else if b = 9 then [backslash, 116]
  else if b = 10 then [backslash, 110]
  else if b = 12 then [backslash, 102]
  else if b = 13 then [backslash, 114]
  else if b < 32 then
    [backslash, 117, 48, 48, if b < 16 then 48 else 49,
      if b % 16 < 10 then 48 + b % 16 else 87 + b % 16]
  else [b]

def encode (bytes : Bytes) : Bytes :=
  bytes.flatMap encodeByte

def hexValue? (b : UInt8) : Option Nat :=
  Hex.value? (Char.ofNat b.toNat)

def hex4? (a b c d : UInt8) : Option Nat := do
  let a ← hexValue? a
  let b ← hexValue? b
  let c ← hexValue? c
  let d ← hexValue? d
  return ((a * 16 + b) * 16 + c) * 16 + d

def isHighSurrogate (n : Nat) : Bool :=
  0xD800 ≤ n && n < 0xDC00

def isLowSurrogate (n : Nat) : Bool :=
  0xDC00 ≤ n && n < 0xE000

def letter? (b : UInt8) : Option UInt8 :=
  if b = 34 ∨ b = 92 ∨ b = 47 then some b
  else if b = 98 then some 8
  else if b = 102 then some 12
  else if b = 110 then some 10
  else if b = 114 then some 13
  else if b = 116 then some 9
  else none

def codePoint (n : Nat) : Bytes :=
  String.utf8EncodeChar (Char.ofNat n)

def decode? : Bytes → Option Bytes
  | [] => some []
  | 92 :: 117 :: a :: b :: c :: d :: rest =>
    match hex4? a b c d with
    | none => none
    | some n =>
      if isHighSurrogate n then
        match rest with
        | 92 :: 117 :: e :: f :: g :: h :: more =>
          match hex4? e f g h with
          | none => none
          | some m =>
            if isLowSurrogate m then
              (decode? more).map (codePoint (0x10000 + (n - 0xD800) * 0x400 + (m - 0xDC00)) ++ ·)
            else none
        | _ => none
      else if isLowSurrogate n then none
      else (decode? rest).map (codePoint n ++ ·)
  | 92 :: b :: rest =>
    match letter? b with
    | some c => (decode? rest).map (c :: ·)
    | none => none
  | b :: rest => if b = backslash ∨ b = 34 ∨ b < 32 then none else (decode? rest).map (b :: ·)

def text? (written : Bytes) : Option String :=
  (decode? written).bind Text.ofUtf8?

end Warrant.Json.Escape
