namespace Warrant

abbrev Bytes := List UInt8

namespace Bytes

def littleEndian : Bytes → Nat
  | [] => 0
  | b :: rest => b.toNat + 256 * littleEndian rest

def ofNatLittleEndian : (count : Nat) → (n : Nat) → Bytes
  | 0, _ => []
  | count + 1, n => UInt8.ofNat n :: ofNatLittleEndian count (n / 256)

@[simp] theorem length_ofNatLittleEndian (count n : Nat) :
    (ofNatLittleEndian count n).length = count := by
  induction count generalizing n with
  | zero => rfl
  | succ count ih => simp [ofNatLittleEndian, ih]

def ofNatBigEndian (count n : Nat) : Bytes :=
  (ofNatLittleEndian count n).reverse

def le : Bytes → Bytes → Bool
  | [], _ => true
  | _ :: _, [] => false
  | a :: s, b :: t => if a = b then le s t else decide (a < b)

theorem le_total (s t : Bytes) : (le s t || le t s) = true := by
  induction s generalizing t with
  | nil => simp [le]
  | cons a s ih =>
    cases t with
    | nil => simp [le]
    | cons b t =>
      by_cases same : a = b
      · simpa [le, same] using ih t
      · simpa [le, same, Ne.symm same] using UInt8.lt_or_lt_of_ne same

theorem le_trans {s t u : Bytes} (h : le s t = true) (g : le t u = true) : le s u = true := by
  induction s generalizing t u with
  | nil => simp [le]
  | cons a s ih =>
    cases t with
    | nil => simp [le] at h
    | cons b t =>
      cases u with
      | nil => simp [le] at g
      | cons c u =>
        simp only [le] at h g ⊢
        grind

end Bytes

namespace Hex

def digit (n : Nat) : Char :=
  if n < 10 then Char.ofNat (48 + n) else Char.ofNat (87 + n)

def value? (c : Char) : Option Nat :=
  if '0' ≤ c ∧ c ≤ '9' then some (c.toNat - 48)
  else if 'a' ≤ c ∧ c ≤ 'f' then some (c.toNat - 87)
  else if 'A' ≤ c ∧ c ≤ 'F' then some (c.toNat - 55)
  else none

def encodeChars : Bytes → List Char
  | [] => []
  | b :: rest => digit (b.toNat / 16) :: digit (b.toNat % 16) :: encodeChars rest

def encode (bytes : Bytes) : String :=
  String.ofList (encodeChars bytes)

def decodeChars? : List Char → Option Bytes
  | [] => some []
  | [_] => none
  | a :: b :: rest => do
    let high ← value? a
    let low ← value? b
    let tail ← decodeChars? rest
    return UInt8.ofNat (16 * high + low) :: tail

def decode? (text : String) : Option Bytes :=
  decodeChars? text.toList

def ofNat (n : Nat) : String :=
  String.ofList (Nat.toDigits 16 n)

end Hex

end Warrant
