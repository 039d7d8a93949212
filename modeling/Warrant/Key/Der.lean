import Warrant.Bytes

namespace Warrant.Der

structure Element where
  tag : UInt8
  contents : Bytes

/-- The length of some contents, and what follows it. A length below 128 is one byte; any other
names the number of its bytes first, and none of the two could be shorter. -/
def length? : Bytes → Option (Nat × Bytes)
  | [] => none
  | b :: rest =>
    if b < 0x80 then some (b.toNat, rest)
    else
      let count := b.toNat - 0x80
      let digits := rest.take count
      let n := digits.foldl (fun n d => 256 * n + d.toNat) 0
      if count = 0 ∨ 4 < count ∨ digits.length < count ∨ n < 0x80 ∨ n < Nat.pow 256 (count - 1)
      then none
      else some (n, rest.drop count)

def universalTags : List UInt8 :=
  [0x01, 0x02, 0x03, 0x04, 0x05, 0x06, 0x09, 0x0A, 0x0C, 0x12, 0x13, 0x14, 0x15, 0x16, 0x17, 0x18,
    0x1A, 0x1E, 0x30, 0x31]

def isTag (b : UInt8) : Bool :=
  universalTags.contains b || (0x40 ≤ b && b % 32 != 31)

def element? : Bytes → Option (Element × Bytes)
  | [] => none
  | tag :: rest =>
    if isTag tag then
      match length? rest with
      | some (n, rest) =>
        if n ≤ rest.length then some (⟨tag, rest.take n⟩, rest.drop n) else none
      | none => none
    else none

def single? (bytes : Bytes) : Option Element :=
  match element? bytes with
  | some (e, []) => some e
  | _ => none

def elementsUpTo : (fuel : Nat) → Bytes → Option (List Element)
  | _, [] => some []
  | 0, _ :: _ => none
  | fuel + 1, bytes => do
    let (e, rest) ← element? bytes
    let more ← elementsUpTo fuel rest
    return e :: more

def elements? (bytes : Bytes) : Option (List Element) :=
  elementsUpTo bytes.length bytes

namespace Element

def contextNumber? (e : Element) : Option Nat :=
  if 0x80 ≤ e.tag ∧ e.tag < 0xC0 then some (e.tag.toNat % 32) else none

def isConstructed (e : Element) : Bool :=
  e.tag &&& 0x20 != 0

end Element

end Warrant.Der
