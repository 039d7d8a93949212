import Warrant.Json.Reader
import Warrant.Base64
import Warrant.Decimal.Shortest
import Warrant.Dictionary

namespace Warrant.Json

def ofText (text : String) : Json :=
  .string (Escape.encode (Text.utf8 text))

def text? : Json → Option String
  | .string written => Escape.text? written
  | _ => none

def bool? : Json → Option Bool
  | .bool value => some value
  | _ => none

def natDigits (n : Nat) : Bytes :=
  (Nat.toDigits 10 n).map fun c => UInt8.ofNat c.toNat

def intDigits (n : Int) : Bytes :=
  if n < 0 then 45 :: natDigits n.natAbs else natDigits n.natAbs

def ofInt (n : Int) : Json :=
  .number (intDigits n)

def natOfDigits (digits : Bytes) : Nat :=
  digits.foldl (fun n b => 10 * n + (b.toNat - 48)) 0

def int? : Json → Option Int
  | .number (45 :: digits) =>
    if digits.all Token.isDigit && digits != [48] then some (-(natOfDigits digits : Int)) else none
  | .number digits => if digits.all Token.isDigit then some (natOfDigits digits) else none
  | _ => none

def ofInt64 (n : Int64) : Json :=
  ofInt n.toInt

def int64? (j : Json) : Option Int64 := do
  let n ← j.int?
  if (Int64.ofInt n).toInt = n then some (Int64.ofInt n) else none

def ofUInt64 (n : UInt64) : Json :=
  ofInt n.toNat

def uint64? (j : Json) : Option UInt64 := do
  let n ← j.int?
  if 0 ≤ n ∧ n.toNat < UInt64.size then some (UInt64.ofNat n.toNat) else none

def ofFloat (x : Float) : Json :=
  if x.isNaN || x.isInf then .null
  else .number (Text.utf8 (NumberLayout.document.write x.toBits.toNat))

def float? : Json → Option Float
  | .number written => do
    let (negative, digits) :=
      match written with
      | 45 :: rest => (true, rest)
      | digits => (false, digits)
    let d ← Decimal.ofChars? (digits.map fun b => Char.ofNat b.toNat)
    if d.toBits = Decimal.infinityBits then none else some (d.toFloat negative)
  | _ => none

def ofBytes (bytes : Bytes) : Json :=
  .string (Base64.encode bytes)

def bytes? : Json → Option Bytes
  | .null => some []
  | .string written => do
    let text ← Escape.text? written
    (Base64.decodeText text).toOption
  | _ => none

def ofList {α : Type} (of : α → Json) (items : List α) : Json :=
  .array (items.map of)

def list? {α : Type} (read : Json → Option α) : Json → Option (List α)
  | .array items => items.mapM read
  | _ => none

def ofOption {α : Type} (of : α → Json) : Option α → Json
  | some a => of a
  | none => .null

def option? {α : Type} (read : Json → Option α) : Json → Option (Option α)
  | .null => some none
  | j => (read j).map some

def member (name : String) (value : Json) : Bytes × Json :=
  (Escape.encode (Text.utf8 name), value)

def ofDictionary {α : Type} (of : α → Json) (d : Dictionary α) : Json :=
  .object (d.entries.map fun (name, a) => member name (of a))

/-- Any names; of two members with one name the later counts. -/
def dictionary? {α : Type} (read : Json → Option α) : Json → Option (Dictionary α)
  | .object members => do
    let entries ← members.mapM fun (written, j) => do
      let name ← Escape.text? written
      let a ← read j
      return (name, a)
    return Dictionary.ofList entries
  | _ => none

def find? (members : List (Bytes × Json)) (name : String) : Option (Option Json) :=
  match members.filter fun m => Escape.text? m.1 == some name with
  | [] => some none
  | [m] => some (some m.2)
  | _ => none

def areNamed (members : List (Bytes × Json)) : Bool :=
  members.all fun m => (Escape.text? m.1).isSome

/-- The fields of a record, in the order of `names`: an object with each of them once at most, or an
array of the fields in order, from which the last ones may be missing. -/
def record? (names : List String) : Json → Option (List (Option Json))
  | .object members => if areNamed members then names.mapM (find? members) else none
  | .array items =>
    if items.length ≤ names.length then
      some (items.map some ++ List.replicate (names.length - items.length) none)
    else none
  | _ => none

def fieldOr {α : Type} (default : α) (read : Json → Option α) : Option Json → Option α
  | some j => read j
  | none => some default

def field {α : Type} (read : Json → Option α) : Option Json → Option α
  | some j => read j
  | none => none

end Warrant.Json
