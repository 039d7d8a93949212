import Warrant.Bytes
import Warrant.Text

namespace Warrant.Url

open Text

def digitValue? (base : Nat) (c : Char) : Option Nat :=
  (Hex.value? c).filter (· < base)

def readBase? (base : Nat) (digits : List Char) : Option Nat :=
  digits.foldlM (fun n c => (digitValue? base c).map (n * base + ·)) 0

def addressNumber? : List Char → Option Nat
  | [] => none
  | '0' :: 'x' :: digits => readBase? 16 digits
  | '0' :: 'X' :: digits => readBase? 16 digits
  | '0' :: digits => readBase? 8 digits
  | digits => readBase? 10 digits

def filled (labels : List (List Char)) : List (List Char) :=
  if 1 < labels.length ∧ labels.getLast? = some [] then labels.dropLast else labels

def endsInNumber (labels : List (List Char)) : Bool :=
  match (filled labels).getLast? with
  | some last => !last.isEmpty && (last.all Char.isDigit || (addressNumber? last).isSome)
  | none => false

/-- Up to four numbers, of which the last one fills the bytes that are left. -/
def isIPv4 (labels : List (List Char)) : Bool :=
  let parts := filled labels
  match parts.mapM addressNumber? with
  | some numbers =>
    parts.length ≤ 4 && numbers.dropLast.all (· < 256) &&
      (numbers.getLast?.getD 0) < Nat.pow 256 (5 - parts.length)
  | none => false

def isByteText (digits : List Char) : Bool :=
  !digits.isEmpty && digits.length ≤ 3 && digits.all Char.isDigit &&
    (digits.length == 1 || digits.head? != some '0') &&
    (readBase? 10 digits).any (· < 256)

def groupCount? (text : List Char) : Option Nat :=
  if text.isEmpty then some 0
  else
    let groups := pieces (· = ':') text
    let isGroup (g : List Char) : Bool :=
      !g.isEmpty && g.length ≤ 4 && g.all fun c => (Hex.value? c).isSome
    match groups.reverse with
    | last :: before =>
      let dotted := pieces (· = '.') last
      if !before.all isGroup then none
      else if isGroup last then some groups.length
      else if dotted.length = 4 ∧ dotted.all isByteText then some (groups.length + 1)
      else none
    | [] => none

def splitDouble : List Char → Option (List Char × List Char)
  | ':' :: ':' :: rest => some ([], rest)
  | c :: rest => (splitDouble rest).map fun (before, after) => (c :: before, after)
  | [] => none

/-- Eight groups, or fewer around one double colon that stands for at least one. A dotted end comes
last. -/
def isIPv6 (text : List Char) : Bool :=
  match splitDouble text with
  | some (before, after) =>
    match groupCount? before, groupCount? after with
    | some m, some n => !before.contains '.' && m + n ≤ 7
    | _, _ => false
  | none => groupCount? text == some 8

end Warrant.Url
