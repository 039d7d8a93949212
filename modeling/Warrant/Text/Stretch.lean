import Warrant.Bytes
import Warrant.Text

/-!
Tables of what is known about characters. A table is a text of entries such as `41-5A=61`: the first
and the last code point of a stretch in hexadecimal digits, or a single code point, and what holds
of them. Stretches stand in order and do not overlap.
-/

namespace Warrant.Text

structure Stretch (α : Type) where
  first : Nat
  last : Nat
  value : α

namespace Stretch

variable {α : Type}

def hex (digits : List Char) : Nat :=
  digits.foldl (fun n c => 16 * n + (Hex.value? c).getD 0) 0

def ofEntry (value : List Char → α) (entry : List Char) : Stretch α :=
  let range := entry.takeWhile (· ≠ '=')
  let first := hex (range.takeWhile (· ≠ '-'))
  let last := (range.dropWhile (· ≠ '-')).drop 1
  { first
    last := if last.isEmpty then first else hex last
    value := value ((entry.dropWhile (· ≠ '=')).drop 1) }

def table (value : List Char → α) (text : String) : Array (Stretch α) :=
  ((words (fun c => c = ' ' || c = '\n') text.toList).map (ofEntry value)).toArray

def members (text : String) : Array (Stretch Unit) :=
  table (fun _ => ()) text

def search (stretches : Array (Stretch α)) (c low high : Nat) : Option (Stretch α) :=
  if low < high then
    match stretches[(low + high) / 2]? with
    | some s =>
      if c < s.first then search stretches c low ((low + high) / 2)
      else if s.last < c then search stretches c ((low + high) / 2 + 1) high
      else some s
    | none => none
  else none
termination_by high - low
decreasing_by all_goals omega

def find? (stretches : Array (Stretch α)) (c : Char) : Option (Stretch α) :=
  search stretches c.toNat 0 stretches.size

def contains (stretches : Array (Stretch α)) (c : Char) : Bool :=
  (find? stretches c).isSome

end Stretch

end Warrant.Text
