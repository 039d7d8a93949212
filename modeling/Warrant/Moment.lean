import Warrant.Text

namespace Warrant

/-- Whole seconds since the start of 1970, and nanoseconds. A leap second counts as more than a
thousand million nanoseconds of the second before it. -/
structure Moment where
  second : Int64
  nanosecond : Nat
  deriving DecidableEq

namespace Moment

def ofSecond (second : Int64) : Moment := ⟨second, 0⟩

def before (a b : Moment) : Bool :=
  decide (a.second < b.second) || (a.second == b.second && decide (a.nanosecond < b.nanosecond))

abbrev Reader (α : Type) := List Char → Option (α × List Char)

def skipBlank (s : List Char) : List Char :=
  s.dropWhile Text.isBlank

def number (digits : List Char) : Nat :=
  digits.foldl (fun n c => 10 * n + (c.toNat - 48)) 0

def readDigits (most : Nat) : Reader Nat := fun s =>
  let digits := (s.take most).takeWhile Char.isDigit
  if digits.isEmpty then none else some (number digits, s.drop digits.length)

def readTwo (low high : Nat) : Reader Nat := fun s => do
  let (n, s) ← readDigits 2 (skipBlank s)
  if low ≤ n ∧ n ≤ high then some (n, s) else none

def readYear : Reader Int := fun s =>
  match skipBlank s with
  | '-' :: t => (readDigits t.length t).map fun (n, r) => (-(n : Int), r)
  | '+' :: t => (readDigits t.length t).map fun (n, r) => (n, r)
  | t => (readDigits 4 t).map fun (n, r) => (n, r)

def expect (c : Char) : Reader Unit := fun s =>
  match skipBlank s with
  | d :: t => if d = c then some ((), t) else none
  | [] => none

def readFraction : Reader Nat := fun s =>
  match s with
  | '.' :: t =>
    let digits := t.takeWhile Char.isDigit
    if digits.isEmpty then none
    else
      let nine := digits.take 9
      some (number nine * Nat.pow 10 (9 - nine.length), t.drop digits.length)
  | _ => some (0, s)

def twoDigits? (a b : Char) : Option Nat :=
  if a.isDigit && b.isDigit then some (number [a, b]) else none

def readHoursMinutes : Reader Nat := fun s =>
  match s with
  | a :: b :: t => do
    let hours ← twoDigits? a b
    match t.dropWhile fun c => c = ':' || Text.isBlank c with
    | c :: d :: rest =>
      let minutes ← twoDigits? c d
      if minutes < 60 ∧ hours < 24 then some (hours * 3600 + minutes * 60, rest) else none
    | _ => none
  | _ => none

def readOffset : Reader Int := fun s =>
  match s with
  | 'Z' :: t => some (0, t)
  | 'z' :: t => some (0, t)
  | '+' :: t => (readHoursMinutes t).map fun (n, r) => (n, r)
  | '-' :: t => (readHoursMinutes t).map fun (n, r) => (-(n : Int), r)
  | '\u2212' :: t => (readHoursMinutes t).map fun (n, r) => (-(n : Int), r)
  | u :: t :: c :: rest =>
    if u.toUpper = 'U' ∧ t.toUpper = 'T' ∧ c.toUpper = 'C' then some (0, rest) else none
  | _ => none

def isLeap (year : Int) : Bool :=
  year % 4 == 0 && (year % 100 != 0 || year % 400 == 0)

def daysIn (year : Int) (month : Nat) : Nat :=
  if month = 2 then (if isLeap year then 29 else 28)
  else if month = 4 ∨ month = 6 ∨ month = 9 ∨ month = 11 then 30
  else 31

/-- Days since the start of 1970, in the calendar that has always been in force. Years start in
March here, so that the leap day comes last. -/
def dayNumber (year : Int) (month day : Nat) : Int :=
  let y := if month ≤ 2 then year - 1 else year
  let m : Int := (month + 9) % 12
  365 * y + y / 4 - y / 100 + y / 400 + (153 * m + 2) / 5 + day - 1 - 719468

/-- The first and the last second that can be told. -/
def isTellable (second : Int) : Bool :=
  dayNumber (-262143) 1 1 * 86400 ≤ second && second < dayNumber 262143 1 1 * 86400

/-- A date, `T` or a blank, a time of day, and an offset. Blanks may stand around the numbers, and
second 60 is a leap second. -/
def ofString? (text : String) : Option Moment := do
  let (year, s) ← readYear text.toList
  let ((), s) ← expect '-' s
  let (month, s) ← readTwo 1 12 s
  let ((), s) ← expect '-' s
  let (day, s) ← readTwo 1 31 s
  let separator ← s.head?
  if separator ≠ 'T' ∧ separator ≠ 't' ∧ separator ≠ ' ' then none
  else
    let (hour, s) ← readTwo 0 23 s.tail
    let ((), s) ← expect ':' s
    let (minute, s) ← readTwo 0 59 s
    let ((), s) ← expect ':' s
    let (second, s) ← readTwo 0 60 s
    let (nanosecond, s) ← readFraction s
    let (offset, s) ← readOffset (skipBlank s)
    let days := dayNumber year month day
    let whole : Int :=
      days * 86400 + hour * 3600 + minute * 60 + (if second = 60 then 59 else second) - offset
    if day ≤ daysIn year month ∧ isTellable (days * 86400) ∧ isTellable whole ∧
        (skipBlank s).isEmpty then
      some ⟨Int64.ofInt whole, if second = 60 then nanosecond + 1000000000 else nanosecond⟩
    else none

end Moment

end Warrant
