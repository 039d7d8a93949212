/-!
Labels in ASCII characters alone. The ASCII characters of a label come first, and after the last
hyphen stands where the others belong: digits of base 36 that spell, for each of them, how far it
lies behind the one before it, in value and then in place.
-/

namespace Warrant.Domain.Punycode

def digit? (c : Char) : Option Nat :=
  if 'a' ≤ c ∧ c ≤ 'z' then some (c.toNat - 97)
  else if '0' ≤ c ∧ c ≤ '9' then some (c.toNat - 22)
  else none

def threshold (k bias : Nat) : Nat :=
  if k ≤ bias then 1 else min 26 (k - bias)

def bounded? (n : Nat) : Option Nat :=
  if n < 0x100000000 then some n else none

/-- Adds the number that begins the digits to `total`, and leaves the digits behind it. -/
def number? (bias : Nat) : List Char → (k weight total : Nat) → Option (Nat × List Char)
  | [], _, _, _ => none
  | c :: rest, k, weight, total => do
    let d ← digit? c
    let total ← bounded? (total + (← bounded? (d * weight)))
    if d < threshold k bias then return (total, rest)
    else number? bias rest (k + 36) (← bounded? (weight * (36 - threshold k bias))) total

theorem length_number? {bias : Nat} {digits : List Char} {k weight total n : Nat}
    {rest : List Char} (h : number? bias digits k weight total = some (n, rest)) :
    rest.length < digits.length := by
  induction digits generalizing k weight total with
  | nil => simp [number?] at h
  | cons c tail ih =>
    simp only [number?, Option.bind_eq_bind, Option.bind_eq_some_iff] at h
    obtain ⟨d, _, _, _, _, _, h⟩ := h
    split at h
    · simp only [Option.pure_def, Option.some.injEq, Prod.mk.injEq] at h
      simp [← h.2]
    · obtain ⟨_, _, h⟩ := Option.bind_eq_some_iff.mp h
      have := ih h
      simp only [List.length_cons]
      omega

def damp (delta bias : Nat) : Nat × Nat :=
  if 455 < delta then damp (delta / 35) (bias + 36) else (delta, bias)
termination_by delta
decreasing_by omega

def adapt (delta count : Nat) (isFirst : Bool) : Nat :=
  let delta := if isFirst then delta / 700 else delta / 2
  let (delta, bias) := damp (delta + delta / count) 0
  bias + 36 * delta / (delta + 38)

def char? (n : Nat) : Option Char :=
  if n.isValidChar then some (Char.ofNat n) else none

/-- Puts the characters that the digits spell into a text; the next one is at least `n` and, if it
is no greater, stands at place `i` or behind. -/
def insertAll? (digits : List Char) (bias n i : Nat) (text : List Char) : Option (List Char) :=
  if digits.isEmpty then some text
  else
    match _h : number? bias digits 36 1 i with
    | none => none
    | some (total, rest) =>
      let count := text.length + 1
      match char? (n + total / count) with
      | none => none
      | some c =>
        insertAll? rest (adapt (total - i) count (i = 0)) (n + total / count) (total % count + 1)
          (text.insertIdx (total % count) c)
termination_by digits.length
decreasing_by exact length_number? ‹_›

def decode? (code : List Char) : Option (List Char) :=
  let tail := (code.reverse.takeWhile (· ≠ '-')).reverse
  let basic := (code.take (code.length - tail.length)).dropLast
  insertAll? (if basic.isEmpty then code else tail) 72 128 0 basic

end Warrant.Domain.Punycode
