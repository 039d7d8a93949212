import Warrant.Json.Escape

namespace Warrant.Json

inductive Token
  | openArray
  | closeArray
  | openObject
  | closeObject
  | colon
  | comma
  | string (written : Bytes)
  | scalar (value : Json)

namespace Token

def isBlank (b : UInt8) : Bool :=
  b = 32 || b = 9 || b = 10 || b = 13

def isDigit (b : UInt8) : Bool :=
  48 ≤ b && b ≤ 57

/-- A string after its opening quote: what is read up to the closing one, most recent byte first,
and what follows. -/
def scanString (read : Bytes) : Bytes → Option (Bytes × Bytes)
  | [] => none
  | 34 :: rest => some (read.reverse, rest)
  | 92 :: 117 :: a :: b :: c :: d :: rest =>
    if (Escape.hex4? a b c d).isSome then scanString (d :: c :: b :: a :: 117 :: 92 :: read) rest
    else none
  | 92 :: b :: rest => if (Escape.letter? b).isSome then scanString (b :: 92 :: read) rest else none
  | b :: rest => if b < 32 || b = 92 then none else scanString (b :: read) rest

theorem length_scanString {read s w rest : Bytes} (h : scanString read s = some (w, rest)) :
    rest.length < s.length := by
  fun_induction scanString read s <;> simp_all <;> omega

def digits (s : Bytes) : Bytes × Bytes :=
  (s.takeWhile isDigit, s.dropWhile isDigit)

theorem length_digits (s : Bytes) : (digits s).2.length ≤ s.length :=
  List.Sublist.length_le (List.dropWhile_sublist _)

def scanWhole (s : Bytes) : Option (Bytes × Bytes) :=
  match s with
  | 48 :: rest => some ([48], rest)
  | b :: rest => if isDigit b then some (b :: (digits rest).1, (digits rest).2) else none
  | [] => none

theorem length_scanWhole {s w rest : Bytes} (h : scanWhole s = some (w, rest)) :
    rest.length < s.length := by
  unfold scanWhole at h
  split at h
  · simp_all
  · split at h
    · simp only [Option.some.injEq, Prod.mk.injEq] at h
      have := length_digits ‹_›
      rw [← h.2, List.length_cons]
      omega
    · simp at h
  · simp at h

def scanFraction (s : Bytes) : Option (Bytes × Bytes) :=
  match s with
  | 46 :: rest =>
    if (digits rest).1.isEmpty then none else some (46 :: (digits rest).1, (digits rest).2)
  | _ => some ([], s)

theorem length_scanFraction {s w rest : Bytes} (h : scanFraction s = some (w, rest)) :
    rest.length ≤ s.length := by
  unfold scanFraction at h
  split at h
  · split at h
    · simp at h
    · simp only [Option.some.injEq, Prod.mk.injEq] at h
      have := length_digits ‹_›
      rw [← h.2, List.length_cons]
      omega
  · simp_all

def scanSign (s : Bytes) : Bytes × Bytes :=
  match s with
  | 43 :: rest => ([43], rest)
  | 45 :: rest => ([45], rest)
  | _ => ([], s)

theorem length_scanSign (s : Bytes) : (scanSign s).2.length ≤ s.length := by
  unfold scanSign
  split <;> simp

def scanExponent (s : Bytes) : Option (Bytes × Bytes) :=
  match s with
  | b :: rest =>
    if b = 101 || b = 69 then
      let (sign, tail) := scanSign rest
      if (digits tail).1.isEmpty then none
      else some (b :: sign ++ (digits tail).1, (digits tail).2)
    else some ([], s)
  | [] => some ([], s)

theorem length_scanExponent {s w rest : Bytes} (h : scanExponent s = some (w, rest)) :
    rest.length ≤ s.length := by
  unfold scanExponent at h
  split at h
  · split at h
    · dsimp only at h
      split at h
      · simp at h
      · simp only [Option.some.injEq, Prod.mk.injEq] at h
        have h1 := length_digits (scanSign ‹_›).2
        have h2 := length_scanSign ‹Bytes›
        rw [← h.2, List.length_cons]
        omega
    · simp_all
  · simp_all

def scanUnsigned (s : Bytes) : Option (Bytes × Bytes) :=
  match scanWhole s with
  | none => none
  | some (whole, s) =>
    match scanFraction s with
    | none => none
    | some (fraction, s) =>
      match scanExponent s with
      | none => none
      | some (exponent, s) => some (whole ++ fraction ++ exponent, s)

theorem length_scanUnsigned {s w rest : Bytes} (h : scanUnsigned s = some (w, rest)) :
    rest.length < s.length := by
  unfold scanUnsigned at h
  split at h
  · simp at h
  · split at h
    · simp at h
    · split at h
      · simp at h
      · simp only [Option.some.injEq, Prod.mk.injEq] at h
        have h1 := length_scanWhole ‹_›
        have h2 := length_scanFraction ‹_›
        have h3 := length_scanExponent ‹_›
        rw [← h.2]
        omega

def scanNumber (s : Bytes) : Option (Bytes × Bytes) :=
  match s with
  | 45 :: rest => (scanUnsigned rest).map fun (w, tail) => (45 :: w, tail)
  | _ => scanUnsigned s

theorem length_scanNumber {s w rest : Bytes} (h : scanNumber s = some (w, rest)) :
    rest.length < s.length := by
  unfold scanNumber at h
  split at h
  · obtain ⟨⟨v, t⟩, hv, e⟩ := Option.map_eq_some_iff.1 h
    have := length_scanUnsigned hv
    simp_all
    omega
  · exact length_scanUnsigned h

def punctuation? (b : UInt8) : Option Token :=
  if b = 91 then some .openArray
  else if b = 93 then some .closeArray
  else if b = 123 then some .openObject
  else if b = 125 then some .closeObject
  else if b = 58 then some .colon
  else if b = 44 then some .comma
  else none

def literal? : Bytes → Option (Json × Bytes)
  | 110 :: 117 :: 108 :: 108 :: rest => some (.null, rest)
  | 116 :: 114 :: 117 :: 101 :: rest => some (.bool true, rest)
  | 102 :: 97 :: 108 :: 115 :: 101 :: rest => some (.bool false, rest)
  | _ => none

theorem length_literal? {s rest : Bytes} {j : Json} (h : literal? s = some (j, rest)) :
    rest.length < s.length := by
  unfold literal? at h
  split at h <;> simp_all <;> omega

def next? (b : UInt8) (rest : Bytes) : Option (Token × Bytes) :=
  match punctuation? b with
  | some t => some (t, rest)
  | none =>
    if b = quote then (scanString [] rest).map fun (w, tail) => (.string w, tail)
    else
      match literal? (b :: rest) with
      | some (j, tail) => some (.scalar j, tail)
      | none => (scanNumber (b :: rest)).map fun (w, tail) => (.scalar (.number w), tail)

theorem length_next? {b : UInt8} {rest tail : Bytes} {t : Token}
    (h : next? b rest = some (t, tail)) : tail.length < rest.length + 1 := by
  unfold next? at h
  split at h
  · simp_all
  · split at h
    · obtain ⟨⟨w, u⟩, hw, e⟩ := Option.map_eq_some_iff.1 h
      have := length_scanString hw
      simp_all
      omega
    · split at h
      · have := length_literal? ‹_›
        simp_all
      · obtain ⟨⟨w, u⟩, hw, e⟩ := Option.map_eq_some_iff.1 h
        have := length_scanNumber hw
        simp_all

def scanAfter (read : List Token) : Bytes → Option (List Token)
  | [] => some read.reverse
  | b :: rest =>
    if isBlank b then scanAfter read rest
    else
      match _next : next? b rest with
      | some (t, tail) => scanAfter (t :: read) tail
      | none => none
termination_by s => s.length
decreasing_by
  · simp
  · simpa using length_next? _next

def scan (s : Bytes) : Option (List Token) :=
  scanAfter [] s

end Token

end Warrant.Json
