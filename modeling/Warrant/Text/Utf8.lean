import Warrant.Bytes

namespace Warrant.Text

def utf8 (text : String) : Bytes :=
  text.toUTF8.data.toList

def ofUtf8? (bytes : Bytes) : Option String :=
  String.fromUTF8? ⟨bytes.toArray⟩

/-- The second bytes that may follow the lead byte of a form of three or four bytes; they keep out
overlong forms, surrogates and what lies beyond U+10FFFF. -/
def secondRange (lead : UInt8) : UInt8 × UInt8 :=
  if lead = 0xE0 then (0xA0, 0xBF)
  else if lead = 0xED then (0x80, 0x9F)
  else if lead = 0xF0 then (0x90, 0xBF)
  else if lead = 0xF4 then (0x80, 0x8F)
  else (0x80, 0xBF)

def formLength (lead : UInt8) : Nat :=
  if lead < 0x80 then 1
  else if 0xC2 ≤ lead ∧ lead ≤ 0xDF then 2
  else if 0xE0 ≤ lead ∧ lead ≤ 0xEF then 3
  else if 0xF0 ≤ lead ∧ lead ≤ 0xF4 then 4
  else 0

def continued (lead : UInt8) (rest : Bytes) : Nat :=
  match rest.take (formLength lead - 1) with
  | [] => 0
  | second :: more =>
    if (secondRange lead).1 ≤ second ∧ second ≤ (secondRange lead).2 then
      1 + (more.takeWhile fun b => 0x80 ≤ b && b ≤ 0xBF).length
    else 0

/-- UTF-8 in which every longest beginning of a form, or stray byte, has become U+FFFD. -/
def repaired : Bytes → Bytes
  | [] => []
  | lead :: rest =>
    if formLength lead = continued lead rest + 1 then
      lead :: rest.take (continued lead rest) ++ repaired (rest.drop (continued lead rest))
    else
      0xEF :: 0xBF :: 0xBD :: repaired (rest.drop (continued lead rest))
termination_by bytes => bytes.length
decreasing_by all_goals (simp only [List.length_drop, List.length_cons]; omega)

def ofUtf8Lossy (bytes : Bytes) : String :=
  (ofUtf8? (repaired bytes)).getD ""

end Warrant.Text
