import Warrant.Proofs.Json.ReadLaws

namespace Warrant

namespace Text

def IsUtf8 (bytes : Bytes) : Prop :=
  ∃ text, utf8 text = bytes

theorem isUtf8_ascii {bytes : Bytes} (h : bytes.all (· < 128) = true) : IsUtf8 bytes :=
  ⟨ofAscii bytes, utf8_ofAscii (by simpa using h)⟩

theorem IsUtf8.append {bytes more : Bytes} : IsUtf8 bytes → IsUtf8 more → IsUtf8 (bytes ++ more)
  | ⟨text, h⟩, ⟨tail, g⟩ => ⟨text ++ tail, by rw [utf8_append, h, g]⟩

theorem IsUtf8.cons {b : UInt8} {bytes : Bytes} (ascii : b < 128) (h : IsUtf8 bytes) :
    IsUtf8 (b :: bytes) := by
  have first : IsUtf8 [b] := isUtf8_ascii (by simpa using ascii)
  exact first.append h

theorem IsUtf8.utf8_ofUtf8Lossy {bytes : Bytes} : IsUtf8 bytes → utf8 (ofUtf8Lossy bytes) = bytes
  | ⟨text, h⟩ => by rw [← h, ofUtf8Lossy_utf8]

theorem utf8EncodeChar_cases (c : Char) :
    (∃ b < 128, String.utf8EncodeChar c = [b]) ∨ ∀ b ∈ String.utf8EncodeChar c, 128 ≤ b := by
  have ascii : ∀ n < 128, UInt8.ofNat n < 128 := by decide
  have beyond : ∀ n < 256, 128 ≤ n → 128 ≤ UInt8.ofNat n := by
    intro n small large
    rwa [UInt8.le_iff_toNat_le, UInt8.toNat_ofNat_of_lt' small]
  unfold String.utf8EncodeChar
  generalize c.val.toNat = v
  dsimp only
  split
  · exact .inl ⟨_, ascii v (by omega), rfl⟩
  refine .inr ?_
  have low := beyond (v % 64 + 128) (by omega) (by omega)
  have middle := beyond (v / 64 % 64 + 128) (by omega) (by omega)
  split
  · have lead := beyond (v / 64 % 32 + 192) (by omega) (by omega)
    simpa using And.intro lead low
  split
  · have lead := beyond (v / 4096 % 16 + 224) (by omega) (by omega)
    simpa using And.intro lead (And.intro middle low)
  · have lead := beyond (v / 262144 % 8 + 240) (by omega) (by omega)
    have second := beyond (v / 4096 % 64 + 128) (by omega) (by omega)
    simpa using And.intro lead (And.intro second (And.intro middle low))

end Text

namespace Json

open Text (IsUtf8 isUtf8_ascii)

theorem isUtf8_encodeChar (c : Char) : IsUtf8 (Escape.encode (String.utf8EncodeChar c)) := by
  have ascii : ∀ n < 128, (Escape.encodeByte (UInt8.ofNat n)).all (· < 128) = true := by decide
  have beyond : ∀ n < 256, 128 ≤ n → Escape.encodeByte (UInt8.ofNat n) = [UInt8.ofNat n] := by
    decide +kernel
  obtain ⟨b, small, form⟩ | large := Text.utf8EncodeChar_cases c
  · have escaped := ascii b.toNat small
    rw [UInt8.ofNat_toNat] at escaped
    rw [form]
    exact isUtf8_ascii (by simpa [Escape.encode] using escaped)
  · have kept : ∀ b ∈ String.utf8EncodeChar c, Escape.encodeByte b = [b] := by
      intro b mem
      simpa using beyond b.toNat b.toNat_lt (large b mem)
    rw [Escape.encode, List.flatMap_def, List.map_congr_left kept, ← List.flatMap_def,
      List.flatMap_singleton']
    exact ⟨String.ofList [c], by rw [Text.utf8_ofList, List.flatMap_singleton]⟩

theorem isUtf8_encode (text : String) : IsUtf8 (Escape.encode (Text.utf8 text)) := by
  rw [Text.utf8_eq_flatMap]
  induction text.toList with
  | nil => exact isUtf8_ascii (by simp [Escape.encode])
  | cons c rest ih =>
    rw [List.flatMap_cons, Escape.encode, List.flatMap_append]
    exact (isUtf8_encodeChar c).append ih

theorem isUtf8_quoted {written : Bytes} (h : IsUtf8 written) : IsUtf8 (quoted written) :=
  .cons (by decide) (h.append (isUtf8_ascii (by decide)))

theorem isUtf8_writeItems {items : List Json} (h : ∀ item ∈ items, IsUtf8 item.write) :
    IsUtf8 (writeItems items) := by
  induction items with
  | nil => exact isUtf8_ascii (by decide)
  | cons item rest ih =>
    have first := h item List.mem_cons_self
    have tail := ih fun i mem => h i (List.mem_cons_of_mem _ mem)
    cases rest with
    | nil => exact first.append tail
    | cons next more => exact first.append (tail.cons (by decide))

theorem isUtf8_writeMembers {members : List (Bytes × Json)} (named : ∀ m ∈ members, IsUtf8 m.1)
    (h : ∀ m ∈ members, IsUtf8 m.2.write) : IsUtf8 (writeMembers members) := by
  induction members with
  | nil => exact isUtf8_ascii (by decide)
  | cons m rest ih =>
    have name := isUtf8_quoted (named m List.mem_cons_self)
    have value := h m List.mem_cons_self
    have first := name.append (value.cons (b := 58) (by decide))
    have tail := ih (fun m mem => named m (List.mem_cons_of_mem _ mem))
      fun m mem => h m (List.mem_cons_of_mem _ mem)
    cases rest with
    | nil => exact first.append tail
    | cons next more => exact first.append (tail.cons (by decide))

theorem isUtf8_intDigits (n : Int) : IsUtf8 (intDigits n) := by
  have digits : (natDigits n.natAbs).all (· < 128) = true := by
    have small : ∀ k < 10, digit k < 128 := by decide
    simp only [List.all_eq_true, decide_eq_true_eq]
    intro b mem
    obtain ⟨k, hk, rfl⟩ := digit_of_mem_natDigits b mem
    exact small k hk
  unfold intDigits
  split
  · exact .cons (by decide) (isUtf8_ascii digits)
  · exact isUtf8_ascii digits

theorem isUtf8_write {j : Json} (h : Plain j) : IsUtf8 j.write := by
  induction h with
  | null => exact isUtf8_ascii (by decide)
  | bool value => cases value <;> exact isUtf8_ascii (by decide)
  | int n => exact isUtf8_intDigits n
  | string text => exact isUtf8_quoted (isUtf8_encode text)
  | array _ ih => exact .cons (by decide) (isUtf8_writeItems ih)
  | object named _ ih =>
    refine .cons (by decide) (isUtf8_writeMembers (fun m mem => ?_) ih)
    obtain ⟨text, name⟩ := named m mem
    rw [name]
    exact isUtf8_encode text

end Json

end Warrant
