import Warrant.Text.Utf8

namespace Warrant.Text

theorem utf8_ofList (chars : List Char) :
    utf8 (String.ofList chars) = chars.flatMap String.utf8EncodeChar := by
  simp [utf8, List.utf8Encode]

theorem utf8_eq_flatMap (text : String) :
    utf8 text = text.toList.flatMap String.utf8EncodeChar := by
  rw [← utf8_ofList, String.ofList_toList]

@[simp] theorem utf8_append (text more : String) :
    utf8 (text ++ more) = utf8 text ++ utf8 more := by
  simp [utf8]

@[simp] theorem ofUtf8?_utf8 (text : String) : ofUtf8? (utf8 text) = some text := by
  simp only [ofUtf8?, utf8, Array.toArray_toList, String.toUTF8_eq_toByteArray, String.fromUTF8?,
    dif_pos text.isValidUTF8]
  rfl

theorem utf8_of_ofUtf8? {bytes : Bytes} {text : String} (h : ofUtf8? bytes = some text) :
    utf8 text = bytes := by
  simp only [ofUtf8?, String.fromUTF8?, Option.dite_none_right_eq_some, Option.some.injEq] at h
  obtain ⟨valid, rfl⟩ := h
  rfl

theorem utf8EncodeChar_ascii {b : UInt8} (h : b < 128) :
    String.utf8EncodeChar (Char.ofNat b.toNat) = [b] := by
  have ascii : ∀ n < 128, String.utf8EncodeChar (Char.ofNat n) = [UInt8.ofNat n] := by decide
  rw [ascii b.toNat h, UInt8.ofNat_toNat]

def ofAscii (bytes : Bytes) : String :=
  String.ofList (bytes.map fun b => Char.ofNat b.toNat)

theorem utf8_ofAscii {bytes : Bytes} (h : ∀ b ∈ bytes, b < 128) : utf8 (ofAscii bytes) = bytes := by
  rw [ofAscii, utf8_ofList]
  induction bytes with
  | nil => rfl
  | cons b rest ih =>
    rw [List.map_cons, List.flatMap_cons, utf8EncodeChar_ascii (h b List.mem_cons_self),
      ih fun c hc => h c (List.mem_cons_of_mem b hc)]
    rfl

/-! ### The lossy reading -/

abbrev Allows (lead second : UInt8) : Prop :=
  (secondRange lead).1 ≤ second ∧ second ≤ (secondRange lead).2

theorem continued_form {lead second : UInt8} (more : Bytes)
    (length : formLength lead = more.length + 2) (next : Allows lead second)
    (trail : ∀ b ∈ more, (0x80 ≤ b && b ≤ 0xBF) = true) (rest : Bytes) :
    continued lead (second :: more ++ rest) = more.length + 1 := by
  have form : (second :: more ++ rest).take (formLength lead - 1) = second :: more := by
    simp [length]
  have all : more.takeWhile (fun b => 0x80 ≤ b && b ≤ 0xBF) = more := by
    have taken : (more ++ []).takeWhile _ = more ++ _ := List.takeWhile_append_of_pos trail
    simpa using taken
  rw [continued, form]
  simp only [if_pos (show _ ∧ _ from next), all, Nat.add_comm]

/-! The bytes of the forms: six bits in each but the first. -/

theorem trail_ofNat : ∀ n < 64,
    (0x80 ≤ UInt8.ofNat (n + 128) && UInt8.ofNat (n + 128) ≤ 0xBF) = true := by decide

theorem formLength_one : ∀ n < 128, formLength (UInt8.ofNat n) = 1 := by decide

theorem formLength_two : ∀ n < 32, 2 ≤ n → formLength (UInt8.ofNat (n + 192)) = 2 := by decide

theorem formLength_three : ∀ n < 16, formLength (UInt8.ofNat (n + 224)) = 3 := by decide

theorem formLength_four : ∀ n < 5, formLength (UInt8.ofNat (n + 240)) = 4 := by decide

theorem allows_two : ∀ n < 32, ∀ m < 64,
    Allows (UInt8.ofNat (n + 192)) (UInt8.ofNat (m + 128)) := by decide +kernel

theorem allows_three : ∀ n < 16, ∀ m < 64, (n = 0 → 32 ≤ m) → (n = 13 → m < 32) →
    Allows (UInt8.ofNat (n + 224)) (UInt8.ofNat (m + 128)) := by decide +kernel

theorem allows_four : ∀ n < 5, ∀ m < 64, (n = 0 → 16 ≤ m) → (n = 4 → m < 16) →
    Allows (UInt8.ofNat (n + 240)) (UInt8.ofNat (m + 128)) := by decide +kernel

theorem continued_utf8EncodeChar (c : Char) (rest : Bytes) :
    ∃ lead tail, String.utf8EncodeChar c = lead :: tail ∧
      formLength lead = tail.length + 1 ∧ continued lead (tail ++ rest) = tail.length := by
  have scalar : c.val.toNat < 0xD800 ∨ 0xDFFF < c.val.toNat ∧ c.val.toNat < 0x110000 := c.valid
  unfold String.utf8EncodeChar
  generalize c.val.toNat = v at scalar
  -- The lead bytes of three and four bytes leave no room for overlong forms and surrogates.
  have low : v % 64 < 64 := Nat.mod_lt _ (by decide)
  have middle : v / 64 % 64 < 64 := Nat.mod_lt _ (by decide)
  dsimp only
  split
  · have one := formLength_one v (by omega)
    exact ⟨_, [], rfl, one, by simp [continued, one]⟩
  split
  · have two := formLength_two (v / 64 % 32) (by omega) (by omega)
    have next := allows_two (v / 64 % 32) (by omega) (v % 64) low
    exact ⟨_, _, rfl, two, continued_form [] two next (by simp) rest⟩
  split
  · have three := formLength_three (v / 4096 % 16) (by omega)
    have next := allows_three (v / 4096 % 16) (by omega) (v / 64 % 64) middle (by omega) (by omega)
    refine ⟨_, _, rfl, three, continued_form [_] three next ?_ rest⟩
    simpa using trail_ofNat (v % 64) low
  · have four := formLength_four (v / 262144 % 8) (by omega)
    have next := allows_four (v / 262144 % 8) (by omega) (v / 4096 % 64) (by omega) (by omega)
      (by omega)
    refine ⟨_, _, rfl, four, continued_form [_, _] four next ?_ rest⟩
    simpa using And.intro (trail_ofNat (v / 64 % 64) middle) (trail_ofNat (v % 64) low)

theorem repaired_flatMap (chars : List Char) :
    repaired (chars.flatMap String.utf8EncodeChar) = chars.flatMap String.utf8EncodeChar := by
  induction chars with
  | nil => rw [List.flatMap_nil, repaired]
  | cons c rest ih =>
    obtain ⟨lead, tail, form, length, all⟩ :=
      continued_utf8EncodeChar c (rest.flatMap String.utf8EncodeChar)
    rw [List.flatMap_cons, form, List.cons_append, repaired, if_pos (by rw [length, all]), all,
      List.take_left, List.drop_left, ih]
    rfl

@[simp] theorem ofUtf8Lossy_utf8 (text : String) : ofUtf8Lossy (utf8 text) = text := by
  have whole : repaired (utf8 text) = utf8 text := by
    rw [utf8_eq_flatMap, repaired_flatMap]
  rw [ofUtf8Lossy, whole, ofUtf8?_utf8, Option.getD_some]

end Warrant.Text
