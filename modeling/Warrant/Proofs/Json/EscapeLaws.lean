import Warrant.Json.Token
import Warrant.Proofs.Text.Utf8Laws

namespace Warrant.Json

namespace Escape

theorem hex4?_control : ∀ n < 32, hex4? 48 48 (if UInt8.ofNat n < 16 then 48 else 49)
    (if UInt8.ofNat n % 16 < 10 then 48 + UInt8.ofNat n % 16 else 87 + UInt8.ofNat n % 16) =
      some n := by decide

theorem encodeByte_cases (b : UInt8) :
    (∃ c, c ≠ 117 ∧ letter? c = some b ∧ encodeByte b = [92, c]) ∨
    (∃ x y, b < 32 ∧ hex4? 48 48 x y = some b.toNat ∧ encodeByte b = [92, 117, 48, 48, x, y]) ∨
    (b ≠ 34 ∧ b ≠ 92 ∧ ¬b < 32 ∧ encodeByte b = [b]) := by
  by_cases lettered : b ∈ [34, 92, 8, 9, 10, 12, 13]
  · simp only [List.mem_cons, List.not_mem_nil, or_false] at lettered
    rcases lettered with rfl | rfl | rfl | rfl | rfl | rfl | rfl
    · exact .inl ⟨34, by decide, rfl, rfl⟩
    · exact .inl ⟨92, by decide, rfl, rfl⟩
    · exact .inl ⟨98, by decide, rfl, rfl⟩
    · exact .inl ⟨116, by decide, rfl, rfl⟩
    · exact .inl ⟨110, by decide, rfl, rfl⟩
    · exact .inl ⟨102, by decide, rfl, rfl⟩
    · exact .inl ⟨114, by decide, rfl, rfl⟩
  · simp only [List.mem_cons, List.not_mem_nil, or_false, not_or] at lettered
    obtain ⟨h₁, h₂, h₃, h₄, h₅, h₆, h₇⟩ := lettered
    by_cases control : b < 32
    · have digits := hex4?_control b.toNat control
      rw [UInt8.ofNat_toNat] at digits
      refine .inr (.inl ⟨_, _, control, digits, ?_⟩)
      simp only [encodeByte, h₁, h₂, h₃, h₄, h₅, h₆, h₇, control, if_true, if_false]
    · refine .inr (.inr ⟨h₁, h₂, control, ?_⟩)
      simp only [encodeByte, h₁, h₂, h₃, h₄, h₅, h₆, h₇, control, if_false]

theorem codePoint_control {b : UInt8} (h : b < 32) : codePoint b.toNat = [b] :=
  Text.utf8EncodeChar_ascii (UInt8.lt_trans h (by decide))

theorem decode?_encodeByte (b : UInt8) (rest : Bytes) :
    decode? (encodeByte b ++ rest) = (decode? rest).map (b :: ·) := by
  rcases encodeByte_cases b with ⟨c, hc, letter, e⟩ | ⟨x, y, hb, digits, e⟩ | ⟨h₁, h₂, h₃, e⟩
  · simp [e, decode?, hc, letter]
  · have hn : b.toNat < 32 := hb
    have high : isHighSurrogate b.toNat = false := by simp [isHighSurrogate]; omega
    have low : isLowSurrogate b.toNat = false := by simp [isLowSurrogate]; omega
    simp [e, decode?, digits, high, low, codePoint_control hb]
  · simp [e, decode?, h₁, h₂, h₃]

@[simp] theorem decode?_encode (bytes : Bytes) : decode? (encode bytes) = some bytes := by
  induction bytes with
  | nil => rfl
  | cons b rest ih =>
    rw [encode, List.flatMap_cons, decode?_encodeByte]
    change (decode? (encode rest)).map _ = _
    rw [ih]
    rfl

theorem length_codePoint (n : Nat) : (codePoint n).length ≤ 4 := by
  rw [codePoint, String.length_utf8EncodeChar]
  exact Char.utf8Size_le_four _

theorem length_decode? {written bytes : Bytes} (h : decode? written = some bytes) :
    bytes.length ≤ written.length := by
  fun_induction decode? written generalizing bytes with
  | case1 => cases h; simp
  | case4 _ _ _ _ n _ _ _ _ _ _ _ m _ _ ih =>
    obtain ⟨tail, read, rfl⟩ := Option.map_eq_some_iff.1 h
    have form := length_codePoint (0x10000 + (n - 0xD800) * 0x400 + (m - 0xDC00))
    have shorter := ih read
    simp only [List.length_append, List.length_cons]
    omega
  | case8 _ _ _ _ _ n _ _ _ ih =>
    obtain ⟨tail, read, rfl⟩ := Option.map_eq_some_iff.1 h
    have form := length_codePoint n
    have shorter := ih read
    simp only [List.length_append, List.length_cons]
    omega
  | case9 _ _ _ _ _ ih =>
    obtain ⟨tail, read, rfl⟩ := Option.map_eq_some_iff.1 h
    have shorter := ih read
    simp only [List.length_cons]
    omega
  | case12 _ _ _ _ _ ih =>
    obtain ⟨tail, read, rfl⟩ := Option.map_eq_some_iff.1 h
    have shorter := ih read
    simp only [List.length_cons]
    omega
  | _ => contradiction

@[simp] theorem text?_encode_utf8 (text : String) :
    text? (encode (Text.utf8 text)) = some text := by
  simp [text?]

end Escape

namespace Token

theorem scanString_encodeByte (read : Bytes) (b : UInt8) (rest : Bytes) :
    scanString read (Escape.encodeByte b ++ rest) =
      scanString ((Escape.encodeByte b).reverse ++ read) rest := by
  rcases Escape.encodeByte_cases b with
    ⟨c, hc, letter, e⟩ | ⟨x, y, -, digits, e⟩ | ⟨h₁, h₂, h₃, e⟩
  · simp [e, scanString, hc, letter]
  · simp [e, scanString, digits]
  · simp [e, scanString, h₂, h₃]

theorem scanString_encode (read bytes rest : Bytes) :
    scanString read (Escape.encode bytes ++ quote :: rest) =
      some (read.reverse ++ Escape.encode bytes, rest) := by
  induction bytes generalizing read with
  | nil => simp [Escape.encode, scanString]
  | cons b bytes ih =>
    rw [Escape.encode, List.flatMap_cons, List.append_assoc, scanString_encodeByte]
    change scanString _ (Escape.encode bytes ++ _) = _
    rw [ih]
    simp [Escape.encode]

end Token

end Warrant.Json
