import Warrant.Base64
import Warrant.Proofs.Text.Utf8Laws

namespace Warrant

theorem Except.bind_eq_ok_iff {ε α β : Type} {x : Except ε α} {f : α → Except ε β} {b : β} :
    x >>= f = .ok b ↔ ∃ a, x = .ok a ∧ f a = .ok b := by
  cases x with
  | error e => exact ⟨nofun, nofun⟩
  | ok a =>
    constructor
    · intro h
      exact ⟨a, rfl, h⟩
    · rintro ⟨_, ⟨⟩, h⟩
      exact h

namespace Base64

theorem value?_symbol : ∀ n < 64, value? (symbol n) = some n := by decide

theorem symbol_ne_pad : ∀ n < 64, symbol n ≠ pad := by decide

theorem symbol_lt : ∀ n < 64, symbol n < 128 := by decide

theorem read_symbol {n : Nat} (h : n < 64) (offset : Nat) : read (symbol n) offset = .ok n := by
  simp [read, value?_symbol n h]

theorem readGroup_symbol {n : Nat} (h : n < 64) (start : Nat) (rest : Bytes) (symbols : List Nat) :
    readGroup start (symbol n :: rest) symbols none =
      readGroup start rest (symbols ++ [n]) none := by
  rw [readGroup, if_neg (symbol_ne_pad n h), read_symbol h]
  rfl

/-! The numbers of the four symbols that three bytes become, and the bytes that come of them. -/

theorem first_lt (a : UInt8) : a.toNat / 4 < 64 := by
  have := a.toNat_lt
  omega

theorem second_lt (a b : UInt8) : a.toNat % 4 * 16 + b.toNat / 16 < 64 := by
  have := b.toNat_lt
  omega

theorem third_lt (b c : UInt8) : b.toNat % 16 * 4 + c.toNat / 64 < 64 := by
  have := c.toNat_lt
  omega

theorem fourth_lt (c : UInt8) : c.toNat % 64 < 64 := Nat.mod_lt _ (by decide)

theorem ofNat_first (a b : UInt8) :
    UInt8.ofNat (a.toNat / 4 * 4 + (a.toNat % 4 * 16 + b.toNat / 16) / 16) = a := by
  have := b.toNat_lt
  rw [show a.toNat / 4 * 4 + (a.toNat % 4 * 16 + b.toNat / 16) / 16 = a.toNat by omega,
    UInt8.ofNat_toNat]

theorem ofNat_second (a b c : UInt8) :
    UInt8.ofNat ((a.toNat % 4 * 16 + b.toNat / 16) % 16 * 16 +
      (b.toNat % 16 * 4 + c.toNat / 64) / 4) = b := by
  have := b.toNat_lt
  have := c.toNat_lt
  rw [show (a.toNat % 4 * 16 + b.toNat / 16) % 16 * 16 +
    (b.toNat % 16 * 4 + c.toNat / 64) / 4 = b.toNat by omega, UInt8.ofNat_toNat]

theorem ofNat_third (b c : UInt8) :
    UInt8.ofNat ((b.toNat % 16 * 4 + c.toNat / 64) % 4 * 64 + c.toNat % 64) = c := by
  have := c.toNat_lt
  rw [show (b.toNat % 16 * 4 + c.toNat / 64) % 4 * 64 + c.toNat % 64 = c.toNat by omega,
    UInt8.ofNat_toNat]

theorem decodeLast_one (start : Nat) (a : UInt8) : decodeLast start (encode [a]) = .ok [a] := by
  have group : readGroup start (encode [a]) [] none = .ok [a.toNat / 4, a.toNat % 4 * 16] := by
    have second : a.toNat % 4 * 16 < 64 := second_lt a 0
    rw [encode, readGroup_symbol (first_lt a), readGroup_symbol second]
    rfl
  simp only [decodeLast, group, bind, Except.bind]
  rw [if_neg (by simp [encode]), if_neg (by omega)]
  have first : UInt8.ofNat (a.toNat / 4 * 4 + a.toNat % 4 * 16 / 16) = a := ofNat_first a 0
  rw [first]

theorem decodeLast_two (start : Nat) (a b : UInt8) :
    decodeLast start (encode [a, b]) = .ok [a, b] := by
  have group : readGroup start (encode [a, b]) [] none =
      .ok [a.toNat / 4, a.toNat % 4 * 16 + b.toNat / 16, b.toNat % 16 * 4] := by
    have third : b.toNat % 16 * 4 < 64 := third_lt b 0
    rw [encode, readGroup_symbol (first_lt a), readGroup_symbol (second_lt a b),
      readGroup_symbol third]
    rfl
  simp only [decodeLast, group, bind, Except.bind]
  rw [if_neg (by simp [encode]), if_neg (by omega)]
  have second : UInt8.ofNat ((a.toNat % 4 * 16 + b.toNat / 16) % 16 * 16 +
      b.toNat % 16 * 4 / 4) = b := ofNat_second a b 0
  rw [ofNat_first, second]

theorem decodeLast_three (start : Nat) (a b c : UInt8) :
    decodeLast start (encode [a, b, c]) = .ok [a, b, c] := by
  have group : readGroup start (encode [a, b, c]) [] none =
      .ok [a.toNat / 4, a.toNat % 4 * 16 + b.toNat / 16, b.toNat % 16 * 4 + c.toNat / 64,
        c.toNat % 64] := by
    rw [encode, readGroup_symbol (first_lt a), readGroup_symbol (second_lt a b),
      readGroup_symbol (third_lt b c), readGroup_symbol (fourth_lt c)]
    rfl
  simp only [decodeLast, group, bind, Except.bind]
  rw [ofNat_first, ofNat_second, ofNat_third]

theorem decodeFrom_encode (start : Nat) (bytes : Bytes) :
    decodeFrom start (encode bytes) = .ok bytes := by
  induction bytes using encode.induct generalizing start with
  | case1 => rfl
  | case2 a => exact decodeLast_one start a
  | case3 a b => exact decodeLast_two start a b
  | case4 a b c rest ih =>
    specialize ih (start + 4)
    -- The last group is read by other rules, and it is the last if nothing is left to write.
    cases h : encode rest with
    | nil =>
      have empty : rest = [] := by simpa [h, decodeFrom, eq_comm] using ih
      subst empty
      exact decodeLast_three start a b c
    | cons s symbols =>
      rw [h] at ih
      rw [encode, h, decodeFrom, read_symbol (first_lt a), read_symbol (second_lt a b),
        read_symbol (third_lt b c), read_symbol (fourth_lt c), ih]
      change Except.ok (_ :: _ :: _ :: rest) = _
      rw [ofNat_first, ofNat_second, ofNat_third]

theorem length_encode (bytes : Bytes) : (encode bytes).length % 4 = 0 := by
  induction bytes using encode.induct with
  | case1 => rfl
  | case2 a => simp [encode]
  | case3 a b => simp [encode]
  | case4 a b c rest ih =>
    simp only [encode, List.length_cons]
    omega

theorem decode_encode (bytes : Bytes) : decode (encode bytes) = .ok bytes := by
  have whole := length_encode bytes
  unfold decode
  split
  · rw [if_neg (by omega)]
    exact decodeFrom_encode 0 bytes
  · next h =>
    have empty := decodeFrom_encode 0 bytes
    rwa [List.getLast?_eq_none_iff.1 h] at empty

theorem symbol_of_mem_encode {bytes : Bytes} {s : UInt8} (h : s ∈ encode bytes) :
    s = pad ∨ ∃ n < 64, s = symbol n := by
  induction bytes using encode.induct with
  | case1 => simp [encode] at h
  | case2 a =>
    simp only [encode, List.mem_cons, List.not_mem_nil, or_false] at h
    rcases h with rfl | rfl | rfl | rfl
    · exact .inr ⟨_, first_lt a, rfl⟩
    · exact .inr ⟨_, second_lt a 0, rfl⟩
    · exact .inl rfl
    · exact .inl rfl
  | case3 a b =>
    simp only [encode, List.mem_cons, List.not_mem_nil, or_false] at h
    rcases h with rfl | rfl | rfl | rfl
    · exact .inr ⟨_, first_lt a, rfl⟩
    · exact .inr ⟨_, second_lt a b, rfl⟩
    · exact .inr ⟨_, third_lt b 0, rfl⟩
    · exact .inl rfl
  | case4 a b c rest ih =>
    simp only [encode, List.mem_cons] at h
    rcases h with rfl | rfl | rfl | rfl | h
    · exact .inr ⟨_, first_lt a, rfl⟩
    · exact .inr ⟨_, second_lt a b, rfl⟩
    · exact .inr ⟨_, third_lt b c, rfl⟩
    · exact .inr ⟨_, fourth_lt c, rfl⟩
    · exact ih h

theorem lt_of_mem_encode {bytes : Bytes} {s : UInt8} (h : s ∈ encode bytes) : s < 128 := by
  obtain rfl | ⟨n, hn, rfl⟩ := symbol_of_mem_encode h
  · decide
  · exact symbol_lt n hn

@[simp] theorem utf8_encodeText (bytes : Bytes) : Text.utf8 (encodeText bytes) = encode bytes :=
  Text.utf8_ofAscii fun _ h => lt_of_mem_encode h

@[simp] theorem decodeText_encodeText (bytes : Bytes) :
    decodeText (encodeText bytes) = .ok bytes := by
  rw [decodeText, utf8_encodeText, decode_encode]

/-! ### How long -/

theorem length_readGroup {start : Nat} {group : Bytes} {symbols read : List Nat}
    {padding : Option Nat} (h : readGroup start group symbols padding = .ok read) :
    read.length ≤ symbols.length + group.length := by
  fun_induction readGroup start group symbols padding with
  | case1 => cases h; simp
  | case2 _ _ _ ih =>
    have fewer := ih h
    simp only [List.length_cons]
    omega
  | case3 => contradiction
  | case4 => contradiction
  | case5 _ _ _ ih =>
    have fewer := ih h
    simp only [List.length_cons]
    omega
  | case6 _ _ _ _ ih =>
    obtain ⟨n, -, rest⟩ := Except.bind_eq_ok_iff.1 h
    have fewer := ih n rest
    simp only [List.length_append, List.length_cons, List.length_nil] at fewer ⊢
    omega

theorem length_decodeLast {start : Nat} {group bytes : Bytes}
    (h : decodeLast start group = .ok bytes) : 4 * bytes.length ≤ 3 * group.length := by
  obtain ⟨symbols, read, h⟩ := Except.bind_eq_ok_iff.1 h
  have enough := length_readGroup read
  suffices 4 * bytes.length ≤ 3 * symbols.length by
    rw [List.length_nil] at enough
    omega
  split at h
  · split at h <;> try contradiction
    split at h <;> try contradiction
    cases h
    simp
  · split at h <;> try contradiction
    split at h <;> try contradiction
    cases h
    simp
  · cases h
    simp
  · contradiction

theorem length_decodeFrom {start : Nat} {text bytes : Bytes}
    (h : decodeFrom start text = .ok bytes) : 4 * bytes.length ≤ 3 * text.length := by
  fun_induction decodeFrom start text generalizing bytes with
  | case1 => cases h; simp
  | case2 start a b c d e rest ih =>
    simp only [Except.bind_eq_ok_iff] at h
    obtain ⟨v, -, w, -, x, -, y, -, tail, read, ⟨⟩⟩ := h
    have longer := ih read
    simp only [List.length_cons] at longer ⊢
    omega
  | case3 start group => exact length_decodeLast h

theorem length_decode {text bytes : Bytes} (h : decode text = .ok bytes) :
    4 * bytes.length ≤ 3 * text.length := by
  unfold decode at h
  split at h
  · split at h
    · contradiction
    · exact length_decodeFrom h
  · cases h
    simp

end Base64

end Warrant
