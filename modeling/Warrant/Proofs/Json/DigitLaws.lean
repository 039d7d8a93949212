import Warrant.Json.Decode

namespace Warrant.Json

def digit (n : Nat) : UInt8 := UInt8.ofNat (48 + n)

theorem isDigit_digit : ∀ n < 10, Token.isDigit (digit n) = true := by decide

theorem toNat_digit : ∀ n < 10, (digit n).toNat = 48 + n := by decide

theorem natDigits_of_lt {n : Nat} (h : n < 10) : natDigits n = [digit n] := by
  have digits : ∀ n < 10, UInt8.ofNat n.digitChar.toNat = digit n := by decide
  simp [natDigits, Nat.toDigits_of_lt_base h, digits n h]

theorem natDigits_append {m k : Nat} (hm : 0 < m) (hk : k < 10) :
    natDigits (10 * m + k) = natDigits m ++ [digit k] := by
  rw [← natDigits_of_lt hk]
  simp [natDigits, ← Nat.toDigits_append_toDigits (by decide) hm hk]

theorem digit_of_mem_natDigits {n : Nat} : ∀ b ∈ natDigits n, ∃ k < 10, b = digit k := by
  induction n using Nat.base_induction 10 (by decide) with
  | single n hn => simpa [natDigits_of_lt hn] using ⟨n, hn, rfl⟩
  | digit m k hk hm ih =>
    intro b hb
    rw [natDigits_append hm hk, List.mem_append, List.mem_singleton] at hb
    obtain hb | rfl := hb
    · exact ih b hb
    · exact ⟨k, hk, rfl⟩

theorem isDigit_of_mem_natDigits {n : Nat} : ∀ b ∈ natDigits n, Token.isDigit b = true := by
  intro b hb
  obtain ⟨k, hk, rfl⟩ := digit_of_mem_natDigits b hb
  exact isDigit_digit k hk

theorem natOfDigits_natDigits (n : Nat) : natOfDigits (natDigits n) = n := by
  induction n using Nat.base_induction 10 (by decide) with
  | single n hn => simp [natDigits_of_lt hn, natOfDigits, toNat_digit n hn]
  | digit m k hk hm ih =>
    rw [natDigits_append hm hk, natOfDigits, List.foldl_append]
    change 10 * natOfDigits (natDigits m) + ((digit k).toNat - 48) = _
    rw [ih, toNat_digit k hk, Nat.add_sub_cancel_left]

theorem natDigits_eq_cons (n : Nat) : ∃ k ds, k < 10 ∧ natDigits n = digit k :: ds := by
  cases hd : natDigits n with
  | nil => simp [natDigits, Nat.toDigits_ne_nil] at hd
  | cons b ds =>
    obtain ⟨k, hk, rfl⟩ := digit_of_mem_natDigits b (hd ▸ List.mem_cons_self)
    exact ⟨k, ds, hk, rfl⟩

abbrev minus : UInt8 := 45

theorem digit_ne_minus : ∀ k < 10, digit k ≠ minus := by decide

theorem natDigits_ne_minus {n : Nat} (ds : Bytes) : natDigits n ≠ minus :: ds := by
  obtain ⟨k, tail, hk, hd⟩ := natDigits_eq_cons n
  simp [hd, digit_ne_minus k hk]

theorem intDigits_eq_cons (n : Int) :
    ∃ b ds, intDigits n = b :: ds ∧ (b = minus ∨ ∃ k < 10, b = digit k) := by
  unfold intDigits
  split
  · exact ⟨_, _, rfl, .inl rfl⟩
  · obtain ⟨k, ds, hk, hd⟩ := natDigits_eq_cons n.natAbs
    exact ⟨_, ds, hd, .inr ⟨k, hk, rfl⟩⟩

theorem head?_natDigits {n : Nat} (h : 0 < n) :
    ∃ k < 10, 0 < k ∧ (natDigits n).head? = some (digit k) := by
  induction n using Nat.base_induction 10 (by decide) with
  | single n hn => exact ⟨n, hn, h, by simp [natDigits_of_lt hn]⟩
  | digit m k hk hm ih =>
    obtain ⟨l, hl, pos, head⟩ := ih hm
    exact ⟨l, hl, pos, by simp [natDigits_append hm hk, head]⟩

/-- What may follow a value: the end of the text, a comma or a closing bracket. -/
def Closed (rest : Bytes) : Prop :=
  ∀ b ∈ rest.head?, b = 44 ∨ b = 93 ∨ b = 125

namespace Token

theorem digits_append {ds rest : Bytes} (h : ∀ b ∈ ds, isDigit b = true) (hr : Closed rest) :
    digits (ds ++ rest) = (ds, rest) := by
  have stop : ∀ b ∈ rest.head?, isDigit b = false := by
    intro b hb
    obtain rfl | rfl | rfl := hr b hb <;> rfl
  rw [digits, List.takeWhile_append_of_pos h, List.dropWhile_append_of_pos h]
  cases rest with
  | nil => simp
  | cons b rest => simp [stop b (by simp)]

theorem scanWhole_natDigits (n : Nat) {rest : Bytes} (hr : Closed rest) :
    scanWhole (natDigits n ++ rest) = some (natDigits n, rest) := by
  obtain rfl | pos := Nat.eq_zero_or_pos n
  · rfl
  · obtain ⟨k, hk, hpos, head⟩ := head?_natDigits pos
    cases hd : natDigits n with
    | nil => simp [hd] at head
    | cons b ds =>
      have all := isDigit_of_mem_natDigits (n := n)
      rw [hd] at all head
      obtain rfl : b = digit k := by simpa using head
      have nonzero : digit k ≠ 48 := by
        have : ∀ k < 10, 0 < k → digit k ≠ 48 := by decide
        exact this k hk hpos
      have tail := digits_append (fun c hc => all c (List.mem_cons_of_mem _ hc)) hr
      simp [scanWhole, isDigit_digit k hk, tail]

theorem scanFraction_of_closed {rest : Bytes} (hr : Closed rest) :
    scanFraction rest = some ([], rest) := by
  unfold scanFraction
  split
  · simp [Closed] at hr
  · rfl

theorem scanExponent_of_closed {rest : Bytes} (hr : Closed rest) :
    scanExponent rest = some ([], rest) := by
  unfold scanExponent
  split
  · next b _ =>
    obtain rfl | rfl | rfl := hr b (by simp) <;> rfl
  · rfl

theorem scanUnsigned_natDigits (n : Nat) {rest : Bytes} (hr : Closed rest) :
    scanUnsigned (natDigits n ++ rest) = some (natDigits n, rest) := by
  simp [scanUnsigned, scanWhole_natDigits n hr, scanFraction_of_closed hr,
    scanExponent_of_closed hr]

theorem scanNumber_intDigits (n : Int) {rest : Bytes} (hr : Closed rest) :
    scanNumber (intDigits n ++ rest) = some (intDigits n, rest) := by
  unfold intDigits
  split
  · simp [scanNumber, scanUnsigned_natDigits _ hr]
  · rw [scanNumber.eq_2, scanUnsigned_natDigits _ hr]
    intro ds h
    obtain ⟨k, tail, hk, hd⟩ := natDigits_eq_cons n.natAbs
    rw [hd, List.cons_append] at h
    exact digit_ne_minus k hk (List.cons.inj h).1

end Token

theorem int?_ofInt (n : Int) : (ofInt n).int? = some n := by
  have all := List.all_eq_true.2 (isDigit_of_mem_natDigits (n := n.natAbs))
  have back := natOfDigits_natDigits n.natAbs
  unfold ofInt intDigits
  split
  · next negative =>
    have nonzero : natDigits n.natAbs ≠ [48] := by
      intro h
      rw [h] at back
      change 0 = n.natAbs at back
      omega
    rw [int?, if_pos (by simp [all, nonzero]), back]
    exact congrArg some (by omega)
  · rw [int?.eq_2, if_pos all, back]
    · exact congrArg some (by omega)
    · exact fun ds h => natDigits_ne_minus ds h

@[simp] theorem int64?_ofInt64 (n : Int64) : (ofInt64 n).int64? = some n := by
  simp [int64?, ofInt64, int?_ofInt]

@[simp] theorem uint64?_ofUInt64 (n : UInt64) : (ofUInt64 n).uint64? = some n := by
  have range : (0 : Int) ≤ n.toNat ∧ (n.toNat : Int).toNat < UInt64.size :=
    ⟨Int.natCast_nonneg _, n.toNat_lt⟩
  simp only [uint64?, ofUInt64, int?_ofInt, Option.bind_eq_bind, Option.bind_some]
  rw [if_pos range, Int.toNat_natCast, UInt64.ofNat_toNat]

end Warrant.Json
