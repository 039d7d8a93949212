import Warrant.Proofs.Disable.CheckLaws
import Warrant.Proofs.Json.ExtentLaws
import Mathlib.Data.List.Flatten

namespace Warrant

theorem Text.utf8_trimBy_sublist (drop : Char → Bool) (text : String) :
    (utf8 (trimBy drop text)).Sublist (utf8 text) := by
  rw [trimBy, utf8_ofList, utf8_eq_flatMap]
  refine List.Sublist.flatMap ?_ _
  have front := List.dropWhile_sublist (l := text.toList) drop
  have back := List.dropWhile_sublist (l := (text.toList.dropWhile drop).reverse) drop
  rw [← List.reverse_sublist, List.reverse_reverse] at back
  exact back.trans front

theorem Record.length_unmarshal {α : Type} [Record α] {token : String} {a : α}
    (h : unmarshal token = .ok a) :
    ∃ j, ofJson? j = some a ∧ 4 * j.write.length ≤ 3 * token.utf8ByteSize := by
  unfold unmarshal at h
  split at h
  · contradiction
  · next bytes decoded =>
    split at h
    · next read =>
      cases h
      obtain ⟨j, read, ofJson⟩ := Option.bind_eq_some_iff.1 read
      refine ⟨j, ofJson, ?_⟩
      have symbols : 4 * bytes.length ≤ 3 * (Text.utf8 (Text.trim token)).length :=
        Base64.length_decode decoded
      have trimmed : (Text.utf8 (Text.trim token)).length ≤ token.utf8ByteSize :=
        (Text.utf8_trimBy_sublist Text.isBlank token).length_le
      have compact := (Json.write_sublist_of_read? read).length_le
      omega
    · contradiction

namespace DisableMessage

theorem length_signature {j : Json} {m : DisableMessage} (h : ofJson? j = some m) :
    m.signature = [] ∨ 4 * m.signature.length + 6 ≤ 3 * j.write.length := by
  simp only [ofJson?, Option.bind_eq_bind, Option.bind_eq_some_iff] at h
  obtain ⟨fields, read, h⟩ := h
  split at h
  · next createdAt expiresAt isDisabled signature =>
    simp only [Option.bind_eq_some_iff, Option.pure_def, Option.some.injEq] at h
    obtain ⟨_, -, _, -, _, -, bytes, signed, rfl⟩ := h
    cases signature with
    | none =>
      cases signed
      exact .inl rfl
    | some field =>
      have written := Json.length_of_bytes? signed
      have mem : some field ∈ [createdAt, expiresAt, isDisabled, some field] := by simp
      have within := (Json.write_sublist_of_record? read mem).length_le
      refine .inr ?_
      change 4 * bytes.length + 6 ≤ _
      omega
  · contradiction

theorem length_of_unmarshal {text : String} {m : DisableMessage}
    (h : Record.unmarshal text = .ok m) (signed : m.signature.length = 64) :
    118 ≤ text.utf8ByteSize := by
  obtain ⟨j, ofJson, longer⟩ := Record.length_unmarshal h
  obtain unsigned | written := length_signature ofJson
  · simp [unsigned] at signed
  · omega

theorem length_of_validate [Scheme] {m : DisableMessage} {key : PublicKey} {now : Int64}
    (h : m.validate key now = .ok ()) : m.signature.length = 64 := by
  unfold validate at h
  split at h
  · cases h
  split at h
  · cases h
  split at h
  · cases h
  split at h
  · cases h
  · next signed =>
    rw [Bool.not_eq_true, Bool.not_eq_false', Signed.isSignedBy, PublicKey.verifies,
      Bool.and_eq_true] at signed
    exact beq_iff_eq.1 signed.1

end DisableMessage

namespace DisableMonitor

theorem length_of_accepts [Scheme] {text : String} {key : PublicKey} {now : Int64}
    (h : accepts text key now = true) : shortestRecord ≤ text.utf8ByteSize := by
  unfold accepts at h
  split at h
  · next message read =>
    split at h
    · next valid =>
      have long := DisableMessage.length_of_unmarshal read (DisableMessage.length_of_validate valid)
      exact Nat.le_trans (by decide) long
    · contradiction
  · contradiction

/-- Whoever's key it is, and whenever it is read: a short record may be a message, but none with a
whole signature. So nothing that is left out of a lookup would be accepted. -/
theorem short_records_unsigned [Scheme] :
    (∀ text, text.utf8ByteSize < shortestRecord → ∀ message : DisableMessage,
      Record.unmarshal text = .ok message →
        message.signature.length ≠ 64 ∧ ∀ key now, message.validate key now ≠ .ok ()) ∧
    ∀ (m : DisableMonitor) records key now,
      (∃ text, m.record? records key = some text ∧ accepts text key now = true) ↔
        ∃ text more, records (DisableMessage.recordName key m.domain) = some (text :: more) ∧
          accepts text key now = true := by
  refine ⟨fun text short message read => ?_, fun m records key now => ?_⟩
  · have unsigned : message.signature.length ≠ 64 := by
      intro signed
      have long := DisableMessage.length_of_unmarshal read signed
      rw [shortestRecord] at short
      omega
    exact ⟨unsigned, fun key now valid => unsigned (DisableMessage.length_of_validate valid)⟩
  · simp only [record?_eq_some_iff]
    constructor
    · rintro ⟨text, ⟨more, found, -⟩, accepted⟩
      exact ⟨text, more, found, accepted⟩
    · rintro ⟨text, more, found, accepted⟩
      exact ⟨text, ⟨more, found, length_of_accepts accepted⟩, accepted⟩

theorem short_records_unsigned_in_force :
    let message : DisableMessage := ⟨1, 2, true, []⟩
    let text := Record.marshal message
    text.utf8ByteSize < shortestRecord ∧ Record.unmarshal text = .ok message ∧
      message.IsInForce 1 ∧ message.signature.length ≠ 64 ∧
        message.validate .ofTwos 1 ≠ .ok () := by
  intro message text
  have short : text.utf8ByteSize < shortestRecord := by decide +kernel
  have read : Record.unmarshal text = .ok message :=
    DisableMessage.codec.travels.unmarshal_alone message
  obtain ⟨unsigned, refused⟩ := short_records_unsigned.1 text short message read
  exact ⟨short, read, ⟨by decide, by decide, by decide⟩, unsigned, refused .ofTwos 1⟩

end DisableMonitor

end Warrant
