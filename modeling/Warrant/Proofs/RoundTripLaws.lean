import Warrant.Proofs.Json.TextLaws
import Warrant.Proofs.PayloadLaws

namespace Warrant

namespace Text

theorem dropWhile_kept {drop : Char → Bool} {chars : List Char}
    (kept : ∀ c ∈ chars, drop c = false) : chars.dropWhile drop = chars := by
  cases chars with
  | nil => rfl
  | cons c rest => rw [List.dropWhile_cons_of_neg (by simp [kept c List.mem_cons_self])]

theorem trimBy_surrounded {drop : Char → Bool} {before text after : String}
    (front : ∀ c ∈ before.toList, drop c = true) (back : ∀ c ∈ after.toList, drop c = true)
    (kept : ∀ c ∈ text.toList, drop c = false) :
    trimBy drop (before ++ text ++ after) = text := by
  have behind : ∀ c ∈ after.toList.reverse, drop c = true := by simpa using back
  have reversed : ∀ c ∈ text.toList.reverse, drop c = false := by simpa using kept
  rw [trimBy, String.toList_append, String.toList_append, List.append_assoc,
    List.dropWhile_append_of_pos front, List.dropWhile_append,
    dropWhile_kept kept]
  split
  · next nothing =>
    have gone : (after.toList ++ []).dropWhile drop = [] := List.dropWhile_append_of_pos back
    rw [List.append_nil] at gone
    rw [gone]
    exact String.toList_inj.1 (List.isEmpty_iff.1 nothing).symm
  · rw [List.reverse_append, List.dropWhile_append_of_pos behind, dropWhile_kept reversed,
      List.reverse_reverse, String.ofList_toList]

end Text

namespace Base64

theorem isBlank_symbol : ∀ n < 64, Text.isBlank (Char.ofNat (symbol n).toNat) = false := by decide

theorem isBlank_of_mem_encodeText {bytes : Bytes} :
    ∀ c ∈ (encodeText bytes).toList, Text.isBlank c = false := by
  intro c mem
  rw [encodeText, String.toList_ofList] at mem
  obtain ⟨s, written, rfl⟩ := List.mem_map.1 mem
  obtain rfl | ⟨n, small, rfl⟩ := symbol_of_mem_encode written
  · decide
  · exact isBlank_symbol n small

theorem trim_encodeText (bytes : Bytes) (before after : String)
    (front : ∀ c ∈ before.toList, Text.isBlank c = true)
    (back : ∀ c ∈ after.toList, Text.isBlank c = true) :
    Text.trim (before ++ encodeText bytes ++ after) = encodeText bytes :=
  Text.trimBy_surrounded front back isBlank_of_mem_encodeText

end Base64

namespace Json

@[simp] theorem isSome_valueUnless (omitted : Bool) (value : Json) :
    (valueUnless omitted value).isSome = !omitted := by
  cases omitted <;> rfl

theorem mentions_ofFields {j : Json} {fields : Fields} (h : j = ofFields fields) (name : String) :
    j.mentions name = fields.any fun f => f.2.isSome && f.1 == name := by
  rw [← mentions_of_eq .asMade h, arrange_asMade]

end Json

structure Travels (α : Type) [Record α] : Prop where
  utf8_text (a : α) : Text.utf8 (Record.text a) = Record.bytes a
  ofBytes?_bytes (a : α) : Record.ofBytes? (Record.bytes a) = some a
  marshal_ne_empty (a : α) : Record.marshal a ≠ ""
  unmarshal_marshal (a : α) (before after : String) :
    (∀ c ∈ before.toList, Text.isBlank c = true) → (∀ c ∈ after.toList, Text.isBlank c = true) →
      Record.unmarshal (before ++ Record.marshal a ++ after) = .ok a

theorem Travels.unmarshal_alone {α : Type} [Record α] (h : Travels α) (a : α) :
    Record.unmarshal (Record.marshal a) = .ok a := by
  have read := h.unmarshal_marshal a "" "" (by simp) (by simp)
  rwa [String.empty_append, String.append_empty] at read

namespace Record

variable {α : Type} [Record α]

open Json

theorem ofBytes?_bytes (c : Codec (toJson (α := α)) ofJson?) (a : α) :
    ofBytes? (bytes a) = some a := by
  have read := c.read_arrange .asMade a
  rw [arrange_asMade] at read
  rw [ofBytes?, bytes, read?_write (c.plain a), Option.bind_some, read]

theorem unmarshal_marshal (c : Codec (toJson (α := α)) ofJson?) (a : α) (before after : String)
    (front : ∀ c ∈ before.toList, Text.isBlank c = true)
    (back : ∀ c ∈ after.toList, Text.isBlank c = true) :
    unmarshal (before ++ marshal a ++ after) = .ok a := by
  rw [unmarshal, marshal, Base64.trim_encodeText (bytes a) before after front back,
    Base64.decodeText_encodeText]
  simp only [ofBytes?_bytes c]

theorem unmarshal_empty : unmarshal (α := α) "" = .error (.malformedToken .json) := by
  have nothing : ofBytes? (α := α) [] = none := by
    rw [ofBytes?, read?_eq_feed, Reader.feed_nil]
    rfl
  have read : Base64.decodeText (Text.trim "") = .ok [] := rfl
  simp only [unmarshal, read, nothing]

end Record

theorem Json.Codec.travels {α : Type} [Record α]
    (c : Json.Codec (Record.toJson (α := α)) Record.ofJson?) : Travels α where
  utf8_text a := (Json.isUtf8_write (c.plain a)).utf8_ofUtf8Lossy
  ofBytes?_bytes := Record.ofBytes?_bytes c
  marshal_ne_empty a empty := by
    have read := Record.unmarshal_marshal c a "" "" (by simp) (by simp)
    rw [empty] at read
    simp [Record.unmarshal_empty] at read
  unmarshal_marshal := Record.unmarshal_marshal c

theorem PublicKey.readText_encode [Scheme] {key : PublicKey} (h : Scheme.isKey key = true) :
    readText (Base64.encodeText key.encode) = .ok key := by
  have trimmed := Base64.trim_encodeText key.encode "" "" (by simp) (by simp)
  rw [String.empty_append, String.append_empty] at trimmed
  simp only [readText, trimmed, Base64.decodeText_encodeText, read, decode?_encode h]

/-- The members that a record may leave out, and whether it has something to write there. -/
def SignedRecord.optional : SignedRecord → List (String × Bool)
  | .claim c => [("s", !c.signature.isEmpty)]
  | .certificate c => [("signature", !c.signature.isEmpty)]
  | .disableMessage m => [("signature", !m.signature.isEmpty)]
  | .signingRequest r =>
    [("launch_request", r.launchRequest.isSome), ("signature", !r.signature.isEmpty)]
  | .resolveBody b =>
    [("implicit_claims", !b.implicitClaims.isEmpty), ("certificate", b.certificate.isSome),
      ("signature", !b.signature.isEmpty)]
  | .claimBody b =>
    [("implicit_claims", !b.implicitClaims.isEmpty), ("certificate", b.certificate.isSome),
      ("signature", !b.signature.isEmpty)]
  | .derelictBody b => [("signature", !b.signature.isEmpty)]

theorem SignedRecord.mentions_optional (r : SignedRecord) :
    ∀ m ∈ r.optional, r.toJson.mentions m.1 = m.2 := by
  cases r with
  | claim c =>
    simp [optional, toJson, Json.mentions_ofFields c.toJson_eq_ofFields, Claim.fields,
      signatureField]
  | certificate c =>
    simp [optional, toJson, Json.mentions_ofFields c.toJson_eq_ofFields, Certificate.fields,
      signatureField]
  | disableMessage m =>
    simp [optional, toJson, Json.mentions_ofFields m.toJson_eq_ofFields, DisableMessage.fields,
      signatureField]
  | signingRequest r =>
    simp [optional, toJson, Json.mentions_ofFields r.toJson_eq_ofFields, SigningRequest.fields,
      signatureField]
  | resolveBody b =>
    simp [optional, toJson, Json.mentions_ofFields b.toJson_eq_ofFields, ResolveBody.fields,
      claimFields, signatureField]
  | claimBody b =>
    simp [optional, toJson, Json.mentions_ofFields b.toJson_eq_ofFields, ClaimBody.fields,
      claimFields, signatureField]
  | derelictBody b =>
    simp [optional, toJson, Json.mentions_ofFields b.toJson_eq_ofFields, DerelictBody.fields,
      signatureField]

/-- Every record comes back from its text and from its token. What it holds nothing of is left out
there, and so comes back empty. -/
theorem records_travel :
    Travels Claim ∧ Travels Certificate ∧ Travels DisableMessage ∧ Travels SigningRequest ∧
      Travels ResolveBody ∧ Travels ClaimBody ∧ Travels DerelictBody ∧ Travels DaemonMessage ∧
      ∀ r : SignedRecord, ∀ m ∈ r.optional, r.toJson.mentions m.1 = m.2 :=
  ⟨Claim.codec.travels, Certificate.codec.travels, DisableMessage.codec.travels,
    SigningRequest.codec.travels, ResolveBody.codec.travels, ClaimBody.codec.travels,
    DerelictBody.codec.travels, DaemonMessage.codec.travels, SignedRecord.mentions_optional⟩

end Warrant
