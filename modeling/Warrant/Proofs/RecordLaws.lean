import Warrant.Proofs.Json.FieldLaws
import Warrant.Authority.Body
import Warrant.Authority.Daemon
import Warrant.Certificate.Request
import Warrant.Disable.Message

namespace Warrant

open Json

def signatureField (signature : Bytes) : Option Json :=
  valueUnless signature.isEmpty (ofBytes signature)

theorem plain_signatureField (signature : Bytes) : ∀ j ∈ signatureField signature, Plain j :=
  plain_valueUnless fun _ => codec_bytes.plain signature

theorem fieldOr_signatureField (a : Arrangement) (signature : Bytes) :
    fieldOr [] bytes? ((signatureField signature).map (arrange a)) = some signature :=
  codec_bytes.fieldOr_unlessEmpty a signature

theorem ofText_ne_null (text : String) : ofText text ≠ .null :=
  Json.noConfusion

namespace Claim

def names : List String := ["ct", "va", "vb", "e", "c", "d", "s"]

def fields (c : Claim) : Fields :=
  [("ct", some (ofText c.kind)), ("va", some (ofInt64 c.validAfter)),
    ("vb", some (ofInt64 c.validBefore)), ("e", some (ofText c.entity)),
    ("c", some (ofList ofText c.grants)), ("d", some (ofText c.destination)),
    ("s", signatureField c.signature)]

theorem toJson_eq_ofFields (c : Claim) : c.toJson = ofFields c.fields := by
  rw [toJson, memberUnless_eq]
  rfl

theorem distinct_names : names.Nodup := by decide

theorem codec : Codec toJson ofJson? where
  plain c := by
    rw [toJson_eq_ofFields]
    apply plain_ofFields
    simpa [fields, codec_text.plain, codec_int64.plain, codec_text.list.plain] using
      plain_signatureField c.signature
  read_arrange a c := by
    have found : record? names _ = _ := record?_of_eq a (toJson_eq_ofFields c) distinct_names
    rw [names] at found
    rw [ofJson?, found]
    simp [fields, codec_text.read_arrange, codec_int64.read_arrange, codec_text.list.read_arrange,
      fieldOr_signatureField]

end Claim

theorem EntityKind.codec :
    Codec (fun kind : EntityKind => ofText kind.name) EntityKind.ofJson? where
  plain kind := codec_text.plain kind.name
  read_arrange a kind := by
    change (text? ((ofText kind.name).arrange a)).bind ofName? = some kind
    rw [codec_text.read_arrange]
    cases kind <;> rfl

namespace Certificate

def names : List String :=
  ["entity_name", "entity_type", "host", "key", "serial", "valid_after", "valid_before", "tags",
    "signature"]

def fields (c : Certificate) : Fields :=
  [("entity_name", some (ofText c.entity)), ("entity_type", some (ofText c.kind.name)),
    ("host", some (ofText c.host)), ("key", some (ofBytes c.key)),
    ("serial", some (ofUInt64 c.serial)), ("valid_after", some (ofInt64 c.validAfter)),
    ("valid_before", some (ofInt64 c.validBefore)), ("tags", some (ofDictionary ofText c.tags)),
    ("signature", signatureField c.signature)]

theorem toJson_eq_ofFields (c : Certificate) : c.toJson = ofFields c.fields := by
  rw [toJson, memberUnless_eq]
  rfl

theorem distinct_names : names.Nodup := by decide

theorem codec : Codec toJson ofJson? where
  plain c := by
    rw [toJson_eq_ofFields]
    apply plain_ofFields
    simpa [fields, codec_text.plain, codec_bytes.plain, codec_uint64.plain, codec_int64.plain,
      codec_text.dictionary.plain] using plain_signatureField c.signature
  read_arrange a c := by
    have found : record? names _ = _ := record?_of_eq a (toJson_eq_ofFields c) distinct_names
    rw [names] at found
    rw [ofJson?, found]
    simp [fields, codec_text.read_arrange, EntityKind.codec.read_arrange, codec_bytes.read_arrange,
      codec_uint64.read_arrange, codec_int64.read_arrange, codec_text.dictionary.read_arrange,
      fieldOr_signatureField]

theorem toJson_ne_null (c : Certificate) : c.toJson ≠ .null :=
  Json.noConfusion

end Certificate

namespace DisableMessage

def names : List String := ["ctime", "etime", "is_disabled", "signature"]

def fields (m : DisableMessage) : Fields :=
  [("ctime", some (ofInt64 m.createdAt)), ("etime", some (ofInt64 m.expiresAt)),
    ("is_disabled", some (.bool m.isDisabled)), ("signature", signatureField m.signature)]

theorem toJson_eq_ofFields (m : DisableMessage) : m.toJson = ofFields m.fields := by
  rw [toJson, memberUnless_eq]
  rfl

theorem distinct_names : names.Nodup := by decide

theorem codec : Codec toJson ofJson? where
  plain m := by
    rw [toJson_eq_ofFields]
    apply plain_ofFields
    simpa [fields, codec_int64.plain, codec_bool.plain] using plain_signatureField m.signature
  read_arrange a m := by
    have found : record? names _ = _ := record?_of_eq a (toJson_eq_ofFields m) distinct_names
    rw [names] at found
    rw [ofJson?, found]
    simp [fields, codec_int64.read_arrange, codec_bool.read_arrange, fieldOr_signatureField]

end DisableMessage

namespace SigningRequest

def names : List String := ["certificate", "signing_certificate", "launch_request", "signature"]

def fields (r : SigningRequest) : Fields :=
  [("certificate", some r.certificate.toJson),
    ("signing_certificate", some r.signingCertificate.toJson),
    ("launch_request", valueUnless r.launchRequest.isNone (ofOption ofText r.launchRequest)),
    ("signature", signatureField r.signature)]

theorem toJson_eq_ofFields (r : SigningRequest) : r.toJson = ofFields r.fields := by
  rw [toJson, memberUnless_eq, memberUnless_eq, List.append_assoc, ← Fields.members_append]
  rfl

theorem distinct_names : names.Nodup := by decide

theorem codec : Codec toJson ofJson? where
  plain r := by
    rw [toJson_eq_ofFields]
    apply plain_ofFields
    simpa [fields, Certificate.codec.plain] using
      And.intro (codec_text.plain_unlessNone r.launchRequest) (plain_signatureField r.signature)
  read_arrange a r := by
    have found : record? names _ = _ := record?_of_eq a (toJson_eq_ofFields r) distinct_names
    rw [names] at found
    rw [ofJson?, found]
    simp [fields, Certificate.codec.read_arrange, fieldOr_signatureField,
      codec_text.fieldOr_unlessNone ofText_ne_null]

end SigningRequest

def claimFields (implicitClaims : List String) (certificate : Option Certificate)
    (createdAt expiresAt : Int64) (signature : Bytes) : Fields :=
  [("implicit_claims", valueUnless implicitClaims.isEmpty (ofList ofText implicitClaims)),
    ("certificate", valueUnless certificate.isNone (ofOption Certificate.toJson certificate)),
    ("ctime", some (ofInt64 createdAt)), ("etime", some (ofInt64 expiresAt)),
    ("signature", signatureField signature)]

theorem claimMembers_eq (implicitClaims : List String) (certificate : Option Certificate)
    (createdAt expiresAt : Int64) (signature : Bytes) :
    claimMembers implicitClaims certificate createdAt expiresAt signature =
      (claimFields implicitClaims certificate createdAt expiresAt signature).members := by
  rw [claimMembers, memberUnless_eq, memberUnless_eq, memberUnless_eq, ← Fields.members_append]
  change _ ++ Fields.members [("ctime", some _), ("etime", some _)] ++ _ = _
  rw [← Fields.members_append, ← Fields.members_append]
  rfl

theorem plain_claimFields (implicitClaims : List String) (certificate : Option Certificate)
    (createdAt expiresAt : Int64) (signature : Bytes) :
    ∀ f ∈ claimFields implicitClaims certificate createdAt expiresAt signature,
      ∀ j ∈ f.2, Plain j := by
  have claims : ∀ j ∈ valueUnless implicitClaims.isEmpty (ofList ofText implicitClaims), Plain j :=
    plain_valueUnless fun _ => codec_text.list.plain implicitClaims
  have certificate := Certificate.codec.plain_unlessNone certificate
  simpa [claimFields, codec_int64.plain] using
    And.intro claims (And.intro certificate (plain_signatureField signature))

namespace ResolveBody

def names : List String :=
  ["entity_name", "requested_entity", "implicit_claims", "certificate", "ctime", "etime",
    "signature"]

def fields (b : ResolveBody) : Fields :=
  [("entity_name", some (ofText b.entity)), ("requested_entity", some (ofText b.target))] ++
    claimFields b.implicitClaims b.certificate b.createdAt b.expiresAt b.signature

theorem toJson_eq_ofFields (b : ResolveBody) : b.toJson = ofFields b.fields := by
  rw [toJson, claimMembers_eq]
  rfl

theorem distinct_names : names.Nodup := by decide

theorem codec : Codec toJson ofJson? where
  plain b := by
    rw [toJson_eq_ofFields]
    apply plain_ofFields
    simpa [fields, codec_text.plain] using
      plain_claimFields b.implicitClaims b.certificate b.createdAt b.expiresAt b.signature
  read_arrange a b := by
    have found : record? names _ = _ := record?_of_eq a (toJson_eq_ofFields b) distinct_names
    rw [names] at found
    rw [ofJson?, found]
    simp [fields, claimFields, codec_text.read_arrange, codec_text.list.fieldOr_unlessEmpty,
      Certificate.codec.fieldOr_unlessNone Certificate.toJson_ne_null, codec_int64.read_arrange,
      fieldOr_signatureField]

end ResolveBody

namespace ClaimBody

def names : List String :=
  ["entity_name", "claim", "destination", "implicit_claims", "certificate", "ctime", "etime",
    "signature"]

def fields (b : ClaimBody) : Fields :=
  [("entity_name", some (ofText b.entity)), ("claim", some (ofText b.claim)),
      ("destination", some (ofText b.destination))] ++
    claimFields b.implicitClaims b.certificate b.createdAt b.expiresAt b.signature

theorem toJson_eq_ofFields (b : ClaimBody) : b.toJson = ofFields b.fields := by
  rw [toJson, claimMembers_eq]
  rfl

theorem distinct_names : names.Nodup := by decide

theorem codec : Codec toJson ofJson? where
  plain b := by
    rw [toJson_eq_ofFields]
    apply plain_ofFields
    simpa [fields, codec_text.plain] using
      plain_claimFields b.implicitClaims b.certificate b.createdAt b.expiresAt b.signature
  read_arrange a b := by
    have found : record? names _ = _ := record?_of_eq a (toJson_eq_ofFields b) distinct_names
    rw [names] at found
    rw [ofJson?, found]
    simp [fields, claimFields, codec_text.read_arrange, codec_text.list.fieldOr_unlessEmpty,
      Certificate.codec.fieldOr_unlessNone Certificate.toJson_ne_null, codec_int64.read_arrange,
      fieldOr_signatureField]

end ClaimBody

namespace DerelictBody

def names : List String := ["entity_name", "ctime", "signature"]

def fields (b : DerelictBody) : Fields :=
  [("entity_name", some (ofText b.entity)), ("ctime", some (ofInt64 b.createdAt)),
    ("signature", signatureField b.signature)]

theorem toJson_eq_ofFields (b : DerelictBody) : b.toJson = ofFields b.fields := by
  rw [toJson, memberUnless_eq]
  rfl

theorem distinct_names : names.Nodup := by decide

theorem codec : Codec toJson ofJson? where
  plain b := by
    rw [toJson_eq_ofFields]
    apply plain_ofFields
    simpa [fields, codec_text.plain, codec_int64.plain] using plain_signatureField b.signature
  read_arrange a b := by
    have found : record? names _ = _ := record?_of_eq a (toJson_eq_ofFields b) distinct_names
    rw [names] at found
    rw [ofJson?, found]
    simp [fields, codec_text.read_arrange, codec_int64.read_arrange, fieldOr_signatureField]

end DerelictBody

namespace DaemonMessage

def names : List String := ["certificate", "private_key"]

def fields (m : DaemonMessage) : Fields :=
  [("certificate", some m.certificate.toJson), ("private_key", some (ofBytes m.privateKey))]

theorem toJson_eq_ofFields (m : DaemonMessage) : m.toJson = ofFields m.fields := rfl

theorem distinct_names : names.Nodup := by decide

theorem codec : Codec toJson ofJson? where
  plain m := by
    rw [toJson_eq_ofFields]
    apply plain_ofFields
    simpa [fields] using And.intro (Certificate.codec.plain m.certificate)
      (codec_bytes.plain m.privateKey)
  read_arrange a m := by
    have found : record? names _ = _ := record?_of_eq a (toJson_eq_ofFields m) distinct_names
    rw [names] at found
    rw [ofJson?, found]
    simp [fields, Certificate.codec.read_arrange, codec_bytes.read_arrange]

end DaemonMessage

end Warrant
