import Warrant.Authority.Daemon
import Warrant.Proofs.ClaimLaws
import Warrant.Proofs.Json.Arrangement
import Warrant.Proofs.KeyLaws
import Warrant.Proofs.KeyRingLaws
import Warrant.Proofs.RoundTripLaws
import Warrant.Renewal

namespace Warrant

namespace Error

theorem throw_unless_eq_ok_iff {β : Type} {p : Prop} [Decidable p] {e : Error}
    {f : PUnit → Except Error β} {rest : Except Error β} {b : β} :
    (if p then (throw e : Except Error PUnit) >>= f else rest) = .ok b ↔ ¬p ∧ rest = .ok b := by
  by_cases h : p
  · rw [if_pos h]
    exact ⟨nofun, fun through => absurd h through.1⟩
  · rw [if_neg h]
    exact ⟨fun through => ⟨h, through⟩, And.right⟩

end Error

namespace Dictionary

variable {α : Type}

theorem contains_erase_self (d : Dictionary α) (key : String) :
    (d.erase key).contains key = false := by
  have absent : ∀ e ∈ d.entries.filter (fun e => e.1 != key), (key != e.1) = true := by
    intro e mem
    rw [bne_comm]
    exact (List.mem_filter.1 mem).2
  rw [contains, get?, erase, List.lookup_eq_none_iff.2 absent]
  rfl

end Dictionary

namespace Certificate

theorem isBootstrap_of_tags_eq {a b : Certificate} (same : a.tags = b.tags) :
    a.isBootstrap = b.isBootstrap := by
  rw [isBootstrap, isBootstrap, same]

def IsTimely (c : Certificate) (now : Int) : Prop :=
  c.validAfter.toInt - 60 ≤ now ∧ now ≤ c.validBefore.toInt + 60

theorem isValidAt_iff {c : Certificate} {now : Int64} (moderate : Moment.IsModerate now) :
    c.isValidAt now = true ↔ c.IsTimely now.toInt := by
  simp only [isValidAt, IsTimely, Bool.and_eq_true, decide_eq_true_eq, Int64.le_iff_toInt_le,
    Moment.toInt_add_clockSkew moderate, Moment.toInt_sub_clockSkew moderate]
  omega

variable [Scheme]

structure InForce (c : Certificate) (usable : List PublicKey) (now : Int64) : Prop where
  timely : c.isValidAt now = true
  signed : Signed.isSignedByAny c usable = true

theorem check_eq_ok_iff {c : Certificate} {usable : List PublicKey} {now : Int64} :
    c.check usable now = .ok () ↔ c.InForce usable now := by
  unfold check
  constructor
  · intro checked
    split at checked
    · contradiction
    next timely =>
    split at checked
    · contradiction
    next signed => exact ⟨by simpa using timely, by simpa using signed⟩
  · rintro ⟨timely, signed⟩
    rw [timely, signed]
    rfl

end Certificate

namespace Credential

variable [Scheme]

def Matches (c : Credential) : Prop :=
  c.certificate.key = c.key.publicKey.encode

theorem Matches.publicKey {c : Credential} (h : c.Matches)
    (isKey : Scheme.isKey c.key.publicKey = true) :
    c.certificate.publicKey = .ok c.key.publicKey := by
  rw [Certificate.publicKey, PublicKey.read, h, PublicKey.decode?_encode isKey]

end Credential

/-- The authority does not answer, or returns the certificate that it was asked for, signed. -/
def SigningRequest.Granted (request : SigningRequest) (reply : Except Error Certificate) : Prop :=
  ∀ signed, reply = .ok signed →
    ∃ signature, signed = Signed.withSignature request.certificate signature

namespace Renewal

theorem isBootstrap_of_keptTags {c : Certificate} (held : Certificate)
    (kept : c.tags = keptTags held) : c.isBootstrap = false := by
  rw [Certificate.isBootstrap, kept, keptTags]
  split
  · rw [Dictionary.contains_erase_self, Bool.false_and]
  · next regular => simpa [Certificate.isBootstrap] using regular

variable [Scheme]

/-- A regular certificate is asked for, and for the key that is kept. -/
structure Proper (r : Renewal) : Prop where
  regular : r.request.certificate.isBootstrap = false
  candidate : r.candidate.Matches

theorem proper_start (current : Credential) (key : PrivateKey) (serial : UInt64) (now : Int64) :
    (start current key serial now).Proper :=
  ⟨isBootstrap_of_keptTags current.certificate rfl, rfl⟩

theorem finish_eq_ok_iff {r : Renewal} {usable : List PublicKey} {now : Int64}
    {signed : Certificate} {c : Credential} :
    r.finish usable now signed = .ok c ↔
      signed.key = r.candidate.certificate.key ∧ signed.check usable now = .ok () ∧
        c = ⟨signed, r.candidate.key⟩ := by
  unfold finish
  rw [Error.throw_unless_eq_ok_iff, Except.bind_eq_ok_iff, ne_eq, Decidable.not_not]
  constructor
  · rintro ⟨same, _, checked, ⟨⟩⟩
    exact ⟨same, checked, rfl⟩
  · rintro ⟨same, checked, rfl⟩
    exact ⟨same, (), checked, rfl⟩

theorem bind_finish_eq_ok_iff {r : Renewal} {usable : List PublicKey} {now : Int64}
    {reply : Except Error Certificate} {c : Credential} :
    reply.bind (r.finish usable now) = .ok c ↔
      reply = .ok c.certificate ∧ c.certificate.key = r.candidate.certificate.key ∧
        c.certificate.check usable now = .ok () ∧ c.key = r.candidate.key := by
  change reply >>= r.finish usable now = .ok c ↔ _
  simp only [Except.bind_eq_ok_iff, finish_eq_ok_iff]
  constructor
  · rintro ⟨signed, rfl, same, checked, rfl⟩
    exact ⟨rfl, same, checked, rfl⟩
  · rintro ⟨rfl, same, checked, kept⟩
    exact ⟨_, rfl, same, checked, by rw [← kept]⟩

theorem Proper.matches {r : Renewal} (h : r.Proper) {usable : List PublicKey} {now : Int64}
    {reply : Except Error Certificate} {c : Credential}
    (done : reply.bind (r.finish usable now) = .ok c) : c.Matches := by
  obtain ⟨-, same, -, kept⟩ := bind_finish_eq_ok_iff.1 done
  rw [Credential.Matches, same, kept]
  exact h.candidate

theorem Proper.granted {r : Renewal} (h : r.Proper) {usable : List PublicKey} {now : Int64}
    {reply : Except Error Certificate} {c : Credential} (granted : r.request.Granted reply)
    (done : reply.bind (r.finish usable now) = .ok c) : c.certificate.isBootstrap = false := by
  obtain ⟨answered, -, -, -⟩ := bind_finish_eq_ok_iff.1 done
  obtain ⟨signature, signed⟩ := granted c.certificate answered
  rw [Certificate.isBootstrap_of_tags_eq (congrArg Certificate.tags signed)]
  exact h.regular

end Renewal

namespace DaemonExchange

variable [Scheme]

theorem matches_of_ofMessage {message : DaemonMessage} {c : Credential}
    (taken : ofMessage message = .ok c) : c.Matches := by
  unfold ofMessage at taken
  simp only [Except.bind_eq_ok_iff, Error.throw_unless_eq_ok_iff, ne_eq,
    Decidable.not_not] at taken
  obtain ⟨key, -, _, certified, rfl, ⟨⟩⟩ := taken
  exact PublicKey.encode_of_read certified

theorem matches_of_result {wording : Bytes → String} {e : DaemonExchange} {c : Credential}
    (taken : e.result wording = .ok c) : c.Matches := by
  cases e with
  | refused => cases taken
  | timedOut address => cases taken
  | answered reply =>
    simp only [result] at taken
    split at taken
    · cases taken
    · exact matches_of_ofMessage taken

theorem result_request {c : Credential} (wording : Bytes → String) (h : c.Matches)
    (isKey : Scheme.isKey c.key.publicKey = true)
    (short : (Record.bytes (request c)).length ≤ longestReply) :
    (answered (Record.bytes (request c))).result wording = .ok c := by
  have key : PrivateKey.read c.key.encode = .ok c.key := by
    rw [PrivateKey.read, PrivateKey.decode?_encode]
  have certified : c.certificate.publicKey = .ok c.key.publicKey := h.publicKey isKey
  simp only [result, List.take_of_length_le short, Record.ofBytes?_bytes DaemonMessage.codec]
  change ofMessage (request c) = .ok c
  simp only [ofMessage, request, Except.bind_eq_ok_iff, Error.throw_unless_eq_ok_iff]
  exact ⟨c.key, key, c.key.publicKey, certified, not_not_intro rfl, rfl⟩

end DaemonExchange

/-! ### Certificates of one key -/

theorem Certificate.payload_eq (c : Certificate) :
    Signed.payload c = Json.write (.object
      [Json.member "entity_name" (.ofText c.entity),
        Json.member "entity_type" (.ofText c.kind.name), Json.member "host" (.ofText c.host),
        Json.member "key" (.ofBytes c.key), Json.member "serial" (.ofUInt64 c.serial),
        ((Json.member "tags" .null).1, (Json.ofDictionary .ofText c.tags).canonical),
        Json.member "valid_after" (.ofInt64 c.validAfter),
        Json.member "valid_before" (.ofInt64 c.validBefore)]) := by
  have shuffle {a b c d e f g h : Bytes × Json} :
      [a, b, c, d, e, g, h, f].Perm [a, b, c, d, e, f, g, h] := by
    classical
    simp only [List.perm_iff_count, List.count_cons, List.count_nil]
    omega
  have names : (["entity_name", "entity_type", "host", "key", "serial", "tags", "valid_after",
      "valid_before"].map fun name => Json.Escape.encode (Text.utf8 name)).Pairwise
      fun a b => Bytes.le (b ++ [Json.quote]) (a ++ [Json.quote]) = false := by decide +kernel
  refine congrArg Json.write (Json.canonical_object_of_perm shuffle ?_)
  refine (List.pairwise_map (f := Prod.fst)
    (R := fun a b => Bytes.le (b ++ [Json.quote]) (a ++ [Json.quote]) = false)).1 ?_
  exact names

/-- The seed in which every byte is two. -/
def PrivateKey.ofTwos : PrivateKey := ⟨List.replicate 32 2, List.length_replicate⟩

theorem PrivateKey.publicKey_ofTwos : ofTwos.publicKey = .ofTwos :=
  PublicKey.ext (by decide +kernel)

def Certificate.bootstrap : Certificate where
  entity := "bob"
  kind := .service
  host := "h"
  key := PublicKey.ofTwos.encode
  serial := 7
  validAfter := 1700000000
  validBefore := 1700072000
  tags := .ofList [(bootstrapTag, ""), (launchRequestTag, "")]
  signature :=
    Bytes.ofNatLittleEndian 32 0xA5A51EFC3963CA72B953E55C814FDD25B39B1ED6629F9E458B167B2BE348C27A ++
      Bytes.ofNatLittleEndian 32 0x023876C53E403C2854CF1D812799B79E45F514FC2DDBB755F3BD9EFE326C02C9

def Credential.bootstrap : Credential := ⟨.bootstrap, .ofTwos⟩

def Credential.exchanged : Credential where
  certificate :=
    Signed.withSignature (Renewal.start .bootstrap .ofTwos 1 1700000000).candidate.certificate
      (Bytes.ofNatLittleEndian 32
          0x79C4B938A4EAA66861627EC18C717B05B6155429962C20BDE8CCF0DAEC8FE179 ++
        Bytes.ofNatLittleEndian 32
          0x0D4B0764AF9D91BAC32C97EB800F9A2EFA2454D688DB11EAEB339EA59CE259EF)
  key := .ofTwos

theorem Certificate.isSignedBy_bootstrap :
    Signed.isSignedBy Certificate.bootstrap PublicKey.ofTwos = true := by
  have tags : (Json.ofDictionary .ofText bootstrap.tags).canonical =
      Json.ofDictionary .ofText bootstrap.tags :=
    Json.canonical_object_of_perm .rfl (by decide +kernel)
  rw [Signed.isSignedBy, payload_eq, tags]
  decide +kernel

theorem Credential.isSignedBy_exchanged :
    Signed.isSignedBy Credential.exchanged.certificate PublicKey.ofTwos = true := by
  have tags : (Json.ofDictionary .ofText exchanged.certificate.tags).canonical =
      Json.ofDictionary .ofText exchanged.certificate.tags :=
    Json.canonical_object_of_perm .rfl (by decide +kernel)
  have key : exchanged.certificate.key = PublicKey.ofTwos.encode :=
    congrArg PublicKey.encode PrivateKey.publicKey_ofTwos
  rw [Signed.isSignedBy, Certificate.payload_eq, tags, key]
  decide +kernel

theorem Certificate.check_bootstrap :
    Certificate.bootstrap.check [.ofTwos] 1700000000 = .ok () :=
  check_eq_ok_iff.2 ⟨by decide, by simp [Signed.isSignedByAny, isSignedBy_bootstrap]⟩

theorem Credential.check_exchanged :
    Credential.exchanged.certificate.check [.ofTwos] 1700000000 = .ok () :=
  Certificate.check_eq_ok_iff.2
    ⟨by decide, by simp [Signed.isSignedByAny, isSignedBy_exchanged]⟩

namespace DaemonExchange

theorem length_bootstrap : (Record.bytes (request .bootstrap)).length ≤ longestReply := by
  have key : PrivateKey.ofTwos.encode = 0x30 :: 0x51 :: PrivateKey.header 1 ++
      PrivateKey.ofTwos.seed ++ 0x81 :: 0x21 :: 0x00 :: PublicKey.ofTwos.bytes := by
    rw [PrivateKey.encode, PrivateKey.publicKey_ofTwos]
  rw [request, Credential.bootstrap, key]
  decide +kernel

theorem result_bootstrap (wording : Bytes → String) :
    (answered (Record.bytes (request .bootstrap))).result wording = .ok .bootstrap := by
  apply result_request
  · exact congrArg PublicKey.encode PrivateKey.publicKey_ofTwos.symm
  · exact PrivateKey.publicKey_ofTwos ▸ PublicKey.isKey_ofTwos
  · exact length_bootstrap

end DaemonExchange

end Warrant
