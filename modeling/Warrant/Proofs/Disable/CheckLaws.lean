import Warrant.Disable.Monitor
import Warrant.Proofs.KeyRingLaws
import Warrant.Proofs.RoundTripLaws

namespace Warrant

namespace DisableMessage

structure IsInForce (m : DisableMessage) (now : Int64) : Prop where
  begun : m.createdAt.toInt ≤ now.toInt
  lasts : now.toInt ≤ m.expiresAt.toInt
  short : m.expiresAt.toInt < m.createdAt.toInt + 86400

/-- The longest span from this moment on ends within range. -/
def IsEarly (now : Int64) : Prop :=
  now.toInt + longest.toInt ≤ Int64.maxValue.toInt

theorem toInt_add_longest {m : DisableMessage} {now : Int64} (early : IsEarly now)
    (begun : m.createdAt.toInt ≤ now.toInt) :
    (m.createdAt + longest).toInt = m.createdAt.toInt + 86400 := by
  have least := m.createdAt.minValue_le_toInt
  have span : longest.toInt = 86400 := rfl
  rw [Int64.toInt_minValue] at least
  rw [IsEarly, span, Int64.toInt_maxValue] at early
  rw [Int64.toInt_add, span]
  apply Int.bmod_eq_of_le <;> omega

def verdict (m : DisableMessage) (isSigned : Bool) (now : Int) : Except Error Unit :=
  if now < m.createdAt.toInt then .error (.signature .recordFromFuture)
  else if m.expiresAt.toInt < now then .error (.signature .recordExpired)
  else if m.createdAt.toInt + 86400 ≤ m.expiresAt.toInt then .error (.signature .recordTooLong)
  else if isSigned then .ok ()
  else .error (.signature .record)

theorem verdict_eq_ok_iff {m : DisableMessage} {isSigned : Bool} {now : Int64} :
    m.verdict isSigned now.toInt = .ok () ↔ m.IsInForce now ∧ isSigned = true := by
  unfold verdict
  constructor
  · intro valid
    split at valid
    · contradiction
    next begun =>
    split at valid
    · contradiction
    next lasts =>
    split at valid
    · contradiction
    next short =>
    split at valid
    next signed => exact ⟨⟨Int.not_lt.1 begun, Int.not_lt.1 lasts, Int.not_le.1 short⟩, signed⟩
    · contradiction
  · rintro ⟨force, signed⟩
    rw [if_neg (Int.not_lt.2 force.begun), if_neg (Int.not_lt.2 force.lasts),
      if_neg (Int.not_le.2 force.short), if_pos signed]

/-- The span is only added to a start that is over. -/
theorem validate_eq_verdict [Scheme] {m : DisableMessage} {key : PublicKey} {now : Int64}
    (early : IsEarly now) :
    m.validate key now = m.verdict (Signed.isSignedBy m key) now.toInt := by
  simp only [validate, verdict, Int64.lt_iff_toInt_lt, Int64.le_iff_toInt_le]
  split
  · rfl
  next begun =>
  rw [toInt_add_longest early (Int.not_lt.1 begun)]
  cases Signed.isSignedBy m key <;> rfl

theorem validate_eq_ok_iff [Scheme] {m : DisableMessage} {key : PublicKey} {now : Int64}
    (early : IsEarly now) :
    m.validate key now = .ok () ↔ m.IsInForce now ∧ Signed.isSignedBy m key = true := by
  rw [validate_eq_verdict early, verdict_eq_ok_iff]

end DisableMessage

namespace DisableMonitor

variable [Scheme]

/-- The first text under the key's name counts as a record. -/
def Resolves (domain : String) (records : Records) (key : PublicKey) : Prop :=
  ∃ text more, records (DisableMessage.recordName key domain) = some (text :: more) ∧
    shortestRecord ≤ text.utf8ByteSize

/-- The key's record is a message in force that disables the library, signed by the key. -/
def Backs (domain : String) (records : Records) (now : Int64) (key : PublicKey) : Prop :=
  ∃ (text : String) (more : List String) (message : DisableMessage),
    records (DisableMessage.recordName key domain) = some (text :: more) ∧
    shortestRecord ≤ text.utf8ByteSize ∧ Record.unmarshal text = .ok message ∧
    message.isDisabled = true ∧ message.IsInForce now ∧ Signed.isSignedBy message key = true

variable {m : DisableMonitor} {records : Records} {key : PublicKey} {now : Int64}

theorem Backs.resolves {domain : String} :
    Backs domain records now key → Resolves domain records key
  | ⟨text, more, _, found, long, _⟩ => ⟨text, more, found, long⟩

theorem record?_eq_some_iff {text : String} :
    m.record? records key = some text ↔
      ∃ more, records (DisableMessage.recordName key m.domain) = some (text :: more) ∧
        shortestRecord ≤ text.utf8ByteSize := by
  unfold record?
  split
  · next first more found =>
    simp only [found, Option.ite_none_right_eq_some, Option.some.injEq, List.cons.injEq]
    constructor
    · rintro ⟨long, rfl⟩
      exact ⟨more, ⟨rfl, rfl⟩, long⟩
    · rintro ⟨_, ⟨rfl, -⟩, long⟩
      exact ⟨long, rfl⟩
  · next other =>
    simp only [reduceCtorEq, false_iff]
    rintro ⟨more, found, -⟩
    exact other _ _ found

theorem record?_eq_none_iff : m.record? records key = none ↔ ¬Resolves m.domain records key := by
  rw [Option.eq_none_iff_forall_ne_some]
  simp only [ne_eq, record?_eq_some_iff, Resolves, not_exists]

theorem accepts_iff {text : String} (early : DisableMessage.IsEarly now) :
    accepts text key now = true ↔ ∃ message : DisableMessage, Record.unmarshal text = .ok message ∧
      message.isDisabled = true ∧ message.IsInForce now ∧ Signed.isSignedBy message key = true := by
  unfold accepts
  split
  · next message read =>
    simp only [read, Except.ok.injEq, exists_eq_left', ← DisableMessage.validate_eq_ok_iff early]
    split
    · next valid => simp [valid]
    · next invalid => simp [invalid]
  · next fault => simp [fault]

theorem backs_iff (early : DisableMessage.IsEarly now) :
    Backs m.domain records now key ↔
      ∃ text, m.record? records key = some text ∧ accepts text key now = true := by
  simp only [record?_eq_some_iff, accepts_iff early]
  constructor
  · rintro ⟨text, more, message, found, long, read⟩
    exact ⟨text, ⟨more, found, long⟩, message, read⟩
  · rintro ⟨text, ⟨more, found, long⟩, message, read⟩
    exact ⟨text, more, message, found, long, read⟩

theorem scan_cases (m : DisableMonitor) (records : Records) (now : Int64) (keys : List PublicKey) :
    (m.scan records now keys = (none, keys) ∧ ∀ key ∈ keys, m.record? records key = none) ∨
    ∃ before key after text, keys = before ++ key :: after ∧
      (∀ k ∈ before, m.record? records k = none) ∧ m.record? records key = some text ∧
      m.scan records now keys =
        (if accepts text key now then some key else none, before ++ [key]) := by
  induction keys with
  | nil => exact .inl ⟨rfl, by simp⟩
  | cons key rest ih =>
    cases record : m.record? records key with
    | some text =>
      refine .inr ⟨[], key, rest, text, rfl, by simp, record, ?_⟩
      simp [scan, record]
    | none =>
      -- A key without a record joins those that come before the first one with a record.
      obtain ⟨scanned, absent⟩ | ⟨before, found, after, text, rfl, absent, first, scanned⟩ := ih
      · refine .inl ⟨by simp [scan, record, scanned], ?_⟩
        simpa [record] using absent
      · refine .inr ⟨key :: before, found, after, text, rfl, ?_, first, ?_⟩
        · simpa [record] using absent
        · simp [scan, record, scanned]

inductive Outcome (m : DisableMonitor) (isDisabled : Bool) (records : Records)
    (usable : List PublicKey) (now : Int64) : Checked → Prop
  | held {key : PublicKey} : m.sentinel = some key → Backs m.domain records now key →
      Outcome m isDisabled records usable now ⟨m, isDisabled, [key], false⟩
  | released {key : PublicKey} : m.sentinel = some key → ¬Backs m.domain records now key →
      Outcome m isDisabled records usable now
        ⟨{ m with sentinel := none, recovered := true }, false, [key], true⟩
  | silent : m.sentinel = none → (∀ key ∈ usable, ¬Resolves m.domain records key) →
      Outcome m isDisabled records usable now ⟨m, isDisabled, usable, false⟩
  | refused {before after : List PublicKey} {key : PublicKey} :
      m.sentinel = none → usable = before ++ key :: after →
      (∀ k ∈ before, ¬Resolves m.domain records k) → Resolves m.domain records key →
      ¬Backs m.domain records now key →
      Outcome m isDisabled records usable now ⟨m, isDisabled, before ++ [key], false⟩
  | entered {before after : List PublicKey} {key : PublicKey} :
      m.sentinel = none → usable = before ++ key :: after →
      (∀ k ∈ before, ¬Resolves m.domain records k) → Backs m.domain records now key →
      Outcome m isDisabled records usable now
        ⟨{ m with sentinel := some key }, true, before ++ [key], false⟩

theorem check_outcome (m : DisableMonitor) (isDisabled : Bool) (records : Records)
    (usable : List PublicKey) (early : DisableMessage.IsEarly now) :
    Outcome m isDisabled records usable now (m.check isDisabled records usable now) := by
  unfold check
  split
  · next key sentinel =>
    have backs : (m.record? records key).any (fun record => accepts record key now) = true ↔
        Backs m.domain records now key := by
      rw [Option.any_eq_true, backs_iff early]
    split
    · next kept => exact .held sentinel (backs.1 kept)
    · next lost => exact .released sentinel fun held => lost (backs.2 held)
  · next sentinel =>
    obtain ⟨scanned, absent⟩ | ⟨before, key, after, text, listed, absent, first, scanned⟩ :=
      m.scan_cases records now usable
    · rw [scanned]
      exact .silent sentinel fun key mem => record?_eq_none_iff.1 (absent key mem)
    · have unresolved : ∀ k ∈ before, ¬Resolves m.domain records k :=
        fun k mem => record?_eq_none_iff.1 (absent k mem)
      rw [scanned]
      cases accepted : accepts text key now with
      | true =>
        exact .entered sentinel listed unresolved ((backs_iff early).2 ⟨text, first, accepted⟩)
      | false =>
        obtain ⟨more, found, long⟩ := record?_eq_some_iff.1 first
        refine .refused sentinel listed unresolved ⟨text, more, found, long⟩ fun backs => ?_
        obtain ⟨other, same, accepts⟩ := (backs_iff early).1 backs
        rw [first] at same
        cases same
        simp [accepted] at accepts

end DisableMonitor

/-! ### A message that disables the library -/

def DisableMessage.ofTwos : DisableMessage where
  createdAt := 1700000000
  expiresAt := 1700005000
  isDisabled := true
  signature :=
    Bytes.ofNatLittleEndian 32 0xD668FB701CEE076F376F7BCE9C65F324DB9B4A6A63028050FEBD17432FBEFFB2 ++
      Bytes.ofNatLittleEndian 32 0x08570E99A13FE787783A590E6E02F7BE2B578536B5248342A55E8B6F5FB99880

theorem DisableMessage.isSignedBy_ofTwos : Signed.isSignedBy ofTwos PublicKey.ofTwos = true := by
  -- The members are in order, and all else can be computed.
  have sorted : (Signed.unsigned ofTwos).toJson.canonical = (Signed.unsigned ofTwos).toJson := by
    change Json.object (List.mergeSort _ Json.nameLe) = _
    rw [List.mergeSort_of_pairwise (by decide +kernel)]
    rfl
  have payload : Signed.payload ofTwos = (Signed.unsigned ofTwos).toJson.write :=
    congrArg Json.write sorted
  rw [Signed.isSignedBy, payload]
  decide +kernel

namespace DisableMonitor

def publishing (name text : String) : Records :=
  fun other => if other = name then some [text] else none

theorem backs_ofTwos (domain : String) (now : Int64) (begun : 1700000000 ≤ now.toInt)
    (lasts : now.toInt ≤ 1700005000) :
    Backs domain
      (publishing (DisableMessage.recordName .ofTwos domain) (Record.marshal DisableMessage.ofTwos))
      now .ofTwos := by
  exact ⟨_, [], .ofTwos, if_pos rfl, by decide +kernel,
    DisableMessage.codec.travels.unmarshal_alone _, rfl, ⟨begun, lasts, by decide⟩,
    DisableMessage.isSignedBy_ofTwos⟩

end DisableMonitor

end Warrant
