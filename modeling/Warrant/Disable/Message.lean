import Warrant.Record
import Warrant.Key.Encoding

namespace Warrant

structure DisableMessage where
  createdAt : Int64
  expiresAt : Int64
  isDisabled : Bool
  signature : Bytes
  deriving DecidableEq

namespace DisableMessage

/-- A message that is valid for this many seconds or more is not accepted. -/
def longest : Int64 := 86400

def toJson (m : DisableMessage) : Json :=
  .object <|
    [Json.member "ctime" (.ofInt64 m.createdAt), Json.member "etime" (.ofInt64 m.expiresAt),
      Json.member "is_disabled" (.bool m.isDisabled)] ++
    Json.memberUnless m.signature.isEmpty "signature" (.ofBytes m.signature)

def ofJson? (j : Json) : Option DisableMessage := do
  match ← j.record? ["ctime", "etime", "is_disabled", "signature"] with
  | [createdAt, expiresAt, isDisabled, signature] =>
    return {
      createdAt := ← Json.field Json.int64? createdAt
      expiresAt := ← Json.field Json.int64? expiresAt
      isDisabled := ← Json.field Json.bool? isDisabled
      signature := ← Json.fieldOr [] Json.bytes? signature }
  | _ => none

instance : Signed DisableMessage where
  toJson := toJson
  ofJson? := ofJson?
  signature := DisableMessage.signature
  withSignature m s := { m with signature := s }

variable [Scheme]

/-- A message in force that is short enough and signed by `key`. The end is compared with the start
last: it is not before now then, so adding to the start stays in range. -/
def validate (m : DisableMessage) (key : PublicKey) (now : Int64) : Except Error Unit :=
  if now < m.createdAt then .error (.signature .recordFromFuture)
  else if m.expiresAt < now then .error (.signature .recordExpired)
  else if m.createdAt + longest ≤ m.expiresAt then .error (.signature .recordTooLong)
  else if !Signed.isSignedBy m key then .error (.signature .record)
  else .ok ()

def recordName (key : PublicKey) (domain : String) : String :=
  Hex.encode (Scheme.digest key.encode) ++ "." ++ Text.trimBy (· = '.') domain

end DisableMessage

end Warrant
