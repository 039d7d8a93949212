import Warrant.Certificate.Request
import Warrant.Derelict
import Warrant.Limit

namespace Warrant.Rehearsal

structure Manner where
  fails : Bool
  /-- Seconds until the reply. -/
  delay : Nat

inductive Flaw
  | none
  /-- They certify the key of the certificate that is held already. -/
  | otherKey
  | expired
  | unsigned
  deriving DecidableEq

inductive DaemonScript
  | down
  | hangs
  | issues (flaw : Flaw)

structure Script where
  key : PrivateKey
  claims : Manner
  certificates : Manner
  health : Manner
  derelicts : Manner
  /-- Signs claims, if that is not the authority's key. -/
  claimKey : Option PrivateKey
  claimStart : Int64
  claimLifetime : Int64
  /-- What claims grant, if not what was asked for. -/
  grants : Option (List String)
  /-- Whom claims are for, if not the one that was asked for. -/
  destination : Option String
  flaw : Flaw
  /-- The list of derelicts, or what is said of one that cannot be read. -/
  list : Except String DerelictReply
  daemon : DaemonScript
  failsRecords : Bool

namespace Manner

def answer {α : Type} (m : Manner) (what : String) (reply : Except Error α) : Except Error α :=
  if m.fails then .error (.authorityUnavailable (.other (what ++ " unavailable"))) else reply

end Manner

namespace Script

def expiredWindow : Int64 × Int64 := (0, 10)

def daemonKey (n : Nat) : PrivateKey :=
  ⟨List.replicate 32 (UInt8.ofNat (200 + n)), by simp⟩

def candidateKey (n : Nat) : PrivateKey :=
  ⟨Bytes.ofNatBigEndian 32 (Nat.pow 2 200 + n), by simp [Bytes.ofNatBigEndian]⟩

def daemonDelay (s : Script) : Nat :=
  match s.daemon with
  | .hangs => 3600
  | _ => 0

variable [Scheme]

def claim (s : Script) (r : Requester) (query : ClaimQuery) (now : Int64) : Except Error Claim :=
  let issue (grants : List String) (destination : String) : Claim :=
    Signed.sign (s.claimKey.getD s.key) <|
      .make r.entity (s.grants.getD grants) (s.destination.getD destination) (now + s.claimStart)
        s.claimLifetime
  match query with
  | .resolve target =>
    s.claims.answer "resolve" (.ok (issue (everyone :: r.entity :: r.implicitClaims) target))
  | .named claim destination => s.claims.answer "claim" (.ok (issue [claim] destination))

def certificate (s : Script) (request : SigningRequest) : Except Error Certificate :=
  let c := request.certificate
  s.certificates.answer "certificate" <| request.verify.map fun _ =>
    match s.flaw with
    | .none => Signed.sign s.key c
    | .otherKey => Signed.sign s.key { c with key := request.signingCertificate.key }
    | .expired =>
      Signed.sign s.key { c with validAfter := expiredWindow.1, validBefore := expiredWindow.2 }
    | .unsigned => c

omit [Scheme] in
def derelictReply (s : Script) : Except Error DerelictReply :=
  s.derelicts.answer "derelicts" (s.list.mapError .encoding)

def credential (s : Script) (n : Nat) (current : Credential) (now : Int64) :
    Except Error Credential :=
  let key := daemonKey n
  let issued (flaw : Flaw) : Certificate :=
    let (validAfter, validBefore) := if flaw = .expired then expiredWindow else (now, now + 7200)
    { current.certificate with
      key := key.publicKey.encode
      serial := UInt64.ofNat n
      validAfter
      validBefore
      signature := [] }
  match s.daemon with
  | .down => .error (.io (.other "daemon down"))
  | .hangs => .ok ⟨Signed.sign s.key (issued .none), key⟩
  | .issues .unsigned => .ok ⟨issued .unsigned, key⟩
  | .issues flaw => .ok ⟨Signed.sign s.key (issued flaw), key⟩

end Script

end Warrant.Rehearsal
