import Warrant.Certificate

namespace Warrant

structure Requester where
  entity : String
  key : PrivateKey
  certificate : Option Certificate
  implicitClaims : List String
  deriving DecidableEq

inductive ClaimQuery
  | resolve (target : String)
  | named (claim destination : String)
  deriving DecidableEq

inductive Identity
  | certified (credential : Credential)
  | enrolled (entity : String) (key : PrivateKey)
  deriving DecidableEq

namespace Identity

def entity : Identity → String
  | .certified credential => credential.certificate.entity
  | .enrolled entity _ => entity

abbrev Files := (path : String) → Option Bytes

variable [Scheme]

def ofFiles (wording : Bytes → String) (files : Files) (certificatePath keyPath : String) :
    Except Error Identity := do
  match files certificatePath with
  | none => throw (.io (.file certificatePath))
  | some bytes =>
    match Record.ofBytes? (α := Certificate) bytes with
    | none => throw (.encoding (wording bytes))
    | some certificate =>
      match (files keyPath).bind Text.ofUtf8? with
      | none => throw (.io (.file keyPath))
      | some text =>
        let key ← PrivateKey.readText text
        let certified ← certificate.publicKey
        if certified ≠ key.publicKey then throw (.config (.keyMismatch keyPath certificate.entity))
        return .certified ⟨certificate, key⟩

/-- The files that two variables name; an empty variable counts as unset, and both are set or
none. -/
def ofPaths (wording : Bytes → String) (files : Files)
    (certificatePath keyPath : Option String) : Except Error (Option Identity) :=
  let set (path : Option String) := path.filter fun p => !p.isEmpty
  match set certificatePath, set keyPath with
  | some certificatePath, some keyPath => (ofFiles wording files certificatePath keyPath).map some
  | none, none => .ok none
  | _, _ => .error (.config .halfIdentity)

end Identity

end Warrant
