import Warrant.ClaimCache
import Warrant.Metadata

namespace Warrant

structure Outbound where
  cache : ClaimCache
  skips : SkipList

inductive Started (α : Type)
  | done (result : α)
  | asking (query : ClaimQuery)

namespace Outbound

def empty : Outbound := ⟨.empty, .empty⟩

def settle (o : Outbound) (destination : String) (now : Nat) (reply : Except Error Claim) :
    Outbound :=
  match reply with
  | .ok claim => { o with cache := o.cache.store destination claim }
  | .error _ => { o with skips := o.skips.fail destination now }

variable [Scheme]

def resolve (o : Outbound) (usable : List PublicKey) (wall : Int64) (requester : Requester)
    (destination : String) (explicit : Option String) :
    Outbound × Started (Except Error Claim) :=
  match o.cache.lookup usable wall requester destination explicit with
  | .error e => (o, .done (.error e))
  | .ok (cache, .found claim) => ({ o with cache }, .done (.ok claim))
  | .ok (cache, .ask query) => ({ o with cache }, .asking query)

def requested (metadata : Metadata) (explicit : Option String) : Option String :=
  match namedClaim explicit with
  | some claim => some claim
  | none => metadata.claimRequest

def attach (metadata : Metadata) : Except Error Claim → Metadata
  | .ok claim => metadata.withToken (Record.marshal claim)
  | .error _ => metadata

def authenticate (o : Outbound) (isDisabled : Bool) (now : Nat) (usable : List PublicKey)
    (wall : Int64) (requester : Requester) (metadata : Metadata) (destination : String)
    (explicit : Option String) : Outbound × Started Metadata :=
  if isDisabled || destination.isEmpty || o.skips.skips destination now then (o, .done metadata)
  else
    match o.resolve usable wall requester destination (requested metadata explicit) with
    | (o, .done result) => (o, .done (attach metadata result))
    | (o, .asking query) => (o, .asking query)

def credentialOf (reply : Except Error Claim) : Except Error String :=
  reply.map Record.marshal

def credential (o : Outbound) (isDisabled : Bool) (now : Nat) (usable : List PublicKey)
    (wall : Int64) (requester : Requester) (destination : String) (explicit : Option String) :
    Outbound × Started (Except Error String) :=
  if isDisabled then (o, .done (.ok ""))
  else if o.skips.skips destination now then (o, .done (.error (.destinationSkipped destination)))
  else
    match o.resolve usable wall requester destination explicit with
    | (o, .done result) => (o, .done (credentialOf result))
    | (o, .asking query) => (o, .asking query)

end Outbound

end Warrant
