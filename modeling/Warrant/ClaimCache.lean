import Warrant.Identity
import Warrant.Backoff

/-!
One claim for each destination. A lookup either finds a claim that is good for some time yet or says
what the authority has to be asked for; the answer comes back in a step of its own, and other calls
may come in between.
-/

namespace Warrant

def claimReserve : Int64 := 180

structure ClaimCache where
  entries : Table String Claim

inductive ClaimLookup
  | found (claim : Claim)
  | ask (query : ClaimQuery)
  deriving DecidableEq

def namedClaim (explicit : Option String) : Option String :=
  explicit.filter fun name => !name.isEmpty

namespace ClaimCache

def empty : ClaimCache := ⟨∅⟩

def get? (c : ClaimCache) (destination : String) : Option Claim :=
  c.entries.get? destination

variable [Scheme]

def isUsable (usable : List PublicKey) (now : Int64) (claim : Claim) (destination : String)
    (explicit : Option String) : Bool :=
  Text.sameIgnoringCase claim.destination destination &&
    (claim.validate usable now).toBool &&
    decide (now + claimReserve < claim.validBefore) &&
    explicit.all claim.holds

/-- The authority does not resolve a requester's own name; a claim of that name is asked for
instead. -/
def query (requester : Requester) (destination : String) : Option String → ClaimQuery
  | some claim => .named claim destination
  | none =>
    if Text.sameIgnoringCase destination requester.entity then .named destination destination
    else .resolve destination

def lookup (c : ClaimCache) (usable : List PublicKey) (now : Int64) (requester : Requester)
    (destination : String) (explicit : Option String) : Except Error (ClaimCache × ClaimLookup) :=
  if destination.isEmpty then .error (.config .noDestination)
  else
    let named := namedClaim explicit
    match c.get? destination with
    | some claim =>
      if isUsable usable now claim destination named then .ok (c, .found claim)
      else .ok (⟨c.entries.erase destination⟩, .ask (query requester destination named))
    | none => .ok (c, .ask (query requester destination named))

def store (c : ClaimCache) (destination : String) (claim : Claim) : ClaimCache :=
  ⟨c.entries.put destination claim⟩

end ClaimCache

end Warrant
