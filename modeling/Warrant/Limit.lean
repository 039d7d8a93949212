import Warrant.Error
import Warrant.Identity

namespace Warrant

structure Limit where
  seconds : Nat
  fault : AuthorityFault
  deriving DecidableEq

namespace Limit

/-- Seconds that one attempt to renew a registered certificate may take, with the authority and once
more with the daemon. -/
def refreshSeconds : Nat := 5

def ofQuery (seconds : Nat) : ClaimQuery → Limit
  | .resolve target => ⟨seconds, .claimTimeout target⟩
  | .named _ destination => ⟨seconds, .claimTimeout destination⟩

def derelicts (seconds : Nat) : Limit := ⟨seconds, .derelictTimeout⟩

def upgrade (seconds : Nat) : Limit := ⟨seconds, .upgradeTimeout⟩

def health (seconds : Nat) : Limit := ⟨seconds, .healthTimeout⟩

def refresh : Limit := ⟨refreshSeconds, .refreshTimeout⟩

def daemonRefresh : Limit := ⟨refreshSeconds, .daemonRefreshTimeout⟩

def allows (l : Limit) (taken : Nat) : Bool :=
  decide (taken ≤ l.seconds)

def spent (l : Limit) (taken : Nat) : Nat :=
  min taken l.seconds

def exceeded (l : Limit) : Error :=
  .authorityUnavailable l.fault

def settle {α : Type} (l : Limit) (taken : Nat) (reply : Except Error α) : Except Error α :=
  if l.allows taken then reply else .error l.exceeded

end Limit

end Warrant
