import Warrant.Client
import Warrant.Limit

namespace Warrant

inductive Wait
  | clock (due : Nat)
  | certificate (limit : Limit) (request : SigningRequest)
  | daemon (limit : Limit) (current : Credential)
  | health (limit : Limit)
  | derelicts (limit : Limit) (requester : Requester)
  deriving DecidableEq

inductive News
  | due
  | certificate (reply : Except Error Certificate)
  | daemon (reply : Except Error Credential)
  | health (reply : Except Error Unit)
  | derelicts (reply : Except Error DerelictReply)

structure Host.Circumstances where
  now : Nat
  wall : Int64
  key : PrivateKey
  serial : UInt64
  records : DisableMonitor.Records

namespace RefreshTask

def wait? (t : RefreshTask) : Option Wait :=
  match t.phase with
  | .waiting => some (.clock t.due)
  | .renewing renewal => some (.certificate .refresh renewal.request)
  | .askingDaemon current _ => some (.daemon .daemonRefresh current)
  | .reading | .installing _ => none

end RefreshTask

namespace DerelictRefresher

def wait? (r : DerelictRefresher) (timeout : Nat) (requester : Option Requester) : Option Wait :=
  match r with
  | .fetching => requester.map (.derelicts (.derelicts timeout))
  | .resting due => some (.clock due)
  | .stopped => none

end DerelictRefresher

namespace Client

def refresherWait? (c : Client) (r : Registry) : Option Wait :=
  c.refresher.wait? c.timeout (c.requester? r)

def checkWait? (c : Client) : Option Wait :=
  if c.stopping || c.monitor.isNone then none else some (.clock c.checkDue)

def recoveryWait? (c : Client) (number : Nat) : Option Wait :=
  match c.recoveries.tasks.get? number with
  | some .checkingHealth => some (.health (.health c.timeout))
  | some (.renewing renewal) => some (.certificate (.upgrade c.timeout) renewal.request)
  | some (.resting due) => some (.clock due)
  | some (.installing _) | some .leaving => none
  | none => none

end Client

end Warrant
