import Warrant.Client.Recovery
import Warrant.Config
import Warrant.Derelict
import Warrant.Disable.Monitor
import Warrant.Inbound
import Warrant.Identity
import Warrant.Outbound
import Warrant.Registry.Refresh

namespace Warrant

inductive ActiveIdentity
  | registered (handle : Handle)
  | enrolled (key : PrivateKey)
  deriving DecidableEq

namespace ActiveIdentity

def credential? (i : ActiveIdentity) (r : Registry) : Option Credential :=
  match i with
  | .registered handle => r.current? handle
  | .enrolled _ => none

def requester? (i : ActiveIdentity) (r : Registry) (config : Config) : Option Requester :=
  match i with
  | .registered handle =>
    (r.current? handle).map fun c =>
      ⟨config.serviceName, c.key, some c.certificate, config.implicitClaims⟩
  | .enrolled key => some ⟨config.serviceName, key, none, config.implicitClaims⟩

end ActiveIdentity

structure Client where
  config : Config
  identity : ActiveIdentity
  isDisabled : Bool
  /-- A client that is configured as disabled has no monitor. -/
  monitor : Option DisableMonitor
  enforcement : Enforcement
  derelicts : DerelictList
  outbound : Outbound
  refresher : DerelictRefresher
  checkDue : Nat
  recoveries : Recoveries
  stopping : Bool
  closed : Bool

/-- A client in the making: its configuration is in order and the disable records have been looked
at. -/
structure Founding where
  config : Config
  isDisabled : Bool
  monitor : Option DisableMonitor
  consulted : List PublicKey

namespace Founding

variable [Scheme]

def start (config : Config) (keys : AuthorityKeys) (records : DisableMonitor.Records)
    (now : Moment) : Except Error Founding := do
  config.validate
  if keys.isEmpty then throw (.config .noAuthorityKeys)
  if config.disabled then return ⟨config, true, none, []⟩
  else
    let monitor ← DisableMonitor.make config.recordDomain (keys.usable now)
    let checked := monitor.check false records (keys.usable now) now.second
    return ⟨config, checked.isDisabled, some checked.monitor, checked.consulted⟩

def upgrade? (credential : Credential) (key : PrivateKey) (serial : UInt64) (wall : Int64) :
    Option Renewal :=
  if credential.certificate.isBootstrap then some (.start credential key serial wall) else none

/-- A client does without the exchange only while the library is disabled. -/
def upgraded (f : Founding) (renewal : Renewal) (usable : List PublicKey) (wall : Int64)
    (reply : Except Error Certificate) : Except Error Credential :=
  match reply.bind (renewal.finish usable wall) with
  | .ok credential => .ok credential
  | .error e => if f.isDisabled then .ok renewal.current else .error e

omit [Scheme] in
def registry (f : Founding) : LiveRegistry :=
  .make (Timings.period f.config.timings.certificateRefresh)

omit [Scheme] in
def finish (f : Founding) (identity : ActiveIdentity) (now : Nat) : Client × List LogEvent :=
  let (fraction, log) := f.config.enforceFraction
  let derelicts := DerelictList.make (Timings.period f.config.timings.derelictRefresh)
  ({ config := f.config
     identity
     isDisabled := f.isDisabled
     monitor := f.monitor
     enforcement := .make fraction
     derelicts
     outbound := .empty
     refresher := .wake f.isDisabled derelicts now
     checkDue := now + Timings.period f.config.timings.disableCheck
     recoveries := .idle
     stopping := false
     closed := false }, log)

omit [Scheme] in
def join (f : Founding) (identity : Identity) (l : LiveRegistry) (endpoint : String)
    (context : RefreshContext) (now : Nat) : Client × LiveRegistry × List LogEvent :=
  match identity with
  | .certified credential =>
    let (l, handle) := l.register credential endpoint context now
    let (client, log) := f.finish (.registered handle) now
    (client, l, log)
  | .enrolled _ key =>
    let (client, log) := f.finish (.enrolled key) now
    (client, l, log)

end Founding

namespace Client

def timeout (c : Client) : Nat :=
  c.config.requestTimeout.toNat

def retry (c : Client) : Nat :=
  Timings.period c.config.timings.recoveryRetry

def checkPeriod (c : Client) : Nat :=
  Timings.period c.config.timings.disableCheck

def inbound (c : Client) : Inbound :=
  ⟨c.config.serviceName, c.config.destinations, c.config.allowedEntities⟩

def requester? (c : Client) (r : Registry) : Option Requester :=
  c.identity.requester? r c.config

def credential? (c : Client) (r : Registry) : Option Credential :=
  c.identity.credential? r

def setEnforcement (c : Client) (fraction : Float) : Except Error (Client × LogEvent) :=
  (Enforcement.set fraction).map fun (enforcement, event) => ({ c with enforcement }, event)

def circumstances (c : Client) (keys : AuthorityKeys) (now : Moment) (drawn : Float) :
    Inbound.Circumstances where
  usable := keys.usable now
  now := now.second
  isDerelict caller := c.derelicts.contains caller now
  enforcement := c.enforcement.fraction
  enforced := c.enforcement.enforces drawn

/-- The signal that the library has been enabled again is taken up. A recovery starts, unless one is
under way. -/
def deliver (c : Client) : Client :=
  match c.monitor with
  | some monitor =>
    if monitor.recovered then
      { c with
        monitor := some { monitor with recovered := false }
        recoveries := c.recoveries.start }
    else c
  | none => c

def stop (c : Client) : Client :=
  { c with stopping := true, refresher := c.refresher.shut }

def setRecovery (c : Client) (number : Nat) (next : Recovery) : Client :=
  { c with recoveries := c.recoveries.set number next }

def dismissRecovery (c : Client) (number : Nat) : Client :=
  match c.recoveries.tasks.get? number with
  | some (.resting _) => if c.stopping then c.setRecovery number .leaving else c
  | _ => c

def endRecovery (c : Client) (number : Nat) : Client :=
  { c with recoveries := c.recoveries.leave number }

/-- Every recovery that can go without waiting any more goes. -/
def settle (c : Client) : Client :=
  c.recoveries.tasks.keys.foldl (fun c number => (c.dismissRecovery number).endRecovery number) c

inductive Closing
  | done
  | releasing (handle : Handle)
  deriving DecidableEq

/-- Only the first call leaves anything to do. -/
def startClosing (c : Client) : Client × Closing :=
  if c.closed then (c, .done)
  else
    match c.identity with
    | .registered handle => ({ c.stop with closed := true }, .releasing handle)
    | .enrolled _ => ({ c.stop with closed := true }, .done)

def Closing.finish (l : LiveRegistry) : Closing → LiveRegistry × Except Error Unit
  | .done => (l, .ok ())
  | .releasing handle =>
    match l.unregister handle with
    | .ok l => (l, .ok ())
    | .error e => (l, .error e)

def close (c : Client) (l : LiveRegistry) : Client × LiveRegistry × Except Error Unit :=
  let (c, rest) := c.startClosing
  let (l, result) := rest.finish l
  (c, l, result)

def wakeRefresher (c : Client) (now : Nat) : Client :=
  { c with refresher := .wake c.isDisabled c.derelicts now }

/-- A fetch that ends after the tasks have been told to stop still counts, and is the last one. -/
def derelictsReplied (c : Client) (now : Nat) (reply : Except Error DerelictReply) : Client :=
  let (derelicts, refresher) := DerelictRefresher.replied c.derelicts now reply
  { c with derelicts, refresher := if c.stopping then refresher.shut else refresher }

def wakeRecovery (c : Client) (number : Nat) : Client :=
  match c.recoveries.tasks.get? number with
  | some (.resting _) => c.setRecovery number .checkingHealth
  | _ => c

def installRecovered (c : Client) (number : Nat) (l : LiveRegistry) (now : Nat) :
    Client × LiveRegistry :=
  match c.identity, c.recoveries.tasks.get? number with
  | .registered handle, some (.installing credential) =>
    let (registry, next) := Recovery.install l.registry handle credential now c.retry
    (c.setRecovery number next, { l with registry })
  | _, _ => (c, l)

variable [Scheme]

def healthReplied (c : Client) (number : Nat) (r : Registry) (now : Nat) (key : PrivateKey)
    (serial : UInt64) (wall : Int64) (reply : Except Error Unit) : Client :=
  match c.recoveries.tasks.get? number with
  | some .checkingHealth =>
    c.setRecovery number
      (Recovery.healthReplied (c.credential? r) now c.retry key serial wall reply)
  | _ => c

def signReplied (c : Client) (number : Nat) (usable : List PublicKey) (now : Nat) (wall : Int64)
    (reply : Except Error Certificate) : Client :=
  match c.recoveries.tasks.get? number with
  | some (.renewing renewal) =>
    c.setRecovery number (Recovery.signReplied renewal usable now c.retry wall reply)
  | _ => c

def checkRecords (c : Client) (records : DisableMonitor.Records) (usable : List PublicKey)
    (now : Int64) : Client × List PublicKey :=
  match c.monitor with
  | some monitor =>
    let checked := monitor.check c.isDisabled records usable now
    ({ c with monitor := some checked.monitor, isDisabled := checked.isDisabled },
      checked.consulted)
  | none => (c, [])

def checkDueRecords (c : Client) (records : DisableMonitor.Records) (usable : List PublicKey)
    (now : Nat) (wall : Int64) : Client × List PublicKey :=
  let (c, consulted) := c.checkRecords records usable wall
  ({ c with checkDue := now + c.checkPeriod }, consulted)

end Client

end Warrant
