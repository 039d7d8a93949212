import Warrant.Rehearsal.Stage

namespace Warrant.Rehearsal

abbrev Play := StateT Stage Option

namespace Play

def seat (number : Nat) : Play Seat := do
  (← get).host.seats.get? number

def client (number : Nat) : Play Client := do
  return (← seat number).client

def changeClient (number : Nat) (f : Client → Client) : Play Unit := do
  let c ← client number
  modify fun s => s.setClient number (f c)

def changeHost (f : Host → Host) : Play Unit :=
  modify fun s => { s with host := f s.host }

def addKeys (keys : AuthorityKeys) : Play Nat := do
  let (host, number) := (← get).host.addKeys keys
  changeHost fun _ => host
  return number

def changeKeys (f : AuthorityKeys → AuthorityKeys) : Play Unit :=
  changeHost fun h => h.setKeys own (f (h.keySet own))

def shiftWall (seconds : Int64) : Play Unit :=
  modify fun s => { s with start := s.start + seconds }

def direct (script : Script) : Play Unit :=
  modify fun s => { s with script }

def drop (number : Nat) : Play Unit :=
  changeHost fun h => h.drop number

def applyManifest (m : Manifest) [Scheme] : Play Unit := do
  let now := (← get).wall
  changeKeys fun ks => ks.apply m (.ofSecond now)

def publish (key : PublicKey) (texts : List String) [Scheme] : Play Unit := do
  let name := DisableMessage.recordName key (← client own).config.recordDomain
  modify fun s => { s with records := s.records.insert name texts }

def withdraw (key : PublicKey) [Scheme] : Play Unit := do
  let name := DisableMessage.recordName key (← client own).config.recordDomain
  modify fun s => { s with records := s.records.erase name }

def failDestination (destination : String) : Play Unit := do
  let now := (← get).instant
  changeClient own fun c =>
    { c with outbound := { c.outbound with skips := c.outbound.skips.fail destination now } }

def applyDerelicts (reply : DerelictReply) : Play Unit :=
  changeClient own fun c => { c with derelicts := c.derelicts.apply reply }

def unregister (handle : Handle) : Play (Except Error Unit) := do
  match ((← get).host.registry own).unregister handle with
  | .ok l =>
    changeHost fun h => h.setRegistry own l
    return .ok ()
  | .error e => return .error e

def update (handle : Handle) (credential : Credential) : Play (Except Error Unit) := do
  match ((← get).host.registry own).update handle credential with
  | .ok l =>
    changeHost fun h => h.setRegistry own l
    return .ok ()
  | .error e => return .error e

def register (credential : Credential) (hasDaemon : Bool) : Play Handle := do
  let s ← get
  let (l, handle) :=
    (s.host.registry own).register credential s.endpoint ⟨hasDaemon, own⟩ s.clock
  changeHost fun h => h.setRegistry own l
  return handle

def current (handle : Handle) : Play Credential := do
  ((← get).host.registry own).registry.current? handle

variable [Scheme]

/-! Inbound requests. -/

omit [Scheme] in
def circumstances (number : Nat) (drawn : Float) : Play Inbound.Circumstances := do
  let s ← get
  let seat ← seat number
  return seat.client.circumstances (s.host.keySet seat.keys) (.ofSecond s.wall) drawn

def evaluate (number : Nat) (drawn : Float) (token : Option String)
    (options : List InboundOption) : Play Decision := do
  let (d, log) :=
    (← client number).inbound.evaluate (← circumstances number drawn) token options
  modify (·.noteLog log)
  return d

def validate (number : Nat) (drawn : Float) (token : String) (options : List InboundOption) :
    Play (Except Refusal Unit) := do
  let c ← client number
  let (result, log) :=
    c.inbound.validate c.isDisabled (← circumstances number drawn) token options
  modify (·.noteLog log)
  return result

def receive (number : Nat) (drawn : Float) (metadata : Metadata) (options : List InboundOption) :
    Play (Metadata × Except Refusal Unit) := do
  let c ← client number
  let (metadata, result, log) :=
    c.inbound.authenticate c.isDisabled (← circumstances number drawn) metadata options
  modify (·.noteLog log)
  return (metadata, result)

omit [Scheme] in
def enforce (number : Nat) (fraction : Float) : Play (Except Error Unit) := do
  match (← client number).setEnforcement fraction with
  | .ok (c, event) =>
    modify fun s => (s.setClient number c).noteLog [event]
    return .ok ()
  | .error e => return .error e

/-! Calls of the authority that are waited for. -/

def wait (seconds : Nat) : Play Unit :=
  modify fun s => if seconds = 0 then s else s.pass seconds

def askClaim (timeout : Nat) (r : Requester) (query : ClaimQuery) : Play (Except Error Claim) := do
  modify (·.note (.claim r query))
  let limit := Limit.ofQuery timeout query
  let delay := (← get).script.claims.delay
  wait (limit.spent delay)
  let s ← get
  return limit.settle delay (s.script.claim r query s.wall)

def askSign (limit : Option Limit) (request : SigningRequest) :
    Play (Except Error Certificate) := do
  modify (·.note (.sign request))
  let script := (← get).script
  let delay := script.certificates.delay
  let reply := script.certificate request
  match limit with
  | some limit =>
    wait (limit.spent delay)
    return limit.settle delay reply
  | none =>
    wait delay
    return reply

def freshKey : Play PrivateKey := do
  let (s, key) := (← get).nextKey
  set s
  return key

def renew (held : Credential) : Play (Except Error Credential) := do
  let renewal := Renewal.start held (← freshKey) 1 (← get).wall
  let reply ← askSign none renewal.request
  let s ← get
  return reply.bind (renewal.finish (s.usable own) s.wall)

/-! Outbound requests. -/

def continued {α : Type} (number : Nat) (r : Requester) (destination : String)
    (first : Outbound × Started α) (last : Except Error Claim → α) : Play α := do
  changeClient number fun c => { c with outbound := first.1 }
  match first.2 with
  | .done result => return result
  | .asking query =>
    let reply ← askClaim (← client number).timeout r query
    let now := (← get).instant
    changeClient number fun c => { c with outbound := c.outbound.settle destination now reply }
    return last reply

def send (number : Nat) (r : Requester) (metadata : Metadata) (destination : String)
    (explicit : Option String) : Play Metadata := do
  let s ← get
  let seat ← seat number
  let c := seat.client
  continued number r destination
    (c.outbound.authenticate c.isDisabled s.instant (s.usable seat.keys) s.wall r metadata
      destination explicit)
    (Outbound.attach metadata)

def credential (number : Nat) (r : Requester) (destination : String) (explicit : Option String) :
    Play (Except Error String) := do
  let s ← get
  let seat ← seat number
  let c := seat.client
  continued number r destination
    (c.outbound.credential c.isDisabled s.instant (s.usable seat.keys) s.wall r destination
      explicit)
    Outbound.credentialOf

def resolve (number : Nat) (r : Requester) (destination : String) (explicit : Option String) :
    Play (Except Error Claim) := do
  let s ← get
  let seat ← seat number
  continued number r destination
    (seat.client.outbound.resolve (s.usable seat.keys) s.wall r destination explicit) id

/-! Clients. -/

def upgraded (f : Founding) (identity : Identity) (keys : Nat) : Play (Except Error Identity) := do
  match identity with
  | .certified held =>
    match Founding.upgrade? held (← freshKey) 1 (← get).wall with
    | some renewal =>
      let limit := Limit.upgrade f.config.requestTimeout.toNat
      let reply ← askSign (some limit) renewal.request
      let s ← get
      return (f.upgraded renewal (s.usable keys) s.wall reply).map .certified
    | none => return .ok identity
  | .enrolled .. => return .ok identity

def join (config : Config) (identity : Identity) (keys : Nat) (shared hasDaemon : Bool) :
    Play (Except Error Nat) := do
  let s ← get
  match Founding.start config (s.host.keySet keys) s.lookup (.ofSecond s.wall) with
  | .error e => return .error e
  | .ok f =>
    modify (·.noteLookups
      (f.consulted.map fun k => DisableMessage.recordName k config.recordDomain))
    match ← upgraded f identity keys with
    | .error e => return .error e
    | .ok identity =>
      let s ← get
      let (host, number, log) :=
        s.host.join f identity (if shared then some own else none) s.endpoint ⟨hasDaemon, keys⟩
          s.clock
      set ({ s with host }.noteLog log)
      return .ok number

def checkRecords (number : Nat) : Play Bool := do
  let s ← get
  let (host, names) := s.host.check number s.lookup s.wall
  set ({ s with host }.noteLookups names)
  return (← client number).isDisabled

def close (number : Nat) : Play (Except Error Unit) := do
  let (host, result) := (← get).host.close number
  changeHost fun _ => host
  return result

/-! Monitors and readers of the stage's own client. -/

def isDisabled : Play Bool := do
  return (← client own).isDisabled

def watch (domain : String) (keys : Nat) : Play (Except Error Nat) := do
  match DisableMonitor.make domain ((← get).usable keys) with
  | .ok monitor =>
    let number := (← get).watches.size
    modify fun s => { s with watches := s.watches.put number ⟨monitor, keys⟩ }
    return .ok number
  | .error e => return .error e

def checkWatch (number : Nat) : Play Bool := do
  modify (·.check number)
  isDisabled

def recovered (number : Nat) : Play Bool := do
  let w ← (← get).watches.get? number
  modify fun s =>
    { s with
      watches := s.watches.put number { w with monitor := { w.monitor with recovered := false } } }
  return w.monitor.recovered

def startRounds (watch period : Nat) : Play Unit :=
  modify fun s =>
    { s with rounds := s.rounds.put s.rounds.size ⟨watch, period, s.clock + period, false⟩ }

def refresh (r : Requester) : Play (Except Error Unit) := do
  if ← isDisabled then return .ok ()
  else
    modify (·.note (.derelicts r))
    let limit := Limit.derelicts (← client own).timeout
    let script := (← get).script
    wait (limit.spent script.derelicts.delay)
    let reply := limit.settle script.derelicts.delay script.derelictReply
    let now := (← get).clock
    changeClient own fun c =>
      { c with derelicts := (DerelictRefresher.replied c.derelicts now reply).1 }
    return reply.map fun _ => ()

def startReader (r : Requester) : Play Unit := do
  let c ← client own
  modify fun s =>
    let refresher := DerelictRefresher.wake c.isDisabled c.derelicts s.clock
    { s with readers := s.readers.put s.readers.size ⟨r, refresher, false⟩ }

end Play

/-- A stage on which nothing has happened yet. Its own client runs no tasks. -/
def Stage.make (config : Config) (keys : AuthorityKeys) (script : Script) (endpoint : String)
    (start : Int64) : Stage :=
  let (host, number) := Host.empty.addKeys keys
  let (host, registry) :=
    host.addRegistry (.make (Timings.period config.timings.certificateRefresh))
  let f : Founding := ⟨config, config.disabled, none, []⟩
  let (host, _) :=
    host.join f (.enrolled config.serviceName script.key) (some registry) endpoint
      ⟨false, number⟩ 0
  let stage : Stage :=
    { host
      script
      endpoint
      records := ∅
      start
      clock := 0
      candidates := 0
      pairs := 0
      watches := ∅
      rounds := ∅
      readers := ∅
      pending := []
      calls := []
      log := [] }
  stage.modifyOwn fun c => { c with refresher := .stopped }

end Warrant.Rehearsal
