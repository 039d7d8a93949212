import Warrant.Host.Wait

/-!
A host: the clients of one process, with the key sets and the registries that they share, and their
background tasks. Key sets, registries and clients go by numbers, which are not used again.
-/

namespace Warrant

structure Seat where
  client : Client
  keys : Nat
  registry : Nat
  /-- The registry goes with the client. -/
  ownsRegistry : Bool
  /-- Nobody holds the client any more. -/
  abandoned : Bool

structure Host where
  keySets : Table Nat AuthorityKeys
  registries : Table Nat LiveRegistry
  seats : Table Nat Seat

inductive HostTask
  | renewal (registry generation : Nat)
  | derelicts (client : Nat)
  | checks (client : Nat)
  | recovery (client number : Nat)
  deriving DecidableEq

namespace Host

def empty : Host := ⟨∅, ∅, ∅⟩

def keySet (h : Host) (number : Nat) : AuthorityKeys :=
  (h.keySets.get? number).getD .empty

/-- Numbers that have not been given stand for an empty registry. -/
def registry (h : Host) (number : Nat) : LiveRegistry :=
  (h.registries.get? number).getD (.make 1)

def usable (h : Host) (keys : Nat) (wall : Int64) : List PublicKey :=
  (h.keySet keys).usable (.ofSecond wall)

def addKeys (h : Host) (keys : AuthorityKeys) : Host × Nat :=
  ({ h with keySets := h.keySets.put h.keySets.size keys }, h.keySets.size)

def setKeys (h : Host) (number : Nat) (keys : AuthorityKeys) : Host :=
  if h.keySets.contains number then { h with keySets := h.keySets.put number keys } else h

def addRegistry (h : Host) (l : LiveRegistry) : Host × Nat :=
  ({ h with registries := h.registries.put h.registries.size l }, h.registries.size)

def setRegistry (h : Host) (number : Nat) (l : LiveRegistry) : Host :=
  if h.registries.contains number then { h with registries := h.registries.put number l } else h

def client? (h : Host) (number : Nat) : Option Client :=
  (h.seats.get? number).map Seat.client

def setClient (h : Host) (number : Nat) (client : Client) : Host :=
  match h.seats.get? number with
  | some s => { h with seats := h.seats.put number { s with client } }
  | none => h

def credential? (h : Host) (number : Nat) : Option Credential :=
  (h.seats.get? number).bind fun s => s.client.credential? (h.registry s.registry).registry

def requester? (h : Host) (number : Nat) : Option Requester :=
  (h.seats.get? number).bind fun s => s.client.requester? (h.registry s.registry).registry

def join (h : Host) (f : Founding) (identity : Identity) (shared : Option Nat) (endpoint : String)
    (context : RefreshContext) (now : Nat) : Host × Nat × List LogEvent :=
  let (h, registry) :=
    match shared with
    | some number => (h, number)
    | none => h.addRegistry f.registry
  let (client, l, log) := f.join identity (h.registry registry) endpoint context now
  let number := h.seats.size
  let seat : Seat := ⟨client, context.keys, registry, shared.isNone, false⟩
  ({ h.setRegistry registry l with seats := h.seats.put number seat }, number, log)

def close (h : Host) (number : Nat) : Host × Except Error Unit :=
  match h.seats.get? number with
  | some s =>
    let (client, l, result) := s.client.close (h.registry s.registry)
    ((h.setRegistry s.registry l).setClient number client.settle, result)
  | none => (h, .ok ())

/-- An abandoned client takes its own registry with it, but not while a recovery is under way: that
one still works with the registry, whose tasks go on in the meantime. -/
def release (h : Host) (number : Nat) : Host :=
  match h.seats.get? number with
  | some s =>
    if s.abandoned && s.ownsRegistry && !s.client.recoveries.busy then (h.close number).1 else h
  | none => h

/-- What becomes of a client that nobody holds any more: its tasks stop, but in a shared registry
its certificate stays registered. -/
def drop (h : Host) (number : Nat) : Host :=
  match h.seats.get? number with
  | some s =>
    let seat := { s with client := s.client.stop.settle, abandoned := true }
    { h with seats := h.seats.put number seat }.release number
  | none => h

def tasks (h : Host) : List HostTask :=
  h.registries.entries.flatMap (fun (number, l) => l.tasks.keys.map (.renewal number)) ++
    h.seats.entries.flatMap fun (number, s) =>
      [.derelicts number, .checks number] ++
        s.client.recoveries.tasks.keys.map (.recovery number)

def wait? (h : Host) : HostTask → Option Wait
  | .renewal registry generation =>
    ((h.registry registry).tasks.get? generation).bind RefreshTask.wait?
  | .derelicts number =>
    (h.seats.get? number).bind fun s => s.client.refresherWait? (h.registry s.registry).registry
  | .checks number => (h.client? number).bind Client.checkWait?
  | .recovery client number => (h.client? client).bind fun c => c.recoveryWait? number

variable [Scheme]

def sweep (h : Host) : Host :=
  h.registries.keys.foldl (fun h number => h.setRegistry number (h.registry number).sweep) h

def recordNames (c : Client) (keys : List PublicKey) : List String :=
  keys.map fun key => DisableMessage.recordName key c.config.recordDomain

def heed (c : Client) : Client :=
  if c.stopping then c else c.deliver

def check (h : Host) (number : Nat) (records : DisableMonitor.Records) (wall : Int64) :
    Host × List String :=
  match h.seats.get? number with
  | some s =>
    let (client, consulted) := s.client.checkRecords records (h.usable s.keys wall) wall
    (h.setClient number (heed client), recordNames client consulted)
  | none => (h, [])

def tellRenewal (h : Host) (circumstances : Host.Circumstances) (registry generation : Nat)
    (news : News) : Host :=
  let l := h.registry registry
  let keys := ((l.tasks.get? generation).map fun t => t.context.keys).getD 0
  let wall := circumstances.wall
  let told (event next : RefreshTask.Event) : Host :=
    h.setRegistry registry ((l.step generation event).step generation next)
  match news with
  | .due => told (.wake circumstances.now) (.read circumstances.key circumstances.serial wall)
  | .certificate reply => told (.authority (h.usable keys wall) wall reply) .install
  | .daemon reply => told (.daemon (h.usable keys wall) wall reply) .install
  | _ => h

def tellRefresher (c : Client) (now : Nat) : News → Client
  | .due => c.wakeRefresher now
  | .derelicts reply => c.derelictsReplied now reply
  | _ => c

def tellChecks (h : Host) (circumstances : Host.Circumstances) (number : Nat) :
    Host × List String :=
  match h.seats.get? number with
  | some s =>
    let wall := circumstances.wall
    let (client, consulted) :=
      s.client.checkDueRecords circumstances.records (h.usable s.keys wall) circumstances.now wall
    (h.setClient number (heed client), recordNames client consulted)
  | none => (h, [])

def tellRecovery (h : Host) (circumstances : Host.Circumstances) (client number : Nat)
    (news : News) : Host :=
  match h.seats.get? client with
  | some s =>
    let l := h.registry s.registry
    let now := circumstances.now
    let wall := circumstances.wall
    match news with
    | .due => h.setClient client (s.client.wakeRecovery number)
    | .health reply =>
      h.setClient client <| Client.settle <|
        s.client.healthReplied number l.registry now circumstances.key circumstances.serial wall
          reply
    | .certificate reply =>
      let c := s.client.signReplied number (h.usable s.keys wall) now wall reply
      let (c, l) := c.installRecovered number l now
      (h.setRegistry s.registry l).setClient client c.settle
    | _ => h
  | none => h

def tell (h : Host) (circumstances : Host.Circumstances) (task : HostTask) (news : News) :
    Host × List String :=
  match task with
  | .renewal registry generation => (h.tellRenewal circumstances registry generation news, [])
  | .derelicts number =>
    match h.client? number with
    | some c => (h.setClient number (tellRefresher c circumstances.now news), [])
    | none => (h, [])
  | .checks number => h.tellChecks circumstances number
  | .recovery client number =>
    ((h.tellRecovery circumstances client number news).release client, [])

end Host

end Warrant
