import Warrant.Registry
import Warrant.Renewal

/-!
The task that renews the certificate of one entry, time after time: the authority is asked first,
the local daemon only when that has failed. The task belongs to the entry that it was started for,
and ends when that entry has gone.
-/

namespace Warrant

inductive RefreshPhase
  | waiting
  | reading
  | renewing (renewal : Renewal)
  | askingDaemon (current : Credential) (cause : Error)
  | installing (credential : Credential)
  deriving DecidableEq

structure RefreshContext where
  hasDaemon : Bool
  /-- The number of the key set that certificates are checked with. -/
  keys : Nat
  deriving DecidableEq

structure RefreshTask where
  key : RegistryKey
  generation : Nat
  context : RefreshContext
  period : Nat
  due : Nat
  phase : RefreshPhase
  deriving DecidableEq

namespace RefreshTask

def make (key : RegistryKey) (generation : Nat) (context : RefreshContext) (period now : Nat) :
    RefreshTask :=
  { key, generation, context, period, due := now + period, phase := .waiting }

abbrev Stepped := Registry × Option RefreshTask

def settle (t : RefreshTask) : Except Error Credential → RefreshTask
  | .ok credential => { t with phase := .installing credential }
  | .error _ => { t with phase := .waiting }

def install (t : RefreshTask) (r : Registry) : Stepped :=
  match t.phase with
  | .installing credential =>
    match r.refresh? t.key t.generation credential with
    | some r => (r, some { t with phase := .waiting })
    | none => (r, none)
  | _ => (r, some t)

def halt (t : RefreshTask) (r : Registry) : Stepped :=
  (r, if t.phase = .waiting ∧ r.owns t.key t.generation = false then none else some t)

def bothFailed (authority daemon : Error) : Error :=
  .authorityUnavailable (.bothFailed authority.message daemon.message)

/-- An attempt is due. The next one will be a period after this one started, or at once if this one
takes longer. -/
def wake (t : RefreshTask) (r : Registry) (now : Nat) : Stepped :=
  match t.phase with
  | .waiting => (r, some { t with due := now + t.period, phase := .reading })
  | _ => (r, some t)

variable [Scheme]

def read (t : RefreshTask) (r : Registry) (key : PrivateKey) (serial : UInt64) (wall : Int64) :
    Stepped :=
  match t.phase, r.find? t.key with
  | .reading, some e =>
    if e.generation = t.generation then
      (r, some { t with phase := .renewing (.start e.current key serial wall) })
    else (r, none)
  | .reading, none => (r, none)
  | _, _ => (r, some t)

def authorityReplied (t : RefreshTask) (r : Registry) (usable : List PublicKey) (wall : Int64)
    (reply : Except Error Certificate) : Stepped :=
  match t.phase with
  | .renewing renewal =>
    match reply.bind (renewal.finish usable wall) with
    | .ok credential => (r, some (t.settle (.ok credential)))
    | .error e =>
      if t.context.hasDaemon then (r, some { t with phase := .askingDaemon renewal.current e })
      else (r, some (t.settle (.error e)))
  | _ => (r, some t)

def daemonReplied (t : RefreshTask) (r : Registry) (usable : List PublicKey) (wall : Int64)
    (reply : Except Error Credential) : Stepped :=
  match t.phase with
  | .askingDaemon _ cause =>
    let checked := do
      let credential ← reply
      credential.certificate.check usable wall
      return credential
    (r, some (t.settle (checked.mapError (bothFailed cause))))
  | _ => (r, some t)

inductive Event
  | wake (now : Nat)
  | read (key : PrivateKey) (serial : UInt64) (wall : Int64)
  | authority (usable : List PublicKey) (wall : Int64) (reply : Except Error Certificate)
  | daemon (usable : List PublicKey) (wall : Int64) (reply : Except Error Credential)
  | install
  | halt

def step (t : RefreshTask) (r : Registry) : Event → Stepped
  | .wake now => t.wake r now
  | .read key serial wall => t.read r key serial wall
  | .authority usable wall reply => t.authorityReplied r usable wall reply
  | .daemon usable wall reply => t.daemonReplied r usable wall reply
  | .install => t.install r
  | .halt => t.halt r

end RefreshTask

structure LiveRegistry where
  registry : Registry
  tasks : Table Nat RefreshTask
  period : Nat

namespace LiveRegistry

def make (period : Nat) : LiveRegistry := ⟨.empty, ∅, period⟩

def putTask (l : LiveRegistry) (generation : Nat) (s : RefreshTask.Stepped) : LiveRegistry :=
  { l with
    registry := s.1
    tasks :=
      match s.2 with
      | some t => l.tasks.put generation t
      | none => l.tasks.erase generation }

def reserve (l : LiveRegistry) : LiveRegistry × Nat :=
  let (registry, id) := l.registry.reserve
  ({ l with registry }, id)

/-- What a registration does once nobody else is at work in the registry. A new entry comes with a
task of its own. -/
def enter (l : LiveRegistry) (id : Nat) (credential : Credential) (endpoint : String)
    (context : RefreshContext) (now : Nat) : LiveRegistry × Handle :=
  let key := RegistryKey.of credential.certificate endpoint
  match l.registry.find? key with
  | some e => ({ l with registry := l.registry.join key e id }, ⟨id, key⟩)
  | none =>
    ({ l with
       registry := l.registry.create key id credential
       tasks := l.tasks.push id (.make key id context l.period now) }, ⟨id, key⟩)

def register (l : LiveRegistry) (credential : Credential) (endpoint : String)
    (context : RefreshContext) (now : Nat) : LiveRegistry × Handle :=
  let (l, id) := l.reserve
  l.enter id credential endpoint context now

def unregister (l : LiveRegistry) (h : Handle) : Except Error LiveRegistry := do
  let registry ← l.registry.unregister h
  return { l with registry }

def update (l : LiveRegistry) (h : Handle) (credential : Credential) :
    Except Error LiveRegistry := do
  let registry ← l.registry.update h credential
  return { l with registry }

variable [Scheme]

def step (l : LiveRegistry) (generation : Nat) (event : RefreshTask.Event) : LiveRegistry :=
  match l.tasks.get? generation with
  | some t => l.putTask generation (t.step l.registry event)
  | none => l

def sweep (l : LiveRegistry) : LiveRegistry :=
  l.tasks.keys.foldl (fun l generation => l.step generation .halt) l

end LiveRegistry

end Warrant
