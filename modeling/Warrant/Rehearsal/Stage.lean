import Warrant.Host
import Warrant.Rehearsal.Script

/-!
The stage of a rehearsal: a host, what is outside of it as the script has it, and a clock that moves
only while everybody waits. The first client of the host is the stage's own and has no tasks;
monitors and readers of derelicts that no client runs work for it.
-/

namespace Warrant.Rehearsal

inductive Call
  | claim (requester : Requester) (query : ClaimQuery)
  | sign (request : SigningRequest)
  | health
  | derelicts (requester : Requester)
  | daemon (current : Credential)
  | lookup (name : String)

structure Watch where
  monitor : DisableMonitor
  keys : Nat

structure Round where
  watch : Nat
  period : Nat
  due : Nat
  stopping : Bool

structure Reader where
  requester : Requester
  refresher : DerelictRefresher
  stopping : Bool

inductive Actor
  | task (task : HostTask)
  | round (number : Nat)
  | reader (number : Nat)
  deriving DecidableEq

structure Pending where
  due : Nat
  actor : Actor
  wait : Wait
  news : News

structure Stage where
  host : Host
  script : Script
  endpoint : String
  records : Dictionary (List String)
  /-- What the wall clock showed at the beginning, moved by later changes of it. -/
  start : Int64
  clock : Nat
  candidates : Nat
  pairs : Nat
  watches : Table Nat Watch
  rounds : Table Nat Round
  readers : Table Nat Reader
  pending : List Pending
  calls : List (Nat × Call)
  log : List LogEvent

/-- The number of the stage's own client, key set and registry. -/
def own : Nat := 0

namespace Stage

def wall (s : Stage) : Int64 :=
  s.start + Int64.ofInt s.clock

def instant (s : Stage) : Nat :=
  nanoseconds s.clock

def usable (s : Stage) (keys : Nat) : List PublicKey :=
  s.host.usable keys s.wall

def lookup (s : Stage) : DisableMonitor.Records := fun name =>
  if s.script.failsRecords then none else some ((s.records.get? name).getD [])

def note (s : Stage) (call : Call) : Stage :=
  { s with calls := s.calls ++ [(s.clock, call)] }

def noteLookups (s : Stage) (names : List String) : Stage :=
  names.foldl (fun s name => s.note (.lookup name)) s

def noteLog (s : Stage) (events : List LogEvent) : Stage :=
  { s with log := s.log ++ events }

def nextKey (s : Stage) : Stage × PrivateKey :=
  ({ s with candidates := s.candidates + 1 }, Script.candidateKey (s.candidates + 1))

def setClient (s : Stage) (number : Nat) (c : Client) : Stage :=
  { s with host := s.host.setClient number c }

def modifyOwn (s : Stage) (f : Client → Client) : Stage :=
  match s.host.client? own with
  | some c => s.setClient own (f c)
  | none => s

variable [Scheme]

def check (s : Stage) (number : Nat) : Stage :=
  match s.watches.get? number, s.host.client? own with
  | some w, some c =>
    let checked := w.monitor.check c.isDisabled s.lookup (s.usable w.keys) s.wall
    let names := checked.consulted.map fun k => DisableMessage.recordName k w.monitor.domain
    let s := { s with watches := s.watches.put number { w with monitor := checked.monitor } }
    (s.setClient own { c with isDisabled := checked.isDisabled }).noteLookups names
  | _, _ => s

def begin (s : Stage) : Wait → Stage × Nat × News
  | .clock due => (s, due - s.clock, .due)
  | .certificate limit request =>
    let delay := s.script.certificates.delay
    (s.note (.sign request), limit.spent delay,
      .certificate (limit.settle delay (s.script.certificate request)))
  | .daemon limit current =>
    let delay := s.script.daemonDelay
    let reply := limit.settle delay (s.script.credential (s.pairs + 1) current s.wall)
    let pairs := if reply.toBool then s.pairs + 1 else s.pairs
    ({ s.note (.daemon current) with pairs }, limit.spent delay, .daemon reply)
  | .health limit =>
    let m := s.script.health
    (s.note .health, limit.spent m.delay,
      .health (limit.settle m.delay (m.answer "health" (.ok ()))))
  | .derelicts limit requester =>
    let delay := s.script.derelicts.delay
    (s.note (.derelicts requester), limit.spent delay,
      .derelicts (limit.settle delay s.script.derelictReply))

omit [Scheme] in
def actors (s : Stage) : List Actor :=
  s.host.tasks.map .task ++ s.rounds.keys.map .round ++ s.readers.keys.map .reader

omit [Scheme] in
def wait? (s : Stage) : Actor → Option Wait
  | .task task => s.host.wait? task
  | .round number =>
    (s.rounds.get? number).bind fun r => if r.stopping then none else some (.clock r.due)
  | .reader number =>
    match s.readers.get? number, s.host.client? own with
    | some r, some c => r.refresher.wait? c.timeout (some r.requester)
    | _, _ => none

def attend (s : Stage) : Stage :=
  s.actors.foldl
    (fun s actor =>
      if s.pending.any fun p => p.actor = actor then s
      else
        match s.wait? actor with
        | some wait =>
          let (s, taken, news) := s.begin wait
          { s with pending := s.pending ++ [⟨s.clock + taken, actor, wait, news⟩] }
        | none => s)
    s

def tellTask (s : Stage) (task : HostTask) (news : News) : Stage :=
  let (s, key) := s.nextKey
  let (host, names) := s.host.tell ⟨s.clock, s.wall, key, 1, s.lookup⟩ task news
  { s with host }.noteLookups names

def tellRound (s : Stage) (number : Nat) : Stage :=
  match s.rounds.get? number with
  | some r =>
    let s := s.check r.watch
    { s with rounds := s.rounds.put number { r with due := s.clock + r.period } }
  | none => s

omit [Scheme] in
def tellReader (s : Stage) (number : Nat) (news : News) : Stage :=
  match s.readers.get? number, s.host.client? own with
  | some r, some c =>
    let set (refresher : DerelictRefresher) (s : Stage) : Stage :=
      { s with readers := s.readers.put number { r with refresher } }
    match news with
    | .derelicts reply =>
      let (derelicts, refresher) := DerelictRefresher.replied c.derelicts s.clock reply
      set (if r.stopping then refresher.shut else refresher) (s.setClient own { c with derelicts })
    | _ => set (.wake c.isDisabled c.derelicts s.clock) s
  | _, _ => s

/-- A wait is over. Where it was for the clock alone it may have been given up in the meantime. -/
def tell (s : Stage) (p : Pending) : Stage :=
  match p.wait with
  | .clock _ => if s.wait? p.actor = some p.wait then told else s
  | _ => told
where
  told : Stage :=
    match p.actor with
    | .task task => s.tellTask task p.news
    | .round number => s.tellRound number
    | .reader number => s.tellReader number p.news

def soonest : List Pending → Option (Pending × List Pending)
  | [] => none
  | p :: rest =>
    match soonest rest with
    | some (q, others) => if q.due < p.due then some (q, p :: others) else some (p, rest)
    | none => some (p, [])

def passWithin : (fuel : Nat) → (target : Nat) → Stage → Stage
  | 0, target, s => { s with clock := max s.clock target }
  | fuel + 1, target, s =>
    let s := s.attend
    match soonest s.pending with
    | some (p, pending) =>
      if p.due ≤ target then
        passWithin fuel target ({ s with pending, clock := max s.clock p.due }.tell p)
      else { s with clock := max s.clock target }
    | none => { s with clock := max s.clock target }

/-- Some seconds pass. An actor has at most four waits in a second, for it rests between its rounds,
and no more actors join in, as recoveries, than there are; so the fuel does not run out. -/
def pass (s : Stage) (seconds : Nat) : Stage :=
  passWithin (8 * (s.actors.length + 1) * (seconds + 1)) (s.clock + seconds) s

def rest (s : Stage) : Stage :=
  let s := s.pass 0
  { s with host := s.host.sweep }

omit [Scheme] in
def stop (s : Stage) : Stage :=
  let last (r : Round) : Round := { r with stopping := true }
  let shut (r : Reader) : Reader := { r with refresher := r.refresher.shut, stopping := true }
  { s with rounds := s.rounds.map last, readers := s.readers.map shut }

end Stage

end Warrant.Rehearsal
