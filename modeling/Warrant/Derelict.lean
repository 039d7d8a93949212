import Warrant.AuthorityKeys

namespace Warrant

structure DerelictReply where
  derelicts : Dictionary Moment
  /-- Seconds until the next request; zero leaves the period as it is. -/
  interval : UInt64
  deriving DecidableEq

def DerelictReply.ofJson? (j : Json) : Option DerelictReply := do
  match ← j.record? ["derelicts", "check_interval_secs"] with
  | [derelicts, interval] =>
    return {
      derelicts := ← Json.fieldOr ∅ (Json.dictionary? ListedKey.moment?) derelicts
      interval := ← Json.fieldOr 0 Json.uint64? interval }
  | _ => none

structure DerelictList where
  entries : Dictionary Moment
  period : Nat
  deriving DecidableEq

namespace DerelictList

def make (period : Nat) : DerelictList := ⟨∅, period⟩

def contains (l : DerelictList) (entity : String) (now : Moment) : Bool :=
  !entity.isEmpty && (l.entries.get? entity).any fun expiry => now.before expiry

def apply (l : DerelictList) (reply : DerelictReply) : DerelictList where
  entries := reply.derelicts
  period := if 0 < reply.interval then reply.interval.toNat else l.period

end DerelictList

/-- The task that keeps a list of derelicts up to date: it fetches the list, rests for the list's
period, and starts over. Nothing is fetched while the library is disabled. -/
inductive DerelictRefresher
  | fetching
  | resting (due : Nat)
  | stopped
  deriving DecidableEq

namespace DerelictRefresher

def rest (l : DerelictList) (now : Nat) : DerelictRefresher :=
  .resting (now + l.period)

def wake (isDisabled : Bool) (l : DerelictList) (now : Nat) : DerelictRefresher :=
  if isDisabled then rest l now else .fetching

def replied (l : DerelictList) (now : Nat) (reply : Except Error DerelictReply) :
    DerelictList × DerelictRefresher :=
  match reply with
  | .ok reply => (l.apply reply, rest (l.apply reply) now)
  | .error _ => (l, rest l now)

def shut : DerelictRefresher → DerelictRefresher
  | .fetching => .fetching
  | _ => .stopped

end DerelictRefresher

end Warrant
