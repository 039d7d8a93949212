import Warrant.Table

/-!
Backoff: after a failure a destination is skipped for a minute, and for twice the last window, up to
half an hour, if it fails again within a minute after that window's end.
-/

namespace Warrant

def nanoseconds (seconds : Nat) : Nat :=
  1000000000 * seconds

structure SkipWindow where
  start : Nat
  seconds : Nat
  deriving DecidableEq

namespace SkipWindow

def floor : Nat := 60

def ceiling : Nat := 1800

def grace : Nat := 60

def finish (w : SkipWindow) : Nat :=
  w.start + nanoseconds w.seconds

def afterFailure (last : Option SkipWindow) (now : Nat) : SkipWindow where
  start := now
  seconds :=
    match last with
    | some w => if now < w.finish + nanoseconds grace then min (2 * w.seconds) ceiling else floor
    | none => floor

end SkipWindow

structure SkipList where
  windows : Table String SkipWindow

namespace SkipList

def empty : SkipList := ⟨∅⟩

def get? (l : SkipList) (destination : String) : Option SkipWindow :=
  l.windows.get? destination

def skips (l : SkipList) (destination : String) (now : Nat) : Bool :=
  (l.get? destination).any fun w => now < w.finish

def fail (l : SkipList) (destination : String) (now : Nat) : SkipList :=
  ⟨l.windows.put destination (.afterFailure (l.get? destination) now)⟩

theorem get?_fail (l : SkipList) (d e : String) (now : Nat) :
    (l.fail d now).get? e = if e = d then some (.afterFailure (l.get? d) now) else l.get? e :=
  Table.get?_put l.windows d e _

end SkipList

end Warrant
