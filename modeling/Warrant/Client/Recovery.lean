import Warrant.Registry
import Warrant.Renewal

/-!
Recovery: when the library is enabled again, the authority is asked whether it is well, and a
bootstrap certificate that could not be exchanged before is exchanged now. What fails is tried again
after a rest. A client has one recovery under way at most.
-/

namespace Warrant

inductive Recovery
  | checkingHealth
  | renewing (renewal : Renewal)
  | installing (credential : Credential)
  | resting (due : Nat)
  /-- All is done but to make room for the next one. -/
  | leaving
  deriving DecidableEq

namespace Recovery

def rest (now retry : Nat) : Recovery :=
  .resting (now + retry)

variable [Scheme]

def healthReplied (held : Option Credential) (now retry : Nat) (key : PrivateKey) (serial : UInt64)
    (wall : Int64) : Except Error Unit → Recovery
  | .error _ => rest now retry
  | .ok () =>
    match held with
    | some credential =>
      if credential.certificate.isBootstrap then .renewing (.start credential key serial wall)
      else .leaving
    | none => .leaving

def signReplied (renewal : Renewal) (usable : List PublicKey) (now retry : Nat) (wall : Int64)
    (reply : Except Error Certificate) : Recovery :=
  match reply.bind (renewal.finish usable wall) with
  | .ok credential => .installing credential
  | .error _ => rest now retry

omit [Scheme] in
def install (r : Registry) (handle : Handle) (credential : Credential) (now retry : Nat) :
    Registry × Recovery :=
  match r.update handle credential with
  | .ok r => (r, .leaving)
  | .error _ => (r, rest now retry)

end Recovery

structure Recoveries where
  /-- No other recovery starts while one is under way. -/
  busy : Bool
  started : Nat
  tasks : Table Nat Recovery

namespace Recoveries

def idle : Recoveries := ⟨false, 0, ∅⟩

def start (r : Recoveries) : Recoveries :=
  if r.busy then r else ⟨true, r.started + 1, r.tasks.push r.started .checkingHealth⟩

def set (r : Recoveries) (number : Nat) (next : Recovery) : Recoveries :=
  { r with tasks := r.tasks.put number next }

def leave (r : Recoveries) (number : Nat) : Recoveries :=
  match r.tasks.get? number with
  | some .leaving => { r with busy := false, tasks := r.tasks.erase number }
  | _ => r

end Recoveries

end Warrant
