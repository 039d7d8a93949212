import Warrant.Claim
import Warrant.Metadata
import Warrant.Log

namespace Warrant

structure Enforcement where
  fraction : Float

namespace Enforcement

/-- Clamps to the interval from zero to one; what is no number stays. -/
def make (fraction : Float) : Enforcement :=
  ⟨if fraction < 0 then 0 else if 1 < fraction then 1 else fraction⟩

def set (fraction : Float) : Except Error (Enforcement × LogEvent) :=
  if 0 ≤ fraction && fraction ≤ 1 then .ok (⟨fraction⟩, .percentageSet fraction)
  else .error (.config (.percentage (plainNumber fraction)))

/-- Zero never enforces and one always; in between a number drawn from zero to one decides. -/
def enforces (e : Enforcement) (drawn : Float) : Bool :=
  if e.fraction ≤ 0 then false
  else if 1 ≤ e.fraction then true
  else drawn ≤ e.fraction

end Enforcement

inductive InboundOption
  | allowed (entities : List String)
  /-- The caller's name, which nobody has checked. -/
  | caller (name : String)
  deriving DecidableEq

namespace InboundOption

def allowed? (options : List InboundOption) : Option (List String) :=
  options.reverse.findSome? fun
    | .allowed entities => some entities
    | .caller _ => none

def caller? (options : List InboundOption) : Option String :=
  options.reverse.findSome? fun
    | .caller name => some name
    | .allowed _ => none

end InboundOption

structure Decision where
  status : InboundStatus
  remote : Option String
  allowed : List String
  derelict : Bool
  error : Option Error
  deriving DecidableEq

namespace Decision

def reason (d : Decision) : Option Unauthorized :=
  d.error.bind Error.unauthorized?

def passes (d : Decision) : Bool :=
  d.status != .denied

def toExcept (d : Decision) : Except Refusal Unit :=
  match d.status, d.error with
  | .denied, some e => .error ⟨d.allowed, e⟩
  | _, _ => .ok ()

end Decision

structure Inbound where
  serviceName : String
  destinations : List String
  defaultAllowed : List String
  deriving DecidableEq

namespace Inbound

/-- What a claim has to grant one of: an empty list is met by whatever the claim grants, and one
with everybody in it by the entity itself. -/
def required (allowed : List String) (claim : Claim) : List String :=
  if allowed.isEmpty then claim.grants
  else if Text.containsIgnoringCase allowed everyone then allowed ++ [claim.entity]
  else allowed

def allowedFor (i : Inbound) (options : List InboundOption) : List String :=
  match InboundOption.allowed? options with
  | some entities => if entities.isEmpty then i.defaultAllowed else entities
  | none => i.defaultAllowed

variable [Scheme]

def check (i : Inbound) (usable : List PublicKey) (now : Int64) (token : Option String)
    (allowed : List String) : Except Error Claim := do
  match token.filter fun t => !t.isEmpty with
  | none => throw .noToken
  | some token =>
    let claim : Claim ← Record.unmarshal token
    claim.inspect usable now i.destinations (required allowed claim)
    return claim

structure Circumstances where
  usable : List PublicKey
  now : Int64
  isDerelict : (caller : String) → Bool
  enforcement : Float
  enforced : Bool

def decide (i : Inbound) (at_ : Circumstances) (token : Option String)
    (options : List InboundOption) : Decision :=
  let allowed := i.allowedFor options
  let derelict := (InboundOption.caller? options).any at_.isDerelict
  match i.check at_.usable at_.now token allowed with
  | .ok claim => ⟨.allowed, some claim.entity, allowed, derelict, none⟩
  | .error e =>
    ⟨if derelict || !at_.enforced then .notEnforced else .denied, none, allowed, derelict, some e⟩

def report (i : Inbound) (at_ : Circumstances) (options : List InboundOption) (d : Decision) :
    List LogEvent :=
  let caller := InboundOption.caller? options
  let remote := (d.remote.or caller).getD ""
  let differs :=
    match d.remote, caller with
    | some remote, some caller =>
      if caller.isEmpty || Text.sameIgnoringCase remote caller then []
      else [.entityDiffers i.serviceName remote caller]
    | _, _ => []
  match d.status with
  | .allowed => differs ++ [.authenticated i.serviceName remote d.status]
  | _ =>
    differs ++ [.failed i.serviceName i.destinations remote d.allowed d.status d.reason d.derelict
      at_.enforcement]

def evaluate (i : Inbound) (at_ : Circumstances) (token : Option String)
    (options : List InboundOption) : Decision × List LogEvent :=
  let d := i.decide at_ token options
  (d, i.report at_ options d)

/-- Takes the token out of the metadata, whatever comes of it. Nothing is checked while the library
is disabled. -/
def authenticate (i : Inbound) (isDisabled : Bool) (at_ : Circumstances) (metadata : Metadata)
    (options : List InboundOption) : Metadata × Except Refusal Unit × List LogEvent :=
  let (token, metadata) := metadata.takeToken
  if isDisabled then (metadata, .ok (), [.notChecked i.serviceName])
  else
    let (d, log) := i.evaluate at_ token options
    (metadata, d.toExcept, log)

def validate (i : Inbound) (isDisabled : Bool) (at_ : Circumstances) (token : String)
    (options : List InboundOption) : Except Refusal Unit × List LogEvent :=
  if isDisabled then (.ok (), [])
  else
    let (d, log) := i.evaluate at_ (some token) options
    (d.toExcept, log)

end Inbound

end Warrant
