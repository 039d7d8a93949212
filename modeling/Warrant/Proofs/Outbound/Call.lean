import Warrant.Proofs.Outbound.LookupLaws

namespace Warrant

def Started.map {α β : Type} (f : α → β) : Started α → Started β
  | .done result => .done (f result)
  | .asking query => .asking query

inductive Purpose
  | attach (metadata : Metadata)
  | token
  | claim

structure OutboundCall where
  purpose : Purpose
  requester : Requester
  destination : String
  explicit : Option String

inductive Delivery
  | metadata (metadata : Metadata)
  | token (result : Except Error String)
  | claim (result : Except Error Claim)

structure Reading where
  isDisabled : Bool
  /-- Tells which keys may be used. -/
  clock : Moment
  /-- Tells which claims are in force. -/
  wall : Int64
  told : Moment.isTellable wall.toInt = true

namespace OutboundCall

def wanted (c : OutboundCall) : Option String :=
  match c.purpose with
  | .attach metadata => Outbound.requested metadata c.explicit
  | .token => c.explicit
  | .claim => c.explicit

def named (c : OutboundCall) : Option String :=
  namedClaim c.wanted

def deliver (c : OutboundCall) (result : Except Error Claim) : Delivery :=
  match c.purpose with
  | .attach metadata => .metadata (Outbound.attach metadata result)
  | .token => .token (Outbound.credentialOf result)
  | .claim => .claim result

/-- What comes of the call without a claim being looked for; `none` if one is. -/
def withheld? (c : OutboundCall) (l : SkipList) (isDisabled : Bool) (now : Nat) : Option Delivery :=
  match c.purpose with
  | .attach metadata =>
    if isDisabled || c.destination.isEmpty || l.skips c.destination now then
      some (.metadata metadata)
    else none
  | .token =>
    if isDisabled then some (.token (.ok ""))
    else if l.skips c.destination now then
      some (.token (.error (.destinationSkipped c.destination)))
    else none
  | .claim => none

variable [Scheme]

def first (c : OutboundCall) (o : Outbound) (usable : List PublicKey) (reading : Reading)
    (now : Nat) : Outbound × Started Delivery :=
  match c.purpose with
  | .attach metadata =>
    (o.authenticate reading.isDisabled now usable reading.wall c.requester metadata c.destination
      c.explicit).map id (Started.map .metadata)
  | .token =>
    (o.credential reading.isDisabled now usable reading.wall c.requester c.destination
      c.explicit).map id (Started.map .token)
  | .claim =>
    (o.resolve usable reading.wall c.requester c.destination c.explicit).map id
      (Started.map .claim)

theorem first_eq (c : OutboundCall) (o : Outbound) (usable : List PublicKey) (reading : Reading)
    (now : Nat) :
    c.first o usable reading now =
      match c.withheld? o.skips reading.isDisabled now with
      | some delivery => (o, .done delivery)
      | none =>
        (o.resolve usable reading.wall c.requester c.destination c.wanted).map id
          (Started.map c.deliver) := by
  obtain ⟨purpose, requester, destination, explicit⟩ := c
  cases purpose with
  | attach metadata =>
    simp only [first, Outbound.authenticate, withheld?]
    split
    · rfl
    · simp only [wanted]
      obtain ⟨next, result | query⟩ := o.resolve usable reading.wall requester destination
        (Outbound.requested metadata explicit) <;> rfl
  | token =>
    simp only [first, Outbound.credential, withheld?]
    split
    · rfl
    · split
      · rfl
      · simp only [wanted]
        obtain ⟨next, result | query⟩ := o.resolve usable reading.wall requester destination
          explicit <;> rfl
  | claim => rfl

theorem first_of_withheld {c : OutboundCall} {o : Outbound} {usable : List PublicKey}
    {reading : Reading} {now : Nat} {delivery : Delivery}
    (withheld : c.withheld? o.skips reading.isDisabled now = some delivery) :
    c.first o usable reading now = (o, .done delivery) := by
  rw [first_eq, withheld]

inductive First (c : OutboundCall) (o : Outbound) (serves : Claim → Prop) (isDisabled : Bool)
    (now : Nat) : Outbound × Started Delivery → Prop
  | withheld {delivery : Delivery} : c.withheld? o.skips isDisabled now = some delivery →
      First c o serves isDisabled now (o, .done delivery)
  | undirected : c.withheld? o.skips isDisabled now = none → c.destination = "" →
      First c o serves isDisabled now (o, .done (c.deliver (.error (.config .noDestination))))
  | found {claim : Claim} : c.withheld? o.skips isDisabled now = none → c.destination ≠ "" →
      o.cache.get? c.destination = some claim → serves claim →
      First c o serves isDisabled now (o, .done (c.deliver (.ok claim)))
  | asking {cache : ClaimCache} {query : ClaimQuery} :
      c.withheld? o.skips isDisabled now = none → c.destination ≠ "" →
      (∀ claim, o.cache.get? c.destination = some claim → ¬serves claim) →
      (∀ d, cache.get? d = if d = c.destination then none else o.cache.get? d) →
      query.Suits c.requester c.destination c.named →
      First c o serves isDisabled now (⟨cache, o.skips⟩, .asking query)

theorem first_first (c : OutboundCall) (o : Outbound) (keys : AuthorityKeys) (reading : Reading)
    (now : Nat) :
    c.First o
      (fun claim => claim.Serves keys reading.clock reading.wall.toInt c.destination c.named)
      reading.isDisabled now (c.first o (keys.usable reading.clock) reading now) := by
  rw [first_eq]
  cases withheld : c.withheld? o.skips reading.isDisabled now with
  | some delivery => exact .withheld withheld
  | none =>
    have resolved := o.resolve_resolved_of_told keys reading.clock reading.told c.requester
      c.destination c.wanted
    simp only
    generalize o.resolve (keys.usable reading.clock) reading.wall c.requester c.destination
      c.wanted = step at resolved
    cases resolved with
    | undirected none => exact .undirected withheld none
    | found directed held serves => exact .found withheld directed held serves
    | asking directed unserved erased suits => exact .asking withheld directed unserved erased suits

end OutboundCall

end Warrant
