import Warrant.Client
import Warrant.Proofs.ClaimLaws
import Warrant.Proofs.RoundTripLaws

namespace Warrant

namespace Claim

def IsAddressedTo (c : Claim) (destinations : List String) : Prop :=
  ∃ destination ∈ destinations, Text.sameIgnoringCase destination c.destination = true

/-- The claim grants one of the names, or its own entity's if they say everyone. Of no names at all
every grant is one. -/
def Satisfies (c : Claim) (allowed : List String) : Prop :=
  allowed = [] ∧ c.grants ≠ [] ∨
    ∃ name, (name ∈ allowed ∨
        name = c.entity ∧ ∃ e ∈ allowed, Text.sameIgnoringCase e everyone = true) ∧
      ∃ grant ∈ c.grants, Text.sameIgnoringCase grant name = true

theorem isAddressedTo_iff {c : Claim} {destinations : List String} :
    Text.containsIgnoringCase destinations c.destination = true ↔ c.IsAddressedTo destinations :=
  containsIgnoringCase_iff

theorem holdsAny_iff {c : Claim} {names : List String} :
    c.holdsAny names = true ↔
      ∃ name ∈ names, ∃ grant ∈ c.grants, Text.sameIgnoringCase grant name = true := by
  simp only [holdsAny, List.any_eq_true, holds, containsIgnoringCase_iff]

theorem satisfies_nil {c : Claim} : c.Satisfies [] ↔ c.grants ≠ [] := by
  simp [Satisfies]

theorem satisfies_of_ne_nil {c : Claim} {allowed : List String} (some : allowed ≠ []) :
    c.Satisfies allowed ↔
      ∃ name, (name ∈ allowed ∨
          name = c.entity ∧ ∃ e ∈ allowed, Text.sameIgnoringCase e everyone = true) ∧
        ∃ grant ∈ c.grants, Text.sameIgnoringCase grant name = true := by
  simp only [Satisfies, some, false_and, false_or]

theorem mem_required {c : Claim} {allowed : List String} (some : allowed ≠ []) {name : String} :
    name ∈ Inbound.required allowed c ↔
      name ∈ allowed ∨
        name = c.entity ∧ ∃ e ∈ allowed, Text.sameIgnoringCase e everyone = true := by
  rw [Inbound.required, if_neg (by simpa using some), ← containsIgnoringCase_iff]
  cases Text.containsIgnoringCase allowed everyone <;> simp

theorem holdsAny_required_iff {c : Claim} {allowed : List String} :
    c.holdsAny (Inbound.required allowed c) = true ↔ c.Satisfies allowed := by
  rw [holdsAny_iff]
  by_cases none : allowed = []
  · subst none
    rw [satisfies_nil]
    constructor
    · rintro ⟨name, mem, -⟩
      exact List.ne_nil_of_mem mem
    · intro some
      obtain ⟨grant, mem⟩ := List.exists_mem_of_ne_nil _ some
      exact ⟨grant, mem, grant, mem, Text.sameIgnoringCase_self grant⟩
  · rw [satisfies_of_ne_nil none]
    simp only [mem_required none]

end Claim

namespace InboundOption

def listsOf (options : List InboundOption) : List (List String) :=
  options.filterMap fun
    | .allowed entities => some entities
    | .caller _ => none

def callersOf (options : List InboundOption) : List String :=
  options.filterMap fun
    | .caller name => some name
    | .allowed _ => none

theorem allowed?_eq (options : List InboundOption) :
    allowed? options = (listsOf options).getLast? := by
  rw [allowed?, ← List.head?_filterMap, List.filterMap_reverse, List.head?_reverse]
  rfl

theorem caller?_eq (options : List InboundOption) :
    caller? options = (callersOf options).getLast? := by
  rw [caller?, ← List.head?_filterMap, List.filterMap_reverse, List.head?_reverse]
  rfl

end InboundOption

def FailsFirst {α : Type} (passes : α → Prop) (checks : List α) (r : α) : Prop :=
  ∃ before after, checks = before ++ r :: after ∧ (∀ q ∈ before, passes q) ∧ ¬passes r

open Classical in
theorem failsFirst_iff {α : Type} {passes : α → Prop} {checks : List α} {r : α} :
    FailsFirst passes checks r ↔ checks.find? (fun q => decide ¬passes q) = some r := by
  rw [List.find?_eq_some_iff_append, FailsFirst]
  constructor
  · rintro ⟨before, after, h, passed, failed⟩
    exact ⟨by simpa using failed, before, after, h, by simpa using passed⟩
  · rintro ⟨failed, before, after, h, passed⟩
    exact ⟨before, after, h, by simpa using passed, by simpa using failed⟩

theorem FailsFirst.unique {α : Type} {passes : α → Prop} {checks : List α} {q r : α}
    (hq : FailsFirst passes checks q) (hr : FailsFirst passes checks r) : q = r := by
  rw [failsFirst_iff] at hq hr
  exact Option.some.inj (hq.symm.trans hr)

theorem FailsFirst.exists_not {α : Type} {passes : α → Prop} {checks : List α} {r : α}
    (h : FailsFirst passes checks r) : ∃ q ∈ checks, ¬passes q := by
  obtain ⟨before, after, rfl, -, failed⟩ := h
  exact ⟨r, by simp, failed⟩

theorem Record.unmarshal_cases {α : Type} [Record α] (token : String) :
    (∃ a : α, unmarshal token = .ok a) ∨
      ∃ fault, (unmarshal token : Except Error α) = .error (.malformedToken fault) := by
  unfold unmarshal
  cases Base64.decodeText (Text.trim token) with
  | error cause => exact .inr ⟨_, rfl⟩
  | ok bytes =>
    cases h : (ofBytes? bytes : Option α) with
    | none => exact .inr ⟨.json, by simp only [h]⟩
    | some a => exact .inl ⟨a, by simp only [h]⟩

namespace Inbound

def checks : List Unauthorized :=
  [.noToken, .malformedToken, .invalidToken, .wrongDestination, .noCommonClaims]

def Carries (token : Option String) (claim : Claim) : Prop :=
  ∃ t, token = some t ∧ t ≠ "" ∧ Record.unmarshal t = .ok claim

theorem Carries.unique {token : Option String} {claim other : Claim} (h : Carries token claim)
    (h' : Carries token other) : claim = other := by
  obtain ⟨t, rfl, -, read⟩ := h
  obtain ⟨_, same, -, read'⟩ := h'
  cases same
  exact Except.ok.inj (read.symm.trans read')

theorem carries_marshal (claim : Claim) : Carries (some (Record.marshal claim)) claim :=
  ⟨_, rfl, Claim.codec.travels.marshal_ne_empty claim, Claim.codec.travels.unmarshal_alone claim⟩

theorem Carries.exists_iff {token : Option String} {claim : Claim} (h : Carries token claim)
    {p : Claim → Prop} : (∃ c, Carries token c ∧ p c) ↔ p claim := by
  constructor
  · rintro ⟨c, carried, hc⟩
    exact h.unique carried ▸ hc
  · intro hp
    exact ⟨claim, h, hp⟩

/-- The entities that may call: those that the options name last, or by default the configured
ones. -/
def admitted (i : Inbound) (options : List InboundOption) : List String :=
  match (InboundOption.listsOf options).getLast? with
  | some (entity :: more) => entity :: more
  | _ => i.defaultAllowed

theorem allowedFor_eq (i : Inbound) (options : List InboundOption) :
    i.allowedFor options = i.admitted options := by
  rw [allowedFor, admitted, InboundOption.allowed?_eq]
  match (InboundOption.listsOf options).getLast? with
  | none => rfl
  | some [] => rfl
  | some (_ :: _) => rfl

variable [Scheme]

def Passes (i : Inbound) (keys : AuthorityKeys) (now : Moment) (allowed : List String)
    (token : Option String) : Unauthorized → Prop
  | .noToken => ∃ t, token = some t ∧ t ≠ ""
  | .malformedToken => ∃ claim, Carries token claim
  | .invalidToken =>
    ∃ claim, Carries token claim ∧ claim.IsTimely now.second.toInt ∧ claim.IsVouchedFor keys now
  | .wrongDestination => ∃ claim, Carries token claim ∧ claim.IsAddressedTo i.destinations
  | .noCommonClaims => ∃ claim, Carries token claim ∧ claim.Satisfies allowed
  | .remoteEntityMismatch => True

structure Accepts (i : Inbound) (keys : AuthorityKeys) (now : Moment) (allowed : List String)
    (token : Option String) (claim : Claim) : Prop where
  carried : Carries token claim
  timely : claim.IsTimely now.second.toInt
  vouched : claim.IsVouchedFor keys now
  addressed : claim.IsAddressedTo i.destinations
  satisfies : claim.Satisfies allowed

section

variable {i : Inbound} {keys : AuthorityKeys} {now : Moment} {allowed : List String}
  {token : Option String} {claim : Claim}

theorem Accepts.passes (h : i.Accepts keys now allowed token claim) :
    ∀ r ∈ checks, i.Passes keys now allowed token r := by
  have carried := h.carried
  intro r hr
  cases r with
  | noToken =>
    obtain ⟨t, ht, nonempty, -⟩ := carried
    exact ⟨t, ht, nonempty⟩
  | malformedToken => exact ⟨claim, carried⟩
  | invalidToken => exact ⟨claim, carried, h.timely, h.vouched⟩
  | wrongDestination => exact ⟨claim, carried, h.addressed⟩
  | noCommonClaims => exact ⟨claim, carried, h.satisfies⟩
  | remoteEntityMismatch => trivial

theorem inspect_eq (c : Claim) (usable : List PublicKey) (now : Int64)
    (destinations required : List String) :
    c.inspect usable now destinations required =
      match c.validate usable now with
      | .error reason => .error (.invalidToken reason)
      | .ok () =>
        if Text.containsIgnoringCase destinations c.destination then
          if c.holdsAny required then .ok () else .error (.noCommonClaims c.grants required)
        else .error (.wrongDestination c.destination destinations) := by
  unfold Claim.inspect
  cases c.validate usable now with
  | error reason => rfl
  | ok _ =>
    cases Text.containsIgnoringCase destinations c.destination <;>
      cases c.holdsAny required <;> rfl

theorem inspect_cases (i : Inbound) (keys : AuthorityKeys) (allowed : List String) (claim : Claim)
    (told : Moment.isTellable now.second.toInt = true) :
    let inspected := claim.inspect (keys.usable now) now.second i.destinations
      (required allowed claim)
    let valid := claim.IsTimely now.second.toInt ∧ claim.IsVouchedFor keys now
    inspected = .ok () ∧ valid ∧ claim.IsAddressedTo i.destinations ∧ claim.Satisfies allowed ∨
    (∃ reason, inspected = .error (.invalidToken reason)) ∧ ¬valid ∨
    (∃ actual expected, inspected = .error (.wrongDestination actual expected)) ∧ valid ∧
      ¬claim.IsAddressedTo i.destinations ∨
    (∃ held needed, inspected = .error (.noCommonClaims held needed)) ∧ valid ∧
      claim.IsAddressedTo i.destinations ∧ ¬claim.Satisfies allowed := by
  intro inspected valid
  have valid_iff : claim.validate (keys.usable now) now.second = .ok () ↔ valid := by
    rw [Claim.validate_eq_ok_iff told, Claim.isVouchedFor_iff]
  have inspected_eq : inspected = _ := inspect_eq ..
  rw [inspected_eq, ← valid_iff, ← Claim.isAddressedTo_iff, ← Claim.holdsAny_required_iff]
  cases claim.validate (keys.usable now) now.second with
  | error reason => exact .inr (.inl ⟨⟨reason, rfl⟩, nofun⟩)
  | ok _ =>
    cases Text.containsIgnoringCase i.destinations claim.destination with
    | false => exact .inr (.inr (.inl ⟨⟨_, _, rfl⟩, rfl, nofun⟩))
    | true =>
      cases claim.holdsAny (required allowed claim) with
      | false => exact .inr (.inr (.inr ⟨⟨_, _, rfl⟩, rfl, rfl, nofun⟩))
      | true => exact .inl ⟨rfl, rfl, rfl, rfl⟩

theorem check_of_carries (h : Carries token claim) (usable : List PublicKey) (second : Int64) :
    i.check usable second token allowed =
      (claim.inspect usable second i.destinations (required allowed claim)).map fun _ => claim := by
  obtain ⟨t, rfl, nonempty, read⟩ := h
  have kept : (some t).filter (fun t => !t.isEmpty) = some t := by simpa using nonempty
  rw [check, kept]
  simp only [read]
  change (claim.inspect usable second i.destinations (required allowed claim)).bind _ = _
  cases claim.inspect usable second i.destinations (required allowed claim) <;> rfl

theorem check_of_not_carries (h : ¬∃ claim, Carries token claim) (usable : List PublicKey)
    (second : Int64) :
    i.check usable second token allowed = .error .noToken ∧ (¬∃ t, token = some t ∧ t ≠ "") ∨
    (∃ fault, i.check usable second token allowed = .error (.malformedToken fault)) ∧
      ∃ t, token = some t ∧ t ≠ "" := by
  rcases token with _ | t
  · exact .inl ⟨rfl, by simp⟩
  · by_cases empty : t = ""
    · subst empty
      exact .inl ⟨rfl, by simp⟩
    · refine .inr ⟨?_, t, rfl, empty⟩
      have kept : (some t).filter (fun t => !t.isEmpty) = some t := by simpa using empty
      obtain ⟨claim, read⟩ | ⟨fault, read⟩ := Record.unmarshal_cases (α := Claim) t
      · exact absurd ⟨claim, t, rfl, empty, read⟩ h
      refine ⟨fault, ?_⟩
      rw [check, kept]
      simp only [read]
      rfl

variable (i keys allowed token) in
theorem check_cases (told : Moment.isTellable now.second.toInt = true) :
    (∃ claim, i.check (keys.usable now) now.second token allowed = .ok claim ∧
      i.Accepts keys now allowed token claim) ∨
    ∃ e r, i.check (keys.usable now) now.second token allowed = .error e ∧
      e.unauthorized? = some r ∧ FailsFirst (i.Passes keys now allowed token) checks r := by
  by_cases readable : ∃ claim, Carries token claim
  -- The first two checks are passed; which of the others comes first is what looking at it tells.
  · have decoded : i.Passes keys now allowed token .malformedToken := readable
    obtain ⟨claim, carried⟩ := readable
    have present : i.Passes keys now allowed token .noToken := by
      obtain ⟨t, ht, nonempty, -⟩ := carried
      exact ⟨t, ht, nonempty⟩
    rw [check_of_carries carried]
    obtain ⟨h, valid, addressed, satisfies⟩ | ⟨⟨reason, h⟩, invalid⟩ |
      ⟨⟨actual, expected, h⟩, valid, astray⟩ | ⟨⟨held, needed, h⟩, valid, addressed, lacking⟩ :=
      inspect_cases i keys allowed claim told
    · exact .inl ⟨claim, by rw [h]; rfl, carried, valid.1, valid.2, addressed, satisfies⟩
    · refine .inr ⟨_, .invalidToken, by rw [h]; rfl, rfl, [.noToken, .malformedToken], _, rfl, ?_,
        fun passed => invalid (carried.exists_iff.1 passed)⟩
      simpa using And.intro present decoded
    · refine .inr ⟨_, .wrongDestination, by rw [h]; rfl, rfl,
        [.noToken, .malformedToken, .invalidToken], _, rfl, ?_,
        fun passed => astray (carried.exists_iff.1 passed)⟩
      have current : i.Passes keys now allowed token .invalidToken := ⟨claim, carried, valid⟩
      simpa using And.intro present (And.intro decoded current)
    · refine .inr ⟨_, .noCommonClaims, by rw [h]; rfl, rfl,
        [.noToken, .malformedToken, .invalidToken, .wrongDestination], _, rfl, ?_,
        fun passed => lacking (carried.exists_iff.1 passed)⟩
      have current : i.Passes keys now allowed token .invalidToken := ⟨claim, carried, valid⟩
      have here : i.Passes keys now allowed token .wrongDestination := ⟨claim, carried, addressed⟩
      simpa using And.intro present (And.intro decoded (And.intro current here))
  · obtain ⟨h, absent⟩ | ⟨⟨fault, h⟩, present⟩ :=
      check_of_not_carries readable (keys.usable now) now.second
    · exact .inr ⟨_, .noToken, h, rfl, [], _, rfl, by simp, absent⟩
    · refine .inr ⟨_, .malformedToken, h, rfl, [.noToken], _, rfl, ?_, readable⟩
      have present : i.Passes keys now allowed token .noToken := present
      simpa using present

theorem decide_of_ok {at_ : Circumstances} {options : List InboundOption}
    (h : i.check at_.usable at_.now token (i.admitted options) = .ok claim) :
    i.decide at_ token options = ⟨.allowed, some claim.entity, i.admitted options,
      (InboundOption.caller? options).any at_.isDerelict, none⟩ := by
  rw [decide, allowedFor_eq, h]

theorem decide_of_error {at_ : Circumstances} {options : List InboundOption} {e : Error}
    (h : i.check at_.usable at_.now token (i.admitted options) = .error e) :
    i.decide at_ token options =
      ⟨if (InboundOption.caller? options).any at_.isDerelict || !at_.enforced then .notEnforced
        else .denied, none, i.admitted options, (InboundOption.caller? options).any at_.isDerelict,
        some e⟩ := by
  rw [decide, allowedFor_eq, h]

theorem status_of_error {at_ : Circumstances} {options : List InboundOption} {e : Error}
    (h : i.check at_.usable at_.now token (i.admitted options) = .error e) :
    (i.decide at_ token options).status ≠ .allowed ∧
      ((i.decide at_ token options).status = .denied ↔
        ¬(InboundOption.caller? options).any at_.isDerelict = true ∧ at_.enforced = true) := by
  rw [decide_of_error h]
  cases (InboundOption.caller? options).any at_.isDerelict <;> cases at_.enforced <;> simp

end

end Inbound

namespace Client

/-- The caller, as the options name it last, is a derelict. -/
def ExcusesCaller (c : Client) (now : Moment) (options : List InboundOption) : Prop :=
  ∃ caller expiry, (InboundOption.callersOf options).getLast? = some caller ∧ caller ≠ "" ∧
    c.derelicts.entries.get? caller = some expiry ∧ now.before expiry = true

theorem excusesCaller_iff {c : Client} {now : Moment} {options : List InboundOption} :
    (InboundOption.caller? options).any (c.derelicts.contains · now) = true ↔
      c.ExcusesCaller now options := by
  rw [InboundOption.caller?_eq, Option.any_eq_true]
  constructor
  · rintro ⟨caller, last, listed⟩
    rw [DerelictList.contains, Bool.and_eq_true, Option.any_eq_true] at listed
    obtain ⟨named, expiry, entry, early⟩ := listed
    exact ⟨caller, expiry, last, by simpa using named, entry, early⟩
  · rintro ⟨caller, expiry, last, named, entry, early⟩
    refine ⟨caller, last, ?_⟩
    simp [DerelictList.contains, named, entry, early]

section

variable [Scheme]

/-- What a client decides about an inbound request, whatever comes with it. -/
theorem evaluate_decides (c : Client) (keys : AuthorityKeys) (now : Moment)
    (told : Moment.isTellable now.second.toInt = true) (drawn : Float) (token : Option String)
    (options : List InboundOption) :
    let decision := (c.inbound.evaluate (c.circumstances keys now drawn) token options).1
    let allowed := c.inbound.admitted options
    (decision.status = .allowed ↔ ∃ claim, c.inbound.Accepts keys now allowed token claim) ∧
      (∀ r, decision.reason = some r ↔
        FailsFirst (c.inbound.Passes keys now allowed token) Inbound.checks r) ∧
      (decision.reason = none ↔ decision.status = .allowed) ∧
      (decision.status = .denied ↔ decision.status ≠ .allowed ∧ ¬c.ExcusesCaller now options ∧
        c.enforcement.enforces drawn = true) ∧
      decision.allowed = allowed ∧
      (decision.derelict = true ↔ c.ExcusesCaller now options) ∧
      ∀ entity, decision.remote = some entity ↔
        ∃ claim, c.inbound.Accepts keys now allowed token claim ∧ claim.entity = entity := by
  intro decision allowed
  obtain ⟨claim, checked, accepts⟩ | ⟨e, r, checked, reason, first⟩ :=
    Inbound.check_cases c.inbound keys allowed token told
  -- Everything else follows from how the checks came out.
  · have decided : decision = ⟨.allowed, some claim.entity, allowed, _, none⟩ :=
      Inbound.decide_of_ok checked
    have passed : ∀ r, ¬FailsFirst (c.inbound.Passes keys now allowed token) Inbound.checks r := by
      intro r fails
      obtain ⟨q, mem, failed⟩ := fails.exists_not
      exact failed (accepts.passes q mem)
    rw [decided]
    refine ⟨⟨fun _ => ⟨claim, accepts⟩, fun _ => rfl⟩, ?_, ⟨fun _ => rfl, fun _ => rfl⟩, ?_, rfl,
      excusesCaller_iff, ?_⟩
    · intro r
      exact ⟨nofun, fun fails => absurd fails (passed r)⟩
    · simp
    · intro entity
      constructor
      · intro same
        exact ⟨claim, accepts, Option.some.inj same⟩
      · rintro ⟨other, accepted, rfl⟩
        rw [accepts.carried.unique accepted.carried]
  · have decided : decision = ⟨_, none, allowed, _, some e⟩ := Inbound.decide_of_error checked
    have refused : ¬∃ claim, c.inbound.Accepts keys now allowed token claim := by
      rintro ⟨claim, accepts⟩
      obtain ⟨q, mem, failed⟩ := first.exists_not
      exact failed (accepts.passes q mem)
    have told : decision.reason = some r := by rw [decided]; exact reason
    obtain ⟨unlike, denied⟩ : decision.status ≠ .allowed ∧ _ := Inbound.status_of_error checked
    refine ⟨⟨fun h => absurd h unlike, fun h => absurd h refused⟩, ?_, ?_, ?_, by rw [decided],
      by rw [decided]; exact excusesCaller_iff, ?_⟩
    · intro q
      rw [told, Option.some.injEq]
      exact ⟨fun same => same ▸ first, fun fails => first.unique fails⟩
    · rw [told]
      exact ⟨nofun, fun h => absurd h unlike⟩
    · rw [← excusesCaller_iff, and_iff_right unlike]
      exact denied
    · intro entity
      rw [decided]
      exact ⟨nofun, fun ⟨claim, accepts, _⟩ => absurd ⟨claim, accepts⟩ refused⟩

end

def bob : Client :=
  let config : Config :=
    { Config.standard with
      serviceName := "bob", allowedEntities := [everyone], enforcePercentage := 1 }
  (Founding.finish ⟨config, false, none, []⟩ (.enrolled ⟨List.replicate 32 0, rfl⟩) 0).1

theorem inbound_bob : bob.inbound = ⟨"bob", ["bob"], [everyone]⟩ := rfl

theorem accepts_bob : bob.inbound.Accepts (.pinned [.ofTwos]) (.ofSecond 1700000000)
    (bob.inbound.admitted []) (some (Record.marshal Claim.ofTwos)) .ofTwos := by
  have usable : (AuthorityKeys.pinned [.ofTwos]).usable (.ofSecond 1700000000) = [.ofTwos] :=
    KeyRing.usable_put_empty _ _ _ _
  rw [inbound_bob]
  exact
    { carried := Inbound.carries_marshal .ofTwos
      timely := ⟨by decide, by decide⟩
      vouched := by
        rw [← Claim.isVouchedFor_iff, usable, Signed.isSignedByAny, List.any_cons,
          Claim.isSignedBy_ofTwos, Bool.true_or]
      addressed := ⟨"bob", List.mem_singleton_self _, Text.sameIgnoringCase_self _⟩
      satisfies := .inr ⟨everyone, .inl (List.mem_singleton_self _), everyone,
        List.mem_cons_self, Text.sameIgnoringCase_self _⟩ }

theorem evaluate_decides_signed :
    let keys := AuthorityKeys.pinned [.ofTwos]
    let now := Moment.ofSecond 1700000000
    let token := some (Record.marshal Claim.ofTwos)
    let decision := (bob.inbound.evaluate (bob.circumstances keys now 0) token []).1
    Moment.isTellable now.second.toInt = true ∧ decision.status = .allowed ∧
      decision.remote = some "alice" ∧ decision.reason = none := by
  have told : Moment.isTellable (Moment.ofSecond 1700000000).second.toInt = true := by decide
  have decides := evaluate_decides bob (.pinned [.ofTwos]) (.ofSecond 1700000000) told 0
    (some (Record.marshal Claim.ofTwos)) []
  have allowed := decides.1.2 ⟨.ofTwos, accepts_bob⟩
  have remote := decides.2.2.2.2.2.2 "alice"
  exact ⟨told, allowed, remote.2 ⟨.ofTwos, accepts_bob, rfl⟩, decides.2.2.1.2 allowed⟩

end Client

end Warrant
