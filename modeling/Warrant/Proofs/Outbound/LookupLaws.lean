import Warrant.Outbound
import Warrant.Proofs.ClaimLaws

namespace Warrant

theorem Moment.toInt_add_claimReserve {now : Int64} (h : IsModerate now) :
    (now + claimReserve).toInt = now.toInt + 180 :=
  toInt_add_of_bounds h.1 h.2 (by decide) (by decide)

theorem ClaimCache.get?_store (c : ClaimCache) (d e : String) (claim : Claim) :
    (c.store d claim).get? e = if e = d then some claim else c.get? e :=
  Table.get?_put c.entries d e claim

def Requester.alice : Requester :=
  ⟨"alice", ⟨Bytes.ofNatLittleEndian 32 1, Bytes.length_ofNatLittleEndian 32 1⟩, none, []⟩

inductive ClaimQuery.Suits (requester : Requester) (destination : String) :
    Option String → ClaimQuery → Prop
  | named (claim : String) : Suits requester destination (some claim) (.named claim destination)
  | own : Text.sameIgnoringCase destination requester.entity = true →
      Suits requester destination none (.named destination destination)
  | other : Text.sameIgnoringCase destination requester.entity = false →
      Suits requester destination none (.resolve destination)

theorem ClaimCache.suits_query (requester : Requester) (destination : String)
    (named : Option String) :
    ClaimQuery.Suits requester destination named (query requester destination named) := by
  cases named with
  | some claim => exact .named claim
  | none =>
    cases own : Text.sameIgnoringCase destination requester.entity with
    | true => simpa [query, own] using ClaimQuery.Suits.own own
    | false => simpa [query, own] using ClaimQuery.Suits.other own

variable [Scheme]

/-- The claim can be used again, for a destination and with a claim that is named or not. -/
structure Claim.Serves (c : Claim) (keys : AuthorityKeys) (clock : Moment) (now : Int)
    (destination : String) (named : Option String) : Prop where
  addressed : Text.sameIgnoringCase c.destination destination = true
  timely : c.IsTimely now
  vouched : c.IsVouchedFor keys clock
  lasting : now + 180 < c.validBefore.toInt
  granted : ∀ name ∈ named, ∃ grant ∈ c.grants, Text.sameIgnoringCase grant name = true

theorem ClaimCache.isUsable_iff {keys : AuthorityKeys} {clock : Moment} {now : Int64}
    (moderate : Moment.IsModerate now) {claim : Claim} {destination : String}
    {named : Option String} :
    isUsable (keys.usable clock) now claim destination named = true ↔
      claim.Serves keys clock now.toInt destination named := by
  have valid : (claim.validate (keys.usable clock) now).toBool = true ↔
      claim.IsTimely now.toInt ∧ claim.IsVouchedFor keys clock := by
    rw [Claim.validate_eq_verdict moderate, ← Claim.isVouchedFor_iff, ← Claim.verdict_eq_ok_iff]
    cases claim.verdict _ now.toInt <;> simp [Except.toBool]
  have lasting : now + claimReserve < claim.validBefore ↔
      now.toInt + 180 < claim.validBefore.toInt := by
    rw [Int64.lt_iff_toInt_lt, Moment.toInt_add_claimReserve moderate]
  have granted : named.all claim.holds = true ↔
      ∀ name ∈ named, ∃ grant ∈ claim.grants, Text.sameIgnoringCase grant name = true := by
    simp only [Option.all_eq_true, Claim.holds, Claim.containsIgnoringCase_iff]
    rfl
  simp only [isUsable, Bool.and_eq_true, decide_eq_true_eq, valid, lasting, granted]
  constructor
  · rintro ⟨⟨⟨addressed, timely, vouched⟩, lasting⟩, granted⟩
    exact ⟨addressed, timely, vouched, lasting, granted⟩
  · intro h
    exact ⟨⟨⟨h.addressed, h.timely, h.vouched⟩, h.lasting⟩, h.granted⟩

namespace Outbound

inductive Resolved (o : Outbound) (serves : Claim → Prop) (requester : Requester)
    (destination : String) (named : Option String) :
    Outbound × Started (Except Error Claim) → Prop
  | undirected : destination = "" →
      Resolved o serves requester destination named (o, .done (.error (.config .noDestination)))
  | found {claim : Claim} : destination ≠ "" → o.cache.get? destination = some claim →
      serves claim → Resolved o serves requester destination named (o, .done (.ok claim))
  | asking {cache : ClaimCache} {query : ClaimQuery} : destination ≠ "" →
      (∀ claim, o.cache.get? destination = some claim → ¬serves claim) →
      (∀ d, cache.get? d = if d = destination then none else o.cache.get? d) →
      query.Suits requester destination named →
      Resolved o serves requester destination named (⟨cache, o.skips⟩, .asking query)

theorem resolve_resolved (o : Outbound) (usable : List PublicKey) (wall : Int64)
    (requester : Requester) (destination : String) (explicit : Option String) :
    Resolved o
      (fun c => ClaimCache.isUsable usable wall c destination (namedClaim explicit) = true)
      requester destination (namedClaim explicit)
      (o.resolve usable wall requester destination explicit) := by
  have suits := ClaimCache.suits_query requester destination (namedClaim explicit)
  by_cases undirected : destination = ""
  · subst undirected
    exact .undirected rfl
  · have directed : destination.isEmpty = false := by simpa using undirected
    cases held : o.cache.get? destination with
    | none =>
      simp only [resolve, ClaimCache.lookup, directed, held]
      refine .asking undirected (by simp [held]) (fun d => ?_) suits
      by_cases same : d = destination <;> simp [same, held]
    | some claim =>
      cases serves : ClaimCache.isUsable usable wall claim destination (namedClaim explicit) with
      | true =>
        simp only [resolve, ClaimCache.lookup, directed, held, serves]
        exact .found undirected held serves
      | false =>
        simp only [resolve, ClaimCache.lookup, directed, held, serves]
        exact .asking undirected (by simp [held, serves]) (fun d => Table.get?_erase ..) suits

theorem resolve_resolved_of_told (o : Outbound) (keys : AuthorityKeys) (clock : Moment)
    {wall : Int64} (told : Moment.isTellable wall.toInt = true) (requester : Requester)
    (destination : String) (explicit : Option String) :
    Resolved o (fun c => c.Serves keys clock wall.toInt destination (namedClaim explicit))
      requester destination (namedClaim explicit)
      (o.resolve (keys.usable clock) wall requester destination explicit) := by
  simpa only [ClaimCache.isUsable_iff (Moment.isModerate_of_isTellable told)] using
    o.resolve_resolved (keys.usable clock) wall requester destination explicit

end Outbound

end Warrant
