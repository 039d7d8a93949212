import Warrant.Limit
import Warrant.Proofs.Outbound.LookupLaws

namespace Warrant

/-- The authority as calls find it: what it replies to a query, and after how many seconds. -/
structure Responder where
  reply : ClaimQuery → Except Error Claim
  seconds : ClaimQuery → Nat

def Responder.settle (r : Responder) (timeout : Nat) (query : ClaimQuery) : Except Error Claim :=
  (Limit.ofQuery timeout query).settle (r.seconds query) (r.reply query)

def Responder.spent (r : Responder) (timeout : Nat) (query : ClaimQuery) : Nat :=
  (Limit.ofQuery timeout query).spent (r.seconds query)

namespace Outbound

structure Fails (o after : Outbound) (destination : String) (now : Nat) : Prop where
  undirected : destination = "" → after = o
  others : ∀ d, d ≠ destination → after.cache.get? d = o.cache.get? d
  own : destination ≠ "" → after.cache.get? destination = none
  counted : destination ≠ "" → ∃ ended, now ≤ ended ∧ after.skips = o.skips.fail destination ended

section

variable [Scheme]

/-- Both steps of a call, with nothing between them but the time that the authority takes. -/
def resolveAlone (o : Outbound) (usable : List PublicKey) (wall : Int64) (requester : Requester)
    (destination : String) (explicit : Option String) (timeout : Nat) (r : Responder) (now : Nat) :
    Outbound × Except Error Claim :=
  match o.resolve usable wall requester destination explicit with
  | (o, .done result) => (o, result)
  | (o, .asking query) =>
    (o.settle destination (now + nanoseconds (r.spent timeout query)) (r.settle timeout query),
      r.settle timeout query)

variable {o : Outbound} {usable : List PublicKey} {wall : Int64} {requester : Requester}
  {destination : String} {explicit : Option String} {timeout now : Nat} {r : Responder}

theorem resolveAlone_of_unusable (directed : destination ≠ "")
    (unusable : ∀ claim, o.cache.get? destination = some claim →
      ClaimCache.isUsable usable wall claim destination (namedClaim explicit) = false) :
    ∃ query, query.Suits requester destination (namedClaim explicit) ∧
      (o.resolveAlone usable wall requester destination explicit timeout r now).2 =
        r.settle timeout query := by
  have resolved := o.resolve_resolved usable wall requester destination explicit
  unfold resolveAlone
  generalize o.resolve usable wall requester destination explicit = first at resolved
  cases resolved with
  | undirected none => exact absurd none directed
  | found _ held serves => simp [unusable _ held] at serves
  | asking _ _ _ suits => exact ⟨_, suits, rfl⟩

/-- A call that fails without asking changes nothing; one that asks has given up what was held. -/
theorem resolveAlone_error_cases {e : Error}
    (failed : (o.resolveAlone usable wall requester destination explicit timeout r now).2 =
      .error e) :
    let after := (o.resolveAlone usable wall requester destination explicit timeout r now).1
    destination = "" ∧ after = o ∨
    destination ≠ "" ∧
      (∀ d, after.cache.get? d = if d = destination then none else o.cache.get? d) ∧
      ∃ ended, now ≤ ended ∧ after.skips = o.skips.fail destination ended := by
  have resolved := o.resolve_resolved usable wall requester destination explicit
  unfold resolveAlone at failed ⊢
  generalize o.resolve usable wall requester destination explicit = first at resolved failed
  cases resolved with
  | undirected none => exact .inl ⟨none, rfl⟩
  | found _ _ _ => cases failed
  | asking directed _ erased _ =>
    simp only at failed ⊢
    rw [failed]
    exact .inr ⟨directed, erased, _, Nat.le_add_right _ _, rfl⟩

theorem resolveAlone_fails {e : Error}
    (failed : (o.resolveAlone usable wall requester destination explicit timeout r now).2 =
      .error e) :
    Fails o (o.resolveAlone usable wall requester destination explicit timeout r now).1
      destination now := by
  obtain ⟨none, same⟩ | ⟨directed, erased, counted⟩ := resolveAlone_error_cases failed
  · rw [same]
    exact ⟨fun _ => rfl, fun _ _ => rfl, absurd none, absurd none⟩
  · constructor
    · intro none
      exact absurd none directed
    · intro d differs
      exact (erased d).trans (if_neg differs)
    · intro _
      exact (erased destination).trans (if_pos rfl)
    · intro _
      exact counted

end

end Outbound

/-! ### A claim that is lost -/

theorem ClaimCache.isUsable_ofTwos {now : Int64}
    (begun : ¬now + clockSkew < Claim.ofTwos.validAfter)
    (current : ¬Claim.ofTwos.validBefore < now - clockSkew)
    (lasting : now + claimReserve < Claim.ofTwos.validBefore) :
    isUsable [.ofTwos] now .ofTwos "bob" none = true := by
  have signed : Signed.isSignedByAny Claim.ofTwos [.ofTwos] = true := by
    simp [Signed.isSignedByAny, Claim.isSignedBy_ofTwos]
  have addressed : Text.sameIgnoringCase Claim.ofTwos.destination "bob" = true :=
    Text.sameIgnoringCase_self "bob"
  have valid : Claim.ofTwos.validate [.ofTwos] now = .ok () := by
    rw [Claim.validate, if_neg begun, if_neg current, if_pos signed]
  rw [isUsable, addressed, valid, decide_eq_true lasting]
  rfl

namespace Outbound

def unreachable : Responder :=
  ⟨fun _ => .error (.authorityUnavailable .unreachable), fun _ => 0⟩

def holding : Outbound :=
  ⟨ClaimCache.empty.store "bob" .ofTwos, .empty⟩

def refused : Outbound × Except Error Claim :=
  holding.resolveAlone [.ofTwos] 1700000000 .alice "bob" (some "admins") 5 unreachable 0

theorem refused_error : refused.2 = .error (.authorityUnavailable .unreachable) := by
  have ungranted : (namedClaim (some "admins")).all Claim.ofTwos.holds = false := by decide +kernel
  obtain ⟨query, -, settled⟩ :
      ∃ query, query.Suits .alice "bob" (namedClaim (some "admins")) ∧
        refused.2 = unreachable.settle 5 query := by
    apply resolveAlone_of_unusable (by decide)
    intro claim held
    cases held
    simp [ClaimCache.isUsable, ungranted]
  exact settled

theorem refused_fails :
    refused.2 = .error (.authorityUnavailable .unreachable) ∧ Fails holding refused.1 "bob" 0 :=
  ⟨refused_error, resolveAlone_fails refused_error⟩

theorem refused_forgets :
    holding.cache.get? "bob" = some .ofTwos ∧
      ClaimCache.isUsable [.ofTwos] 1700000000 .ofTwos "bob" none = true ∧
      refused.2 = .error (.authorityUnavailable .unreachable) ∧
      refused.1.cache.get? "bob" = none := by
  refine ⟨rfl, ClaimCache.isUsable_ofTwos (by decide) (by decide) (by decide), refused_error, ?_⟩
  have failed := refused_error
  rw [refused] at failed ⊢
  obtain ⟨none, -⟩ | ⟨-, erased, -⟩ := resolveAlone_error_cases failed
  · exact absurd none (by decide)
  · exact (erased "bob").trans (if_pos rfl)

end Outbound

end Warrant
