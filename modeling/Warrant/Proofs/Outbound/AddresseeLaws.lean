import Warrant.Proofs.Outbound.FailureLaws
import Warrant.Proofs.Outbound.Traffic

namespace Warrant

structure Claim.Meets (claim : Claim) (c : OutboundCall) : Prop where
  addressed : Text.sameIgnoringCase claim.destination c.destination = true
  granted : ∀ name ∈ c.named, ∃ grant ∈ claim.grants, Text.sameIgnoringCase grant name = true

theorem Claim.Serves.meets [Scheme] {claim : Claim} {keys : AuthorityKeys} {clock : Moment}
    {now : Int} {c : OutboundCall} (h : claim.Serves keys clock now c.destination c.named) :
    claim.Meets c :=
  ⟨h.addressed, h.granted⟩

inductive OutboundCall.Yields (c : OutboundCall) (fits : Claim → Prop) : Delivery → Prop
  | withheld {skips : SkipList} {isDisabled : Bool} {now : Nat} {delivery : Delivery} :
      c.withheld? skips isDisabled now = some delivery → Yields c fits delivery
  | failed (e : Error) : Yields c fits (c.deliver (.error e))
  | claim {claim : Claim} : fits claim → Yields c fits (c.deliver (.ok claim))

theorem OutboundCall.Yields.mono {c : OutboundCall} {fits also : Claim → Prop} {delivery : Delivery}
    (h : c.Yields fits delivery) (wider : ∀ claim, fits claim → also claim) :
    c.Yields also delivery := by
  cases h with
  | withheld withheld => exact .withheld withheld
  | failed e => exact .failed e
  | claim fits => exact .claim (wider _ fits)

namespace Traffic

/-- Traffic that begins with claims and windows from elsewhere. -/
def resume (o : Outbound) (keys : AuthorityKeys) (now : Nat) : Traffic :=
  ⟨o, keys, now, 0, ∅, []⟩

def Event.call? : Event → Option OutboundCall
  | .call c _ => some c
  | _ => none

def calls (events : List Event) : List OutboundCall :=
  events.filterMap Event.call?

/-- The claim is what the call of a number wants, or else what the authority has replied to it. -/
def Fit (past : List Note) (n : Nat) (c : OutboundCall) (claim : Claim) : Prop :=
  claim.Meets c ∨ .replied n c (.ok claim) ∈ past

structure Accounts (t : Traffic) (calls : List OutboundCall) : Prop where
  made : t.made = calls.length
  waiting : ∀ n c, t.waiting.get? n = some c → calls[n]? = some c
  delivered : ∀ n delivery, .delivered n delivery ∈ t.past →
    ∃ c, calls[n]? = some c ∧ c.Yields (Fit t.past n c) delivery
  replied : ∀ n c reply, .replied n c reply ∈ t.past →
    calls[n]? = some c ∧ .delivered n (c.deliver reply) ∈ t.past

structure Addressed (t : Traffic) (calls : List OutboundCall) : Prop extends t.Accounts calls where
  obliging : (∀ n c claim, .replied n c (.ok claim) ∈ t.past → claim.Meets c) →
    ∀ n delivery, .delivered n delivery ∈ t.past →
      ∃ c, calls[n]? = some c ∧ c.Yields (·.Meets c) delivery

theorem Accounts.addressed {t : Traffic} {calls : List OutboundCall} (h : t.Accounts calls) :
    t.Addressed calls where
  toAccounts := h
  obliging meets n delivery delivered := by
    obtain ⟨c, call, yields⟩ := h.delivered n delivery delivered
    refine ⟨c, call, yields.mono fun claim fit => ?_⟩
    exact fit.elim id (meets n c claim)

section

variable {t : Traffic} {made : List OutboundCall} {c : OutboundCall}

theorem Fit.mono {past more : List Note} {n : Nat} {claim : Claim} (h : Fit past n c claim)
    (sub : past ⊆ more) : Fit more n c claim :=
  h.imp_right fun replied => sub replied

theorem Accounts.delivered_mono (h : t.Accounts made) {past : List Note} (sub : t.past ⊆ past)
    {n : Nat} {delivery : Delivery} (delivered : .delivered n delivery ∈ t.past) :
    ∃ c, made[n]? = some c ∧ c.Yields (Fit past n c) delivery := by
  obtain ⟨c, call, yields⟩ := h.delivered n delivery delivered
  exact ⟨c, call, yields.mono fun _ fit => fit.mono sub⟩

theorem getElem?_concat_of_some {d : OutboundCall} {n : Nat} (call : made[n]? = some d) :
    (made ++ [c])[n]? = some d :=
  (List.getElem?_append_left (List.getElem?_eq_some_iff.mp call).1).trans call

theorem Accounts.deliver (h : t.Accounts made) {delivery : Delivery}
    (yields : c.Yields (·.Meets c) delivery) :
    (t.enter c (t.outbound, .done delivery)).Accounts (made ++ [c]) where
  made := by simp [enter, h.made]
  waiting n d waiting := getElem?_concat_of_some (h.waiting n d waiting)
  delivered n other delivered := by
    obtain new | old := List.mem_cons.mp delivered
    · cases new
      refine ⟨c, by simp [h.made], yields.mono fun claim meets => .inl meets⟩
    · obtain ⟨d, call, yields⟩ := h.delivered_mono (List.subset_cons_self _ _) old
      exact ⟨d, getElem?_concat_of_some call, yields⟩
  replied n d reply replied := by
    obtain new | old := List.mem_cons.mp replied
    · cases new
    · obtain ⟨call, delivered⟩ := h.replied n d reply old
      exact ⟨getElem?_concat_of_some call, List.mem_cons_of_mem _ delivered⟩

theorem Accounts.ask (h : t.Accounts made) (outbound : Outbound) (query : ClaimQuery) :
    (t.enter c (outbound, .asking query)).Accounts (made ++ [c]) where
  made := by simp [enter, h.made]
  waiting n d waiting := by
    by_cases new : n = t.made
    · subst new
      obtain rfl : c = d := by simpa [enter] using waiting
      simp [h.made]
    · exact getElem?_concat_of_some
        (h.waiting n d (by simpa [enter, Table.get?_put, new] using waiting))
  delivered n delivery delivered := by
    obtain new | old := List.mem_cons.mp delivered
    · cases new
    · obtain ⟨d, call, yields⟩ := h.delivered_mono (List.subset_cons_self _ _) old
      exact ⟨d, getElem?_concat_of_some call, yields⟩
  replied n d reply replied := by
    obtain new | old := List.mem_cons.mp replied
    · cases new
    · obtain ⟨call, delivered⟩ := h.replied n d reply old
      exact ⟨getElem?_concat_of_some call, List.mem_cons_of_mem _ delivered⟩

theorem yields_reply (n : Nat) (reply : Except Error Claim) {past : List Note}
    (replied : .replied n c reply ∈ past) : c.Yields (Fit past n c) (c.deliver reply) := by
  cases reply with
  | ok claim => exact .claim (.inr replied)
  | error e => exact .failed e

theorem Accounts.conclude (h : t.Accounts made) {number : Nat}
    (waiting : t.waiting.get? number = some c) (reply : Except Error Claim) :
    (t.finish number c reply).Accounts made where
  made := h.made
  waiting n d waiting := by
    apply h.waiting n d
    rw [finish, Table.get?_erase] at waiting
    split at waiting
    · cases waiting
    · exact waiting
  delivered n delivery delivered := by
    obtain ⟨rfl, rfl⟩ | old : n = number ∧ delivery = c.deliver reply ∨
        .delivered n delivery ∈ t.past := by simpa [finish] using delivered
    · exact ⟨c, h.waiting n c waiting, yields_reply n reply (by simp [finish])⟩
    · exact h.delivered_mono (fun note mem => by simp [finish, mem]) old
  replied n d other replied := by
    obtain ⟨rfl, rfl, rfl⟩ | old : (n = number ∧ d = c ∧ other = reply) ∨
        .replied n d other ∈ t.past := by simpa [finish] using replied
    · exact ⟨h.waiting n d waiting, by simp [finish]⟩
    · obtain ⟨call, delivered⟩ := h.replied n d other old
      exact ⟨call, by simp [finish, delivered]⟩

variable [Scheme]

theorem Accounts.step (h : t.Accounts made) (e : Event) :
    (t.step e).Accounts (made ++ e.call?.toList) := by
  cases e with
  | pin key => simpa [Event.call?] using ⟨h.made, h.waiting, h.delivered, h.replied⟩
  | apply m at_ => simpa [Event.call?] using ⟨h.made, h.waiting, h.delivered, h.replied⟩
  | pass time => simpa [Event.call?] using ⟨h.made, h.waiting, h.delivered, h.replied⟩
  | call c reading =>
    have first := c.first_first t.outbound t.keys reading t.now
    rw [Traffic.step]
    generalize c.first t.outbound _ reading t.now = came at first
    cases first with
    | withheld withheld => exact h.deliver (.withheld withheld)
    | undirected _ _ => exact h.deliver (.failed _)
    | found _ _ _ serves => exact h.deliver (.claim serves.meets)
    | asking _ _ _ _ _ => exact h.ask _ _
  | reply number reply =>
    rw [Traffic.step]
    simp only [Event.call?, Option.toList, List.append_nil]
    split
    · next waiting => exact h.conclude waiting reply
    · exact h

theorem Accounts.run (h : t.Accounts made) (events : List Event) :
    (t.run events).Accounts (made ++ calls events) := by
  induction events generalizing t made with
  | nil => simpa [calls, Traffic.run] using h
  | cons e rest ih =>
    have split : calls (e :: rest) = e.call?.toList ++ calls rest := by
      cases call : e.call? <;> simp [calls, call]
    rw [split, ← List.append_assoc]
    exact ih (h.step e)

end

theorem accounts_resume (o : Outbound) (keys : AuthorityKeys) (now : Nat) :
    (resume o keys now).Accounts [] where
  made := rfl
  waiting _ _ waiting := nomatch waiting
  delivered _ _ delivered := absurd delivered List.not_mem_nil
  replied _ _ _ replied := absurd replied List.not_mem_nil

theorem addressee_run [Scheme] (o : Outbound) (keys : AuthorityKeys) (now : Nat)
    (events : List Event) : ((resume o keys now).run events).Addressed (calls events) := by
  have accounts := (accounts_resume o keys now).run events
  exact Accounts.addressed (by simpa using accounts)

/-! ### A claim for somebody else -/

def atOpening : Reading :=
  ⟨false, .ofSecond 1700000000, 1700000000, by decide⟩

def answered (c : OutboundCall) : List Event :=
  [.call c atOpening, .reply 0 (.ok .ofTwos)]

def toCarol : OutboundCall :=
  ⟨.attach .empty, .alice, "carol", none⟩

def forAdmins : OutboundCall :=
  ⟨.claim, .alice, "bob", some "admins"⟩

theorem delivered_reply [Scheme] {t : Traffic} {n : Nat} {c : OutboundCall}
    (waiting : t.waiting.get? n = some c) (reply : Except Error Claim) :
    .delivered n (c.deliver reply) ∈ (t.step (.reply n reply)).past := by
  rw [step_reply waiting]
  exact List.mem_cons_self

theorem answered_delivers :
    let t := resume .empty (.pinned [.ofTwos]) 0
    (.delivered 0 (.metadata (Metadata.empty.withToken (Record.marshal Claim.ofTwos))) ∈
        (t.run (answered toCarol)).past ∧ ¬Claim.ofTwos.Meets toCarol) ∧
      .delivered 0 (.claim (.ok .ofTwos)) ∈ (t.run (answered forAdmins)).past ∧
        ¬Claim.ofTwos.Meets forAdmins := by
  intro t
  have elsewhere : Text.sameIgnoringCase Claim.ofTwos.destination "carol" = false := by
    decide +kernel
  have ungranted : Claim.ofTwos.holds "admins" = false := by decide +kernel
  have carol : (t.step (.call toCarol atOpening)).waiting.get? 0 = some toCarol := rfl
  have admins : (t.step (.call forAdmins atOpening)).waiting.get? 0 = some forAdmins := rfl
  refine ⟨⟨delivered_reply carol (.ok .ofTwos), fun meets => ?_⟩,
    delivered_reply admins (.ok .ofTwos), fun meets => ?_⟩
  · exact absurd (elsewhere.symm.trans meets.addressed) (by decide)
  · have granted := Claim.containsIgnoringCase_iff.mpr (meets.granted "admins" rfl)
    exact absurd (ungranted.symm.trans granted) (by decide)

end Traffic

end Warrant
