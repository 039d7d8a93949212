import Warrant.Proofs.Outbound.Traffic

namespace Warrant.Traffic

/-- The call looks a claim up. One that wants the claim for itself always does. -/
structure Looks (t : Traffic) (c : OutboundCall) (reading : Reading) : Prop where
  directed : c.destination ≠ ""
  free : c.purpose ≠ .claim → c.withheld? t.outbound.skips reading.isDisabled t.now = none

theorem Looks.withheld {t : Traffic} {c : OutboundCall} {reading : Reading}
    (h : t.Looks c reading) :
    c.withheld? t.outbound.skips reading.isDisabled t.now = none := by
  cases purpose : c.purpose with
  | attach _ => exact h.free (by simp [purpose])
  | token => exact h.free (by simp [purpose])
  | claim => simp [OutboundCall.withheld?, purpose]

variable [Scheme]

structure Offers (t : Traffic) (c : OutboundCall) (reading : Reading) (claim : Claim) : Prop where
  held : t.outbound.cache.get? c.destination = some claim
  serves : claim.Serves t.keys reading.clock reading.wall.toInt c.destination c.named

structure Asks (t : Traffic) (c : OutboundCall) (reading : Reading) (query : ClaimQuery) :
    Prop where
  suits : query.Suits c.requester c.destination c.named
  queries : ∀ events, Note.queries t.made ((t.step (.call c reading)).run events).past = [query]
  waits : (t.step (.call c reading)).waiting.get? t.made = some c

structure Replies (t : Traffic) (n : Nat) (c : OutboundCall) (reply : Except Error Claim) :
    Prop where
  concludes : ∃ query, query.Suits c.requester c.destination c.named ∧
    (t.step (.reply n reply)).Concludes n [query] (c.deliver reply)
  stores : ∀ d, (t.step (.reply n reply)).outbound.cache.get? d =
    if d = c.destination then reply.toOption.or (t.outbound.cache.get? d)
    else t.outbound.cache.get? d

structure Waits (t : Traffic) (n : Nat) (c : OutboundCall) : Prop where
  deliveries : Note.deliveries n t.past = []
  step : ∀ e, (∀ reply, e ≠ .reply n reply) → (t.step e).waiting.get? n = some c

structure Coherent (t : Traffic) : Prop where
  asks_iff : ∀ c reading, t.Looks c reading → ∀ events,
    Note.queries t.made ((t.step (.call c reading)).run events).past = [] ↔
      ∃ claim, t.Offers c reading claim
  offered : ∀ c reading claim, t.Looks c reading → t.Offers c reading claim →
    t.Immediate c reading (c.deliver (.ok claim))
  asks : ∀ c reading, t.Looks c reading → (¬∃ claim, t.Offers c reading claim) →
    ∃ query, t.Asks c reading query
  waits : ∀ n c, t.waiting.get? n = some c → t.Waits n c
  replies : ∀ n c reply, t.waiting.get? n = some c → t.Replies n c reply
  others : ∀ c reading d, d ≠ c.destination →
    (t.step (.call c reading)).outbound.cache.get? d = t.outbound.cache.get? d
  held : ∀ d claim, t.outbound.cache.get? d = some claim → Provided t.past d claim

section

variable {t : Traffic} {n : Nat} {c : OutboundCall} {reading : Reading} {claim : Claim}

theorem Offers.unique {other : Claim} (h : t.Offers c reading claim)
    (g : t.Offers c reading other) : other = claim :=
  Option.some.inj (g.held.symm.trans h.held)

theorem Looks.first_cases (h : t.Looks c reading) :
    (∃ claim, t.Offers c reading claim ∧
      c.first t.outbound (t.keys.usable reading.clock) reading t.now =
        (t.outbound, .done (c.deliver (.ok claim)))) ∨
    (¬∃ claim, t.Offers c reading claim) ∧ ∃ cache query,
      query.Suits c.requester c.destination c.named ∧
      c.first t.outbound (t.keys.usable reading.clock) reading t.now =
        (⟨cache, t.outbound.skips⟩, .asking query) := by
  have first := c.first_first t.outbound t.keys reading t.now
  generalize c.first t.outbound _ reading t.now = came at first ⊢
  cases first with
  | withheld withheld => simp [h.withheld] at withheld
  | undirected _ none => exact absurd none h.directed
  | @found claim _ _ held serves => exact .inl ⟨claim, ⟨held, serves⟩, rfl⟩
  | @asking cache query _ _ unserved _ suits =>
    refine .inr ⟨?_, cache, query, suits, rfl⟩
    rintro ⟨claim, offers⟩
    exact unserved claim offers.held offers.serves

theorem Sound.offered (h : t.Sound) (looks : t.Looks c reading)
    (offers : t.Offers c reading claim) : t.Immediate c reading (c.deliver (.ok claim)) := by
  obtain ⟨other, also, done⟩ | ⟨unserved, -⟩ := looks.first_cases
  · obtain rfl := offers.unique also
    exact h.immediate done
  · exact absurd ⟨claim, offers⟩ unserved

theorem Sound.asks (h : t.Sound) (looks : t.Looks c reading)
    (unserved : ¬∃ claim, t.Offers c reading claim) : ∃ query, t.Asks c reading query := by
  obtain ⟨claim, offers, -⟩ | ⟨-, cache, query, suits, first⟩ := looks.first_cases
  · exact absurd ⟨claim, offers⟩ unserved
  · have unmade := h.unmade t.made (Nat.le_refl _)
    refine ⟨query, suits, fun events => ?_, ?_⟩
    · rw [(extends_run _ events).queries_eq, step, first]
      · simp [enter, unmade.1]
      · rw [step, first]
        exact Nat.lt_succ_self _
    · simp [step, first, enter]

theorem Sound.asks_iff (h : t.Sound) (looks : t.Looks c reading) (events : List Event) :
    Note.queries t.made ((t.step (.call c reading)).run events).past = [] ↔
      ∃ claim, t.Offers c reading claim := by
  by_cases served : ∃ claim, t.Offers c reading claim
  · obtain ⟨claim, offers⟩ := served
    exact iff_of_true ((h.offered looks offers).concludes.queries events) ⟨claim, offers⟩
  · obtain ⟨query, asks⟩ := h.asks looks served
    simp [asks.queries events, served]

theorem Sound.replies (h : t.Sound) (waiting : t.waiting.get? n = some c)
    (reply : Except Error Claim) : t.Replies n c reply := by
  obtain ⟨query, pending⟩ := h.pending n c waiting
  constructor
  · rw [step_reply waiting]
    exact ⟨query, pending.suits, pending.concludes reply⟩
  · intro d
    rw [step_reply waiting]
    cases reply with
    | ok claim => exact ClaimCache.get?_store t.outbound.cache c.destination d claim
    | error _ => exact (ite_self _).symm

theorem Sound.waits (h : t.Sound) (waiting : t.waiting.get? n = some c) : t.Waits n c := by
  obtain ⟨query, pending⟩ := h.pending n c waiting
  refine ⟨pending.deliveries, fun e other => ?_⟩
  cases e with
  | pin _ => exact waiting
  | apply _ _ => exact waiting
  | pass _ => exact waiting
  | call d reading =>
    rw [step]
    obtain ⟨outbound, delivery | query⟩ := d.first t.outbound _ reading t.now
    · exact waiting
    · simpa [enter, Table.get?_put, Nat.ne_of_lt pending.made] using waiting
  | reply number reply =>
    rw [step]
    split
    · have differs : n ≠ number := by
        rintro rfl
        exact other reply rfl
      simpa [finish, Table.get?_erase, differs] using waiting
    · exact waiting

theorem get?_call_of_ne (t : Traffic) (c : OutboundCall) (reading : Reading) {d : String}
    (differs : d ≠ c.destination) :
    (t.step (.call c reading)).outbound.cache.get? d = t.outbound.cache.get? d := by
  have first := c.first_first t.outbound t.keys reading t.now
  rw [step]
  generalize c.first t.outbound _ reading t.now = came at first
  cases first with
  | withheld _ => rfl
  | undirected _ _ => rfl
  | found _ _ _ _ => rfl
  | asking _ _ _ erased _ => exact (erased d).trans (if_neg differs)

end

theorem coherence_run (keys : AuthorityKeys) (now : Nat) (events : List Event) :
    ((start keys now).run events).Coherent :=
  have sound := (sound_start keys now).run events
  { asks_iff := fun _ _ => sound.asks_iff
    offered := fun _ _ _ => sound.offered
    asks := fun _ _ => sound.asks
    waits := fun _ _ => sound.waits
    replies := fun _ _ reply waiting => sound.replies waiting reply
    others := fun c reading _ => get?_call_of_ne _ c reading
    held := sound.held }

end Warrant.Traffic
