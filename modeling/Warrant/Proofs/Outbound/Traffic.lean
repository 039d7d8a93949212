import Warrant.Proofs.BackoffLaws
import Warrant.Proofs.Outbound.Call

/-!
Outbound calls under way. Each has a step before and one after the authority is asked; between them
come the steps of other calls, for the same destination or for others, keys come and go, and time
passes. What is asked, replied and delivered is written down.
-/

namespace Warrant

inductive Note
  | asked (number : Nat) (call : OutboundCall) (query : ClaimQuery)
  | replied (number : Nat) (call : OutboundCall) (reply : Except Error Claim)
  | delivered (number : Nat) (delivery : Delivery)

namespace Note

def query? (number : Nat) : Note → Option ClaimQuery
  | .asked n _ query => if n = number then some query else none
  | _ => none

def delivery? (number : Nat) : Note → Option Delivery
  | .delivered n delivery => if n = number then some delivery else none
  | _ => none

def queries (number : Nat) (past : List Note) : List ClaimQuery :=
  past.filterMap (query? number)

def deliveries (number : Nat) (past : List Note) : List Delivery :=
  past.filterMap (delivery? number)

section

variable (number n : Nat) (past : List Note)

@[simp] theorem queries_asked (c : OutboundCall) (query : ClaimQuery) :
    queries number (.asked n c query :: past) =
      if n = number then query :: queries number past else queries number past := by
  by_cases same : n = number <;> simp [queries, query?, same]

@[simp] theorem queries_replied (c : OutboundCall) (reply : Except Error Claim) :
    queries number (.replied n c reply :: past) = queries number past := rfl

@[simp] theorem queries_delivered (delivery : Delivery) :
    queries number (.delivered n delivery :: past) = queries number past := rfl

@[simp] theorem deliveries_asked (c : OutboundCall) (query : ClaimQuery) :
    deliveries number (.asked n c query :: past) = deliveries number past := rfl

@[simp] theorem deliveries_replied (c : OutboundCall) (reply : Except Error Claim) :
    deliveries number (.replied n c reply :: past) = deliveries number past := rfl

@[simp] theorem deliveries_delivered (delivery : Delivery) :
    deliveries number (.delivered n delivery :: past) =
      if n = number then delivery :: deliveries number past else deliveries number past := by
  by_cases same : n = number <;> simp [deliveries, delivery?, same]

end

end Note

structure Traffic where
  outbound : Outbound
  keys : AuthorityKeys
  now : Nat
  /-- How many calls have been made; the next one has this number. -/
  made : Nat
  waiting : Table Nat OutboundCall
  /-- What has happened, last thing first. -/
  past : List Note

namespace Traffic

inductive Event
  | pin (key : PublicKey)
  | apply (manifest : Manifest) (at_ : Moment)
  | pass (time : Nat)
  | call (c : OutboundCall) (reading : Reading)
  | reply (number : Nat) (reply : Except Error Claim)

def start (keys : AuthorityKeys) (now : Nat) : Traffic :=
  ⟨.empty, keys, now, 0, ∅, []⟩

def enter (t : Traffic) (c : OutboundCall) : Outbound × Started Delivery → Traffic
  | (outbound, .done delivery) =>
    { t with outbound, made := t.made + 1, past := .delivered t.made delivery :: t.past }
  | (outbound, .asking query) =>
    { t with
      outbound
      made := t.made + 1
      waiting := t.waiting.put t.made c
      past := .asked t.made c query :: t.past }

def finish (t : Traffic) (number : Nat) (c : OutboundCall) (reply : Except Error Claim) : Traffic :=
  { t with
    outbound := t.outbound.settle c.destination t.now reply
    waiting := t.waiting.erase number
    past := .delivered number (c.deliver reply) :: .replied number c reply :: t.past }

section

variable [Scheme]

def step (t : Traffic) : Event → Traffic
  | .pin key => { t with keys := t.keys.pin key }
  | .apply m at_ => { t with keys := t.keys.apply m at_ }
  | .pass time => { t with now := t.now + time }
  | .call c reading =>
    t.enter c (c.first t.outbound (t.keys.usable reading.clock) reading t.now)
  | .reply number reply =>
    match t.waiting.get? number with
    | some c => t.finish number c reply
    | none => t

def run (t : Traffic) (events : List Event) : Traffic :=
  events.foldl step t

inductive Move (t : Traffic) : Traffic → Prop
  | rest (keys : AuthorityKeys) (time : Nat) : Move t { t with keys, now := t.now + time }
  | deliver (c : OutboundCall) (delivery : Delivery) :
      Move t (t.enter c (t.outbound, .done delivery))
  | ask {c : OutboundCall} {cache : ClaimCache} (query : ClaimQuery) :
      (∀ d, cache.get? d = if d = c.destination then none else t.outbound.cache.get? d) →
      query.Suits c.requester c.destination c.named →
      Move t (t.enter c (⟨cache, t.outbound.skips⟩, .asking query))
  | conclude {number : Nat} {c : OutboundCall} (reply : Except Error Claim) :
      t.waiting.get? number = some c → Move t (t.finish number c reply)

theorem step_moves (t : Traffic) (e : Event) : t.Move (t.step e) := by
  cases e with
  | pin key => exact .rest _ 0
  | apply m at_ => exact .rest _ 0
  | pass time => exact .rest t.keys time
  | call c reading =>
    have first := c.first_first t.outbound t.keys reading t.now
    rw [step]
    generalize c.first t.outbound _ reading t.now = came at first
    cases first with
    | withheld _ => exact .deliver c _
    | undirected _ _ => exact .deliver c _
    | found _ _ _ _ => exact .deliver c _
    | asking _ _ _ erased suits => exact .ask _ erased suits
  | reply number reply =>
    rw [step]
    split
    · next waiting => exact .conclude reply waiting
    · exact .rest t.keys 0

end

/-! ### What has happened stays as it is -/

/-- All that has been settled about calls is still so. -/
structure Extends (t u : Traffic) : Prop where
  made_le : t.made ≤ u.made
  queries_eq : ∀ n, n < t.made → Note.queries n u.past = Note.queries n t.past
  closed : ∀ n, n < t.made → t.waiting.get? n = none →
    u.waiting.get? n = none ∧ Note.deliveries n u.past = Note.deliveries n t.past

theorem Extends.refl (t : Traffic) : t.Extends t :=
  ⟨Nat.le_refl _, fun _ _ => rfl, fun _ _ closed => ⟨closed, rfl⟩⟩

theorem Extends.trans {t u v : Traffic} (h : t.Extends u) (g : u.Extends v) : t.Extends v where
  made_le := Nat.le_trans h.made_le g.made_le
  queries_eq n made :=
    (g.queries_eq n (Nat.lt_of_lt_of_le made h.made_le)).trans (h.queries_eq n made)
  closed n made closed := by
    obtain ⟨still, same⟩ := h.closed n made closed
    obtain ⟨yet, equal⟩ := g.closed n (Nat.lt_of_lt_of_le made h.made_le) still
    exact ⟨yet, equal.trans same⟩

theorem Move.extends {t u : Traffic} (move : t.Move u) : t.Extends u := by
  cases move with
  | rest keys time => exact ⟨Nat.le_refl _, fun _ _ => rfl, fun _ _ closed => ⟨closed, rfl⟩⟩
  | deliver c delivery =>
    refine ⟨Nat.le_succ _, fun _ _ => rfl, fun n made closed => ⟨closed, ?_⟩⟩
    simp [enter, Nat.ne_of_gt made]
  | ask query erased suits =>
    refine ⟨Nat.le_succ _, fun n made => ?_, fun n made closed => ⟨?_, ?_⟩⟩
    · simp [enter, Nat.ne_of_gt made]
    · simpa [enter, Table.get?_put, Nat.ne_of_lt made] using closed
    · simp [enter]
  | @conclude number c reply waiting =>
    refine ⟨Nat.le_refl _, fun _ _ => rfl, fun n made closed => ⟨?_, ?_⟩⟩
    · simp [finish, Table.get?_erase, closed]
    · have other : number ≠ n := by
        rintro rfl
        simp [closed] at waiting
      simp [finish, other]

theorem extends_run [Scheme] (t : Traffic) (events : List Event) : t.Extends (t.run events) := by
  induction events generalizing t with
  | nil => exact .refl t
  | cons e rest ih => exact (t.step_moves e).extends.trans (ih (t.step e))

/-! ### What all traffic is like -/

/-- The claim is what the authority has replied to a call for the destination. -/
def Provided (past : List Note) (destination : String) (claim : Claim) : Prop :=
  ∃ n c query, .asked n c query ∈ past ∧ .replied n c (.ok claim) ∈ past ∧
    c.destination = destination

theorem Provided.mono {past more : List Note} {d : String} {claim : Claim}
    (h : Provided past d claim) (sub : past ⊆ more) : Provided more d claim := by
  obtain ⟨n, c, query, asked, replied, same⟩ := h
  exact ⟨n, c, query, sub asked, sub replied, same⟩

structure Pending (t : Traffic) (n : Nat) (c : OutboundCall) (query : ClaimQuery) : Prop where
  made : n < t.made
  suits : query.Suits c.requester c.destination c.named
  asked : .asked n c query ∈ t.past
  queries : Note.queries n t.past = [query]
  deliveries : Note.deliveries n t.past = []

structure Sound (t : Traffic) : Prop where
  skips : t.outbound.skips.Sound t.now
  pending : ∀ n c, t.waiting.get? n = some c → ∃ query, t.Pending n c query
  unmade : ∀ n, t.made ≤ n → Note.queries n t.past = [] ∧ Note.deliveries n t.past = []
  held : ∀ d claim, t.outbound.cache.get? d = some claim → Provided t.past d claim

theorem sound_start (keys : AuthorityKeys) (now : Nat) : (start keys now).Sound where
  skips := SkipList.sound_empty now
  pending := nofun
  unmade _ _ := ⟨rfl, rfl⟩
  held := nofun

section

variable {t u : Traffic}

theorem Pending.later {n : Nat} {c : OutboundCall} {query : ClaimQuery} (h : t.Pending n c query)
    (grows : t.Extends u) (keeps : t.past ⊆ u.past)
    (same : Note.deliveries n u.past = Note.deliveries n t.past) : u.Pending n c query where
  made := Nat.lt_of_lt_of_le h.made grows.made_le
  suits := h.suits
  asked := keeps h.asked
  queries := (grows.queries_eq n h.made).trans h.queries
  deliveries := same.trans h.deliveries

theorem Sound.made (h : t.Sound) {n : Nat} {c : OutboundCall}
    (waiting : t.waiting.get? n = some c) : n < t.made := by
  obtain ⟨_, pending⟩ := h.pending n c waiting
  exact pending.made

theorem Move.past_subset (move : t.Move u) : t.past ⊆ u.past := by
  cases move with
  | rest _ _ => exact List.Subset.refl _
  | deliver _ _ => exact List.subset_cons_self _ _
  | ask _ _ _ => exact List.subset_cons_self _ _
  | conclude _ _ =>
    exact List.Subset.trans (List.subset_cons_self _ _) (List.subset_cons_self _ _)

theorem Sound.skips_move (h : t.Sound) (move : t.Move u) : u.outbound.skips.Sound u.now := by
  cases move with
  | rest _ time => exact h.skips.wait time
  | deliver _ _ => exact h.skips
  | ask _ _ _ => exact h.skips
  | @conclude _ c reply _ =>
    cases reply with
    | ok _ => exact h.skips
    | error _ => exact h.skips.fail c.destination

theorem Sound.pending_move (h : t.Sound) (move : t.Move u) (n : Nat) (c : OutboundCall)
    (waiting : u.waiting.get? n = some c) : ∃ query, u.Pending n c query := by
  have later {query : ClaimQuery} (pending : t.Pending n c query) :=
    pending.later move.extends move.past_subset
  cases move with
  | rest _ _ =>
    obtain ⟨query, pending⟩ := h.pending n c waiting
    exact ⟨query, later pending rfl⟩
  | deliver _ _ =>
    obtain ⟨query, pending⟩ := h.pending n c waiting
    refine ⟨query, later pending ?_⟩
    simp [enter, Nat.ne_of_gt pending.made]
  | @ask d _ query _ suits =>
    by_cases new : n = t.made
    · subst new
      obtain rfl : d = c := by simpa [enter] using waiting
      have unmade := h.unmade t.made (Nat.le_refl _)
      exact ⟨query, Nat.lt_succ_self _, suits, List.mem_cons_self, by simp [enter, unmade.1],
        by simp [enter, unmade.2]⟩
    · obtain ⟨query, pending⟩ := h.pending n c (by simpa [enter, Table.get?_put, new] using waiting)
      exact ⟨query, later pending rfl⟩
  | @conclude number _ _ _ =>
    have other : n ≠ number := by
      rintro rfl
      simp [Traffic.finish, Table.get?_erase] at waiting
    obtain ⟨query, pending⟩ :=
      h.pending n c (by simpa [Traffic.finish, Table.get?_erase, other] using waiting)
    refine ⟨query, later pending ?_⟩
    simp [Traffic.finish, other.symm]

theorem Sound.unmade_move (h : t.Sound) (move : t.Move u) (n : Nat) (unmade : u.made ≤ n) :
    Note.queries n u.past = [] ∧ Note.deliveries n u.past = [] := by
  have before := h.unmade n (Nat.le_trans move.extends.made_le unmade)
  cases move with
  | rest _ _ => exact before
  | deliver _ _ => simpa [enter, Nat.ne_of_lt unmade] using before
  | ask _ _ _ => simpa [enter, Nat.ne_of_lt unmade] using before
  | conclude _ waiting =>
    have older := Nat.lt_of_lt_of_le (h.made waiting) unmade
    simpa [Traffic.finish, Nat.ne_of_lt older] using before

theorem Sound.held_move (h : t.Sound) (move : t.Move u) (d : String) (claim : Claim)
    (held : u.outbound.cache.get? d = some claim) : Provided u.past d claim := by
  have before (held : t.outbound.cache.get? d = some claim) : Provided u.past d claim :=
    (h.held d claim held).mono move.past_subset
  cases move with
  | rest _ _ => exact before held
  | deliver _ _ => exact before held
  | ask _ erased _ =>
    have held := (erased d).symm.trans held
    split at held
    · cases held
    · exact before held
  | @conclude n c reply waiting =>
    cases reply with
    | error _ => exact before held
    | ok reply =>
      have held := (ClaimCache.get?_store ..).symm.trans held
      split at held
      · next same =>
        cases held
        obtain ⟨query, pending⟩ := h.pending n c waiting
        exact ⟨n, c, query, by simp [Traffic.finish, pending.asked], by simp [Traffic.finish],
          same.symm⟩
      · exact before held

theorem Sound.move (h : t.Sound) (move : t.Move u) : u.Sound :=
  ⟨h.skips_move move, h.pending_move move, h.unmade_move move, h.held_move move⟩

end

theorem Sound.run [Scheme] {t : Traffic} (h : t.Sound) (events : List Event) :
    (t.run events).Sound := by
  induction events generalizing t with
  | nil => exact h
  | cons e rest ih => exact ih (h.move (t.step_moves e))

/-! ### The end of a call -/

section

variable [Scheme] {t : Traffic} {n : Nat} {c : OutboundCall} {reading : Reading}

/-- This is asked and delivered for a call, whatever comes after. -/
structure Concludes (t : Traffic) (n : Nat) (asked : List ClaimQuery) (delivery : Delivery) :
    Prop where
  queries : ∀ events, Note.queries n (t.run events).past = asked
  deliveries : ∀ events, Note.deliveries n (t.run events).past = [delivery]

/-- The call is over at once, with nobody asked and nothing changed. -/
structure Immediate (t : Traffic) (c : OutboundCall) (reading : Reading) (delivery : Delivery) :
    Prop where
  outbound : (t.step (.call c reading)).outbound = t.outbound
  concludes : (t.step (.call c reading)).Concludes t.made [] delivery

theorem concludes_of_closed {asked : List ClaimQuery} {delivery : Delivery} (made : n < t.made)
    (closed : t.waiting.get? n = none) (queries : Note.queries n t.past = asked)
    (deliveries : Note.deliveries n t.past = [delivery]) : t.Concludes n asked delivery where
  queries events := ((t.extends_run events).queries_eq n made).trans queries
  deliveries events := ((t.extends_run events).closed n made closed).2.trans deliveries

theorem Sound.immediate (h : t.Sound) {delivery : Delivery}
    (done : c.first t.outbound (t.keys.usable reading.clock) reading t.now =
      (t.outbound, .done delivery)) : t.Immediate c reading delivery := by
  have unmade := h.unmade t.made (Nat.le_refl _)
  have closed : t.waiting.get? t.made = none := by
    cases waiting : t.waiting.get? t.made with
    | none => rfl
    | some c => exact absurd (h.made waiting) (Nat.lt_irrefl _)
  constructor
  · rw [step, done]
    rfl
  · rw [step, done]
    apply concludes_of_closed
    · exact Nat.lt_succ_self _
    · exact closed
    · simp [enter, unmade.1]
    · simp [enter, unmade.2]

theorem Pending.concludes {query : ClaimQuery} (h : t.Pending n c query)
    (reply : Except Error Claim) :
    (t.finish n c reply).Concludes n [query] (c.deliver reply) := by
  apply concludes_of_closed
  · exact h.made
  · simp [finish, Table.get?_erase]
  · simp [finish, h.queries]
  · simp [finish, h.deliveries]

theorem step_reply (waiting : t.waiting.get? n = some c) (reply : Except Error Claim) :
    t.step (.reply n reply) = t.finish n c reply := by
  simp only [step, waiting]

end

end Traffic

end Warrant
