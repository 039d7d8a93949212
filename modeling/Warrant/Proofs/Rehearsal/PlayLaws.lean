import Warrant.Proofs.Host.SeatLaws
import Warrant.Proofs.Rehearsal.StageLaws
import Warrant.Rehearsal.Play

namespace Warrant.Rehearsal.Play

variable {α β : Type} {s : Stage}

/-! ### What comes of a play -/

/-- If the play gets to its end, this holds of its result and of the stage then. -/
def Comes (π : Play α) (s : Stage) (p : α → Stage → Prop) : Prop :=
  ∀ a s', π s = some (a, s') → p a s'

section

variable {π : Play α} {p q : α → Stage → Prop}

theorem Comes.mono (comes : π.Comes s p) (weaker : ∀ a s', p a s' → q a s') : π.Comes s q :=
  fun a s' played => weaker a s' (comes a s' played)

@[simp] theorem comes_pure (a : α) : (pure a : Play α).Comes s p ↔ p a s := by
  constructor
  · exact fun comes => comes a s rfl
  · rintro holds _ _ ⟨⟩
    exact holds

@[simp] theorem comes_bind (f : α → Play β) (p : β → Stage → Prop) :
    (π >>= f).Comes s p ↔ π.Comes s fun a s' => (f a).Comes s' p := by
  constructor
  · intro comes a s' played b s'' more
    refine comes b s'' ?_
    change (π s).bind _ = _
    rw [played]
    exact more
  · intro comes b s'' played
    obtain ⟨⟨a, s'⟩, first, more⟩ := Option.bind_eq_some_iff.1 played
    exact comes a s' first b s'' more

@[simp] theorem comes_map (f : α → β) (p : β → Stage → Prop) :
    (f <$> π).Comes s p ↔ π.Comes s fun a s' => p (f a) s' := by
  rw [map_eq_pure_bind, comes_bind]
  simp only [comes_pure]

@[simp] theorem comes_get (p : Stage → Stage → Prop) : (get : Play Stage).Comes s p ↔ p s s :=
  comes_pure (s := s) s

@[simp] theorem comes_set (t : Stage) (p : PUnit → Stage → Prop) :
    (set t : Play PUnit).Comes s p ↔ p ⟨⟩ t :=
  comes_pure (s := t) PUnit.unit

@[simp] theorem comes_modify (f : Stage → Stage) (p : PUnit → Stage → Prop) :
    (modify f : Play PUnit).Comes s p ↔ p ⟨⟩ (f s) :=
  comes_pure (s := f s) PUnit.unit

@[simp] theorem comes_lift (o : Option α) :
    (liftM o : Play α).Comes s p ↔ ∀ a, o = some a → p a s := by
  cases o with
  | none => exact ⟨fun _ _ => nofun, fun _ _ _ => nofun⟩
  | some a =>
    refine (comes_pure a).trans ⟨?_, fun holds => holds a rfl⟩
    rintro holds _ ⟨⟩
    exact holds

@[simp] theorem comes_seat (n : Nat) (p : Seat → Stage → Prop) :
    (seat n).Comes s p ↔ ∀ t, s.host.seats.get? n = some t → p t s := by
  simp [seat]

@[simp] theorem comes_client (n : Nat) (p : Client → Stage → Prop) :
    (client n).Comes s p ↔ ∀ t, s.host.seats.get? n = some t → p t.client s := by
  simp [client]

@[simp] theorem comes_changeClient (n : Nat) (f : Client → Client) (p : Unit → Stage → Prop) :
    (changeClient n f).Comes s p ↔
      ∀ t, s.host.seats.get? n = some t → p () (s.setClient n (f t.client)) := by
  simp [changeClient]

@[simp] theorem comes_changeHost (f : Host → Host) (p : Unit → Stage → Prop) :
    (changeHost f).Comes s p ↔ p () { s with host := f s.host } := by
  simp [changeHost]

end

/-! ### Where plays lead -/

variable [Scheme]

def Leads (π : Play α) : Prop :=
  ∀ s, s.Ready → π.Comes s fun _ s' => s.host.Leads s'.host

def Waits (π : Play α) : Prop :=
  ∀ s, s.Ready → π.Comes s fun _ s' => s.Passes s'

theorem Waits.leads {π : Play α} (waits : π.Waits) : π.Leads :=
  fun s ready => (waits s ready).mono fun _ _ passes => passes.host.leads

theorem Waits.after {π : Play α} (waits : π.Waits) {t : Stage} (ready : s.Ready)
    (host : t.host = s.host) (clock : t.clock = s.clock) :
    π.Comes t fun _ s' => s.Passes s' :=
  (waits t (ready.of_eq host)).mono fun _ _ passes =>
    (Stage.Passes.of_eq host (Nat.le_of_eq clock.symm)).trans passes

theorem Leads.bind {π : Play α} {f : α → Play β} (first : π.Leads) (second : ∀ a, (f a).Leads) :
    (π >>= f).Leads := by
  intro s ready
  refine (comes_bind f _).2 ((first s ready).mono fun a s' leads => ?_)
  exact (second a s' (ready.leads leads)).mono fun _ _ more => leads.trans more

theorem leads_unregister (h : Handle) : (unregister h).Leads := by
  intro s _
  simp only [unregister, comes_bind, comes_get]
  split
  · next l unregistered =>
    simp only [comes_bind, comes_changeHost, comes_pure]
    exact .single (.stir (.unregister own unregistered))
  · simp only [comes_pure]
    exact .refl

theorem leads_update (h : Handle) (credential : Credential) : (update h credential).Leads := by
  intro s _
  simp only [update, comes_bind, comes_get]
  split
  · next l updated =>
    simp only [comes_bind, comes_changeHost, comes_pure]
    exact .single (.update own updated)
  · simp only [comes_pure]
    exact .refl

omit [Scheme] in
theorem setEnforcement_aside {c c' : Client} {fraction : Float} {event : LogEvent}
    (set : c.setEnforcement fraction = .ok (c', event)) :
    c.Alike c' ∧ c'.outbound = c.outbound := by
  rw [Client.setEnforcement] at set
  cases came : Enforcement.set fraction with
  | error e =>
    rw [came] at set
    cases set
  | ok changed =>
    rw [came] at set
    cases set
    exact ⟨{ Client.Alike.refl c with }, rfl⟩

theorem leads_enforce (n : Nat) (fraction : Float) : (enforce n fraction).Leads := by
  intro s _
  simp only [enforce, comes_bind, comes_client]
  intro t there
  split
  · next c event set =>
    simp only [comes_bind, comes_modify, comes_pure]
    obtain ⟨alike, outbound⟩ := setEnforcement_aside set
    exact .single (.stir (.aside there alike outbound))
  · simp only [comes_pure]
    exact .refl

/-! ### Inbound requests -/

section

variable (n : Nat) (drawn : Float) (options : List InboundOption)

theorem waits_evaluate (token : Option String) : (evaluate n drawn token options).Waits := by
  intro s _
  simp only [evaluate, circumstances, comes_bind, comes_client, comes_get, comes_seat, comes_pure,
    comes_modify]
  exact fun _ _ _ _ => .of_eq rfl (Nat.le_refl _)

theorem waits_validate (token : String) : (validate n drawn token options).Waits := by
  intro s _
  simp only [validate, circumstances, comes_bind, comes_client, comes_get, comes_seat, comes_pure,
    comes_modify]
  exact fun _ _ _ _ => .of_eq rfl (Nat.le_refl _)

theorem waits_receive (metadata : Metadata) : (receive n drawn metadata options).Waits := by
  intro s _
  simp only [receive, circumstances, comes_bind, comes_client, comes_get, comes_seat, comes_pure,
    comes_modify]
  exact fun _ _ _ _ => .of_eq rfl (Nat.le_refl _)

end

/-! ### Calls of the authority -/

theorem waits_wait (seconds : Nat) : (wait seconds).Waits := by
  intro s ready
  simp only [wait, comes_modify]
  split
  · exact .refl s
  · exact ready.passes_pass seconds

theorem waits_askClaim (timeout : Nat) (r : Requester) (query : ClaimQuery) :
    (askClaim timeout r query).Waits := by
  intro s ready
  simp only [askClaim, comes_bind, comes_modify, comes_get, comes_pure]
  exact (waits_wait _).after ready rfl rfl

theorem waits_askSign (limit : Option Limit) (request : SigningRequest) :
    (askSign limit request).Waits := by
  intro s ready
  cases limit with
  | none =>
    simp only [askSign, comes_bind, comes_modify, comes_get, comes_pure]
    exact (waits_wait _).after ready rfl rfl
  | some limit =>
    simp only [askSign, comes_bind, comes_modify, comes_get, comes_pure]
    exact (waits_wait _).after ready rfl rfl

theorem waits_renew (held : Credential) : (renew held).Waits := by
  intro s ready
  simp only [renew, freshKey, comes_bind, comes_get, comes_set, comes_pure]
  exact (waits_askSign none _).after ready rfl rfl

/-! ### Outbound requests -/

theorem leads_continued (n : Nat) (r : Requester) (destination : String)
    (first : Outbound × Started α) (last : Except Error Claim → α) :
    (continued n r destination first last).Leads := by
  intro s ready
  simp only [continued, comes_bind, comes_changeClient]
  intro t there
  have called : s.host.Leads (s.setClient n { t.client with outbound := first.1 }).host :=
    .single (.call first.1 there)
  split
  · simp only [comes_pure]
    exact called
  · next query _ =>
    simp only [comes_bind, comes_client, comes_get, comes_changeClient, comes_pure]
    intro t₁ _
    refine (waits_askClaim _ r query _ (ready.leads called)).mono ?_
    intro reply s₂ passes t₂ there₂
    exact (called.trans passes.host.leads).tail (.call _ there₂)

theorem leads_send (n : Nat) (r : Requester) (metadata : Metadata) (destination : String)
    (explicit : Option String) : (send n r metadata destination explicit).Leads := by
  intro s ready
  simp only [send, comes_bind, comes_get, comes_seat]
  exact fun _ _ => leads_continued n r destination _ _ s ready

theorem leads_credential (n : Nat) (r : Requester) (destination : String)
    (explicit : Option String) : (credential n r destination explicit).Leads := by
  intro s ready
  simp only [credential, comes_bind, comes_get, comes_seat]
  exact fun _ _ => leads_continued n r destination _ _ s ready

theorem leads_resolve (n : Nat) (r : Requester) (destination : String)
    (explicit : Option String) : (resolve n r destination explicit).Leads := by
  intro s ready
  simp only [resolve, comes_bind, comes_get, comes_seat]
  exact fun _ _ => leads_continued n r destination _ _ s ready

/-! ### Clients -/

theorem comes_upgraded (f : Founding) (keys : Nat) (ready : s.Ready) (v : Venture) :
    (upgraded f v.identity keys).Comes s fun result s' => s.Passes s' ∧
      ∃ fresh asked reply usable ended,
        { v with fresh, serial := 1, asked, reply, usable, ended }.admitted f = result := by
  unfold upgraded
  split
  · next held same =>
    simp only [freshKey, comes_bind, comes_get, comes_set, comes_pure]
    split
    · next renewal started =>
      simp only [comes_bind, comes_get, comes_pure]
      have asked := (waits_askSign
        (some (.upgrade f.config.requestTimeout.toNat)) renewal.request).after
        (t := s.nextKey.1) ready rfl rfl
      refine asked.mono fun reply s' passes => ⟨passes, ?_⟩
      refine ⟨s.nextKey.2, s.nextKey.1.wall, reply, s'.usable keys, s'.wall, ?_⟩
      simp only [Venture.admitted, same, started]
    · next none =>
      simp only [comes_pure]
      refine ⟨.of_eq rfl (Nat.le_refl _), s.nextKey.2, s.nextKey.1.wall, v.reply, [], 0, ?_⟩
      simp only [Venture.admitted, same, none]
  · next name key same =>
    simp only [comes_pure]
    refine ⟨.refl s, v.fresh, v.asked, v.reply, [], 0, ?_⟩
    simp only [Venture.admitted, same]

/-- What comes of a call that makes a client: it is a venture, and joins the host as it is then. -/
theorem comes_join (config : Config) (identity : Identity) (keys : Nat) (shared hasDaemon : Bool)
    (ready : s.Ready) :
    (join config identity keys shared hasDaemon).Comes s fun result s' =>
      ∃ (v : Venture) (h : Host), s.host.Stirs h ∧
        match result with
        | .ok n => n = h.seats.size ∧ ∃ f admitted,
            Founding.start v.config v.keys v.records v.now = .ok f ∧
            v.admitted f = .ok admitted ∧
            s'.host = (h.join f admitted (if shared then some own else none) v.endpoint v.context
              v.clock).1
        | .error e => (∀ l, v.attempt l = (l, .error e)) ∧ s'.host = h := by
  -- What the venture finds on its way is filled in as it comes.
  let v : Venture :=
    { config, identity, keys := s.host.keySet keys, records := s.lookup, now := .ofSecond s.wall,
      fresh := s.script.key, serial := 1, asked := 0, reply := .error (.config .noDestination),
      usable := [], ended := 0, endpoint := s.endpoint, context := ⟨hasDaemon, keys⟩,
      clock := s.clock }
  unfold join
  simp only [comes_bind, comes_get]
  split
  · next e failed =>
    simp only [comes_pure]
    refine ⟨v, s.host, .refl, fun l => ?_, rfl⟩
    simp only [Venture.attempt, v, failed]
  · next f started =>
    simp only [comes_bind, comes_modify]
    generalize noted : s.noteLookups _ = t
    have host : t.host = s.host := by rw [← noted, Stage.host_noteLookups]
    refine (comes_upgraded f keys (ready.of_eq host) v).mono ?_
    rintro result s₁ ⟨passes, fresh, asked, reply, usable, ended, admitted⟩
    have stirs := passes.host
    rw [host] at stirs
    cases result with
    | error e =>
      simp only [comes_pure]
      refine ⟨{ v with fresh, asked, reply, usable, ended }, s₁.host, stirs, fun l => ?_, rfl⟩
      simp only [Venture.attempt, v, started, admitted]
    | ok identity' =>
      simp only [comes_bind, comes_get, comes_set, comes_pure]
      exact ⟨{ v with
          fresh, asked, reply, usable, ended, endpoint := s₁.endpoint, clock := s₁.clock },
        s₁.host, stirs, by cases shared <;> rfl, f, identity', started, admitted, rfl⟩

theorem leads_join (config : Config) (identity : Identity) (keys : Nat) (shared hasDaemon : Bool) :
    (join config identity keys shared hasDaemon).Leads := by
  intro s ready
  refine (comes_join config identity keys shared hasDaemon ready).mono ?_
  rintro result s' ⟨v, h, stirs, came⟩
  cases result with
  | error e =>
    rw [came.2]
    exact stirs.leads
  | ok n =>
    obtain ⟨-, f, admitted, -, -, joined⟩ := came
    rw [joined]
    refine stirs.leads.trans (Host.leads_join f admitted (fun r same => ?_) _ _ _)
    have later : Stage.Ready { s with host := h } := ready.leads stirs.leads
    cases shared <;> cases same
    exact later.registry

theorem join_attempt (config : Config) (identity : Identity) (keys : Nat) (hasDaemon : Bool)
    (ready : s.Ready) :
    (join config identity keys true hasDaemon).Comes s fun result s' =>
      ∃ (v : Venture) (h : Host), s.host.Stirs h ∧
        match result with
        | .ok n => ∃ c, v.attempt (h.registry own) = (s'.host.registry own, .ok c) ∧
            s'.host.client? n = some c
        | .error e => v.attempt (h.registry own) = (s'.host.registry own, .error e) := by
  refine (comes_join config identity keys true hasDaemon ready).mono ?_
  rintro result s' ⟨v, h, stirs, came⟩
  refine ⟨v, h, stirs, ?_⟩
  cases result with
  | error e =>
    obtain ⟨failed, same⟩ := came
    rw [same]
    exact failed _
  | ok n =>
    obtain ⟨rfl, f, admitted, started, done, joined⟩ := came
    have later : Stage.Ready { s with host := h } := ready.leads stirs.leads
    rw [joined]
    exact Host.join_attempt v later.registry started done

theorem leads_checkRecords (n : Nat) : (checkRecords n).Leads := by
  intro s _
  simp only [checkRecords, comes_bind, comes_get, comes_set, comes_client, comes_pure,
    Stage.host_noteLookups]
  exact fun _ _ => (Host.stirs_check n s.lookup s.wall).leads

theorem leads_close (n : Nat) : (close n).Leads := by
  intro s _
  simp only [close, comes_bind, comes_get, comes_changeHost, comes_pure]
  exact (Host.stirs_close n).leads

/-! ### Monitors and readers -/

theorem waits_isDisabled : isDisabled.Waits := by
  intro s _
  simp [isDisabled, Stage.Passes.refl]

theorem waits_watch (domain : String) (keys : Nat) : (watch domain keys).Waits := by
  intro s _
  simp only [watch, comes_bind, comes_get]
  split
  · simp only [comes_bind, comes_get, comes_modify, comes_pure]
    exact .of_eq rfl (Nat.le_refl _)
  · simp only [comes_pure]
    exact .refl s

theorem waits_checkWatch (n : Nat) : (checkWatch n).Waits := by
  intro s ready
  simp only [checkWatch, isDisabled, comes_bind, comes_modify, comes_client, comes_pure]
  exact fun _ _ => ready.passes_check n

theorem waits_recovered (n : Nat) : (recovered n).Waits := by
  intro s _
  simp only [recovered, comes_bind, comes_get, comes_lift, comes_modify, comes_pure]
  exact fun _ _ => .of_eq rfl (Nat.le_refl _)

theorem waits_refresh (r : Requester) : (refresh r).Waits := by
  intro s ready
  simp only [refresh, isDisabled, comes_bind, comes_client, comes_pure]
  intro t there
  split
  · simp only [comes_pure]
    exact .refl s
  · simp only [comes_bind, comes_modify, comes_client, comes_get, comes_changeClient,
      comes_pure]
    intro t₁ _
    refine ((waits_wait _).after (t := s.note _) ready rfl rfl).mono fun _ s₁ passes => ?_
    intro t₂ there₂
    exact passes.trans
      (Stage.passes_setOwn there₂ { Client.Alike.refl t₂.client with } rfl)

theorem waits_startReader (r : Requester) : (startReader r).Waits := by
  intro s _
  simp only [startReader, comes_bind, comes_client, comes_modify]
  exact fun _ _ => .of_eq rfl (Nat.le_refl _)

/-! ### Whole rehearsals -/

/-- A rehearsal is made of plays, one after the other. -/
inductive Rehearsed : {α : Type} → Play α → Prop
  | pure {α : Type} (a : α) : Rehearsed (pure a : Play α)
  | bind {α β : Type} {π : Play α} {f : α → Play β} : Rehearsed π → (∀ a, Rehearsed (f a)) →
      Rehearsed (π >>= f)
  | beside (f : Stage → Stage) : (∀ s, (f s).host = s.host) → Rehearsed (modify f)
  | rest : Rehearsed (modify Stage.rest)
  | client (n : Nat) : Rehearsed (client n)
  | addKeys (keys : AuthorityKeys) : Rehearsed (addKeys keys)
  | pin (key : PublicKey) : Rehearsed (changeKeys (·.pin key))
  | applyManifest (m : Manifest) : Rehearsed (applyManifest m)
  | publish (key : PublicKey) (texts : List String) : Rehearsed (publish key texts)
  | withdraw (key : PublicKey) : Rehearsed (withdraw key)
  | drop (n : Nat) : Rehearsed (drop n)
  | failDestination (destination : String) : Rehearsed (failDestination destination)
  | applyDerelicts (reply : DerelictReply) : Rehearsed (applyDerelicts reply)
  | register (credential : Credential) (hasDaemon : Bool) :
      Rehearsed (register credential hasDaemon)
  | unregister (h : Handle) : Rehearsed (unregister h)
  | update (h : Handle) (credential : Credential) : Rehearsed (update h credential)
  | current (h : Handle) : Rehearsed (current h)
  | evaluate (n : Nat) (drawn : Float) (token : Option String) (options : List InboundOption) :
      Rehearsed (evaluate n drawn token options)
  | validate (n : Nat) (drawn : Float) (token : String) (options : List InboundOption) :
      Rehearsed (validate n drawn token options)
  | receive (n : Nat) (drawn : Float) (metadata : Metadata) (options : List InboundOption) :
      Rehearsed (receive n drawn metadata options)
  | enforce (n : Nat) (fraction : Float) : Rehearsed (enforce n fraction)
  | wait (seconds : Nat) : Rehearsed (wait seconds)
  | renew (held : Credential) : Rehearsed (renew held)
  | send (n : Nat) (r : Requester) (metadata : Metadata) (destination : String)
      (explicit : Option String) : Rehearsed (send n r metadata destination explicit)
  | credential (n : Nat) (r : Requester) (destination : String) (explicit : Option String) :
      Rehearsed (credential n r destination explicit)
  | resolve (n : Nat) (r : Requester) (destination : String) (explicit : Option String) :
      Rehearsed (resolve n r destination explicit)
  | join (config : Config) (identity : Identity) (keys : Nat) (shared hasDaemon : Bool) :
      Rehearsed (join config identity keys shared hasDaemon)
  | checkRecords (n : Nat) : Rehearsed (checkRecords n)
  | close (n : Nat) : Rehearsed (close n)
  | isDisabled : Rehearsed isDisabled
  | watch (domain : String) (keys : Nat) : Rehearsed (watch domain keys)
  | checkWatch (n : Nat) : Rehearsed (checkWatch n)
  | recovered (n : Nat) : Rehearsed (recovered n)
  | refresh (r : Requester) : Rehearsed (refresh r)
  | startReader (r : Requester) : Rehearsed (startReader r)

theorem Rehearsed.leads {π : Play α} (rehearsed : Rehearsed π) : π.Leads := by
  induction rehearsed with
  | pure a => exact fun s _ => (comes_pure a).2 .refl
  | bind _ _ first second => exact first.bind second
  | beside f aside =>
    intro s _
    rw [comes_modify, aside]
    exact .refl
  | rest =>
    intro s ready
    rw [comes_modify]
    exact ready.passes_rest.host.leads
  | client n =>
    intro s _
    rw [comes_client]
    exact fun _ _ => .refl
  | addKeys keys =>
    intro s _
    simp only [Play.addKeys, comes_bind, comes_get, comes_changeHost, comes_pure]
    exact .single (.provide keys)
  | pin key =>
    intro s _
    simp only [changeKeys, comes_changeHost]
    exact .single (.pin own key)
  | applyManifest m =>
    intro s _
    simp only [Play.applyManifest, changeKeys, comes_bind, comes_get, comes_changeHost]
    exact .single (.apply own m (.ofSecond s.wall))
  | publish key texts =>
    intro s _
    simp only [Play.publish, comes_bind, comes_client, comes_modify]
    exact fun _ _ => .refl
  | withdraw key =>
    intro s _
    simp only [Play.withdraw, comes_bind, comes_client, comes_modify]
    exact fun _ _ => .refl
  | drop n =>
    intro s _
    simp only [Play.drop, comes_changeHost]
    exact Host.leads_drop n
  | failDestination destination =>
    intro s _
    simp only [Play.failDestination, comes_bind, comes_get, comes_changeClient]
    exact fun _ there => .single (.call _ there)
  | applyDerelicts reply =>
    intro s _
    simp only [Play.applyDerelicts, comes_changeClient]
    exact fun t there =>
      .single (.stir (.aside there { Client.Alike.refl t.client with } rfl))
  | register credential hasDaemon =>
    intro s _
    simp only [Play.register, comes_bind, comes_get, comes_changeHost, comes_pure]
    exact .single (.register own credential s.endpoint ⟨hasDaemon, own⟩ s.clock)
  | unregister h => exact leads_unregister h
  | update h credential => exact leads_update h credential
  | current h =>
    intro s _
    simp only [Play.current, comes_bind, comes_get, comes_lift]
    exact fun _ _ => .refl
  | evaluate n drawn token options => exact (waits_evaluate n drawn options token).leads
  | validate n drawn token options => exact (waits_validate n drawn options token).leads
  | receive n drawn metadata options => exact (waits_receive n drawn options metadata).leads
  | enforce n fraction => exact leads_enforce n fraction
  | wait seconds => exact (waits_wait seconds).leads
  | renew held => exact (waits_renew held).leads
  | send n r metadata destination explicit => exact leads_send n r metadata destination explicit
  | credential n r destination explicit => exact leads_credential n r destination explicit
  | resolve n r destination explicit => exact leads_resolve n r destination explicit
  | join config identity keys shared hasDaemon =>
    exact leads_join config identity keys shared hasDaemon
  | checkRecords n => exact leads_checkRecords n
  | close n => exact leads_close n
  | isDisabled => exact waits_isDisabled.leads
  | watch domain keys => exact (waits_watch domain keys).leads
  | checkWatch n => exact (waits_checkWatch n).leads
  | recovered n => exact (waits_recovered n).leads
  | refresh r => exact (waits_refresh r).leads
  | startReader r => exact (waits_startReader r).leads

end Warrant.Rehearsal.Play

namespace Warrant.Rehearsal.Stage

variable [Scheme]

def ownClient (config : Config) (script : Script) : Client :=
  (Founding.finish ⟨config, config.disabled, none, []⟩ (.enrolled script.key) 0).1

/-- The host of a new stage, before its own client is told to run no tasks. -/
def founded (config : Config) (keys : AuthorityKeys) (script : Script) (endpoint : String) : Host :=
  let h := ((Host.empty.addKeys keys).1.addRegistry
    (.make (Timings.period config.timings.certificateRefresh))).1
  (h.join ⟨config, config.disabled, none, []⟩ (.enrolled config.serviceName script.key) (some own)
    endpoint ⟨false, own⟩ 0).1

section

variable (config : Config) (keys : AuthorityKeys) (script : Script) (endpoint : String)
  (start : Int64)

theorem leads_founded : Host.empty.Leads (founded config keys script endpoint) := by
  have provided := Host.Move.provide (h := .empty) keys
  have made := Host.Move.found (h := (Host.empty.addKeys keys).1)
    (Timings.period config.timings.certificateRefresh)
  refine ((Relation.ReflTransGen.single provided).tail made).trans ?_
  refine Host.leads_join _ _ (fun r same => ?_) _ _ _
  cases same
  rfl

omit [Scheme] in
theorem seat_founded :
    (founded config keys script endpoint).seats.get? own =
      some ⟨ownClient config script, own, own, false, false⟩ := rfl

theorem leads_make :
    Host.empty.Leads (make config keys script endpoint start).host ∧
      (make config keys script endpoint start).Ready := by
  have host : (make config keys script endpoint start).host =
      (founded config keys script endpoint).setClient own
        { ownClient config script with refresher := .stopped } := rfl
  have seated := seat_founded config keys script endpoint
  have alike : (ownClient config script).Alike
      { ownClient config script with refresher := .stopped } :=
    { Client.Alike.refl _ with }
  have leads : Host.empty.Leads (make config keys script endpoint start).host := by
    rw [host]
    exact (leads_founded config keys script endpoint).tail (.stir (.aside seated alike rfl))
  refine ⟨leads, (leads.persists Host.ordered_empty).ordered, ?_, ?_⟩
  · rw [host, Host.registries_setClient]
    rfl
  · rw [host]
    exact ⟨_, Host.get?_setClient seated _, rfl⟩

/-- Whatever is rehearsed, a host is led there that was empty at first. -/
theorem leads_rehearsed {α : Type} {π : Play α} (rehearsed : Play.Rehearsed π) :
    π.Comes (make config keys script endpoint start) fun _ s => Host.empty.Leads s.host := by
  obtain ⟨made, ready⟩ := leads_make config keys script endpoint start
  exact (rehearsed.leads _ ready).mono fun _ _ leads => made.trans leads

end

end Warrant.Rehearsal.Stage
