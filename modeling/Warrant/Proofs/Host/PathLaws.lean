import Warrant.Proofs.Host.MoveLaws

namespace Warrant.Host

variable [Scheme] {h h' : Host} {n : Nat} {s : Seat}

/-! ### Clients that go on -/

theorem stirs_aside (there : h.seats.get? n = some s) {c : Client} (alike : s.client.Alike c)
    (outbound : c.outbound = s.client.outbound) : h.Stirs (h.setClient n c) :=
  .single (.aside there alike outbound)

theorem stirs_client (there : h.seats.get? n = some s) (event : Client.Event)
    (quiet : s.client.offer? event = none) :
    h.Stirs
      (h.setClient n (s.client.step (h.usable s.keys) (h.registry s.registry) event).1) := by
  have unchanged : (s.client.step (h.usable s.keys) (h.registry s.registry) event).2 =
      h.registry s.registry := by
    rw [Client.step_registry, quiet]
  have stir := Stir.client event there
  rw [advance, unchanged, setRegistry_self] at stir
  exact .single stir

theorem Stirs.setClient {c d : Client} (there : h.seats.get? n = some s)
    (first : h.Stirs (h.setClient n c))
    (second : ∀ (h' : Host) (s' : Seat), h'.seats.get? n = some s' → s'.client = c →
      h'.Stirs (h'.setClient n d)) : h.Stirs (h.setClient n d) := by
  have more := second (h.setClient n c) _ (get?_setClient there c) rfl
  rw [setClient_setClient] at more
  exact first.trans more

theorem stirs_settle (there : h.seats.get? n = some s) :
    h.Stirs (h.setClient n s.client.settle) := by
  unfold Client.settle
  generalize s.client.recoveries.tasks.keys = numbers
  induction numbers generalizing h s with
  | nil =>
    rw [List.foldl_nil, setClient_self there]
    exact .refl
  | cons number rest ih =>
    have dismissed := stirs_client there (.dismiss number) rfl
    refine dismissed.setClient there fun h₁ s₁ there₁ same => ?_
    have left := stirs_client there₁ (.leave number) rfl
    refine left.setClient there₁ fun h₂ s₂ there₂ same₂ => ?_
    have settled := ih there₂
    rw [same₂, same] at settled
    exact settled

theorem stirs_heed (there : h.seats.get? n = some s) :
    h.Stirs (h.setClient n (heed s.client)) := by
  unfold heed
  split
  · rw [setClient_self there]
    exact .refl
  · exact stirs_client there .deliver rfl

theorem Stirs.settle {c : Client} (there : h.seats.get? n = some s)
    (first : h.Stirs (h.setClient n c)) : h.Stirs (h.setClient n c.settle) := by
  refine first.setClient there fun h' s' there' same => ?_
  rw [← same]
  exact stirs_settle there'

theorem Stirs.heed {c : Client} (there : h.seats.get? n = some s)
    (first : h.Stirs (h.setClient n c)) : h.Stirs (h.setClient n (heed c)) := by
  refine first.setClient there fun h' s' there' same => ?_
  rw [← same]
  exact stirs_heed there'

theorem stirs_check (n : Nat) (records : DisableMonitor.Records) (wall : Int64) :
    h.Stirs (h.check n records wall).1 := by
  unfold check
  split
  · next s there =>
    have checked := stirs_client there (.check records wall) rfl
    exact checked.heed there
  · exact .refl

theorem stirs_tellChecks (circumstances : Circumstances) (n : Nat) :
    h.Stirs (h.tellChecks circumstances n).1 := by
  unfold tellChecks
  split
  · next s there =>
    have checked := stirs_client there (.check circumstances.records circumstances.wall) rfl
    refine Stirs.heed there (checked.setClient there fun h' s' there' same => ?_)
    have dated : s'.client.Alike
        { s'.client with checkDue := circumstances.now + s'.client.checkPeriod } :=
      { Client.Alike.refl s'.client with }
    have stirs := stirs_aside there' dated rfl
    rw [same] at stirs
    exact stirs
  · exact .refl

omit [Scheme] in
theorem alike_tellRefresher (c : Client) (now : Nat) (news : News) :
    c.Alike (tellRefresher c now news) ∧ (tellRefresher c now news).outbound = c.outbound := by
  cases news <;> exact ⟨{ Client.Alike.refl c with }, rfl⟩

/-! ### Registries -/

theorem Stirs.setRegistry {r : Nat} {l m : LiveRegistry} (first : h.Stirs (h.setRegistry r l))
    (second : ∀ h' : Host, h'.registry r = l → h'.Stirs (h'.setRegistry r m)) :
    h.Stirs (h.setRegistry r m) := by
  cases given : h.registries.contains r with
  | false =>
    rw [setRegistry_of_absent given]
    exact .refl
  | true =>
    have more := second (h.setRegistry r l) (registry_setRegistry h given l)
    rw [setRegistry_setRegistry] at more
    exact first.trans more

omit [Scheme] in
/-- An event that brings no reply means the same whatever the keys. -/
theorem told_of_plain {event : RefreshTask.Event} (plain : ∀ usable, event.withKeys usable = event)
    (h : Host) (r g : Nat) : h.told r g event = event := by
  unfold told
  split
  · exact plain _
  · rfl

theorem stirs_task (event : RefreshTask.Event) (plain : ∀ usable, event.withKeys usable = event)
    (h : Host) (r g : Nat) : h.Stirs (h.setRegistry r ((h.registry r).step g event)) := by
  have stir := Stir.task (h := h) r g event
  rw [told_of_plain plain] at stir
  exact .single stir

theorem stirs_sweepRegistry (h : Host) (r : Nat) :
    h.Stirs (h.setRegistry r (h.registry r).sweep) := by
  unfold LiveRegistry.sweep
  generalize (h.registry r).tasks.keys = generations
  induction generations generalizing h with
  | nil =>
    rw [List.foldl_nil, setRegistry_self]
    exact .refl
  | cons g rest ih =>
    refine (stirs_task .halt (fun _ => rfl) h r g).setRegistry fun h' same => ?_
    have swept := ih h'
    rw [same] at swept
    exact swept

theorem stirs_sweep (h : Host) : h.Stirs h.sweep := by
  unfold sweep
  generalize h.registries.keys = numbers
  induction numbers generalizing h with
  | nil => exact .refl
  | cons r rest ih => exact (stirs_sweepRegistry h r).trans (ih _)

theorem stirs_told (event next : RefreshTask.Event)
    (plain : ∀ usable, next.withKeys usable = next) (h : Host) (r g : Nat) :
    h.Stirs (h.setRegistry r (((h.registry r).step g (h.told r g event)).step g next)) := by
  refine Stirs.setRegistry (.single (.task r g event)) fun h' same => ?_
  have stirs := stirs_task next plain h' r g
  rw [same] at stirs
  exact stirs

theorem setRegistry_step_of_none {r g : Nat} (none : (h.registry r).tasks.get? g = none)
    (event next : RefreshTask.Event) :
    h.setRegistry r (((h.registry r).step g event).step g next) = h := by
  simp only [LiveRegistry.step, none]
  exact setRegistry_self h r

theorem stirs_tellRenewal (circumstances : Circumstances) (r g : Nat) (news : News) :
    h.Stirs (h.tellRenewal circumstances r g news) := by
  cases running : (h.registry r).tasks.get? g with
  | none =>
    unfold tellRenewal
    cases news with
    | health reply | derelicts reply => exact .refl
    | _ =>
      simp only [setRegistry_step_of_none running]
      exact .refl
  | some t =>
    have told (event : RefreshTask.Event) :
        h.told r g event = event.withKeys (h.usable t.context.keys) := by
      rw [Host.told, running]
    unfold tellRenewal
    simp only [running, Option.map_some, Option.getD_some]
    cases news with
    | due =>
      have stirs := stirs_told (.wake circumstances.now)
        (.read circumstances.key circumstances.serial circumstances.wall) (fun _ => rfl) h r g
      rw [told] at stirs
      exact stirs
    | certificate reply =>
      have stirs :=
        stirs_told (.authority [] circumstances.wall reply) .install (fun _ => rfl) h r g
      rw [told] at stirs
      exact stirs
    | daemon reply =>
      have stirs := stirs_told (.daemon [] circumstances.wall reply) .install (fun _ => rfl) h r g
      rw [told] at stirs
      exact stirs
    | health reply => exact .refl
    | derelicts reply => exact .refl

/-! ### Clients that are closed, and recoveries -/

theorem stirs_advance_settle (there : h.seats.get? n = some s) (event : Client.Event) :
    h.Stirs ((h.setRegistry s.registry
      (s.client.step (h.usable s.keys) (h.registry s.registry) event).2).setClient n
        (s.client.step (h.usable s.keys) (h.registry s.registry) event).1.settle) := by
  refine Relation.ReflTransGen.head (Stir.client event there) ?_
  rw [advance]
  generalize s.client.step (h.usable s.keys) (h.registry s.registry) event = after
  have there' : (h.setRegistry s.registry after.2).seats.get? n = some s := by
    rwa [seats_setRegistry]
  have settled := stirs_settle (get?_setClient there' after.1)
  rw [setClient_setClient] at settled
  exact settled

theorem stirs_close (n : Nat) : h.Stirs (h.close n).1 := by
  unfold close
  split
  · next s there =>
    have begun := stirs_client there .close rfl
    have quietly : h.Stirs (h.setClient n s.client.startClosing.1.settle) := begun.settle there
    simp only [Client.close]
    cases s.client.startClosing.2 with
    | done =>
      simp only [Client.Closing.finish, setRegistry_self]
      exact quietly
    | releasing handle =>
      cases unregistered : (h.registry s.registry).unregister handle with
      | error e =>
        simp only [Client.Closing.finish, unregistered, setRegistry_self]
        exact quietly
      | ok l =>
        simp only [Client.Closing.finish, unregistered]
        have released := Stir.unregister s.registry unregistered
        refine Relation.ReflTransGen.head released ?_
        have there' : (h.setRegistry s.registry l).seats.get? n = some s := by
          rwa [seats_setRegistry]
        have begun' := stirs_client there' .close rfl
        exact begun'.settle there'
  · exact .refl

theorem stirs_release (n : Nat) : h.Stirs (h.release n) := by
  unfold release
  split
  · split
    · exact stirs_close n
    · exact .refl
  · exact .refl

theorem leads_drop (n : Nat) : h.Leads (h.drop n) := by
  unfold drop
  split
  · next s there =>
    have stopped : h.Stirs (h.setClient n s.client.stop.settle) :=
      (stirs_client there .drop rfl).settle there
    have abandoned := Move.abandon (get?_setClient there s.client.stop.settle)
    simp only [setClient_of_seat there, Table.put_put] at abandoned stopped
    exact (stopped.leads.tail abandoned).trans (stirs_release n).leads
  · exact .refl

theorem stirs_tellRecovery (circumstances : Circumstances) (n number : Nat) (news : News) :
    h.Stirs (h.tellRecovery circumstances n number news) := by
  unfold tellRecovery
  split
  · next s there =>
    cases news with
    | due => exact stirs_client there (.wake number) rfl
    | health reply =>
      have replied := stirs_client there (.health number circumstances.now circumstances.key
        circumstances.serial circumstances.wall reply) rfl
      exact replied.settle there
    | certificate reply =>
      have signed := stirs_client there
        (.sign number circumstances.now circumstances.wall reply) rfl
      have there₁ := get?_setClient there
        (s.client.signReplied number (h.usable s.keys circumstances.wall) circumstances.now
          circumstances.wall reply)
      have installed := stirs_advance_settle there₁ (.install number circumstances.now)
      rw [setRegistry_setClient, setClient_setClient, registry_setClient] at installed
      exact signed.trans installed
    | daemon reply => exact .refl
    | derelicts reply => exact .refl
  · exact .refl

theorem stirs_tell (circumstances : Circumstances) (task : HostTask) (news : News) :
    h.Stirs (h.tell circumstances task news).1 := by
  cases task with
  | renewal r g => exact stirs_tellRenewal circumstances r g news
  | checks n => exact stirs_tellChecks circumstances n
  | recovery n number =>
    exact (stirs_tellRecovery circumstances n number news).trans (stirs_release n)
  | derelicts n =>
    cases there : h.seats.get? n with
    | none =>
      simp only [tell, client?, there, Option.map_none]
      exact .refl
    | some s =>
      simp only [tell, client?, there, Option.map_some]
      obtain ⟨alike, outbound⟩ := alike_tellRefresher s.client circumstances.now news
      exact stirs_aside there alike outbound

/-! ### Clients that join -/

theorem leads_join (f : Founding) (identity : Identity) {shared : Option Nat}
    (given : ∀ r, shared = some r → h.registries.contains r = true) (endpoint : String)
    (context : RefreshContext) (now : Nat) :
    h.Leads (h.join f identity shared endpoint context now).1 := by
  have seated (h : Host) (r : Nat) (given : h.registries.contains r = true) :
      h.Leads
        { h.setRegistry r (f.join identity (h.registry r) endpoint context now).2.1 with
          seats := h.seats.put h.seats.size
            ⟨(f.join identity (h.registry r) endpoint context now).1, context.keys, r,
              shared.isNone, false⟩ } := by
    cases identity with
    | certified credential =>
      have registered := Move.register (h := h) r credential endpoint context now
      have arrived := Move.arrive (h := h.setRegistry r
          ((h.registry r).register credential endpoint context now).1) f
        (.registered ((h.registry r).register credential endpoint context now).2) context.keys
        shared.isNone now (by rwa [contains_setRegistry])
      rw [seats_setRegistry] at arrived
      exact (Relation.ReflTransGen.single registered).tail arrived
    | enrolled name key =>
      have arrived := Move.arrive (h := h) f (.enrolled key) context.keys shared.isNone now given
      have unchanged :
          (f.join (.enrolled name key) (h.registry r) endpoint context now).2.1 =
            h.registry r := rfl
      rw [unchanged, setRegistry_self]
      exact .single arrived
  cases shared with
  | some r => exact seated h r (given r rfl)
  | none =>
    have founded := Move.found (h := h) (Timings.period f.config.timings.certificateRefresh)
    refine Relation.ReflTransGen.head founded (seated _ _ ?_)
    rw [addRegistry, Table.contains, Table.get?_put_self]
    rfl

end Warrant.Host
