import Warrant.Proofs.Registry.OriginLaws
import Warrant.Proofs.Registry.SoundLaws
import Mathlib.Data.List.Induction

/-!
Whom the certificates of a registry are for. Nobody compares names when a certificate is renewed, so
an entry keeps the identity of its key as long as every reply that is accepted names the identity it
was asked about.
-/

namespace Warrant

structure Bearer where
  entity : String
  kind : EntityKind
  host : String
  deriving DecidableEq

def Certificate.bearer (c : Certificate) : Bearer :=
  ⟨c.entity, c.kind, c.host⟩

def RegistryKey.bearer (key : RegistryKey) : Bearer :=
  ⟨key.entity, key.kind, key.host⟩

theorem Renewal.bearer_start [Scheme] (current : Credential) (key : PrivateKey) (serial : UInt64)
    (wall : Int64) :
    (start current key serial wall).request.certificate.bearer = current.certificate.bearer := rfl

def RefreshPhase.certificates : RefreshPhase → List Certificate
  | .waiting | .reading => []
  | .renewing renewal => [renewal.current.certificate, renewal.request.certificate]
  | .askingDaemon current _ => [current.certificate]
  | .installing credential => [credential.certificate]

namespace Registry

section

variable {r : Registry} {key : RegistryKey} {e : Entry} {credential : Credential} {id : Nat}

theorem copied_of_get? {r' : Registry} {written : Prop} [Decidable written]
    (copy : r'.copies.get? id = if written then some credential else r.copies.get? id)
    (there : r'.find? key = some e) (own : written → id ∈ e.handles) :
    r'.copies.get? id = r.copies.get? id ∨ ∃ f, r'.find? key = some f ∧ id ∈ f.handles := by
  by_cases new : written
  · exact .inr ⟨e, there, own new⟩
  · exact .inl (copy.trans (if_neg new))

end

variable (r : Registry) (key : RegistryKey) (e : Entry) (id : Nat) (credential : Credential)
  (i : Nat)

theorem copied_join :
    (r.join key e id).copies.get? i = r.copies.get? i ∨
      ∃ f, (r.join key e id).find? key = some f ∧ i ∈ f.handles :=
  copied_of_get? (get?_copies_join ..) ((find?_join ..).trans (if_pos rfl))
    fun same => by simp [same]

theorem copied_create :
    (r.create key id credential).copies.get? i = r.copies.get? i ∨
      ∃ f, (r.create key id credential).find? key = some f ∧ i ∈ f.handles :=
  copied_of_get? (get?_copies_create ..) ((find?_create ..).trans (if_pos rfl))
    fun same => by simp [same]

theorem copied_install :
    (r.install key e credential).copies.get? i = r.copies.get? i ∨
      ∃ f, (r.install key e credential).find? key = some f ∧ i ∈ f.handles :=
  copied_of_get? (get?_copies_install ..) ((find?_install ..).trans (if_pos rfl)) fun mem => mem

end Registry

namespace Chronicle

open Happening

variable {c : Chronicle}

/-- A reply that is accepted for the entry of a generation, or an update of it, names somebody else
than it is asked about. -/
inductive Strays [Scheme] (c : Chronicle) (g : Nat) : RegistryEvent → Prop
  | signed {t : RefreshTask} {renewal : Renewal} {usable : List PublicKey} {wall : Int64}
      {reply : Except Error Certificate} {credential : Credential} :
      c.live.tasks.get? g = some t → t.phase = .renewing renewal →
      reply.bind (renewal.finish usable wall) = .ok credential →
      credential.certificate.bearer ≠ renewal.request.certificate.bearer →
      Strays c g (.task g (.authority usable wall reply))
  | supplied {t : RefreshTask} {current credential : Credential} {cause : Error}
      {usable : List PublicKey} {wall : Int64} {reply : Except Error Credential} :
      c.live.tasks.get? g = some t → t.phase = .askingDaemon current cause →
      RefreshTask.Supplies usable wall reply credential →
      credential.certificate.bearer ≠ current.certificate.bearer →
      Strays c g (.task g (.daemon usable wall reply))
  | updated {h : Handle} {e : Entry} {credential : Credential} : c.find? h.key = some e →
      h.id ∈ e.handles → e.generation = g →
      credential.certificate.bearer ≠ e.current.certificate.bearer →
      Strays c g (.update h credential)

def Belongs (c : Chronicle) (h : Handle) (g : Nat) : Prop :=
  ∃ e, c.find? h.key = some e ∧ e.generation = g ∧ h.id ∈ e.handles

/-- All certificates are for those whom their keys say, but for the generations that have strayed
and the handles that have belonged to them. -/
structure Identified (c : Chronicle) (strayed : Nat → Prop) (belonged : Handle → Nat → Prop) :
    Prop where
  entries : ∀ key e, c.find? key = some e →
    e.current.certificate.bearer = key.bearer ∨ strayed e.generation
  handles : ∀ h ∈ issued c.past, ∀ credential, c.live.registry.current? h = some credential →
    credential.certificate.bearer = h.key.bearer ∨ ∃ g, belonged h g ∧ strayed g
  tasks : ∀ g t, c.live.tasks.get? g = some t → ∀ certificate ∈ t.phase.certificates,
    certificate.bearer = t.key.bearer ∨ strayed g

theorem identified_start (period : Nat) (strayed : Nat → Prop) (belonged : Handle → Nat → Prop) :
    (start period).Identified strayed belonged where
  entries _ _ there := nomatch there
  handles _ mem := absurd mem List.not_mem_nil
  tasks _ _ running := nomatch running

/-! ### What handles answer -/

theorem copy_step [Scheme] {event : RegistryEvent} {h : Handle}
    (mem : h ∈ issued (c.step event).past) :
    (h ∈ issued c.past ∧
      (c.step event).live.registry.current? h = c.live.registry.current? h) ∨
    ∃ key e, (c.step event).find? key = some e ∧ h.id ∈ e.handles := by
  cases event with
  | reserve r => exact .inl ⟨mem, rfl⟩
  | enter id now =>
    cases waiting : c.pending.get? id with
    | none =>
      rw [step, waiting] at mem ⊢
      exact .inl ⟨mem, rfl⟩
    | some r =>
      cases there : c.find? r.key with
      | some e =>
        have entered := LiveRegistry.enter_of_some there id r.context now
        have entry : c.find? (.of r.credential.certificate r.endpoint) = some e := there
        simp only [step, waiting, entered, entry] at mem ⊢
        obtain rfl | mem := List.mem_cons.1 mem
        · exact .inr ⟨r.key, _, (Registry.find?_join ..).trans (if_pos rfl), by simp⟩
        · exact (Registry.copied_join _ _ e id h.id).imp
            (fun same => ⟨mem, same⟩) fun own => ⟨_, own⟩
      | none =>
        have entered := LiveRegistry.enter_of_none there id r.context now
        have entry : c.find? (.of r.credential.certificate r.endpoint) = none := there
        simp only [step, waiting, entered, entry] at mem ⊢
        obtain rfl | mem := List.mem_cons.1 mem
        · exact .inr ⟨r.key, _, (Registry.find?_create ..).trans (if_pos rfl), by simp⟩
        · exact (Registry.copied_create _ _ id _ h.id).imp
            (fun same => ⟨mem, same⟩) fun own => ⟨_, own⟩
  | unregister a =>
    simp only [step] at mem ⊢
    split at mem
    · next removed =>
      obtain ⟨e, -, -, rfl⟩ := LiveRegistry.unregister_eq_ok_iff.1 removed
      exact .inl ⟨mem, rfl⟩
    · exact .inl ⟨mem, rfl⟩
  | update a credential =>
    simp only [step] at mem ⊢
    split at mem
    · next updated _ =>
      obtain ⟨e, -, -, rfl⟩ := LiveRegistry.update_eq_ok_iff.1 updated
      exact (Registry.copied_install _ _ e credential h.id).imp
        (fun same => ⟨mem, same⟩) fun own => ⟨_, own⟩
    · exact .inl ⟨mem, rfl⟩
  | task g event =>
    cases running : c.live.tasks.get? g with
    | none =>
      rw [step, running] at mem ⊢
      exact .inl ⟨mem, rfl⟩
    | some t =>
      simp only [step, running, LiveRegistry.step_of_some running] at mem ⊢
      obtain ⟨t', next, -, nothing⟩ | ⟨next, -, nothing⟩ | ⟨e, credential, -, -, next, put⟩ :=
        t.step_cases c.live.registry event
      · simp only [next, nothing] at mem ⊢
        exact .inl ⟨mem, rfl⟩
      · simp only [next, nothing] at mem ⊢
        exact .inl ⟨mem, rfl⟩
      · simp only [next, put] at mem ⊢
        exact (Registry.copied_install _ _ e credential h.id).imp (fun same => ⟨mem, same⟩)
          fun own => ⟨_, own⟩

/-! ### One step -/

section

variable [Scheme] {strayed : Nat → Prop} {belonged : Handle → Nat → Prop}

theorem Identified.entries_step (sound : c.Sound) (h : c.Identified strayed belonged)
    (event : RegistryEvent) (key : RegistryKey) (f : Entry)
    (found : (c.step event).find? key = some f) :
    f.current.certificate.bearer = key.bearer ∨ strayed f.generation ∨
      c.Strays f.generation event := by
  have before {e : Entry} (there : c.find? key = some e) :
      e.current.certificate.bearer = key.bearer ∨ strayed e.generation ∨
        c.Strays e.generation event :=
    (h.entries key e there).imp_right .inl
  cases current_step found with
  | kept there generation same =>
    rw [generation, same]
    exact before there
  | opened _ _ => exact .inl rfl
  | @updated a credential e there mem =>
    by_cases like : credential.certificate.bearer = e.current.certificate.bearer
    · exact (before there).imp_left like.trans
    · exact .inr (.inr (.updated there mem rfl like))
  | @refreshed g t credential e running phase there same =>
    obtain ⟨rfl, -⟩ := sound.tasked.origin g t running
    have held : credential.certificate ∈ t.phase.certificates := by
      simp [phase, RefreshPhase.certificates]
    have kept := h.tasks _ t running _ held
    rw [← same] at kept
    exact kept.imp_right .inl

theorem Identified.tasks_step (sound : c.Sound) (h : c.Identified strayed belonged)
    (event : RegistryEvent) (g : Nat) (t' : RefreshTask)
    (found : (c.step event).live.tasks.get? g = some t') :
    ∀ certificate ∈ t'.phase.certificates,
      certificate.bearer = t'.key.bearer ∨ strayed g ∨ c.Strays g event := by
  cases task_step found with
  | kept running =>
    intro certificate mem
    exact (h.tasks g t' running certificate mem).imp_right .inl
  | made _ _ => exact fun _ mem => absurd mem List.not_mem_nil
  | @advanced _ event t _ running advances =>
    have before {certificate : Certificate} (mem : certificate ∈ t.phase.certificates) :
        certificate.bearer = t.key.bearer ∨ strayed g ∨ c.Strays g (.task g event) :=
      (h.tasks g t running certificate mem).imp_right .inl
    rw [advances.key]
    have turn := advances.turn
    generalize t'.phase = after at turn
    cases turn with
    | stay => exact fun certificate mem => before mem
    | wake _ _ => exact fun _ mem => absurd mem List.not_mem_nil
    | @start e key serial wall _ there same =>
      have held := h.entries t.key e there
      rw [same.trans (sound.tasked.origin g t running).1] at held
      intro certificate mem
      have like : certificate.bearer = e.current.certificate.bearer := by
        obtain _ | ⟨_, _ | ⟨_, ⟨⟩⟩⟩ := mem
        · rfl
        · exact Renewal.bearer_start e.current key serial wall
      exact held.imp like.trans .inl
    | @signed usable wall reply renewal credential phase done =>
      have asked : renewal.request.certificate ∈ t.phase.certificates := by
        simp [phase, RefreshPhase.certificates]
      rintro _ (_ | ⟨_, ⟨⟩⟩)
      by_cases like : credential.certificate.bearer = renewal.request.certificate.bearer
      · exact (before asked).imp_left like.trans
      · exact .inr (.inr (.signed running phase done like))
    | @denied _ _ _ renewal _ phase _ _ =>
      have held : renewal.current.certificate ∈ t.phase.certificates := by
        simp [phase, RefreshPhase.certificates]
      rintro _ (_ | ⟨_, ⟨⟩⟩)
      exact before held
    | failed _ _ _ => exact fun _ mem => absurd mem List.not_mem_nil
    | @supplied usable wall reply current credential cause phase supplies =>
      have asked : current.certificate ∈ t.phase.certificates := by
        simp [phase, RefreshPhase.certificates]
      rintro _ (_ | ⟨_, ⟨⟩⟩)
      by_cases like : credential.certificate.bearer = current.certificate.bearer
      · exact (before asked).imp_left like.trans
      · exact .inr (.inr (.supplied running phase supplies like))
    | bothFailed _ _ => exact fun _ mem => absurd mem List.not_mem_nil
    | installed _ => exact fun _ mem => absurd mem List.not_mem_nil

/-- Whatever changes what a handle answers is in its entry, so the law of entries covers it. -/
theorem Identified.handles_step (sound : c.Sound) (h : c.Identified strayed belonged)
    (event : RegistryEvent) (a : Handle) (mem : a ∈ issued (c.step event).past)
    (credential : Credential)
    (answered : (c.step event).live.registry.current? a = some credential) :
    credential.certificate.bearer = a.key.bearer ∨ ∃ g,
      (belonged a g ∨ (c.step event).Belongs a g) ∧ (strayed g ∨ c.Strays g event) := by
  obtain ⟨old, same⟩ | ⟨key, e, there, own⟩ := copy_step mem
  · refine (h.handles a old credential (same.symm.trans answered)).imp_right ?_
    rintro ⟨g, belonged, strayed⟩
    exact ⟨g, .inl belonged, .inl strayed⟩
  · have after := sound_step sound event
    obtain rfl : key = a.key :=
      congrArg Handle.key (after.handle_eq (after.issued_of_mem there own) mem rfl)
    obtain rfl : e.current = credential :=
      Option.some.inj ((after.agreed.copies a.key e there a.id own).symm.trans answered)
    refine (h.entries_step sound event a.key e there).imp_right fun strayed => ?_
    exact ⟨e.generation, .inr ⟨e, there, rfl, own⟩, strayed⟩

theorem Identified.step (sound : c.Sound) (h : c.Identified strayed belonged)
    (event : RegistryEvent) :
    (c.step event).Identified (fun g => strayed g ∨ c.Strays g event)
      fun a g => belonged a g ∨ (c.step event).Belongs a g :=
  ⟨h.entries_step sound event, h.handles_step sound event, h.tasks_step sound event⟩

end

theorem Identified.mono {strayed also : Nat → Prop} {belonged more : Handle → Nat → Prop}
    (h : c.Identified strayed belonged) (wider : ∀ g, strayed g → also g)
    (longer : ∀ a g, belonged a g → more a g) : c.Identified also more where
  entries key e there := (h.entries key e there).imp_right (wider _)
  handles a mem credential answered :=
    (h.handles a mem credential answered).imp_right fun ⟨g, belonged, strayed⟩ =>
      ⟨g, longer a g belonged, wider g strayed⟩
  tasks g t running certificate mem := (h.tasks g t running certificate mem).imp_right (wider g)

/-! ### All steps -/

section

variable [Scheme] (period : Nat)

def Strayed (events : List RegistryEvent) (g : Nat) : Prop :=
  ∃ before event after, events = before ++ event :: after ∧ (run period before).Strays g event

def Belonged (events : List RegistryEvent) (h : Handle) (g : Nat) : Prop :=
  ∃ before after, events = before ++ after ∧ (run period before).Belongs h g

theorem run_concat (events : List RegistryEvent) (event : RegistryEvent) :
    run period (events ++ [event]) = (run period events).step event :=
  List.foldl_concat ..

theorem identity_run (events : List RegistryEvent) :
    (run period events).Identified (Strayed period events) (Belonged period events) := by
  induction events using List.reverseRecOn with
  | nil => exact identified_start period _ _
  | append_singleton events event ih =>
    rw [run_concat]
    refine (ih.step (sound_run period events) event).mono ?_ ?_
    · rintro g (⟨before, strange, after, rfl, strays⟩ | strays)
      · exact ⟨before, strange, after ++ [event], by simp, strays⟩
      · exact ⟨events, event, [], rfl, strays⟩
    · rintro a g (⟨before, after, rfl, belongs⟩ | belongs)
      · exact ⟨before, after ++ [event], by simp, belongs⟩
      · exact ⟨events ++ [event], [], by simp, run_concat period events event ▸ belongs⟩

end

/-! ### A certificate of somebody else -/

section

variable [Scheme] {g : Nat} {t : RefreshTask} {credential : Credential}

theorem step_supplied (running : c.live.tasks.get? g = some t) {current : Credential}
    {cause : Error} (phase : t.phase = .askingDaemon current cause) {usable : List PublicKey}
    {wall : Int64} {reply : Except Error Credential}
    (supplies : RefreshTask.Supplies usable wall reply credential) :
    c.step (.task g (.daemon usable wall reply)) =
      { c with live := { c.live with
          tasks := c.live.tasks.put g { t with phase := .installing credential } } } := by
  obtain ⟨rfl, checked⟩ := supplies
  simp only [step, running, LiveRegistry.step_of_some running, RefreshTask.step,
    RefreshTask.daemonReplied, phase, bind, Except.bind, checked]
  rfl

theorem registry_install (running : c.live.tasks.get? g = some t)
    (phase : t.phase = .installing credential) {e : Entry} (there : c.find? t.key = some e)
    (same : e.generation = t.generation) :
    (c.step (.task g .install)).live.registry = c.live.registry.install t.key e credential := by
  have refreshed : c.live.registry.refresh? t.key t.generation credential =
      some (c.live.registry.install t.key e credential) :=
    Registry.refresh?_eq_some_iff.2 ⟨e, there, same, rfl⟩
  simp only [step, running, LiveRegistry.step_of_some running, RefreshTask.step,
    RefreshTask.install, phase, refreshed]
  rfl

theorem registry_supplied (running : c.live.tasks.get? g = some t) {current : Credential}
    {cause : Error} (phase : t.phase = .askingDaemon current cause) {usable : List PublicKey}
    {wall : Int64} {reply : Except Error Credential}
    (supplies : RefreshTask.Supplies usable wall reply credential) {e : Entry}
    (there : c.find? t.key = some e) (same : e.generation = t.generation) :
    ((c.step (.task g (.daemon usable wall reply))).step (.task g .install)).live.registry =
      c.live.registry.install t.key e credential := by
  rw [step_supplied running phase supplies]
  exact registry_install (t := { t with phase := .installing credential })
    (Table.get?_put_self ..) rfl there same

end

def ofAlice : Credential :=
  { Credential.bootstrap with certificate := { Certificate.bootstrap with entity := "alice" } }

def keyOfAlice : RegistryKey :=
  .of ofAlice.certificate ""

def asking : List RegistryEvent :=
  [.reserve ⟨ofAlice, "", ⟨true, 0⟩⟩, .enter 1 0, .task 1 (.wake 0),
    .task 1 (.read .ofTwos 1 1700000000),
    .task 1 (.authority [] 1700000000 (.error (.authorityUnavailable .unreachable)))]

def mistaken : List RegistryEvent :=
  asking ++
    [.task 1 (.daemon [.ofTwos] 1700000000
        ((DaemonExchange.answered (Record.bytes (DaemonExchange.request .bootstrap))).result
          fun _ => ""))] ++
    [.task 1 .install]

theorem entry_asking :
    (run 1800 asking).find? keyOfAlice = some ⟨1, ofAlice, [1]⟩ := rfl

theorem task_asking : (run 1800 asking).live.tasks.get? 1 = some
    ⟨keyOfAlice, 1, ⟨true, 0⟩, 1800, 1800,
      .askingDaemon ofAlice (.authorityUnavailable .unreachable)⟩ := rfl

theorem mistaken_misnamed :
    (run 1800 mistaken).find? keyOfAlice = some ⟨1, .bootstrap, [1]⟩ ∧
      (run 1800 mistaken).live.registry.current? ⟨1, keyOfAlice⟩ = some .bootstrap ∧
      Credential.bootstrap.certificate.bearer ≠ keyOfAlice.bearer := by
  have installed : (run 1800 mistaken).live.registry =
      (run 1800 asking).live.registry.install keyOfAlice ⟨1, ofAlice, [1]⟩ .bootstrap := by
    rw [mistaken, run_concat, run_concat]
    exact registry_supplied task_asking rfl
      ⟨DaemonExchange.result_bootstrap _, Certificate.check_bootstrap⟩ entry_asking rfl
  refine ⟨?_, ?_, by decide⟩
  · rw [find?, installed]
    exact (Registry.find?_install ..).trans (if_pos rfl)
  · rw [Registry.current?, installed]
    exact (Registry.get?_copies_install ..).trans (if_pos (by decide))

end Chronicle

end Warrant
