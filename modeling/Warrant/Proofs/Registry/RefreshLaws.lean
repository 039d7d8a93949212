import Warrant.Proofs.RegistryLaws
import Warrant.Registry.Refresh

namespace Warrant

namespace RefreshTask

/-- What a step puts into the entry that the task was started for, if that one still is there. -/
def installed? (t : RefreshTask) (r : Registry) : Event → Option Credential
  | .install =>
    match t.phase with
    | .installing credential => (r.refresh? t.key t.generation credential).map fun _ => credential
    | _ => none
  | _ => none

def Follows (t t' : RefreshTask) : Prop :=
  t'.key = t.key ∧ t'.generation = t.generation

theorem follows_settle (t : RefreshTask) (result : Except Error Credential) :
    t.Follows (t.settle result) := by
  cases result <;> exact ⟨rfl, rfl⟩

theorem wake_follows (t : RefreshTask) (r : Registry) (now : Nat) :
    ∃ t', t.wake r now = (r, some t') ∧ t.Follows t' := by
  unfold wake
  split
  · exact ⟨_, rfl, rfl, rfl⟩
  · exact ⟨t, rfl, rfl, rfl⟩

theorem install_cases (t : RefreshTask) (r : Registry) :
    (t.install r = (r, some t) ∧ t.installed? r .install = none) ∨
    (t.install r = (r, none) ∧ r.owns t.key t.generation = false ∧ t.installed? r .install = none) ∨
    ∃ e credential, r.find? t.key = some e ∧ e.generation = t.generation ∧
      t.install r = (r.install t.key e credential, some { t with phase := .waiting }) ∧
      t.installed? r .install = some credential := by
  cases phase : t.phase with
  | installing credential =>
    cases refreshed : r.refresh? t.key t.generation credential with
    | some r' =>
      obtain ⟨e, there, same, rfl⟩ := Registry.refresh?_eq_some_iff.1 refreshed
      refine .inr (.inr ⟨e, credential, there, same, ?_, ?_⟩)
      · simp only [install, phase, refreshed]
      · simp only [installed?, phase, refreshed, Option.map_some]
    | none =>
      refine .inr (.inl ⟨?_, Registry.refresh?_eq_none_iff.1 refreshed, ?_⟩)
      · simp only [install, phase, refreshed]
      · simp only [installed?, phase, refreshed, Option.map_none]
  | _ => exact .inl ⟨by simp only [install, phase], by simp only [installed?, phase]⟩

theorem halt_cases (t : RefreshTask) (r : Registry) :
    t.halt r = (r, some t) ∨ t.halt r = (r, none) ∧ r.owns t.key t.generation = false := by
  unfold halt
  split
  · next h => exact .inr ⟨rfl, h.2⟩
  · exact .inl rfl

variable [Scheme]

theorem read_cases (t : RefreshTask) (r : Registry) (key : PrivateKey) (serial : UInt64)
    (wall : Int64) :
    (∃ t', t.read r key serial wall = (r, some t') ∧ t.Follows t') ∨
      t.read r key serial wall = (r, none) ∧ r.owns t.key t.generation = false := by
  unfold read
  split
  · next e _ there =>
    split
    · exact .inl ⟨_, rfl, rfl, rfl⟩
    · next other =>
      refine .inr ⟨rfl, Registry.owns_eq_false_iff.2 ?_⟩
      intro f found
      cases there.symm.trans found
      exact other
  · next there =>
    refine .inr ⟨rfl, Registry.owns_eq_false_iff.2 ?_⟩
    intro e found
    cases there.symm.trans found
  · exact .inl ⟨t, rfl, rfl, rfl⟩

theorem authorityReplied_follows (t : RefreshTask) (r : Registry) (usable : List PublicKey)
    (wall : Int64) (reply : Except Error Certificate) :
    ∃ t', t.authorityReplied r usable wall reply = (r, some t') ∧ t.Follows t' := by
  unfold authorityReplied
  split
  · split
    · exact ⟨_, rfl, t.follows_settle _⟩
    · split
      · exact ⟨_, rfl, rfl, rfl⟩
      · exact ⟨_, rfl, t.follows_settle _⟩
  · exact ⟨t, rfl, rfl, rfl⟩

theorem daemonReplied_follows (t : RefreshTask) (r : Registry) (usable : List PublicKey)
    (wall : Int64) (reply : Except Error Credential) :
    ∃ t', t.daemonReplied r usable wall reply = (r, some t') ∧ t.Follows t' := by
  unfold daemonReplied
  split
  · exact ⟨_, rfl, t.follows_settle _⟩
  · exact ⟨t, rfl, rfl, rfl⟩

theorem step_cases (t : RefreshTask) (r : Registry) (event : Event) :
    (∃ t', t.step r event = (r, some t') ∧ t.Follows t' ∧ t.installed? r event = none) ∨
    (t.step r event = (r, none) ∧ r.owns t.key t.generation = false ∧ t.installed? r event = none) ∨
    ∃ e credential, r.find? t.key = some e ∧ e.generation = t.generation ∧
      t.step r event = (r.install t.key e credential, some { t with phase := .waiting }) ∧
      t.installed? r event = some credential := by
  cases event with
  | wake now =>
    obtain ⟨t', h, follows⟩ := t.wake_follows r now
    exact .inl ⟨t', h, follows, rfl⟩
  | read key serial wall =>
    obtain ⟨t', h, follows⟩ | ⟨h, gone⟩ := t.read_cases r key serial wall
    · exact .inl ⟨t', h, follows, rfl⟩
    · exact .inr (.inl ⟨h, gone, rfl⟩)
  | authority usable wall reply =>
    obtain ⟨t', h, follows⟩ := t.authorityReplied_follows r usable wall reply
    exact .inl ⟨t', h, follows, rfl⟩
  | daemon usable wall reply =>
    obtain ⟨t', h, follows⟩ := t.daemonReplied_follows r usable wall reply
    exact .inl ⟨t', h, follows, rfl⟩
  | install =>
    obtain ⟨h, nothing⟩ | done := t.install_cases r
    · exact .inl ⟨t, h, ⟨rfl, rfl⟩, nothing⟩
    · exact .inr done
  | halt =>
    obtain h | ⟨h, gone⟩ := t.halt_cases r
    · exact .inl ⟨t, h, ⟨rfl, rfl⟩, rfl⟩
    · exact .inr (.inl ⟨h, gone, rfl⟩)

end RefreshTask

namespace LiveRegistry

theorem enter_of_some {l : LiveRegistry} {credential : Credential} {endpoint : String} {e : Entry}
    (there : l.registry.find? (.of credential.certificate endpoint) = some e) (id : Nat)
    (context : RefreshContext) (now : Nat) :
    l.enter id credential endpoint context now =
      ({ l with registry := l.registry.join (.of credential.certificate endpoint) e id },
        ⟨id, .of credential.certificate endpoint⟩) := by
  simp only [enter, there]

theorem enter_of_none {l : LiveRegistry} {credential : Credential} {endpoint : String}
    (free : l.registry.find? (.of credential.certificate endpoint) = none) (id : Nat)
    (context : RefreshContext) (now : Nat) :
    l.enter id credential endpoint context now =
      ({ l with
         registry := l.registry.create (.of credential.certificate endpoint) id credential
         tasks := l.tasks.push id
           (.make (.of credential.certificate endpoint) id context l.period now) },
        ⟨id, .of credential.certificate endpoint⟩) := by
  simp only [enter, free]

theorem withRegistry_eq_ok_iff {l l' : LiveRegistry} {result : Except Error Registry} :
    (do let registry ← result; return { l with registry }) = Except.ok l' ↔
      ∃ r, result = .ok r ∧ l' = { l with registry := r } := by
  cases result with
  | error e => exact ⟨nofun, nofun⟩
  | ok r =>
    constructor
    · intro h
      cases h
      exact ⟨r, rfl, rfl⟩
    · rintro ⟨r, h, rfl⟩
      cases h
      rfl

theorem unregister_eq_ok_iff {l l' : LiveRegistry} {h : Handle} :
    l.unregister h = .ok l' ↔
      ∃ e, l.registry.find? h.key = some e ∧ h.id ∈ e.handles ∧
        l' = { l with registry := l.registry.remove h e } := by
  rw [unregister, withRegistry_eq_ok_iff]
  constructor
  · rintro ⟨r, removed, rfl⟩
    obtain ⟨e, there, mem, rfl⟩ := Registry.unregister_eq_ok_iff.1 removed
    exact ⟨e, there, mem, rfl⟩
  · rintro ⟨e, there, mem, rfl⟩
    exact ⟨_, Registry.unregister_eq_ok_iff.2 ⟨e, there, mem, rfl⟩, rfl⟩

theorem update_eq_ok_iff {l l' : LiveRegistry} {h : Handle} {credential : Credential} :
    l.update h credential = .ok l' ↔
      ∃ e, l.registry.find? h.key = some e ∧ h.id ∈ e.handles ∧
        l' = { l with registry := l.registry.install h.key e credential } := by
  rw [update, withRegistry_eq_ok_iff]
  constructor
  · rintro ⟨r, updated, rfl⟩
    obtain ⟨e, there, mem, rfl⟩ := Registry.update_eq_ok_iff.1 updated
    exact ⟨e, there, mem, rfl⟩
  · rintro ⟨e, there, mem, rfl⟩
    exact ⟨_, Registry.update_eq_ok_iff.2 ⟨e, there, mem, rfl⟩, rfl⟩

theorem step_of_some [Scheme] {l : LiveRegistry} {generation : Nat} {t : RefreshTask}
    (running : l.tasks.get? generation = some t) (event : RefreshTask.Event) :
    l.step generation event = l.putTask generation (t.step l.registry event) := by
  rw [step, running]

end LiveRegistry

end Warrant
