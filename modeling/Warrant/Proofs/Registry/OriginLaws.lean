import Warrant.Proofs.Registry.AttemptLaws
import Warrant.Proofs.Registry.Chronicle

namespace Warrant

theorem RefreshTask.installed?_eq_some {t : RefreshTask} {r : Registry} {event : Event}
    {credential : Credential} (installed : t.installed? r event = some credential) :
    event = .install ∧ t.phase = .installing credential := by
  unfold installed? at installed
  split at installed
  · split at installed
    · next phase =>
      obtain ⟨_, -, rfl⟩ := Option.map_eq_some_iff.1 installed
      exact ⟨rfl, phase⟩
    · contradiction
  · contradiction

namespace Chronicle

variable [Scheme] {c : Chronicle}

theorem task_update (h : Handle) (credential : Credential) :
    (c.step (.update h credential)).live.tasks = c.live.tasks := by
  simp only [step]
  split
  · next updated _ =>
    obtain ⟨e, -, -, rfl⟩ := LiveRegistry.update_eq_ok_iff.1 updated
    rfl
  · rfl

theorem pending_step {event : RegistryEvent} {id : Nat} {r : Registration}
    (found : (c.step event).pending.get? id = some r) :
    c.pending.get? id = some r ∨ event = .reserve r := by
  cases event with
  | reserve other =>
    simp only [step, Table.get?_put] at found
    split at found
    · cases found
      exact .inr rfl
    · exact .inl found
  | enter other now =>
    simp only [step] at found
    split at found
    · rw [Table.get?_erase] at found
      split at found
      · contradiction
      · exact .inl found
    · exact .inl found
  | _ =>
    simp only [step] at found
    split at found <;> exact .inl found

inductive Task (c : Chronicle) : RegistryEvent → Nat → RefreshTask → Prop
  | kept {event : RegistryEvent} {g : Nat} {t : RefreshTask} : c.live.tasks.get? g = some t →
      Task c event g t
  | made {id now : Nat} {r : Registration} : c.pending.get? id = some r → c.find? r.key = none →
      Task c (.enter id now) id (.make r.key id r.context c.live.period now)
  | advanced {g : Nat} {event : RefreshTask.Event} {t t' : RefreshTask} :
      c.live.tasks.get? g = some t → t.Advances c.live.registry event t' →
      Task c (.task g event) g t'

theorem task_step {event : RegistryEvent} {g : Nat} {t : RefreshTask}
    (found : (c.step event).live.tasks.get? g = some t) : c.Task event g t := by
  cases event with
  | reserve r => exact .kept found
  | enter id now =>
    cases waiting : c.pending.get? id with
    | none =>
      simp only [step, waiting] at found
      exact .kept found
    | some r =>
      rw [live_enter waiting] at found
      cases there : c.find? r.key with
      | some e =>
        rw [LiveRegistry.enter_of_some there] at found
        exact .kept found
      | none =>
        rw [LiveRegistry.enter_of_none there, Table.get?_push, Option.or_eq_some_iff] at found
        obtain found | ⟨-, found⟩ := found
        · exact .kept found
        · split at found
          · next same =>
            cases found
            subst same
            exact .made waiting there
          · contradiction
  | unregister h =>
    simp only [step] at found
    split at found
    · next removed =>
      obtain ⟨e, -, -, rfl⟩ := LiveRegistry.unregister_eq_ok_iff.1 removed
      exact .kept found
    · exact .kept found
  | update h credential =>
    rw [task_update] at found
    exact .kept found
  | task generation event =>
    simp only [step] at found
    split at found
    · next t₀ running =>
      rw [LiveRegistry.step_of_some running, LiveRegistry.putTask] at found
      simp only at found
      split at found
      · next t' next =>
        rw [Table.get?_put] at found
        split at found
        · next same =>
          cases found
          subst same
          exact .advanced running (RefreshTask.step_advances (Prod.ext rfl next))
        · exact .kept found
      · rw [Table.get?_erase] at found
        split at found
        · contradiction
        · exact .kept found
    · exact .kept found

inductive Current (c : Chronicle) : RegistryEvent → RegistryKey → Entry → Prop
  | kept {event : RegistryEvent} {key : RegistryKey} {e f : Entry} : c.find? key = some e →
      f.generation = e.generation → f.current = e.current → Current c event key f
  | opened {id now : Nat} {r : Registration} : c.pending.get? id = some r → c.find? r.key = none →
      Current c (.enter id now) r.key ⟨id, r.credential, [id]⟩
  | updated {h : Handle} {credential : Credential} {e : Entry} : c.find? h.key = some e →
      h.id ∈ e.handles → Current c (.update h credential) h.key { e with current := credential }
  | refreshed {g : Nat} {t : RefreshTask} {credential : Credential} {e : Entry} :
      c.live.tasks.get? g = some t → t.phase = .installing credential →
      c.find? t.key = some e → e.generation = t.generation →
      Current c (.task g .install) t.key { e with current := credential }

theorem current_step {event : RegistryEvent} {key : RegistryKey} {f : Entry}
    (found : (c.step event).find? key = some f) : c.Current event key f := by
  cases event with
  | reserve r => exact .kept found rfl rfl
  | enter id now =>
    cases waiting : c.pending.get? id with
    | none =>
      simp only [step, waiting] at found
      exact .kept found rfl rfl
    | some r =>
      rw [find?, live_enter waiting] at found
      cases there : c.find? r.key with
      | some e =>
        rw [LiveRegistry.enter_of_some there, Registry.find?_join] at found
        split at found
        · next same =>
          cases found
          subst same
          exact .kept there rfl rfl
        · exact .kept found rfl rfl
      | none =>
        rw [LiveRegistry.enter_of_none there, Registry.find?_create] at found
        split at found
        · next same =>
          cases found
          subst same
          exact .opened waiting there
        · exact .kept found rfl rfl
  | unregister h =>
    simp only [step] at found
    split at found
    · next removed =>
      obtain ⟨e, there, -, rfl⟩ := LiveRegistry.unregister_eq_ok_iff.1 removed
      rw [find?, Registry.find?_remove] at found
      split at found
      · next same =>
        obtain ⟨rfl, -⟩ := Registry.without_eq_some_iff.1 found
        subst same
        exact .kept there rfl rfl
      · exact .kept found rfl rfl
    · exact .kept found rfl rfl
  | update h credential =>
    simp only [step] at found
    split at found
    · next updated _ =>
      obtain ⟨e, there, mem, rfl⟩ := LiveRegistry.update_eq_ok_iff.1 updated
      rw [find?, Registry.find?_install] at found
      split at found
      · next same =>
        cases found
        subst same
        exact .updated there mem
      · exact .kept found rfl rfl
    · exact .kept found rfl rfl
  | task g event =>
    simp only [step] at found
    split at found
    · next t running =>
      rw [find?, LiveRegistry.step_of_some running, LiveRegistry.putTask] at found
      obtain ⟨t', next, -⟩ | ⟨next, -⟩ | ⟨e, credential, there, same, next, installed⟩ :=
        t.step_cases c.live.registry event
      · rw [next] at found
        exact .kept found rfl rfl
      · rw [next] at found
        exact .kept found rfl rfl
      · rw [next, Registry.find?_install] at found
        split at found
        · next own =>
          cases found
          subst own
          obtain ⟨rfl, phase⟩ := RefreshTask.installed?_eq_some installed
          exact .refreshed running phase there same
        · exact .kept found rfl rfl
    · exact .kept found rfl rfl

end Chronicle

end Warrant
