import Warrant.Proofs.Upkeep

namespace Warrant.Upkeep

variable [Scheme]

/-- The authority grants what it is asked for, if it answers, and a daemon keeps the tags of what it
is sent. Nobody else changes a certificate. -/
def Honest (u : Upkeep) : Event → Prop
  | .registry (.task g event) => ∀ t, u.task? g = some t → t.Granted event ∧ t.Kept event
  | .registry (.update _ _) => False
  | .client n event => ∀ s, u.residents.get? n = some s → s.client.Granted event
  | _ => True

def HonestRun (u : Upkeep) : List Event → Prop
  | [] => True
  | e :: rest => u.Honest e ∧ (u.step e).HonestRun rest

structure Regular (u : Upkeep) : Prop where
  proper : u.Proper
  tasks : ∀ g t, u.task? g = some t → t.Lags → t.context.hasDaemon = true
  residents : ∀ n s, u.residents.get? n = some s → s.client.Regains

variable {u : Upkeep} {e : Event}

theorem honestRun_append {before after : List Event} :
    u.HonestRun (before ++ after) ↔ u.HonestRun before ∧ (u.run before).HonestRun after := by
  induction before generalizing u with
  | nil => exact (and_iff_right trivial).symm
  | cons e rest ih =>
    rw [List.cons_append, HonestRun, HonestRun, ih, and_assoc]
    rfl

theorem HonestRun.preserves {p : Upkeep → Prop} {events : List Event}
    (honest : u.HonestRun events)
    (step : ∀ u e, e ∈ events → u.Honest e → p u → p (u.step e)) (h : p u) :
    p (u.run events) := by
  induction events generalizing u with
  | nil => exact h
  | cons e rest ih =>
    exact ih honest.2 (fun u f mem => step u f (List.mem_cons_of_mem e mem))
      (step u e List.mem_cons_self honest.1 h)

theorem regular_start (period : Nat) : (start period).Regular :=
  ⟨proper_start period, by simp [task?, live, start, Chronicle.start, LiveRegistry.make],
    by simp [start]⟩

omit [Scheme] in
theorem honest_task {g : Nat} {event : RefreshTask.Event} {t : RefreshTask}
    (honest : u.Honest (.registry (.task g event))) (running : u.task? g = some t)
    (usable : Int64 → List PublicKey) :
    t.Granted (event.withKeys usable) ∧ t.Kept (event.withKeys usable) := by
  have told := honest t running
  cases event <;> exact told

namespace Regular

theorem step (h : u.Regular) (honest : u.Honest e) : (u.step e).Regular := by
  refine ⟨h.proper.step e, ?_, ?_⟩
  · intro g t found lags
    obtain found | ⟨_, _, _, -, -, -, rfl⟩ | ⟨t₀, event, rfl, running, advances⟩ := task_cases found
    · exact h.tasks g t found lags
    · exact lags.elim
    · obtain ⟨granted, kept⟩ := honest_task honest running _
      rw [advances.context]
      obtain lags | ⟨daemon, -⟩ :=
        (h.proper.tasks g t₀ running).lags_cases advances granted kept lags
      · exact h.tasks g t₀ running lags
      · exact daemon
  · intro n s found
    obtain found | ⟨_, _, _, _, -, rfl⟩ | ⟨s₀, event, rfl, there, rfl⟩ := resident_cases found
    · exact h.residents n s found
    · intro number credential task
      cases task
    · exact (h.residents n s₀ there).step (h.proper.residents n s₀ there) (honest s₀ there) _ _

theorem run (h : u.Regular) {events : List Event} (honest : u.HonestRun events) :
    (u.run events).Regular :=
  honest.preserves (fun _ _ _ honest regular => regular.step honest) h

end Regular

end Warrant.Upkeep
