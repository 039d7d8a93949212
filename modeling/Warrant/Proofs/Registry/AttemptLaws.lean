import Warrant.Proofs.Registry.RefreshLaws
import Warrant.Proofs.RenewalLaws

namespace Warrant

namespace RefreshTask

variable [Scheme]

def Supplies (usable : List PublicKey) (wall : Int64) (reply : Except Error Credential)
    (c : Credential) : Prop :=
  reply = .ok c ∧ c.certificate.check usable wall = .ok ()

inductive Turn (t : RefreshTask) (r : Registry) : Event → RefreshPhase → Prop
  | stay (event : Event) : Turn t r event t.phase
  | wake (now : Nat) : t.phase = .waiting → Turn t r (.wake now) .reading
  | start {e : Entry} (key : PrivateKey) (serial : UInt64) (wall : Int64) : t.phase = .reading →
      r.find? t.key = some e → e.generation = t.generation →
      Turn t r (.read key serial wall) (.renewing (.start e.current key serial wall))
  | signed {usable : List PublicKey} {wall : Int64} {reply : Except Error Certificate}
      {renewal : Renewal} {c : Credential} : t.phase = .renewing renewal →
      reply.bind (renewal.finish usable wall) = .ok c →
      Turn t r (.authority usable wall reply) (.installing c)
  | denied {usable : List PublicKey} {wall : Int64} {reply : Except Error Certificate}
      {renewal : Renewal} {cause : Error} : t.phase = .renewing renewal →
      reply.bind (renewal.finish usable wall) = .error cause → t.context.hasDaemon = true →
      Turn t r (.authority usable wall reply) (.askingDaemon renewal.current cause)
  | failed {usable : List PublicKey} {wall : Int64} {reply : Except Error Certificate}
      {renewal : Renewal} {cause : Error} : t.phase = .renewing renewal →
      reply.bind (renewal.finish usable wall) = .error cause → t.context.hasDaemon = false →
      Turn t r (.authority usable wall reply) .waiting
  | supplied {usable : List PublicKey} {wall : Int64} {reply : Except Error Credential}
      {current c : Credential} {cause : Error} : t.phase = .askingDaemon current cause →
      Supplies usable wall reply c → Turn t r (.daemon usable wall reply) (.installing c)
  | bothFailed {usable : List PublicKey} {wall : Int64} {reply : Except Error Credential}
      {current : Credential} {cause : Error} : t.phase = .askingDaemon current cause →
      (∀ c, ¬Supplies usable wall reply c) → Turn t r (.daemon usable wall reply) .waiting
  | installed {c : Credential} : t.phase = .installing c → Turn t r .install .waiting

structure Advances (t : RefreshTask) (r : Registry) (event : Event) (t' : RefreshTask) : Prop where
  key : t'.key = t.key
  generation : t'.generation = t.generation
  context : t'.context = t.context
  turn : Turn t r event t'.phase

theorem daemonReplied_advances {t t' : RefreshTask} {r r' : Registry} {usable : List PublicKey}
    {wall : Int64} {reply : Except Error Credential}
    (stepped : t.daemonReplied r usable wall reply = (r', some t')) :
    t.Advances r (.daemon usable wall reply) t' := by
  unfold daemonReplied at stepped
  split at stepped
  · next current cause phase =>
    cases reply with
    | error e =>
      cases stepped
      exact ⟨rfl, rfl, rfl, .bothFailed phase fun c h => nomatch h.1⟩
    | ok c =>
      cases checked : c.certificate.check usable wall with
      | error e =>
        simp only [checked, bind, Except.bind] at stepped
        cases stepped
        refine ⟨rfl, rfl, rfl, .bothFailed phase ?_⟩
        rintro _ ⟨⟨⟩, passed⟩
        exact nomatch checked.symm.trans passed
      | ok u =>
        simp only [checked, bind, Except.bind] at stepped
        cases stepped
        exact ⟨rfl, rfl, rfl, .supplied phase ⟨rfl, checked⟩⟩
  · cases stepped
    exact ⟨rfl, rfl, rfl, .stay _⟩

theorem step_advances {t t' : RefreshTask} {r r' : Registry} {event : Event}
    (stepped : t.step r event = (r', some t')) : t.Advances r event t' := by
  cases event with
  | wake now =>
    simp only [step, wake] at stepped
    split at stepped
    · next phase =>
      cases stepped
      exact ⟨rfl, rfl, rfl, .wake now phase⟩
    · cases stepped
      exact ⟨rfl, rfl, rfl, .stay _⟩
  | read key serial wall =>
    simp only [step, read] at stepped
    split at stepped
    · next e phase there =>
      split at stepped
      · next same =>
        cases stepped
        exact ⟨rfl, rfl, rfl, .start key serial wall phase there same⟩
      · cases stepped
    · cases stepped
    · cases stepped
      exact ⟨rfl, rfl, rfl, .stay _⟩
  | authority usable wall reply =>
    simp only [step, authorityReplied] at stepped
    split at stepped
    · next renewal phase =>
      split at stepped
      · next done =>
        cases stepped
        exact ⟨rfl, rfl, rfl, .signed phase done⟩
      · next failed =>
        split at stepped
        · next daemon =>
          cases stepped
          exact ⟨rfl, rfl, rfl, .denied phase failed daemon⟩
        · next alone =>
          cases stepped
          exact ⟨rfl, rfl, rfl, .failed phase failed (Bool.not_eq_true _ ▸ alone)⟩
    · cases stepped
      exact ⟨rfl, rfl, rfl, .stay _⟩
  | daemon usable wall reply => exact daemonReplied_advances stepped
  | install =>
    simp only [step, install] at stepped
    split at stepped
    · next phase =>
      split at stepped
      · cases stepped
        exact ⟨rfl, rfl, rfl, .installed phase⟩
      · cases stepped
    · cases stepped
      exact ⟨rfl, rfl, rfl, .stay _⟩
  | halt =>
    simp only [step, halt] at stepped
    split at stepped
    · cases stepped
    · cases stepped
      exact ⟨rfl, rfl, rfl, .stay _⟩

/-- An attempt that is not under way already starts with the entry, and with nothing else. -/
theorem Advances.renewing {t t' : RefreshTask} {r : Registry} {event : Event} {renewal : Renewal}
    (advances : t.Advances r event t') (after : t'.phase = .renewing renewal) :
    t.phase = .renewing renewal ∨ r.owns t.key t.generation = true := by
  have turn := advances.turn
  generalize t'.phase = phase at turn after
  cases turn with
  | stay => exact .inl after
  | start _ _ _ _ there same => exact .inr (Registry.owns_iff.2 ⟨_, there, same⟩)
  | _ => cases after

/-- The authority grants what the task asks for, if it answers. -/
def Granted (t : RefreshTask) : Event → Prop
  | .authority _ _ reply => ∀ renewal, t.phase = .renewing renewal → renewal.request.Granted reply
  | _ => True

/-- What the daemon sends has the tags of what it was sent. -/
def Kept (t : RefreshTask) : Event → Prop
  | .daemon _ _ reply => ∀ current cause, t.phase = .askingDaemon current cause →
      ∀ c, reply = .ok c → c.certificate.tags = current.certificate.tags
  | _ => True

structure Proper (t : RefreshTask) : Prop where
  renewing : ∀ renewal, t.phase = .renewing renewal → renewal.Proper
  asking : ∀ current cause, t.phase = .askingDaemon current cause → t.context.hasDaemon = true

/-- The task is still at work on a bootstrap certificate, or on one that a daemon may send for it.
-/
def Lags (t : RefreshTask) : Prop :=
  match t.phase with
  | .renewing renewal =>
    t.context.hasDaemon = true ∧ renewal.current.certificate.isBootstrap = true
  | .askingDaemon current _ => current.certificate.isBootstrap = true
  | .installing c => c.certificate.isBootstrap = true
  | .waiting | .reading => False

variable {t t' : RefreshTask} {r : Registry} {event : Event}

theorem proper_make (key : RegistryKey) (generation : Nat) (context : RefreshContext)
    (period now : Nat) : (make key generation context period now).Proper := by
  constructor
  · rintro renewal ⟨⟩
  · rintro current cause ⟨⟩

theorem Proper.advances (h : t.Proper) (advances : t.Advances r event t') : t'.Proper := by
  obtain ⟨-, -, context, turn⟩ := advances
  generalize after : t'.phase = phase at turn
  constructor
  · intro renewal at_
    cases turn with
    | stay => exact h.renewing renewal (after.symm.trans at_)
    | start =>
      cases after.symm.trans at_
      exact Renewal.proper_start ..
    | _ => cases after.symm.trans at_
  · intro current cause at_
    rw [context]
    cases turn with
    | stay => exact h.asking current cause (after.symm.trans at_)
    | denied _ _ daemon => exact daemon
    | _ => cases after.symm.trans at_

/-- A task comes to lag behind only at the start of an attempt, and only if it has a daemon. -/
theorem Proper.lags_cases (h : t.Proper) (advances : t.Advances r event t')
    (granted : t.Granted event) (kept : t.Kept event) (lags : t'.Lags) :
    t.Lags ∨ t.context.hasDaemon = true ∧ ∃ e, r.find? t.key = some e ∧
      e.generation = t.generation ∧ e.current.certificate.isBootstrap = true := by
  obtain ⟨-, -, context, turn⟩ := advances
  unfold Lags at lags
  rw [context] at lags
  generalize t'.phase = phase at turn lags
  cases turn with
  | stay => exact .inl lags
  | wake => contradiction
  | start _ _ _ _ there same =>
    obtain ⟨daemon, bootstrap⟩ := lags
    exact .inr ⟨daemon, _, there, same, bootstrap⟩
  | signed before done =>
    have regular := (h.renewing _ before).granted (granted _ before) done
    exact absurd lags (by simp [regular])
  | denied before _ daemon =>
    left
    rw [Lags, before]
    exact ⟨daemon, lags⟩
  | failed => contradiction
  | supplied before supplies =>
    have tags := kept _ _ before _ supplies.1
    left
    rw [Lags, before]
    exact (Certificate.isBootstrap_of_tags_eq tags).symm.trans lags
  | bothFailed => contradiction
  | installed => contradiction

end RefreshTask

end Warrant
