import Warrant.Client
import Warrant.Proofs.Registry.RefreshLaws
import Warrant.Proofs.RenewalLaws

namespace Warrant

namespace Client

inductive Event
  | check (records : DisableMonitor.Records) (wall : Int64)
  | deliver
  | wake (number : Nat)
  | health (number now : Nat) (key : PrivateKey) (serial : UInt64) (wall : Int64)
      (reply : Except Error Unit)
  | sign (number now : Nat) (wall : Int64) (reply : Except Error Certificate)
  | install (number now : Nat)
  | dismiss (number : Nat)
  | leave (number : Nat)
  | close
  | drop

def HoldsBootstrap (c : Client) (r : Registry) : Prop :=
  ∃ credential, c.credential? r = some credential ∧ credential.certificate.isBootstrap = true

/-- What a client is about to put into the registry, and for which handle. -/
def offer? (c : Client) : Event → Option (Handle × Credential)
  | .install number _ =>
    match c.identity, c.recoveries.tasks.get? number with
    | .registered handle, some (.installing credential) => some (handle, credential)
    | _, _ => none
  | _ => none

def IsSignalled (c : Client) : Prop :=
  ∃ monitor, c.monitor = some monitor ∧ monitor.recovered = true

/-- `c'` is the same client, some time later. -/
structure Continues (c : Client) (event : Event) (c' : Client) : Prop where
  config : c'.config = c.config
  identity : c'.identity = c.identity
  stopping : c.stopping = true → c'.stopping = true
  stopped : c'.stopping = true → c.stopping = true ∨ event = .close ∨ event = .drop
  signalled : event ≠ .deliver → c.IsSignalled → c'.IsSignalled
  enabled : c'.isDisabled = false → c.isDisabled = false ∨ c'.IsSignalled

variable [Scheme]

def step (c : Client) (usable : Int64 → List PublicKey) (l : LiveRegistry) :
    Event → Client × LiveRegistry
  | .check records wall => ((c.checkRecords records (usable wall) wall).1, l)
  | .deliver => (c.deliver, l)
  | .wake number => (c.wakeRecovery number, l)
  | .health number now key serial wall reply =>
    (c.healthReplied number l.registry now key serial wall reply, l)
  | .sign number now wall reply => (c.signReplied number (usable wall) now wall reply, l)
  | .install number now => c.installRecovered number l now
  | .dismiss number => (c.dismissRecovery number, l)
  | .leave number => (c.endRecovery number, l)
  | .close => (c.startClosing.1, l)
  | .drop => (c.stop, l)

inductive Turn (c : Client) (usable : Int64 → List PublicKey) (r : Registry) :
    Event → Nat → Recovery → Recovery → Prop
  | wake (number due : Nat) : Turn c usable r (.wake number) number (.resting due) .checkingHealth
  | unwell (number now : Nat) (key : PrivateKey) (serial : UInt64) (wall : Int64) (e : Error) :
      Turn c usable r (.health number now key serial wall (.error e)) number .checkingHealth
        (Recovery.rest now c.retry)
  | start (number now : Nat) (key : PrivateKey) (serial : UInt64) (wall : Int64)
      {credential : Credential} : c.credential? r = some credential →
      Turn c usable r (.health number now key serial wall (.ok ())) number .checkingHealth
        (.renewing (.start credential key serial wall))
  | fit (number now : Nat) (key : PrivateKey) (serial : UInt64) (wall : Int64) :
      ¬c.HoldsBootstrap r →
      Turn c usable r (.health number now key serial wall (.ok ())) number .checkingHealth .leaving
  | signed (number now : Nat) {wall : Int64} {reply : Except Error Certificate} {renewal : Renewal}
      {credential : Credential} : reply.bind (renewal.finish (usable wall) wall) = .ok credential →
      Turn c usable r (.sign number now wall reply) number (.renewing renewal)
        (.installing credential)
  | denied (number now : Nat) {wall : Int64} {reply : Except Error Certificate} {renewal : Renewal}
      {e : Error} : reply.bind (renewal.finish (usable wall) wall) = .error e →
      Turn c usable r (.sign number now wall reply) number (.renewing renewal)
        (Recovery.rest now c.retry)
  | installed (number now : Nat) {handle : Handle} {credential : Credential} {r' : Registry} :
      c.identity = .registered handle → r.update handle credential = .ok r' →
      Turn c usable r (.install number now) number (.installing credential) .leaving
  | lost (number now : Nat) {handle : Handle} {credential : Credential} {e : Error} :
      c.identity = .registered handle → r.update handle credential = .error e →
      Turn c usable r (.install number now) number (.installing credential)
        (Recovery.rest now c.retry)
  | dismissed (number due : Nat) : c.stopping = true →
      Turn c usable r (.dismiss number) number (.resting due) .leaving

inductive Leaves (c : Client) (usable : Int64 → List PublicKey) (r : Registry) :
    Event → Recoveries → Prop
  | same (event : Event) : Leaves c usable r event c.recoveries
  | start {monitor : DisableMonitor} : c.monitor = some monitor → monitor.recovered = true →
      Leaves c usable r .deliver c.recoveries.start
  | turn {event : Event} {number : Nat} {before after : Recovery} :
      c.recoveries.tasks.get? number = some before → Turn c usable r event number before after →
      Leaves c usable r event (c.recoveries.set number after)
  | leave (number : Nat) : Leaves c usable r (.leave number) (c.recoveries.leave number)

theorem healthReplied_leaves (c : Client) (usable : Int64 → List PublicKey) (r : Registry)
    (number now : Nat) (key : PrivateKey) (serial : UInt64) (wall : Int64)
    (reply : Except Error Unit) :
    c.Leaves usable r (.health number now key serial wall reply)
      (c.healthReplied number r now key serial wall reply).recoveries := by
  unfold healthReplied
  split
  · next task =>
    refine .turn task ?_
    cases reply with
    | error e => exact .unwell number now key serial wall e
    | ok u =>
      unfold Recovery.healthReplied
      cases held : c.credential? r with
      | none =>
        refine .fit number now key serial wall ?_
        rintro ⟨other, found, -⟩
        exact nomatch held.symm.trans found
      | some credential =>
        cases bootstrap : credential.certificate.isBootstrap with
        | true =>
          simp only [bootstrap, if_true]
          exact .start number now key serial wall held
        | false =>
          simp only [bootstrap, Bool.false_eq_true, if_false]
          refine .fit number now key serial wall ?_
          rintro ⟨other, found, granting⟩
          cases held.symm.trans found
          exact nomatch bootstrap.symm.trans granting
  · exact .same _

theorem signReplied_leaves (c : Client) (usable : Int64 → List PublicKey) (r : Registry)
    (number now : Nat) (wall : Int64) (reply : Except Error Certificate) :
    c.Leaves usable r (.sign number now wall reply)
      (c.signReplied number (usable wall) now wall reply).recoveries := by
  unfold signReplied
  split
  · next renewal task =>
    refine .turn task ?_
    unfold Recovery.signReplied
    split
    · next done => exact .signed number now done
    · next failed => exact .denied number now failed
  · exact .same _

theorem installRecovered_leaves (c : Client) (usable : Int64 → List PublicKey) (l : LiveRegistry)
    (number now : Nat) :
    c.Leaves usable l.registry (.install number now)
      (c.installRecovered number l now).1.recoveries := by
  unfold installRecovered
  split
  · next handle credential registered task =>
    refine .turn task ?_
    cases updated : l.registry.update handle credential with
    | ok r => exact .installed number now registered updated
    | error e => exact .lost number now registered updated
  · exact .same _

theorem dismissRecovery_leaves (c : Client) (usable : Int64 → List PublicKey) (r : Registry)
    (number : Nat) :
    c.Leaves usable r (.dismiss number) (c.dismissRecovery number).recoveries := by
  unfold dismissRecovery
  split
  · next due task =>
    split
    · next stopping => exact .turn task (.dismissed number due stopping)
    · exact .same _
  · exact .same _

theorem deliver_leaves (c : Client) (usable : Int64 → List PublicKey) (r : Registry) :
    c.Leaves usable r .deliver c.deliver.recoveries := by
  unfold deliver
  split
  · next monitor monitored =>
    split
    · next recovered => exact .start monitored recovered
    · exact .same _
  · exact .same _

@[simp] theorem recoveries_checkRecords (c : Client) (records : DisableMonitor.Records)
    (usable : List PublicKey) (now : Int64) :
    (c.checkRecords records usable now).1.recoveries = c.recoveries := by
  unfold checkRecords
  split <;> rfl

omit [Scheme] in
@[simp] theorem recoveries_startClosing (c : Client) :
    c.startClosing.1.recoveries = c.recoveries := by
  unfold startClosing
  split
  · rfl
  · split <;> rfl

theorem step_leaves (c : Client) (usable : Int64 → List PublicKey) (l : LiveRegistry)
    (event : Event) :
    c.Leaves usable l.registry event (c.step usable l event).1.recoveries := by
  cases event with
  | check records wall =>
    rw [step, recoveries_checkRecords]
    exact .same _
  | deliver => exact c.deliver_leaves usable l.registry
  | wake number =>
    rw [step]
    unfold wakeRecovery
    split
    · next due task => exact .turn task (.wake number due)
    · exact .same _
  | health number now key serial wall reply =>
    exact c.healthReplied_leaves usable l.registry number now key serial wall reply
  | sign number now wall reply =>
    exact c.signReplied_leaves usable l.registry number now wall reply
  | install number now => exact c.installRecovered_leaves usable l number now
  | dismiss number => exact c.dismissRecovery_leaves usable l.registry number
  | leave number => exact .leave number
  | close =>
    rw [step, recoveries_startClosing]
    exact .same _
  | drop => exact .same _

theorem checkRecords_continues (c : Client) (records : DisableMonitor.Records)
    (usable : Int64 → List PublicKey) (wall : Int64) :
    c.Continues (.check records wall) (c.checkRecords records (usable wall) wall).1 := by
  unfold checkRecords
  split
  · next monitor monitored =>
    refine ⟨rfl, rfl, id, .inl, ?_, ?_⟩ <;>
      simp only [IsSignalled, monitored, Option.some.injEq, exists_eq_left', DisableMonitor.check]
    · intro _ signalled
      split
      · split
        · exact signalled
        · rfl
      · split <;> exact signalled
    · split
      · split
        · exact .inl
        · exact fun _ => .inr rfl
      · split
        · exact nofun
        · exact .inl
  · exact ⟨rfl, rfl, id, .inl, fun _ => id, .inl⟩

theorem step_continues (c : Client) (usable : Int64 → List PublicKey) (l : LiveRegistry)
    (event : Event) : c.Continues event (c.step usable l event).1 := by
  cases event with
  | check records wall => exact c.checkRecords_continues records usable wall
  | deliver =>
    rw [step, deliver]
    split
    · split
      · exact ⟨rfl, rfl, id, .inl, absurd rfl, .inl⟩
      · exact ⟨rfl, rfl, id, .inl, absurd rfl, .inl⟩
    · exact ⟨rfl, rfl, id, .inl, absurd rfl, .inl⟩
  | wake number =>
    rw [step, wakeRecovery]
    split <;> exact ⟨rfl, rfl, id, .inl, fun _ => id, .inl⟩
  | health number now key serial wall reply =>
    rw [step, healthReplied]
    split <;> exact ⟨rfl, rfl, id, .inl, fun _ => id, .inl⟩
  | sign number now wall reply =>
    rw [step, signReplied]
    split <;> exact ⟨rfl, rfl, id, .inl, fun _ => id, .inl⟩
  | install number now =>
    rw [step, installRecovered]
    split <;> exact ⟨rfl, rfl, id, .inl, fun _ => id, .inl⟩
  | dismiss number =>
    rw [step, dismissRecovery]
    split
    · split <;> exact ⟨rfl, rfl, id, .inl, fun _ => id, .inl⟩
    · exact ⟨rfl, rfl, id, .inl, fun _ => id, .inl⟩
  | leave number => exact ⟨rfl, rfl, id, .inl, fun _ => id, .inl⟩
  | close =>
    rw [step, startClosing]
    split
    · exact ⟨rfl, rfl, id, .inl, fun _ => id, .inl⟩
    · split <;> exact ⟨rfl, rfl, fun _ => rfl, fun _ => .inr (.inl rfl), fun _ => id, .inl⟩
  | drop => exact ⟨rfl, rfl, fun _ => rfl, fun _ => .inr (.inr rfl), fun _ => id, .inl⟩

omit [Scheme] in
theorem offer?_eq_some_iff {c : Client} {event : Event} {handle : Handle}
    {credential : Credential} :
    c.offer? event = some (handle, credential) ↔
      ∃ number now, event = .install number now ∧ c.identity = .registered handle ∧
        c.recoveries.tasks.get? number = some (.installing credential) := by
  constructor
  · intro offered
    unfold offer? at offered
    split at offered
    · split at offered
      · next registered task =>
        cases offered
        exact ⟨_, _, rfl, registered, task⟩
      · contradiction
    · contradiction
  · rintro ⟨number, now, rfl, registered, task⟩
    simp only [offer?, registered, task]

/-- The registry changes by what is put into it, and by nothing else. -/
theorem step_registry (c : Client) (usable : Int64 → List PublicKey) (l : LiveRegistry)
    (event : Event) :
    (c.step usable l event).2 =
      match c.offer? event with
      | some (handle, credential) =>
        match l.update handle credential with
        | .ok l' => l'
        | .error _ => l
      | none => l := by
  cases offered : c.offer? event with
  | some offer =>
    obtain ⟨number, now, rfl, registered, task⟩ := offer?_eq_some_iff.1 offered
    simp only [step, installRecovered, registered, task, Recovery.install, LiveRegistry.update]
    cases l.registry.update offer.1 offer.2 <;> rfl
  | none =>
    cases event with
    | install number now =>
      rw [step, installRecovered]
      split
      · next registered task =>
        have some := offer?_eq_some_iff.2 ⟨number, now, rfl, registered, task⟩
        cases offered.symm.trans some
      · rfl
    | _ => rfl

/-- What holds of every recovery holds of every one afterwards, if it does of one that starts and of
one that an event brings on. -/
theorem Leaves.forall_task {c : Client} {usable : Int64 → List PublicKey} {r : Registry}
    {event : Event} {after : Recoveries} {p : Nat → Recovery → Prop}
    (leaves : c.Leaves usable r event after) (fresh : ∀ number, p number .checkingHealth)
    (turn : ∀ {number at_ next}, c.recoveries.tasks.get? number = some at_ →
      Turn c usable r event number at_ next → p number at_ → p number next)
    (h : ∀ number at_, c.recoveries.tasks.get? number = some at_ → p number at_) :
    ∀ number at_, after.tasks.get? number = some at_ → p number at_ := by
  intro number at_ found
  cases leaves with
  | same => exact h number at_ found
  | start =>
    unfold Recoveries.start at found
    split at found
    · exact h number at_ found
    · rw [Table.get?_push, Option.or_eq_some_iff] at found
      obtain found | ⟨-, found⟩ := found
      · exact h number at_ found
      · split at found
        · cases found
          exact fresh number
        · contradiction
  | turn task turns =>
    rw [Recoveries.set, Table.get?_put] at found
    split at found
    · next same =>
      cases found
      subst same
      exact turn task turns (h _ _ task)
    · exact h number at_ found
  | leave n =>
    unfold Recoveries.leave at found
    split at found
    · rw [Table.get?_erase] at found
      split at found
      · contradiction
      · exact h number at_ found
    · exact h number at_ found

/-- The authority grants what a recovery asks for, if it answers. -/
def Granted (c : Client) : Event → Prop
  | .sign number _ _ reply => ∀ renewal, c.recoveries.tasks.get? number = some (.renewing renewal) →
      renewal.request.Granted reply
  | _ => True

def Renews (c : Client) : Prop :=
  ∀ number renewal, c.recoveries.tasks.get? number = some (.renewing renewal) → renewal.Proper

def Regains (c : Client) : Prop :=
  ∀ number credential, c.recoveries.tasks.get? number = some (.installing credential) →
    credential.certificate.isBootstrap = false

theorem Renews.step {c : Client} (h : c.Renews) (usable : Int64 → List PublicKey)
    (l : LiveRegistry) (event : Event) : (c.step usable l event).1.Renews := by
  intro number renewal found
  refine (c.step_leaves usable l event).forall_task
    (p := fun _ at_ => ∀ renewal, at_ = .renewing renewal → renewal.Proper) ?_ ?_ ?_ number _
    found renewal rfl
  · rintro number renewal ⟨⟩
  · rintro number at_ next - turn - renewal rfl
    cases turn with
    | start => exact Renewal.proper_start ..
  · rintro number _ before renewal rfl
    exact h number renewal before

theorem Regains.step {c : Client} (h : c.Regains) (renews : c.Renews) {event : Event}
    (granted : c.Granted event) (usable : Int64 → List PublicKey) (l : LiveRegistry) :
    (c.step usable l event).1.Regains := by
  intro number credential found
  refine (c.step_leaves usable l event).forall_task
    (p := fun _ at_ => ∀ credential, at_ = .installing credential →
      credential.certificate.isBootstrap = false) nofun ?_ ?_ number _ found credential rfl
  · rintro number at_ next task turn - credential rfl
    cases turn with
    | signed _ _ done => exact (renews _ _ task).granted (granted _ task) done
  · rintro number _ before credential rfl
    exact h number credential before

end Client

end Warrant
