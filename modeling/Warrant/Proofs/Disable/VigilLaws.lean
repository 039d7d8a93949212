import Mathlib.Data.List.Chain
import Warrant.Client
import Warrant.Proofs.Disable.CheckLaws

namespace Warrant

structure Vigil where
  keys : AuthorityKeys
  monitor : DisableMonitor
  isDisabled : Bool

namespace Vigil

structure Round where
  records : DisableMonitor.Records
  /-- Tells which keys may be used. -/
  clock : Moment
  /-- Tells which messages are in force. -/
  now : Int64

inductive Event
  | pin (key : PublicKey)
  | apply (manifest : Manifest) (now : Moment)
  | ask
  | check (round : Round)

structure Cycle where
  before : Vigil
  round : Round

def start (keys : AuthorityKeys) (domain : String) : Vigil :=
  ⟨keys, ⟨domain, none, false⟩, false⟩

/-- The clocks of all cycles show a time from which a day can be counted. -/
def Early (events : List Event) : Prop :=
  ∀ round, .check round ∈ events → DisableMessage.IsEarly round.now

theorem Early.tail {e : Event} {rest : List Event} (h : Early (e :: rest)) : Early rest :=
  fun round mem => h round (List.mem_cons_of_mem e mem)

def Sound (v : Vigil) : Prop :=
  v.isDisabled = v.monitor.sentinel.isSome

structure Keeps (v w : Vigil) : Prop where
  domain : w.monitor.domain = v.monitor.domain
  sentinel : w.monitor.sentinel = v.monitor.sentinel
  isDisabled : w.isDisabled = v.isDisabled

theorem Keeps.refl (v : Vigil) : v.Keeps v :=
  ⟨rfl, rfl, rfl⟩

theorem Keeps.trans {u v w : Vigil} (h : v.Keeps w) (g : w.Keeps u) : v.Keeps u :=
  ⟨g.domain.trans h.domain, g.sentinel.trans h.sentinel, g.isDisabled.trans h.isDisabled⟩

theorem Keeps.sound {v w : Vigil} (h : v.Keeps w) (sound : v.Sound) : w.Sound := by
  rwa [Sound, h.isDisabled, h.sentinel]

section

variable [Scheme] {v : Vigil}

namespace Cycle

def usable (c : Cycle) : List PublicKey :=
  c.before.keys.usable c.round.clock

def checked (c : Cycle) : DisableMonitor.Checked :=
  c.before.monitor.check c.before.isDisabled c.round.records c.usable c.round.now

def after (c : Cycle) : Vigil :=
  ⟨c.before.keys, c.checked.monitor, c.checked.isDisabled⟩

def Resolves (c : Cycle) (key : PublicKey) : Prop :=
  DisableMonitor.Resolves c.before.monitor.domain c.round.records key

def Backs (c : Cycle) (key : PublicKey) : Prop :=
  DisableMonitor.Backs c.before.monitor.domain c.round.records c.round.now key

end Cycle

def step (v : Vigil) : Event → Vigil
  | .pin key => { v with keys := v.keys.pin key }
  | .apply m now => { v with keys := v.keys.apply m now }
  | .ask => { v with monitor := { v.monitor with recovered := false } }
  | .check round => (Cycle.mk v round).after

def run (v : Vigil) (events : List Event) : Vigil :=
  events.foldl step v

def cycles (v : Vigil) : List Event → List Cycle
  | [] => []
  | .check round :: rest => ⟨v, round⟩ :: cycles (v.step (.check round)) rest
  | e :: rest => cycles (v.step e) rest

def ofClient? (keys : AuthorityKeys) (c : Client) : Option Vigil :=
  c.monitor.map fun monitor => ⟨keys, monitor, c.isDisabled⟩

theorem ofClient?_checkRecords (keys : AuthorityKeys) (c : Client) (round : Round) :
    ofClient? keys (c.checkRecords round.records (keys.usable round.clock) round.now).1 =
      (ofClient? keys c).map fun v => v.step (.check round) := by
  cases monitor : c.monitor with
  | none => simp [ofClient?, Client.checkRecords, monitor]
  | some m =>
    simp only [ofClient?, Client.checkRecords, monitor, Option.map_some]
    rfl

/-! ### One cycle -/

namespace Cycle

variable {c : Cycle} {key : PublicKey}

theorem outcome (c : Cycle) (early : DisableMessage.IsEarly c.round.now) :
    DisableMonitor.Outcome c.before.monitor c.before.isDisabled c.round.records c.usable
      c.round.now c.checked :=
  DisableMonitor.check_outcome _ _ _ _ early

theorem checked_of_some (early : DisableMessage.IsEarly c.round.now)
    (sentinel : c.before.monitor.sentinel = some key) :
    (c.Backs key ∧ c.checked = ⟨c.before.monitor, c.before.isDisabled, [key], false⟩) ∨
      ¬c.Backs key ∧ c.checked =
        ⟨{ c.before.monitor with sentinel := none, recovered := true }, false, [key], true⟩ := by
  have outcome := c.outcome early
  generalize c.checked = checked at outcome
  cases outcome with
  | held same backs =>
    cases sentinel.symm.trans same
    exact .inl ⟨backs, rfl⟩
  | released same lost =>
    cases sentinel.symm.trans same
    exact .inr ⟨lost, rfl⟩
  | silent none _ => cases sentinel.symm.trans none
  | refused none _ _ _ _ => cases sentinel.symm.trans none
  | entered none _ _ _ => cases sentinel.symm.trans none

/-- The key is the first of those that may be used and have a record. -/
def IsFirst (c : Cycle) (key : PublicKey) : Prop :=
  ∃ earlier later, c.usable = earlier ++ key :: later ∧ (∀ k ∈ earlier, ¬c.Resolves k) ∧
    c.Resolves key

theorem IsFirst.unique {key other : PublicKey} : c.IsFirst key → c.IsFirst other → key = other := by
  classical
  have found {key : PublicKey} : c.IsFirst key →
      c.usable.find? (fun k => decide (c.Resolves k)) = some key := by
    rintro ⟨earlier, later, listed, absent, resolves⟩
    rw [List.find?_eq_some_iff_append]
    exact ⟨by simpa using resolves, earlier, later, listed, by simpa using absent⟩
  intro first second
  exact Option.some.inj ((found first).symm.trans (found second))

theorem checked_of_none (early : DisableMessage.IsEarly c.round.now)
    (none : c.before.monitor.sentinel = none) :
    (∃ consulted, c.checked = ⟨c.before.monitor, c.before.isDisabled, consulted, false⟩ ∧
        ∀ key, c.IsFirst key → ¬c.Backs key) ∨
      ∃ key consulted,
        c.checked = ⟨{ c.before.monitor with sentinel := some key }, true, consulted, false⟩ ∧
        key ∈ consulted ∧ c.IsFirst key ∧ c.Backs key := by
  have outcome := c.outcome early
  generalize c.checked = checked at outcome
  cases outcome with
  | held some _ => cases some.symm.trans none
  | released some _ => cases some.symm.trans none
  | silent _ absent =>
    refine .inl ⟨_, rfl, fun key first => ?_⟩
    obtain ⟨earlier, later, listed, -, resolves⟩ := first
    exact absurd resolves (absent key (by simp [listed]))
  | @refused earlier later key _ listed absent resolves lost =>
    refine .inl ⟨_, rfl, fun other first => ?_⟩
    rwa [first.unique ⟨earlier, later, listed, absent, resolves⟩]
  | @entered earlier later key _ listed absent backs =>
    exact .inr ⟨key, _, rfl, by simp, ⟨earlier, later, listed, absent, backs.resolves⟩, backs⟩

/-- What a cycle does from the state that a monitor is in. -/
structure Lawful (c : Cycle) : Prop where
  domain : c.after.monitor.domain = c.before.monitor.domain
  flagged : c.after.isDisabled = c.after.monitor.sentinel.isSome
  backed : ∀ key, c.after.monitor.sentinel = some key → key ∈ c.checked.consulted ∧ c.Backs key
  entered : c.before.isDisabled = false → ∀ key,
    c.after.monitor.sentinel = some key ↔ c.IsFirst key ∧ c.Backs key
  kept : ∀ key, c.before.monitor.sentinel = some key → key ∈ c.usable →
    c.checked.consulted = [key] ∧ (c.after.isDisabled = true ↔ c.Backs key)
  notified : c.checked.notifies = (c.before.isDisabled && !c.after.isDisabled)
  recovered : c.after.monitor.recovered = (c.before.monitor.recovered || c.checked.notifies)

theorem lawful (sound : c.before.Sound) (early : DisableMessage.IsEarly c.round.now) :
    c.Lawful := by
  cases sentinel : c.before.monitor.sentinel with
  | some key =>
    have disabled := sound.trans (by rw [sentinel, Option.isSome_some])
    obtain ⟨backs, checked⟩ | ⟨lost, checked⟩ := checked_of_some early sentinel
    · exact {
        domain := by simp [after, checked]
        flagged := by simp [after, checked, sentinel, disabled]
        backed := by simp [after, checked, sentinel, backs]
        entered := by simp [disabled]
        kept := by simp [after, checked, sentinel, disabled, backs]
        notified := by simp [after, checked, disabled]
        recovered := by simp [after, checked] }
    · exact {
        domain := by simp [after, checked]
        flagged := by simp [after, checked]
        backed := by simp [after, checked]
        entered := by simp [disabled]
        kept := by simp [after, checked, sentinel, lost]
        notified := by simp [after, checked, disabled]
        recovered := by simp [after, checked] }
  | none =>
    have enabled := sound.trans (by rw [sentinel, Option.isSome_none])
    obtain ⟨consulted, checked, refused⟩ | ⟨key, consulted, checked, mem, first, backs⟩ :=
      checked_of_none early sentinel
    · exact {
        domain := by simp [after, checked]
        flagged := by simp [after, checked, sentinel, enabled]
        backed := by simp [after, checked, sentinel]
        entered := by simpa [after, checked, sentinel] using fun _ => refused
        kept := by simp [sentinel]
        notified := by simp [checked, enabled]
        recovered := by simp [after, checked] }
    · have only : ∀ other, key = other ↔ c.IsFirst other ∧ c.Backs other := by
        refine fun other => ⟨?_, fun h => first.unique h.1⟩
        rintro rfl
        exact ⟨first, backs⟩
      exact {
        domain := by simp [after, checked]
        flagged := by simp [after, checked]
        backed := by simp [after, checked, mem, backs]
        entered := by simpa [after, checked] using fun _ => only
        kept := by simp [sentinel]
        notified := by simp [checked, enabled]
        recovered := by simp [after, checked] }

end Cycle

/-! ### Runs -/

theorem cases_step (v : Vigil) (e : Event) :
    (∃ round, e = .check round) ∨
      v.Keeps (v.step e) ∧ ∀ rest, v.cycles (e :: rest) = (v.step e).cycles rest := by
  cases e with
  | check round => exact .inl ⟨round, rfl⟩
  | pin key => exact .inr ⟨⟨rfl, rfl, rfl⟩, fun _ => rfl⟩
  | apply m now => exact .inr ⟨⟨rfl, rfl, rfl⟩, fun _ => rfl⟩
  | ask => exact .inr ⟨⟨rfl, rfl, rfl⟩, fun _ => rfl⟩

theorem lawful_of_mem_cycles {events : List Event} (sound : v.Sound) (early : Early events) :
    ∀ c ∈ v.cycles events, c.Lawful ∧ c.before.monitor.domain = v.monitor.domain := by
  -- Soundness is what carries from cycle to cycle; the first clause of `Lawful` restores it.
  induction events generalizing v with
  | nil => simp [cycles]
  | cons e rest ih =>
    obtain ⟨round, rfl⟩ | ⟨keeps, skip⟩ := v.cases_step e
    · have lawful := Cycle.lawful (c := ⟨v, round⟩) sound (early round List.mem_cons_self)
      simp only [cycles, List.forall_mem_cons]
      refine ⟨⟨lawful, trivial⟩, fun c mem => ?_⟩
      obtain ⟨later, domain⟩ := ih lawful.flagged early.tail c mem
      exact ⟨later, domain.trans lawful.domain⟩
    · intro c mem
      rw [skip] at mem
      obtain ⟨lawful, domain⟩ := ih (keeps.sound sound) early.tail c mem
      exact ⟨lawful, domain.trans keeps.domain⟩

theorem chain_cycles (v : Vigil) (events : List Event) :
    (∀ c ∈ (v.cycles events).head?, v.Keeps c.before) ∧
      (v.cycles events).IsChain fun c d => c.after.Keeps d.before := by
  induction events generalizing v with
  | nil => simp [cycles]
  | cons e rest ih =>
    obtain ⟨round, rfl⟩ | ⟨keeps, skip⟩ := v.cases_step e
    · exact ⟨by simpa [cycles] using Keeps.refl v, List.isChain_cons.2 (ih _)⟩
    · rw [skip]
      exact ⟨fun c mem => keeps.trans ((ih _).1 c mem), (ih _).2⟩

theorem count_cycles (v : Vigil) (events : List Event) :
    (v.cycles events).countP (fun c => !c.before.isDisabled && c.after.isDisabled) +
        v.isDisabled.toNat =
      (v.cycles events).countP (fun c => c.before.isDisabled && !c.after.isDisabled) +
        (v.run events).isDisabled.toNat := by
  induction events generalizing v with
  | nil => rfl
  | cons e rest ih =>
    have last : v.run (e :: rest) = (v.step e).run rest := rfl
    obtain ⟨round, rfl⟩ | ⟨keeps, skip⟩ := v.cases_step e
    · have tail := ih (v.step (.check round))
      simp only [cycles, List.countP_cons, last]
      change _ + (Cycle.mk v round).after.isDisabled.toNat = _ at tail
      cases before : v.isDisabled <;> cases after : (Cycle.mk v round).after.isDisabled <;>
        simp [after] at tail ⊢ <;> omega
    · rw [skip, last, ← keeps.isDisabled]
      exact ih _

theorem Cycle.Lawful.enters {c : Cycle} (h : c.Lawful) {key : PublicKey} {later : List PublicKey}
    (enabled : c.before.isDisabled = false) (usable : c.usable = key :: later)
    (backs : c.Backs key) : c.after.monitor.sentinel = some key :=
  (h.entered enabled key).2 ⟨⟨[], later, usable, by simp, backs.resolves⟩, backs⟩

theorem Cycle.Lawful.sentinel_after {c : Cycle} (h : c.Lawful) {key : PublicKey}
    (sentinel : c.before.monitor.sentinel = some key) (usable : key ∈ c.usable)
    (disabled : c.after.isDisabled = true) : c.after.monitor.sentinel = some key := by
  obtain ⟨consulted, -⟩ := h.kept key sentinel usable
  rw [h.flagged, Option.isSome_iff_exists] at disabled
  obtain ⟨other, still⟩ := disabled
  have mem := (h.backed other still).1
  rw [consulted, List.mem_singleton] at mem
  rwa [← mem]

theorem sentinel_lasts {c d : Cycle} {between : List Cycle} {key : PublicKey}
    (chain : (c :: (between ++ [d])).IsChain fun c d => c.after.Keeps d.before)
    (lawful : ∀ e ∈ between ++ [d], e.Lawful) (usable : ∀ e ∈ between ++ [d], key ∈ e.usable)
    (sentinel : c.after.monitor.sentinel = some key) :
    (∀ e ∈ between, e.after.isDisabled = true) ∧ d.after.isDisabled = false ↔
      (∀ e ∈ between, e.Backs key) ∧ ¬d.Backs key := by
  induction between generalizing c with
  | nil =>
    have keeps := (List.isChain_cons_cons.1 chain).1
    have mem : d ∈ [] ++ [d] := List.mem_singleton_self d
    obtain ⟨-, kept⟩ := (lawful d mem).kept key (keeps.sentinel.trans sentinel) (usable d mem)
    simp [← kept]
  | cons e rest ih =>
    obtain ⟨keeps, chain⟩ := List.isChain_cons_cons.1 chain
    have before := keeps.sentinel.trans sentinel
    have first := lawful e List.mem_cons_self
    have able := usable e List.mem_cons_self
    obtain ⟨-, kept⟩ := first.kept key before able
    simp only [List.forall_mem_cons, ← kept, and_assoc]
    refine and_congr_right fun disabled => ?_
    have after := first.sentinel_after before able disabled
    exact ih chain (fun e mem => lawful e (List.mem_cons_of_mem _ mem))
      (fun e mem => usable e (List.mem_cons_of_mem _ mem)) after

/-- What is known of the check cycles of a run. -/
structure Watchful (v : Vigil) (events : List Event) : Prop where
  lawful : ∀ c ∈ v.cycles events, c.Lawful
  domain : ∀ c ∈ v.cycles events, c.before.monitor.domain = v.monitor.domain
  lasts : ∀ earlier c between d later,
    v.cycles events = earlier ++ c :: (between ++ d :: later) → ∀ key,
    c.after.monitor.sentinel = some key → (∀ e ∈ between ++ [d], key ∈ e.usable) →
      ((∀ e ∈ between, e.after.isDisabled = true) ∧ d.after.isDisabled = false ↔
        (∀ e ∈ between, e.Backs key) ∧ ¬d.Backs key)
  told : (v.cycles events).countP (fun c => c.checked.notifies) =
    (v.cycles events).countP (fun c => c.before.isDisabled && !c.after.isDisabled)
  counted : (v.cycles events).countP (fun c => !c.before.isDisabled && c.after.isDisabled) =
    (v.cycles events).countP (fun c => c.checked.notifies) + (v.run events).isDisabled.toNat

theorem watch_run (keys : AuthorityKeys) (domain : String) (events : List Event)
    (early : Early events) : (start keys domain).Watchful events := by
  have lawful := lawful_of_mem_cycles (v := start keys domain) rfl early
  have told : ((start keys domain).cycles events).countP (fun c => c.checked.notifies) =
      ((start keys domain).cycles events).countP
        (fun c => c.before.isDisabled && !c.after.isDisabled) :=
    List.countP_congr fun c mem => by rw [(lawful c mem).1.notified]
  exact {
    lawful := fun c mem => (lawful c mem).1
    domain := fun c mem => (lawful c mem).2
    lasts := by
      intro earlier c between d later all key sentinel usable
      have chain := (chain_cycles (start keys domain) events).2
      have stretch : (start keys domain).cycles events =
          earlier ++ (c :: (between ++ [d])) ++ later := by simpa using all
      rw [stretch] at chain lawful
      refine sentinel_lasts chain.left_of_append.right_of_append (fun e mem => ?_) usable sentinel
      exact (lawful e (by simp at mem ⊢; tauto)).1
    told := told
    counted := by
      have counted := count_cycles (start keys domain) events
      rw [← told] at counted
      exact counted }

end

def Round.ofTwos (now : Int64) : Round :=
  ⟨DisableMonitor.publishing (DisableMessage.recordName .ofTwos Config.standard.recordDomain)
    (Record.marshal DisableMessage.ofTwos), .ofSecond now, now⟩

def withdrawal : List Event :=
  [.check (.ofTwos 1700000000), .check ⟨fun _ => none, .ofSecond 1700000600, 1700000600⟩]

theorem watch_withdrawal :
    let v := start (.pinned [.ofTwos]) Config.standard.recordDomain
    Early withdrawal ∧ v.Watchful withdrawal ∧
      ∃ c d, v.cycles withdrawal = [c, d] ∧
        c.after.isDisabled = true ∧ d.after.isDisabled = false ∧ d.checked.notifies = true := by
  have early : Early withdrawal := by
    simp [Early, withdrawal, Round.ofTwos, DisableMessage.IsEarly, DisableMessage.longest,
      Int64.toInt_maxValue]
  have watchful := watch_run (.pinned [.ofTwos]) Config.standard.recordDomain _ early
  have usable (now : Moment) : (AuthorityKeys.pinned [.ofTwos]).usable now = [.ofTwos] :=
    KeyRing.usable_put_empty _ _ _ now
  have first := watchful.lawful _ (.head _)
  have second := watchful.lawful _ (.tail _ (.head _))
  have sentinel := first.enters rfl (usable _)
    (DisableMonitor.backs_ofTwos _ 1700000000 (by decide) (by decide))
  have disabled := first.flagged.trans (by rw [sentinel, Option.isSome_some])
  have able := List.mem_of_mem_head? (congrArg List.head? (usable (.ofSecond 1700000600)))
  have kept := (second.kept .ofTwos sentinel able).2
  have enabled := Bool.eq_false_iff.2 (mt kept.1 (by
    rintro ⟨_, _, _, found, -⟩
    cases found))
  refine ⟨early, watchful, _, _, rfl, disabled, enabled, second.notified.trans ?_⟩
  rw [enabled]
  exact congrArg (· && true) disabled

end Vigil

end Warrant
