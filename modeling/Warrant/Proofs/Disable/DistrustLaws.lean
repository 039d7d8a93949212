import Warrant.Proofs.Disable.VigilLaws

/-!
What a key that may not be used any more can still do: it never becomes the sentinel, but one that
is the sentinel already goes on disabling the library for as long as it is published to.
-/

namespace Warrant.Vigil

section

variable [Scheme]

theorem Cycle.sentinel_after_iff {c : Cycle} (early : DisableMessage.IsEarly c.round.now)
    {key : PublicKey} (distrusted : key ∉ c.usable) :
    c.after.monitor.sentinel = some key ↔
      c.before.monitor.sentinel = some key ∧ c.Backs key := by
  cases sentinel : c.before.monitor.sentinel with
  | some other =>
    rw [Option.some.injEq]
    obtain ⟨backs, checked⟩ | ⟨lost, checked⟩ := checked_of_some early sentinel
    · rw [after, checked]
      change c.before.monitor.sentinel = some key ↔ _
      rw [sentinel, Option.some.injEq]
      constructor
      · rintro rfl
        exact ⟨rfl, backs⟩
      · exact And.left
    · rw [after, checked]
      simp only [reduceCtorEq, false_iff, not_and]
      rintro rfl
      exact lost
  | none =>
    simp only [reduceCtorEq, false_and, iff_false]
    intro entered
    obtain ⟨_, checked, -⟩ | ⟨first, _, checked, -, ⟨earlier, later, listed, -⟩, -⟩ :=
      checked_of_none early sentinel
    · rw [after, checked] at entered
      cases sentinel.symm.trans entered
    · rw [after, checked] at entered
      cases entered
      exact absurd (by simp [listed]) distrusted

theorem early_of_mem_cycles {v : Vigil} {events : List Event} (early : Early events) :
    ∀ c ∈ v.cycles events, DisableMessage.IsEarly c.round.now := by
  induction events generalizing v with
  | nil => simp [cycles]
  | cons e rest ih =>
    obtain ⟨round, rfl⟩ | ⟨-, skip⟩ := v.cases_step e
    · simp only [cycles, List.forall_mem_cons]
      exact ⟨early round List.mem_cons_self, ih early.tail⟩
    · rw [skip]
      exact ih early.tail

/-- However a key has been lost: the library is disabled on its word for as long as it has been, and
its record goes on saying so. -/
theorem distrust_run (keys : AuthorityKeys) (domain : String) (events : List Event)
    (early : Early events) : ∀ c ∈ (start keys domain).cycles events, ∀ key, key ∉ c.usable →
      (c.after.isDisabled = true ∧ c.after.monitor.sentinel = some key ↔
        c.before.monitor.sentinel = some key ∧ c.Backs key) := by
  intro c mem key distrusted
  have flagged := (lawful_of_mem_cycles (v := start keys domain) rfl early c mem).1.flagged
  rw [← c.sentinel_after_iff (early_of_mem_cycles early c mem) distrusted, flagged]
  refine ⟨And.right, fun sentinel => ⟨?_, sentinel⟩⟩
  rw [sentinel, Option.isSome_some]

end

/-! ### A key that is revoked -/

section

variable [Scheme] {key : PublicKey}

def listing (key : PublicKey) : Manifest :=
  ⟨[⟨key.id, Base64.encodeText key.encode, none, none, false⟩]⟩

def revoking (key : PublicKey) : Manifest :=
  ⟨[⟨key.id, "", none, none, true⟩]⟩

theorem apply_listing (isKey : Scheme.isKey key = true) (now : Moment) :
    KeyRing.empty.apply (listing key) now = KeyRing.empty.put key.id ⟨key, none, false⟩ := by
  have free : KeyRing.empty.isPinned key.id = false := rfl
  have named :
      ListedKey.key? ⟨key.id, Base64.encodeText key.encode, none, none, false⟩ = some key :=
    ListedKey.key?_eq_some_iff.2 ⟨PublicKey.readText_encode isKey, rfl⟩
  simp [KeyRing.apply, listing, KeyRing.applyEntry, free, named]

theorem apply_revoking (now : Moment) :
    (KeyRing.empty.put key.id ⟨key, none, false⟩).apply (revoking key) now =
      (KeyRing.empty.put key.id ⟨key, none, false⟩).erase key.id := by
  refine KeyRing.applyEntry_of_revoked now ?_ rfl
  simp [KeyRing.isPinned, KeyRing.find?_put]

def listed (key : PublicKey) : AuthorityKeys :=
  AuthorityKeys.empty.apply (listing key) (.ofSecond 0)

theorem usable_listed (isKey : Scheme.isKey key = true) (now : Moment) :
    (listed key).usable now = [key] := by
  rw [listed, AuthorityKeys.toKeyRing_apply, AuthorityKeys.toKeyRing_empty, apply_listing isKey]
  exact KeyRing.usable_put_empty _ _ _ now

theorem usable_revoked (isKey : Scheme.isKey key = true) (at_ now : Moment) :
    ((listed key).apply (revoking key) at_).usable now = [] := by
  rw [listed, AuthorityKeys.toKeyRing_apply, AuthorityKeys.toKeyRing_apply,
    AuthorityKeys.toKeyRing_empty, apply_listing isKey, apply_revoking]
  exact KeyRing.usable_erase_put_empty _ _ now

theorem cycle_after_apply {v : Vigil} {round later : Round} {m : Manifest} {now : Moment}
    (sentinel : (Cycle.mk v round).after.monitor.sentinel = some key)
    (disabled : (Cycle.mk v round).after.isDisabled = true)
    (distrusted : key ∉ (v.keys.apply m now).usable later.clock)
    (backs : DisableMonitor.Backs (Cycle.mk v round).after.monitor.domain later.records later.now
      key) :
    ∃ c ∈ v.cycles [.check round, .apply m now, .check later], key ∉ c.usable ∧
      c.before.monitor.sentinel = some key ∧ c.before.isDisabled = true ∧ c.Backs key :=
  ⟨⟨(v.step (.check round)).step (.apply m now), later⟩, .tail _ (.head _), distrusted, sentinel,
    disabled, backs⟩

end

def revocation : List Event :=
  [.check (.ofTwos 1700000000), .apply (revoking .ofTwos) (.ofSecond 1700000600),
    .check (.ofTwos 1700000600)]

def watching : Vigil :=
  start (listed .ofTwos) Config.standard.recordDomain

theorem early_revocation : Early revocation := by
  simp [Early, revocation, Round.ofTwos, DisableMessage.IsEarly, DisableMessage.longest,
    Int64.toInt_maxValue]

theorem cycle_revocation :
    ∃ c ∈ watching.cycles revocation, .ofTwos ∉ c.usable ∧
      c.before.monitor.sentinel = some .ofTwos ∧ c.before.isDisabled = true ∧ c.Backs .ofTwos := by
  have lawful := lawful_of_mem_cycles (v := watching) rfl early_revocation
  have first := (lawful _ (.head _)).1
  have sentinel := first.enters rfl (usable_listed PublicKey.isKey_ofTwos _)
    (DisableMonitor.backs_ofTwos _ 1700000000 (by decide) (by decide))
  have disabled := first.flagged.trans (by rw [sentinel, Option.isSome_some])
  refine cycle_after_apply sentinel disabled ?_ ?_
  · rw [watching, start, usable_revoked PublicKey.isKey_ofTwos]
    exact List.not_mem_nil
  · rw [first.domain]
    exact DisableMonitor.backs_ofTwos _ 1700000600 (by decide) (by decide)

theorem distrust_revocation :
    Early revocation ∧
      ∃ c ∈ watching.cycles revocation, .ofTwos ∉ c.usable ∧
        (c.after.isDisabled = true ∧ c.after.monitor.sentinel = some .ofTwos ↔
          c.before.monitor.sentinel = some .ofTwos ∧ c.Backs .ofTwos) := by
  obtain ⟨c, mem, distrusted, -⟩ := cycle_revocation
  exact ⟨early_revocation, c, mem, distrusted,
    distrust_run _ _ _ early_revocation c mem .ofTwos distrusted⟩

theorem revoked_disables :
    ∃ c ∈ watching.cycles revocation, .ofTwos ∉ c.usable ∧
      c.after.isDisabled = true ∧ c.after.monitor.sentinel = some .ofTwos := by
  obtain ⟨c, mem, distrusted, sentinel, disabled, backs⟩ := cycle_revocation
  have early := early_of_mem_cycles early_revocation c mem
  obtain ⟨-, checked⟩ | ⟨lost, -⟩ := Cycle.checked_of_some early sentinel
  · refine ⟨c, mem, distrusted, ?_⟩
    rw [Cycle.after, checked]
    exact ⟨disabled, sentinel⟩
  · exact absurd backs lost

end Warrant.Vigil
