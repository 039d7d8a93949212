import Warrant.Proofs.KeyRingLaws

namespace Warrant.KeyRing

/-- Each of the keys is told apart from the others by its id. -/
def Apart [Scheme] (keys : List PublicKey) : Prop :=
  ∀ k ∈ keys, ∀ l ∈ keys, k.id = l.id → k = l

inductive Change
  | pin (key : PublicKey)
  | apply (manifest : Manifest) (now : Moment)

def Change.pinned? : Change → Option PublicKey
  | .pin key => some key
  | .apply _ _ => none

def pins (changes : List Change) : List PublicKey :=
  changes.filterMap Change.pinned?

@[simp] theorem pins_append (before after : List Change) :
    pins (before ++ after) = pins before ++ pins after :=
  List.filterMap_append

@[simp] theorem pins_apply (m : Manifest) (now : Moment) : pins [.apply m now] = [] := rfl

theorem mem_pins {changes : List Change} {key : PublicKey} :
    key ∈ pins changes ↔ .pin key ∈ changes := by
  simp only [pins, List.mem_filterMap]
  constructor
  · rintro ⟨change, mem, pinned⟩
    cases change with
    | pin other =>
      cases pinned
      exact mem
    | apply m now => cases pinned
  · intro mem
    exact ⟨_, mem, rfl⟩

structure Sound [Scheme] (pinned : List PublicKey) (r : KeyRing) : Prop where
  aligned : r.Aligned
  named : ∀ id k, r.find? id = some k → k.key.id = id
  pinned_mem : ∀ id k, r.find? id = some k → k.pinned = true → k.key ∈ pinned ∧ k.expiresAt = none
  held : ∀ key ∈ pinned, r.find? key.id = some ⟨key, none, true⟩

/-- The pinned keys of one ring stand in the other one as they are, in the same order. -/
structure Keeps (r s : KeyRing) : Prop where
  find? : ∀ id, r.isPinned id = true → s.find? id = r.find? id
  order : s.order.filter r.isPinned = r.order.filter r.isPinned

theorem Keeps.refl (r : KeyRing) : Keeps r r :=
  ⟨fun _ _ => rfl, rfl⟩

theorem Keeps.isPinned {r s : KeyRing} (h : Keeps r s) {id : String}
    (pinned : r.isPinned id = true) : s.isPinned id = true := by
  rwa [KeyRing.isPinned, h.find? id pinned]

theorem Keeps.trans {r s t : KeyRing} (h : Keeps r s) (g : Keeps s t) : Keeps r t where
  find? id pinned := (g.find? id (h.isPinned pinned)).trans (h.find? id pinned)
  order := by
    -- What is pinned first is pinned in between as well.
    have narrow (order : List String) :
        (order.filter s.isPinned).filter r.isPinned = order.filter r.isPinned := by
      rw [List.filter_filter]
      refine List.filter_congr fun id _ => ?_
      cases pinned : r.isPinned id with
      | true => simp [h.isPinned pinned]
      | false => rfl
    rw [← narrow t.order, g.order, narrow s.order, h.order]

section

variable [Scheme] {r : KeyRing} {pinned : List PublicKey}

def step (r : KeyRing) : Change → KeyRing
  | .pin key => r.pin key
  | .apply m now => r.apply m now

def run (changes : List Change) : KeyRing :=
  changes.foldl step empty

theorem run_append (before after : List Change) :
    run (before ++ after) = after.foldl step (run before) :=
  List.foldl_append

theorem sound_empty : empty.Sound [] where
  aligned := aligned_empty
  named _ _ found := nomatch found
  pinned_mem _ _ found := nomatch found
  held _ mem := nomatch mem

/-! ### Pins -/

theorem Sound.pin (h : r.Sound pinned) {key : PublicKey} (apart : Apart (pinned ++ [key])) :
    (r.pin key).Sound (pinned ++ [key]) where
  aligned := h.aligned.put _ _
  named := Named.put h.named ⟨key, none, true⟩
  pinned_mem id k found marked := by
    rw [KeyRing.pin, find?_put] at found
    split at found
    · cases found
      exact ⟨by simp, rfl⟩
    · obtain ⟨mem, unlimited⟩ := h.pinned_mem id k found marked
      exact ⟨List.mem_append_left _ mem, unlimited⟩
  held other mem := by
    rw [KeyRing.pin, find?_put]
    split
    · next same => rw [apart other mem key (by simp) same]
    · next differs =>
      refine h.held other ((List.mem_append.1 mem).resolve_right fun last => ?_)
      exact differs (List.mem_singleton.1 last ▸ rfl)

theorem Sound.pin_eq (h : r.Sound pinned) {key : PublicKey} (apart : Apart (pinned ++ [key]))
    (there : r.isPinned key.id = true) : r.find? key.id = some ⟨key, none, true⟩ := by
  obtain ⟨k, found, marked⟩ := isPinned_iff.1 there
  have same := h.named _ _ found
  obtain ⟨mem, -⟩ := h.pinned_mem _ _ found marked
  have equal := apart k.key (List.mem_append_left _ mem) key (by simp) same
  rw [← equal]
  exact h.held k.key mem

theorem Sound.keeps_pin (h : r.Sound pinned) {key : PublicKey} (apart : Apart (pinned ++ [key])) :
    Keeps r (r.pin key) where
  find? id there := by
    rw [KeyRing.pin, find?_put]
    split
    · next same =>
      subst same
      exact (h.pin_eq apart there).symm
    · rfl
  order := by
    cases there : r.isPinned key.id with
    | false => exact filter_order_put there _
    | true =>
      have known := mem_keys_iff.2 ⟨_, h.pin_eq apart there⟩
      rw [KeyRing.pin, order_put, if_pos known]

/-! ### Manifests -/

theorem Sound.free (h : r.Sound pinned) {key : PublicKey} {id : String} (mem : key ∈ pinned)
    (free : r.isPinned id = false) : key.id ≠ id := by
  rintro rfl
  have there : r.isPinned key.id = true := isPinned_iff.2 ⟨_, h.held key mem, rfl⟩
  simp [free] at there

theorem Sound.erase (h : r.Sound pinned) {id : String} (free : r.isPinned id = false) :
    (r.erase id).Sound pinned where
  aligned := h.aligned.erase id
  named := Named.erase h.named id
  pinned_mem other k found marked := by
    rw [find?_erase, Option.ite_none_left_eq_some] at found
    exact h.pinned_mem other k found.2 marked
  held key mem := by
    rw [find?_erase, if_neg (h.free mem free)]
    exact h.held key mem

theorem Sound.put (h : r.Sound pinned) {key : PublicKey} (free : r.isPinned key.id = false)
    (expiry : Option Moment) : (r.put key.id ⟨key, expiry, false⟩).Sound pinned where
  aligned := h.aligned.put _ _
  named := Named.put h.named ⟨key, expiry, false⟩
  pinned_mem id k found marked := by
    rw [find?_put] at found
    split at found
    · cases found
      contradiction
    · exact h.pinned_mem id k found marked
  held other mem := by
    rw [find?_put, if_neg (h.free mem free)]
    exact h.held other mem

theorem Sound.applyEntry (h : r.Sound pinned) (now : Moment) (e : ListedKey) :
    (r.applyEntry now e).Sound pinned := by
  obtain same | ⟨gone, free, -⟩ | ⟨key, put, free, -, -, named⟩ := r.applyEntry_cases now e
  · rwa [same]
  · rw [gone]
    exact h.erase free
  · obtain ⟨-, same⟩ := ListedKey.key?_eq_some_iff.1 named
    rw [put, ← same]
    exact h.put (same ▸ free) e.expiresAt

theorem keeps_applyEntry (r : KeyRing) (now : Moment) (e : ListedKey) :
    Keeps r (r.applyEntry now e) where
  find? id there := by
    by_cases own : id = e.id
    · subst own
      rw [KeyRing.applyEntry, if_pos there]
    · exact find?_applyEntry_of_ne now own
  order := filter_order_applyEntry now id

theorem Sound.apply (h : r.Sound pinned) (m : Manifest) (now : Moment) :
    (r.apply m now).Sound pinned :=
  List.foldlRecOn m.keys _ h fun _ sound e _ => sound.applyEntry now e

theorem keeps_apply (r : KeyRing) (m : Manifest) (now : Moment) : Keeps r (r.apply m now) :=
  List.foldlRecOn m.keys _ (Keeps.refl r) fun s keeps e _ => keeps.trans (keeps_applyEntry s now e)

theorem find?_apply_of_revoked (r : KeyRing) (now : Moment) {m : Manifest} {e : ListedKey}
    {before after : List ListedKey} (listed : m.keys = before ++ e :: after)
    (last : ∀ f ∈ after, f.id ≠ e.id) (revoked : e.revoked = true)
    (free : r.isPinned e.id = false) : (r.apply m now).find? e.id = none := by
  -- A manifest pins nothing, so the key is as free when its last entry comes.
  have still : (before.foldl (KeyRing.applyEntry now) r).isPinned e.id = false :=
    List.foldlRecOn (motive := fun s : KeyRing => s.isPinned e.id = false) before _ free
      fun s free f _ => (isPinned_applyEntry s now f e.id).trans free
  rw [KeyRing.apply, listed, List.foldl_append, List.foldl_cons,
    find?_foldl_applyEntry_of_ne now last, applyEntry_of_revoked now still revoked, find?_erase,
    if_pos rfl]

/-! ### Runs -/

theorem Sound.step (h : r.Sound pinned) {change : Change}
    (apart : Apart (pinned ++ pins [change])) :
    (r.step change).Sound (pinned ++ pins [change]) := by
  cases change with
  | pin key => exact h.pin apart
  | apply m now =>
    rw [pins_apply, List.append_nil]
    exact h.apply m now

theorem Sound.keeps_step (h : r.Sound pinned) {change : Change}
    (apart : Apart (pinned ++ pins [change])) : Keeps r (r.step change) := by
  cases change with
  | pin key => exact h.keeps_pin apart
  | apply m now => exact keeps_apply r m now

theorem Apart.mono {keys more : List PublicKey} (h : Apart more) (sub : keys ⊆ more) : Apart keys :=
  fun k hk l hl => h k (sub hk) l (sub hl)

theorem Sound.foldl (h : r.Sound pinned) (changes : List Change)
    (apart : Apart (pinned ++ pins changes)) :
    (changes.foldl KeyRing.step r).Sound (pinned ++ pins changes) ∧
      Keeps r (changes.foldl KeyRing.step r) := by
  induction changes generalizing r pinned with
  | nil => exact ⟨by simpa [pins] using h, .refl r⟩
  | cons change rest ih =>
    have split : pins (change :: rest) = pins [change] ++ pins rest := pins_append [change] rest
    rw [split, ← List.append_assoc] at apart ⊢
    have first := apart.mono (List.subset_append_left _ _)
    obtain ⟨sound, keeps⟩ := ih (h.step first) apart
    exact ⟨sound, (h.keeps_step first).trans keeps⟩

theorem apart_pair {k l : PublicKey} (h : k.id ≠ l.id) : Apart [k, l] := by
  simp only [Apart, List.mem_cons, List.not_mem_nil, or_false]
  rintro a (rfl | rfl) b (rfl | rfl) same
  · rfl
  · exact absurd same h
  · exact absurd same.symm h
  · rfl

theorem sound_run (changes : List Change) (apart : Apart (pins changes)) :
    (run changes).Sound (pins changes) :=
  (sound_empty.foldl changes apart).1

theorem keeps_run (before after : List Change) (apart : Apart (pins (before ++ after))) :
    Keeps (run before) (run (before ++ after)) := by
  rw [run_append]
  rw [pins_append] at apart
  exact ((sound_run before (apart.mono (List.subset_append_left _ _))).foldl after apart).2

theorem Sound.nodup_usable (h : r.Sound pinned) (now : Moment) : (r.usable now).Nodup := by
  rw [usable, List.filter_filterMap, List.map_filterMap]
  refine List.Nodup.filterMap (fun id other key mem mem' => ?_) h.aligned.distinct
  have named : ∀ id, key ∈ ((r.find? id).filter fun k => k.isUsable now).map TrustedKey.key →
      key.id = id := by
    intro id mem
    obtain ⟨k, found, rfl⟩ := Option.map_eq_some_iff.1 mem
    exact h.named id k (Option.filter_eq_some_iff.1 found).1
  exact (named id mem).symm.trans (named other mem')

theorem Aligned.verifiesAny_iff (h : r.Aligned) {now : Moment} {payload signature : Bytes} :
    r.verifiesAny now payload signature = true ↔ ∃ id k, r.find? id = some k ∧
      (∀ expiry ∈ k.expiresAt, expiry.before now = false) ∧
      k.key.verifies payload signature = true := by
  simp only [verifiesAny, List.any_eq_true, h.mem_usable_iff]
  constructor
  · rintro ⟨key, ⟨id, k, found, usable, rfl⟩, verified⟩
    exact ⟨id, k, found, usable, verified⟩
  · rintro ⟨id, k, found, usable, verified⟩
    exact ⟨k.key, ⟨id, k, found, usable, rfl⟩, verified⟩

/-- What is known of the keys after some changes. -/
structure Custody (changes : List Change) : Prop where
  distinct : (run changes).order.Nodup
  listed : ∀ id, id ∈ (run changes).order ↔ ∃ k, (run changes).find? id = some k
  named : ∀ id k, (run changes).find? id = some k → k.key.id = id
  pinned : ∀ key, .pin key ∈ changes → (run changes).find? key.id = some ⟨key, none, true⟩
  placed : ∀ before after, changes = before ++ after →
    (run changes).order.filter (run before).isPinned =
      (run before).order.filter (run before).isPinned
  separate : ∀ (s : KeyRing) now e,
    (∀ id, id ≠ e.id → (s.applyEntry now e).find? id = s.find? id) ∧
    (s.applyEntry now e).order.filter (· ≠ e.id) = s.order.filter (· ≠ e.id)
  passed : ∀ (s : KeyRing) now e, e.revoked = false →
    (∀ key, PublicKey.readText e.encoded = .ok key → key.id ≠ e.id) → s.applyEntry now e = s
  revoked : ∀ (m : Manifest) now before e after, m.keys = before ++ e :: after →
    (∀ f ∈ after, f.id ≠ e.id) → e.revoked = true → (run changes).isPinned e.id = false →
    ((run changes).apply m now).find? e.id = none ∧ e.id ∉ ((run changes).apply m now).order
  usable : ∀ now, ((run changes).usable now).Nodup
  verifies : ∀ now payload signature, (run changes).verifiesAny now payload signature = true ↔
    ∃ id k, (run changes).find? id = some k ∧
      (∀ expiry ∈ k.expiresAt, expiry.before now = false) ∧
      k.key.verifies payload signature = true

theorem custody_run (changes : List Change) (apart : Apart (pins changes)) : Custody changes where
  distinct := (sound_run changes apart).aligned.distinct
  listed _ := (sound_run changes apart).aligned.mem_order_iff
  named := (sound_run changes apart).named
  pinned key mem := (sound_run changes apart).held key (mem_pins.2 mem)
  placed before after split := by
    subst split
    exact (keeps_run before after apart).order
  separate s now e := by
    refine ⟨fun id other => find?_applyEntry_of_ne now other, ?_⟩
    exact filter_order_applyEntry now fun _ => by simp
  passed _ now _ kept unnamed := applyEntry_of_unnamed now kept unnamed
  revoked m now before e after entries last gone free := by
    have absent := find?_apply_of_revoked (run changes) now entries last gone free
    refine ⟨absent, fun there => ?_⟩
    obtain ⟨k, found⟩ := ((sound_run changes apart).aligned.apply m now).mem_order_iff.1 there
    simp [absent] at found
  usable := (sound_run changes apart).nodup_usable
  verifies _ _ _ := (sound_run changes apart).aligned.verifiesAny_iff

end

def rotation : List Change :=
  [.pin .ofOnes, .apply ⟨[⟨PublicKey.ofOnes.id, "", none, none, true⟩]⟩ (.ofSecond 0), .pin .ofTwos]

theorem custody_rotation :
    Apart (pins rotation) ∧ Custody rotation ∧
      (run rotation).find? PublicKey.ofOnes.id = some ⟨.ofOnes, none, true⟩ := by
  have apart : Apart (pins rotation) := apart_pair PublicKey.id_ofOnes_ne
  have custody := custody_run rotation apart
  exact ⟨apart, custody, custody.pinned .ofOnes List.mem_cons_self⟩

end Warrant.KeyRing
