import Warrant.Proofs.KeyRing.CustodyLaws
import Warrant.Proofs.RoundTripLaws

namespace Warrant

section

variable [Scheme]

def ListedKey.ofKey (key : PublicKey) (expiresAt : Option Moment) : ListedKey :=
  ⟨key.id, Base64.encodeText key.encode, none, expiresAt, false⟩

theorem ListedKey.key?_ofKey {key : PublicKey} (isKey : Scheme.isKey key = true)
    (expiresAt : Option Moment) : (ofKey key expiresAt).key? = some key :=
  key?_eq_some_iff.2 ⟨PublicKey.readText_encode isKey, rfl⟩

end

namespace KeyRing

section

variable [Scheme]

/-- The manifest lists the key once, and as one that has expired. -/
structure Lapses (m : Manifest) (now : Moment) (e : ListedKey) (key : PublicKey) : Prop where
  alone : ∃ before after, m.keys = before ++ e :: after ∧ ∀ f ∈ before ++ after, f.id ≠ e.id
  kept : e.revoked = false
  named : e.key? = some key
  expired : e.expiresAt.any (·.before now) = true

variable {r : KeyRing} {m : Manifest} {now : Moment} {e : ListedKey} {key : PublicKey}

theorem Lapses.id_eq (h : Lapses m now e key) : key.id = e.id :=
  (ListedKey.key?_eq_some_iff.1 h.named).2

theorem Lapses.find?_apply (h : Lapses m now e key) (r : KeyRing) :
    (r.apply m now).find? key.id = r.find? key.id := by
  obtain ⟨before, after, listed, others⟩ := h.alone
  rw [List.forall_mem_append] at others
  rw [h.id_eq, KeyRing.apply, listed, List.foldl_append, List.foldl_cons,
    find?_foldl_applyEntry_of_ne now others.2, applyEntry_of_expired h.kept h.expired,
    find?_foldl_applyEntry_of_ne now others.1]

theorem Named.step (h : r.Named) (change : Change) : (r.step change).Named := by
  cases change with
  | pin key => exact h.put ⟨key, none, true⟩
  | apply m now => exact h.apply m now

theorem Aligned.step (h : r.Aligned) (change : Change) : (r.step change).Aligned := by
  cases change with
  | pin key => exact h.put _ _
  | apply m now => exact h.apply m now

theorem named_run (changes : List Change) : (run changes).Named :=
  List.foldlRecOn changes _ named_empty fun _ named change _ => named.step change

theorem aligned_run (changes : List Change) : (run changes).Aligned :=
  List.foldlRecOn changes _ aligned_empty fun _ aligned change _ => aligned.step change

theorem Lapses.mem_usable_iff (h : Lapses m now e key) (changes : List Change) (later : Moment) :
    key ∈ ((run changes).apply m now).usable later ↔
      ∃ k, (run changes).find? key.id = some k ∧ k.key = key ∧
        ∀ expiry ∈ k.expiresAt, expiry.before later = false := by
  rw [((named_run changes).apply m now).mem_usable_iff ((aligned_run changes).apply m now),
    h.find?_apply]

/-- A signature that no other key makes good is good while its key can be used. -/
theorem verifiesAny_iff_mem_usable {payload signature : Bytes}
    (verified : key.verifies payload signature = true)
    (only : ∀ other ∈ r.usable now, other.verifies payload signature = true → other = key) :
    r.verifiesAny now payload signature = true ↔ key ∈ r.usable now := by
  rw [verifiesAny, List.any_eq_true]
  constructor
  · rintro ⟨other, mem, good⟩
    exact only other mem good ▸ mem
  · intro mem
    exact ⟨key, mem, verified⟩

structure Outlives (r s : KeyRing) (key : PublicKey) : Prop where
  find? : s.find? key.id = r.find? key.id
  usable : ∀ later, key ∈ s.usable later ↔ ∃ k, r.find? key.id = some k ∧ k.key = key ∧
    ∀ expiry ∈ k.expiresAt, expiry.before later = false
  verifies : ∀ later payload signature, key.verifies payload signature = true →
    (∀ other ∈ s.usable later, other.verifies payload signature = true → other = key) →
    (s.verifiesAny later payload signature = true ↔ ∃ k, r.find? key.id = some k ∧ k.key = key ∧
      ∀ expiry ∈ k.expiresAt, expiry.before later = false)

theorem lapse_run (changes : List Change) (h : Lapses m now e key) :
    Outlives (run changes) ((run changes).apply m now) key where
  find? := h.find?_apply (run changes)
  usable := h.mem_usable_iff changes
  verifies later payload signature verified only := by
    rw [verifiesAny_iff_mem_usable verified only, h.mem_usable_iff changes]

/-! ### A key that a second manifest lists as expired -/

theorem lapses_ofKey (isKey : Scheme.isKey key = true) {expiry : Moment}
    (expired : expiry.before now = true) :
    Lapses ⟨[.ofKey key (some expiry)]⟩ now (.ofKey key (some expiry)) key where
  alone := ⟨[], [], rfl, nofun⟩
  kept := rfl
  named := ListedKey.key?_ofKey isKey _
  expired := expired

theorem run_listing (isKey : Scheme.isKey key = true) :
    run [.apply ⟨[.ofKey key none]⟩ now] = empty.put key.id ⟨key, none, false⟩ := by
  have named := ListedKey.key?_ofKey isKey none
  have put : empty.applyEntry now (.ofKey key none) = empty.put key.id ⟨key, none, false⟩ :=
    applyEntry_of_named rfl rfl rfl named
  simp only [run, List.foldl_cons, List.foldl_nil, step, KeyRing.apply, put]

end

def listing : List Change :=
  [.apply ⟨[.ofKey .ofTwos none]⟩ (.ofSecond 0)]

def lapsed : ListedKey :=
  .ofKey .ofTwos (some (.ofSecond 1699996400))

theorem lapses_lapsed : Lapses ⟨[lapsed]⟩ (.ofSecond 1700000000) lapsed .ofTwos :=
  lapses_ofKey PublicKey.isKey_ofTwos (by decide)

theorem lapse_listing :
    Lapses ⟨[lapsed]⟩ (.ofSecond 1700000000) lapsed .ofTwos ∧
      Outlives (run listing) ((run listing).apply ⟨[lapsed]⟩ (.ofSecond 1700000000)) .ofTwos :=
  ⟨lapses_lapsed, lapse_run listing lapses_lapsed⟩

theorem lapsed_usable :
    Lapses ⟨[lapsed]⟩ (.ofSecond 1700000000) lapsed .ofTwos ∧
      (run listing).isPinned lapsed.id = false ∧
      .ofTwos ∈ ((run listing).apply ⟨[lapsed]⟩ (.ofSecond 1700000000)).usable
        (.ofSecond 1700000000) := by
  have held : (run listing).find? PublicKey.ofTwos.id = some ⟨.ofTwos, none, false⟩ := by
    rw [listing, run_listing PublicKey.isKey_ofTwos, find?_put, if_pos rfl]
  refine ⟨lapses_lapsed, ?_, (lapses_lapsed.mem_usable_iff listing _).2 ⟨_, held, rfl, nofun⟩⟩
  rw [isPinned, ← lapses_lapsed.id_eq, held]
  rfl

end KeyRing

end Warrant
