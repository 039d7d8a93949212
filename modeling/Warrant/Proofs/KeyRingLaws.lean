import Warrant.AuthorityKeys
import Warrant.Ed25519
import Mathlib.Data.List.Nodup

namespace Warrant

theorem Table.mem_values_iff {κ α : Type} [DecidableEq κ] {t : Table κ α}
    (distinct : t.keys.Nodup) {a : α} : a ∈ t.values ↔ ∃ k, t.get? k = some a := by
  constructor
  · intro mem
    obtain ⟨e, there, rfl⟩ := List.mem_map.1 mem
    exact ⟨e.1, get?_of_mem distinct there⟩
  · rintro ⟨k, found⟩
    exact List.mem_map.2 ⟨(k, a), mem_of_get? found, rfl⟩

theorem TrustedKey.isUsable_iff {k : TrustedKey} {now : Moment} :
    k.isUsable now = true ↔ ∀ expiry ∈ k.expiresAt, expiry.before now = false := by
  cases h : k.expiresAt <;> simp [isUsable, h]

namespace PublicKey

/-- The key of the seed in which every byte is one. -/
def ofOnes : PublicKey where
  bytes := Bytes.ofNatLittleEndian 32
    0x5C6F0FB4018874F31B12941DBF0967CA725DBA3C2DDB52FD95F10974DDE3888A
  length_bytes := Bytes.length_ofNatLittleEndian 32 _

/-- The key of the seed in which every byte is two. -/
def ofTwos : PublicKey where
  bytes := Bytes.ofNatLittleEndian 32
    0x94B3C98F5B0FF65DA237EEB4918A8DCBCC7E4CC36654A3565F177DA80E773981
  length_bytes := Bytes.length_ofNatLittleEndian 32 _

theorem isKey_ofTwos : Scheme.isKey ofTwos = true := by decide +kernel

theorem id_ofOnes_ne : ofOnes.id ≠ ofTwos.id := by decide +kernel

end PublicKey

theorem ListedKey.key?_eq_some_iff [Scheme] {e : ListedKey} {key : PublicKey} :
    e.key? = some key ↔ PublicKey.readText e.encoded = .ok key ∧ key.id = e.id := by
  cases read : PublicKey.readText e.encoded with
  | error cause => simp [key?, read]
  | ok found =>
    simp only [key?, read, Option.ite_none_right_eq_some, Option.some.injEq, Except.ok.injEq]
    constructor
    · rintro ⟨same, rfl⟩
      exact ⟨rfl, same⟩
    · rintro ⟨rfl, same⟩
      exact ⟨same, rfl⟩

namespace KeyRing

variable {r : KeyRing} {id : String}

@[grind =] theorem find?_put (r : KeyRing) (id other : String) (k : TrustedKey) :
    (r.put id k).find? other = if other = id then some k else r.find? other :=
  Table.get?_put r.table id other k

@[grind =] theorem find?_erase (r : KeyRing) (id other : String) :
    (r.erase id).find? other = if other = id then none else r.find? other :=
  Table.get?_erase r.table id other

theorem isPinned_iff : r.isPinned id = true ↔ ∃ k, r.find? id = some k ∧ k.pinned = true := by
  rw [isPinned, Option.any_eq_true]

theorem mem_keys_iff : id ∈ r.table.keys ↔ ∃ k, r.find? id = some k :=
  Table.mem_keys_iff

theorem usable_put_empty (id : String) (key : PublicKey) (pinned : Bool) (now : Moment) :
    (empty.put id ⟨key, none, pinned⟩).usable now = [key] := by
  have order : (empty.put id ⟨key, none, pinned⟩).order = [id] := rfl
  simp [usable, order, find?_put, TrustedKey.isUsable]

theorem usable_erase_put_empty (id : String) (k : TrustedKey) (now : Moment) :
    ((empty.put id k).erase id).usable now = [] := by
  have order : (empty.put id k).order = [id] := rfl
  have gone : ((empty.put id k).erase id).order = [] := by simp [erase, order]
  simp [usable, gone]

def Named [Scheme] (r : KeyRing) : Prop :=
  ∀ id k, r.find? id = some k → k.key.id = id

theorem filter_order_put {p : String → Bool} (out : p id = false) (k : TrustedKey) :
    (r.put id k).order.filter p = r.order.filter p := by
  rw [order_put]
  split
  · rfl
  · simp [List.filter_append, out]

theorem filter_order_erase {p : String → Bool} (out : p id = false) :
    (r.erase id).order.filter p = r.order.filter p := by
  rw [erase, List.filter_filter]
  refine List.filter_congr fun other _ => ?_
  by_cases same : other = id <;> simp [same, out]

namespace Aligned

theorem mem_order_iff (h : r.Aligned) : id ∈ r.order ↔ ∃ k, r.find? id = some k :=
  h.perm.mem_iff.trans mem_keys_iff

theorem mem_usable_iff (h : r.Aligned) {now : Moment} {key : PublicKey} :
    key ∈ r.usable now ↔ ∃ id k, r.find? id = some k ∧
      (∀ expiry ∈ k.expiresAt, expiry.before now = false) ∧ k.key = key := by
  simp only [usable, List.mem_map, List.mem_filter, List.mem_filterMap, TrustedKey.isUsable_iff]
  constructor
  · rintro ⟨k, ⟨⟨id, -, found⟩, usable⟩, same⟩
    exact ⟨id, k, found, usable, same⟩
  · rintro ⟨id, k, found, usable, same⟩
    exact ⟨k, ⟨⟨id, h.mem_order_iff.2 ⟨k, found⟩, found⟩, usable⟩, same⟩

theorem mem_values_iff (h : r.Aligned) {k : TrustedKey} :
    k ∈ r.table.values ↔ ∃ id, r.find? id = some k :=
  Table.mem_values_iff (h.perm.nodup_iff.1 h.distinct)

end Aligned

variable [Scheme]

theorem named_empty : empty.Named := nofun

namespace Named

theorem put (h : r.Named) (k : TrustedKey) : (r.put k.key.id k).Named := by
  intro id l found
  rw [find?_put] at found
  split at found
  · next same =>
    cases found
    exact same.symm
  · exact h id l found

theorem erase (h : r.Named) (id : String) : (r.erase id).Named := by
  intro other k found
  rw [find?_erase, Option.ite_none_left_eq_some] at found
  exact h other k found.2

theorem mem_usable_iff (h : r.Named) (aligned : r.Aligned) {now : Moment} {key : PublicKey} :
    key ∈ r.usable now ↔ ∃ k, r.find? key.id = some k ∧ k.key = key ∧
      ∀ expiry ∈ k.expiresAt, expiry.before now = false := by
  rw [aligned.mem_usable_iff]
  constructor
  · rintro ⟨id, k, found, usable, rfl⟩
    exact ⟨k, h id k found ▸ found, rfl, usable⟩
  · rintro ⟨k, found, same, usable⟩
    exact ⟨key.id, k, found, usable, same⟩

end Named

theorem applyEntry_cases (now : Moment) (r : KeyRing) (e : ListedKey) :
    r.applyEntry now e = r ∨
    r.applyEntry now e = r.erase e.id ∧ r.isPinned e.id = false ∧ e.revoked = true ∨
    ∃ key, r.applyEntry now e = r.put e.id ⟨key, e.expiresAt, false⟩ ∧
      r.isPinned e.id = false ∧ e.revoked = false ∧ e.expiresAt.any (·.before now) = false ∧
      e.key? = some key := by
  unfold applyEntry
  cases pinned : r.isPinned e.id with
  | true => exact .inl rfl
  | false =>
    cases revoked : e.revoked with
    | true => exact .inr (.inl ⟨rfl, rfl, rfl⟩)
    | false =>
      cases late : e.expiresAt.any (·.before now) with
      | true => exact .inl rfl
      | false =>
        cases named : e.key? with
        | none => exact .inl rfl
        | some key => exact .inr (.inr ⟨key, rfl, rfl, rfl, rfl, rfl⟩)

theorem Named.applyEntry (h : r.Named) (now : Moment) (e : ListedKey) :
    (r.applyEntry now e).Named := by
  obtain same | ⟨gone, -⟩ | ⟨key, put, -, -, -, named⟩ := r.applyEntry_cases now e
  · rwa [same]
  · rw [gone]
    exact h.erase e.id
  · obtain ⟨-, same⟩ := ListedKey.key?_eq_some_iff.1 named
    rw [put, ← same]
    exact h.put ⟨key, e.expiresAt, false⟩

theorem Named.apply (h : r.Named) (m : Manifest) (now : Moment) : (r.apply m now).Named :=
  List.foldlRecOn m.keys _ h fun _ named e _ => named.applyEntry now e

theorem applyEntry_of_revoked {e : ListedKey} (now : Moment) (free : r.isPinned e.id = false)
    (revoked : e.revoked = true) : r.applyEntry now e = r.erase e.id := by
  simp [applyEntry, free, revoked]

theorem applyEntry_of_named {now : Moment} {e : ListedKey} {key : PublicKey}
    (free : r.isPinned e.id = false) (kept : e.revoked = false)
    (lasts : e.expiresAt.any (·.before now) = false) (named : e.key? = some key) :
    r.applyEntry now e = r.put e.id ⟨key, e.expiresAt, false⟩ := by
  simp [applyEntry, free, kept, lasts, named]

theorem applyEntry_of_unnamed {e : ListedKey} (now : Moment) (kept : e.revoked = false)
    (unnamed : ∀ key, PublicKey.readText e.encoded = .ok key → key.id ≠ e.id) :
    r.applyEntry now e = r := by
  obtain same | ⟨-, -, revoked⟩ | ⟨key, -, -, -, -, named⟩ := r.applyEntry_cases now e
  · exact same
  · rw [kept] at revoked
    contradiction
  · obtain ⟨read, same⟩ := ListedKey.key?_eq_some_iff.1 named
    exact absurd same (unnamed key read)

theorem applyEntry_of_expired {now : Moment} {e : ListedKey} (kept : e.revoked = false)
    (expired : e.expiresAt.any (·.before now) = true) : r.applyEntry now e = r := by
  obtain same | ⟨-, -, revoked⟩ | ⟨key, -, -, -, lasts, -⟩ := r.applyEntry_cases now e
  · exact same
  · rw [kept] at revoked
    contradiction
  · rw [expired] at lasts
    contradiction

theorem find?_applyEntry_of_ne {e : ListedKey} (now : Moment) (other : id ≠ e.id) :
    (r.applyEntry now e).find? id = r.find? id := by
  obtain same | ⟨gone, -⟩ | ⟨key, put, -⟩ := r.applyEntry_cases now e
  · rw [same]
  · rw [gone, find?_erase, if_neg other]
  · rw [put, find?_put, if_neg other]

theorem find?_foldl_applyEntry_of_ne (now : Moment) {entries : List ListedKey}
    (others : ∀ e ∈ entries, e.id ≠ id) :
    (entries.foldl (applyEntry now) r).find? id = r.find? id := by
  induction entries generalizing r with
  | nil => rfl
  | cons e rest ih =>
    rw [List.forall_mem_cons] at others
    rw [List.foldl_cons, ih others.2, find?_applyEntry_of_ne now others.1.symm]

theorem isPinned_applyEntry (r : KeyRing) (now : Moment) (e : ListedKey) (id : String) :
    (r.applyEntry now e).isPinned id = r.isPinned id := by
  obtain same | ⟨gone, free, -⟩ | ⟨key, put, free, -⟩ := r.applyEntry_cases now e
  · rw [same]
  · rw [gone, isPinned, find?_erase]
    split
    · next own => rw [own, free]; rfl
    · rfl
  · rw [put, isPinned, find?_put]
    split
    · next own => rw [own, free]; rfl
    · rfl

theorem filter_order_applyEntry {p : String → Bool} {e : ListedKey} (now : Moment)
    (out : r.isPinned e.id = false → p e.id = false) :
    (r.applyEntry now e).order.filter p = r.order.filter p := by
  obtain same | ⟨gone, free, -⟩ | ⟨key, put, free, -⟩ := r.applyEntry_cases now e
  · rw [same]
  · rw [gone, filter_order_erase (out free)]
  · rw [put, filter_order_put (out free)]

end KeyRing

namespace AuthorityKeys

@[simp] theorem toKeyRing_empty : empty.toKeyRing = .empty := rfl

@[simp] theorem toKeyRing_apply [Scheme] (ks : AuthorityKeys) (m : Manifest) (now : Moment) :
    (ks.apply m now).toKeyRing = ks.toKeyRing.apply m now := rfl

end AuthorityKeys

end Warrant
