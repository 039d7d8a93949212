import Warrant.Key.Encoding
import Warrant.Record
import Warrant.Moment
import Warrant.Table

namespace Warrant

structure ListedKey where
  id : String
  encoded : String
  description : Option String
  expiresAt : Option Moment
  revoked : Bool
  deriving DecidableEq

namespace ListedKey

def moment? (j : Json) : Option Moment :=
  j.text?.bind Moment.ofString?

def ofJson? (j : Json) : Option ListedKey := do
  match ← j.record? ["key_id", "public_key", "description", "expires_at", "revoked"] with
  | [id, encoded, description, expiresAt, revoked] =>
    return {
      id := ← Json.field Json.text? id
      encoded := ← Json.field Json.text? encoded
      description := ← Json.fieldOr none (Json.option? Json.text?) description
      expiresAt := ← Json.fieldOr none (Json.option? moment?) expiresAt
      revoked := ← Json.fieldOr false Json.bool? revoked }
  | _ => none

variable [Scheme]

def unlimited (key : PublicKey) : Json :=
  .object
    [Json.member "key_id" (.ofText key.id), Json.member "public_key" (.ofBytes key.encode),
      Json.member "description" .null, Json.member "expires_at" .null,
      Json.member "revoked" (.bool false)]

def key? (e : ListedKey) : Option PublicKey :=
  match PublicKey.readText e.encoded with
  | .ok key => if key.id = e.id then some key else none
  | .error _ => none

end ListedKey

structure Manifest where
  keys : List ListedKey

def Manifest.ofJson? (j : Json) : Option Manifest := do
  match ← j.record? ["keys"] with
  | [keys] => return { keys := ← Json.fieldOr [] (Json.list? ListedKey.ofJson?) keys }
  | _ => none

structure TrustedKey where
  key : PublicKey
  expiresAt : Option Moment
  pinned : Bool
  deriving DecidableEq

def TrustedKey.isUsable (k : TrustedKey) (now : Moment) : Bool :=
  match k.expiresAt with
  | some expiry => !expiry.before now
  | none => true

/-- Keys by their ids, and beside them the ids in the order in which the keys came. -/
structure KeyRing where
  order : List String
  table : Table String TrustedKey

namespace KeyRing

def empty : KeyRing := ⟨[], ∅⟩

def find? (r : KeyRing) (id : String) : Option TrustedKey :=
  r.table.get? id

def isPinned (r : KeyRing) (id : String) : Bool :=
  (r.find? id).any TrustedKey.pinned

def ids (r : KeyRing) : List String :=
  r.order

def isEmpty (r : KeyRing) : Bool :=
  r.table.keys.isEmpty

def usable (r : KeyRing) (now : Moment) : List PublicKey :=
  ((r.order.filterMap r.find?).filter fun k => k.isUsable now).map TrustedKey.key

def put (r : KeyRing) (id : String) (k : TrustedKey) : KeyRing where
  order := if r.table.contains id then r.order else r.order ++ [id]
  table := r.table.put id k

def erase (r : KeyRing) (id : String) : KeyRing where
  order := r.order.filter (· ≠ id)
  table := r.table.erase id

structure Aligned (r : KeyRing) : Prop where
  distinct : r.order.Nodup
  perm : r.order.Perm r.table.keys

theorem aligned_empty : empty.Aligned :=
  ⟨.nil, .nil⟩

theorem order_put (r : KeyRing) (id : String) (k : TrustedKey) :
    (r.put id k).order = if id ∈ r.table.keys then r.order else r.order ++ [id] := by
  simp only [put, Table.contains_iff]

theorem keys_put (r : KeyRing) (id : String) (k : TrustedKey) :
    (r.put id k).table.keys =
      if id ∈ r.table.keys then r.table.keys else r.table.keys ++ [id] :=
  Table.keys_put r.table id k

theorem Aligned.put {r : KeyRing} (h : r.Aligned) (id : String) (k : TrustedKey) :
    (r.put id k).Aligned := by
  by_cases there : id ∈ r.table.keys
  · refine ⟨?_, ?_⟩
    · rw [order_put, if_pos there]
      exact h.distinct
    · rw [order_put, keys_put, if_pos there, if_pos there]
      exact h.perm
  · have fresh : id ∉ r.order := fun listed => there (h.perm.mem_iff.1 listed)
    refine ⟨?_, ?_⟩
    · rw [order_put, if_neg there, List.nodup_append]
      refine ⟨h.distinct, by simp, ?_⟩
      rintro a listed b new rfl
      exact fresh (List.mem_singleton.1 new ▸ listed)
    · rw [order_put, keys_put, if_neg there, if_neg there]
      exact h.perm.append_right [id]

theorem Aligned.erase {r : KeyRing} (h : r.Aligned) (id : String) : (r.erase id).Aligned where
  distinct := h.distinct.filter _
  perm := by
    rw [KeyRing.erase, Table.keys_erase]
    exact h.perm.filter _

variable [Scheme]

def pin (r : KeyRing) (key : PublicKey) : KeyRing :=
  r.put key.id ⟨key, none, true⟩

/-- A manifest never touches a pinned key. A revoked key goes; one that has expired, or whose id is
not that of its key, is passed over. -/
def applyEntry (now : Moment) (r : KeyRing) (e : ListedKey) : KeyRing :=
  if r.isPinned e.id then r
  else if e.revoked then r.erase e.id
  else if e.expiresAt.any (·.before now) then r
  else
    match e.key? with
    | some key => r.put e.id ⟨key, e.expiresAt, false⟩
    | none => r

def apply (r : KeyRing) (m : Manifest) (now : Moment) : KeyRing :=
  m.keys.foldl (applyEntry now) r

def verifiesAny (r : KeyRing) (now : Moment) (payload signature : Bytes) : Bool :=
  (r.usable now).any fun key => key.verifies payload signature

theorem Aligned.applyEntry {r : KeyRing} (h : r.Aligned) (now : Moment) (e : ListedKey) :
    (r.applyEntry now e).Aligned := by
  unfold KeyRing.applyEntry
  split
  · exact h
  split
  · exact h.erase e.id
  split
  · exact h
  split
  · exact h.put e.id _
  · exact h

theorem Aligned.apply {r : KeyRing} (h : r.Aligned) (m : Manifest) (now : Moment) :
    (r.apply m now).Aligned :=
  List.foldlRecOn m.keys _ h fun _ aligned e _ => aligned.applyEntry now e

end KeyRing

structure AuthorityKeys extends KeyRing where
  aligned : toKeyRing.Aligned

namespace AuthorityKeys

def empty : AuthorityKeys := ⟨.empty, KeyRing.aligned_empty⟩

variable [Scheme]

def pin (ks : AuthorityKeys) (key : PublicKey) : AuthorityKeys :=
  ⟨ks.toKeyRing.pin key, ks.aligned.put _ _⟩

def pinned (keys : List PublicKey) : AuthorityKeys :=
  keys.foldl pin empty

def apply (ks : AuthorityKeys) (m : Manifest) (now : Moment) : AuthorityKeys :=
  ⟨ks.toKeyRing.apply m now, ks.aligned.apply m now⟩

end AuthorityKeys

end Warrant
