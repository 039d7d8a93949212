import Warrant.Certificate
import Warrant.Table

/-!
The registry of certificates. Clients with one identity at one authority share an entry; the entry
goes with the last of its handles. Every handle keeps a copy of the entry's credential, which it
still answers after it has been unregistered.
-/

namespace Warrant

structure RegistryKey where
  entity : String
  kind : EntityKind
  host : String
  endpoint : String
  deriving DecidableEq

def RegistryKey.of (certificate : Certificate) (endpoint : String) : RegistryKey :=
  ⟨certificate.entity, certificate.kind, certificate.host, endpoint⟩

structure Handle where
  id : Nat
  key : RegistryKey
  deriving DecidableEq

structure Entry where
  /-- The number of the handle that created the entry. -/
  generation : Nat
  current : Credential
  handles : List Nat
  deriving DecidableEq

structure Registry where
  nextId : Nat
  entries : Table RegistryKey Entry
  /-- The copy of every handle there ever was. -/
  copies : Table Nat Credential

namespace Registry

def empty : Registry := ⟨1, ∅, ∅⟩

def find? (r : Registry) (key : RegistryKey) : Option Entry :=
  r.entries.get? key

def current? (r : Registry) (h : Handle) : Option Credential :=
  r.copies.get? h.id

def handleCount (r : Registry) (key : RegistryKey) : Nat :=
  ((r.find? key).map fun e => e.handles.length).getD 0

def contains (r : Registry) (key : RegistryKey) : Bool :=
  r.entries.contains key

def owns (r : Registry) (key : RegistryKey) (generation : Nat) : Bool :=
  (r.find? key).any fun e => e.generation == generation

def reserve (r : Registry) : Registry × Nat :=
  ({ r with nextId := r.nextId + 1 }, r.nextId)

/-- A handle that joins an entry gets the entry's credential, and its own one is dropped. -/
def join (r : Registry) (key : RegistryKey) (e : Entry) (id : Nat) : Registry :=
  { r with
    entries := r.entries.put key { e with handles := e.handles ++ [id] }
    copies := r.copies.put id e.current }

def create (r : Registry) (key : RegistryKey) (id : Nat) (credential : Credential) : Registry :=
  { r with
    entries := r.entries.put key ⟨id, credential, [id]⟩
    copies := r.copies.put id credential }

def remove (r : Registry) (h : Handle) (e : Entry) : Registry :=
  let rest := e.handles.filter (· ≠ h.id)
  { r with
    entries :=
      if rest.isEmpty then r.entries.erase h.key
      else r.entries.put h.key { e with handles := rest } }

def unregister (r : Registry) (h : Handle) : Except Error Registry :=
  match r.find? h.key with
  | some e => if h.id ∈ e.handles then .ok (r.remove h e) else .error (.registry .unregister)
  | none => .error (.registry .unregister)

def install (r : Registry) (key : RegistryKey) (e : Entry) (credential : Credential) : Registry :=
  { r with
    entries := r.entries.put key { e with current := credential }
    copies := e.handles.foldl (fun copies id => copies.put id credential) r.copies }

def revise? (r : Registry) (key : RegistryKey) (credential : Credential)
    (owns : Entry → Bool) : Option Registry :=
  match r.find? key with
  | some e => if owns e then some (r.install key e credential) else none
  | none => none

def update (r : Registry) (h : Handle) (credential : Credential) : Except Error Registry :=
  match r.revise? h.key credential fun e => e.handles.contains h.id with
  | some r => .ok r
  | none => .error (.registry .update)

/-- What a refresh has obtained for the entry that it was started for; `none` if there is another
entry by now, or none. -/
def refresh? (r : Registry) (key : RegistryKey) (generation : Nat) (credential : Credential) :
    Option Registry :=
  r.revise? key credential fun e => e.generation == generation

end Registry

end Warrant
