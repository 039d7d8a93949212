import Warrant.Bytes

/-!
Keys, and the scheme that signatures and digests are taken from. Everything above this module holds
for any scheme; `Warrant.standard` is the one that is used.
-/

namespace Warrant

structure PrivateKey where
  seed : Bytes
  length_seed : seed.length = 32

structure PublicKey where
  bytes : Bytes
  length_bytes : bytes.length = 32

instance : DecidableEq PrivateKey := fun a b =>
  if h : a.seed = b.seed then isTrue (by cases a; cases b; simp_all)
  else isFalse fun e => h (e ▸ rfl)

instance : DecidableEq PublicKey := fun a b =>
  if h : a.bytes = b.bytes then isTrue (by cases a; cases b; simp_all)
  else isFalse fun e => h (e ▸ rfl)

def PrivateKey.ofBytes? (seed : Bytes) : Option PrivateKey :=
  if h : seed.length = 32 then some ⟨seed, h⟩ else none

theorem PublicKey.ext {a b : PublicKey} (h : a.bytes = b.bytes) : a = b := by
  cases a; cases b; simp_all

class Scheme where
  publicKey : PrivateKey → PublicKey
  isKey : PublicKey → Bool
  sign : PrivateKey → (payload : Bytes) → Bytes
  verify : PublicKey → (payload signature : Bytes) → Bool
  digest : Bytes → Bytes

variable [Scheme]

def PrivateKey.publicKey (key : PrivateKey) : PublicKey :=
  Scheme.publicKey key

def PrivateKey.sign (key : PrivateKey) (payload : Bytes) : Bytes :=
  Scheme.sign key payload

def PublicKey.ofBytes? (bytes : Bytes) : Option PublicKey :=
  if h : bytes.length = 32 then if Scheme.isKey ⟨bytes, h⟩ then some ⟨bytes, h⟩ else none
  else none

/-- A signature has 64 bytes; any other byte string verifies nothing. -/
def PublicKey.verifies (key : PublicKey) (payload signature : Bytes) : Bool :=
  signature.length == 64 && Scheme.verify key payload signature

end Warrant
