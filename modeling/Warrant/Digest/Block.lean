import Warrant.Bytes

namespace Warrant.Digest

def blocksUpTo (size : Nat) : (fuel : Nat) → Bytes → List Bytes
  | 0, _ => []
  | fuel + 1, bytes =>
    if bytes.isEmpty then [] else bytes.take size :: blocksUpTo size fuel (bytes.drop size)

def blocks (size : Nat) (bytes : Bytes) : List Bytes :=
  blocksUpTo size bytes.length bytes

def bigEndian (bytes : Bytes) : Nat :=
  bytes.foldl (fun n b => 256 * n + b.toNat) 0

/-- The message, a bit that ends it, zeros, and the message's length in bits in the last
`lengthBytes` bytes of a whole number of blocks. -/
def padded (size lengthBytes : Nat) (message : Bytes) : Bytes :=
  let used := (message.length + 1 + lengthBytes) % size
  message ++ 0x80 :: List.replicate ((size - used) % size) 0 ++
    Bytes.ofNatBigEndian lengthBytes (8 * message.length)

structure State (Word : Type) where
  a : Word
  b : Word
  c : Word
  d : Word
  e : Word
  f : Word
  g : Word
  h : Word

def State.add {Word : Type} [Add Word] (s t : State Word) : State Word where
  a := s.a + t.a
  b := s.b + t.b
  c := s.c + t.c
  d := s.d + t.d
  e := s.e + t.e
  f := s.f + t.f
  g := s.g + t.g
  h := s.h + t.h

def State.words {Word : Type} (s : State Word) : List Word :=
  [s.a, s.b, s.c, s.d, s.e, s.f, s.g, s.h]

end Warrant.Digest
