import Warrant.Digest.Block

namespace Warrant.Sha256

/-- The fractional parts of the cube roots of the first primes. -/
def roundConstants : Array UInt32 :=
  #[
    0x428A2F98, 0x71374491, 0xB5C0FBCF, 0xE9B5DBA5, 0x3956C25B, 0x59F111F1, 0x923F82A4, 0xAB1C5ED5,
    0xD807AA98, 0x12835B01, 0x243185BE, 0x550C7DC3, 0x72BE5D74, 0x80DEB1FE, 0x9BDC06A7, 0xC19BF174,
    0xE49B69C1, 0xEFBE4786, 0x0FC19DC6, 0x240CA1CC, 0x2DE92C6F, 0x4A7484AA, 0x5CB0A9DC, 0x76F988DA,
    0x983E5152, 0xA831C66D, 0xB00327C8, 0xBF597FC7, 0xC6E00BF3, 0xD5A79147, 0x06CA6351, 0x14292967,
    0x27B70A85, 0x2E1B2138, 0x4D2C6DFC, 0x53380D13, 0x650A7354, 0x766A0ABB, 0x81C2C92E, 0x92722C85,
    0xA2BFE8A1, 0xA81A664B, 0xC24B8B70, 0xC76C51A3, 0xD192E819, 0xD6990624, 0xF40E3585, 0x106AA070,
    0x19A4C116, 0x1E376C08, 0x2748774C, 0x34B0BCB5, 0x391C0CB3, 0x4ED8AA4A, 0x5B9CCA4F, 0x682E6FF3,
    0x748F82EE, 0x78A5636F, 0x84C87814, 0x8CC70208, 0x90BEFFFA, 0xA4506CEB, 0xBEF9A3F7, 0xC67178F2]

/-- The fractional parts of the square roots of the first eight primes. -/
def start : Digest.State UInt32 where
  a := 0x6A09E667
  b := 0xBB67AE85
  c := 0x3C6EF372
  d := 0xA54FF53A
  e := 0x510E527F
  f := 0x9B05688C
  g := 0x1F83D9AB
  h := 0x5BE0CD19

def rotate (x : UInt32) (n : UInt32) : UInt32 :=
  x >>> n ||| x <<< (32 - n)

def extend (words : Array UInt32) (i : Nat) : Array UInt32 :=
  let w (back : Nat) : UInt32 := words.getD (i - back) 0
  let s0 := rotate (w 15) 7 ^^^ rotate (w 15) 18 ^^^ w 15 >>> 3
  let s1 := rotate (w 2) 17 ^^^ rotate (w 2) 19 ^^^ w 2 >>> 10
  words.push (w 16 + s0 + w 7 + s1)

def schedule (block : Bytes) : Array UInt32 :=
  let words := ((Digest.blocks 4 block).map fun b => UInt32.ofNat (Digest.bigEndian b)).toArray
  (List.range' 16 48).foldl extend words

def round (words : Array UInt32) (s : Digest.State UInt32) (i : Nat) : Digest.State UInt32 :=
  let s1 := rotate s.e 6 ^^^ rotate s.e 11 ^^^ rotate s.e 25
  let choice := (s.e &&& s.f) ^^^ ((s.e ^^^ 0xFFFFFFFF) &&& s.g)
  let t1 := s.h + s1 + choice + roundConstants.getD i 0 + words.getD i 0
  let s0 := rotate s.a 2 ^^^ rotate s.a 13 ^^^ rotate s.a 22
  let majority := (s.a &&& s.b) ^^^ (s.a &&& s.c) ^^^ (s.b &&& s.c)
  { a := t1 + s0 + majority, b := s.a, c := s.b, d := s.c
    e := s.d + t1, f := s.e, g := s.f, h := s.g }

def compress (s : Digest.State UInt32) (block : Bytes) : Digest.State UInt32 :=
  s.add ((List.range 64).foldl (round (schedule block)) s)

def digest (message : Bytes) : Bytes :=
  let s := (Digest.blocks 64 (Digest.padded 64 8 message)).foldl compress start
  s.words.flatMap fun w => Bytes.ofNatBigEndian 4 w.toNat

@[simp] theorem length_digest (message : Bytes) : (digest message).length = 32 := by
  simp [digest, Digest.State.words, Bytes.ofNatBigEndian]

end Warrant.Sha256
