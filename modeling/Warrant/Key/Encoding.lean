import Warrant.Error
import Warrant.Key
import Warrant.Key.Der

namespace Warrant

variable [Scheme]

namespace PublicKey

def header : Bytes :=
  [0x30, 0x2A, 0x30, 0x05, 0x06, 0x03, 0x2B, 0x65, 0x70, 0x03, 0x21, 0x00]

def encode (key : PublicKey) : Bytes :=
  header ++ key.bytes

def decode? (bytes : Bytes) : Option PublicKey :=
  if bytes.take 12 = header then PublicKey.ofBytes? (bytes.drop 12) else none

def idOf (encoded : Bytes) : String :=
  "sha256:" ++ Hex.encode (Scheme.digest encoded)

def id (key : PublicKey) : String :=
  idOf key.encode

theorem decode?_encode {key : PublicKey} (h : Scheme.isKey key = true) :
    decode? key.encode = some key := by
  obtain ⟨bytes, hb⟩ := key
  simp [decode?, encode, header, ofBytes?, hb, h]

end PublicKey

namespace PrivateKey

def header (version : UInt8) : Bytes :=
  [0x02, 0x01, version, 0x30, 0x05, 0x06, 0x03, 0x2B, 0x65, 0x70, 0x04, 0x22, 0x04, 0x20]

def encode (key : PrivateKey) : Bytes :=
  0x30 :: 0x51 :: header 1 ++ key.seed ++ 0x81 :: 0x21 :: 0x00 :: key.publicKey.bytes

/-- The fields after the seed: attributes, the public key, and extensions, each a context-specific
element and an extension one with a single element in it. -/
def publicKeyField? (fields : Bytes) : Option (Option Bytes) := do
  let fields ← Der.elements? fields
  match fields.dropWhile fun e => e.contextNumber? == some 0 with
  | [] => some none
  | e :: extensions =>
    let isExtension (e : Der.Element) : Bool :=
      e.contextNumber?.isSome && e.isConstructed && (Der.single? e.contents).isSome
    if e.contextNumber? = some 1 then
      match e.isConstructed, e.contents with
      | false, 0 :: bits => if extensions.all isExtension then some (some bits) else none
      | _, _ => none
    else if (e :: extensions).all isExtension then some none
    else none

/-- The version tells whether the public key is there; if it is, it has to be that of the seed. -/
def decode? (bytes : Bytes) : Option PrivateKey := do
  let whole ← Der.single? bytes
  let version ← whole.contents[2]?
  let body := whole.contents.drop 14
  if whole.tag ≠ 0x30 ∨ whole.contents.take 14 ≠ header version then none
  else
    let key ← PrivateKey.ofBytes? (body.take 32)
    let field ← publicKeyField? (body.drop 32)
    match version.toNat, field with
    | 0, none => some key
    | 1, some bits => if bits = key.publicKey.bytes then some key else none
    | _, _ => none

end PrivateKey

namespace PublicKey

def read (encoded : Bytes) : Except Error PublicKey :=
  match decode? encoded with
  | some key => .ok key
  | none => .error (.signature .publicKey)

def readText (text : String) : Except Error PublicKey :=
  match Base64.decodeText (Text.trim text) with
  | .ok encoded => read encoded
  | .error cause => .error (.signature (.publicKeyBase64 cause))

end PublicKey

namespace PrivateKey

def read (encoded : Bytes) : Except Error PrivateKey :=
  match decode? encoded with
  | some key => .ok key
  | none => .error (.signature .privateKey)

def readText (text : String) : Except Error PrivateKey :=
  match Base64.decodeText (Text.trim text) with
  | .ok encoded => read encoded
  | .error cause => .error (.signature (.privateKeyBase64 cause))

end PrivateKey

end Warrant
