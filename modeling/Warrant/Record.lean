import Warrant.Json.Decode
import Warrant.Key
import Warrant.Error
import Warrant.Text

/-!
Records: values with a JSON form. As a token a record travels as base64 of its compact text; what is
signed of one is its canonical text without the signature.
-/

namespace Warrant

class Record (α : Type) where
  toJson : α → Json
  ofJson? : Json → Option α

class Signed (α : Type) extends Record α where
  signature : α → Bytes
  withSignature : α → Bytes → α

namespace Json

def memberUnless (omitted : Bool) (name : String) (value : Json) : List (Bytes × Json) :=
  if omitted then [] else [member name value]

end Json

namespace Record

variable {α : Type} [Record α]

def bytes (a : α) : Bytes :=
  (toJson a).write

def text (a : α) : String :=
  Text.ofUtf8Lossy (bytes a)

def ofBytes? (bytes : Bytes) : Option α :=
  (Json.read? bytes).bind ofJson?

def marshal (a : α) : String :=
  Base64.encodeText (bytes a)

def unmarshal (token : String) : Except Error α :=
  match Base64.decodeText (Text.trim token) with
  | .error cause => .error (.malformedToken (.base64 cause))
  | .ok bytes =>
    match ofBytes? bytes with
    | some a => .ok a
    | none => .error (.malformedToken .json)

end Record

namespace Signed

variable {α : Type} [Signed α]

def unsigned (a : α) : α :=
  withSignature a []

/-- The bytes that a signature covers. -/
def payload (a : α) : Bytes :=
  (Record.toJson (unsigned a)).canonical.write

variable [Scheme]

def sign (key : PrivateKey) (a : α) : α :=
  withSignature a (key.sign (payload a))

def isSignedBy (a : α) (key : PublicKey) : Bool :=
  key.verifies (payload a) (signature a)

def isSignedByAny (a : α) (keys : List PublicKey) : Bool :=
  keys.any (isSignedBy a)

end Signed

end Warrant
