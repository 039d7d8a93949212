import Warrant.Json.Token

/-!
Reading a JSON text: a machine takes the tokens one by one and keeps what is open on a stack, so
depth costs nothing. Strings and member names are kept as they are written, and read only when
somebody asks for them.
-/

namespace Warrant.Json

/-- What is open around the place that is being read; what is done stands most recent first. -/
inductive Frame
  | array (done : List Json)
  | object (done : List (Bytes × Json)) (key : Bytes)

inductive Reader
  | value (frames : List Frame)
  | itemOrEnd (frames : List Frame)
  | nameOrEnd (frames : List Frame)
  | name (done : List (Bytes × Json)) (frames : List Frame)
  | colon (done : List (Bytes × Json)) (key : Bytes) (frames : List Frame)
  | after (value : Json) (frames : List Frame)

namespace Reader

def startValue (frames : List Frame) : Token → Option Reader
  | .openArray => some (.itemOrEnd frames)
  | .openObject => some (.nameOrEnd frames)
  | .string w => some (.after (.string w) frames)
  | .scalar j => some (.after j frames)
  | _ => none

def startName (done : List (Bytes × Json)) (frames : List Frame) : Token → Option Reader
  | .string w => some (.colon done w frames)
  | _ => none

def step : Reader → Token → Option Reader
  | .value frames, t => startValue frames t
  | .itemOrEnd frames, .closeArray => some (.after (.array []) frames)
  | .itemOrEnd frames, t => startValue (.array [] :: frames) t
  | .nameOrEnd frames, .closeObject => some (.after (.object []) frames)
  | .nameOrEnd frames, t => startName [] frames t
  | .name done frames, t => startName done frames t
  | .colon done key frames, .colon => some (.value (.object done key :: frames))
  | .colon .., _ => none
  | .after j (.array done :: frames), .comma => some (.value (.array (j :: done) :: frames))
  | .after j (.array done :: frames), .closeArray =>
    some (.after (.array (j :: done).reverse) frames)
  | .after j (.object done key :: frames), .comma => some (.name ((key, j) :: done) frames)
  | .after j (.object done key :: frames), .closeObject =>
    some (.after (.object ((key, j) :: done).reverse) frames)
  | .after .., _ => none

def run : Reader → List Token → Option Reader
  | r, [] => some r
  | r, t :: rest =>
    match r.step t with
    | some r => r.run rest
    | none => none

def result? : Reader → Option Json
  | .after j [] => some j
  | _ => none

end Reader

def read? (bytes : Bytes) : Option Json := do
  let tokens ← Token.scan bytes
  let reader ← (Reader.value []).run tokens
  reader.result?

end Warrant.Json
