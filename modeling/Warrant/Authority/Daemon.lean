import Warrant.Certificate

namespace Warrant

structure DaemonMessage where
  certificate : Certificate
  privateKey : Bytes
  deriving DecidableEq

namespace DaemonMessage

def toJson (m : DaemonMessage) : Json :=
  .object [Json.member "certificate" m.certificate.toJson,
    Json.member "private_key" (.ofBytes m.privateKey)]

def ofJson? (j : Json) : Option DaemonMessage := do
  match ← j.record? ["certificate", "private_key"] with
  | [certificate, privateKey] =>
    return {
      certificate := ← Json.field Certificate.ofJson? certificate
      privateKey := ← Json.field Json.bytes? privateKey }
  | _ => none

instance : Record DaemonMessage where
  toJson := toJson
  ofJson? := ofJson?

end DaemonMessage

inductive DaemonExchange
  | refused
  | timedOut (address : String)
  | answered (reply : Bytes)

namespace DaemonExchange

/-- No more than this many bytes of a reply are read. -/
def longestReply : Nat := 65536

variable [Scheme]

def request (current : Credential) : DaemonMessage :=
  ⟨current.certificate, current.key.encode⟩

def ofMessage (message : DaemonMessage) : Except Error Credential := do
  let key ← PrivateKey.read message.privateKey
  let certified ← message.certificate.publicKey
  if certified ≠ key.publicKey then throw (.signature .otherKeyFromDaemon)
  return ⟨message.certificate, key⟩

/-- `wording` is what the reader of documents says of bytes that it does not take. -/
def result (wording : Bytes → String) : DaemonExchange → Except Error Credential
  | .refused => .error (.io .refused)
  | .timedOut address => .error (.io (.daemonTimeout address))
  | .answered reply =>
    let read := reply.take longestReply
    match Record.ofBytes? (α := DaemonMessage) read with
    | none => .error (.encoding (wording read))
    | some message => ofMessage message

end DaemonExchange

end Warrant
