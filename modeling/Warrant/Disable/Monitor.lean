import Warrant.Disable.Message
import Warrant.AuthorityKeys

namespace Warrant

structure DisableMonitor where
  domain : String
  sentinel : Option PublicKey
  /-- The library has been enabled again since somebody last asked. -/
  recovered : Bool
  deriving DecidableEq

namespace DisableMonitor

/-- A record shorter than this holds no signed message, and counts as absent. -/
def shortestRecord : Nat := 64

def make (domain : String) (usable : List PublicKey) : Except Error DisableMonitor :=
  if (Text.trimBy (· = '.') domain).isEmpty then .error (.config .noRecordDomain)
  else if usable.isEmpty then .error (.config .noMonitoredKeys)
  else .ok { domain, sentinel := none, recovered := false }

/-- What a lookup of a record answers: its texts, or `none` when the lookup fails. -/
abbrev Records := (name : String) → Option (List String)

variable [Scheme]

def record? (m : DisableMonitor) (records : Records) (key : PublicKey) : Option String :=
  match records (DisableMessage.recordName key m.domain) with
  | some (text :: _) => if shortestRecord ≤ text.utf8ByteSize then some text else none
  | _ => none

def accepts (record : String) (key : PublicKey) (now : Int64) : Bool :=
  match Record.unmarshal (α := DisableMessage) record with
  | .ok message =>
    match message.validate key now with
    | .ok () => message.isDisabled
    | .error _ => false
  | .error _ => false

structure Checked where
  monitor : DisableMonitor
  isDisabled : Bool
  consulted : List PublicKey
  notifies : Bool

def scan (m : DisableMonitor) (records : Records) (now : Int64) :
    List PublicKey → Option PublicKey × List PublicKey
  | [] => (none, [])
  | key :: rest =>
    match m.record? records key with
    | none =>
      let (found, consulted) := scan m records now rest
      (found, key :: consulted)
    | some record => (if accepts record key now then some key else none, [key])

def check (m : DisableMonitor) (isDisabled : Bool) (records : Records) (usable : List PublicKey)
    (now : Int64) : Checked :=
  match m.sentinel with
  | some key =>
    if (m.record? records key).any fun record => accepts record key now then
      ⟨m, isDisabled, [key], false⟩
    else ⟨{ m with sentinel := none, recovered := true }, false, [key], true⟩
  | none =>
    match m.scan records now usable with
    | (some key, consulted) => ⟨{ m with sentinel := some key }, true, consulted, false⟩
    | (none, consulted) => ⟨m, isDisabled, consulted, false⟩

end DisableMonitor

end Warrant
