import Warrant.Certificate.Request

namespace Warrant

structure Renewal where
  current : Credential
  candidate : Credential
  request : SigningRequest
  deriving DecidableEq

namespace Renewal

def keptTags (c : Certificate) : Dictionary String :=
  if c.isBootstrap then (c.tags.erase Certificate.bootstrapTag).erase Certificate.launchRequestTag
  else c.tags

def launchRequest (c : Certificate) : Option String :=
  if c.isBootstrap then c.tags.get? Certificate.launchRequestTag else none

variable [Scheme]

def start (current : Credential) (key : PrivateKey) (serial : UInt64) (now : Int64) : Renewal :=
  let held := current.certificate
  let candidate :=
    Certificate.issue held.entity held.kind held.host (keptTags held) key serial now
  { current
    candidate := ⟨candidate, key⟩
    request := .make candidate held current.key (launchRequest held) }

def finish (r : Renewal) (usable : List PublicKey) (now : Int64) (signed : Certificate) :
    Except Error Credential := do
  if signed.key ≠ r.candidate.certificate.key then throw (.signature .otherKeySigned)
  signed.check usable now
  return ⟨signed, r.candidate.key⟩

end Renewal

end Warrant
