import Warrant.Base64
import Warrant.Text.Quoted

namespace Warrant

def everyone : String := "EVERYONE"

inductive Invalidity
  | futureToken
  | expiredToken
  | marshallingError
  | invalidSignature
  deriving DecidableEq

def Invalidity.name : Invalidity → String
  | .futureToken => "future_token"
  | .expiredToken => "expired_token"
  | .marshallingError => "marshalling_error"
  | .invalidSignature => "invalid_signature"

def Invalidity.ofName? (name : String) : Option Invalidity :=
  [futureToken, expiredToken, marshallingError, invalidSignature].find? fun r => r.name == name

inductive TokenFault
  | base64 (cause : Base64.Error)
  | json
  | other (text : String)
  deriving DecidableEq

def TokenFault.message : TokenFault → String
  | .base64 cause => "invalid base64: " ++ cause.message
  | .json => "invalid JSON"
  | .other text => text

inductive AuthorityFault
  | claimTimeout (destination : String)
  | derelictTimeout
  | upgradeTimeout
  | healthTimeout
  | refreshTimeout
  | daemonRefreshTimeout
  | rejected (status : Nat) (body : String)
  | failed (status : Nat) (body : String)
  | noUrl
  | unreachable
  | reply
  | unusableClaim (cause : String)
  | bothFailed (authority daemon : String)
  | other (text : String)
  deriving DecidableEq

def AuthorityFault.message : AuthorityFault → String
  | .claimTimeout destination => "claim request for " ++ destination ++ " timed out"
  | .derelictTimeout => "derelict fetch timed out"
  | .upgradeTimeout => "certificate upgrade timed out"
  | .healthTimeout => "health check timed out"
  | .refreshTimeout => "certificate refresh timed out"
  | .daemonRefreshTimeout => "local daemon refresh timed out"
  | .rejected status body => s!"rejected ({status}): " ++ body
  | .failed status body => s!"HTTP {status}: " ++ body
  | .noUrl => "builder error"
  | .unreachable => "error sending request"
  | .reply => "invalid authority response"
  | .unusableClaim cause => "authority returned unusable claim: " ++ cause
  | .bothFailed authority daemon => "authority: " ++ authority ++ "; daemon: " ++ daemon
  | .other text => text

inductive ConfigFault
  | noDestination
  | noServiceName
  | noTimeout
  | noRecordDomain
  | noMonitoredKeys
  | noAuthorityKeys
  | percentage (shown : String)
  | url (written : String)
  | urlScheme (scheme : String)
  | keyMismatch (path entity : String)
  | halfIdentity
  | other (text : String)
  deriving DecidableEq

def ConfigFault.message : ConfigFault → String
  | .noDestination => "destination is required"
  | .noServiceName => "service name is required"
  | .noTimeout => "request timeout must be positive"
  | .noRecordDomain => "disable record domain is required"
  | .noMonitoredKeys => "no authority keys to check disable records against"
  | .noAuthorityKeys => "at least one authority key is required"
  | .percentage shown => "enforce percentage must be within [0, 1], got " ++ shown
  | .url written => "invalid authority url " ++ written
  | .urlScheme scheme => "unsupported authority url scheme: " ++ scheme
  | .keyMismatch path entity =>
    "private key in " ++ path ++ " does not match certificate for " ++ entity
  | .halfIdentity => "TESSERA_CERTIFICATE and TESSERA_PRIVATE_KEY must be set together"
  | .other text => text

inductive SignatureFault
  | publicKey
  | publicKeyBase64 (cause : Base64.Error)
  | privateKey
  | privateKeyBase64 (cause : Base64.Error)
  | outsideWindow (entity : String) (validAfter validBefore : Int64)
  | notByAuthority (entity : String)
  | notBySigner (signer : String)
  | request
  | otherKeySigned
  | otherKeyFromDaemon
  | recordFromFuture
  | recordExpired
  | recordTooLong
  | record
  | other (text : String)
  deriving DecidableEq

def SignatureFault.message : SignatureFault → String
  | .publicKey => "invalid SPKI public key"
  | .publicKeyBase64 cause => "invalid base64 public key: " ++ cause.message
  | .privateKey => "invalid PKCS#8 private key"
  | .privateKeyBase64 cause => "invalid base64 private key: " ++ cause.message
  | .outsideWindow entity validAfter validBefore =>
    "certificate for " ++ entity ++
      s!" outside validity window [{validAfter.toInt}, {validBefore.toInt}]"
  | .notByAuthority entity => "certificate for " ++ entity ++ " not signed by authority"
  | .notBySigner signer => "certificate not signed by " ++ signer
  | .request => "certificate signing request signature mismatch"
  | .otherKeySigned => "authority signed a different key"
  | .otherKeyFromDaemon => "daemon returned a certificate for a different key"
  | .recordFromFuture => "disable message created in the future"
  | .recordExpired => "disable message expired"
  | .recordTooLong => "disable message valid for too long"
  | .record => "disable message signature mismatch"
  | .other text => text

inductive RegistryFault
  | unregister
  | update
  | other (text : String)
  deriving DecidableEq

def RegistryFault.message : RegistryFault → String
  | .unregister => "failed to unregister instance because it was not in the registry"
  | .update => "failed to update instance because it was not in the registry"
  | .other text => text

inductive IoFault
  | file (path : String)
  | daemonTimeout (address : String)
  | refused
  | other (text : String)
  deriving DecidableEq

def IoFault.message : IoFault → String
  | .file path => "failed to read " ++ path
  | .daemonTimeout address => "local daemon at " ++ address ++ " timed out"
  | .refused => "Connection refused"
  | .other text => text

inductive Error
  | noToken
  | malformedToken (fault : TokenFault)
  | invalidToken (reason : Invalidity)
  | wrongDestination (actual : String) (expected : List String)
  | noCommonClaims (held needed : List String)
  | authorityUnavailable (fault : AuthorityFault)
  | destinationSkipped (destination : String)
  | config (fault : ConfigFault)
  | signature (fault : SignatureFault)
  | registry (fault : RegistryFault)
  | encoding (text : String)
  | io (fault : IoFault)
  deriving DecidableEq

/-- Why an inbound request is not authenticated. The last reason is only ever logged. -/
inductive Unauthorized
  | noToken
  | malformedToken
  | invalidToken
  | noCommonClaims
  | wrongDestination
  | remoteEntityMismatch
  deriving DecidableEq

def Unauthorized.name : Unauthorized → String
  | .noToken => "no_token"
  | .malformedToken => "malformed_token"
  | .invalidToken => "invalid_token"
  | .noCommonClaims => "no_common_claims"
  | .wrongDestination => "wrong_destination"
  | .remoteEntityMismatch => "remote_entity_mismatch"

namespace Error

def message : Error → String
  | .noToken => "no token found in request metadata"
  | .malformedToken fault => "malformed token: " ++ fault.message
  | .invalidToken reason => "invalid token: " ++ reason.name
  | .wrongDestination actual expected =>
    "wrong destination: claim is for " ++ actual ++ ", expected one of " ++ Text.quotedList expected
  | .noCommonClaims held needed =>
    "no common claims: have " ++ Text.quotedList held ++ ", need one of " ++ Text.quotedList needed
  | .authorityUnavailable fault => "credential authority unavailable: " ++ fault.message
  | .destinationSkipped destination =>
    "destination " ++ destination ++ " skipped after recent resolution failures"
  | .config fault => "configuration error: " ++ fault.message
  | .signature fault => "signature error: " ++ fault.message
  | .registry fault => "registry error: " ++ fault.message
  | .encoding text => "encoding error: " ++ text
  | .io fault => "io error: " ++ fault.message

def kind : Error → String
  | .noToken => "NoToken"
  | .malformedToken _ => "MalformedToken"
  | .invalidToken _ => "InvalidToken"
  | .wrongDestination .. => "WrongDestination"
  | .noCommonClaims .. => "NoCommonClaims"
  | .authorityUnavailable _ => "AuthorityUnavailable"
  | .destinationSkipped _ => "DestinationSkipped"
  | .config _ => "Config"
  | .signature _ => "Signature"
  | .registry _ => "Registry"
  | .encoding _ => "Encoding"
  | .io _ => "Io"

def unauthorized? : Error → Option Unauthorized
  | .noToken => some .noToken
  | .malformedToken _ => some .malformedToken
  | .invalidToken _ => some .invalidToken
  | .wrongDestination .. => some .wrongDestination
  | .noCommonClaims .. => some .noCommonClaims
  | _ => none

def isRetryable : Error → Bool
  | .authorityUnavailable _ | .destinationSkipped _ | .io _ => true
  | _ => false

end Error

structure Refusal where
  entities : List String
  cause : Error

/-- Nobody in particular means everybody. -/
def Refusal.allowedEntities (r : Refusal) : List String :=
  if r.entities.isEmpty then [everyone] else r.entities

end Warrant
