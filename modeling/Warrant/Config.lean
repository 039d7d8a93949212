import Warrant.Record
import Warrant.Log

namespace Warrant

structure Timings where
  certificateRefresh : UInt64
  disableCheck : UInt64
  derelictRefresh : UInt64
  recoveryRetry : UInt64
  deriving DecidableEq

namespace Timings

def standard : Timings := ⟨1800, 60, 600, 60⟩

def period (seconds : UInt64) : Nat :=
  max seconds.toNat 1

def periods (t : Timings) : List Nat :=
  [t.certificateRefresh, t.disableCheck, t.derelictRefresh, t.recoveryRetry].map period

def toJson (t : Timings) : Json :=
  .object
    [Json.member "cert_refresh_secs" (.ofUInt64 t.certificateRefresh),
      Json.member "disable_check_secs" (.ofUInt64 t.disableCheck),
      Json.member "derelict_refresh_secs" (.ofUInt64 t.derelictRefresh),
      Json.member "recovery_retry_secs" (.ofUInt64 t.recoveryRetry)]

def ofJson? (j : Json) : Option Timings := do
  match ← j.record? ["cert_refresh_secs", "disable_check_secs", "derelict_refresh_secs",
    "recovery_retry_secs"] with
  | [certificateRefresh, disableCheck, derelictRefresh, recoveryRetry] =>
    return {
      certificateRefresh :=
        ← Json.fieldOr standard.certificateRefresh Json.uint64? certificateRefresh
      disableCheck := ← Json.fieldOr standard.disableCheck Json.uint64? disableCheck
      derelictRefresh := ← Json.fieldOr standard.derelictRefresh Json.uint64? derelictRefresh
      recoveryRetry := ← Json.fieldOr standard.recoveryRetry Json.uint64? recoveryRetry }
  | _ => none

end Timings

structure Config where
  serviceName : String
  /-- The names that inbound claims may be addressed to; without any it is the service's name. -/
  aliases : List String
  allowedEntities : List String
  enforcePercentage : Float
  authorityUrl : String
  disabled : Bool
  requestTimeout : UInt64
  recordDomain : String
  implicitClaims : List String
  timings : Timings

namespace Config

def standard : Config where
  serviceName := ""
  aliases := []
  allowedEntities := []
  enforcePercentage := 0
  authorityUrl := "http://127.0.0.1:16746"
  disabled := false
  requestTimeout := 5
  recordDomain := "disable.tessera.internal"
  implicitClaims := []
  timings := .standard

def toJson (c : Config) : Json :=
  .object
    [Json.member "service_name" (.ofText c.serviceName),
      Json.member "service_aliases" (.ofList .ofText c.aliases),
      Json.member "allowed_entities" (.ofList .ofText c.allowedEntities),
      Json.member "enforce_percentage" (.ofFloat c.enforcePercentage),
      Json.member "authority_url" (.ofText c.authorityUrl),
      Json.member "disabled" (.bool c.disabled),
      Json.member "request_timeout_secs" (.ofUInt64 c.requestTimeout),
      Json.member "disable_record_domain" (.ofText c.recordDomain),
      Json.member "implicit_claims" (.ofList .ofText c.implicitClaims),
      Json.member "timings" c.timings.toJson]

def ofJson? (j : Json) : Option Config := do
  match ← j.record? ["service_name", "service_aliases", "allowed_entities", "enforce_percentage",
    "authority_url", "disabled", "request_timeout_secs", "disable_record_domain",
    "implicit_claims", "timings"] with
  | [serviceName, aliases, allowedEntities, enforcePercentage, authorityUrl, disabled,
      requestTimeout, recordDomain, implicitClaims, timings] =>
    let texts? := Json.list? Json.text?
    return {
      serviceName := ← Json.fieldOr standard.serviceName Json.text? serviceName
      aliases := ← Json.fieldOr standard.aliases texts? aliases
      allowedEntities := ← Json.fieldOr standard.allowedEntities texts? allowedEntities
      enforcePercentage := ← Json.fieldOr standard.enforcePercentage Json.float? enforcePercentage
      authorityUrl := ← Json.fieldOr standard.authorityUrl Json.text? authorityUrl
      disabled := ← Json.fieldOr standard.disabled Json.bool? disabled
      requestTimeout := ← Json.fieldOr standard.requestTimeout Json.uint64? requestTimeout
      recordDomain := ← Json.fieldOr standard.recordDomain Json.text? recordDomain
      implicitClaims := ← Json.fieldOr standard.implicitClaims texts? implicitClaims
      timings := ← Json.fieldOr standard.timings Timings.ofJson? timings }
  | _ => none

instance : Record Config where
  toJson := toJson
  ofJson? := ofJson?

def destinations (c : Config) : List String :=
  if c.aliases.isEmpty then [c.serviceName] else c.aliases

def validate (c : Config) : Except Error Unit :=
  if (Text.trim c.serviceName).isEmpty then .error (.config .noServiceName)
  else if c.requestTimeout = 0 then .error (.config .noTimeout)
  else .ok ()

/-- A fraction between zero and one; what is above one and up to a hundred is a percentage. -/
def normalize (p : Float) : Float :=
  if p.isNaN || p < 0 then 0
  else if p ≤ 1 then p
  else if p ≤ 100 then p / 100
  else 1

def enforceFraction (c : Config) : Float × List LogEvent :=
  let used := normalize c.enforcePercentage
  (used, if used == c.enforcePercentage then [] else [.normalized c.enforcePercentage used])

end Config

end Warrant
