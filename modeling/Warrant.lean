import Warrant.Authority.Body
import Warrant.Authority.Daemon
import Warrant.Authority.Http
import Warrant.AuthorityKeys
import Warrant.Backoff
import Warrant.Base64
import Warrant.Bytes
import Warrant.Certificate
import Warrant.Certificate.Request
import Warrant.Claim
import Warrant.ClaimCache
import Warrant.Client
import Warrant.Client.Recovery
import Warrant.Config
import Warrant.Config.Environment
import Warrant.Decimal.Nearest
import Warrant.Decimal.Shortest
import Warrant.Derelict
import Warrant.Dictionary
import Warrant.Digest.Block
import Warrant.Digest.Sha256
import Warrant.Digest.Sha512
import Warrant.Disable.Message
import Warrant.Disable.Monitor
import Warrant.Domain
import Warrant.Domain.Direction
import Warrant.Domain.Mapping
import Warrant.Domain.Mark
import Warrant.Domain.Punycode
import Warrant.Ed25519
import Warrant.Inbound
import Warrant.Error
import Warrant.Host
import Warrant.Host.Wait
import Warrant.Identity
import Warrant.Json
import Warrant.Json.Decode
import Warrant.Json.Escape
import Warrant.Json.Reader
import Warrant.Json.Tellable
import Warrant.Json.Token
import Warrant.Key
import Warrant.Key.Der
import Warrant.Key.Encoding
import Warrant.Limit
import Warrant.Log
import Warrant.Metadata
import Warrant.Moment
import Warrant.Outbound
import Warrant.Record
import Warrant.Registry
import Warrant.Registry.Refresh
import Warrant.Rehearsal.Play
import Warrant.Rehearsal.Script
import Warrant.Rehearsal.Stage
import Warrant.Renewal
import Warrant.Summary
import Warrant.Table
import Warrant.Text
import Warrant.Text.Composed
import Warrant.Text.Quoted
import Warrant.Text.Stretch
import Warrant.Text.Utf8
import Warrant.Url
import Warrant.Url.Address
import Warrant.Url.Target
import Warrant.Proofs.Base64Laws
import Warrant.Proofs.Json.EscapeLaws
import Warrant.Proofs.Json.DigitLaws
import Warrant.Proofs.Json.ReadLaws
import Warrant.Proofs.Json.TextLaws
import Warrant.Proofs.DictionaryLaws
import Warrant.Proofs.Json.Arrangement
import Warrant.Proofs.Json.CodecLaws
import Warrant.Proofs.Json.FieldLaws
import Warrant.Proofs.RecordLaws
import Warrant.Proofs.PayloadLaws
import Warrant.Proofs.RoundTripLaws
import Warrant.Proofs.KeyRingLaws
import Warrant.Proofs.KeyRing.CustodyLaws
import Warrant.Proofs.Disable.CheckLaws
import Warrant.Proofs.Disable.VigilLaws
import Warrant.Proofs.Disable.DistrustLaws
import Warrant.Proofs.InboundLaws
import Warrant.Proofs.Registry.Chronicle
import Warrant.Proofs.Registry.SoundLaws
import Warrant.Proofs.Registry.LifecycleLaws
import Warrant.Proofs.Registry.AgreementLaws
import Warrant.Proofs.ClaimLaws
import Warrant.Proofs.BackoffLaws
import Warrant.Proofs.KeyRing.ExpiryLaws
import Warrant.Proofs.Outbound.LookupLaws
import Warrant.Proofs.Outbound.FailureLaws
import Warrant.Proofs.Outbound.Call
import Warrant.Proofs.Outbound.Traffic
import Warrant.Proofs.Outbound.RestraintLaws
import Warrant.Proofs.Outbound.CoherenceLaws
import Warrant.Proofs.KeyLaws
import Warrant.Proofs.RenewalLaws
import Warrant.Proofs.Registry.AttemptLaws
import Warrant.Proofs.Client.RecoveryLaws
import Warrant.Proofs.Client.WatchLaws
import Warrant.Proofs.Registry.OriginLaws
import Warrant.Proofs.Upkeep
import Warrant.Proofs.Upkeep.SupplyLaws
import Warrant.Proofs.Client.FoundingLaws
import Warrant.Proofs.Upkeep.HonestLaws
import Warrant.Proofs.Upkeep.UpgradeLaws
import Warrant.Proofs.Upkeep.RecoveryLaws
import Warrant.Proofs.Upkeep.NewcomerLaws
import Warrant.Proofs.Outbound.AddresseeLaws
import Warrant.Proofs.ReceptionLaws
import Warrant.Proofs.Registry.IdentityLaws
import Warrant.Proofs.Client.CommonsLaws
import Warrant.Proofs.Authority.RequestLaws
import Warrant.Proofs.Backoff.StreakLaws
import Warrant.Proofs.Renewal.ChainLaws
import Warrant.Proofs.Client.ClosureLaws
import Warrant.Proofs.WindowLaws
import Warrant.Proofs.MetadataLaws
import Warrant.Proofs.HopLaws
import Warrant.Proofs.Host.MirrorLaws
import Warrant.Proofs.Host.PathLaws
import Warrant.Proofs.Host.SeatLaws
import Warrant.Proofs.Rehearsal.CallLaws
import Warrant.Proofs.Json.ScanLaws
import Warrant.Proofs.Json.ExtentLaws
import Warrant.Proofs.Authority.DaemonLaws
import Warrant.Proofs.Disable.LengthLaws
