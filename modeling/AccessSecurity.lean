import AccessSecurity.Foundation.LittleEndian
import AccessSecurity.Foundation.Run
import AccessSecurity.Foundation.HashChain
import AccessSecurity.Foundation.Program
import AccessSecurity.Basic
import AccessSecurity.Environment
import AccessSecurity.Protocol.Frame
import AccessSecurity.Protocol.FrameParser
import AccessSecurity.Protocol.ReplayWindow
import AccessSecurity.Crypto.Hkdf
import AccessSecurity.Crypto.Aead
import AccessSecurity.Crypto.KeyManager
import AccessSecurity.Core.ReplayWindowMap
import AccessSecurity.Core.FrameHandler
import AccessSecurity.Core.Verdict
import AccessSecurity.Core.AnomalyDetector
import AccessSecurity.Decision.Payload
import AccessSecurity.Decision.Engine
import AccessSecurity.Decision.Policy
import AccessSecurity.Decision.Outcome
import AccessSecurity.Decision.Mediation
import AccessSecurity.Decision.Quarantine
import AccessSecurity.Decision.Calm
import AccessSecurity.Decision.OneReader
import AccessSecurity.Decision.Duplicate
import AccessSecurity.Decision.Repetition
import AccessSecurity.Admin.Unquarantine
import AccessSecurity.Storage.AuditLog
import AccessSecurity.Storage.AuditVerify
import AccessSecurity.Storage.Truncation
import AccessSecurity.Admin.HwService
import AccessSecurity.Admin.Agreement
import AccessSecurity.Admin.Authenticity
import AccessSecurity.Admin.HonestReaders
import AccessSecurity.Admin.RemoteRetry
import AccessSecurity.Admin.Baseline
import AccessSecurity.Decision.Malformed
import AccessSecurity.Decision.Locality
import AccessSecurity.Decision.Extension
import AccessSecurity.Foundation.Appends
import AccessSecurity.Decision.Auditing
import AccessSecurity.Storage.Untampered
import AccessSecurity.Storage.ForgedAnchor
import AccessSecurity.Foundation.Since
import AccessSecurity.Storage.AccessStore
import AccessSecurity.Storage.ReaderTables
import AccessSecurity.Admin.CardsService
import AccessSecurity.Admin.NonceReuse
import AccessSecurity.Admin.EventPolling
import AccessSecurity.Admin.DbImport
import AccessSecurity.Admin.ImportRace
import AccessSecurity.Admin.SharedConnection
import AccessSecurity.Core.CheckThenCommit
import AccessSecurity.Admin.TwoEntrances
import AccessSecurity.Admin.HwRoute
import AccessSecurity.Admin.Restart
import AccessSecurity.Core.DetectorHistory
import AccessSecurity.Core.ParseErrors
import AccessSecurity.Protocol.ParserReads
import AccessSecurity.Protocol.WindowHistory
import AccessSecurity.Admin.EventBuffer
import AccessSecurity.Admin.HwSignature
import AccessSecurity.Storage.RoleTables
import AccessSecurity.Admin.Enrolment
import AccessSecurity.Admin.Rotation
import AccessSecurity.Crypto.HkdfExpand
import AccessSecurity.Crypto.KeySeparation
import AccessSecurity.Decision.LiveFeed
import AccessSecurity.Admin.AuditListing
import AccessSecurity.Admin.ReaderRoutes
import AccessSecurity.Admin.Configuration
import AccessSecurity.Admin.AdminRoutes
import AccessSecurity.Admin.CriticalSections
import AccessSecurity.Admin.Entitlement
import AccessSecurity.Admin.SingleUse
import AccessSecurity.Hardware.BodyText
import AccessSecurity.Hardware.EndToEnd
import AccessSecurity.Admin.Listings
import AccessSecurity.Admin.AuditTrail
import AccessSecurity.Admin.CrashSafety
import AccessSecurity.Admin.Deadlock
import AccessSecurity.Admin.InOrder
import AccessSecurity.Hardware.HonestNetwork
