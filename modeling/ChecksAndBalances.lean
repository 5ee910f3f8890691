import ChecksAndBalances.Lib.Table
import ChecksAndBalances.Lib.Reach
import ChecksAndBalances.Lib.History
import ChecksAndBalances.Lib.Transaction
import ChecksAndBalances.Lib.Sha256
import ChecksAndBalances.Domain.Verification
import ChecksAndBalances.Domain.Attestation
import ChecksAndBalances.Verus.Json
import ChecksAndBalances.Db.Repository
import ChecksAndBalances.Db.Schema
import ChecksAndBalances.Db.Audit
import ChecksAndBalances.Db.Idempotency
import ChecksAndBalances.Db.VerificationRepository
import ChecksAndBalances.Db.AttestationRepository
import ChecksAndBalances.Attestation.Commands
import ChecksAndBalances.Attestation.Effects
import ChecksAndBalances.Attestation.Chain
import ChecksAndBalances.Attestation.Status
import ChecksAndBalances.Attestation.Renewal
import ChecksAndBalances.Db.OutboxRepository
import ChecksAndBalances.Outbox.Effects
import ChecksAndBalances.Outbox.SingleWriter
import ChecksAndBalances.Outbox.Ledger
import ChecksAndBalances.Db.VerusJobRepository
import ChecksAndBalances.Lib.Program
import ChecksAndBalances.Verus.Types
import ChecksAndBalances.Verus.CanonicalContent
import ChecksAndBalances.Verus.Preflight
import ChecksAndBalances.Verus.Reconciliation
import ChecksAndBalances.Verus.Encoding
import ChecksAndBalances.Verus.RpcAdapter
import ChecksAndBalances.Verus.CanonicalForm
import ChecksAndBalances.Verus.RoundTrip
import ChecksAndBalances.Worker.Program
import ChecksAndBalances.Worker.System
import ChecksAndBalances.Worker.Protocol
import ChecksAndBalances.Worker.Store
import ChecksAndBalances.Worker.Steps
import ChecksAndBalances.Worker.Lease
import ChecksAndBalances.Worker.Fencing
import ChecksAndBalances.Worker.Attempts
import ChecksAndBalances.Worker.Agreement
import ChecksAndBalances.Worker.History
import ChecksAndBalances.Worker.Anchors
import ChecksAndBalances.Worker.Payload
import ChecksAndBalances.Worker.WriteGate
import ChecksAndBalances.Worker.Current
import ChecksAndBalances.Worker.Evidence
import ChecksAndBalances.Worker.Ambiguity
import ChecksAndBalances.Worker.SingleWrite
import ChecksAndBalances.Worker.Attribution
import ChecksAndBalances.Worker.Interference
import ChecksAndBalances.Review.Decisions
import ChecksAndBalances.Verus.Supersession
import ChecksAndBalances.Verus.Equality
import ChecksAndBalances.Db.LifecycleRepository
import ChecksAndBalances.Lifecycle.Transition
import ChecksAndBalances.Lifecycle.Constraints
import ChecksAndBalances.Auth.Authorization
import ChecksAndBalances.Auth.Suspension
import ChecksAndBalances.Db.AuthRepository
import ChecksAndBalances.Auth.Services
import ChecksAndBalances.Auth.Contacts
import ChecksAndBalances.Auth.EmailChange
import ChecksAndBalances.Audit.RequestTrail
import ChecksAndBalances.Db.VerusLinkRepository
import ChecksAndBalances.Linking.Effects
import ChecksAndBalances.Linking.Challenges
import ChecksAndBalances.Linking.Links
import ChecksAndBalances.Auth.Calls
import ChecksAndBalances.Auth.Sessions
import ChecksAndBalances.Lib.Threads
import ChecksAndBalances.Auth.Passkeys
import ChecksAndBalances.Auth.System
import ChecksAndBalances.Auth.Contract
import ChecksAndBalances.Auth.Effects
import ChecksAndBalances.Auth.Keys
import ChecksAndBalances.Auth.Enrolled
import ChecksAndBalances.Auth.Challenges
import ChecksAndBalances.Auth.Enrolment
import ChecksAndBalances.Auth.LastPasskey
import ChecksAndBalances.Auth.SignCount
import ChecksAndBalances.Auth.AccountStates
import ChecksAndBalances.Auth.Consent
import ChecksAndBalances.Auth.Grants
import ChecksAndBalances.Verus.Transport
import ChecksAndBalances.Worker.Replay
import ChecksAndBalances.Lifecycle.Scopes
import ChecksAndBalances.Hosted.Store
import ChecksAndBalances.Hosted.Simulation
import ChecksAndBalances.Hosted.Service
import ChecksAndBalances.Hosted.System
import ChecksAndBalances.Hosted.Effects
import ChecksAndBalances.Hosted.OneIdentity
import ChecksAndBalances.Hosted.Client
import ChecksAndBalances.Hosted.Token
import ChecksAndBalances.Verus.Denylist
import ChecksAndBalances.Verus.JobIdentity
import ChecksAndBalances.Verus.Published
import ChecksAndBalances.Worker.CaughtUp
import ChecksAndBalances.Auth.FreeAddress
import ChecksAndBalances.Config.Hostname
import ChecksAndBalances.Config.RuntimeConfig
import ChecksAndBalances.Auth.Enumeration
import ChecksAndBalances.Auth.SingleUse
import ChecksAndBalances.Audit.Growth
import ChecksAndBalances.Auth.SessionSafety
import ChecksAndBalances.Audit.Bounds
import ChecksAndBalances.Audit.Stores
import ChecksAndBalances.Audit.Chain
import ChecksAndBalances.Audit.Evidence
import ChecksAndBalances.Audit.Records
import ChecksAndBalances.Audit.Answers
import ChecksAndBalances.Audit.Replays
import ChecksAndBalances.Linking.HostedClient
import ChecksAndBalances.Linking.Service
import ChecksAndBalances.Linking.Facade
import ChecksAndBalances.Lib.Calls
import ChecksAndBalances.Linking.Contract
import ChecksAndBalances.Linking.ServiceSystem
import ChecksAndBalances.Linking.Provenance
import ChecksAndBalances.Linking.Isolation
import ChecksAndBalances.Linking.Quota
import ChecksAndBalances.Linking.Tokens
import ChecksAndBalances.Hosted.Delivery
