import ZkSettle.Library.Checks
import ZkSettle.Library.BigEndian
import ZkSettle.Library.Numerals
import ZkSettle.Library.Ledger
import ZkSettle.Library.Runs
import ZkSettle.Stablecoin.Accounts
import ZkSettle.Stablecoin.Token2022
import ZkSettle.Stablecoin.Bank
import ZkSettle.Stablecoin.Instructions
import ZkSettle.Stablecoin.Effects
import ZkSettle.Stablecoin.WellFormed
import ZkSettle.Stablecoin.Escrow
import ZkSettle.Stablecoin.Freeze
import ZkSettle.Stablecoin.Allowance
import ZkSettle.Stablecoin.Supply
import ZkSettle.Stablecoin.Governance
import ZkSettle.Circuit.Main
import ZkSettle.Circuit.Binding
import ZkSettle.Program.Accounts
import ZkSettle.Program.Bindings
import ZkSettle.Program.Issuers
import ZkSettle.Program.HookPayload
import ZkSettle.Program.Settlement
import ZkSettle.Program.Handlers
import ZkSettle.Program.System
import ZkSettle.Program.Effects
import ZkSettle.Program.Staging
import ZkSettle.Program.Reference
import ZkSettle.Program.Guards
import ZkSettle.Program.Replay
import ZkSettle.Program.InFlight
import ZkSettle.Program.Canonicality
import ZkSettle.Crypto.Poseidon2
import ZkSettle.Crypto.Trees
import ZkSettle.Service.State
import ZkSettle.Sdk.Nullifier
import ZkSettle.Sdk.Prove
import ZkSettle.Service.Records
import ZkSettle.Service.Publish
import ZkSettle.Service.System
import ZkSettle.Service.Reachable
import ZkSettle.Service.Attempts
import ZkSettle.Service.Recovery
import ZkSettle.Service.Writers
import ZkSettle.Service.Rotation
import ZkSettle.Service.Confirmation
import ZkSettle.Service.Durability
import ZkSettle.Crypto.Proofs
import ZkSettle.Service.Coherence
import ZkSettle.Crypto.Sanctions
import ZkSettle.Service.Paths
import ZkSettle.Sdk.Completeness
import ZkSettle.Sdk.Upload
import ZkSettle.Frontend.Flow
import ZkSettle.Frontend.Submit
import ZkSettle.Gateway.Metering
import ZkSettle.Gateway.Calls
import ZkSettle.Gateway.Admission
import ZkSettle.Gateway.Billing
import ZkSettle.Crypto.Sparse
import ZkSettle.Indexer.Events
import ZkSettle.Library.Pages
import ZkSettle.Program.Records
import ZkSettle.Indexer.Pagination
import ZkSettle.Indexer.Parse
import ZkSettle.Indexer.Logs
import ZkSettle.Indexer.Archive
import ZkSettle.Indexer.Uploads
import ZkSettle.Indexer.Rows
import ZkSettle.Indexer.Settlements
import ZkSettle.Indexer.Handler
import ZkSettle.Gateway.Nonces
import ZkSettle.Gateway.Siws
import ZkSettle.Gateway.Login
import ZkSettle.Crypto.Openings
import ZkSettle.Service.Fetch
import ZkSettle.Service.Persistence
import ZkSettle.Program.Exactness
import ZkSettle.Gateway.Usage
import ZkSettle.Library.Gregorian
import ZkSettle.Gateway.Calendar
import ZkSettle.Indexer.Dedup
import ZkSettle.Library.Sha256
import ZkSettle.Stablecoin.Layout
import ZkSettle.Sdk.Accounts
import ZkSettle.Sdk.Audit
import ZkSettle.Sdk.Hexadecimal
import ZkSettle.Frontend.Nullifier
import ZkSettle.Frontend.Amounts
import ZkSettle.Service.Auth
import ZkSettle.Frontend.WalletAuth
import ZkSettle.Library.Fields
import ZkSettle.Crypto.Permutation
import ZkSettle.Crypto.Absorption
import ZkSettle.Library.Doubles
import ZkSettle.Service.Groth16
import ZkSettle.Frontend.Groth16
import ZkSettle.Program.Ownership
import ZkSettle.Service.Entitlement
import ZkSettle.Gateway.Custody
import ZkSettle.Frontend.Delivery
import ZkSettle.Frontend.Landing
import ZkSettle.Frontend.Progress
import ZkSettle.Gateway.Isolation
import ZkSettle.Indexer.Chain
