import Moltbunker.Contracts.Staking.Vesting
import Moltbunker.Contracts.Staking.SpentOnce
import Moltbunker.Contracts.Staking.Identity
import Moltbunker.Contracts.EdgeRegistry.Slashing
import Moltbunker.Contracts.Staking.Allocation
import Moltbunker.Contracts.Staking.Exit
import Moltbunker.Contracts.Staking.Liability
import Moltbunker.Contracts.Escrow.Isolation
import Moltbunker.Contracts.Delegation.Notice
import Moltbunker.Contracts.Verification.Current
import Moltbunker.Contracts.NameRegistry.Metadata
import Moltbunker.Contracts.NameRegistry.Reverse
import Moltbunker.Contracts.Delegation.Undelegate
import Moltbunker.Payment.EventWatcher.Delivery
import Moltbunker.Api.Containers
import Moltbunker.Daemon.Acks.Activation
import Moltbunker.Daemon.Acks.Counting
import Moltbunker.Daemon.Billing
import Moltbunker.Daemon.Escrows.Flag
import Moltbunker.Daemon.Escrows.Reservations
import Moltbunker.P2p.SubnetLimiter
import Moltbunker.P2p.Router.Addressee
import Moltbunker.P2p.Router.Bans
import Moltbunker.P2p.Router.Suppression
import Moltbunker.P2p.Router.Signatures
import Moltbunker.Api.Keys.Live
import Moltbunker.Api.Keys.Revocation
import Moltbunker.Api.Middleware.Identity
import Moltbunker.Payment.MoltCredits
import Moltbunker.Payment.BaseClient.ChainID
import Moltbunker.Payment.BaseClient.Nonces
import Moltbunker.Daemon.Withdrawal
import Moltbunker.Daemon.HealthFailures
import Moltbunker.Daemon.Reputation
import Moltbunker.Daemon.Persistence
import Moltbunker.Runtime.ImageGC
import Moltbunker.Storage.Metering
import Moltbunker.Cloning.Manager
import Moltbunker.Runtime.Logs
import Moltbunker.Proxy.Relay
import Moltbunker.Daemon.MoltManager
import Moltbunker.Contracts.NameRegistry.Available
import Moltbunker.Runtime.ImagePull
