import TokenStudio.CodeLib.Text
import TokenStudio.CodeLib.Merkle
import TokenStudio.AttestationTypes.Basic
import TokenStudio.AttestationTypes.Hex
import TokenStudio.AttestationCircuit
import TokenStudio.TokenstudioConfig
import TokenStudio.CodeLib.UInt64
import TokenStudio.Primitives
import TokenStudio.AttestationVerifier.Basic
import TokenStudio.CodeLib.Sha2
import TokenStudio.CodeLib.Ed25519
import TokenStudio.CodeLib.Run
import TokenStudio.AttestationVerifier.Soundness
import TokenStudio.BalanceGate.Core
import TokenStudio.BalanceGate.Guest
import TokenStudio.BalanceGate.Soundness
import TokenStudio.BalanceGate.GateBinding
import TokenStudio.CodeLib.Ed25519Laws
import TokenStudio.PresenterBinding
import TokenStudio.ProofgateGovernance.Basic
import TokenStudio.ProofgateGovernance.Votes
import TokenStudio.AttestationTypes.Serde
import TokenStudio.ProofgateMessaging.Basic
import TokenStudio.ProofgateMessaging.Deliveries
import TokenStudio.ProofgateMessaging.Assembly
import TokenStudio.ProofgateMessaging.Transfer
import TokenStudio.ProofgateMessaging.Panics
import TokenStudio.Canonical
import TokenStudio.BalanceGate.Window
import TokenStudio.GateIsolation
import TokenStudio.JournalPolicy
import TokenStudio.BalanceGate.ClaimRuns
import TokenStudio.BalanceGate.Completeness
import TokenStudio.AttestationVerifier.Completeness
import TokenStudio.LezGateSdk
import TokenStudio.CodeLib.LockedFile
import TokenStudio.JsonFile
import TokenStudio.AttestationCli.ReplayCache
import TokenStudio.ProofgateMessaging.Receive
import TokenStudio.AttestationCli.ReceiveVerify
import TokenStudio.AttestationCli.ChatAdmission
import TokenStudio.ProofgateGovernance.Cli
import TokenStudio.FileWorkflows
import TokenStudio.ProofgateGovernance.Consistency
import TokenStudio.CodeLib.Commute
import TokenStudio.ProofgateGovernance.Commute
import TokenStudio.ProofgateGovernance.Spelling
import TokenStudio.ProofgateGovernance.Capacity
import TokenStudio.ProofgateMessaging.History
import TokenStudio.ProofgateMessaging.ChallengeOrder
import TokenStudio.BalanceGate.TimePolicy
import TokenStudio.CircuitStatement
import TokenStudio.AttestationTypes.Grammar
import TokenStudio.ProofgateGovernance.ProposalIds
import TokenStudio.ProofgateMessaging.AdmissionBinding
import TokenStudio.CodeLib.FirstSeen
import TokenStudio.ProofgateMessaging.Selection
import TokenStudio.CodeLib.Emits
import TokenStudio.ProofgateMessaging.Client
import TokenStudio.ProofgateMessaging.Exchange
import TokenStudio.AttestationCli.ChatTransfer
import TokenStudio.AttestationCli.HolderChallenge
import TokenStudio.AttestationCli.AdmissionRun
import TokenStudio.AttestationProver.Basic
import TokenStudio.AttestationProver.Live
import TokenStudio.CodeLib.AtomicReplace
import TokenStudio.FileBytes
import TokenStudio.ProofgateGovernance.Status
import TokenStudio.LezGateSdk.Claims
import TokenStudio.AttestationCli.OnChain
import TokenStudio.AttestationCli.OnChainRun
import TokenStudio.BasecampTokenstudio
import TokenStudio.ProofgateGovernance.HonestVote
