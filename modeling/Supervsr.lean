import Supervsr.Protocol
import Supervsr.Config
import Supervsr.Digest
import Supervsr.Checkpoint
import Supervsr.Superblock
import Supervsr.SuperblockStore
import Supervsr.SuperblockSelection
import Supervsr.SuperblockLayout
import Supervsr.Lib.Ring
import Supervsr.SuperblockPersist
import Supervsr.SuperblockHistory
import Supervsr.SuperblockCrash
import Supervsr.Lib.Table
import Supervsr.Wal
import Supervsr.WalRecovery
import Supervsr.Replica
import Supervsr.ReplicaView
import Supervsr.ReplicaNormal
import Supervsr.ReplicaRecovery
import Supervsr.ReplicaStateSync
import Supervsr.ReplicaViewChange
import Supervsr.ReplicaRepair
import Supervsr.ReplicaProcess
import Supervsr.Open
import Supervsr.Cluster
import Supervsr.ReplicaMove
import Supervsr.ReplicaMoveNormal
import Supervsr.ReplicaMoveView
import Supervsr.ReplicaMoveRound
import Supervsr.RecoveredJournal
import Supervsr.ReplicaOwnership
import Supervsr.CanonicalSuffix
import Supervsr.Frame
import Supervsr.FrameValidation
import Supervsr.PrepareFrame
import Supervsr.RecoveryBounds
import Supervsr.ReplicaPhase
import Supervsr.MemberRun
import Supervsr.ReplicaInstallation
import Supervsr.ReplicaStorage
import Supervsr.OpenDamaged
import Supervsr.JournalAppends
import Supervsr.Execution
import Supervsr.Replay
import Supervsr.ReplyRepair
import Supervsr.ReplicaCalm
import Supervsr.ReplicaLog
import Supervsr.ReplicaCoherence
import Supervsr.GaplessRun
import Supervsr.ResumedReplay
import Supervsr.CheckpointRun
import Supervsr.SuperblockCodec
import Supervsr.StorageZones
import Supervsr.ConfigLimits
import Supervsr.Ewah
import Supervsr.JournalHistory
import Supervsr.CheckpointGraph
import Supervsr.CheckpointWalk
import Supervsr.BlockFetch
import Supervsr.BlockFetchRun
import Supervsr.FrameSessions
import Supervsr.SessionTrailer
import Supervsr.SessionAgreement
import Supervsr.Client
import Supervsr.ReplyFrame
import Supervsr.Random
import Supervsr.Reconfiguration
import Supervsr.ChecksumHasher
