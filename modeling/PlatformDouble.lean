import PlatformDouble.World
import PlatformDouble.Proofs.Gate.LedgerSimulation
import PlatformDouble.Proofs.Gate.Protocol
import PlatformDouble.Proofs.Gate.Client
import PlatformDouble.Proofs.Gate.Soundness
import PlatformDouble.Proofs.Gate.Alternation
import PlatformDouble.Proofs.Gate.Lineage
import PlatformDouble.Proofs.Gate.Retention
import PlatformDouble.Proofs.Gate.Rollback
import PlatformDouble.Proofs.Gate.Naming
import PlatformDouble.Proofs.Gate.Enrolment
import PlatformDouble.Proofs.Host.GateWork
import PlatformDouble.Proofs.Host.PlatformRoles
import PlatformDouble.Proofs.EnvFile.Loading
import PlatformDouble.Proofs.Config.Resolution
import PlatformDouble.Proofs.Config.Conformity
import PlatformDouble.Proofs.Config.Export
import PlatformDouble.Proofs.Gate.Reading
import PlatformDouble.Proofs.Host.QuietWork
import PlatformDouble.Proofs.Host.CursorWork
import PlatformDouble.Proofs.Host.CursorRuns
import PlatformDouble.Proofs.Config.Validity
import PlatformDouble.Proofs.EnvFile.Repetition
import PlatformDouble.Proofs.Host.Loads
import PlatformDouble.Proofs.EnvFile.Emptiness
import PlatformDouble.Proofs.Config.Emptiness
import PlatformDouble.Proofs.Gate.Telling
import PlatformDouble.Proofs.Gate.Seclusion
import PlatformDouble.Proofs.Host.Scripts
import PlatformDouble.Proofs.Traced.SideBySide
import PlatformDouble.Proofs.Host.SideBySide
import PlatformDouble.Proofs.Host.LevelCalls
import PlatformDouble.Proofs.Host.LevelRuns
import PlatformDouble.Proofs.Host.Upkeep
import PlatformDouble.Proofs.Host.RunUpkeep
import PlatformDouble.Proofs.Host.FixedAnswers
import PlatformDouble.Proofs.Host.HolderSnapshot
import PlatformDouble.Proofs.Logging.Levels
import PlatformDouble.Proofs.Config.AppliedLevel
import PlatformDouble.Proofs.Host.AppliedLevels
import PlatformDouble.Proofs.Config.Fallback
import PlatformDouble.Proofs.Config.AcceptedOptions
import PlatformDouble.Proofs.Host.AllOrNothing
import PlatformDouble.Proofs.Gate.DiscoveryPaths
import PlatformDouble.Proofs.ComponentName.RoundTrip
import PlatformDouble.Proofs.ComponentName.CanonicalText
import PlatformDouble.Proofs.Config.FailedMaking
