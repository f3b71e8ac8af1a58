import TridentInstaller.Quantity
import TridentInstaller.World
import TridentInstaller.Run
import TridentInstaller.Names
import TridentInstaller.Objects
import TridentInstaller.Volume
import TridentInstaller.Overrides
import TridentInstaller.Readiness
import TridentInstaller.Install
import TridentInstaller.Calls
import TridentInstaller.PreChecks
import TridentInstaller.Plan
import TridentInstaller.Store
import TridentInstaller.Rerun
import TridentInstaller.DryRun
import TridentInstaller.Idempotence
import TridentInstaller.Footprint
import TridentInstaller.Ordering
import TridentInstaller.Generate
import TridentInstaller.Command
import TridentInstaller.CustomFiles
import TridentInstaller.Failures
