import XeniaPeer.Session.Lanes
import XeniaPeer.Consent.Replay
import XeniaPeer.Consent.SealedChannel
import XeniaPeer.Ledger.Seal
import XeniaPeer.Operator.DaemonMessages
import XeniaPeer.Consent.Archiving
import XeniaPeer.Consent.Purge.Runs
import XeniaPeer.Operator.Enrollment
import XeniaPeer.Zk.Verification
import XeniaPeer.Transfer.Daemon
import XeniaPeer.Operator.Audit
import XeniaPeer.Viewer.KnownHosts
import XeniaPeer.Storage.SingleInstance
import XeniaPeer.Evidence.TrustPolicy
import XeniaPeer.Capture.Scrcpy
import XeniaPeer.Inject.SessionInput
import XeniaPeer.Operator.BroadGrants
import XeniaPeer.Consent.Destruction
import XeniaPeer.Consent.RetainedCheckpoint
import XeniaPeer.Ledger.Witness
import XeniaPeer.Audio.JitterBuffer
import XeniaPeer.Session.RekeyDue
import XeniaPeer.Video.Keyframes
import XeniaPeer.Launcher.LogTail
import XeniaPeer.Launcher.Worker
import XeniaPeer.Transfer.Upload
import XeniaPeer.Viewer.PointerButtons
