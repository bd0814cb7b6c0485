import DoorsControl.Api.ClientIp
import DoorsControl.Api.Denials
import DoorsControl.Api.Indistinguishable
import DoorsControl.Api.Padding
import DoorsControl.Api.Respelling
import DoorsControl.App.Refresh
import DoorsControl.App.UnlockRuns
import DoorsControl.Audit.AnyStart
import DoorsControl.Audit.Append
import DoorsControl.Audit.Grants
import DoorsControl.Audit.Insert
import DoorsControl.Audit.Paging
import DoorsControl.Audit.Partitions
import DoorsControl.Audit.Retention
import DoorsControl.Audit.Serialisation
import DoorsControl.Audit.Tamper
import DoorsControl.Auth.Families
import DoorsControl.Auth.Interrupted
import DoorsControl.Backend.Closing
import DoorsControl.Backend.ControllerRows
import DoorsControl.Backend.GrantHistory
import DoorsControl.Backend.HandshakeEnd
import DoorsControl.Backend.Heartbeat
import DoorsControl.Backend.HubRun
import DoorsControl.Backend.Refusals
import DoorsControl.Backend.WholeWeek
import DoorsControl.Deploy.Migrations
import DoorsControl.Enrollment.Blocking
import DoorsControl.Enrollment.DerEncoding
import DoorsControl.Enrollment.Handled
import DoorsControl.Enrollment.Malformed
import DoorsControl.Enrollment.Offsets
import DoorsControl.Firmware.Ceiling
import DoorsControl.Firmware.PulseTiming
import DoorsControl.System.AcceptanceWindow
import DoorsControl.System.ControllerAuth
import DoorsControl.System.Freshness
import DoorsControl.System.Outcomes
import DoorsControl.System.Presence
import DoorsControl.System.SignedUpdate
import DoorsControl.System.Signing
import DoorsControl.System.Writers
