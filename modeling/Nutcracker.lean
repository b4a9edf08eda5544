import Nutcracker.Platform.Frame
import Nutcracker.Properties.ReportToPwm
import Nutcracker.Platform.Effects
import Nutcracker.Platform.Footprint
import Nutcracker.Properties.Roster
import Nutcracker.Properties.Registry
import Nutcracker.Platform.Outputs
import Nutcracker.Program.Timetable
import Nutcracker.Properties.ExhibitShow
import Nutcracker.Properties.Roles
import Nutcracker.Properties.Handover
import Nutcracker.Program.Protocol
import Nutcracker.Platform.CallbackFootprint
import Nutcracker.Properties.Scanning
import Nutcracker.Properties.LightStrip
import Nutcracker.Properties.RadarRest
import Nutcracker.Platform.Allowlist
import Nutcracker.Properties.AllowlistClosed
import Nutcracker.Properties.TimedActuators
import Nutcracker.Platform.Rounds
import Nutcracker.Properties.Sessions
import Nutcracker.Properties.HoldGestures
import Nutcracker.Rccar.WheelTest
import Nutcracker.Properties.WheelTestCancel
import Nutcracker.Platform.Threads
import Nutcracker.Properties.TurretDpad
import Nutcracker.Platform.Inbox
import Nutcracker.Program.Presses
import Nutcracker.Properties.OneAction
import Nutcracker.Program.Scaling
import Nutcracker.Properties.MecanumMix
import Nutcracker.Properties.DiagonalSnap
import Nutcracker.Properties.BoardStopped
import Nutcracker.Program.Machine
import Nutcracker.Properties.IdleToMove
import Nutcracker.Rccar.Comparators
import Nutcracker.Properties.MotorOutput
import Nutcracker.Properties.MistPulse
import Nutcracker.Properties.LaserRumble
import Nutcracker.Program.Interpolation
import Nutcracker.Properties.RadarSweep
import Nutcracker.Properties.StandstillExhaust
import Nutcracker.Program.Feedback
import Nutcracker.Properties.BoardAxes
import Nutcracker.Properties.BoardSmoothing
import Nutcracker.Program.Observed
import Nutcracker.Properties.MotorCommands
import Nutcracker.Platform.Unchanged
import Nutcracker.Properties.StaleCommands
import Nutcracker.Properties.AfterDeparture
import Nutcracker.Properties.Dormancy
import Nutcracker.Properties.FailsafeLatch
import Nutcracker.Program.Advance
import Nutcracker.Program.Mailbox
import Nutcracker.Platform.Cores
import Nutcracker.Properties.CoreThreads
import Nutcracker.Properties.UnconnectedCar
import Nutcracker.Properties.CoreRegister
import Nutcracker.Properties.Confinement
import Nutcracker.Properties.CoreMailbox
import Nutcracker.Properties.AtomicRuns
import Nutcracker.Program.BlockCode
import Nutcracker.Program.Resumable
import Nutcracker.Rccar.Dfplayer
import Nutcracker.Properties.SoundModule
import Nutcracker.Platform.CoreRule
import Nutcracker.Platform.Vocabulary
import Nutcracker.Properties.SoundOfThreads
import Nutcracker.Properties.Volume
import Nutcracker.Properties.TimerDelays
import Nutcracker.Properties.IdleMusic
import Nutcracker.Rccar.Ws2812
import Nutcracker.Properties.LedFrames
