import ZenOS.Library.Runs
import ZenOS.Library.Recency
import ZenOS.Compositor.WindowInvariant
import ZenOS.Compositor.FocusHistory
import ZenOS.Compositor.Configure
import ZenOS.Compositor.InitialConfigure
import ZenOS.Compositor.Confinement
import ZenOS.Compositor.KeyboardFocus
import ZenOS.Compositor.Password
import ZenOS.Compositor.LockOnTop
import ZenOS.Compositor.LockCoverage
import ZenOS.Compositor.LockFrame
import ZenOS.Compositor.SessionLock
import ZenOS.Compositor.IdleTimer
import ZenOS.Compositor.Dbus
import ZenOS.Compositor.LayerOrder
import ZenOS.Compositor.PaintOrder
import ZenOS.Compositor.KeyPairing
import ZenOS.Compositor.Overrides
import ZenOS.Compositor.Requests
import ZenOS.Compositor.Geometry
import ZenOS.Compositor.OutputChoice
import ZenOS.Compositor.MoveGrab
import ZenOS.Compositor.DragLaw
import ZenOS.Compositor.Capabilities
import ZenOS.Compositor.KeyboardSelection
import ZenOS.Compositor.Wallpaper
import ZenOS.Compositor.AspectFill
import ZenOS.Compositor.ThemeMembers
import ZenOS.Compositor.DbusQueue
import ZenOS.Compositor.HitTesting
import ZenOS.Compositor.XwaylandFocus
import ZenOS.Compositor.XwaylandLifecycle
import ZenOS.Compositor.KeybindsRoundTrip
import ZenOS.Compositor.KeybindsIndependence
import ZenOS.Compositor.KeybindsAgreement
import ZenOS.Compositor.KeybindsDispatch
import ZenOS.Compositor.KeybindsLiterals
import ZenOS.Compositor.ProgramStarts
import ZenOS.Compositor.Confidentiality
import ZenOS.Compositor.DbusMethods
import ZenOS.Compositor.PointerRouting
import ZenOS.ImageTools.Scripts
import ZenOS.ImageTools.Build
import ZenOS.Buffers.Balance
import ZenOS.Lifecycle.Records
import ZenOS.Lifecycle.Listeners
import ZenOS.Lifecycle.Devices
import ZenOS.Session.Authentication
import ZenOS.Session.LifeCycle
import ZenOS.QualityGates.Counters
import ZenOS.QualityGates.Completion
import ZenOS.QualityGates.Report
import ZenOS.ZenTest.Verdict
import ZenOS.ZenTest.Agent
import ZenOS.ZenTest.AgentLoop
import ZenOS.ZenTest.AgentOutput
import ZenOS.ZenTest.Qmp
import ZenOS.ZenTest.GateSerial
import ZenOS.ZenTest.SerialAbsent
import ZenOS.ZenTest.SerialScan
import ZenOS.ZenTest.BootWait
import ZenOS.ZenTest.IncrementalTail
import ZenOS.ZenTest.GateOrder
import ZenOS.ZenTest.Screenshot
import ZenOS.ZenTest.Report
import ZenOS.ZenTest.Tap
import ZenOS.ZenTest.VmConfinement
import ZenOS.ZenTest.VmIsolation
import ZenOS.ZenTest.VmKill
import ZenOS.ZenTest.VmCreate
import ZenOS.ZenTest.SavedScreenshots
import ZenOS.ZenTest.AgentExec
import ZenOS.ZenTest.GateOutput
import ZenOS.ZenTest.CrashIsolation
import ZenOS.ZenTest.GateSteps
import ZenOS.ZenTest.GateList
import ZenOS.ZenTest.VmStore
