import OvenRuntime.Lib.TransitionSystem
import OvenRuntime.Server.Calls
import OvenRuntime.Server.AuditRules
import OvenRuntime.Server.RuntimeRules
import OvenRuntime.Server.StepRules
import OvenRuntime.Server.Invariants
import OvenRuntime.Server.Replay
import OvenRuntime.Lib.Keyed
import OvenRuntime.Server.Effects
import OvenRuntime.Server.ExactlyOnce
import OvenRuntime.Server.Commit
import OvenRuntime.Server.FailClosed
import OvenRuntime.Edge.Contracts
import OvenRuntime.Edge.JointGate
import OvenRuntime.Edge.JointGateTrace
import OvenRuntime.Edge.ProfileTypes
import OvenRuntime.Edge.Ros2Action
import OvenRuntime.Lib.StepLimit
import OvenRuntime.Edge.MotionLimit
import OvenRuntime.Edge.Orchestrator
import OvenRuntime.Edge.OrchestratorRules
import OvenRuntime.Edge.StageGates
import OvenRuntime.Edge.SafeStop
import OvenRuntime.Server.Switching
import OvenRuntime.Server.Overlap
import OvenRuntime.Server.Answered
import OvenRuntime.Server.Evidence
import OvenRuntime.Lib.Mealy
import OvenRuntime.Server.Reproduce
import OvenRuntime.Common.Encoding
import OvenRuntime.Lib.PathTree
import OvenRuntime.Common.NumPy
import OvenRuntime.Common.Json
import OvenRuntime.Common.PyObject
import OvenRuntime.Common.Hashing
import OvenRuntime.Common.HashFrames
import OvenRuntime.Common.HashSeparation
import OvenRuntime.Common.Wire
import OvenRuntime.Common.WireRules
import OvenRuntime.Common.WireRoundTrip
import OvenRuntime.Common.HashWire
import OvenRuntime.Server.Origin
import OvenRuntime.Edge.InferenceClient
import OvenRuntime.System.HonestReply
import OvenRuntime.Edge.ActionValidation
import OvenRuntime.Server.TrialEvidence
import OvenRuntime.Common.ProtocolRules
import OvenRuntime.Server.Admission
import OvenRuntime.Server.Solo
import OvenRuntime.Server.Expiry
import OvenRuntime.Edge.Audit
import OvenRuntime.Edge.RunEvidence
import OvenRuntime.Edge.Verdict
import OvenRuntime.Common.Delivery
import OvenRuntime.Server.Diagnostics
import OvenRuntime.System.Observation
import OvenRuntime.Edge.Rollout
import OvenRuntime.Edge.RolloutAccounts
import OvenRuntime.Lib.Lockstep
import OvenRuntime.Server.TokenSecrecy
import OvenRuntime.Edge.FinalGate
import OvenRuntime.Edge.AuditAtomicity
import OvenRuntime.Edge.CommandBox
import OvenRuntime.Edge.GateWindow
import OvenRuntime.Edge.ResetTrajectory
import OvenRuntime.Common.JsonText
import OvenRuntime.System.RequestBinding
import OvenRuntime.System.TrialIds
import OvenRuntime.Lib.Dictionary
import OvenRuntime.Server.AdapterSwitching
import OvenRuntime.Common.JsonDocument
import OvenRuntime.Common.JsonRoundTrip
import OvenRuntime.Server.ControlProtocol
import OvenRuntime.Edge.ControlClient
import OvenRuntime.Server.ControlServer
import OvenRuntime.Common.JsonBytes
import OvenRuntime.Server.ControlRules
import OvenRuntime.System.ControlPath
import OvenRuntime.Common.PosixPath
import OvenRuntime.Common.Url
import OvenRuntime.Edge.Profile
import OvenRuntime.Edge.Connections
import OvenRuntime.Edge.ProfileAgreement
import OvenRuntime.Common.HashOrder
import OvenRuntime.System.ReadLoop
import OvenRuntime.Server.Undisturbed
import OvenRuntime.System.Composition
import OvenRuntime.System.Conformance
import OvenRuntime.System.Rehearsal
import OvenRuntime.System.Recovery
import OvenRuntime.Server.LockHolder
import OvenRuntime.System.Refinement
import OvenRuntime.Server.Directories
import OvenRuntime.Server.TrialRecording
import OvenRuntime.System.AuditAgreement
import OvenRuntime.System.Campaign
import OvenRuntime.Server.InferenceServer
import OvenRuntime.Server.ProcessRules
import OvenRuntime.System.ProcessReplay
import OvenRuntime.System.Responses
import OvenRuntime.System.ProcessSwitching
import OvenRuntime.System.Shutdown
import OvenRuntime.Server.ControlSocket
import OvenRuntime.Edge.Checker
import OvenRuntime.Edge.CheckerVerdicts
