/-
  OvenRuntime.Edge.Connections
  ────────────────────────────
  What `main` builds from a profile to reach the server: the tunnel and the two
  clients, each with checks of its own.
-/
import OvenRuntime.Edge.ControlClient
import OvenRuntime.Edge.InferenceClient
import OvenRuntime.Edge.Profile

namespace OvenRuntime

/-! ## §1. The tunnel. -/

structure SshInferenceTunnel where
  host_alias : PyStr
  local_port : Int
  remote_port : Int
  startup_timeout_sec : ℚ

namespace SshInferenceTunnel

/-- The constructor. -/
def init (host_alias : PyStr) (local_port remote_port : Int) (startup_timeout_sec : ℚ) :
    Except PyError SshInferenceTunnel :=
  if !HOST_ALIAS_PATTERN host_alias then .error .ValueError
  else if ¬ (1 ≤ local_port ∧ local_port ≤ 65535) ∨
      ¬ (1 ≤ remote_port ∧ remote_port ≤ 65535) then
    .error .ValueError
  else if startup_timeout_sec ≤ 0 then .error .ValueError
  else .ok
    { host_alias := host_alias, local_port := local_port, remote_port := remote_port,
      startup_timeout_sec := startup_timeout_sec }

/-- The address of this host that `ssh` listens on. -/
def listen_host : PyStr := py "127.0.0.1"

end SshInferenceTunnel

/-! ## §2. The clients. -/

structure InferenceClient where
  uri : PyStr
  timeout_sec : ℚ

/-- The constructor. -/
def InferenceClient.init (uri : PyStr) (timeout_sec : ℚ) : Except PyError InferenceClient :=
  if !(py "ws://127.0.0.1:").isPrefixOf uri && !(py "ws://[::1]:").isPrefixOf uri then
    .error .ValueError
  else if timeout_sec ≤ 0 then .error .ValueError
  else .ok { uri := uri, timeout_sec := timeout_sec }

/-- An optional slash and one or more of `[A-Za-z0-9_.-]` and slashes. -/
def PROGRAM_PATTERN (text : PyStr) : Bool :=
  !text.isEmpty && text.all fun c => c.isIdChar || c == SLASH

/-- The constructor; the arguments only become part of a command line. -/
def SshControlClient.init (host_alias remote_program : PyStr) (remote_runtime_root : Option PyStr)
    (timeout_sec : ℚ) : Except PyError SshControlClient :=
  if !HOST_ALIAS_PATTERN host_alias then .error .ValueError
  else if !PROGRAM_PATTERN remote_program ∨ py ".." ∈ remote_program.splitOn SLASH then
    .error .ValueError
  else if timeout_sec ≤ 0 then .error .ValueError
  else if remote_runtime_root.any fun text =>
      let root := PurePosixPath.parse text
      !root.is_absolute || root.parts.contains (py "..") then
    .error .ValueError
  else .ok {}

/-! ## §3. `main`. -/

structure EdgeConnections where
  tunnel : SshInferenceTunnel
  control : SshControlClient
  inference : InferenceClient

/-- The connections of `main`. -/
def EdgeConnections.build (env : ProfileEnvironment) (profile : AgilexProfile) :
    Except PyError EdgeConnections := do
  let uri ← urlsplit env.netlocOk profile.inference_uri
  match ← uri.port with
  | none => throw .Other
  | some port => do
      -- the argument parser exits
      if uri.scheme ≠ py "ws" ∨ uri.hostname ∉ LOOPBACK_HOSTS.map some then throw .Other
      let tunnel ← SshInferenceTunnel.init profile.server_host_alias port
        profile.remote_inference_port 10
      let control ← SshControlClient.init profile.server_host_alias profile.remote_control_program
        (some profile.remote_runtime_root.str) 180
      let inference ← InferenceClient.init profile.inference_uri profile.inference_timeout_sec
      return { tunnel := tunnel, control := control, inference := inference }

/-- The validator of action chunks that `main` builds. -/
def AgilexProfile.actionValidator (profile : AgilexProfile) : ActionValidator where
  action_dimension := profile.action_dimension
  chunk_rows := profile.action_chunk_rows
  max_absolute_value := .fin profile.action_max_absolute_value

end OvenRuntime
