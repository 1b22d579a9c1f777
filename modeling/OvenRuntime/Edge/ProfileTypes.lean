/-
  OvenRuntime.Edge.ProfileTypes
  ─────────────────────────────
  The motion part of the robot bridge configuration.  Numbers are exact
  rationals: the source rejects a configuration with one that is not finite.
-/
import OvenRuntime.Edge.JointGate

namespace OvenRuntime

structure RosBridgeConfig where
  prompts : List (PyStr × PyStr)
  reset_targets : List (PyStr × List ℚ)
  skill_arms : List (PyStr × PyStr)
  image_size : Int := 224
  max_message_age_sec : ℚ := 1 / 2
  preflight_timeout_sec : ℚ := 5
  publish_hz : ℚ := 30
  chunk_transition_steps : Int := 50
  chunk_transition_hz : ℚ := 200
  max_row_delta : List ℚ := [15 / 100, 15 / 100, 15 / 100, 15 / 100, 15 / 100, 15 / 100, 8 / 100]
  reset_duration_sec : ℚ := 4
  reset_tolerance : ℚ := 3 / 100
  reset_verify_timeout_sec : ℚ := 3
  stop_hold_repetitions : Int := 3

/-- `set(a) == set(b)` for the keys of two dicts. -/
def sameKeys {α β : Type} (a : List (PyStr × α)) (b : List (PyStr × β)) : Bool :=
  a.all (fun q => (b.lookup q.1).isSome) && b.all fun q => (a.lookup q.1).isSome

/-- `RosBridgeConfig.validate`. -/
def RosBridgeConfig.validate (config : RosBridgeConfig) : Except PyError Unit :=
  if !sameKeys config.prompts config.reset_targets ∨ !sameKeys config.prompts config.skill_arms then
    .error .ValueError
  else if config.skill_arms.any fun q => q.2 != py "left" && q.2 != py "right" then
    .error .ValueError
  else if config.reset_targets.any fun q => q.2.length != 7 then
    .error .ValueError
  else if config.max_row_delta.length ≠ 7 ∨ config.max_row_delta.any fun d => decide (d ≤ 0) then
    .error .ValueError
  else if config.image_size ≤ 0 ∨ config.max_message_age_sec ≤ 0 ∨
      config.preflight_timeout_sec ≤ 0 ∨ config.publish_hz ≤ 0 ∨
      config.chunk_transition_steps ≤ 0 ∨ config.chunk_transition_hz ≤ 0 ∨
      config.reset_duration_sec ≤ 0 ∨ config.reset_tolerance ≤ 0 ∨
      config.reset_verify_timeout_sec ≤ 0 ∨ config.stop_hold_repetitions ≤ 0 then
    .error .ValueError
  else .ok ()

end OvenRuntime
