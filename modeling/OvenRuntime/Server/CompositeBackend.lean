/-
  OvenRuntime.Server.CompositeBackend
  ───────────────────────────────────
  `OpenPiCompositeBackend`: policies built from one shared parameter tree and
  the adapter of a skill.

  OpenPI, JAX and Flax are parameters: functions of their arguments, none of
  which changes them.  Whether a particular call of one of them raises is
  decided outside, call by call.  A policy is an object; `ref` is its identity.
-/
import OvenRuntime.Lib.Dictionary
import OvenRuntime.Server.Runtime

namespace OvenRuntime

/-! ## §1. What comes from outside. -/

/-- The parts of a resolved absolute path. -/
abbrev PyPath := List PyStr

/-- `path.name`. -/
def PyPath.name (path : PyPath) : PyStr := path.getLast?.getD []

/-- What an OpenPI data configuration holds. -/
structure DataConfig (Transform : Type) where
  asset_id : Option PyStr
  use_quantile_norm : Bool
  data_inputs : List Transform
  model_inputs : List Transform
  model_outputs : List Transform
  data_outputs : List Transform

/-- The libraries below the backend. -/
structure OpenPi where
  Params : Type
  Leaf : Type
  Config : Type
  Model : Type
  Stats : Type
  Transform : Type
  Key : Type
  Noise : Type
  /-- `model_lib.restore_params(path, ...)` -/
  restore_params : PyPath → Params
  /-- `flatten_dict(tree, sep="/")`, a dictionary. -/
  flatten_dict : Params → List (PyStr × Leaf)
  flatten_nodup : ∀ tree, ((flatten_dict tree).map Prod.fst).Nodup
  unflatten_dict : List (PyStr × Leaf) → Params
  get_config : PyStr → Config
  /-- `config.model.load(params)` -/
  load : Config → Params → Model
  /-- `config.data.create(config.assets_dirs, config.model)` -/
  create : Config → DataConfig Transform
  /-- `config.policy_metadata or {}` -/
  policy_metadata : Config → Dict
  /-- `(config.model.action_horizon, config.model.action_dim)` -/
  action_shape : Config → Nat × Nat
  load_norm_stats : PyPath → PyStr → Stats
  /-- `transforms.InjectDefaultPrompt(None)` -/
  inject_default_prompt : Transform
  normalize : Stats → Bool → Transform
  unnormalize : Stats → Bool → Transform
  /-- `jax.random.key(seed)` -/
  key : Int → Key
  /-- The generator a new policy starts with. -/
  policy_rng : Key
  /-- `jax.random.split(key)` -/
  split : Key → Key × Key
  normal : Key → Nat × Nat → Noise
  /-- `stable_tree_hash(noise)` -/
  noise_hash : Noise → PyStr
  /-- `np.asarray(value)` -/
  asarray : Value → Value

structure CompositeSkillSpec where
  name : PyStr
  config_name : PyStr
  checkpoint : PyPath
  adapter : PyPath
  manifest : PyPath

structure CompositeBackendProfile where
  shared_params : PyPath
  skills : List (PyStr × CompositeSkillSpec)

/-- The files as one `prepare` finds them. -/
structure AssetFiles where
  is_dir : PyPath → Bool
  is_file : PyPath → Bool
  /-- `json.loads(path.read_text(encoding="utf-8"))` -/
  read_json : PyPath → Except Exn Value
  /-- `str(value)` of a value that is no string. -/
  text : Value → PyStr
  /-- `Path(text).resolve()` -/
  resolve : PyStr → Except Exn PyPath

/-- How the calls of one `prepare` end: the exception each raises, if it does. -/
structure PrepareIo where
  files : AssetFiles
  restore_params : Option Exn := none
  get_config : Option Exn := none
  load : Option Exn := none
  create : Option Exn := none
  load_norm_stats : Option Exn := none
  policy : Option Exn := none
  /-- `_sha256_file(spec.manifest)` -/
  sha256_file : Except Exn PyStr

/-- How the policy call of one `infer` ends, and the generator it leaves in
the policy. -/
structure InferIo (api : OpenPi) where
  result : Except Exn Value
  rng : api.Key

/-! ## §2. The backend. -/

/-- `policy_lib.Policy`. -/
structure Policy (api : OpenPi) where
  ref : Nat
  model : api.Model
  transforms : List api.Transform
  output_transforms : List api.Transform
  metadata : Dict
  _rng : api.Key

/-- `OpenPiCompositeBackend`; `refs` counts the policies built so far. -/
structure OpenPiCompositeBackend (api : OpenPi) where
  profile : CompositeBackendProfile
  _shared : List (PyStr × api.Leaf)
  _active_spec : Option CompositeSkillSpec := none
  _active_config : Option api.Config := none
  _policy : Option (Policy api) := none
  _noise_rng : api.Key
  refs : Nat := 0

/-- What `prepare` returns. -/
structure CompositeIdentity extends BackendIdentity where
  asset_hashes : List (PyStr × PyStr)

/-- Raise the exception, if there is one. -/
def raiseIf : Option Exn → Except Exn Unit
  | some e => .error e
  | none => .ok ()

/-- `manifest.get(name)` of a parsed JSON text. -/
def manifestGet (manifest : Value) (name : String) : Except Exn (Option Value) :=
  match manifest with
  | .map entries => .ok (Dict.get? entries name)
  | _ => .error (.error .Other)

/-- `Path(str(manifest.get(name, ""))).resolve()`. -/
def AssetFiles.manifestPath (files : AssetFiles) (manifest : Value) (name : String) :
    Except Exn PyPath := do
  match ← manifestGet manifest name with
  | none => files.resolve []
  | some (.str s) => files.resolve s
  | some value => files.resolve (files.text value)

/-- `_validate_assets`. -/
def _validate_assets (files : AssetFiles) (spec : CompositeSkillSpec) : Except Exn Unit := do
  if !(files.is_dir spec.checkpoint && files.is_dir spec.adapter
      && files.is_file spec.manifest) then
    throw (.error .OSError)
  let manifest ← files.read_json spec.manifest
  let artifact_type ← manifestGet manifest "artifact_type"
  if !(match artifact_type with
      | some (.str s) => decide (s = py "exact_composite_adapter")
      | _ => false) then
    throw (.error .ValueError)
  let recomposition ← manifestGet manifest "exact_parameter_recomposition"
  if !(match recomposition with
      | some (.bool b) => b
      | _ => false) then
    throw (.error .ValueError)
  let full_checkpoint ← files.manifestPath manifest "full_checkpoint"
  if full_checkpoint ≠ spec.checkpoint ++ [py "params"] then throw (.error .ValueError)
  let adapter ← files.manifestPath manifest "adapter"
  if adapter ≠ spec.adapter then throw (.error .ValueError)

namespace OpenPiCompositeBackend

variable {api : OpenPi}

/-- `__init__`, once the shared parameter tree is restored. -/
def init (api : OpenPi) (profile : CompositeBackendProfile) : OpenPiCompositeBackend api :=
  { profile := profile
    _shared := api.flatten_dict (api.restore_params profile.shared_params)
    _noise_rng := api.key 0 }

/-- The policy of a skill, from the merged parameters. -/
def buildPolicy (api : OpenPi) (ref : Nat) (skill : PyStr) (config : api.Config)
    (stats : api.Stats) (merged : List (PyStr × api.Leaf)) : Policy api :=
  let data_config := api.create config
  { ref := ref
    model := api.load config (api.unflatten_dict merged)
    transforms := [api.inject_default_prompt] ++ data_config.data_inputs ++
      [api.normalize stats data_config.use_quantile_norm] ++ data_config.model_inputs
    output_transforms := data_config.model_outputs ++
      [api.unnormalize stats data_config.use_quantile_norm] ++ data_config.data_outputs
    metadata := Dictionary.update (api.policy_metadata config)
      [(.str (py "oven_runtime_skill"), .str skill)]
    _rng := api.policy_rng }

/-- What `prepare` has in hand before it replaces anything. -/
structure Assembled (api : OpenPi) where
  spec : CompositeSkillSpec
  config : api.Config
  policy : Policy api
  overlap : Nat

/-- `prepare` up to the replacement. -/
def assemble (b : OpenPiCompositeBackend api) (skill : PyStr) (io : PrepareIo) :
    Except Exn (Assembled api) := do
  match b.profile.skills.lookup skill with
  | none => throw (.error .ValueError)
  | some spec =>
      _validate_assets io.files spec
      raiseIf io.restore_params
      let adapter := api.flatten_dict (api.restore_params spec.adapter)
      let overlap := (adapter.filter fun e => (b._shared.lookup e.1).isSome).length
      let merged := Dictionary.update b._shared adapter
      raiseIf io.get_config
      let config := api.get_config spec.config_name
      raiseIf io.load
      raiseIf io.create
      match (api.create config).asset_id with
      | none => throw (.error .ValueError)
      | some asset_id =>
          raiseIf io.load_norm_stats
          let stats := api.load_norm_stats (spec.checkpoint ++ [py "assets"]) asset_id
          raiseIf io.policy
          return { spec := spec, config := config
                   policy := buildPolicy api b.refs skill config stats merged
                   overlap := overlap }

/-- The replacement. -/
def commit (b : OpenPiCompositeBackend api) (a : Assembled api) : OpenPiCompositeBackend api :=
  { b with
    _active_spec := some a.spec
    _active_config := some a.config
    _policy := some a.policy
    _noise_rng := api.key 0
    refs := b.refs + 1 }

/-- `prepare`. -/
def prepare (b : OpenPiCompositeBackend api) (skill : PyStr) (io : PrepareIo) :
    Except Exn CompositeIdentity × OpenPiCompositeBackend api :=
  match b.assemble skill io with
  | .error e => (.error e, b)
  | .ok a =>
      -- the manifest is hashed for the result, after the replacement
      match io.sha256_file with
      | .error e => (.error e, b.commit a)
      | .ok manifest_hash =>
          (.ok { backend := py "openpi-composite"
                 skill := skill
                 model_id := a.spec.config_name ++ py ":" ++ a.spec.checkpoint.name
                 asset_hashes := [(py "adapter_manifest", manifest_hash),
                   (py "adapter_overwrite_leaves", pyNat a.overlap)] },
            b.commit a)

/-- `infer`. -/
def infer (b : OpenPiCompositeBackend api) (io : InferIo api) :
    Except Exn BackendResult × OpenPiCompositeBackend api :=
  match b._policy, b._active_config, b._active_spec with
  | some policy, some config, some _ =>
      let (rng, sample_key) := api.split b._noise_rng
      let noise := api.normal sample_key (api.action_shape config)
      let b := { b with _noise_rng := rng, _policy := some { policy with _rng := io.rng } }
      match io.result with
      | .error e => (.error e, b)
      | .ok (.map entries) =>
          match Dict.get? entries "actions" with
          | some actions =>
              (.ok { actions := api.asarray actions, noise_hash := api.noise_hash noise }, b)
          | none => (.error (.error .RuntimeError), b)
      | .ok _ => (.error (.error .RuntimeError), b)
  | _, _, _ => (.error (.error .RuntimeError), b)

/-- `reset_prng`. -/
def reset_prng (b : OpenPiCompositeBackend api) (seed : Int) : OpenPiCompositeBackend api :=
  { b with
    _noise_rng := api.key seed
    _policy := b._policy.map fun policy => { policy with _rng := api.key seed } }

/-! ## §3. Calls. -/

/-- A call of the backend, with how its external calls end. -/
inductive Call (api : OpenPi) where
  | prepare (skill : PyStr) (io : PrepareIo)
  | infer (io : InferIo api)
  | reset_prng (seed : Int)

/-- The backend after one more call. -/
def after (b : OpenPiCompositeBackend api) : Call api → OpenPiCompositeBackend api
  | .prepare skill io => (b.prepare skill io).2
  | .infer io => (b.infer io).2
  | .reset_prng seed => b.reset_prng seed

/-- A backend just constructed, after the calls. -/
def run (api : OpenPi) (profile : CompositeBackendProfile) (calls : List (Call api)) :
    OpenPiCompositeBackend api := calls.foldl after (init api profile)

end OpenPiCompositeBackend

end OvenRuntime
