/-
  OvenRuntime.Edge.Checker
  ────────────────────────
  The visual checker, as a program over the file system, PyTorch, the front
  camera and a clock.

  A model file is read twice: once for its hash, once to load it.  One model is
  kept, and a skill that is evaluated again finds it there.  What the libraries
  make of a file, of a list of image transforms and of an image is left to them:
  each such call may return anything of its type, or raise.

  What a verdict of the checker rests on is the subject of
  `OvenRuntime.Edge.CheckerVerdicts`.
-/
import OvenRuntime.Edge.Contracts
import OvenRuntime.Edge.Profile
import OvenRuntime.Lib.EffectProgram

namespace OvenRuntime

open EffectProgram

/-! ## §1. Paths. -/

/-- `path / other` for a relative path. -/
def PurePosixPath.joinpath (path other : PurePosixPath) : PurePosixPath where
  root := path.root
  names := path.names ++ other.names
  named name h := (List.mem_append.mp h).elim (path.named name) (other.named name)

/-- `path.relative_to(root)` returns. -/
def PurePosixPath.is_relative_to (path root : PurePosixPath) : Bool :=
  path.root = root.root && root.names.isPrefixOf path.names

/-! ## §2. Numbers. -/

/-- `x > y` or `x` is the first that is no number: what `np.argmax` goes for. -/
def PyFloat.above : PyFloat → PyFloat → Bool
  | _, .nan => false
  | .nan, _ => true
  | .posInf, y => y != .posInf
  | _, .posInf => false
  | x, .negInf => x != .negInf
  | .negInf, _ => false
  | .fin p, .fin q => decide (q < p)
  | .fin p, .negZero => decide (0 < p)
  | .negZero, .fin q => decide (q < 0)
  | .negZero, .negZero => false

/-- `x >= q`. -/
def PyFloat.atLeast (q : ℚ) : PyFloat → Bool
  | .fin p => decide (q ≤ p)
  | .negZero => decide (q ≤ 0)
  | .posInf => true
  | .negInf | .nan => false

/-- The search of `np.argmax`, from an index on: the best entry so far, and where it is. -/
def argmaxFrom (best : PyFloat) (found : Nat) : Nat → List PyFloat → Nat
  | _, [] => found
  | index, x :: xs =>
      if x.above best then argmaxFrom x index (index + 1) xs
      else argmaxFrom best found (index + 1) xs

/-- `np.argmax`; it raises for an empty array. -/
def argmax : List PyFloat → Except PyError Nat
  | [] => .error .ValueError
  | x :: xs => .ok (argmaxFrom x 0 1 xs)

/-! ## §3. Checkers. -/

/-- A transform of torchvision; a tuple goes as a list. -/
inductive ImageTransform where
  | Resize (size : Value)
  | CenterCrop (size : Int)
  | ToTensor
  | Normalize (mean std : Value)

/-- The calls of a checker. -/
inductive CheckerCall (Model Transform : Type) where
  -- the file system
  | resolve (path : PurePosixPath)
  | is_file (path : PurePosixPath)
  /-- The blocks `_sha256_file` reads, put together. -/
  | read (path : PurePosixPath)
  /-- `torch.load(path, weights_only=True)`. -/
  | torch_load (path : PurePosixPath)
  -- PyTorch
  /-- A `resnet18` with so many classes, with the weights loaded strictly. -/
  | resnet18 (classes : Nat) (state_dict : Dict)
  /-- `transforms.Compose` of the transforms, after each of them is made. -/
  | compose (transforms : List ImageTransform)
  | empty_cache
  /-- The softmax of the logits of a transformed image. -/
  | probabilities (model : Model) (transform : Transform) (rgb : NdArray)
  -- the camera and the clock
  | capture_front_rgb
  | monotonic_ns

/-- What each call returns.  A checkpoint is a tree of values, of which a tensor is
an array. -/
@[reducible] def CheckerCall.Answer {Model Transform : Type} :
    CheckerCall Model Transform → Type
  | .resolve _ => PurePosixPath
  | .is_file _ => Bool
  | .read _ => List UInt8
  | .torch_load _ => Value
  | .resnet18 _ _ => Model
  | .compose _ => Transform
  | .empty_cache => Unit
  | .probabilities _ _ _ => List PyFloat
  | .capture_front_rgb => NdArray × Int
  | .monotonic_ns => Int

/-- What does not change in a `TorchResnetChecker`. -/
structure CheckerConfig where
  asset_root : PurePosixPath
  specs : List (PyStr × CheckerSpec)
  max_image_age_sec : ℚ := 1
  /-- `device.type == "cuda"`. -/
  cuda : Bool := false
  /-- `hashlib.sha256(content).hexdigest()`. -/
  sha256 : List UInt8 → PyStr
  /-- `expanduser().resolve()` gives an absolute path. -/
  absolute : asset_root.is_absolute = true
  valid : ∀ q ∈ specs, q.2.validate = .ok ()
  age_pos : 0 < max_image_age_sec

/-- The attributes of a `TorchResnetChecker`. -/
structure TorchResnetChecker (Model Transform : Type) where
  _active_skill : Option PyStr := none
  _active_model : Option Model := none
  _classes : List PyStr := []
  _transform : Option Transform := none

variable {Model Transform : Type}

/-- A statement of the checker. -/
abbrev Checking (Model Transform : Type) (α : Type) : Type :=
  Program (CheckerCall Model Transform) CheckerCall.Answer Raised
    (TorchResnetChecker Model Transform) α

/-- What a call of the checker came to. -/
abbrev CheckerEvent (Model Transform : Type) : Type :=
  Event (CheckerCall Model Transform) CheckerCall.Answer Raised

namespace Checker

/-- A call. -/
def call (c : CheckerCall Model Transform) : Checking Model Transform c.Answer :=
  Program.perform c

/-- `raise`, unless the condition holds. -/
def expect (b : Bool) (e : Exn) : Checking Model Transform Unit := Program.require b (.exn e)

/-- A pure step that may raise. -/
def computed {α : Type} (r : Except Exn α) : Checking Model Transform α :=
  Program.lift (r.mapError .exn)

/-- `resolve_under_root`. -/
def resolve_under_root (root : PurePosixPath) (relative : PyStr) :
    Checking Model Transform PurePosixPath := do
  let raw := PurePosixPath.parse relative
  expect (!raw.is_absolute) (fault .CONFIG_INVALID "configured resource path must be relative"
    [("value", .str relative)])
  let root_resolved ← call (.resolve root)
  let candidate ← call (.resolve (root_resolved.joinpath raw))
  expect (candidate.is_relative_to root_resolved)
    (fault .PATH_OUTSIDE_ROOT "configured path escapes its resource root"
      [("value", .str relative)])
  pure candidate

/-- `torch.load` as `_prepare` calls it: what it raises becomes a fault. -/
def loadCheckpoint (path : PurePosixPath) : Checking Model Transform Value :=
  Program.attempt (call (.torch_load path)) fun
    | .exn _ =>
        Program.raise (.exn (fault .CHECKER_FAILED "checker checkpoint cannot be loaded safely"))
    | .interrupt => Program.raise .interrupt

/-- `isinstance(checkpoint, Mapping)`. -/
def mapping (checkpoint : Value) : Except Exn Dict :=
  match checkpoint with
  | .map entries => .ok entries
  | _ => .error (fault .CHECKER_FAILED "checker checkpoint is not a mapping")

/-- The items of a list or tuple of strings. -/
def strings : List Value → Option (List PyStr)
  | [] => some []
  | .str s :: rest => (strings rest).map (s :: ·)
  | _ :: _ => none

/-- `checkpoint.get(key, default)`. -/
def getDefault (checkpoint : Dict) (key : String) (default : Value) : Value :=
  (checkpoint.get? key).getD default

/-- The class names and the weights of a checkpoint. -/
def contract (spec : CheckerSpec) (checkpoint : Dict) : Except Exn (List PyStr × Dict) :=
  let invalid := fault .CHECKER_FAILED "checker checkpoint classes are invalid"
  let mismatch := fault .CHECKER_FAILED "checker checkpoint contract does not match its profile"
  match getDefault checkpoint "classes" (getDefault checkpoint "class_names" .none) with
  | .list (item :: items) =>
      match strings (item :: items), checkpoint.get? "model_state_dict" with
      | none, _ => .error invalid
      | some classes, some (.map state_dict) =>
          if classes.contains spec.success_class then .ok (classes, state_dict)
          else .error mismatch
      | some _, _ => .error mismatch
  | _ => .error invalid

/-- `[0.485, 0.456, 0.406]`, as doubles. -/
def DEFAULT_MEAN : Value :=
  .list [.float (.fin (4368491638549381 / 9007199254740992)),
    .float (.fin (8214565720323785 / 18014398509481984)),
    .float (.fin (3656922897424843 / 9007199254740992))]

/-- `[0.229, 0.224, 0.225]`, as doubles. -/
def DEFAULT_STD : Value :=
  .list [.float (.fin (8250594517342749 / 36028797018963968)),
    .float (.fin (8070450532247929 / 36028797018963968)),
    .float (.fin (8106479329266893 / 36028797018963968))]

/-- The transforms of a checkpoint. -/
def preprocessing (spec : CheckerSpec) (checkpoint : Dict) : List ImageTransform :=
  let input_size := getDefault checkpoint "input_size" (.list [.int 224, .int 224])
  let mean := getDefault checkpoint "normalize_mean" DEFAULT_MEAN
  let std := getDefault checkpoint "normalize_std" DEFAULT_STD
  (if spec.preprocessing = py "resize_center_crop" then
    [.Resize (.list [.int 256, .int 256]), .CenterCrop 224]
  else [.Resize input_size]) ++ [.ToTensor, .Normalize mean std]

end Checker

namespace TorchResnetChecker

open Checker

variable (cfg : CheckerConfig)

/-- `close`. -/
def close : Checking Model Transform Unit := do
  Program.update fun _ => {}
  if cfg.cuda then call .empty_cache else pure ()

/-- `_prepare`, the checks of the file and of what is in it. -/
def verifyAsset (spec : CheckerSpec) : Checking Model Transform (List PyStr × Dict × Model) := do
  let model_path ← resolve_under_root cfg.asset_root spec.model_relative_path
  let found ← call (.is_file model_path)
  expect found (fault .CHECKER_FAILED "checker model asset is missing")
  let content ← call (.read model_path)
  expect (cfg.sha256 content == spec.model_sha256)
    (fault .CHECKER_FAILED "checker model asset hash does not match its manifest")
  let loaded ← loadCheckpoint model_path
  let checkpoint ← computed (mapping loaded)
  let accepted ← computed (contract spec checkpoint)
  let model ← call (.resnet18 accepted.1.length accepted.2)
  pure (accepted.1, checkpoint, model)

/-- `_prepare`, from the verified model on. -/
def install (skill : PyStr) (spec : CheckerSpec) (verified : List PyStr × Dict × Model) :
    Checking Model Transform Unit := do
  close cfg
  Program.update fun s =>
    { s with
      _active_skill := some skill
      _active_model := some verified.2.2
      _classes := verified.1 }
  let transform ← call (.compose (preprocessing spec verified.2.1))
  Program.update fun s => { s with _transform := some transform }

/-- `self._active_skill == skill and self._active_model is not None`. -/
def holds (self : TorchResnetChecker Model Transform) (skill : PyStr) : Bool :=
  self._active_skill == some skill && self._active_model.isSome

/-- `_prepare`. -/
def _prepare (skill : PyStr) (spec : CheckerSpec) : Checking Model Transform Unit := do
  let self ← Program.read
  if self.holds skill then pure ()
  else do
    let verified ← verifyAsset cfg spec
    install cfg skill spec verified

/-- `rgb.ndim == 3 and rgb.shape[2] == 3 and rgb.dtype == np.uint8`. -/
def isRgb (rgb : NdArray) : Bool :=
  rgb.shape.length == 3 && rgb.shape[2]? == some 3 && rgb.dtype == py "uint8"

/-- The verdict on the probabilities of the classes. -/
def verdict (spec : CheckerSpec) (classes : List PyStr) (probabilities : List PyFloat) :
    Except Exn CheckerResult := do
  let predicted_index ← (argmax probabilities).mapError Exn.error
  match classes[predicted_index]?, probabilities[predicted_index]? with
  | some predicted_class, some confidence =>
      return {
        passed := predicted_class == spec.success_class && confidence.atLeast spec.threshold
        score := confidence
        threshold := .fin spec.threshold
        asset_id := spec.model_sha256
        reason := py "predicted:" ++ predicted_class }
  | _, _ => throw (.error .IndexError)

/-- A fresh image of the front camera. -/
def captureFresh : Checking Model Transform NdArray := do
  let captured ← call .capture_front_rgb
  let now ← call .monotonic_ns
  let age_ns : Int := now - captured.2
  expect (decide (0 ≤ age_ns) && decide (age_ns ≤ ⌊cfg.max_image_age_sec * 1000000000⌋))
    (fault .OBSERVATION_STALE "checker front image is stale")
  expect (isRgb captured.1) (fault .CHECKER_FAILED "checker input must be an RGB uint8 image")
  pure captured.1

/-- The assertion that model and transform are there. -/
def loadedPair (self : TorchResnetChecker Model Transform) : Except Exn (Model × Transform) :=
  match self._active_model, self._transform with
  | some model, some transform => .ok (model, transform)
  | _, _ => .error (.error .Other)

/-- `self.specs.get(skill)`, which has to be there. -/
def specOf (skill : PyStr) : Except Exn CheckerSpec :=
  match cfg.specs.lookup skill with
  | some spec => .ok spec
  | none => .error (fault .CHECKER_FAILED "checker is not configured for the requested skill")

/-- `evaluate`, from the image on. -/
def judge (spec : CheckerSpec) : Checking Model Transform CheckerResult := do
  let rgb ← captureFresh cfg
  let self ← Program.read
  let pair ← computed self.loadedPair
  let probabilities ← call (.probabilities pair.1 pair.2 rgb)
  computed (verdict spec self._classes probabilities)

/-- `evaluate`. -/
def evaluate (skill : PyStr) : Checking Model Transform CheckerResult := do
  let spec ← computed (specOf cfg skill)
  _prepare cfg skill spec
  judge cfg spec

end TorchResnetChecker

end OvenRuntime
