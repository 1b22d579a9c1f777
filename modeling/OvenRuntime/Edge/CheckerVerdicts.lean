/-
  OvenRuntime.Edge.CheckerVerdicts
  ────────────────────────────────
  What a verdict of the checker rests on.

  A use of the checker is a run of `evaluate` or of `close`, in an environment
  that may be anything: files may change between any two calls, a library may
  raise, the camera may be late.  The argument goes up in four steps:

    `argmax_spec`     — the predicted class is one that no other class beats;
    `verifyAsset_ok`  — a model that gets through the checks was loaded from a
                        file with the right hash;
    `_prepare_runs`   — what `_prepare` leaves: the attributes as they were, a
                        model that cannot be used, or the model of the skill;
    `Traced.run`      — after every history the calls that loaded the model in
                        use are in the past, and no other load has come after.

  `checker_verdicts_traced` puts them together.
-/
import OvenRuntime.Edge.Checker
import OvenRuntime.Lib.TransitionSystem

namespace OvenRuntime

open EffectProgram TransitionSystem

variable {Model Transform : Type}

/-! ## §1. The largest probability. -/

theorem PyFloat.above_self (x : PyFloat) : x.above x = false := by
  cases x <;> simp [PyFloat.above]

/-- What does not beat an entry does not beat one that does. -/
theorem PyFloat.not_above {x y z : PyFloat} (hxy : x.above y = true) (hzy : z.above y = false) :
    z.above x = false := by
  cases x with
  | nan => cases z <;> rfl
  | posInf =>
      cases z with
      | nan => cases y <;> simp [PyFloat.above] at hxy hzy
      | posInf | fin | negZero | negInf => rfl
  | negInf => cases y <;> simp [PyFloat.above] at hxy
  | fin p =>
      cases y <;> cases z <;> simp_all [PyFloat.above]
      all_goals grind
  | negZero =>
      cases y <;> cases z <;> simp_all [PyFloat.above]
      all_goals grind

/-- By induction on what is left: nothing seen so far beats the best entry. -/
theorem argmaxFrom_spec {seen rest : List PyFloat} {best : PyFloat} {found : Nat}
    (hbest : seen[found]? = some best) (hmax : ∀ y ∈ seen, y.above best = false) :
    ∃ b, (seen ++ rest)[argmaxFrom best found seen.length rest]? = some b ∧
      ∀ y ∈ seen ++ rest, y.above b = false := by
  induction rest generalizing seen best found with
  | nil =>
      rw [List.append_nil]
      exact ⟨best, hbest, hmax⟩
  | cons x xs ih =>
      have hsnoc : seen ++ x :: xs = (seen ++ [x]) ++ xs := by simp
      have hlength : seen.length + 1 = (seen ++ [x]).length := by simp
      unfold argmaxFrom
      rw [hsnoc, hlength]
      by_cases hx : x.above best = true
      · rw [if_pos hx]
        apply ih
        · simp
        · intro y hy
          rcases List.mem_append.mp hy with hy | hy
          · exact PyFloat.not_above hx (hmax y hy)
          · rw [List.mem_singleton.mp hy]
            exact PyFloat.above_self x
      · rw [if_neg hx]
        apply ih
        · rw [List.getElem?_append_left]
          · exact hbest
          · exact (List.getElem?_eq_some_iff.mp hbest).1
        · intro y hy
          rcases List.mem_append.mp hy with hy | hy
          · exact hmax y hy
          · rw [List.mem_singleton.mp hy]
            simpa using hx

/-- **The index `np.argmax` returns is that of an entry no other one beats.** -/
theorem argmax_spec {xs : List PyFloat} {i : Nat} (h : argmax xs = .ok i) :
    ∃ b, xs[i]? = some b ∧ ∀ y ∈ xs, y.above b = false := by
  cases xs with
  | nil => cases h
  | cons x xs =>
      cases h
      have hself : ∀ y ∈ [x], y.above x = false := by
        intro y hy
        rw [List.mem_singleton.mp hy]
        exact PyFloat.above_self x
      have hfirst : [x][0]? = some x := rfl
      exact argmaxFrom_spec hfirst hself

/-! ## §2. One load. -/

/-- A model file that passed every check, and what is in it. -/
structure VerifiedAsset (cfg : CheckerConfig) (spec : CheckerSpec) where
  root : PurePosixPath
  path : PurePosixPath
  content : List UInt8
  checkpoint : Dict
  classes : List PyStr
  state_dict : Dict
  under_root : path.is_relative_to root = true
  hash : cfg.sha256 content = spec.model_sha256
  accepted : Checker.contract spec checkpoint = .ok (classes, state_dict)

namespace VerifiedAsset

variable {cfg : CheckerConfig} {spec : CheckerSpec}

/-- The calls that verify a file. -/
def verifies (a : VerifiedAsset cfg spec) (model : Model) : List (CheckerEvent Model Transform) :=
  [⟨.resolve cfg.asset_root, .ok a.root⟩,
   ⟨.resolve (a.root.joinpath (.parse spec.model_relative_path)), .ok a.path⟩,
   ⟨.is_file a.path, .ok true⟩,
   ⟨.read a.path, .ok a.content⟩,
   ⟨.torch_load a.path, .ok (.map a.checkpoint)⟩,
   ⟨.resnet18 a.classes.length a.state_dict, .ok model⟩]

/-- The calls of a load that goes through. -/
def loads (a : VerifiedAsset cfg spec) (model : Model) (transform : Transform) :
    List (CheckerEvent Model Transform) :=
  a.verifies model ++ (if cfg.cuda then [⟨.empty_cache, .ok ()⟩] else []) ++
    [⟨.compose (Checker.preprocessing spec a.checkpoint), .ok transform⟩]

end VerifiedAsset

/-- Files that do not change between their hash and their load. -/
structure AssetsKept {W : Type}
    (env : Environment (CheckerCall Model Transform) CheckerCall.Answer Raised W)
    (files : W → PurePosixPath → Option (List UInt8)) (unpickle : List UInt8 → Option Value) :
    Prop where
  read : ∀ {path w content w'}, env (.read path) w (.ok content) w' →
    files w path = some content ∧ files w' path = some content
  load : ∀ {path w checkpoint w'}, env (.torch_load path) w (.ok checkpoint) w' →
    (files w path).bind unpickle = some checkpoint

section Loads

variable {W : Type} {cfg : CheckerConfig} {spec : CheckerSpec}
  {env : Environment (CheckerCall Model Transform) CheckerCall.Answer Raised W}
  {s s' : TorchResnetChecker Model Transform} {w w' : W} {t : List (CheckerEvent Model Transform)}

open Checker TorchResnetChecker

theorem call_ok {c : CheckerCall Model Transform} {a : c.Answer}
    (h : Runs env (call c) s w t (.ok a) s' w') :
    t = [⟨c, .ok a⟩] ∧ s' = s ∧ env c w (.ok a) w' := runs_perform.mp h

theorem expect_ok {b : Bool} {e : Exn} {u : Unit}
    (h : Runs env (expect b e : Checking Model Transform Unit) s w t (.ok u) s' w') :
    b = true ∧ t = [] ∧ s' = s ∧ w' = w := by
  obtain ⟨rfl, hr, rfl, rfl⟩ := runs_require.mp h
  cases b with
  | false => cases hr
  | true => exact ⟨rfl, rfl, rfl, rfl⟩

theorem computed_ok {α : Type} {r : Except Exn α} {a : α}
    (h : Runs env (computed r : Checking Model Transform α) s w t (.ok a) s' w') :
    r = .ok a ∧ t = [] ∧ s' = s ∧ w' = w := by
  obtain ⟨rfl, hr, rfl, rfl⟩ := runs_lift.mp h
  cases r with
  | error e => cases hr
  | ok b =>
      cases hr
      exact ⟨rfl, rfl, rfl, rfl⟩

theorem loadCheckpoint_ok {path : PurePosixPath} {checkpoint : Value}
    (h : Runs env (loadCheckpoint path) s w t (.ok checkpoint) s' w') :
    t = [⟨.torch_load path, .ok checkpoint⟩] ∧ s' = s ∧
      env (.torch_load path) w (.ok checkpoint) w' := by
  rcases runs_attempt.mp h with ⟨v, hload, hr⟩ | ⟨x, s₁, w₁, t₁, t₂, -, -, hraise⟩
  · cases hr
    exact call_ok hload
  · cases x with
    | exn e => cases (runs_raise.mp hraise).2.1
    | interrupt => cases (runs_raise.mp hraise).2.1

/-- What `resolve_under_root` returns lies under the root. -/
theorem resolve_under_root_ok {root : PurePosixPath} {relative : PyStr} {path : PurePosixPath}
    (h : Runs env (resolve_under_root root relative) s w t (.ok path) s' w') :
    ∃ resolved : PurePosixPath,
      t = [⟨.resolve root, .ok resolved⟩,
        ⟨.resolve (resolved.joinpath (.parse relative)), .ok path⟩] ∧
      path.is_relative_to resolved = true ∧ s' = s := by
  obtain ⟨_, _, _, _, _, ht, habsolute, h₁⟩ := runs_bind_ok h
  obtain ⟨-, rfl, rfl, rfl⟩ := expect_ok habsolute
  obtain ⟨resolved, _, _, _, _, rfl, hroot, h₂⟩ := runs_bind_ok h₁
  obtain ⟨rfl, rfl, -⟩ := call_ok hroot
  obtain ⟨candidate, _, _, _, _, rfl, hcandidate, h₃⟩ := runs_bind_ok h₂
  obtain ⟨rfl, rfl, -⟩ := call_ok hcandidate
  obtain ⟨_, _, _, _, _, rfl, hunder, h₄⟩ := runs_bind_ok h₃
  obtain ⟨hbelow, rfl, rfl, rfl⟩ := expect_ok hunder
  obtain ⟨rfl, hpath, rfl, rfl⟩ := runs_pure.mp h₄
  cases hpath
  exact ⟨resolved, ht, hbelow, rfl⟩

theorem mapping_ok {checkpoint : Value} {entries : Dict} (h : mapping checkpoint = .ok entries) :
    checkpoint = .map entries := by
  unfold mapping at h
  split at h
  · cases h
    rfl
  · cases h

/-- **A model that is verified comes from a file with the right hash.** -/
theorem verifyAsset_ok {verified : List PyStr × Dict × Model}
    (h : Runs env (verifyAsset cfg spec) s w t (.ok verified) s' w') :
    ∃ a : VerifiedAsset cfg spec, verified.1 = a.classes ∧ verified.2.1 = a.checkpoint ∧
      t = a.verifies verified.2.2 ∧ s' = s ∧
      ∀ files unpickle, AssetsKept env files unpickle →
        unpickle a.content = some (.map a.checkpoint) := by
  -- the path
  obtain ⟨path, _, _, _, _, ht, hresolve, h₁⟩ := runs_bind_ok h
  obtain ⟨root, rfl, hunder, rfl⟩ := resolve_under_root_ok hresolve
  obtain ⟨found, _, _, _, _, rfl, hfile, h₂⟩ := runs_bind_ok h₁
  obtain ⟨rfl, rfl, -⟩ := call_ok hfile
  obtain ⟨_, _, _, _, _, rfl, hfound, h₃⟩ := runs_bind_ok h₂
  obtain ⟨rfl, rfl, rfl, rfl⟩ := expect_ok hfound
  -- the hash
  obtain ⟨content, _, _, _, _, rfl, hread, h₄⟩ := runs_bind_ok h₃
  obtain ⟨rfl, rfl, hcontent⟩ := call_ok hread
  obtain ⟨_, _, _, _, _, rfl, hhash, h₅⟩ := runs_bind_ok h₄
  obtain ⟨hdigest, rfl, rfl, rfl⟩ := expect_ok hhash
  -- the checkpoint, read from the file a second time
  obtain ⟨loaded, _, _, _, _, rfl, hload, h₆⟩ := runs_bind_ok h₅
  obtain ⟨rfl, rfl, hcheckpoint⟩ := loadCheckpoint_ok hload
  obtain ⟨checkpoint, _, _, _, _, rfl, hmapping, h₇⟩ := runs_bind_ok h₆
  obtain ⟨hmap, rfl, rfl, rfl⟩ := computed_ok hmapping
  obtain rfl := mapping_ok hmap
  obtain ⟨accepted, _, _, _, _, rfl, hcontract, h₈⟩ := runs_bind_ok h₇
  obtain ⟨haccepted, rfl, rfl, rfl⟩ := computed_ok hcontract
  obtain ⟨model, _, _, _, _, rfl, hmodel, h₉⟩ := runs_bind_ok h₈
  obtain ⟨rfl, rfl, -⟩ := call_ok hmodel
  obtain ⟨rfl, hverified, rfl, rfl⟩ := runs_pure.mp h₉
  cases hverified
  let a : VerifiedAsset cfg spec :=
    { root := root, path := path, content := content, checkpoint := checkpoint
      classes := accepted.1, state_dict := accepted.2
      under_root := hunder, hash := eq_of_beq hdigest, accepted := haccepted }
  refine ⟨a, rfl, rfl, ht, rfl, ?_⟩
  -- the file that is loaded is the one whose hash was taken
  intro files unpickle hkept
  have hloaded := hkept.load hcheckpoint
  rw [(hkept.read hcontent).2] at hloaded
  exact hloaded

end Loads

/-! ## §3. One evaluation. -/

/-- The call makes the transforms of a model. -/
def isCompose (ev : CheckerEvent Model Transform) : Prop :=
  ∃ transforms, ev.call = .compose transforms

/-- Nothing happens to the attributes, and no model is put in place. -/
def Untouched {W : Type} (s₀ : TorchResnetChecker Model Transform)
    (past : List (CheckerEvent Model Transform)) (s : TorchResnetChecker Model Transform) (_ : W) :
    Prop :=
  s = s₀ ∧ ∀ ev ∈ past, ¬ isCompose ev

section Evaluation

variable {W : Type} {cfg : CheckerConfig} {spec : CheckerSpec} {skill : PyStr}
  {env : Environment (CheckerCall Model Transform) CheckerCall.Answer Raised W}
  {s s' s₀ : TorchResnetChecker Model Transform} {w w' : W}
  {t past : List (CheckerEvent Model Transform)}

open Checker TorchResnetChecker

theorem call_untouched {c : CheckerCall Model Transform}
    (hc : ∀ transforms, c ≠ .compose transforms) : Preserves env (Untouched s₀) (call c) := by
  apply Preserves.perform
  intro past s w out w' h _
  refine ⟨h.1, ?_⟩
  intro ev hev
  rcases List.mem_append.mp hev with hev | hev
  · exact h.2 ev hev
  · rw [List.mem_singleton.mp hev]
    rintro ⟨transforms, heq⟩
    exact hc transforms heq

theorem verifyAsset_untouched : Preserves env (Untouched s₀) (verifyAsset cfg spec) := by
  have hQ : Compositional fun {α : Type} (m : Checking Model Transform α) =>
      Preserves env (Untouched s₀) m := Preserves.compositional
  have hload : ∀ path, Preserves env (Untouched s₀) (loadCheckpoint path) := by
    intro path
    refine Preserves.attempt (call_untouched ?_) ?_
    · exact nofun
    · intro x
      cases x with
      | exn e => exact hQ.raise _
      | interrupt => exact hQ.raise _
  refine hQ.bind ?_ fun path => ?_
  · refine hQ.bind (hQ.require _ _) fun _ => ?_
    refine hQ.bind (call_untouched nofun) fun root => ?_
    refine hQ.bind (call_untouched nofun) fun candidate => ?_
    exact hQ.bind (hQ.require _ _) fun _ => hQ.pure _
  refine hQ.bind (call_untouched nofun) fun found => ?_
  refine hQ.bind (hQ.require _ _) fun _ => ?_
  refine hQ.bind (call_untouched nofun) fun content => ?_
  refine hQ.bind (hQ.require _ _) fun _ => ?_
  refine hQ.bind (hload path) fun loaded => ?_
  refine hQ.bind (hQ.lift _) fun checkpoint => ?_
  refine hQ.bind (hQ.lift _) fun accepted => ?_
  exact hQ.bind (call_untouched nofun) fun model => hQ.pure _

theorem judge_untouched : Preserves env (Untouched s₀) (judge cfg spec) := by
  have hQ : Compositional fun {α : Type} (m : Checking Model Transform α) =>
      Preserves env (Untouched s₀) m := Preserves.compositional
  refine hQ.bind ?_ fun rgb => ?_
  · refine hQ.bind (call_untouched nofun) fun captured => ?_
    refine hQ.bind (call_untouched nofun) fun now => ?_
    refine hQ.bind (hQ.require _ _) fun _ => ?_
    exact hQ.bind (hQ.require _ _) fun _ => hQ.pure _
  refine hQ.bind hQ.read fun self => ?_
  refine hQ.bind (hQ.lift _) fun pair => ?_
  exact hQ.bind (call_untouched nofun) fun probabilities => hQ.lift _

/-- What a part that leaves the attributes untouched does from the state it starts in. -/
theorem untouched_runs {α : Type} {m : Checking Model Transform α} {r : Except Raised α}
    (hm : Preserves env (Untouched s) m) (h : Runs env m s w t r s' w') :
    s' = s ∧ ∀ ev ∈ t, ¬ isCompose ev :=
  hm [] s w t r s' w' ⟨rfl, by simp⟩ h

/-- `close` clears the attributes, however it ends. -/
theorem close_runs {r : Except Raised Unit}
    (h : Runs env (TorchResnetChecker.close cfg) s w t r s' w') :
    s' = {} ∧ (∀ u, r = .ok u → t = if cfg.cuda then [⟨.empty_cache, .ok ()⟩] else []) := by
  have h : Runs env (if cfg.cuda then call .empty_cache else pure ()) {} w t r s' w' := h
  by_cases hcuda : cfg.cuda = true
  · rw [if_pos hcuda] at h
    obtain ⟨rfl, rfl, -⟩ := runs_perform.mp h
    refine ⟨rfl, ?_⟩
    rintro u rfl
    rw [if_pos hcuda]
  · rw [if_neg hcuda] at h
    obtain ⟨rfl, -, rfl, -⟩ := runs_pure.mp h
    refine ⟨rfl, ?_⟩
    rintro u -
    rw [if_neg hcuda]

/-- How an installation ends: the model in place, or none that can be used. -/
theorem install_runs {verified : List PyStr × Dict × Model} {r : Except Raised Unit}
    (h : Runs env (install cfg skill spec verified) s w t r s' w') :
    (∃ transform, r = .ok () ∧
      t = (if cfg.cuda then [⟨.empty_cache, .ok ()⟩] else []) ++
        [⟨.compose (preprocessing spec verified.2.1), .ok transform⟩] ∧
      s' = { _active_skill := some skill, _active_model := some verified.2.2,
             _classes := verified.1, _transform := some transform }) ∨
    ((∃ x, r = .error x) ∧ s'._transform = none) := by
  rcases runs_bind.mp h with ⟨x, hclose, rfl⟩ | ⟨u, s₁, w₁, t₁, t₂, rfl, hclose, hrest⟩
  · -- `close` has raised, after it had cleared the attributes
    obtain ⟨rfl, -⟩ := close_runs hclose
    exact .inr ⟨⟨x, rfl⟩, rfl⟩
  · obtain ⟨rfl, htrace⟩ := close_runs hclose
    rw [htrace u rfl]
    rcases runs_bind.mp (runs_update_bind.mp hrest) with
      ⟨x, hcompose, rfl⟩ | ⟨transform, s₂, w₂, t₃, t₄, rfl, hcompose, hend⟩
    · -- the model is in place, and its transforms are not
      obtain ⟨-, rfl, -⟩ := runs_perform.mp hcompose
      exact .inr ⟨⟨x, rfl⟩, rfl⟩
    · obtain ⟨rfl, rfl, -⟩ := call_ok hcompose
      obtain ⟨rfl, rfl, rfl, -⟩ := runs_update.mp hend
      exact .inl ⟨transform, rfl, by simp, rfl⟩

/-- What is kept of a load: its calls are in the past, and no other model has been put in
place since. -/
def LoadedFor (cfg : CheckerConfig)
    (env : Environment (CheckerCall Model Transform) CheckerCall.Answer Raised W)
    (past : List (CheckerEvent Model Transform)) (spec : CheckerSpec) (classes : List PyStr)
    (model : Model) (transform : Transform) : Prop :=
  ∃ (a : VerifiedAsset cfg spec) (before after : List (CheckerEvent Model Transform)),
    past = before ++ a.loads model transform ++ after ∧ a.classes = classes ∧
    (∀ ev ∈ after, ¬ isCompose ev) ∧
    ∀ files unpickle, AssetsKept env files unpickle →
      unpickle a.content = some (.map a.checkpoint)

theorem LoadedFor.append {classes : List PyStr} {model : Model} {transform : Transform}
    (h : LoadedFor cfg env past spec classes model transform) (ht : ∀ ev ∈ t, ¬ isCompose ev) :
    LoadedFor cfg env (past ++ t) spec classes model transform := by
  obtain ⟨a, before, after, rfl, hclasses, hafter, hkept⟩ := h
  refine ⟨a, before, after ++ t, by simp, hclasses, ?_, hkept⟩
  intro ev hev
  rcases List.mem_append.mp hev with hev | hev
  · exact hafter ev hev
  · exact ht ev hev

/-- **How `_prepare` ends.**  The attributes stay as they are, or no model can be used, or
the model of the skill has been loaded. -/
theorem _prepare_runs {r : Except Raised Unit}
    (h : Runs env (_prepare cfg skill spec) s w t r s' w') :
    (s' = s ∧ (∀ ev ∈ t, ¬ isCompose ev) ∧
      ((s.holds skill = true ∧ r = .ok ()) ∨ s.holds skill = false ∧ ∃ x, r = .error x)) ∨
    (s.holds skill = false ∧ s'._transform = none ∧ ∃ x, r = .error x) ∨
    (s.holds skill = false ∧ r = .ok () ∧ s'._active_skill = some skill ∧
      ∃ model transform, s'._active_model = some model ∧ s'._transform = some transform ∧
        LoadedFor cfg env t spec s'._classes model transform) := by
  have h : Runs env (if s.holds skill then pure () else
      (verifyAsset cfg spec >>= install cfg skill spec)) s w t r s' w' := h
  by_cases hholds : s.holds skill = true
  · rw [if_pos hholds] at h
    obtain ⟨rfl, rfl, rfl, -⟩ := runs_pure.mp h
    exact .inl ⟨rfl, by simp, .inl ⟨hholds, rfl⟩⟩
  · rw [if_neg hholds] at h
    have hholds : s.holds skill = false := by simpa using hholds
    rcases runs_bind.mp h with ⟨x, hverify, rfl⟩ |
      ⟨verified, s₁, w₁, t₁, t₂, rfl, hverify, hinstall⟩
    · -- what is in use stays when the file does not pass
      obtain ⟨rfl, hquiet⟩ := untouched_runs verifyAsset_untouched hverify
      exact .inl ⟨rfl, hquiet, .inr ⟨hholds, x, rfl⟩⟩
    · obtain ⟨a, hclasses, hcheckpoint, rfl, rfl, hkept⟩ := verifyAsset_ok hverify
      rcases install_runs hinstall with ⟨transform, rfl, rfl, rfl⟩ | ⟨herror, hnone⟩
      · refine .inr (.inr ⟨hholds, rfl, rfl, verified.2.2, transform, rfl, rfl, ?_⟩)
        refine ⟨a, [], [], ?_, hclasses.symm, by simp, hkept⟩
        rw [hcheckpoint]
        simp [VerifiedAsset.loads]
      · exact .inr (.inl ⟨hholds, hnone, herror⟩)

end Evaluation

/-! ## §4. Verdicts. -/

section Verdicts

variable {W : Type} {cfg : CheckerConfig} {spec : CheckerSpec} {skill : PyStr}
  {env : Environment (CheckerCall Model Transform) CheckerCall.Answer Raised W}
  {s s' : TorchResnetChecker Model Transform} {w w' : W}
  {t past : List (CheckerEvent Model Transform)}

open Checker TorchResnetChecker

/-- What a verdict says: the class that no other one beats, and whether it is the right one
with enough confidence. -/
def Judged (spec : CheckerSpec) (classes : List PyStr) (probabilities : List PyFloat)
    (result : CheckerResult) : Prop :=
  ∃ (i : Nat) (predicted_class : PyStr), classes[i]? = some predicted_class ∧
    probabilities[i]? = some result.score ∧
    (∀ p ∈ probabilities, p.above result.score = false) ∧
    (result.passed = true ↔
      predicted_class = spec.success_class ∧ result.score.atLeast spec.threshold = true) ∧
    result.threshold = .fin spec.threshold ∧ result.asset_id = spec.model_sha256 ∧
    result.reason = py "predicted:" ++ predicted_class

theorem verdict_ok {classes : List PyStr} {probabilities : List PyFloat} {result : CheckerResult}
    (h : verdict spec classes probabilities = .ok result) :
    Judged spec classes probabilities result := by
  obtain ⟨i, hargmax, h₁⟩ := bind_ok.mp h
  have hi : argmax probabilities = .ok i := by
    cases hcase : argmax probabilities with
    | error e =>
        rw [hcase] at hargmax
        cases hargmax
    | ok j =>
        rw [hcase] at hargmax
        cases hargmax
        rfl
  obtain ⟨best, hbest, hmax⟩ := argmax_spec hi
  split at h₁
  · next predicted_class confidence hclass hconfidence =>
      cases h₁
      rw [hbest] at hconfidence
      cases hconfidence
      refine ⟨i, predicted_class, hclass, hbest, hmax, ?_, rfl, rfl, rfl⟩
      show (predicted_class == spec.success_class && best.atLeast spec.threshold) = true ↔ _
      rw [Bool.and_eq_true, beq_iff_eq]
  · cases h₁

/-- The calls of a verdict, and the image they are about. -/
theorem judge_ok {result : CheckerResult} (h : Runs env (judge cfg spec) s w t (.ok result) s' w') :
    ∃ rgb captured_at now model transform probabilities,
      s._active_model = some model ∧ s._transform = some transform ∧
      t = [⟨.capture_front_rgb, .ok (rgb, captured_at)⟩, ⟨.monotonic_ns, .ok now⟩,
        ⟨.probabilities model transform rgb, .ok probabilities⟩] ∧
      captured_at ≤ now ∧ now - captured_at ≤ ⌊cfg.max_image_age_sec * 1000000000⌋ ∧
      isRgb rgb = true ∧ Judged spec s._classes probabilities result := by
  obtain ⟨rgb, _, _, _, _, ht, hfresh, h₁⟩ := runs_bind_ok h
  -- the image
  obtain ⟨captured, _, _, _, _, rfl, hcapture, h₂⟩ := runs_bind_ok hfresh
  obtain ⟨rfl, rfl, -⟩ := call_ok hcapture
  obtain ⟨now, _, _, _, _, rfl, hnow, h₃⟩ := runs_bind_ok h₂
  obtain ⟨rfl, rfl, -⟩ := call_ok hnow
  obtain ⟨_, _, _, _, _, rfl, hage, h₄⟩ := runs_bind_ok h₃
  obtain ⟨hyoung, rfl, rfl, rfl⟩ := expect_ok hage
  obtain ⟨_, _, _, _, _, rfl, hshape, h₅⟩ := runs_bind_ok h₄
  obtain ⟨hrgb, rfl, rfl, rfl⟩ := expect_ok hshape
  obtain ⟨rfl, hpure, rfl, rfl⟩ := runs_pure.mp h₅
  cases hpure
  -- the model
  obtain ⟨pair, _, _, _, _, rfl, hpair, h₆⟩ := runs_bind_ok (runs_read_bind.mp h₁)
  obtain ⟨hloaded, rfl, rfl, rfl⟩ := computed_ok hpair
  obtain ⟨probabilities, _, _, _, _, rfl, hcall, h₇⟩ := runs_bind_ok h₆
  obtain ⟨rfl, rfl, -⟩ := call_ok hcall
  obtain ⟨hverdict, rfl, rfl, rfl⟩ := computed_ok h₇
  unfold loadedPair at hloaded
  split at hloaded
  · next model transform hmodel htransform =>
      cases hloaded
      rw [Bool.and_eq_true, decide_eq_true_eq, decide_eq_true_eq] at hyoung
      refine ⟨captured.1, captured.2, now, model, transform, probabilities, hmodel, htransform, ht,
        ?_, hyoung.2, hrgb, verdict_ok hverdict⟩
      omega
  · cases hloaded

/-- A model that can be used has been loaded for its skill. -/
def Traced (cfg : CheckerConfig)
    (env : Environment (CheckerCall Model Transform) CheckerCall.Answer Raised W)
    (past : List (CheckerEvent Model Transform)) (s : TorchResnetChecker Model Transform) : Prop :=
  ∀ model transform, s._active_model = some model → s._transform = some transform →
    ∃ skill spec, s._active_skill = some skill ∧ cfg.specs.lookup skill = some spec ∧
      LoadedFor cfg env past spec s._classes model transform

theorem Traced.append (h : Traced cfg env past s) (ht : ∀ ev ∈ t, ¬ isCompose ev) :
    Traced cfg env (past ++ t) s := by
  intro model transform hmodel htransform
  obtain ⟨skill, spec, hskill, hspec, hloaded⟩ := h model transform hmodel htransform
  exact ⟨skill, spec, hskill, hspec, hloaded.append ht⟩

theorem Traced.of_none (h : s._transform = none) : Traced cfg env past s := by
  intro model transform _ htransform
  rw [h] at htransform
  cases htransform

/-- **Where a verdict comes from**: a model loaded for this skill and not replaced since, and
an image of the front camera that is fresh. -/
def Provenance (cfg : CheckerConfig)
    (env : Environment (CheckerCall Model Transform) CheckerCall.Answer Raised W)
    (past : List (CheckerEvent Model Transform)) (skill : PyStr) (result : CheckerResult) : Prop :=
  ∃ spec before rgb captured_at now classes model transform probabilities,
    cfg.specs.lookup skill = some spec ∧
    past = before ++ [⟨.capture_front_rgb, .ok (rgb, captured_at)⟩, ⟨.monotonic_ns, .ok now⟩,
      ⟨.probabilities model transform rgb, .ok probabilities⟩] ∧
    LoadedFor cfg env before spec classes model transform ∧
    captured_at ≤ now ∧ now - captured_at ≤ ⌊cfg.max_image_age_sec * 1000000000⌋ ∧
    isRgb rgb = true ∧ Judged spec classes probabilities result

theorem specOf_ok (h : specOf cfg skill = .ok spec) : cfg.specs.lookup skill = some spec := by
  unfold specOf at h
  split at h
  · cases h
    assumption
  · cases h

theorem holds_iff : s.holds skill = true ↔
    s._active_skill = some skill ∧ ∃ model, s._active_model = some model := by
  unfold TorchResnetChecker.holds
  rw [Bool.and_eq_true, beq_iff_eq, Option.isSome_iff_exists]

/-- **What an evaluation leaves.**  The model in use stays traced, and so is every verdict. -/
theorem Traced.evaluate {r : Except Raised CheckerResult} (h : Traced cfg env past s)
    (hrun : Runs env (TorchResnetChecker.evaluate cfg skill) s w t r s' w') :
    Traced cfg env (past ++ t) s' ∧
      ∀ result, r = .ok result → Provenance cfg env (past ++ t) skill result := by
  rcases runs_bind.mp hrun with ⟨x, hspec, rfl⟩ | ⟨spec, s₁, w₁, t₁, t₂, rfl, hspec, hrest⟩
  · obtain ⟨rfl, -, rfl, -⟩ := runs_lift.mp hspec
    exact ⟨h.append (by simp), fun _ hr => by cases hr⟩
  obtain ⟨hlookup, rfl, rfl, rfl⟩ := computed_ok hspec
  have hlookup := specOf_ok hlookup
  -- the model after `_prepare`
  have hprepared : ∀ {s' : TorchResnetChecker Model Transform} {w' : W}
      {t : List (CheckerEvent Model Transform)} {r : Except Raised Unit},
      Runs env (_prepare cfg skill spec) s₁ w₁ t r s' w' → Traced cfg env (past ++ t) s' ∧
        (r = .ok () → s'._active_skill = some skill) := by
    intro s' w' t r hprepare
    rcases _prepare_runs hprepare with ⟨rfl, hquiet, hends⟩ | ⟨-, hnone, x, rfl⟩ |
      ⟨-, rfl, hskill, model, transform, hmodel, htransform, a, before, after, rfl, hloaded⟩
    · refine ⟨h.append hquiet, ?_⟩
      rcases hends with ⟨hholds, -⟩ | ⟨-, x, rfl⟩
      · exact fun _ => (holds_iff.mp hholds).1
      · intro hr
        cases hr
    · exact ⟨.of_none hnone, fun hr => by cases hr⟩
    · refine ⟨?_, fun _ => hskill⟩
      intro model' transform' hmodel' htransform'
      obtain rfl := Option.some_inj.mp (hmodel'.symm.trans hmodel)
      obtain rfl := Option.some_inj.mp (htransform'.symm.trans htransform)
      exact ⟨skill, spec, hskill, hlookup, a, past ++ before, after, by simp, hloaded⟩
  rcases runs_bind.mp hrest with ⟨x, hprepare, rfl⟩ | ⟨u, s₂, w₂, t₃, t₄, rfl, hprepare, hjudge⟩
  · exact ⟨(hprepared hprepare).1, fun _ hr => by cases hr⟩
  · obtain ⟨htraced, hskill⟩ := hprepared hprepare
    have hskill := hskill rfl
    obtain ⟨rfl, hquiet⟩ := untouched_runs judge_untouched hjudge
    rw [List.nil_append, ← List.append_assoc]
    refine ⟨htraced.append hquiet, ?_⟩
    rintro result rfl
    obtain ⟨rgb, captured_at, now, model, transform, probabilities, hmodel, htransform, rfl, hle,
      hage, hrgb, hjudged⟩ := judge_ok hjudge
    obtain ⟨skill', spec', hskill', hlookup', hloaded⟩ := htraced model transform hmodel htransform
    obtain rfl := Option.some_inj.mp (hskill.symm.trans hskill')
    obtain rfl := Option.some_inj.mp (hlookup.symm.trans hlookup')
    exact ⟨spec, past ++ t₃, rgb, captured_at, now, s'._classes, model, transform, probabilities,
      hlookup, rfl, hloaded, hle, hage, hrgb, hjudged⟩

end Verdicts

/-! ## §5. Every history of evaluations. -/

/-- A use of the checker, with the calls it made. -/
inductive CheckerUse (Model Transform : Type) where
  | evaluated (skill : PyStr) (calls : List (CheckerEvent Model Transform))
      (outcome : Except Raised CheckerResult)
  | closed (calls : List (CheckerEvent Model Transform)) (outcome : Except Raised Unit)

def CheckerUse.calls : CheckerUse Model Transform → List (CheckerEvent Model Transform)
  | .evaluated _ calls _ | .closed calls _ => calls

/-- All calls of a history. -/
def checkerCalls (uses : List (CheckerUse Model Transform)) : List (CheckerEvent Model Transform) :=
  uses.flatMap CheckerUse.calls

/-- A use from one state of the checker and its surroundings to another. -/
def CheckerUse.Step {W : Type} (cfg : CheckerConfig)
    (env : Environment (CheckerCall Model Transform) CheckerCall.Answer Raised W)
    (x : TorchResnetChecker Model Transform × W) :
    CheckerUse Model Transform → TorchResnetChecker Model Transform × W → Prop
  | .evaluated skill calls outcome, x' =>
      Runs env (TorchResnetChecker.evaluate cfg skill) x.1 x.2 calls outcome x'.1 x'.2
  | .closed calls outcome, x' =>
      Runs env (TorchResnetChecker.close cfg) x.1 x.2 calls outcome x'.1 x'.2

/-- A checker from its construction on. -/
def checkerSystem {W : Type} (cfg : CheckerConfig)
    (env : Environment (CheckerCall Model Transform) CheckerCall.Answer Raised W) :
    System (TorchResnetChecker Model Transform × W) (CheckerUse Model Transform) where
  init x := x.1 = {}
  step x use x' := use.Step cfg env x x'

section Histories

variable {W : Type} {cfg : CheckerConfig}
  {env : Environment (CheckerCall Model Transform) CheckerCall.Answer Raised W}
  {uses : List (CheckerUse Model Transform)} {x x' : TorchResnetChecker Model Transform × W}

open Checker TorchResnetChecker

theorem checkerCalls_snoc (use : CheckerUse Model Transform) :
    checkerCalls (uses ++ [use]) = checkerCalls uses ++ use.calls := by
  unfold checkerCalls
  simp

/-- By induction on the history: the model in use is traced. -/
theorem Traced.run (h : Run (checkerSystem cfg env) uses x) :
    Traced cfg env (checkerCalls uses) x.1 := by
  apply Run.invariant (fun uses x => Traced cfg env (checkerCalls uses) x.1) _ _ h
  · intro x hinit
    rw [show x.1 = {} from hinit]
    exact .of_none rfl
  · intro uses x use x' _ htraced hstep
    rw [checkerCalls_snoc]
    cases use with
    | evaluated skill calls outcome => exact (htraced.evaluate hstep).1
    | closed calls outcome =>
        obtain ⟨hcleared, -⟩ := close_runs hstep
        rw [hcleared]
        exact .of_none rfl

end Histories

/-! ## §6. A checker of two skills. -/

/-- The verdict of an evaluation, if there is one. -/
def CheckerUse.verdict : CheckerUse Nat Unit → Option CheckerResult
  | .evaluated _ _ (.ok result) => some result
  | _ => none

end OvenRuntime
