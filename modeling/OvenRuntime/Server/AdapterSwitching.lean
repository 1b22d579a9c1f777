/-
  OvenRuntime.Server.AdapterSwitching
  ───────────────────────────────────
  Switching adapters, over all calls of a backend.

  Everything `prepare` builds is a function of the shared base and of the
  skill, so earlier switches do not matter.  It replaces its four fields once
  all of that is built; only the hash of the manifest comes later, and a switch
  whose hash raises has happened all the same (`adapter_switching_iff`).
-/
import OvenRuntime.Server.CompositeBackend
import OvenRuntime.Lib.History

namespace OvenRuntime

open History

namespace OpenPiCompositeBackend

variable {api : OpenPi}

/-! ## §1. What a switch has to do. -/

/-- The shared base of a profile. -/
def base (api : OpenPi) (profile : CompositeBackendProfile) : List (PyStr × api.Leaf) :=
  api.flatten_dict (api.restore_params profile.shared_params)

/-- The parameters of an adapter. -/
def adapter (api : OpenPi) (spec : CompositeSkillSpec) : List (PyStr × api.Leaf) :=
  api.flatten_dict (api.restore_params spec.adapter)

/-- The policy in use is that of the skill, built from the union of base and
adapter; the noise generator is fresh. -/
def InUse (profile : CompositeBackendProfile) (skill : PyStr) (b : OpenPiCompositeBackend api) :
    Prop :=
  ∃ spec asset_id merged ref, profile.skills.lookup skill = some spec ∧
    (∀ key, merged.lookup key =
      ((adapter api spec).lookup key).or ((base api profile).lookup key)) ∧
    b._active_spec = some spec ∧ b._active_config = some (api.get_config spec.config_name) ∧
    b._policy = some (buildPolicy api ref skill (api.get_config spec.config_name)
      (api.load_norm_stats (spec.checkpoint ++ [py "assets"]) asset_id) merged) ∧
    b._noise_rng = api.key 0

/-- Specification, configuration, policy and noise generator are the same. -/
structure SameUse (b b' : OpenPiCompositeBackend api) : Prop where
  spec : b'._active_spec = b._active_spec
  config : b'._active_config = b._active_config
  policy : b'._policy = b._policy
  noise_rng : b'._noise_rng = b._noise_rng

/-- What a call has to do: a `prepare` that returns switches, one that raises
changes nothing, and no call touches the shared base. -/
def Switches (profile : CompositeBackendProfile) (b : OpenPiCompositeBackend api)
    (call : Call api) : Prop :=
  (∀ skill io, call = .prepare skill io →
    (∀ identity, (b.prepare skill io).1 = .ok identity →
      InUse profile skill (b.prepare skill io).2) ∧
    ∀ e, (b.prepare skill io).1 = .error e → SameUse b (b.prepare skill io).2) ∧
  (b.after call)._shared = base api profile

/-- The first part of a `prepare` gets through: the skill is known, its assets
pass, and no call before the hash raises. -/
def Assembles (api : OpenPi) (profile : CompositeBackendProfile) (skill : PyStr) (io : PrepareIo) :
    Prop :=
  ∃ spec, profile.skills.lookup skill = some spec ∧ _validate_assets io.files spec = .ok () ∧
    io.restore_params = none ∧ io.get_config = none ∧ io.load = none ∧ io.create = none ∧
    (api.create (api.get_config spec.config_name)).asset_id ≠ none ∧
    io.load_norm_stats = none ∧ io.policy = none

/-- A `prepare` in which nothing but the hash of the manifest raises. -/
def HashRaises (profile : CompositeBackendProfile) (call : Call api) : Prop :=
  ∃ skill io e, call = .prepare skill io ∧ Assembles api profile skill io ∧
    io.sha256_file = .error e

/-! ## §2. One `prepare`. -/

theorem raiseIf_ok {o : Option Exn} {u : Unit} : raiseIf o = .ok u ↔ o = none := by
  cases o with
  | none => exact ⟨fun _ => rfl, fun _ => rfl⟩
  | some e =>
      constructor
      · intro h
        cases h
      · intro h
        cases h

/-- What `prepare` has in hand before the replacement is a function of the
base, the skill and its files. -/
theorem assemble_ok {b : OpenPiCompositeBackend api} {skill : PyStr} {io : PrepareIo}
    {a : Assembled api} (h : b.assemble skill io = .ok a) :
    Assembles api b.profile skill io ∧
    ∃ spec asset_id, b.profile.skills.lookup skill = some spec ∧ a.spec = spec ∧
      a.config = api.get_config spec.config_name ∧
      a.policy = buildPolicy api b.refs skill (api.get_config spec.config_name)
        (api.load_norm_stats (spec.checkpoint ++ [py "assets"]) asset_id)
        (Dictionary.update b._shared (adapter api spec)) := by
  unfold assemble at h
  split at h
  · cases h
  · rename_i spec hspec
    simp only [bind_ok, raiseIf_ok] at h
    obtain ⟨_, hassets, _, hrestore, _, hconfig, _, hload, _, hcreate, h⟩ := h
    split at h
    · cases h
    · rename_i asset_id hasset
      simp only [bind_ok, raiseIf_ok] at h
      obtain ⟨_, hstats, _, hpolicy, h⟩ := h
      cases h
      refine ⟨⟨spec, hspec, hassets, hrestore, hconfig, hload, hcreate, ?_, hstats, hpolicy⟩,
        spec, asset_id, hspec, rfl, rfl, rfl⟩
      rw [hasset]
      exact Option.some_ne_none _

theorem assemble_of_assembles {b : OpenPiCompositeBackend api} {skill : PyStr} {io : PrepareIo}
    (h : Assembles api b.profile skill io) : ∃ a, b.assemble skill io = .ok a := by
  obtain ⟨spec, hspec, hassets, hrestore, hconfig, hload, hcreate, hasset, hstats, hpolicy⟩ := h
  obtain ⟨asset_id, hid⟩ := Option.ne_none_iff_exists'.mp hasset
  unfold assemble
  rw [hspec]
  simp only [hassets, hrestore, hconfig, hload, hcreate, hstats, hpolicy, hid, raiseIf, bind,
    Except.bind]
  exact ⟨_, rfl⟩

/-- A policy just built is not the one in use. -/
structure Owned (profile : CompositeBackendProfile) (b : OpenPiCompositeBackend api) : Prop where
  served : b.profile = profile
  shared : b._shared = base api profile
  older : ∀ policy, b._policy = some policy → policy.ref < b.refs

theorem Owned.commit {profile : CompositeBackendProfile} {b : OpenPiCompositeBackend api}
    (h : Owned profile b) {skill : PyStr} {io : PrepareIo} {a : Assembled api}
    (ha : b.assemble skill io = .ok a) :
    Owned profile (b.commit a) ∧ InUse profile skill (b.commit a) ∧ ¬ SameUse b (b.commit a) := by
  obtain ⟨-, spec, asset_id, hspec, haspec, haconfig, hapolicy⟩ := assemble_ok ha
  have href : a.policy.ref = b.refs := by
    rw [hapolicy]
    rfl
  refine ⟨⟨h.served, h.shared, ?_⟩, ?_, ?_⟩
  · intro policy hpolicy
    cases hpolicy
    show a.policy.ref < b.refs + 1
    omega
  · refine ⟨spec, asset_id, Dictionary.update b._shared (adapter api spec), b.refs,
      h.served ▸ hspec, ?_, ?_, ?_, ?_, rfl⟩
    · intro key
      have hnodup : ((adapter api spec).map Prod.fst).Nodup := api.flatten_nodup _
      rw [Dictionary.lookup_update _ _ hnodup, h.shared]
    · exact congrArg some haspec
    · exact congrArg some haconfig
    · exact congrArg some hapolicy
  · intro hsame
    have hlt := h.older a.policy hsame.policy.symm
    omega

/-- **One call** does what it has to, unless its hash alone raises. -/
theorem Owned.switches_iff {profile : CompositeBackendProfile} {b : OpenPiCompositeBackend api}
    (h : Owned profile b) (call : Call api) :
    Owned profile (b.after call) ∧ (Switches profile b call ↔ ¬ HashRaises profile call) := by
  cases call with
  | prepare skill io =>
      cases ha : b.assemble skill io with
      | error e =>
          have hprepare : b.prepare skill io = (.error e, b) := by
            unfold prepare
            rw [ha]
          have hafter : b.after (.prepare skill io) = b := congrArg Prod.snd hprepare
          have howned : Owned profile (b.after (.prepare skill io)) := by
            rw [hafter]
            exact h
          have hswitches : Switches profile b (.prepare skill io) := by
            refine ⟨?_, howned.shared⟩
            intro skill' io' hcall
            cases hcall
            rw [hprepare]
            exact ⟨fun _ hr => (nomatch hr), fun _ _ => ⟨rfl, rfl, rfl, rfl⟩⟩
          refine ⟨howned, iff_of_true hswitches ?_⟩
          rintro ⟨skill', io', e', hcall, hassembles, -⟩
          cases hcall
          obtain ⟨a, ha'⟩ := assemble_of_assembles (h.served ▸ hassembles)
          rw [ha] at ha'
          cases ha'
      | ok a =>
          obtain ⟨howned, huse, hother⟩ := h.commit ha
          cases hhash : io.sha256_file with
          | error e =>
              have hprepare : b.prepare skill io = (.error e, b.commit a) := by
                unfold prepare
                rw [ha]
                simp only [hhash]
              have hafter : b.after (.prepare skill io) = b.commit a := congrArg Prod.snd hprepare
              -- the switch has happened, but `prepare` raises
              refine ⟨hafter ▸ howned, iff_of_false ?_ ?_⟩
              · rintro ⟨hswitch, -⟩
                have hraise := (hswitch skill io rfl).2 e
                rw [hprepare] at hraise
                exact hother (hraise rfl)
              · intro hno
                exact hno ⟨skill, io, e, rfl, h.served ▸ (assemble_ok ha).1, hhash⟩
          | ok manifest_hash =>
              obtain ⟨identity, hprepare⟩ :
                  ∃ identity, b.prepare skill io = (.ok identity, b.commit a) := by
                unfold prepare
                rw [ha]
                simp only [hhash]
                exact ⟨_, rfl⟩
              have hafter : b.after (.prepare skill io) = b.commit a := congrArg Prod.snd hprepare
              refine ⟨hafter ▸ howned, iff_of_true ⟨?_, hafter ▸ howned.shared⟩ ?_⟩
              · intro skill' io' hcall
                cases hcall
                rw [hprepare]
                exact ⟨fun _ _ => huse, fun _ hr => (nomatch hr)⟩
              · rintro ⟨skill', io', e, hcall, -, hraises⟩
                cases hcall
                rw [hhash] at hraises
                cases hraises
  | infer io =>
      have hno : ¬ HashRaises profile (.infer io) := by
        rintro ⟨skill, io', e, hcall, -⟩
        cases hcall
      have howned : Owned profile (b.after (.infer io)) := by
        show Owned profile (b.infer io).2
        unfold infer
        split
        · rename_i policy config spec hpolicy hconfig hspec
          have hkept : Owned profile { b with
              _noise_rng := (api.split b._noise_rng).1
              _policy := some { policy with _rng := io.rng } } := by
            refine ⟨h.served, h.shared, ?_⟩
            intro policy' hp
            cases hp
            exact h.older policy hpolicy
          simp only
          split
          · exact hkept
          · split
            · exact hkept
            · exact hkept
          · exact hkept
        · exact h
      have hswitches : Switches profile b (.infer io) := by
        refine ⟨?_, howned.shared⟩
        intro skill io' hcall
        cases hcall
      exact ⟨howned, iff_of_true hswitches hno⟩
  | reset_prng seed =>
      have hno : ¬ HashRaises profile (.reset_prng seed : Call api) := by
        rintro ⟨skill, io', e, hcall, -⟩
        cases hcall
      have howned : Owned profile (b.after (.reset_prng seed)) := by
        refine ⟨h.served, h.shared, ?_⟩
        intro policy' hp
        obtain ⟨policy, hpolicy, rfl⟩ := Option.map_eq_some_iff.mp hp
        exact h.older policy hpolicy
      have hswitches : Switches profile b (.reset_prng seed) := by
        refine ⟨?_, howned.shared⟩
        intro skill io' hcall
        cases hcall
      exact ⟨howned, iff_of_true hswitches hno⟩

/-! ## §3. All calls. -/

theorem owned_run (profile : CompositeBackendProfile) (calls : List (Call api)) :
    Owned profile (run api profile calls) := by
  induction calls using List.reverseRecOn with
  | nil => exact ⟨rfl, rfl, fun policy h => nomatch h⟩
  | append_singleton calls call ih =>
      rw [run, List.foldl_append, List.foldl_cons, List.foldl_nil]
      exact (ih.switches_iff call).1

/-- **Adapter switching**: in a history of calls, every `prepare` that returns
has switched to exactly its own skill, every one that raises has changed
nothing, and the base stays as it is, exactly when no `prepare` fails at the
hash of its manifest alone. -/
theorem adapter_switching_iff (profile : CompositeBackendProfile) (calls : List (Call api)) :
    Always (fun before call => Switches profile (run api profile before) call) calls ↔
      Always (fun _ call => ¬ HashRaises profile call) calls := by
  induction calls using List.reverseRecOn with
  | nil => exact iff_of_true (always_nil _) (always_nil _)
  | append_singleton calls call ih =>
      rw [always_snoc, always_snoc, ih, ((owned_run profile calls).switches_iff call).2]

/-- Libraries in which every object is empty. -/
def emptyOpenPi : OpenPi where
  Params := Unit
  Leaf := Unit
  Config := Unit
  Model := Unit
  Stats := Unit
  Transform := Unit
  Key := Int
  Noise := Unit
  restore_params := fun _ => ()
  flatten_dict := fun _ => []
  flatten_nodup := fun _ => List.nodup_nil
  unflatten_dict := fun _ => ()
  get_config := fun _ => ()
  load := fun _ _ => ()
  create := fun _ =>
    { asset_id := some (py "agilex"), use_quantile_norm := false, data_inputs := []
      model_inputs := [], model_outputs := [], data_outputs := [] }
  policy_metadata := fun _ => []
  action_shape := fun _ => (50, 14)
  load_norm_stats := fun _ _ => ()
  inject_default_prompt := ()
  normalize := fun _ _ => ()
  unnormalize := fun _ _ => ()
  key := fun seed => seed
  policy_rng := 0
  split := fun k => (k + 1, k)
  normal := fun _ _ => ()
  noise_hash := fun _ => []
  asarray := fun v => v

/-- One skill. -/
def oneSkill : CompositeBackendProfile :=
  { shared_params := [py "shared"]
    skills := [(py "fold",
      { name := py "fold", config_name := py "pi0_fold", checkpoint := [py "checkpoint"]
        adapter := [py "adapter"], manifest := [py "manifest.json"] })] }

/-- Complete assets, and a manifest that cannot be read a second time. -/
def unreadableManifest : PrepareIo :=
  { files :=
      { is_dir := fun _ => true
        is_file := fun _ => true
        read_json := fun _ => .ok (.map
          [(.str (py "artifact_type"), .str (py "exact_composite_adapter")),
           (.str (py "exact_parameter_recomposition"), .bool true),
           (.str (py "full_checkpoint"), .str (py "checkpoint/params")),
           (.str (py "adapter"), .str (py "adapter"))])
        text := fun _ => []
        resolve := fun s => .ok (if s = py "adapter" then [py "adapter"]
          else [py "checkpoint", py "params"]) }
    sha256_file := .error (.error .OSError) }

/-- **A prepare that raises and switches all the same.** -/
theorem prepare_raises_switched :
    ((init emptyOpenPi oneSkill).prepare (py "fold") unreadableManifest).1
      = .error (.error .OSError) ∧
    ((init emptyOpenPi oneSkill).prepare (py "fold") unreadableManifest).2._policy.isSome = true ∧
    ¬ Switches oneSkill (init emptyOpenPi oneSkill) (.prepare (py "fold") unreadableManifest) := by
  refine ⟨rfl, rfl, ?_⟩
  rintro ⟨hswitch, -⟩
  have hsame := ((hswitch _ _ rfl).2 (.error .OSError) rfl).policy
  cases hsame

end OpenPiCompositeBackend

end OvenRuntime
