/-
  OvenRuntime.Edge.ProfileAgreement
  ─────────────────────────────────
  A profile that the loader accepts is accepted by what `main` builds from it
  exactly if four of its values are as plain as the components expect
  (`configuration_agrees_iff`).
-/
import OvenRuntime.Edge.Connections

namespace OvenRuntime

/-! ## §1. What has to agree. -/

/-- A planned stage finds what it needs under its skill. -/
structure StageConfigured (profile : AgilexProfile) (stage : StagePlan) : Prop where
  prompt : (profile.ros.prompts.lookup stage.skill).isSome = true
  reset_target : (profile.ros.reset_targets.lookup stage.skill).isSome = true
  gate : ∃ gate, profile.gates.lookup stage.skill = some gate ∧
    profile.ros.skill_arms.lookup stage.skill = some gate.arm
  checker : stage.checker_required = true → (profile.checkers.lookup stage.skill).isSome = true

/-- The components that `main` builds agree with the profile. -/
structure Agrees (env : ProfileEnvironment) (profile : AgilexProfile) : Prop where
  /-- The tunnel and the clients are constructed. -/
  connects : ∃ connections, EdgeConnections.build env profile = .ok connections
  /-- The host of the inference URI is where the tunnel listens. -/
  listens : ∃ uri, urlsplit env.netlocOk profile.inference_uri = .ok uri ∧
    uri.hostname = some SshInferenceTunnel.listen_host
  stages : ∀ stage ∈ profile.plan.stages, StageConfigured profile stage
  /-- An accepted chunk has a column for each joint of the last command and of
  the row limits. -/
  columns : ∀ array chunk, profile.actionValidator.validate array = .ok chunk →
    ∀ row ∈ chunk, row.length = 7 ∧ row.length = profile.ros.max_row_delta.length

/-- The values that the loader checks less strictly than the components. -/
structure PlainValues (env : ProfileEnvironment) (profile : AgilexProfile) : Prop where
  /-- The URI is written with the address, and its host is that address. -/
  uri : py "ws://127.0.0.1:" <+: profile.inference_uri
  host : ∃ uri, urlsplit env.netlocOk profile.inference_uri = .ok uri ∧
    uri.hostname = some (py "127.0.0.1") ∧ uri.port ≠ .ok (some 0)
  program : profile.remote_control_program.all (fun c => c.isIdChar || c == SLASH) = true
  dimension : profile.action_dimension = 7

/-! ## §2. What the loader has checked. -/

/-- The checks of an accepted profile that the components make too. -/
structure Checked (env : ProfileEnvironment) (profile : AgilexProfile) : Prop where
  max_row_delta : profile.ros.max_row_delta.length = 7
  dimension_pos : 0 < profile.action_dimension
  chunk_rows_pos : 0 < profile.action_chunk_rows
  limit_pos : 0 < profile.action_max_absolute_value
  remote_port : 1 ≤ profile.remote_inference_port ∧ profile.remote_inference_port ≤ 65535
  timeout_pos : 0 < profile.inference_timeout_sec
  host_alias : HOST_ALIAS_PATTERN profile.server_host_alias = true
  program_absolute : py "/" <+: profile.remote_control_program
  program_parts : py ".." ∉ (PurePosixPath.parse profile.remote_control_program).parts
  root_absolute : profile.remote_runtime_root.is_absolute = true
  root_parts : py ".." ∉ profile.remote_runtime_root.parts
  uri : ∃ uri port, urlsplit env.netlocOk profile.inference_uri = .ok uri ∧
    uri.port = .ok (some port) ∧ uri.scheme = py "ws" ∧
    uri.hostname ∈ LOOPBACK_HOSTS.map some ∧ uri.username = none

theorem uri_of_validate {netlocOk : PyStr → Bool} {text : PyStr}
    (h : validateUri netlocOk text = .ok ()) :
    ∃ uri port, urlsplit netlocOk text = .ok uri ∧ uri.port = .ok (some port) ∧
      uri.scheme = py "ws" ∧ uri.hostname ∈ LOOPBACK_HOSTS.map some ∧ uri.username = none := by
  unfold validateUri at h
  obtain ⟨uri, huri, h⟩ := bind_ok.mp h
  obtain ⟨port, hport, h⟩ := bind_ok.mp h
  split at h
  · cases h
  · rename_i hplain
    simp only [not_or, not_not] at hplain
    obtain ⟨hscheme, hhost, hsome, huser, -⟩ := hplain
    obtain ⟨n, rfl⟩ := Option.ne_none_iff_exists'.mp hsome
    exact ⟨uri, n, huri, hport, hscheme, hhost, huser⟩

theorem max_row_delta_of_validate {config : RosBridgeConfig}
    (h : config.validate = .ok ()) : config.max_row_delta.length = 7 := by
  unfold RosBridgeConfig.validate at h
  split at h
  · cases h
  split at h
  · cases h
  split at h
  · cases h
  split at h
  · cases h
  · rename_i hlimits
    exact not_not.mp fun hlength => hlimits (Or.inl hlength)

/-- What an accepted profile has passed. -/
theorem load_ok {env : ProfileEnvironment} {raw : TomlTable} {run_id : PyStr}
    {selected_skill : Option PyStr} {profile : AgilexProfile}
    (h : load_agilex_profile env raw run_id selected_skill = .ok profile) :
    readProfile env raw run_id selected_skill = .ok profile ∧
      profile.ros.validate = .ok () ∧ _validate_profile env profile = .ok () := by
  unfold load_agilex_profile at h
  obtain ⟨p, hread, h⟩ := bind_ok.mp h
  obtain ⟨-, -, h⟩ := bind_ok.mp h
  obtain ⟨_, hros, h⟩ := bind_ok.mp h
  obtain ⟨-, -, h⟩ := bind_ok.mp h
  obtain ⟨-, -, h⟩ := bind_ok.mp h
  obtain ⟨_, hvalidate, h⟩ := bind_ok.mp h
  cases h
  exact ⟨hread, hros, hvalidate⟩

theorem checked_of_load {env : ProfileEnvironment} {raw : TomlTable} {run_id : PyStr}
    {selected_skill : Option PyStr} {profile : AgilexProfile}
    (h : load_agilex_profile env raw run_id selected_skill = .ok profile) :
    Checked env profile := by
  obtain ⟨-, hros, hvalidate⟩ := load_ok h
  unfold _validate_profile at hvalidate
  simp only [guard_ok, not_or, not_le, not_not, Bool.not_eq_true', Bool.not_eq_false] at hvalidate
  obtain ⟨hsizes, hlimit, -, hport, htimeout, halias, hprogram, hroot, huri⟩ := hvalidate
  exact
    { max_row_delta := max_row_delta_of_validate hros
      dimension_pos := hsizes.1
      chunk_rows_pos := hsizes.2
      limit_pos := hlimit
      remote_port := hport
      timeout_pos := htimeout
      host_alias := halias
      program_absolute := List.isPrefixOf_iff_prefix.mp hprogram.1
      program_parts := hprogram.2
      root_absolute := hroot.1
      root_parts := hroot.2
      uri := uri_of_validate huri }

/-! ## §3. The stages. -/

/-- What a loop collects comes from its turns. -/
theorem mem_of_mapM {ε α β : Type} {f : α → Except ε β} {as : List α} {bs : List β}
    (h : as.mapM f = .ok bs) : ∀ b ∈ bs, ∃ a, f a = .ok b := by
  induction as generalizing bs with
  | nil =>
      cases h
      intro b hb
      cases hb
  | cons a as ih =>
      rw [List.mapM_cons] at h
      obtain ⟨b, hb, h⟩ := bind_ok.mp h
      obtain ⟨rest, hrest, h⟩ := bind_ok.mp h
      cases h
      intro c hc
      apply (List.mem_cons.mp hc).elim
      · exact fun heq => ⟨a, heq ▸ hb⟩
      · exact ih hrest c

/-- The table of one skill is complete. -/
structure EntryComplete (entry : SkillEntry) : Prop where
  arm : entry.gate.arm = entry.arm
  stage : ∀ stage, entry.stage = some stage → stage.skill = entry.skill ∧
    (stage.checker_required = true → entry.checker.isSome = true)

theorem loadGate_arm {value : TomlTable} {arm : PyStr} {gate : JointGateProfile}
    (h : loadGate value arm = .ok gate) : gate.arm = arm := by
  unfold loadGate at h
  obtain ⟨table, -, h⟩ := bind_ok.mp h
  split at h
  · rw [guard_ok] at h
    obtain ⟨targets, -, h⟩ := bind_ok.mp h.2
    obtain ⟨check_indices, -, h⟩ := bind_ok.mp h
    obtain ⟨tolerance, -, h⟩ := bind_ok.mp h
    obtain ⟨departure_threshold, -, h⟩ := bind_ok.mp h
    obtain ⟨min_publish_step, -, h⟩ := bind_ok.mp h
    obtain ⟨window_samples, -, h⟩ := bind_ok.mp h
    obtain ⟨max_spread, -, h⟩ := bind_ok.mp h
    obtain ⟨arming_indices, -, h⟩ := bind_ok.mp h
    obtain ⟨arming_min_abs_position, -, h⟩ := bind_ok.mp h
    cases h
    rfl
  · cases h

theorem loadStage_skill {selected_skill : Option PyStr} {chunk_rows : Int} {settle_sec : ℚ}
    {checker_required : Bool} {value : TomlTable} {skill : PyStr} {stage : StagePlan}
    (h : loadStage selected_skill chunk_rows settle_sec checker_required value skill
      = .ok stage) : stage.skill = skill ∧ stage.checker_required = checker_required := by
  unfold loadStage at h
  obtain ⟨root_seed, -, h⟩ := bind_ok.mp h
  obtain ⟨max_chunks, -, h⟩ := bind_ok.mp h
  obtain ⟨reset_before, -, h⟩ := bind_ok.mp h
  cases h
  exact ⟨rfl, rfl⟩

/-- **The loop over the skills leaves complete entries.** -/
theorem loadSkill_complete {selected_skill : Option PyStr} {chunk_rows : Int} {settle_sec : ℚ}
    {skills : TomlTable} {skill : PyStr} {entry : SkillEntry}
    (h : loadSkill selected_skill chunk_rows settle_sec skills skill = .ok entry) :
    EntryComplete entry := by
  unfold loadSkill at h
  obtain ⟨value, -, h⟩ := bind_ok.mp h
  obtain ⟨prompt, -, h⟩ := bind_ok.mp h
  obtain ⟨reset_target, -, h⟩ := bind_ok.mp h
  obtain ⟨arm, -, h⟩ := bind_ok.mp h
  obtain ⟨checker_required, -, h⟩ := bind_ok.mp h
  obtain ⟨stage, hstage, h⟩ := bind_ok.mp h
  obtain ⟨gate, hgate, h⟩ := bind_ok.mp h
  obtain ⟨checker, hchecker, h⟩ := bind_ok.mp h
  cases h
  refine ⟨loadGate_arm hgate, ?_⟩
  intro planned hplanned
  have hloaded : loadStage selected_skill chunk_rows settle_sec checker_required value skill
      = .ok planned := by
    split at hstage
    · obtain ⟨loaded, hloaded, hsome⟩ := map_ok.mp hstage
      rw [hloaded, ← Option.some_inj.mp (hsome.trans hplanned)]
    · cases hstage
      cases hplanned
  obtain ⟨hskill, hrequired⟩ := loadStage_skill hloaded
  refine ⟨hskill, ?_⟩
  intro htrue
  rw [if_pos (hrequired ▸ htrue)] at hchecker
  obtain ⟨spec, -, hsome⟩ := map_ok.mp hchecker
  show checker.isSome = true
  rw [← hsome]
  rfl

/-- A table keyed by skill is looked up through the entries. -/
theorem lookup_entries {α : Type} (f : SkillEntry → α) (entries : List SkillEntry)
    (skill : PyStr) : (entries.map fun entry => (entry.skill, f entry)).lookup skill
      = (entries.find? fun entry => skill == entry.skill).map f := by
  induction entries with
  | nil => rfl
  | cons entry entries ih =>
      rw [List.map_cons, List.lookup_cons, List.find?_cons]
      cases skill == entry.skill with
      | true => rfl
      | false => exact ih

/-- A skill with a checker has it in the table of checkers. -/
theorem lookup_checkers {entries : List SkillEntry} {entry : SkillEntry} (hmem : entry ∈ entries)
    (h : entry.checker.isSome = true) :
    ((entries.filterMap fun entry => entry.checker.map fun spec => (entry.skill, spec)).lookup
      entry.skill).isSome = true := by
  obtain ⟨spec, hspec⟩ := Option.isSome_iff_exists.mp h
  rw [List.lookup_isSome_iff]
  refine ⟨(entry.skill, spec), ?_, beq_self_eq_true _⟩
  exact List.mem_filterMap.mpr ⟨entry, hmem, by rw [hspec]; rfl⟩

/-- The tables of the robot bridge are those of the entries. -/
theorem loadRos_tables {env : ProfileEnvironment} {ros action : TomlTable}
    {entries : List SkillEntry} {config : RosBridgeProfile}
    (h : loadRos env ros action entries = .ok config) :
    config.prompts = (entries.map fun entry => (entry.skill, entry.prompt)) ∧
    config.reset_targets = (entries.map fun entry => (entry.skill, entry.reset_target)) ∧
    config.skill_arms = entries.map fun entry => (entry.skill, entry.arm) := by
  unfold loadRos at h
  obtain ⟨lock_directory, -, h⟩ := bind_ok.mp h
  obtain ⟨left_joint_topic, -, h⟩ := bind_ok.mp h
  obtain ⟨right_joint_topic, -, h⟩ := bind_ok.mp h
  obtain ⟨left_command_topic, -, h⟩ := bind_ok.mp h
  obtain ⟨right_command_topic, -, h⟩ := bind_ok.mp h
  obtain ⟨left_camera_topic, -, h⟩ := bind_ok.mp h
  obtain ⟨right_camera_topic, -, h⟩ := bind_ok.mp h
  obtain ⟨front_camera_topic, -, h⟩ := bind_ok.mp h
  obtain ⟨image_size, -, h⟩ := bind_ok.mp h
  obtain ⟨max_message_age_sec, -, h⟩ := bind_ok.mp h
  obtain ⟨preflight_timeout_sec, -, h⟩ := bind_ok.mp h
  obtain ⟨publish_hz, -, h⟩ := bind_ok.mp h
  obtain ⟨chunk_transition_steps, -, h⟩ := bind_ok.mp h
  obtain ⟨chunk_transition_hz, -, h⟩ := bind_ok.mp h
  obtain ⟨max_row_delta, -, h⟩ := bind_ok.mp h
  obtain ⟨reset_duration_sec, -, h⟩ := bind_ok.mp h
  obtain ⟨reset_tolerance, -, h⟩ := bind_ok.mp h
  obtain ⟨reset_verify_timeout_sec, -, h⟩ := bind_ok.mp h
  obtain ⟨stop_hold_repetitions, -, h⟩ := bind_ok.mp h
  cases h
  exact ⟨rfl, rfl, rfl⟩

/-- **Every planned stage is configured.** -/
theorem stages_configured {env : ProfileEnvironment} {raw : TomlTable} {run_id : PyStr}
    {selected_skill : Option PyStr} {profile : AgilexProfile}
    (h : readProfile env raw run_id selected_skill = .ok profile) :
    ∀ stage ∈ profile.plan.stages, StageConfigured profile stage := by
  unfold readProfile at h
  rw [guard_ok] at h
  obtain ⟨server, -, h⟩ := bind_ok.mp h.2
  obtain ⟨ros, -, h⟩ := bind_ok.mp h
  obtain ⟨action, -, h⟩ := bind_ok.mp h
  obtain ⟨skills, -, h⟩ := bind_ok.mp h
  obtain ⟨chunk_rows, -, h⟩ := bind_ok.mp h
  obtain ⟨settle_sec, -, h⟩ := bind_ok.mp h
  rw [guard_ok] at h
  obtain ⟨entries, hentries, h⟩ := bind_ok.mp h.2
  obtain ⟨config, hros, h⟩ := bind_ok.mp h
  obtain ⟨dimension, -, h⟩ := bind_ok.mp h
  obtain ⟨max_absolute_value, -, h⟩ := bind_ok.mp h
  obtain ⟨observation_max_age_ms, -, h⟩ := bind_ok.mp h
  obtain ⟨ssh_host_alias, -, h⟩ := bind_ok.mp h
  obtain ⟨local_inference_uri, -, h⟩ := bind_ok.mp h
  obtain ⟨remote_inference_port, -, h⟩ := bind_ok.mp h
  obtain ⟨inference_timeout_sec, -, h⟩ := bind_ok.mp h
  obtain ⟨remote_control_program, -, h⟩ := bind_ok.mp h
  obtain ⟨root_text, -, h⟩ := bind_ok.mp h
  obtain ⟨remote_runtime_root, -, h⟩ := bind_ok.mp h
  cases h
  have hcomplete : ∀ entry ∈ entries, EntryComplete entry := by
    intro entry hentry
    obtain ⟨skill, hload⟩ := mem_of_mapM hentries entry hentry
    exact loadSkill_complete hload
  obtain ⟨hprompts, htargets, harms⟩ := loadRos_tables hros
  intro stage hstage
  obtain ⟨entry, hentry, hplanned⟩ := List.mem_filterMap.mp hstage
  obtain ⟨hskill, hchecker⟩ := (hcomplete entry hentry).stage stage hplanned
  -- the first entry of that skill
  obtain ⟨first, hfirst⟩ : ∃ first, entries.find? (fun e => stage.skill == e.skill) = some first := by
    refine Option.isSome_iff_exists.mp (List.find?_isSome.mpr ⟨entry, hentry, ?_⟩)
    rw [hskill]
    exact beq_self_eq_true _
  have hlookup : ∀ {α : Type} (f : SkillEntry → α),
      (entries.map fun e => (e.skill, f e)).lookup stage.skill = some (f first) := by
    intro α f
    rw [lookup_entries, hfirst]
    rfl
  refine ⟨?_, ?_, ⟨first.gate, hlookup SkillEntry.gate, ?_⟩, ?_⟩
  · show (config.prompts.lookup _).isSome = true
    rw [hprompts, hlookup]
    rfl
  · show (config.reset_targets.lookup _).isSome = true
    rw [htargets, hlookup]
    rfl
  · show config.skill_arms.lookup _ = _
    rw [harms, hlookup, (hcomplete first (List.mem_of_find?_eq_some hfirst)).arm]
  · intro hrequired
    rw [hskill]
    exact lookup_checkers hentry (hchecker hrequired)

/-! ## §4. The inference URI. -/

/-- A text is cut at the first separator. -/
theorem cut_append {sep : CodePoint} {before : PyStr} (h : sep ∉ before) (after : PyStr) :
    cut sep (before ++ sep :: after) = (before, after) := by
  have hbefore : ∀ c ∈ before, (c != sep) = true := by
    intro c hc
    exact bne_iff_ne.mpr fun heq => h (heq ▸ hc)
  have hsep : (sep != sep) = false := bne_self_eq_false sep
  unfold cut
  rw [List.takeWhile_append_of_pos hbefore, List.dropWhile_append_of_pos hbefore,
    List.takeWhile_cons_of_neg (by rw [hsep]; exact Bool.false_ne_true),
    List.dropWhile_cons_of_neg (by rw [hsep]; exact Bool.false_ne_true), List.append_nil]
  rfl

/-- The network location of a text in brackets. -/
theorem netloc_bracketed {netlocOk : PyStr → Bool} {rest : PyStr} {uri : SplitResult}
    (h : urlsplit netlocOk (py "ws://[::1]:" ++ rest) = .ok uri) :
    ∃ port, uri.netloc = py "[::1]:" ++ port := by
  have hclean : ∃ tail, cleanUrl (py "ws://[::1]:" ++ rest) = py "ws" ++ 58 :: (py "//[::1]:" ++ tail) :=
    ⟨rest.filter fun c => c.val != 9 && c.val != 10 && c.val != 13, rfl⟩
  obtain ⟨tail, hclean⟩ := hclean
  have hcut : cut 58 (py "ws" ++ 58 :: (py "//[::1]:" ++ tail)) = (py "ws", py "//[::1]:" ++ tail) :=
    cut_append (by decide) _
  have hscheme : splitScheme (cleanUrl (py "ws://[::1]:" ++ rest))
      = (py "ws", py "//[::1]:" ++ tail) := by
    unfold splitScheme
    rw [hclean, hcut]
    simp only
    rw [if_pos ⟨by simp, by decide, by decide⟩]
    rfl
  have hnetloc : (splitNetloc (py "//[::1]:" ++ tail)).1 = py "[::1]:" ++
      tail.takeWhile fun c => c.val != 47 && c.val != 63 && c.val != 35 := rfl
  unfold urlsplit at h
  rw [hscheme] at h
  simp only at h
  split at h
  · cases h
  split at h
  · cases h
  · cases h
    exact ⟨_, hnetloc⟩

/-- The host of such a text is the address in brackets. -/
theorem hostname_bracketed {uri : SplitResult} {port : PyStr}
    (h : uri.netloc = py "[::1]:" ++ port) (huser : uri.username = none) :
    uri.hostname = some (py "::1") := by
  have hat : (64 : CodePoint) ∉ uri.netloc := by
    intro hmem
    unfold SplitResult.username at huser
    rw [if_pos hmem] at huser
    cases huser
  have hinfo : uri.hostinfo = [] ++ 91 :: (py "::1" ++ 93 :: (58 :: port)) := by
    have hall : ∀ c ∈ uri.netloc, (c != 64) = true := by
      intro c hc
      exact bne_iff_ne.mpr fun heq => hat (heq ▸ hc)
    unfold SplitResult.hostinfo
    rw [List.rtakeWhile_eq_self_iff.mpr hall, h]
    rfl
  have hhost : uri._hostinfo.1 = py "::1" := by
    unfold SplitResult._hostinfo
    rw [if_pos (by rw [hinfo]; simp), hinfo, cut_append (List.not_mem_nil), cut_append (by decide)]
  unfold SplitResult.hostname
  rw [hhost]
  rfl

/-- A port is at most 65535. -/
theorem port_le {uri : SplitResult} {port : Nat} (h : uri.port = .ok (some port)) :
    port ≤ 65535 := by
  unfold SplitResult.port at h
  split at h
  · cases h
  · split at h
    · cases h
    split at h
    · cases h
    split at h
    · cases h
    · cases h
      omega

/-! ## §5. The components. -/

/-- `..` is a part of a path exactly if it stands between slashes. -/
theorem dots_mem_parts (text : PyStr) :
    py ".." ∈ (PurePosixPath.parse text).parts ↔ py ".." ∈ text.splitOn SLASH := by
  have hnames : py ".." ∈ (PurePosixPath.parse text).names ↔ py ".." ∈ text.splitOn SLASH := by
    unfold PurePosixPath.parse
    rw [List.mem_filter]
    exact ⟨fun h => h.1, fun h => ⟨h, by decide⟩⟩
  unfold PurePosixPath.parts
  split
  · exact hnames
  · rw [List.mem_cons, ← hnames]
    constructor
    · intro h
      apply h.elim
      · intro hroot
        -- a root has slashes only
        have hdot : (46 : CodePoint) ∈ (PurePosixPath.parse text).rootText :=
          hroot ▸ by decide
        exact absurd (List.eq_of_mem_replicate hdot) (by decide)
      · exact id
    · exact Or.inr

/-- **The control client takes the program exactly if its characters are
plain**; the rest the loader has checked. -/
theorem control_iff {env : ProfileEnvironment} {profile : AgilexProfile}
    (h : Checked env profile) :
    (SshControlClient.init profile.server_host_alias profile.remote_control_program
        (some profile.remote_runtime_root.str) 180).isOk = true ↔
      profile.remote_control_program.all (fun c => c.isIdChar || c == SLASH) = true := by
  have hne : profile.remote_control_program.isEmpty = false := by
    obtain ⟨rest, hrest⟩ := h.program_absolute
    rw [← hrest]
    rfl
  have hdots : py ".." ∉ profile.remote_control_program.splitOn SLASH :=
    fun hmem => h.program_parts ((dots_mem_parts _).mpr hmem)
  have hroot : ((some profile.remote_runtime_root.str).any fun text =>
      let root := PurePosixPath.parse text
      !root.is_absolute || root.parts.contains (py "..")) = false := by
    show (!(PurePosixPath.parse _).is_absolute || (PurePosixPath.parse _).parts.contains _) = false
    rw [PurePosixPath.parse_str, h.root_absolute, Bool.not_true, Bool.false_or]
    exact Bool.eq_false_iff.mpr fun hmem => h.root_parts (List.contains_iff_mem.mp hmem)
  unfold SshControlClient.init PROGRAM_PATTERN
  rw [h.host_alias, hne, hroot]
  have htimeout : ¬ (180 : ℚ) ≤ 0 := by decide +kernel
  cases hplain : profile.remote_control_program.all (fun c => c.isIdChar || c == SLASH) with
  | true =>
      rw [if_neg (by decide), if_neg (by simp [hdots]), if_neg htimeout,
        if_neg Bool.false_ne_true]
      exact ⟨fun _ => rfl, fun _ => rfl⟩
  | false =>
      rw [if_neg (by decide), if_pos (Or.inl (by rfl))]
      exact ⟨fun h => absurd h (by decide), fun h => absurd h (by decide)⟩

/-- The tunnel is constructed exactly if the local port is not zero. -/
theorem tunnel_iff {env : ProfileEnvironment} {profile : AgilexProfile}
    (h : Checked env profile) {port : Nat} (hport : port ≤ 65535) :
    (SshInferenceTunnel.init profile.server_host_alias port
        profile.remote_inference_port 10).isOk = true ↔ port ≠ 0 := by
  have htimeout : ¬ (10 : ℚ) ≤ 0 := by decide +kernel
  obtain ⟨hlow, hhigh⟩ := h.remote_port
  unfold SshInferenceTunnel.init
  rw [h.host_alias, if_neg (by decide)]
  by_cases hzero : port = 0
  · rw [if_pos (Or.inl (by omega))]
    exact ⟨fun h => absurd h (by decide), fun h => absurd hzero h⟩
  · rw [if_neg (by omega), if_neg htimeout]
    exact ⟨fun _ => hzero, fun _ => rfl⟩

/-- The inference client is constructed exactly if the URI is written with a
loopback address. -/
theorem inference_iff {env : ProfileEnvironment} {profile : AgilexProfile}
    (h : Checked env profile) :
    (InferenceClient.init profile.inference_uri profile.inference_timeout_sec).isOk = true ↔
      py "ws://127.0.0.1:" <+: profile.inference_uri ∨
        py "ws://[::1]:" <+: profile.inference_uri := by
  have htimeout := h.timeout_pos
  rw [← List.isPrefixOf_iff_prefix, ← List.isPrefixOf_iff_prefix]
  unfold InferenceClient.init
  rw [if_neg (not_le.mpr htimeout)]
  cases (py "ws://127.0.0.1:").isPrefixOf profile.inference_uri with
  | true => exact ⟨fun _ => Or.inl rfl, fun _ => rfl⟩
  | false =>
      cases (py "ws://[::1]:").isPrefixOf profile.inference_uri with
      | true => exact ⟨fun _ => Or.inr rfl, fun _ => rfl⟩
      | false =>
          constructor
          · intro h
            exact absurd (show false = true from h) Bool.false_ne_true
          · exact fun h => h.elim (absurd · Bool.false_ne_true) (absurd · Bool.false_ne_true)

/-- **`main` makes its connections exactly if the three constructors do.** -/
theorem build_iff {env : ProfileEnvironment} {profile : AgilexProfile} {uri : SplitResult}
    {port : Nat} (huri : urlsplit env.netlocOk profile.inference_uri = .ok uri)
    (hport : uri.port = .ok (some port)) (hscheme : uri.scheme = py "ws")
    (hhost : uri.hostname ∈ LOOPBACK_HOSTS.map some) :
    (∃ connections, EdgeConnections.build env profile = .ok connections) ↔
      (SshInferenceTunnel.init profile.server_host_alias port
        profile.remote_inference_port 10).isOk = true ∧
      (SshControlClient.init profile.server_host_alias profile.remote_control_program
        (some profile.remote_runtime_root.str) 180).isOk = true ∧
      (InferenceClient.init profile.inference_uri profile.inference_timeout_sec).isOk = true := by
  have hbuild : EdgeConnections.build env profile = (do
      let tunnel ← SshInferenceTunnel.init profile.server_host_alias port
        profile.remote_inference_port 10
      let control ← SshControlClient.init profile.server_host_alias
        profile.remote_control_program (some profile.remote_runtime_root.str) 180
      let inference ← InferenceClient.init profile.inference_uri profile.inference_timeout_sec
      return { tunnel := tunnel, control := control, inference := inference }) := by
    unfold EdgeConnections.build
    rw [huri]
    show (uri.port >>= _) = _
    rw [hport]
    show (if uri.scheme ≠ py "ws" ∨ uri.hostname ∉ LOOPBACK_HOSTS.map some then _ else _) = _
    rw [if_neg (by
      rw [not_or, not_not, not_not]
      exact ⟨hscheme, hhost⟩)]
  rw [hbuild]
  constructor
  · rintro ⟨connections, h⟩
    obtain ⟨tunnel, htunnel, h⟩ := bind_ok.mp h
    obtain ⟨control, hcontrol, h⟩ := bind_ok.mp h
    obtain ⟨inference, hinference, -⟩ := bind_ok.mp h
    rw [htunnel, hcontrol, hinference]
    exact ⟨rfl, rfl, rfl⟩
  · rintro ⟨htunnel, hcontrol, hinference⟩
    obtain ⟨tunnel, htunnel⟩ := exists_of_isOk htunnel
    obtain ⟨control, hcontrol⟩ := exists_of_isOk hcontrol
    obtain ⟨inference, hinference⟩ := exists_of_isOk hinference
    rw [htunnel, hcontrol, hinference]
    exact ⟨_, rfl⟩

/-! ## §6. Action chunks. -/

/-- The chunk that does not move the robot. -/
def stillChunk (rows columns : Nat) : NumArray where
  dtype := .f
  shape := [rows, columns]
  items := List.replicate (rows * columns) (.fin 0)
  sized := by
    have hlength : (List.replicate (rows * columns) (PyFloat.fin 0)).length = rows * columns :=
      List.length_replicate
    have hshape : [rows, columns].prod = rows * columns := by simp
    exact hlength.trans hshape.symm

theorem max_still {items : List PyFloat} (hne : items ≠ []) (h : ∀ x ∈ items, x = .fin 0) :
    DType.max .f items = .ok (.fin 0) := by
  have hfold : ∀ xs : List PyFloat, (∀ x ∈ xs, x = .fin 0) →
      xs.foldl (fun m y => if m.lt y || y == .nan then y else m) (.fin 0) = .fin 0 := by
    intro xs
    induction xs with
    | nil => exact fun _ => rfl
    | cons y ys ih =>
        intro hall
        rw [List.foldl_cons, hall y (List.mem_cons_self ..)]
        exact ih fun x hx => hall x (List.mem_cons_of_mem _ hx)
  cases items with
  | nil => exact absurd rfl hne
  | cons x xs =>
      rw [h x (List.mem_cons_self ..)]
      exact congrArg Except.ok (hfold xs fun x hx => h x (List.mem_cons_of_mem _ hx))

theorem items_still {rows columns : Nat} : ∀ x ∈ (stillChunk rows columns).items,
    x = PyFloat.fin 0 := fun _ => List.eq_of_mem_replicate

theorem firstColumns_still {rows columns : Nat} (hrows : 0 < rows) (hcolumns : 0 < columns) :
    ((stillChunk rows columns).firstColumns columns).flatten ≠ [] := by
  have hsize : rows * columns ≠ 0 := Nat.mul_ne_zero (by omega) (by omega)
  have hrow : (PyFloat.fin 0) ∈ ((stillChunk rows columns).row 0).take columns := by
    show _ ∈ (((List.replicate (rows * columns) (PyFloat.fin 0)).drop (0 * columns)).take
      columns).take columns
    rw [Nat.zero_mul, List.drop_zero, List.take_replicate, List.take_replicate,
      List.mem_replicate]
    exact ⟨by omega, rfl⟩
  exact List.ne_nil_of_mem (List.mem_flatten.mpr
    ⟨_, List.mem_map.mpr ⟨0, List.mem_range.mpr hrows, rfl⟩, hrow⟩)

/-- **A chunk of the configured shape is accepted.** -/
theorem validate_still {v : ActionValidator} {limit : ℚ} {rows columns : Nat}
    (hdimension : v.action_dimension = columns) (hcolumns : 0 < columns)
    (hchunk_rows : v.chunk_rows = rows) (hrows : 0 < rows)
    (hvalue : v.max_absolute_value = .fin limit) (hlimit : 0 < limit) :
    ∃ chunk, v.validate (stillChunk rows columns) = .ok chunk := by
  have hprojected : ∀ x ∈ ((stillChunk rows columns).firstColumns columns).flatten.map
      (DType.abs .f), x = PyFloat.fin 0 := by
    intro x hx
    obtain ⟨y, hy, rfl⟩ := List.mem_map.mp hx
    rw [items_still y (NumArray.mem_firstColumns hy)]
    show PyFloat.fin |0| = _
    rw [abs_zero]
  have hmax := max_still (fun h => firstColumns_still hrows hcolumns (List.map_eq_nil_iff.mp h))
    hprojected
  have hlt : ∀ x : ℚ, ((PyFloat.fin limit).lt (.fin x) = true ↔ limit < x) :=
    fun x => PyFloat.lt_iff rfl rfl
  have hgt : (PyFloat.fin 0).lt (.fin limit) = true := (PyFloat.lt_iff rfl rfl).mpr hlimit
  unfold ActionValidator.validate
  simp only [guard_ok, bind_ok]
  refine ⟨_, ?_, ?_, ?_, .fin 0, ?_, ?_, rfl⟩
  · rw [hvalue, hgt, hdimension, hchunk_rows]
    rintro (hle | hle | hfinite | hnot)
    · omega
    · omega
    · cases hfinite
    · exact hnot rfl
  · rw [hdimension, hchunk_rows]
    rintro (hle | hle | hnot)
    · exact hle rfl
    · exact hle rfl
    · exact hnot (List.mem_cons_self ..)
  · rintro (hkind | hall)
    · cases hkind
    · rw [List.all_eq_false] at hall
      obtain ⟨x, hx, hfinite⟩ := hall
      rw [items_still x hx] at hfinite
      exact hfinite rfl
  · rw [hdimension, Int.toNat_natCast]
    exact hmax
  · rw [hvalue]
    exact fun h => absurd ((hlt 0).mp h) (not_lt.mpr hlimit.le)

/-- **Every accepted chunk has seven columns exactly if seven are configured.** -/
theorem columns_iff {env : ProfileEnvironment} {profile : AgilexProfile}
    (h : Checked env profile) :
    (∀ array chunk, profile.actionValidator.validate array = .ok chunk →
      ∀ row ∈ chunk, row.length = 7 ∧ row.length = profile.ros.max_row_delta.length) ↔
      profile.action_dimension = 7 := by
  constructor
  · intro hcolumns
    obtain ⟨columns, hdimension⟩ := Int.eq_ofNat_of_zero_le h.dimension_pos.le
    obtain ⟨rows, hrows⟩ := Int.eq_ofNat_of_zero_le h.chunk_rows_pos.le
    have hcolumns_pos := h.dimension_pos
    have hrows_pos := h.chunk_rows_pos
    obtain ⟨chunk, hchunk⟩ := validate_still (v := profile.actionValidator)
      hdimension (by omega) hrows (by omega) rfl h.limit_pos
    obtain ⟨hlength, hshape⟩ := ActionValidator.validate_shape hchunk
    have hlength : (chunk.length : Int) = profile.action_chunk_rows := hlength
    obtain ⟨row, hrow⟩ := List.exists_mem_of_length_pos (l := chunk) (by omega)
    have hseven := (hcolumns _ chunk hchunk row hrow).1
    have hrow : (row.length : Int) = profile.action_dimension := hshape row hrow
    omega
  · intro hseven array chunk hchunk row hrow
    have hrow : (row.length : Int) = profile.action_dimension :=
      (ActionValidator.validate_shape hchunk).2 row hrow
    rw [h.max_row_delta]
    omega

/-! ## §7. Agreement. -/

/-- A profile with plain values agrees. -/
theorem agrees_of_plain {env : ProfileEnvironment} {raw : TomlTable} {run_id : PyStr}
    {selected_skill : Option PyStr} {profile : AgilexProfile}
    (h : load_agilex_profile env raw run_id selected_skill = .ok profile)
    (hplain : PlainValues env profile) : Agrees env profile := by
  have hchecked := checked_of_load h
  obtain ⟨uri, port, huri, hport, hscheme, hhost, -⟩ := hchecked.uri
  obtain ⟨uri', huri', hlisten, hzero⟩ := hplain.host
  rw [huri, Except.ok.injEq] at huri'
  rw [← huri'] at hlisten hzero
  have htunnel := (tunnel_iff hchecked (port_le hport)).mpr (by
    rintro rfl
    exact hzero hport)
  have hcontrol := (control_iff hchecked).mpr hplain.program
  have hinference := (inference_iff hchecked).mpr (Or.inl hplain.uri)
  exact
    { connects := (build_iff huri hport hscheme hhost).mpr ⟨htunnel, hcontrol, hinference⟩
      listens := ⟨uri, huri, hlisten⟩
      stages := stages_configured (load_ok h).1
      columns := (columns_iff hchecked).mpr hplain.dimension }

/-- The values of a profile that agrees are plain. -/
theorem plain_of_agrees {env : ProfileEnvironment} {profile : AgilexProfile}
    (hchecked : Checked env profile) (hagrees : Agrees env profile) :
    PlainValues env profile := by
  obtain ⟨uri, port, huri, hport, hscheme, hhost, huser⟩ := hchecked.uri
  obtain ⟨htunnel, hcontrol, hinference⟩ :=
    (build_iff huri hport hscheme hhost).mp hagrees.connects
  obtain ⟨uri', huri', hlisten⟩ := hagrees.listens
  rw [huri, Except.ok.injEq] at huri'
  rw [← huri'] at hlisten
  refine ⟨?_, ⟨uri, huri, hlisten, ?_⟩, (control_iff hchecked).mp hcontrol,
    (columns_iff hchecked).mp hagrees.columns⟩
  · apply ((inference_iff hchecked).mp hinference).elim
    · exact id
    · -- in brackets the host would be another
      rintro ⟨rest, hrest⟩
      rw [← hrest] at huri
      obtain ⟨text, hnetloc⟩ := netloc_bracketed huri
      rw [hostname_bracketed hnetloc huser] at hlisten
      exact absurd hlisten (by decide)
  · rw [hport]
    intro heq
    cases heq
    exact (tunnel_iff hchecked (port_le hport)).mp htunnel rfl

/-- **A profile that the loader accepts agrees with its components exactly if
its values are plain**: the URI is written with the address that the tunnel
listens on and a port that is not zero, the control program has no special
characters, and an action has seven columns. -/
theorem configuration_agrees_iff {env : ProfileEnvironment} {raw : TomlTable} {run_id : PyStr}
    {selected_skill : Option PyStr} {profile : AgilexProfile}
    (h : load_agilex_profile env raw run_id selected_skill = .ok profile) :
    Agrees env profile ↔ PlainValues env profile :=
  ⟨plain_of_agrees (checked_of_load h), agrees_of_plain h⟩

/-! ## §8. A document. -/

/-- An array of equal floats. -/
def sampleFloats (n : Nat) (q : ℚ) : Toml := .array (List.replicate n (.float (.fin q)))

/-- The table of a skill without a checker. -/
def sampleSkill : TomlTable :=
  [(py "arm", .str (py "left")), (py "prompt", .str (py "open the door")),
   (py "root_seed", .int 0), (py "max_chunks", .int 20), (py "reset_before", .bool true),
   (py "checker_required", .bool false), (py "reset_target", sampleFloats 7 0),
   (py "gate", .table
     [(py "targets", .array [sampleFloats 7 0]), (py "check_indices", .array [.int 0, .int 1]),
      (py "tolerance", sampleFloats 2 (1 / 8)), (py "departure_threshold", .float (.fin (1 / 8))),
      (py "min_publish_step", .int 300), (py "window_samples", .int 200),
      (py "max_spread", .float (.fin (1 / 16)))])]

/-- A document with the shipped connections, but for the control program, and
four equal skills. -/
def sampleDocument (remote_control_program : PyStr) : TomlTable :=
  [(py "schema_version", .int 1),
   (py "server", .table
     [(py "ssh_host_alias", .str (py "oven-inference")),
      (py "local_inference_uri", .str (py "ws://127.0.0.1:19110")),
      (py "remote_inference_port", .int 19110), (py "inference_timeout_sec", .int 120),
      (py "remote_control_program", .str remote_control_program),
      (py "remote_runtime_root", .str (py "/home/amax/oven_runtime_v1"))]),
   (py "ros", .table
     [(py "left_joint_topic", .str (py "/puppet/joint_left")),
      (py "right_joint_topic", .str (py "/puppet/joint_right")),
      (py "left_command_topic", .str (py "/joint_left_states")),
      (py "right_command_topic", .str (py "/joint_right_states")),
      (py "left_camera_topic", .str (py "/camera_l/color/image_raw")),
      (py "right_camera_topic", .str (py "/camera_r/color/image_raw")),
      (py "front_camera_topic", .str (py "/camera_f/color/image_raw")),
      (py "image_size", .int 224), (py "max_message_age_sec", .float (.fin (1 / 2))),
      (py "observation_max_age_ms", .int 500), (py "preflight_timeout_sec", .int 5),
      (py "publish_hz", .int 30), (py "reset_duration_sec", .int 4),
      (py "reset_tolerance", .float (.fin (1 / 32))), (py "reset_verify_timeout_sec", .int 3),
      (py "settle_sec", .int 3), (py "stop_hold_repetitions", .int 3)]),
   (py "action", .table
     [(py "dimension", .int 7), (py "chunk_rows", .int 50),
      (py "max_absolute_value", .float (.fin (13 / 2))), (py "chunk_transition_steps", .int 50),
      (py "chunk_transition_hz", .int 200), (py "max_row_delta", sampleFloats 7 (1 / 8))]),
   (py "skills", .table (FIXED_SKILL_ORDER.map fun skill => (skill, .table sampleSkill)))]

/-- An environment; the network location of the document passes every check. -/
def sampleProfileEnvironment : ProfileEnvironment where
  home := id
  lock_directory := .ok (PurePosixPath.parse (py "/home/agilex/oven/locks"))
  netlocOk := fun _ => true

theorem configuration_agrees_iff_sample :
    ∃ profile, load_agilex_profile sampleProfileEnvironment
        (sampleDocument (py "/opt/oven/bin/oven-serverctl")) (py "run") none = .ok profile ∧
      (Agrees sampleProfileEnvironment profile ↔ PlainValues sampleProfileEnvironment profile) := by
  obtain ⟨profile, h⟩ := exists_of_isOk (r := load_agilex_profile sampleProfileEnvironment
    (sampleDocument (py "/opt/oven/bin/oven-serverctl")) (py "run") none) (by decide +kernel)
  exact ⟨profile, h, configuration_agrees_iff h⟩

/-- **A control program whose path has a space is accepted by the loader and
refused by the control client.** -/
theorem program_with_space_refused :
    ∃ profile, load_agilex_profile sampleProfileEnvironment
        (sampleDocument (py "/opt/oven runtime/bin/oven-serverctl")) (py "run") none
          = .ok profile ∧
      (SshControlClient.init profile.server_host_alias profile.remote_control_program
        (some profile.remote_runtime_root.str) 180).isOk = false ∧
      ¬ Agrees sampleProfileEnvironment profile := by
  have hload : ((load_agilex_profile sampleProfileEnvironment
      (sampleDocument (py "/opt/oven runtime/bin/oven-serverctl")) (py "run") none).toOption.any
      fun profile => !(SshControlClient.init profile.server_host_alias
        profile.remote_control_program (some profile.remote_runtime_root.str) 180).isOk) = true := by
    decide +kernel
  cases h : load_agilex_profile sampleProfileEnvironment
      (sampleDocument (py "/opt/oven runtime/bin/oven-serverctl")) (py "run") none with
  | error e =>
      rw [h] at hload
      cases hload
  | ok profile =>
      rw [h] at hload
      have hrefused : (!(SshControlClient.init profile.server_host_alias
        profile.remote_control_program (some profile.remote_runtime_root.str) 180).isOk) = true :=
        hload
      rw [Bool.not_eq_true'] at hrefused
      refine ⟨profile, rfl, hrefused, ?_⟩
      intro hagrees
      have hchecked := checked_of_load h
      have hcontrol := (control_iff hchecked).mpr (plain_of_agrees hchecked hagrees).program
      rw [hrefused] at hcontrol
      exact Bool.false_ne_true hcontrol

end OvenRuntime
