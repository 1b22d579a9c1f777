/-
  OvenRuntime.Server.Answered
  ───────────────────────────
  The responses of `infer` in the order they were given, and the sessions
  they were given under.

    * a call has a response exactly when the history says so (`AnsweredInv`);
    * a request still without an answer agrees with the lease it was admitted
      under in every field, as long as that lease is stored (`ServedInv`);
    * under a trial the responses come in one block per session, in the order
      the sessions were opened, each numbered 0, 1, 2, … (`BlockInv`).
-/
import OvenRuntime.Server.Commit

namespace OvenRuntime

open TransitionSystem

/-! ## §1. What the history records. -/

/-- The inference a step answers: its response is fixed in this step. -/
def Label.answer : Label → Option (Nat × PolicyRuntime.Inference)
  | .step id (.inferFinish inf) _ (.running (.inferLeave _ _ (.ok _))) => some (id, inf)
  | _ => none

/-- The session a step opens. -/
def Label.grant : Label → Option SessionGrant
  | .step _ .openSession _ (.returned (.ok (.session grant))) => some grant
  | _ => none

/-- The inferences answered, in order, with their calls. -/
def answers (ls : List Label) : List (Nat × PolicyRuntime.Inference) := ls.filterMap Label.answer

/-- The inferences answered under a trial. -/
def answersUnder (ls : List Label) (trial_id : PyStr) : List PolicyRuntime.Inference :=
  Keyed.valuesAt (fun a => a.2.request.trial_id) (fun a => a.2) (answers ls) trial_id

/-- The sessions opened under a trial, in order. -/
def openedUnder (ls : List Label) (trial_id : PyStr) : List PyStr :=
  Keyed.valuesAt (fun g => g.trial_id) (fun g => g.session_id) (ls.filterMap Label.grant) trial_id

/-- A step without an answer adds none. -/
theorem answers_snoc_none {ls : List Label} {l : Label} (h : l.answer = none) :
    answers (ls ++ [l]) = answers ls := by
  simp [answers, List.filterMap_append, h]

/-- A step with an answer adds it at the end. -/
theorem answers_snoc_some {ls : List Label} {l : Label} {a : Nat × PolicyRuntime.Inference}
    (h : l.answer = some a) : answers (ls ++ [l]) = answers ls ++ [a] := by
  simp [answers, List.filterMap_append, h]

/-- A step without an answer adds none under any trial. -/
theorem answersUnder_snoc_none {ls : List Label} {l : Label} (h : l.answer = none) :
    answersUnder (ls ++ [l]) = answersUnder ls := by
  unfold answersUnder
  rw [answers_snoc_none h]

/-- An answer is added under the trial of its request. -/
theorem answersUnder_snoc_self {ls : List Label} {l : Label} {id : Nat}
    {inf : PolicyRuntime.Inference} (h : l.answer = some (id, inf)) :
    answersUnder (ls ++ [l]) inf.request.trial_id
      = answersUnder ls inf.request.trial_id ++ [inf] := by
  unfold answersUnder
  rw [answers_snoc_some h]
  exact Keyed.valuesAt_snoc_self (answers ls) (id, inf)

/-- It is not added under another trial. -/
theorem answersUnder_snoc_other {ls : List Label} {l : Label} {id : Nat}
    {inf : PolicyRuntime.Inference} {trial_id : PyStr} (h : l.answer = some (id, inf))
    (hne : inf.request.trial_id ≠ trial_id) :
    answersUnder (ls ++ [l]) trial_id = answersUnder ls trial_id := by
  unfold answersUnder
  rw [answers_snoc_some h]
  exact Keyed.valuesAt_snoc_other hne

/-- A step that opens no session adds none. -/
theorem openedUnder_snoc_none {ls : List Label} {l : Label} (h : l.grant = none) :
    openedUnder (ls ++ [l]) = openedUnder ls := by
  unfold openedUnder
  simp [List.filterMap_append, h]

/-- A session is added under the trial it is opened for. -/
theorem openedUnder_snoc_self {ls : List Label} {l : Label} {grant : SessionGrant}
    (h : l.grant = some grant) : openedUnder (ls ++ [l]) grant.trial_id
      = openedUnder ls grant.trial_id ++ [grant.session_id] := by
  unfold openedUnder
  rw [List.filterMap_append, List.filterMap_cons_some h]
  exact Keyed.valuesAt_snoc_self (ls.filterMap Label.grant) grant

/-- It is not added under another trial. -/
theorem openedUnder_snoc_other {ls : List Label} {l : Label} {grant : SessionGrant}
    {trial_id : PyStr} (h : l.grant = some grant) (hne : grant.trial_id ≠ trial_id) :
    openedUnder (ls ++ [l]) trial_id = openedUnder ls trial_id := by
  unfold openedUnder
  rw [List.filterMap_append, List.filterMap_cons_some h]
  exact Keyed.valuesAt_snoc_other hne

/-! ## §2. Answers and calls. -/

/-- The response a call has been promised. -/
def Sys.answered (s : Sys) (id : Nat) : Option InferenceResponse :=
  (s.calls id).bind CallState.answered

/-- The call that moved has the answer of its new state. -/
@[simp] theorem Sys.answered_self (s : Sys) (rt : PolicyRuntime) (id : Nat) (c : CallState) :
    (s.setCall rt id c).answered id = c.answered := by
  simp [Sys.answered]

/-- The other calls have the answers they had. -/
theorem Sys.answered_other (s : Sys) (rt : PolicyRuntime) {id j : Nat} (c : CallState)
    (h : j ≠ id) : (s.setCall rt id c).answered j = s.answered j := by
  simp [Sys.answered, Sys.setCall_other _ _ _ h]

/-- What counting a response does. -/
structure Counts (s s' : Sys) (id : Nat) (inf : PolicyRuntime.Inference) (lease : SessionLease) :
    Prop where
  finishing : s.calls id = some (.running (.inferFinish inf))
  stored : s.rt.session = some lease
  ref : lease.ref = inf.lease_ref
  state : s' = s.setCall { s.rt with session := some lease.next } id
    (.running (.inferLeave inf.request inf.lease_ref (.ok inf.response)))

/-- A step of a call answers it, or changes no answer. -/
theorem Effect.answers {id : Nat} {rt rt' : PolicyRuntime} {pc : Pc} {next : CallState}
    (h : Effect id rt pc rt' next) :
    next.answered = pc.answered ∨
    ∃ inf lease, pc = .inferFinish inf ∧ rt.session = some lease ∧ lease.ref = inf.lease_ref ∧
      rt' = { rt with session := some lease.next } ∧
      next = .running (.inferLeave inf.request inf.lease_ref (.ok inf.response)) := by
  cases h with
  | frame _ _ _ _ hold hnew => exact .inl (hnew.trans hold.symm)
  | acquire _ _ _ hold _ _ hnew => exact .inl (hnew.trans hold.symm)
  | release _ _ _ _ hsame => exact .inl hsame
  | refused _ he => exact .inl (CallState.answered_none_of_entered (c := .running pc) he).symm
  | finished hs href => exact .inr ⟨_, _, rfl, hs, href, rfl, rfl⟩
  | @left request ref out => cases out <;> exact .inl rfl
  | entered _ he => exact .inl (CallState.answered_none_of_entered he)
  | began | opened | admitted => exact .inl rfl

/-- **A step answers one call, or changes no answer.** -/
theorem Step.answers {cfg : RuntimeConfig} {nx : Numerics} {s s' : Sys} {l : Label}
    (h : Step cfg nx s l s') :
    (l.answer = none ∧ ∀ j, s'.answered j = s.answered j) ∨
    ∃ id inf lease, l.answer = some (id, inf) ∧ Counts s s' id inf lease := by
  rcases step_cases h with ⟨id, op, rfl, hnone, rfl⟩ | ⟨id, pc, ch, rt', next, rfl, hpc, ha, rfl⟩
  · refine .inl ⟨rfl, ?_⟩
    intro j
    by_cases hj : j = id
    · subst hj
      simp [Sys.answered, hnone, op.start_answered]
    · exact Sys.answered_other _ _ _ hj
  · rcases ha.effect.answers with hsame | ⟨inf, lease, rfl, hs, href, rfl, rfl⟩
    · left
      constructor
      · -- a response would be new
        unfold Label.answer
        split
        · rename_i heq
          cases heq
          cases hsame
        · rfl
      · intro j
        by_cases hj : j = id
        · subst hj
          rw [Sys.answered_self, hsame, Sys.answered, hpc]
          rfl
        · exact Sys.answered_other _ _ _ hj
    · exact .inr ⟨id, inf, lease, rfl, hpc, hs, href, rfl⟩

/-- A call has a response exactly when the history answered it. -/
def AnsweredInv (ls : List Label) (s : Sys) : Prop :=
  ∀ id response, s.answered id = some response ↔
    ∃ inf, (id, inf) ∈ answers ls ∧ inf.response = response

/-- In every history, the calls that have a response are those that were answered. -/
theorem RuntimeRun.answeredInv {cfg : RuntimeConfig} {nx : Numerics} {ls : List Label} {s : Sys}
    (h : RuntimeRun cfg nx ls s) : AnsweredInv ls s := by
  refine Run.invariant AnsweredInv ?_ ?_ h
  · rintro s ⟨dirs, rfl⟩ id response
    simp [Sys.answered, answers]
  · intro ls s l s' _ hinv hst j response
    rcases Step.answers hst with ⟨hl, hsame⟩ | ⟨id, inf, lease, hl, hc⟩
    · rw [answers_snoc_none hl, hsame]
      exact hinv j response
    · rw [answers_snoc_some hl, hc.state]
      by_cases hj : j = id
      · subst hj
        have hnone : s.answered j = none := by
          simp [Sys.answered, hc.finishing, CallState.answered, Pc.answered]
        rw [Sys.answered_self]
        constructor
        · intro hr
          cases hr
          exact ⟨inf, by simp, rfl⟩
        · rintro ⟨inf', hmem, rfl⟩
          rcases List.mem_append.mp hmem with hmem | hmem
          · have := (hinv j inf'.response).mpr ⟨inf', hmem, rfl⟩
            rw [hnone] at this
            cases this
          · cases List.mem_singleton.mp hmem
            rfl
      · rw [Sys.answered_other _ _ _ hj, hinv j response]
        simp [hj]

/-! ## §3. Requests and their lease. -/

/-- The request asks for the next sequence number of the lease. -/
structure UnderLease (request : InferenceRequest) (lease : SessionLease) : Prop where
  session_id : request.session_id = lease.session_id
  trial_id : request.trial_id = lease.trial_id
  skill : request.expected_skill = lease.skill
  generation : request.expected_generation = lease.generation
  sequence : request.sequence = lease.next_sequence

/-- The admitted request a call has no answer for yet. -/
def Pc.unanswered : Pc → Option (InferenceRequest × Nat)
  | .inferPolicy request lease_ref => some (request, lease_ref)
  | pc => pc.entered

/-- A call that has entered the policy has not answered yet. -/
theorem Pc.unanswered_of_entered {pc : Pc} {p : InferenceRequest × Nat} (h : pc.entered = some p) :
    pc.unanswered = some p := by
  cases pc <;> first | exact h | cases h

/-- A call without an answer serves its request. -/
theorem Pc.serving_of_unanswered {pc : Pc} {p : InferenceRequest × Nat}
    (h : pc.unanswered = some p) : (CallState.running pc).serving = some p := by
  by_cases hp : ∃ request ref, pc = .inferPolicy request ref
  · obtain ⟨request, ref, rfl⟩ := hp
    exact h
  · apply CallState.serving_of_entered
    show pc.entered = some p
    rw [← h]
    cases pc <;> first | rfl | exact absurd ⟨_, _, rfl⟩ hp

/-- A call without an answer that is not about to enter the policy has entered it. -/
theorem Pc.entered_of_unanswered {pc : Pc} {p : InferenceRequest × Nat}
    (h : pc.unanswered = some p) (he : pc.entry = none) : pc.entered = some p := by
  cases pc <;> first | exact h | cases he

/-- Only requests of the kind `infer` are admitted. -/
theorem PolicyRuntime.inferEnter_kind {rt rt' : PolicyRuntime} {request : InferenceRequest}
    {now : ℚ} {ref : Nat} (h : rt.inferEnter request now = (.ok ref, rt')) :
    request.request_kind = .INFER := by
  by_contra hk
  unfold inferEnter at h
  have hv : ∃ e rt₁, rt._validate_request_locked request now = (.error e, rt₁) := by
    unfold _validate_request_locked
    split
    · exact ⟨_, _, rfl⟩
    · split_ifs <;> exact ⟨_, _, rfl⟩
  obtain ⟨e, rt₁, hv⟩ := hv
  rw [hv] at h
  cases h

/-- **What is known of a request in service.** -/
structure ServedInv (s : Sys) : Prop where
  lease : ∀ id pc request ref lease, s.calls id = some (.running pc) →
    pc.unanswered = some (request, ref) → s.rt.session = some lease → lease.ref = ref →
    UnderLease request lease
  kind : ∀ id pc request ref, s.calls id = some (.running pc) →
    pc.unanswered = some (request, ref) → request.request_kind = .INFER ∧ ref < s.rt.refs

/-- The request a call is left with was there before, or is admitted now. -/
theorem Effect.unanswered_origin {id : Nat} {rt rt' : PolicyRuntime} {pc pc' : Pc}
    (h : Effect id rt pc rt' (.running pc')) {request : InferenceRequest} {ref : Nat}
    (hs : pc'.unanswered = some (request, ref)) :
    pc.unanswered = some (request, ref) ∨
      ∃ lease, pc = .inferEnter request ∧ pc' = .inferPolicy request ref ∧
        PolicyRuntime.Admitted rt request lease ∧ lease.ref = ref ∧ rt'.session = rt.session := by
  generalize hn : CallState.running pc' = next at h
  cases h with
  | frame _ _ _ hsame _ _ _ hentry =>
      subst hn
      have hent : pc'.entered = some (request, ref) := Pc.entered_of_unanswered hs hentry
      exact .inl (Pc.unanswered_of_entered (hsame.symm.trans hent))
  | acquire _ _ _ _ _ hnone =>
      cases hn
      have := Pc.serving_of_unanswered hs
      rw [CallState.serving_running, hnone] at this
      cases this
  | release _ _ _ hnone =>
      subst hn
      rw [Pc.serving_of_unanswered hs] at hnone
      cases hnone
  | admitted hadm =>
      cases hn
      cases hs
      exact .inr ⟨_, rfl, rfl, hadm, rfl, rfl⟩
  | entered _ he =>
      subst hn
      have := CallState.serving_of_entered he
      rw [Pc.serving_of_unanswered hs] at this
      exact .inl this.symm
  | refused | finished | left | began =>
      cases hn
      cases hs
  | opened => cases hn

/-- **Every step keeps it.** -/
theorem ServedInv.step {cfg : RuntimeConfig} {nx : Numerics} {s s' : Sys} {l : Label}
    (h : ServedInv s) (hwf : s.rt.WF) (hlock : LockInv s) (hst : Step cfg nx s l s') :
    ServedInv s' := by
  rcases step_cases hst with ⟨id, op, rfl, hnone, rfl⟩ | ⟨id, pc, ch, rt', next, rfl, hpc, ha, rfl⟩
  · -- a call that begins serves nobody
    have hold : ∀ j pc p, (s.setCall s.rt id (op.start nx)).calls j = some (.running pc) →
        pc.unanswered = some p → s.calls j = some (.running pc) := by
      intro j pc p hj hp
      rcases Sys.setCall_calls_eq hj with ⟨-, hn⟩ | ⟨-, hold⟩
      · have := (op.start_holdsLock nx).2
        rw [← hn, Pc.serving_of_unanswered hp] at this
        cases this
      · exact hold
    exact ⟨fun j pc request ref lease hj hp hl hr => h.lease j pc request ref lease
        (hold j pc _ hj hp) hp hl hr,
      fun j pc request ref hj hp => h.kind j pc request ref (hold j pc _ hj hp) hp⟩
  · have heff := ha.effect
    refine ⟨?_, ?_⟩
    · intro j pc' request ref lease hj hp hl href
      -- the request was there before, under a lease with this reference or none
      have hcase : (∃ pc₀, s.calls j = some (.running pc₀) ∧ pc₀.unanswered = some (request, ref)) ∨
          UnderLease request lease := by
        rcases Sys.setCall_calls_eq hj with ⟨rfl, rfl⟩ | ⟨-, hold⟩
        · rcases heff.unanswered_origin hp with hold | ⟨l, -, -, hadm, -, hsame⟩
          · exact .inl ⟨pc, hpc, hold⟩
          · have hl : rt'.session = some lease := hl
            rw [hsame, hadm.stored] at hl
            cases hl
            exact .inr ⟨hadm.session_id, hadm.lease_trial, hadm.lease_skill,
              hadm.lease_generation, hadm.sequence⟩
        · exact .inl ⟨pc', hold, hp⟩
      rcases hcase with ⟨pc₀, h₀, hp₀⟩ | hdone
      · have hold : s.rt.session = some lease → UnderLease request lease :=
          fun hs => h.lease j pc₀ request ref lease h₀ hp₀ hs href
        have hsv := Pc.serving_of_unanswered hp₀
        cases heff with
        | frame hf =>
            rcases hf.session with hs | hs
            · exact hold (hs.symm.trans hl)
            · have := hs.symm.trans hl
              cases this
        | opened _ _ _ hnew =>
            -- a new lease has a new reference
            have hlt := (h.kind j pc₀ request ref h₀ hp₀).2
            cases hl
            omega
        | finished hs hr =>
            -- the one call in service is the one answered now
            have hsole := hlock.sole hpc rfl h₀ (CallState.holdsLock_of_serving (by simp [hsv]))
            subst hsole
            rcases Sys.setCall_calls_eq hj with ⟨-, hn⟩ | ⟨hne, -⟩
            · cases hn
              cases hp
            · exact absurd rfl hne
        | refused => cases hl
        | acquire | release | began | admitted | entered | left => exact hold hl
      · exact hdone
    · intro j pc' request ref hj hp
      rcases Sys.setCall_calls_eq hj with ⟨rfl, rfl⟩ | ⟨-, hold⟩
      · rcases heff.unanswered_origin hp with hold | ⟨l, rfl, rfl, hadm, hr, -⟩
        · obtain ⟨hk, hlt⟩ := h.kind j pc request ref hpc hold
          exact ⟨hk, Nat.lt_of_lt_of_le hlt heff.refs⟩
        · refine ⟨?_, ?_⟩
          swap
          · rw [← hr]
            exact Nat.lt_of_lt_of_le (hwf.lease l hadm.stored).ref heff.refs
          generalize hn : CallState.running (.inferPolicy request ref) = next at ha
          cases ha with
          | @inferEnter _ now r _ he =>
              cases r with
              | ok ref' => exact PolicyRuntime.inferEnter_kind he
              | error e => cases hn
      · obtain ⟨hk, hlt⟩ := h.kind j pc' request ref hold hp
        exact ⟨hk, Nat.lt_of_lt_of_le hlt heff.refs⟩

/-- In every history, a request in service is the next one of its lease. -/
theorem RuntimeRun.servedInv {cfg : RuntimeConfig} {nx : Numerics} {ls : List Label} {s : Sys}
    (h : RuntimeRun cfg nx ls s) : ServedInv s := by
  refine Run.invariant (M := runtimeSystem cfg nx) (fun _ s => ServedInv s) ?_ ?_ h
  · rintro s ⟨dirs, rfl⟩
    exact ⟨by simp, by simp⟩
  · intro ls s l s' hrun hinv hst
    exact hinv.step (RuntimeRun.inv hrun).wf (RuntimeRun.lockInv hrun) hst

/-! ## §4. Blocks. -/

/-- The first `n` sequence numbers of a session. -/
def numbered (block : PyStr × Nat) : List (PyStr × Int) :=
  (firstSequences block.2).map fun k => (block.1, k)

/-- A session without an answer. -/
theorem numbered_zero (session_id : PyStr) : numbered (session_id, 0) = [] := rfl

/-- One more answer in a session has the next number. -/
theorem numbered_succ (session_id : PyStr) (n : Nat) :
    numbered (session_id, n + 1) = numbered (session_id, n) ++ [(session_id, (n : Int))] := by
  simp [numbered, firstSequences_succ]

/-- One block per session, in order, numbered from 0. -/
def InBlocks (sessions : List PyStr) (keys : List (PyStr × Int)) : Prop :=
  ∃ blocks : List (PyStr × Nat), blocks.map Prod.fst = sessions ∧ keys = blocks.flatMap numbered

/-- The same, with a last block of length `n`. -/
def InBlocksTo (sessions : List PyStr) (keys : List (PyStr × Int)) (session_id : PyStr) (n : Int) :
    Prop :=
  ∃ blocks : List (PyStr × Nat), ∃ k : Nat, (blocks ++ [(session_id, k)]).map Prod.fst = sessions ∧
    keys = (blocks ++ [(session_id, k)]).flatMap numbered ∧ n = k

/-- The blocks are complete up to the last session. -/
theorem InBlocksTo.inBlocks {sessions : List PyStr} {keys : List (PyStr × Int)}
    {session_id : PyStr} {n : Int} (h : InBlocksTo sessions keys session_id n) :
    InBlocks sessions keys := by
  obtain ⟨blocks, k, hs, hk, -⟩ := h
  exact ⟨_, hs, hk⟩

/-- A new session starts an empty block. -/
theorem InBlocks.open {sessions : List PyStr} {keys : List (PyStr × Int)} (session_id : PyStr)
    (h : InBlocks sessions keys) : InBlocksTo (sessions ++ [session_id]) keys session_id 0 := by
  obtain ⟨blocks, hs, hk⟩ := h
  exact ⟨blocks, 0, by simp [hs], by simp [hk, numbered_zero], rfl⟩

/-- A response extends the last block. -/
theorem InBlocksTo.next {sessions : List PyStr} {keys : List (PyStr × Int)}
    {session_id : PyStr} {n : Int} (h : InBlocksTo sessions keys session_id n) :
    InBlocksTo sessions (keys ++ [(session_id, n)]) session_id (n + 1) := by
  obtain ⟨blocks, k, hs, hk, rfl⟩ := h
  refine ⟨blocks, k + 1, ?_, ?_, rfl⟩
  · simpa using hs
  · simp [hk, numbered_succ]

/-- The session and sequence number of the responses under a trial. -/
def answerKeys (ls : List Label) (trial_id : PyStr) : List (PyStr × Int) :=
  (answersUnder ls trial_id).map fun inf => (inf.request.session_id, inf.request.sequence)

/-- A step without an answer adds no key. -/
theorem answerKeys_snoc_none {ls : List Label} {l : Label} (h : l.answer = none) :
    answerKeys (ls ++ [l]) = answerKeys ls := by
  unfold answerKeys
  rw [answersUnder_snoc_none h]

/-- **The responses under a trial come in blocks**, and the stored lease
counts the last of them. -/
structure BlockInv (ls : List Label) (s : Sys) : Prop where
  blocks : ∀ trial_id, InBlocks (openedUnder ls trial_id) (answerKeys ls trial_id)
  last : ∀ lease, s.rt.session = some lease → InBlocksTo (openedUnder ls lease.trial_id)
    (answerKeys ls lease.trial_id) lease.session_id lease.next_sequence

/-- What opening a session does. -/
structure Opens (s s' : Sys) (grant : SessionGrant) (lease : SessionLease) : Prop where
  trial_id : lease.trial_id = grant.trial_id
  session_id : lease.session_id = grant.session_id
  sequence : lease.next_sequence = 0
  session : s'.rt.session = some lease

/-- **A step opens a session, answers a call, or leaves the lease as it is or
drops it.** -/
theorem Step.grants {cfg : RuntimeConfig} {nx : Numerics} {s s' : Sys} {l : Label}
    (h : Step cfg nx s l s') :
    (∃ grant lease, l.grant = some grant ∧ l.answer = none ∧ Opens s s' grant lease) ∨
    (∃ id inf lease, l.grant = none ∧ l.answer = some (id, inf) ∧ Counts s s' id inf lease) ∨
    (l.grant = none ∧ l.answer = none ∧
      (s'.rt.session = s.rt.session ∨ s'.rt.session = none)) := by
  rcases Step.answers h with ⟨hans, -⟩ | ⟨id, inf, lease, hans, hc⟩
  · rcases step_cases h with ⟨id, op, rfl, -, rfl⟩ | ⟨id, pc, ch, rt', next, rfl, -, ha, rfl⟩
    · exact .inr (.inr ⟨rfl, rfl, .inl rfl⟩)
    · by_cases hpc : pc = .openSession
      · subst hpc
        cases ha with
        | @openSession session_id token now r _ he =>
            rcases s.rt.openSession_cases cfg session_id token now with ⟨e, hc⟩
              | ⟨trial, skill, -, -, -, -, hc⟩
            · cases he.symm.trans hc
              exact .inr (.inr ⟨rfl, rfl, .inl rfl⟩)
            · cases he.symm.trans hc
              exact .inl ⟨_, _, rfl, rfl, rfl, rfl, rfl, rfl⟩
      · have hgrant : (Label.step id pc ch next).grant = none := by
          unfold Label.grant
          split
          · rename_i heq
            cases heq
            exact absurd rfl hpc
          · rfl
        refine .inr (.inr ⟨hgrant, hans, ?_⟩)
        cases ha.effect with
        | frame hf => exact hf.session
        | opened => exact absurd rfl hpc
        | finished => cases hans
        | refused => exact .inr rfl
        | acquire | release | began | admitted | entered | left => exact .inl rfl
  · refine .inr (.inl ⟨id, inf, lease, ?_, hans, hc⟩)
    cases l with
    | call => rfl
    | step i pc ch next =>
        cases pc <;> first | rfl | cases hans

/-- **Every step keeps the answers in blocks**, one session after the other and numbered
within. -/
theorem BlockInv.step {cfg : RuntimeConfig} {nx : Numerics} {ls : List Label} {s s' : Sys}
    {l : Label} (h : BlockInv ls s) (hserved : ServedInv s) (hst : Step cfg nx s l s') :
    BlockInv (ls ++ [l]) s' := by
  rcases Step.grants hst with ⟨grant, lease, hg, hans, ho⟩ | ⟨id, inf, lease, hg, hans, hc⟩
    | ⟨hg, hans, hs⟩
  · -- a session opens: a new, empty block of its trial
    have hnew := (h.blocks grant.trial_id).open grant.session_id
    rw [← openedUnder_snoc_self hg, ← answerKeys_snoc_none hans] at hnew
    refine ⟨?_, ?_⟩
    · intro trial_id
      by_cases ht : grant.trial_id = trial_id
      · subst ht
        exact hnew.inBlocks
      · rw [openedUnder_snoc_other hg ht, answerKeys_snoc_none hans]
        exact h.blocks trial_id
    · intro l' hl'
      cases ho.session.symm.trans hl'
      rw [ho.trial_id, ho.session_id, ho.sequence]
      exact hnew
  · -- a response: the next number in the block of the stored lease
    have hul : UnderLease inf.request lease :=
      hserved.lease id _ inf.request inf.lease_ref lease hc.finishing rfl hc.stored hc.ref
    have hkeys : answerKeys (ls ++ [l]) lease.trial_id
        = answerKeys ls lease.trial_id ++ [(lease.session_id, lease.next_sequence)] := by
      unfold answerKeys
      rw [← hul.trial_id, answersUnder_snoc_self hans, List.map_append, hul.session_id.symm,
        hul.sequence.symm]
      rfl
    have hnext := (h.last lease hc.stored).next
    rw [← hkeys, ← openedUnder_snoc_none hg] at hnext
    refine ⟨?_, ?_⟩
    · intro trial_id
      by_cases ht : lease.trial_id = trial_id
      · subst ht
        exact hnext.inBlocks
      · have hne : inf.request.trial_id ≠ trial_id := by
          rw [hul.trial_id]
          exact ht
        have hold := h.blocks trial_id
        unfold answerKeys at hold ⊢
        rw [openedUnder_snoc_none hg, answersUnder_snoc_other hans hne]
        exact hold
    · intro l' hl'
      rw [hc.state] at hl'
      cases hl'
      exact hnext
  · refine ⟨?_, ?_⟩
    · rw [openedUnder_snoc_none hg, answerKeys_snoc_none hans]
      exact h.blocks
    · rw [openedUnder_snoc_none hg, answerKeys_snoc_none hans]
      intro lease hl
      rcases hs with hs | hs
      · exact h.last lease (hs.symm.trans hl)
      · have := hs.symm.trans hl
        cases this

/-- So they are in every history. -/
theorem RuntimeRun.blockInv {cfg : RuntimeConfig} {nx : Numerics} {ls : List Label} {s : Sys}
    (h : RuntimeRun cfg nx ls s) : BlockInv ls s := by
  refine Run.invariant (M := runtimeSystem cfg nx) BlockInv ?_ ?_ h
  · rintro s ⟨dirs, rfl⟩
    exact ⟨fun _ => ⟨[], rfl, rfl⟩, by simp [PolicyRuntime.init]⟩
  · intro ls s l s' hrun hinv hst
    exact hinv.step (RuntimeRun.servedInv hrun) hst

end OvenRuntime
