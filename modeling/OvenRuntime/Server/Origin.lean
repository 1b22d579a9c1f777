/-
  OvenRuntime.Server.Origin
  ─────────────────────────
  What a response was made from.  A call of `infer` that has a response parsed
  the payload it was sent, and the response carries the result the backend gave
  to this call, with the hashes of request, observation and actions
  (`OriginInv`).
-/
import OvenRuntime.Server.Reproduce

namespace OvenRuntime

open TransitionSystem

/-! ## §1. The results of the backend. -/

/-- The call to which a step gives a result of the backend. -/
def Label.result : Label → Option (Nat × BackendResult)
  | .step id (.inferPolicy _ _) (.inferred (.ok result)) _ => some (id, result)
  | _ => none

/-- The last result the backend gave to a call; no call asks twice. -/
def backendResult (ls : List Label) (id : Nat) : Option BackendResult :=
  (Keyed.valuesAt Prod.fst Prod.snd (ls.filterMap Label.result) id).getLast?

theorem backendResult_snoc_self {ls : List Label} {l : Label} {id : Nat} {result : BackendResult}
    (h : l.result = some (id, result)) : backendResult (ls ++ [l]) id = some result := by
  unfold backendResult
  rw [List.filterMap_append, List.filterMap_cons_some h, List.filterMap_nil,
    Keyed.valuesAt_snoc_self (ls.filterMap Label.result) (id, result), List.getLast?_concat]

theorem backendResult_snoc_other {ls : List Label} {l : Label} {id : Nat}
    (h : ∀ result, l.result ≠ some (id, result)) :
    backendResult (ls ++ [l]) id = backendResult ls id := by
  unfold backendResult
  rw [List.filterMap_append]
  cases hl : l.result with
  | none => rw [List.filterMap_cons_none hl, List.filterMap_nil, List.append_nil]
  | some p =>
      have hne : p.1 ≠ id := by
        intro hid
        apply h p.2
        rw [hl, ← hid]
      rw [List.filterMap_cons_some hl, List.filterMap_nil, Keyed.valuesAt_snoc_other hne]

/-- A call that gets a result was waiting for it. -/
theorem Step.result {cfg : RuntimeConfig} {nx : Numerics} {s s' : Sys} {l : Label} {id : Nat}
    {result : BackendResult} (h : Step cfg nx s l s') (hl : l.result = some (id, result)) :
    ∃ request ref, s.calls id = some (.running (.inferPolicy request ref)) := by
  cases h with
  | call => cases hl
  | step hpc _ =>
      unfold Label.result at hl
      split at hl
      · next heq =>
          cases heq
          cases hl
          exact ⟨_, _, hpc⟩
      · cases hl

/-! ## §2. Origins. -/

/-- The inference of a call: its request is the payload's, its result the one
of the backend. -/
structure Origin (nx : Numerics) (ls : List Label) (id : Nat) (inf : PolicyRuntime.Inference) :
    Prop where
  parsed : ∃ payload, sentPayload ls id = some payload ∧
    InferenceRequest.parse nx.repr_fits payload = .ok inf.request
  result : backendResult ls id = some inf.result
  hashed : PolicyRuntime.Hashed nx inf

/-- A step that gives the call no result keeps its origin. -/
theorem Origin.snoc {nx : Numerics} {ls : List Label} {l : Label} {id : Nat}
    {inf : PolicyRuntime.Inference} (h : Origin nx ls id inf)
    (hl : ∀ result, l.result ≠ some (id, result)) : Origin nx (ls ++ [l]) id inf where
  parsed := by
    obtain ⟨payload, hsent, hparse⟩ := h.parsed
    exact ⟨payload, sentPayload_mono hsent, hparse⟩
  result := (backendResult_snoc_other hl).trans h.result
  hashed := h.hashed

/-- **Where inferences and responses come from.** -/
structure OriginInv (nx : Numerics) (ls : List Label) (s : Sys) : Prop where
  ran : ∀ id pc inf, s.calls id = some (.running pc) → pc.ran = some inf → Origin nx ls id inf
  answered : ∀ id response, s.answered id = some response →
    ∃ inf, inf.response = response ∧ Origin nx ls id inf

/-- A call that gets a result has neither run nor answered. -/
theorem Step.result_other {cfg : RuntimeConfig} {nx : Numerics} {s s' : Sys} {l : Label} {id : Nat}
    {c : CallState} (h : Step cfg nx s l s') (hc : s.calls id = some c)
    (hne : ∀ request ref, c ≠ .running (.inferPolicy request ref)) :
    ∀ result, l.result ≠ some (id, result) := by
  intro result hl
  obtain ⟨request, ref, hpc⟩ := Step.result h hl
  rw [hc] at hpc
  exact hne request ref (Option.some.inj hpc)

/-- **Every step keeps the record of origins.** -/
theorem OriginInv.step {cfg : RuntimeConfig} {nx : Numerics} {ls : List Label} {s s' : Sys}
    {l : Label} (h : OriginInv nx ls s) (hsent : SentInv nx ls s) (hst : Step cfg nx s l s') :
    OriginInv nx (ls ++ [l]) s' := by
  have hkeep : ∀ id pc inf, s.calls id = some (.running pc) → pc.ran = some inf →
      Origin nx (ls ++ [l]) id inf := by
    intro id pc inf hpc hr
    apply (h.ran id pc inf hpc hr).snoc
    apply Step.result_other hst hpc
    intro request ref heq
    cases heq
    cases hr
  constructor
  · intro j pc inf hj hr
    rcases step_cases hst with ⟨id, op, -, -, rfl⟩ | ⟨id, pc', ch, rt', next, rfl, hpc, ha, rfl⟩
    · rcases Sys.setCall_calls_eq hj with ⟨-, hn⟩ | ⟨-, hold⟩
      · -- no call begins with an inference that has run
        have hnone := CallState.unanswered_none_of_serving (op.start_holdsLock nx).2
        rw [← hn, show (CallState.running pc).unanswered = _ from Pc.unanswered_of_ran hr] at hnone
        cases hnone
      · exact hkeep j pc inf hold hr
    · rcases Sys.setCall_calls_eq hj with ⟨rfl, hn⟩ | ⟨-, hold⟩
      · rcases ha.ran hn.symm hr with hr' | ⟨ref, rfl, rfl, hashed⟩
        · exact hkeep j pc' inf hpc hr'
        · obtain ⟨payload, hp, hparse⟩ := hsent.parsed j _ inf.request hpc rfl
          exact ⟨⟨payload, sentPayload_mono hp, hparse⟩, backendResult_snoc_self rfl, hashed⟩
      · exact hkeep j pc inf hold hr
  · intro j response hj
    rcases Step.answers hst with ⟨-, hsame⟩ | ⟨id, inf, lease, -, hc⟩
    · rw [hsame] at hj
      obtain ⟨inf, hinf, horigin⟩ := h.answered j response hj
      refine ⟨inf, hinf, horigin.snoc ?_⟩
      intro result hl
      obtain ⟨request, ref, hpc⟩ := Step.result hst hl
      rw [Sys.answered, hpc] at hj
      cases hj
    · by_cases hid : j = id
      · subst hid
        rw [hc.state, Sys.answered_self] at hj
        cases hj
        exact ⟨inf, rfl, hkeep j _ inf hc.finishing rfl⟩
      · rw [hc.state, Sys.answered_other _ _ _ hid] at hj
        obtain ⟨inf', hinf, horigin⟩ := h.answered j response hj
        refine ⟨inf', hinf, horigin.snoc ?_⟩
        intro result hl
        obtain ⟨request, ref, hpc⟩ := Step.result hst hl
        rw [Sys.answered, hpc] at hj
        cases hj

theorem RuntimeRun.originInv {cfg : RuntimeConfig} {nx : Numerics} {ls : List Label} {s : Sys}
    (h : RuntimeRun cfg nx ls s) : OriginInv nx ls s := by
  refine Run.invariant (OriginInv nx) ?_ ?_ h
  · rintro s ⟨dirs, rfl⟩
    exact ⟨by simp, by simp [Sys.answered]⟩
  · intro ls s l s' hrun hinv hst
    exact hinv.step (RuntimeRun.sentInv hrun) hst

end OvenRuntime
