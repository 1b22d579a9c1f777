/-
  OvenRuntime.System.Responses
  ────────────────────────────
  Where the responses of the inference server go.

    • A connection gets one response for a frame, in the order of the frames (§1).
    • What `infer` has returned for a frame is on its way, or was sent, or was
      reported as lost, unless the handler was cancelled (§2); it is sent or
      reported once (§3).
    • No two responses that were sent are of one session and sequence number (§4).

  `responses_accounted` puts them together.
-/
import OvenRuntime.Server.Answered
import OvenRuntime.System.ProcessReplay

namespace OvenRuntime

open TransitionSystem

section Responses

variable {cfg : RuntimeConfig} {nx : Numerics} {lib : Library} {mp : MessagePack}
  {server : LoopbackInferenceServer} {s s' : ServerProcess} {e : ServerEvent}
  {es : List ServerEvent}

/-! ## §1. In order. -/

/-- The frame of a connection that a step takes, by the call of `infer` it leads
to, if any. -/
def ServerEvent.asks (k : Nat) : ServerEvent → Option (Option Nat)
  | .receive j _ _ id => if j = k then some (some id) else none
  | .reject j _ => if j = k then some none else none
  | _ => none

/-- The frame whose response a step sends. -/
def ServerEvent.tells (k : Nat) : ServerEvent → Option (Option Nat)
  | .send j id _ => if j = k then some id else none
  | _ => none

/-- The frames of a connection, in order. -/
def asked (es : List ServerEvent) (k : Nat) : List (Option Nat) :=
  es.filterMap (ServerEvent.asks k)

/-- The frames of a connection whose responses were sent, in the order of the
responses. -/
def told (es : List ServerEvent) (k : Nat) : List (Option Nat) :=
  es.filterMap (ServerEvent.tells k)

theorem filterMap_snoc {α β : Type} (f : α → Option β) (l : List α) (a : α) :
    (l ++ [a]).filterMap f = l.filterMap f ++ (f a).toList := by
  rw [List.filterMap_append]
  cases h : f a with
  | none =>
      rw [List.filterMap_cons_none h]
      rfl
  | some b =>
      rw [List.filterMap_cons_some h]
      rfl

theorem asked_snoc (es : List ServerEvent) (e : ServerEvent) (k : Nat) :
    asked (es ++ [e]) k = asked es k ++ (e.asks k).toList := filterMap_snoc _ es e

theorem told_snoc (es : List ServerEvent) (e : ServerEvent) (k : Nat) :
    told (es ++ [e]) k = told es k ++ (e.tells k).toList := filterMap_snoc _ es e

/-- What a step does on one connection: the handler before it, the frame it
takes, the response it sends, the handler after it. -/
inductive Talk : Option Handler → Option (Option Nat) → Option (Option Nat) → Option Handler → Prop
  | elsewhere {h : Option Handler} : Talk h none none h
  | accept : Talk none none none (some .receiving)
  | receive {id : Nat} : Talk (some .receiving) (some (some id)) none (some (.inferring id))
  | reject {response : Dict} :
      Talk (some .receiving) (some none) none (some (.sending none response))
  | result {id : Nat} {response : Dict} :
      Talk (some (.inferring id)) none none (some (.sending (some id) response))
  | send {id : Option Nat} {response : Dict} :
      Talk (some (.sending id response)) none (some id) (some .receiving)
  | report {id : Option Nat} {response : Dict} :
      Talk (some (.sending id response)) none none (some .reporting)
  | leave {h : Handler} : Talk (some h) none none (some .ended)

/-- A step on another connection. -/
theorem Talk.other {j k : Nat} {h : Handler} (hj : j ≠ k) (hasks : e.asks k = none)
    (htells : e.tells k = none) :
    Talk (s.handlers k) (e.asks k) (e.tells k) ((s.setHandler j h).handlers k) := by
  rw [hasks, htells, ServerProcess.setHandler_other s h hj.symm]
  exact .elsewhere

/-- **A connection talks by these rules.** -/
theorem ServerStep.talk (hst : ServerStep cfg nx lib mp server s e s') (hinv : LoopInv s) (k : Nat) :
    Talk (s.handlers k) (e.asks k) (e.tells k) (s'.handlers k) := by
  cases hst with
  | step | control | resume | stop | shutdown => exact .elsewhere
  | @accept j _ _ hj =>
      by_cases hk : j = k
      · rw [← hk, hj, ServerProcess.setHandler_self]
        exact .accept
      · exact Talk.other hk rfl rfl
  | @receive j id frame payload sys _ hj =>
      by_cases hk : j = k
      · rw [← hk, hj, ServerProcess.setHandler_self]
        simp only [ServerEvent.asks, if_true]
        exact .receive
      · exact Talk.other (s := { s with sys := sys }) hk (if_neg hk) rfl
  | @reject j frame response _ hj =>
      by_cases hk : j = k
      · rw [← hk, hj, ServerProcess.setHandler_self]
        simp only [ServerEvent.asks, if_true]
        exact .reject
      · exact Talk.other hk (if_neg hk) rfl
  | @result j id out _ hj =>
      by_cases hk : j = k
      · rw [← hk, hj, ServerProcess.setHandler_self]
        exact .result
      · exact Talk.other hk rfl rfl
  | @send j id response b _ hj =>
      by_cases hk : j = k
      · rw [← hk, hj, ServerProcess.setHandler_self]
        simp only [ServerEvent.tells, if_true]
        exact .send
      · exact Talk.other hk rfl (if_neg hk)
  | @report j mark id response session_id sequence sys _ hj =>
      by_cases hk : j = k
      · rw [← hk, hj, ServerProcess.setHandler_self]
        exact .report
      · exact Talk.other (s := s.enter sys mark (some j)) hk rfl rfl
  | @reported j mark out hloop =>
      by_cases hk : j = k
      · rw [← hk, (hinv.reporting j).mpr ⟨mark, hloop⟩, ServerProcess.setHandler_self]
        exact .leave
      · exact Talk.other (s := { s with loop := none }) hk rfl rfl
  | @drop j _ _ _ hj | @hangUp j _ hj | @cancel j _ _ hj =>
      by_cases hk : j = k
      · rw [← hk, hj, ServerProcess.setHandler_self]
        exact .leave
      · exact Talk.other hk rfl rfl

/-- The frames a handler owes the response to. -/
def Owes : Option Handler → List (Option Nat) → Prop
  | none, rest | some .receiving, rest => rest = []
  | some (.inferring id), rest => rest = [some id]
  | some (.sending id _), rest => rest = [id]
  | some .reporting, rest | some .ended, rest => rest.length ≤ 1

theorem Owes.length_le {h : Option Handler} {rest : List (Option Nat)} (howes : Owes h rest) :
    rest.length ≤ 1 := by
  cases h with
  | none => rw [show rest = [] from howes]; exact Nat.zero_le _
  | some h =>
      cases h with
      | receiving => rw [show rest = [] from howes]; exact Nat.zero_le _
      | inferring id => rw [show rest = [some id] from howes]; exact Nat.le_refl _
      | sending id response => rw [show rest = [id] from howes]; exact Nat.le_refl _
      | reporting | ended => exact howes

/-- A connection that is owed a response after a step was owed it before, but for
the frame the step took and the response it sent. -/
theorem Talk.owes {h h' : Option Handler} {asks tells : Option (Option Nat)}
    {rest : List (Option Nat)} (htalk : Talk h asks tells h') (howes : Owes h rest) :
    ∃ rest', rest ++ asks.toList = tells.toList ++ rest' ∧ Owes h' rest' := by
  cases htalk with
  | elsewhere => exact ⟨rest, by simp, howes⟩
  | accept => exact ⟨rest, by simp, howes⟩
  | receive =>
      have hnil : rest = [] := howes
      exact ⟨_, by rw [hnil]; rfl, rfl⟩
  | reject =>
      have hnil : rest = [] := howes
      exact ⟨_, by rw [hnil]; rfl, rfl⟩
  | result => exact ⟨rest, by simp, howes⟩
  | send =>
      have hone : rest = [_] := howes
      exact ⟨[], by rw [hone]; rfl, rfl⟩
  | report =>
      have hone : rest = [_] := howes
      exact ⟨rest, by simp, by rw [hone]; exact Nat.le_refl 1⟩
  | leave => exact ⟨rest, by simp, howes.length_le⟩

/-- **One response for a frame, in the order of the frames.** -/
theorem ServerRun.inOrder (h : ServerRun cfg nx lib mp server es s) (k : Nat) :
    ∃ rest, asked es k = told es k ++ rest ∧ Owes (s.handlers k) rest := by
  refine Run.invariant (M := serverProcess cfg nx lib mp server)
    (fun es s => ∃ rest, asked es k = told es k ++ rest ∧ Owes (s.handlers k) rest) ?_ ?_ h
  · rintro s ⟨dirs, rfl⟩
    exact ⟨[], rfl, rfl⟩
  · rintro es s e s' hrun ⟨rest, hasked, howes⟩ hst
    obtain ⟨rest', hrest, howes'⟩ := (ServerStep.talk hst (ServerRun.loopInv hrun) k).owes howes
    refine ⟨rest', ?_, howes'⟩
    rw [asked_snoc, told_snoc, hasked, List.append_assoc, hrest, List.append_assoc]

/-! ## §2. Nothing is lost. -/

/-- Where the response is that a call of `infer` has returned for a frame: its
handler is to send it, or has sent it, or could not and has reported it, or was
cancelled. -/
inductive Accounted (es : List ServerEvent) (s : ServerProcess) (k id : Nat)
    (response : InferenceResponse) : Prop
  | returned : s.handlers k = some (.inferring id) → Accounted es s k id response
  | sending : s.handlers k = some (.sending (some id) response.to_dict) →
      Accounted es s k id response
  | sent : .send k (some id) response.to_dict ∈ es → Accounted es s k id response
  | reported {mark : Nat} :
      .report k (some id) mark response.session_id response.sequence ∈ es →
      Accounted es s k id response
  | cancelled : .cancel k ∈ es → Accounted es s k id response

/-- The handler of the connection stays, and so does the account. -/
theorem Accounted.keep {k id : Nat} {response : InferenceResponse}
    (h : Accounted es s k id response) (hsame : s'.handlers k = s.handlers k) :
    Accounted (es ++ [e]) s' k id response := by
  cases h with
  | returned hk => exact .returned (hsame.trans hk)
  | sending hk => exact .sending (hsame.trans hk)
  | sent hmem => exact .sent (List.mem_append_left _ hmem)
  | reported hmem => exact .reported (List.mem_append_left _ hmem)
  | cancelled hmem => exact .cancelled (List.mem_append_left _ hmem)

/-- A step on the connection: what the handler held is accounted for after it. -/
theorem Accounted.move {k id : Nat} {response : InferenceResponse} {h : Handler}
    (haccounted : Accounted es s k id response) (hk : s.handlers k = some h)
    (hinferring : h = .inferring id → Accounted (es ++ [e]) s' k id response)
    (hsending : h = .sending (some id) response.to_dict → Accounted (es ++ [e]) s' k id response) :
    Accounted (es ++ [e]) s' k id response := by
  cases haccounted with
  | returned heq => exact hinferring (Option.some_inj.mp (hk.symm.trans heq))
  | sending heq => exact hsending (Option.some_inj.mp (hk.symm.trans heq))
  | sent hmem => exact .sent (List.mem_append_left _ hmem)
  | reported hmem => exact .reported (List.mem_append_left _ hmem)
  | cancelled hmem => exact .cancelled (List.mem_append_left _ hmem)

/-- **A step loses no response.** -/
theorem Accounted.step {k id : Nat} {response : InferenceResponse}
    (h : Accounted es s k id response) (hst : ServerStep cfg nx lib mp server s e s')
    (hinv : LoopInv s)
    (hret : s.sys.calls id = some (.returned (.ok (.response response)))) :
    Accounted (es ++ [e]) s' k id response := by
  have hlast : e ∈ es ++ [e] := List.mem_append_right _ List.mem_cons_self
  cases hst with
  | step | control | resume | stop | shutdown => exact h.keep rfl
  | @accept j _ _ hj =>
      by_cases hk : k = j
      · -- a connection that is not there yet has nothing to account for
        subst hk
        cases h with
        | returned heq => cases hj.symm.trans heq
        | sending heq => cases hj.symm.trans heq
        | sent hmem => exact .sent (List.mem_append_left _ hmem)
        | reported hmem => exact .reported (List.mem_append_left _ hmem)
        | cancelled hmem => exact .cancelled (List.mem_append_left _ hmem)
      · exact h.keep (ServerProcess.setHandler_other _ _ hk)
  | @receive j _ _ _ sys _ hj =>
      by_cases hk : k = j
      · subst hk
        exact h.move hj (fun heq => by cases heq) fun heq => by cases heq
      · exact h.keep (ServerProcess.setHandler_other { s with sys := sys } _ hk)
  | @reject j _ _ _ hj =>
      by_cases hk : k = j
      · subst hk
        exact h.move hj (fun heq => by cases heq) fun heq => by cases heq
      · exact h.keep (ServerProcess.setHandler_other _ _ hk)
  | @result j id' out _ hj hout =>
      by_cases hk : k = j
      · subst hk
        refine h.move hj (fun heq => ?_) fun heq => by cases heq
        cases heq
        have hok : out = .ok response := by
          cases out with
          | error e => cases hret.symm.trans hout
          | ok r =>
              cases hret.symm.trans hout
              rfl
        rw [hok]
        exact .sending (ServerProcess.setHandler_self _ _ _)
      · exact h.keep (ServerProcess.setHandler_other _ _ hk)
  | @send j id' response' b _ hj =>
      by_cases hk : k = j
      · subst hk
        refine h.move hj (fun heq => by cases heq) fun heq => ?_
        cases heq
        exact .sent hlast
      · exact h.keep (ServerProcess.setHandler_other _ _ hk)
  | @drop j id' response' _ hj hlost =>
      by_cases hk : k = j
      · subst hk
        refine h.move hj (fun heq => by cases heq) fun heq => ?_
        cases heq
        -- a response of `infer` is reported
        rw [LoopbackInferenceServer.lost_response] at hlost
        cases hlost
      · exact h.keep (ServerProcess.setHandler_other _ _ hk)
  | @report j mark id' response' session_id sequence sys _ hj hlost =>
      by_cases hk : k = j
      · subst hk
        refine h.move hj (fun heq => by cases heq) fun heq => ?_
        cases heq
        rw [LoopbackInferenceServer.lost_response] at hlost
        cases hlost
        exact .reported hlast
      · exact h.keep (ServerProcess.setHandler_other (s.enter sys mark (some j)) _ hk)
  | @reported j mark out hloop =>
      by_cases hk : k = j
      · subst hk
        exact h.move ((hinv.reporting k).mpr ⟨mark, hloop⟩) (fun heq => by cases heq)
          fun heq => by cases heq
      · exact h.keep (ServerProcess.setHandler_other { s with loop := none } _ hk)
  | @hangUp j _ hj =>
      by_cases hk : k = j
      · subst hk
        exact h.move hj (fun heq => by cases heq) fun heq => by cases heq
      · exact h.keep (ServerProcess.setHandler_other _ _ hk)
  | @cancel j h' _ hj =>
      by_cases hk : k = j
      · subst hk
        exact .cancelled hlast
      · exact h.keep (ServerProcess.setHandler_other _ _ hk)

/-- A call that has a response had it before, or was in `infer`. -/
theorem Step.response_origin {s s' : Sys} {l : Label} {id : Nat} {response : InferenceResponse}
    (h : Step cfg nx s l s') (hret : s'.calls id = some (.returned (.ok (.response response)))) :
    s.calls id = some (.returned (.ok (.response response))) ∨
      ∃ pc, s.calls id = some (.running pc) ∧ pc.infers = true := by
  rcases step_cases h with ⟨i, op, -, -, rfl⟩ | ⟨i, pc, ch, rt', next, -, hpc, ha, rfl⟩
  · rcases Sys.setCall_calls_eq hret with ⟨-, hstart⟩ | ⟨-, hold⟩
    · -- no call begins with a response
      have hinfers : (op.start nx).infers = true := by
        rw [← hstart]
        rfl
      obtain ⟨payload, rfl⟩ := Op.start_infers hinfers
      unfold Op.start at hstart
      simp only at hstart
      split at hstart <;> cases hstart
    · exact .inl hold
  · rcases Sys.setCall_calls_eq hret with ⟨rfl, rfl⟩ | ⟨-, hold⟩
    · exact .inr ⟨pc, hpc, ha.infers rfl⟩
    · exact .inl hold

/-- A call in `infer` was there before, or begins. -/
theorem Step.infers_origin {s s' : Sys} {l : Label} {id : Nat} {pc : Pc}
    (h : Step cfg nx s l s') (hpc : s'.calls id = some (.running pc)) (hinf : pc.infers = true) :
    (∃ pc, s.calls id = some (.running pc) ∧ pc.infers = true) ∨
      ∃ payload, l = .call id (.infer payload) := by
  rcases step_cases h with ⟨i, op, hl, -, rfl⟩ | ⟨i, pc', ch, rt', next, -, hpc', ha, rfl⟩
  · rcases Sys.setCall_calls_eq hpc with ⟨rfl, hstart⟩ | ⟨-, hold⟩
    · have hinfers : (op.start nx).infers = true := by
        rw [← hstart]
        exact hinf
      obtain ⟨payload, rfl⟩ := Op.start_infers hinfers
      exact .inr ⟨payload, hl⟩
    · exact .inl ⟨pc, hold, hinf⟩
  · rcases Sys.setCall_calls_eq hpc with ⟨rfl, rfl⟩ | ⟨-, hold⟩
    · exact .inl ⟨pc', hpc', ha.infers hinf⟩
    · exact .inl ⟨pc, hold, hinf⟩

/-- **The account of a history.** -/
structure AccountInv (es : List ServerEvent) (s : ServerProcess) : Prop where
  /-- A call in `infer` was made for a frame, whose handler waits for it. -/
  running : ∀ id pc, s.sys.calls id = some (.running pc) → pc.infers = true →
    ∃ k frame payload, .receive k frame payload id ∈ es ∧
      (s.handlers k = some (.inferring id) ∨ .cancel k ∈ es)
  /-- A response was computed for a frame, and is accounted for. -/
  responses : ∀ id response, s.sys.calls id = some (.returned (.ok (.response response))) →
    ∃ k frame payload, .receive k frame payload id ∈ es ∧ Accounted es s k id response

/-- A handler that waits for a running call goes on waiting, or is cancelled. -/
theorem ServerStep.waits {k id : Nat} {pc : Pc} (hst : ServerStep cfg nx lib mp server s e s')
    (hinv : LoopInv s) (hpc : s.sys.calls id = some (.running pc))
    (hk : s.handlers k = some (.inferring id)) :
    s'.handlers k = some (.inferring id) ∨ .cancel k ∈ es ++ [e] := by
  cases hst with
  | step | control | resume | stop | shutdown => exact .inl hk
  | @accept j _ _ hj =>
      rw [ServerProcess.setHandler_other s _ (fun heq => by rw [heq, hj] at hk; cases hk)]
      exact .inl hk
  | @receive j _ _ _ sys _ hj =>
      refine .inl ((ServerProcess.setHandler_other { s with sys := sys } _ fun heq => ?_).trans hk)
      rw [heq, hj] at hk
      cases hk
  | @reject j _ _ _ hj | @send j _ _ _ _ hj | @drop j _ _ _ hj | @hangUp j _ hj =>
      refine .inl ((ServerProcess.setHandler_other s _ fun heq => ?_).trans hk)
      rw [heq, hj] at hk
      cases hk
  | @result j id' out _ hj hout =>
      refine .inl ((ServerProcess.setHandler_other s _ fun heq => ?_).trans hk)
      -- the call that the handler goes on with has returned
      rw [heq, hj] at hk
      cases hk
      cases hpc.symm.trans hout
  | @report j mark _ _ _ _ sys _ hj =>
      refine .inl ((ServerProcess.setHandler_other (s.enter sys mark (some j)) _
        fun heq => ?_).trans hk)
      rw [heq, hj] at hk
      cases hk
  | @reported j mark _ hloop =>
      refine .inl ((ServerProcess.setHandler_other { s with loop := none } _ fun heq => ?_).trans hk)
      have hreport := (hinv.reporting j).mpr ⟨mark, hloop⟩
      rw [heq, hreport] at hk
      cases hk
  | @cancel j _ _ hj =>
      by_cases hjk : k = j
      · rw [hjk]
        exact .inr (List.mem_append_right _ List.mem_cons_self)
      · exact .inl ((ServerProcess.setHandler_other s _ hjk).trans hk)

/-- A call of `infer` begins for a frame. -/
theorem ServerStep.infer_begins {id : Nat} {payload : Value}
    (hst : ServerStep cfg nx lib mp server s e s') (hl : e.label = some (.call id (.infer payload))) :
    ∃ k frame, e = .receive k frame payload id ∧ s'.handlers k = some (.inferring id) := by
  cases hst with
  | @receive k _ frame _ sys =>
      cases hl
      exact ⟨k, frame, rfl, ServerProcess.setHandler_self { s with sys := sys } _ _⟩
  | control _ hop =>
      cases hl
      exact hop.elim
  | _ => cases hl

theorem AccountInv.step (h : AccountInv es s) (hinv : LoopInv s)
    (hst : ServerStep cfg nx lib mp server s e s') : AccountInv (es ++ [e]) s' := by
  constructor
  · intro id pc hpc hinf
    have hbefore : (∃ pc, s.sys.calls id = some (.running pc) ∧ pc.infers = true) ∨
        ∃ payload, e.label = some (.call id (.infer payload)) := by
      rcases hst.runtime with ⟨-, hsame⟩ | ⟨l, hl, hstep⟩
      · rw [hsame] at hpc
        exact .inl ⟨pc, hpc, hinf⟩
      · rcases hstep.infers_origin hpc hinf with hrunning | ⟨payload, rfl⟩
        · exact .inl hrunning
        · exact .inr ⟨payload, hl⟩
    rcases hbefore with ⟨pc, hpc, hinf⟩ | ⟨payload, hl⟩
    · obtain ⟨k, frame, payload, hreceived, hwaits⟩ := h.running id pc hpc hinf
      refine ⟨k, frame, payload, List.mem_append_left _ hreceived, ?_⟩
      rcases hwaits with hk | hcancelled
      · exact hst.waits hinv hpc hk
      · exact .inr (List.mem_append_left _ hcancelled)
    · obtain ⟨k, frame, rfl, hk⟩ := hst.infer_begins hl
      exact ⟨k, frame, payload, List.mem_append_right _ List.mem_cons_self, .inl hk⟩
  · intro id response hret
    have hbefore : s.sys.calls id = some (.returned (.ok (.response response))) ∨
        ∃ pc, s.sys.calls id = some (.running pc) ∧ pc.infers = true := by
      rcases hst.runtime with ⟨-, hsame⟩ | ⟨l, -, hstep⟩
      · rw [hsame] at hret
        exact .inl hret
      · exact hstep.response_origin hret
    rcases hbefore with hold | ⟨pc, hpc, hinf⟩
    · obtain ⟨k, frame, payload, hreceived, haccounted⟩ := h.responses id response hold
      exact ⟨k, frame, payload, List.mem_append_left _ hreceived, haccounted.step hst hinv hold⟩
    · obtain ⟨k, frame, payload, hreceived, hwaits⟩ := h.running id pc hpc hinf
      refine ⟨k, frame, payload, List.mem_append_left _ hreceived, ?_⟩
      rcases hwaits with hk | hcancelled
      · rcases hst.waits hinv hpc hk with hk' | hcancelled
        · exact .returned hk'
        · exact .cancelled hcancelled
      · exact .cancelled (List.mem_append_left _ hcancelled)

theorem ServerRun.accountInv (h : ServerRun cfg nx lib mp server es s) : AccountInv es s := by
  refine Run.invariant (M := serverProcess cfg nx lib mp server) AccountInv ?_ ?_ h
  · rintro s ⟨dirs, rfl⟩
    constructor
    · intro id pc hc
      cases hc
    · intro id response hc
      cases hc
  · intro es s e s' hrun hinv hst
    exact hinv.step (ServerRun.loopInv hrun) hst

/-! ## §3. Once. -/

/-- The call of `infer` whose result a step returns to the client, or gives up
returning. -/
def ServerEvent.settles : ServerEvent → Option Nat
  | .send _ id _ | .drop _ id | .report _ id _ _ _ => id
  | _ => none

/-- The calls of `infer` whose results were dealt with. -/
def settled (es : List ServerEvent) : List Nat := es.filterMap ServerEvent.settles

theorem settled_snoc (es : List ServerEvent) (e : ServerEvent) :
    settled (es ++ [e]) = settled es ++ e.settles.toList := filterMap_snoc _ es e

/-- The call of `infer` whose result the handler is to deal with. -/
def Handler.holds : Handler → Option Nat
  | .inferring id => some id
  | .sending id _ => id
  | _ => none

/-- **Who deals with a call.** -/
structure HoldInv (es : List ServerEvent) (s : ServerProcess) : Prop where
  /-- It has begun, … -/
  begun : ∀ k h id, s.handlers k = some h → h.holds = some id → (s.sys.calls id).isSome = true
  /-- … no other handler deals with it, … -/
  one : ∀ k k' h h' id, s.handlers k = some h → s.handlers k' = some h' → h.holds = some id →
    h'.holds = some id → k = k'
  /-- … and nobody has yet. -/
  unsettled : ∀ k h id, s.handlers k = some h → h.holds = some id → id ∉ settled es
  past : ∀ id ∈ settled es, (s.sys.calls id).isSome = true
  nodup : (settled es).Nodup

/-- Steps that settle nothing and give nobody a new call to deal with. -/
theorem HoldInv.keep (h : HoldInv es s)
    (hstays : ∀ id, (s.sys.calls id).isSome = true → (s'.sys.calls id).isSome = true)
    (hsettles : e.settles = none)
    (hholds : ∀ k c id, s'.handlers k = some c → c.holds = some id →
      ∃ c', s.handlers k = some c' ∧ c'.holds = some id) : HoldInv (es ++ [e]) s' := by
  have hsame : settled (es ++ [e]) = settled es := by
    rw [settled_snoc, hsettles]
    exact List.append_nil _
  refine ⟨?_, ?_, ?_, ?_, by rw [hsame]; exact h.nodup⟩
  · intro k c id hc hid
    obtain ⟨c', hc', hid'⟩ := hholds k c id hc hid
    exact hstays id (h.begun k c' id hc' hid')
  · intro k k' c c' id hc hc' hid hid'
    obtain ⟨d, hd, hdid⟩ := hholds k c id hc hid
    obtain ⟨d', hd', hdid'⟩ := hholds k' c' id hc' hid'
    exact h.one k k' d d' id hd hd' hdid hdid'
  · intro k c id hc hid
    obtain ⟨c', hc', hid'⟩ := hholds k c id hc hid
    rw [hsame]
    exact h.unsettled k c' id hc' hid'
  · intro id hid
    rw [hsame] at hid
    exact hstays id (h.past id hid)

/-- The handler of one connection changes, and deals with no other call. -/
theorem holds_setHandler {k j : Nat} {h c : Handler} {id : Nat}
    (hj : s.handlers j = some h) (hsame : ∀ id, c.holds = some id → h.holds = some id)
    {d : Handler} (hd : (s.setHandler j c).handlers k = some d) (hid : d.holds = some id) :
    ∃ d', s.handlers k = some d' ∧ d'.holds = some id := by
  by_cases hk : k = j
  · rw [hk, ServerProcess.setHandler_self] at hd
    cases hd
    exact ⟨h, by rw [hk]; exact hj, hsame id hid⟩
  · rw [ServerProcess.setHandler_other s c hk] at hd
    exact ⟨d, hd, hid⟩

/-- A handler settles what it deals with, and deals with nothing after it. -/
theorem HoldInv.settle {j : Nat} {id : Option Nat} {response : Dict} {c : Handler}
    (h : HoldInv es s)
    (hstays : ∀ id, (s.sys.calls id).isSome = true → (s'.sys.calls id).isSome = true)
    (hj : s.handlers j = some (.sending id response)) (hsettles : e.settles = id)
    (hc : c.holds = none) (hhandlers : s'.handlers = (s.setHandler j c).handlers) :
    HoldInv (es ++ [e]) s' := by
  have hback : ∀ k d id', s'.handlers k = some d → d.holds = some id' →
      k ≠ j ∧ s.handlers k = some d := by
    intro k d id' hd hid
    rw [hhandlers] at hd
    have hk : k ≠ j := by
      intro heq
      rw [heq, ServerProcess.setHandler_self] at hd
      cases hd
      rw [hc] at hid
      cases hid
    rw [ServerProcess.setHandler_other s c hk] at hd
    exact ⟨hk, hd⟩
  have hsettled : ∀ id', id' ∈ settled (es ++ [e]) ↔ id' ∈ settled es ∨ id = some id' := by
    intro id'
    rw [settled_snoc, hsettles, List.mem_append, Option.mem_toList]
  refine ⟨?_, ?_, ?_, ?_, ?_⟩
  · intro k d id' hd hid
    obtain ⟨-, hd'⟩ := hback k d id' hd hid
    exact hstays id' (h.begun k d id' hd' hid)
  · intro k k' d d' id' hd hd' hid hid'
    obtain ⟨-, hd₁⟩ := hback k d id' hd hid
    obtain ⟨-, hd₂⟩ := hback k' d' id' hd' hid'
    exact h.one k k' d d' id' hd₁ hd₂ hid hid'
  · intro k d id' hd hid hmem
    obtain ⟨hk, hd'⟩ := hback k d id' hd hid
    rcases (hsettled id').mp hmem with hmem | heq
    · exact h.unsettled k d id' hd' hid hmem
    · exact hk (h.one k j d _ id' hd' hj hid heq)
  · intro id' hmem
    rcases (hsettled id').mp hmem with hmem | heq
    · exact hstays id' (h.past id' hmem)
    · exact hstays id' (h.begun j _ id' hj heq)
  · rw [settled_snoc, hsettles]
    cases id with
    | none => simpa using h.nodup
    | some id' =>
        refine List.Nodup.append h.nodup (List.nodup_singleton _) ?_
        intro a ha ha'
        rw [List.mem_singleton.mp ha'] at ha
        exact h.unsettled j _ id' hj rfl ha

/-- A frame leads to a new call. -/
theorem HoldInv.receive {k id : Nat} {frame : PyObj} {payload : Value} {sys : Sys}
    (h : HoldInv es s)
    (hst : Step cfg nx s.sys (.call id (.infer payload)) sys) :
    HoldInv (es ++ [.receive k frame payload id])
      (ServerProcess.setHandler { s with sys := sys } k (.inferring id)) := by
  have hsame : settled (es ++ [.receive k frame payload id]) = settled es := by
    rw [settled_snoc]
    exact List.append_nil _
  have hnew : s.sys.calls id = none := by
    rcases step_cases hst with ⟨i, op, hl, hnone, -⟩ | ⟨_, _, _, _, _, hl, -⟩
    · cases hl
      exact hnone
    · cases hl
  -- whoever deals with a call that has begun does not deal with this one
  have hold : ∀ {j : Nat} {d : Handler} {id' : Nat}, s.handlers j = some d → d.holds = some id' →
      id' ≠ id := by
    intro j d id' hd hid heq
    have hsome := h.begun j d id' hd hid
    rw [heq, hnew] at hsome
    cases hsome
  have hback : ∀ {j : Nat} {d : Handler} {id' : Nat},
      (ServerProcess.setHandler { s with sys := sys } k (.inferring id)).handlers j = some d →
      d.holds = some id' → (j = k ∧ id' = id) ∨ s.handlers j = some d := by
    intro j d id' hd hid
    by_cases hj : j = k
    · rw [hj, ServerProcess.setHandler_self] at hd
      cases hd
      exact .inl ⟨hj, (Option.some_inj.mp hid).symm⟩
    · rw [ServerProcess.setHandler_other { s with sys := sys } _ hj] at hd
      exact .inr hd
  refine ⟨?_, ?_, ?_, ?_, by rw [hsame]; exact h.nodup⟩
  · intro j d id' hd hid
    rcases hback hd hid with ⟨-, rfl⟩ | hd
    · exact hst.calls_isSome_self
    · exact hst.calls_isSome (h.begun j d id' hd hid)
  · intro j j' d d' id' hd hd' hid hid'
    rcases hback hd hid with ⟨hj, heq⟩ | hd₁
    · rcases hback hd' hid' with ⟨hj', -⟩ | hd₂
      · rw [hj, hj']
      · exact absurd heq (hold hd₂ hid')
    · rcases hback hd' hid' with ⟨-, heq⟩ | hd₂
      · exact absurd heq (hold hd₁ hid)
      · exact h.one j j' d d' id' hd₁ hd₂ hid hid'
  · intro j d id' hd hid
    rw [hsame]
    rcases hback hd hid with ⟨-, rfl⟩ | hd
    · intro hmem
      have hsome := h.past id' hmem
      rw [hnew] at hsome
      cases hsome
    · exact h.unsettled j d id' hd hid
  · intro id' hmem
    rw [hsame] at hmem
    exact hst.calls_isSome (h.past id' hmem)

theorem HoldInv.step (h : HoldInv es s) (hinv : LoopInv s)
    (hst : ServerStep cfg nx lib mp server s e s') : HoldInv (es ++ [e]) s' := by
  have hstays : ∀ id, (s.sys.calls id).isSome = true → (s'.sys.calls id).isSome = true :=
    fun id => hst.calls_isSome
  cases hst with
  | step | control | resume | stop | shutdown =>
      exact h.keep hstays rfl fun k c id hc hid => ⟨c, hc, hid⟩
  | @accept j _ _ hj =>
      refine h.keep hstays rfl fun k c id hc hid => ?_
      by_cases hk : k = j
      · rw [hk, ServerProcess.setHandler_self] at hc
        cases hc
        cases hid
      · rw [ServerProcess.setHandler_other s _ hk] at hc
        exact ⟨c, hc, hid⟩
  | receive _ _ _ hstep => exact h.receive hstep
  | @result j id out _ hj =>
      exact h.keep hstays rfl fun k d id' =>
        holds_setHandler (c := .sending (some id) _) hj fun _ hid => hid
  | @reject j _ _ _ hj | @hangUp j _ hj | @cancel j _ _ hj =>
      exact h.keep hstays rfl fun k c id => holds_setHandler hj fun id hid => by cases hid
  | @send j id response b _ hj => exact h.settle hstays hj rfl rfl rfl
  | @drop j id response _ hj => exact h.settle hstays hj rfl rfl rfl
  | @report j mark id response session_id sequence sys _ hj =>
      exact h.settle hstays hj rfl rfl rfl
  | @reported j mark out hloop =>
      refine h.keep hstays rfl fun k c id => ?_
      exact holds_setHandler (s := { s with loop := none }) ((hinv.reporting j).mpr ⟨mark, hloop⟩)
        fun id hid => by cases hid

theorem ServerRun.holdInv (h : ServerRun cfg nx lib mp server es s) : HoldInv es s := by
  refine Run.invariant (M := serverProcess cfg nx lib mp server) HoldInv ?_ ?_ h
  · rintro s ⟨dirs, rfl⟩
    refine ⟨?_, ?_, ?_, ?_, List.nodup_nil⟩
    · intro k c id hc
      cases hc
    · intro k k' c c' id hc
      cases hc
    · intro k c id hc
      cases hc
    · intro id hmem
      cases hmem
  · intro es s e s' hrun hinv hst
    exact hinv.step (ServerRun.loopInv hrun) hst

/-! ## §4. One response for a sequence number. -/

/-- A call that has entered the policy after its step had before, or enters it in
the step. -/
theorem Effect.entered_origin {id : Nat} {rt rt' : PolicyRuntime} {pc : Pc} {next : CallState}
    (h : Effect id rt pc rt' next) {p : InferenceRequest × Nat} (hp : next.entered = some p) :
    pc.entered = some p ∨ pc.entry = some p.1 := by
  cases h with
  | frame _ _ _ hsame => exact .inl (hsame.symm.trans hp)
  | acquire _ _ _ _ _ hs =>
      rw [CallState.entered_none_of_serving (c := .running _) hs] at hp
      cases hp
  | release _ _ _ hs =>
      rw [CallState.entered_none_of_serving hs] at hp
      cases hp
  | entered _ he =>
      cases he.symm.trans hp
      exact .inr rfl
  | began | opened | admitted | refused | finished | left => cases hp

/-- Calls that have entered the policy are among the entries, and so are those
that have a response. -/
structure EntryInv (ls : List Label) (s : Sys) : Prop where
  entered : ∀ id c p, s.calls id = some c → c.entered = some p → (id, p.1) ∈ entries ls
  answered : ∀ id response, s.answered id = some response →
    ∃ request, (id, request) ∈ entries ls ∧ Answers request response

theorem entries_mono {ls : List Label} {e : Nat × InferenceRequest} (l : Label)
    (he : e ∈ entries ls) : e ∈ entries (ls ++ [l]) := by
  unfold entries
  rw [List.filterMap_append]
  exact List.mem_append_left _ he

theorem EntryInv.step {ls : List Label} {s s' : Sys} {l : Label} (h : EntryInv ls s)
    (hst : Step cfg nx s l s') : EntryInv (ls ++ [l]) s' := by
  constructor
  · intro j c p hc hp
    rcases step_cases hst with ⟨i, op, rfl, -, rfl⟩ | ⟨i, pc, ch, rt', next, rfl, hpc, ha, rfl⟩
    · rcases Sys.setCall_calls_eq hc with ⟨-, rfl⟩ | ⟨-, hold⟩
      · rw [CallState.entered_none_of_serving (op.start_holdsLock nx).2] at hp
        cases hp
      · exact entries_mono _ (h.entered j c p hold hp)
    · rcases Sys.setCall_calls_eq hc with ⟨rfl, rfl⟩ | ⟨-, hold⟩
      · rcases ha.effect.entered_origin hp with hbefore | hentry
        · exact entries_mono _ (h.entered j _ p hpc hbefore)
        · have hl : (Label.step j pc ch c).entry = some (j, p.1) := by
            show pc.entry.map (fun request => (j, request)) = _
            rw [hentry]
            rfl
          rw [entries_snoc_some hl]
          exact List.mem_append_right _ List.mem_cons_self
      · exact entries_mono _ (h.entered j c p hold hp)
  · intro j response hans
    rcases hst.answers with ⟨-, hsame⟩ | ⟨id, inf, lease, -, hcounts⟩
    · rw [hsame j] at hans
      obtain ⟨request, he, ha⟩ := h.answered j response hans
      exact ⟨request, entries_mono _ he, ha⟩
    · rw [hcounts.state] at hans
      by_cases hj : j = id
      · rw [hj, Sys.answered_self] at hans
        cases hans
        rw [hj]
        exact ⟨inf.request, entries_mono _ (h.entered id _ _ hcounts.finishing rfl), rfl, rfl, rfl⟩
      · rw [Sys.answered_other _ _ _ hj] at hans
        obtain ⟨request, he, ha⟩ := h.answered j response hans
        exact ⟨request, entries_mono _ he, ha⟩

theorem RuntimeRun.entryInv {ls : List Label} {s : Sys} (h : RuntimeRun cfg nx ls s) :
    EntryInv ls s := by
  refine Run.invariant (M := runtimeSystem cfg nx) EntryInv ?_ ?_ h
  · rintro s ⟨dirs, rfl⟩
    constructor
    · intro id c p hc
      cases hc
    · intro id response hans
      cases hans
  · intro ls s l s' _ hinv hst
    exact hinv.step hst

/-- **Two calls do not answer the same session and sequence number.** -/
theorem RuntimeRun.response_unique {ls : List Label} {s : Sys} (h : RuntimeRun cfg nx ls s)
    (hfresh : (openedIds ls).Nodup) {id id' : Nat} {response response' : InferenceResponse}
    (hid : s.calls id = some (.returned (.ok (.response response))))
    (hid' : s.calls id' = some (.returned (.ok (.response response'))))
    (hsession : response.session_id = response'.session_id)
    (hsequence : response.sequence = response'.sequence) : id = id' := by
  have hanswered : ∀ {i : Nat} {r : InferenceResponse},
      s.calls i = some (.returned (.ok (.response r))) → s.answered i = some r := by
    intro i r hi
    unfold Sys.answered
    rw [hi]
    rfl
  obtain ⟨request, he, ha⟩ := (RuntimeRun.entryInv h).answered id response (hanswered hid)
  obtain ⟨request', he', ha'⟩ := (RuntimeRun.entryInv h).answered id' response' (hanswered hid')
  have hpairs : ((entries ls).map fun e => (e.2.session_id, e.2.sequence)).Nodup := by
    apply Keyed.nodup_pairs
    intro session_id
    have hranges := (RuntimeRun.onceInv h hfresh).ranges session_id
    unfold enteredSequences firstSequences at hranges
    rw [hranges]
    exact List.nodup_range.map fun _ _ heq => Int.ofNat.inj heq
  have heq : ((id, request) : Nat × InferenceRequest) = (id', request') := by
    refine List.inj_on_of_nodup_map hpairs he he' ?_
    exact Prod.ext (ha.session_id.symm.trans (hsession.trans ha'.session_id))
      (ha.sequence.symm.trans (hsequence.trans ha'.sequence))
  exact congrArg Prod.fst heq

variable (lib mp server) in
/-- What the handler of the connection `k` sends: what a call of `infer` came to, or
why a frame of the connection was not accepted. -/
def Originates (es : List ServerEvent) (s : ServerProcess) (k : Nat) : Option Nat → Dict → Prop
  | some id, response => ∃ out : Except Exn InferenceResponse,
      s.sys.calls id = some (.returned (out.map .response)) ∧
      response = LoopbackInferenceServer._process_result out
  | none, response => ∃ frame, .reject k frame ∈ es ∧
      server._process_frame lib mp frame = .error response

/-- What would be reported as lost comes from a call of `infer`. -/
theorem Originates.response {k : Nat} {id : Option Nat} {response : Dict} {key : PyStr × Int}
    (h : Originates lib mp server es s k id response)
    (hkey : LoopbackInferenceServer.lost response = some key) :
    ∃ i r, id = some i ∧ s.sys.calls i = some (.returned (.ok (.response r))) ∧
      response = r.to_dict := by
  cases id with
  | none =>
      obtain ⟨frame, -, hframe⟩ := h
      unfold LoopbackInferenceServer._process_frame at hframe
      cases hunpacked : unpack_message lib mp frame server.max_frame_bytes with
      | ok payload =>
          rw [hunpacked] at hframe
          cases hframe
      | error err =>
          rw [hunpacked] at hframe
          cases hframe
          rw [LoopbackInferenceServer.lost_error] at hkey
          cases hkey
  | some i =>
      obtain ⟨out, hout, rfl⟩ := h
      cases out with
      | ok r => exact ⟨i, r, rfl, hout, rfl⟩
      | error err =>
          rw [show LoopbackInferenceServer._process_result (.error err) =
            LoopbackInferenceServer._process_error err from rfl,
            LoopbackInferenceServer.lost_error] at hkey
          cases hkey

/-- The session and the sequence number of the response that a step sends. -/
def ServerEvent.sentKey : ServerEvent → Option (PyStr × Int)
  | .send _ _ response => LoopbackInferenceServer.lost response
  | _ => none

/-- The sessions and sequence numbers of the responses sent, in order. -/
def sentKeys (es : List ServerEvent) : List (PyStr × Int) := es.filterMap ServerEvent.sentKey

theorem sentKeys_snoc (es : List ServerEvent) (e : ServerEvent) :
    sentKeys (es ++ [e]) = sentKeys es ++ e.sentKey.toList := filterMap_snoc _ es e

variable (lib mp server) in
/-- **Where the responses sent come from.** -/
structure SendInv (es : List ServerEvent) (s : ServerProcess) : Prop where
  sending : ∀ k id response, s.handlers k = some (.sending id response) →
    Originates lib mp server es s k id response
  sent : ∀ k id response, .send k id response ∈ es → Originates lib mp server es s k id response
  /-- The calls of `infer` are made with what the frames hold. -/
  received : ∀ k frame payload id, .receive k frame payload id ∈ es →
    server._process_frame lib mp frame = .ok payload

theorem Originates.mono {k : Nat} {id : Option Nat} {response : Dict}
    (h : Originates lib mp server es s k id response)
    (hst : ServerStep cfg nx lib mp server s e s') :
    Originates lib mp server (es ++ [e]) s' k id response := by
  cases id with
  | none =>
      obtain ⟨frame, hrejected, hframe⟩ := h
      exact ⟨frame, List.mem_append_left _ hrejected, hframe⟩
  | some i =>
      obtain ⟨out, hout, hresponse⟩ := h
      exact ⟨out, hst.returned hout, hresponse⟩

/-- The response that a step gives a handler to send is that of the call, or of the
frame, that the step deals with. -/
theorem SendInv.sending_step {k : Nat} {id : Option Nat} {response : Dict}
    (h : SendInv lib mp server es s) (hst : ServerStep cfg nx lib mp server s e s')
    (hk : s'.handlers k = some (.sending id response)) :
    Originates lib mp server (es ++ [e]) s' k id response := by
  have hother : ∀ {s₁ : ServerProcess} {j : Nat} {c : Handler}, s₁.handlers = s.handlers →
      (s₁.setHandler j c).handlers k = some (.sending id response) →
      c = .sending id response ∧ k = j ∨ s.handlers k = some (.sending id response) := by
    intro s₁ j c hsame hk
    by_cases hj : k = j
    · rw [hj, ServerProcess.setHandler_self] at hk
      exact .inl ⟨Option.some_inj.mp hk, hj⟩
    · rw [ServerProcess.setHandler_other s₁ c hj, hsame] at hk
      exact .inr hk
  have hkept : s.handlers k = some (.sending id response) →
      Originates lib mp server (es ++ [e]) s' k id response :=
    fun hk => (h.sending k id response hk).mono hst
  cases hst with
  | step | control | resume | stop | shutdown => exact hkept hk
  | accept | send | drop | hangUp | cancel | reported | receive | report =>
      rcases hother rfl hk with ⟨heq, -⟩ | hk
      · cases heq
      · exact hkept hk
  | @reject j frame response' _ _ hframe =>
      rcases hother rfl hk with ⟨heq, rfl⟩ | hk
      · cases heq
        exact ⟨frame, List.mem_append_right _ (List.mem_singleton.mpr rfl), hframe⟩
      · exact hkept hk
  | @result j i out _ _ hout =>
      rcases hother rfl hk with ⟨heq, -⟩ | hk
      · cases heq
        exact ⟨out, hout, rfl⟩
      · exact hkept hk

theorem SendInv.step (h : SendInv lib mp server es s)
    (hst : ServerStep cfg nx lib mp server s e s') : SendInv lib mp server (es ++ [e]) s' := by
  refine ⟨?_, ?_, ?_⟩
  · intro k id response hk
    exact h.sending_step hst hk
  · intro k id response hmem
    rcases List.mem_append.mp hmem with hmem | hmem
    · exact (h.sent k id response hmem).mono hst
    · cases List.mem_singleton.mp hmem
      refine Originates.mono ?_ hst
      cases hst with
      | send _ hk => exact h.sending k id response hk
  · intro k frame payload id hmem
    rcases List.mem_append.mp hmem with hmem | hmem
    · exact h.received k frame payload id hmem
    · cases List.mem_singleton.mp hmem
      cases hst with
      | receive _ _ hframe => exact hframe

theorem ServerRun.sendInv (h : ServerRun cfg nx lib mp server es s) :
    SendInv lib mp server es s := by
  refine Run.invariant (M := serverProcess cfg nx lib mp server) (SendInv lib mp server) ?_ ?_ h
  · rintro s ⟨dirs, rfl⟩
    refine ⟨?_, ?_, ?_⟩
    · intro k id response hk
      cases hk
    · intro k id response hmem
      cases hmem
    · intro k frame payload id hmem
      cases hmem
  · intro es s e s' _ hinv hst
    exact hinv.step hst

/-- **No session and sequence number is answered twice.** -/
theorem ServerRun.sentKeys_nodup (h : ServerRun cfg nx lib mp server es s)
    (hfresh : (openedIds (runtimeLabels es)).Nodup) : (sentKeys es).Nodup := by
  refine Run.invariant (M := serverProcess cfg nx lib mp server)
    (fun es s => (openedIds (runtimeLabels es)).Nodup → (sentKeys es).Nodup) ?_ ?_ h hfresh
  · intro s _ _
    exact List.nodup_nil
  · intro es s e s' hrun ih hst hfresh
    have hbefore : (openedIds (runtimeLabels es)).Nodup := by
      rw [runtimeLabels_append, openedIds, List.filterMap_append] at hfresh
      exact (List.nodup_append.mp hfresh).1
    rw [sentKeys_snoc]
    cases hst with
    | @send k id response b _ hk =>
        cases hkey : LoopbackInferenceServer.lost response with
        | none =>
            rw [show (ServerEvent.send k id response).sentKey = none from hkey]
            simpa using ih hbefore
        | some key =>
            rw [show (ServerEvent.send k id response).sentKey = some key from hkey]
            refine List.Nodup.append (ih hbefore) (List.nodup_singleton _) ?_
            intro a ha ha'
            rw [List.mem_singleton.mp ha'] at ha
            -- it was sent before: then it came from the same call, which is dealt with
            obtain ⟨e', hmem, hkey'⟩ := List.mem_filterMap.mp ha
            cases e' with
            | send k' id' response' =>
                have hlost' : LoopbackInferenceServer.lost response' = some key := hkey'
                obtain ⟨i, r, rfl, hi, rfl⟩ :=
                  ((ServerRun.sendInv hrun).sending k id response hk).response hkey
                obtain ⟨i', r', rfl, hi', rfl⟩ :=
                  ((ServerRun.sendInv hrun).sent k' id' response' hmem).response hlost'
                rw [LoopbackInferenceServer.lost_response] at hkey hlost'
                cases hkey
                obtain ⟨hsession, hsequence⟩ := Prod.mk.inj (Option.some_inj.mp hlost')
                have hsame := (ServerRun.runtime hrun).response_unique hbefore hi' hi hsession
                  hsequence
                refine (ServerRun.holdInv hrun).unsettled k _ i hk rfl ?_
                refine List.mem_filterMap.mpr ⟨_, hmem, ?_⟩
                rw [hsame]
                rfl
            | _ => cases hkey'
    | _ => simpa [ServerEvent.sentKey] using ih hbefore

/-! ## §5. The account. -/

variable (lib mp server) in
/-- **What becomes of the responses** of the inference server. -/
structure ResponsesAccounted (es : List ServerEvent) (s : ServerProcess) : Prop where
  /-- A response of `infer` was computed for a frame.  It is on its way to the
  connection of the frame, or was sent there, or was reported as lost, unless the
  handler of the connection was cancelled. -/
  accounted : ∀ id response, s.sys.calls id = some (.returned (.ok (.response response))) →
    ∃ k frame payload, .receive k frame payload id ∈ es ∧ Accounted es s k id response
  /-- What a call of `infer` came to is dealt with once. -/
  once : (settled es).Nodup
  /-- A connection is sent what came of its own frames. -/
  own : ∀ k id response, .send k (some id) response ∈ es →
    ∃ (frame : PyObj) (payload : Value) (out : Except Exn InferenceResponse),
      .receive k frame payload id ∈ es ∧
      server._process_frame lib mp frame = .ok payload ∧
      s.sys.calls id = some (.returned (out.map .response)) ∧
      response = LoopbackInferenceServer._process_result out
  /-- What it is sent without a call of `infer` is the fault of a frame of its own that
  was not accepted. -/
  refused : ∀ k response, .send k none response ∈ es →
    ∃ frame, .reject k frame ∈ es ∧ server._process_frame lib mp frame = .error response
  /-- It has one response for a frame, accepted or not, in the order of the frames, and at
  most one frame at a time without. -/
  inOrder : ∀ k, told es k <+: asked es k ∧ (asked es k).length ≤ (told es k).length + 1
  /-- No session and sequence number is answered twice, if `uuid4` does not give
  one session id twice. -/
  unique : (openedIds (runtimeLabels es)).Nodup → (sentKeys es).Nodup

theorem mem_asked {k id : Nat} (h : some id ∈ asked es k) :
    ∃ frame payload, .receive k frame payload id ∈ es := by
  obtain ⟨e, hmem, hasks⟩ := List.mem_filterMap.mp h
  unfold ServerEvent.asks at hasks
  split at hasks
  · next j frame payload id' =>
      split at hasks
      · next heq =>
          cases hasks
          rw [heq] at hmem
          exact ⟨frame, payload, hmem⟩
      · cases hasks
  · split at hasks
    · cases hasks
    · cases hasks
  · cases hasks

theorem mem_told {k : Nat} {id : Option Nat} {response : Dict} (h : .send k id response ∈ es) :
    id ∈ told es k :=
  List.mem_filterMap.mpr ⟨_, h, if_pos rfl⟩

/-- **In every run of the server process, the responses are accounted for.** -/
theorem responses_accounted (h : ServerRun cfg nx lib mp server es s) :
    ResponsesAccounted lib mp server es s := by
  refine ⟨(ServerRun.accountInv h).responses, (ServerRun.holdInv h).nodup, ?_, ?_, ?_,
    ServerRun.sentKeys_nodup h⟩
  · intro k id response hsent
    -- the frame it answers is one of the connection, by the order
    obtain ⟨rest, hasked, -⟩ := ServerRun.inOrder h k
    have hmem : some id ∈ asked es k := by
      rw [hasked]
      exact List.mem_append_left _ (mem_told hsent)
    obtain ⟨frame, payload, hreceived⟩ := mem_asked hmem
    obtain ⟨out, hout, hresponse⟩ := (ServerRun.sendInv h).sent k (some id) response hsent
    exact ⟨frame, payload, out, hreceived, (ServerRun.sendInv h).received _ _ _ _ hreceived, hout,
      hresponse⟩
  · intro k response hsent
    exact (ServerRun.sendInv h).sent k none response hsent
  · intro k
    obtain ⟨rest, hasked, howes⟩ := ServerRun.inOrder h k
    refine ⟨⟨rest, hasked.symm⟩, ?_⟩
    have hle := howes.length_le
    rw [hasked, List.length_append]
    omega

end Responses

/-- One connection gets its response, another brings a text frame, and the server
shuts down. -/
def servedMoves : List ServerMove :=
  setUpMoves ++ requestMoves 0 3 ++
    [.send 0, .accept 1, .frame 1 (.str []) 4, .fail 1 5, .hangUp 0] ++ shutdownMoves 6

theorem responses_accounted_sample :
    ∃ es s, sentKeys es = [(sampleId, 0)] ∧ asked es 1 = [none] ∧ s.closed = true ∧
      ResponsesAccounted tableLibrary stridedMessagePack sampleServer es s := by
  obtain ⟨es, s, hrun, htest⟩ := ServerProcess.exists_run defaultConfig sampleNumerics
    tableLibrary stridedMessagePack sampleServer (fun _ => none) servedMoves
    (fun es s => decide (sentKeys es = [(sampleId, 0)]) && decide (asked es 1 = [none]) && s.closed)
    (by decide +kernel)
  rw [Bool.and_eq_true, Bool.and_eq_true, decide_eq_true_eq, decide_eq_true_eq] at htest
  exact ⟨es, s, htest.1.1, htest.1.2, htest.2, responses_accounted hrun⟩

end OvenRuntime
