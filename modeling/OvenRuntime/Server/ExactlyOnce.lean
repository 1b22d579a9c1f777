/-
  OvenRuntime.Server.ExactlyOnce
  ──────────────────────────────
  Exactly-once admission.  Of every session the requests that enter the
  policy carry the sequence numbers 0, 1, 2, …, in this order and each once,
  whatever calls interleave and whatever fails; hence no payload enters the
  policy twice.

  The invariant compares the history with the stored lease: its
  `next_sequence` is the number of requests of its session that have entered
  the policy, less one while the last of them is still being recorded.
-/
import OvenRuntime.Server.Effects
import OvenRuntime.Lib.Keyed

namespace OvenRuntime

/-! ## §1. What the history records. -/

/-- The call and the request with which a step enters the policy. -/
def Label.entry : Label → Option (Nat × InferenceRequest)
  | .call _ _ => none
  | .step id pc _ _ => pc.entry.map fun request => (id, request)

/-- The session a step opens. -/
def Label.opening : Label → Option PyStr
  | .call _ _ => none
  | .step _ pc _ next => OvenRuntime.opening pc next

/-- The request a call is bringing to the policy. -/
def Pc.bringing : Pc → Option InferenceRequest
  | .inferAcquire request => some request
  | .inferEnter request => some request
  | .inferPolicy request _ => some request
  | _ => none

/-- The requests that entered the policy, in order, with their calls. -/
def entries (ls : List Label) : List (Nat × InferenceRequest) := ls.filterMap Label.entry

/-- The identifiers `open_session` returned, in order. -/
def openedIds (ls : List Label) : List PyStr := ls.filterMap Label.opening

/-- The sequence numbers with which the policy was entered under a session. -/
def enteredSequences (ls : List Label) (session_id : PyStr) : List Int :=
  Keyed.valuesAt (fun e => e.2.session_id) (fun e => e.2.sequence) (entries ls) session_id

/-- The payload a call was made with. -/
def sentPayload (ls : List Label) (id : Nat) : Option Value :=
  ls.findSome? fun
    | .call i (.infer payload) => if i = id then some payload else none
    | _ => none

theorem entries_snoc_none {ls : List Label} {l : Label} (h : l.entry = none) :
    entries (ls ++ [l]) = entries ls := by
  simp [entries, List.filterMap_append, h]

theorem entries_snoc_some {ls : List Label} {l : Label} {e : Nat × InferenceRequest}
    (h : l.entry = some e) : entries (ls ++ [l]) = entries ls ++ [e] := by
  simp [entries, List.filterMap_append, h]

theorem openedIds_snoc_none {ls : List Label} {l : Label} (h : l.opening = none) :
    openedIds (ls ++ [l]) = openedIds ls := by
  simp [openedIds, List.filterMap_append, h]

theorem openedIds_snoc_some {ls : List Label} {l : Label} {session_id : PyStr}
    (h : l.opening = some session_id) : openedIds (ls ++ [l]) = openedIds ls ++ [session_id] := by
  simp [openedIds, List.filterMap_append, h]

theorem enteredSequences_snoc_none (ls : List Label) {l : Label} (h : l.entry = none) :
    enteredSequences (ls ++ [l]) = enteredSequences ls := by
  unfold enteredSequences
  rw [entries_snoc_none h]

/-! ## §2. The invariant. -/

/-- The first `n` sequence numbers. -/
def firstSequences (n : Nat) : List Int := (List.range n).map Int.ofNat

theorem firstSequences_succ (n : Nat) :
    firstSequences (n + 1) = firstSequences n ++ [(n : Int)] := by
  simp [firstSequences, List.range_succ]

/-- **The history agrees with the sessions.** -/
structure OnceInv (ls : List Label) (s : Sys) : Prop where
  /-- Under every session the sequence numbers are the first ones, in order. -/
  ranges : ∀ session_id, enteredSequences ls session_id
    = firstSequences (enteredSequences ls session_id).length
  /-- Only opened sessions enter the policy. -/
  known : ∀ e ∈ entries ls, e.2.session_id ∈ openedIds ls
  /-- A call about to enter brings the next sequence number of its session. -/
  waiting : ∀ id request lease_ref,
    s.calls id = some (.running (.inferPolicy request lease_ref)) →
    request.sequence = (enteredSequences ls request.session_id).length
  /-- A call serves an opened session; the stored lease is the one it was
  admitted under exactly when it has the same session id. -/
  served : ∀ id c request lease_ref, s.calls id = some c →
    c.serving = some (request, lease_ref) →
    request.session_id ∈ openedIds ls ∧ lease_ref < s.rt.refs ∧
    ∀ lease, s.rt.session = some lease →
      (lease.ref = lease_ref ↔ lease.session_id = request.session_id)
  /-- A stored lease was opened. -/
  stored : ∀ lease, s.rt.session = some lease → lease.session_id ∈ openedIds ls
  /-- The stored lease counts the requests of its session … -/
  counted : ∀ lease, s.rt.session = some lease →
    (∀ id c p, s.calls id = some c → c.entered = some p →
      p.1.session_id ≠ lease.session_id) →
    lease.next_sequence = (enteredSequences ls lease.session_id).length
  /-- … but for one that has entered the policy and is not counted yet. -/
  pending : ∀ lease id c p, s.rt.session = some lease → s.calls id = some c →
    c.entered = some p → p.1.session_id = lease.session_id →
    lease.next_sequence + 1 = (enteredSequences ls lease.session_id).length

/-! ## §3. How steps keep it. -/

/-- A step that neither enters the policy nor opens a session, and changes
neither the lease nor what its call has entered with (or drops the lease). -/
theorem OnceInv.keep {ls : List Label} {s : Sys} {l : Label} {id : Nat} {c : CallState}
    {rt' : PolicyRuntime} {next : CallState} (h : OnceInv ls s) (hc : s.calls id = some c)
    (hent : l.entry = none) (hop : l.opening = none)
    (hsess : rt'.session = s.rt.session ∧ next.entered = c.entered ∨ rt'.session = none)
    (hrefs : s.rt.refs ≤ rt'.refs)
    (hserve : ∀ p, next.serving = some p → c.serving = some p)
    (hwait : next.entry = none) :
    OnceInv (ls ++ [l]) (s.setCall rt' id next) := by
  have hseq := enteredSequences_snoc_none ls hent
  have hlease : ∀ lease, rt'.session = some lease →
      s.rt.session = some lease ∧ next.entered = c.entered := by
    intro lease hl
    rcases hsess with ⟨hs, he⟩ | hs
    · exact ⟨hs.symm.trans hl, he⟩
    · rw [hs] at hl
      cases hl
  -- under a stored lease the same calls have entered as before
  have hback : ∀ lease, rt'.session = some lease → ∀ j c' p,
      (s.setCall rt' id next).calls j = some c' → c'.entered = some p →
      ∃ c₀, s.calls j = some c₀ ∧ c₀.entered = some p := by
    intro lease hl j c' p hj hp
    rcases Sys.setCall_calls_eq hj with ⟨rfl, rfl⟩ | ⟨-, hold⟩
    · exact ⟨c, hc, by rw [← (hlease lease hl).2]; exact hp⟩
    · exact ⟨c', hold, hp⟩
  refine ⟨?_, ?_, ?_, ?_, ?_, ?_, ?_⟩
  · rw [hseq]
    exact h.ranges
  · rw [entries_snoc_none hent, openedIds_snoc_none hop]
    exact h.known
  · intro j request lease_ref hj
    rw [hseq]
    rcases Sys.setCall_calls_eq hj with ⟨-, hn⟩ | ⟨-, hold⟩
    · rw [← hn] at hwait
      cases hwait
    · exact h.waiting j request lease_ref hold
  · intro j c' request lease_ref hj hsv
    rw [openedIds_snoc_none hop]
    have hold : ∃ c₀, s.calls j = some c₀ ∧ c₀.serving = some (request, lease_ref) := by
      rcases Sys.setCall_calls_eq hj with ⟨rfl, rfl⟩ | ⟨-, hold⟩
      · exact ⟨c, hc, hserve _ hsv⟩
      · exact ⟨c', hold, hsv⟩
    obtain ⟨c₀, h₀, hsv₀⟩ := hold
    obtain ⟨h1, h2, h3⟩ := h.served j c₀ request lease_ref h₀ hsv₀
    exact ⟨h1, Nat.lt_of_lt_of_le h2 hrefs, fun lease hl => h3 lease (hlease lease hl).1⟩
  · intro lease hl
    rw [openedIds_snoc_none hop]
    exact h.stored lease (hlease lease hl).1
  · intro lease hl hno
    rw [hseq]
    apply h.counted lease (hlease lease hl).1
    intro j c₀ p h₀ hp
    by_cases hj : j = id
    · subst hj
      rw [hc] at h₀
      cases h₀
      exact hno j next p (Sys.setCall_self _ _ _ _) (by rw [(hlease lease hl).2]; exact hp)
    · exact hno j c₀ p (by rw [Sys.setCall_other _ _ _ hj]; exact h₀) hp
  · intro lease j c' p hl hj hp hk
    rw [hseq]
    obtain ⟨c₀, h₀, hp₀⟩ := hback lease hl j c' p hj hp
    exact h.pending lease j c₀ p (hlease lease hl).1 h₀ hp₀ hk

/-- While the lock holder has not entered the policy, no call has. -/
theorem LockInv.none_entered {s : Sys} (h : LockInv s) {i : Nat} {c : CallState}
    (hi : s.calls i = some c) (hc : c.holdsLock = true) (he : c.entered = none) :
    ∀ j c' p, s.calls j = some c' → c'.entered ≠ some p := by
  intro j c' p hj hp
  have hlock := CallState.holdsLock_of_serving (c := c')
    (by simp [CallState.serving_of_entered hp])
  have := h.sole hi hc hj hlock
  subst this
  rw [hi] at hj
  cases hj
  rw [he] at hp
  cases hp

/-- **Admission** keeps the invariant: the request brings the next sequence
number of the stored lease, and nobody else is in the policy. -/
theorem OnceInv.admitted {ls : List Label} {s : Sys} {id : Nat} {ch : Choice} {next : CallState}
    {request : InferenceRequest} {lease : SessionLease} (h : OnceInv ls s) (hlock : LockInv s)
    (hwf : s.rt.WF) (hpc : s.calls id = some (.running (.inferEnter request)))
    (hadm : PolicyRuntime.Admitted s.rt request lease)
    (hnext : next = .running (.inferPolicy request lease.ref)) :
    OnceInv (ls ++ [.step id (.inferEnter request) ch next])
      (s.setCall { s.rt with in_flight := s.rt.in_flight + 1 } id next) := by
  subst hnext
  have hnone := hlock.none_entered hpc rfl rfl
  have hent : (Label.step id (.inferEnter request) ch
      (.running (.inferPolicy request lease.ref))).entry = none := rfl
  have hop : (Label.step id (.inferEnter request) ch
      (.running (.inferPolicy request lease.ref))).opening = none := rfl
  have hseq := enteredSequences_snoc_none ls hent
  have hcount : lease.next_sequence = (enteredSequences ls lease.session_id).length :=
    h.counted lease hadm.stored fun j c p hj hp => absurd hp (hnone j c p hj)
  refine ⟨?_, ?_, ?_, ?_, ?_, ?_, ?_⟩
  · rw [hseq]
    exact h.ranges
  · rw [entries_snoc_none hent, openedIds_snoc_none hop]
    exact h.known
  · intro j r lease_ref hj
    rw [hseq]
    rcases Sys.setCall_calls_eq hj with ⟨-, hn⟩ | ⟨-, hold⟩
    · cases hn
      rw [hadm.sequence, hcount, hadm.session_id]
    · exact h.waiting j r lease_ref hold
  · intro j c r lease_ref hj hsv
    rw [openedIds_snoc_none hop]
    rcases Sys.setCall_calls_eq hj with ⟨-, rfl⟩ | ⟨-, hold⟩
    · cases hsv
      refine ⟨?_, (hwf.lease lease hadm.stored).ref, ?_⟩
      · rw [hadm.session_id]
        exact h.stored lease hadm.stored
      · intro l hl
        have hl : s.rt.session = some l := hl
        rw [hadm.stored] at hl
        cases hl
        simp [hadm.session_id]
    · exact h.served j c r lease_ref hold hsv
  · intro l hl
    rw [openedIds_snoc_none hop]
    exact h.stored l hl
  · intro l hl _
    rw [hseq]
    exact h.counted l hl fun j c p hj hp => absurd hp (hnone j c p hj)
  · intro l j c p hl hj hp _
    rcases Sys.setCall_calls_eq hj with ⟨-, rfl⟩ | ⟨-, hold⟩
    · cases hp
    · exact absurd hp (hnone j c p hold)

/-- **Entering the policy** keeps the invariant: the history grows by the
next sequence number of the session, which is pending from now on. -/
theorem OnceInv.entered {ls : List Label} {s : Sys} {id : Nat} {ch : Choice} {next : CallState}
    {request : InferenceRequest} {lease_ref : Nat} (h : OnceInv ls s) (hlock : LockInv s)
    (hpc : s.calls id = some (.running (.inferPolicy request lease_ref)))
    (hnext : next.entered = some (request, lease_ref)) :
    OnceInv (ls ++ [.step id (.inferPolicy request lease_ref) ch next])
      (s.setCall s.rt id next) := by
  have hnone := hlock.none_entered hpc rfl rfl
  have hent : (Label.step id (.inferPolicy request lease_ref) ch next).entry
      = some (id, request) := rfl
  have hop : (Label.step id (.inferPolicy request lease_ref) ch next).opening = none := rfl
  have hself : enteredSequences (ls ++ [.step id (.inferPolicy request lease_ref) ch next])
      request.session_id = enteredSequences ls request.session_id ++ [request.sequence] := by
    unfold enteredSequences
    rw [entries_snoc_some hent]
    exact Keyed.valuesAt_snoc_self (entries ls) (id, request)
  have hother : ∀ k, request.session_id ≠ k →
      enteredSequences (ls ++ [.step id (.inferPolicy request lease_ref) ch next]) k
        = enteredSequences ls k := by
    intro k hk
    unfold enteredSequences
    rw [entries_snoc_some hent]
    exact Keyed.valuesAt_snoc_other hk
  have hwait := h.waiting id request lease_ref hpc
  obtain ⟨hin, href, hiff⟩ := h.served id _ request lease_ref hpc rfl
  refine ⟨?_, ?_, ?_, ?_, ?_, ?_, ?_⟩
  · intro k
    by_cases hk : request.session_id = k
    · subst hk
      rw [hself, List.length_append, List.length_singleton, firstSequences_succ,
        ← h.ranges request.session_id, hwait]
    · rw [hother k hk]
      exact h.ranges k
  · intro e he
    rw [entries_snoc_some hent, List.mem_append, List.mem_singleton] at he
    rw [openedIds_snoc_none hop]
    rcases he with he | rfl
    · exact h.known e he
    · exact hin
  · -- nobody else is about to enter
    intro j r ref hj
    rcases Sys.setCall_calls_eq hj with ⟨-, hn⟩ | ⟨hne, hold⟩
    · rw [← hn] at hnext
      cases hnext
    · exact absurd (hlock.sole hpc rfl hold rfl) hne
  · intro j c r ref hj hsv
    rw [openedIds_snoc_none hop]
    rcases Sys.setCall_calls_eq hj with ⟨-, rfl⟩ | ⟨-, hold⟩
    · rw [CallState.serving_of_entered hnext] at hsv
      cases hsv
      exact ⟨hin, href, hiff⟩
    · exact h.served j c r ref hold hsv
  · intro l hl
    rw [openedIds_snoc_none hop]
    exact h.stored l hl
  · intro l hl hno
    have hne : request.session_id ≠ l.session_id :=
      hno id next (request, lease_ref) (Sys.setCall_self _ _ _ _) hnext
    rw [hother _ hne]
    exact h.counted l hl fun j c p hj hp => absurd hp (hnone j c p hj)
  · intro l j c p hl hj hp hk
    rcases Sys.setCall_calls_eq hj with ⟨-, rfl⟩ | ⟨-, hold⟩
    · rw [hnext] at hp
      cases hp
      have hold := h.counted l hl fun j c p hj hp => absurd hp (hnone j c p hj)
      have hk : request.session_id = l.session_id := hk
      rw [← hk, hself, List.length_append, List.length_singleton, hold, hk]
      rfl
    · exact absurd hp (hnone j c p hold)

/-- **Counting a response** keeps the invariant: the lease moves on by the one
request that was pending. -/
theorem OnceInv.finished {ls : List Label} {s : Sys} {id : Nat} {ch : Choice} {next : CallState}
    {inf : PolicyRuntime.Inference} {lease : SessionLease} (h : OnceInv ls s) (hlock : LockInv s)
    (hpc : s.calls id = some (.running (.inferFinish inf))) (hs : s.rt.session = some lease)
    (href : lease.ref = inf.lease_ref)
    (hnext : next = .running (.inferLeave inf.request inf.lease_ref (.ok inf.response))) :
    OnceInv (ls ++ [.step id (.inferFinish inf) ch next])
      (s.setCall { s.rt with session := some lease.next } id next) := by
  subst hnext
  have hent : (Label.step id (.inferFinish inf) ch
      (.running (.inferLeave inf.request inf.lease_ref (.ok inf.response)))).entry = none := rfl
  have hop : (Label.step id (.inferFinish inf) ch
      (.running (.inferLeave inf.request inf.lease_ref (.ok inf.response)))).opening = none := rfl
  have hseq := enteredSequences_snoc_none ls hent
  have hid : lease.session_id = inf.request.session_id :=
    ((h.served id _ inf.request inf.lease_ref hpc rfl).2.2 lease hs).mp href
  have hcount := h.pending lease id _ (inf.request, inf.lease_ref) hs hpc rfl hid.symm
  -- no other call is in the policy
  have hothers : ∀ j c p, j ≠ id → s.calls j = some c → c.entered ≠ some p := by
    intro j c p hne hj hp
    have hl := CallState.holdsLock_of_serving (c := c)
      (by simp [CallState.serving_of_entered hp])
    exact hne (hlock.sole hpc rfl hj hl)
  refine ⟨?_, ?_, ?_, ?_, ?_, ?_, ?_⟩
  · rw [hseq]
    exact h.ranges
  · rw [entries_snoc_none hent, openedIds_snoc_none hop]
    exact h.known
  · intro j r ref hj
    rw [hseq]
    rcases Sys.setCall_calls_eq hj with ⟨-, hn⟩ | ⟨-, hold⟩
    · cases hn
    · exact h.waiting j r ref hold
  · intro j c r ref hj hsv
    rw [openedIds_snoc_none hop]
    have hold : ∃ c₀, s.calls j = some c₀ ∧ c₀.serving = some (r, ref) := by
      rcases Sys.setCall_calls_eq hj with ⟨rfl, rfl⟩ | ⟨-, hold⟩
      · exact ⟨_, hpc, hsv⟩
      · exact ⟨c, hold, hsv⟩
    obtain ⟨c₀, h₀, hsv₀⟩ := hold
    obtain ⟨h1, h2, h3⟩ := h.served j c₀ r ref h₀ hsv₀
    refine ⟨h1, h2, ?_⟩
    intro l hl
    cases hl
    exact h3 lease hs
  · intro l hl
    cases hl
    rw [openedIds_snoc_none hop]
    exact h.stored lease hs
  · intro l hl _
    cases hl
    rw [hseq]
    exact hcount
  · intro l j c p _ hj hp _
    rcases Sys.setCall_calls_eq hj with ⟨-, rfl⟩ | ⟨hne, hold⟩
    · cases hp
    · exact absurd hp (hothers j c p hne hold)

/-- **Opening a session** under a new identifier keeps the invariant. -/
theorem OnceInv.opened {ls : List Label} {s : Sys} {id : Nat} {ch : Choice} {grant : SessionGrant}
    {lease : SessionLease} (h : OnceInv ls s) (href : lease.ref = s.rt.refs)
    (hseq0 : lease.next_sequence = 0) (hsid : lease.session_id = grant.session_id)
    (hfresh : grant.session_id ∉ openedIds ls) :
    OnceInv (ls ++ [.step id .openSession ch (.returned (.ok (.session grant)))])
      (s.setCall { s.rt with session := some lease, refs := s.rt.refs + 1 } id
        (.returned (.ok (.session grant)))) := by
  have hent : (Label.step id .openSession ch (.returned (.ok (.session grant)))).entry = none := rfl
  have hop : (Label.step id .openSession ch (.returned (.ok (.session grant)))).opening
      = some grant.session_id := rfl
  have hseq := enteredSequences_snoc_none ls hent
  have hmem : ∀ k, k ∈ openedIds ls →
      k ∈ openedIds (ls ++ [.step id .openSession ch (.returned (.ok (.session grant)))]) := by
    intro k hk
    rw [openedIds_snoc_some hop]
    exact List.mem_append_left _ hk
  -- the session is new, so nothing has entered under it
  have hnil : enteredSequences ls lease.session_id = [] := by
    apply Keyed.valuesAt_eq_nil
    intro e he heq
    apply hfresh
    rw [← hsid, ← heq]
    exact h.known e he
  have hold : ∀ j c, (s.setCall { s.rt with session := some lease, refs := s.rt.refs + 1 } id
      (.returned (.ok (.session grant)))).calls j = some c → j ≠ id ∧ s.calls j = some c ∨
      c = .returned (.ok (.session grant)) := by
    intro j c hj
    rcases Sys.setCall_calls_eq hj with ⟨-, hc⟩ | ho
    · exact .inr hc
    · exact .inl ho
  refine ⟨?_, ?_, ?_, ?_, ?_, ?_, ?_⟩
  · rw [hseq]
    exact h.ranges
  · intro e he
    rw [entries_snoc_none hent] at he
    exact hmem _ (h.known e he)
  · intro j r ref hj
    rw [hseq]
    rcases hold j _ hj with ⟨-, ho⟩ | hc
    · exact h.waiting j r ref ho
    · cases hc
  · intro j c r ref hj hsv
    rcases hold j c hj with ⟨-, ho⟩ | rfl
    · obtain ⟨h1, h2, -⟩ := h.served j c r ref ho hsv
      refine ⟨hmem _ h1, Nat.lt_succ_of_lt h2, ?_⟩
      intro l hl
      cases hl
      constructor
      · intro he
        omega
      · intro he
        refine absurd ?_ hfresh
        rw [← hsid, he]
        exact h1
    · cases hsv
  · intro l hl
    cases hl
    rw [openedIds_snoc_some hop, hsid]
    exact List.mem_append_right _ (List.mem_singleton_self _)
  · intro l hl _
    cases hl
    rw [hseq, hnil, hseq0]
    rfl
  · intro l j c p hl hj hp hk
    cases hl
    rcases hold j c hj with ⟨-, ho⟩ | rfl
    · refine absurd ?_ hfresh
      rw [← hsid, ← hk]
      exact (h.served j c p.1 p.2 ho (CallState.serving_of_entered hp)).1
    · cases hp

/-- **Every step keeps the invariant**, as long as session ids are fresh. -/
theorem OnceInv.step {cfg : RuntimeConfig} {nx : Numerics} {ls : List Label} {s s' : Sys}
    {l : Label} (h : OnceInv ls s) (hwf : s.rt.WF) (hlock : LockInv s)
    (hs : Step cfg nx s l s') (hfresh : (openedIds (ls ++ [l])).Nodup) :
    OnceInv (ls ++ [l]) s' := by
  rcases step_cases hs with ⟨id, op, rfl, hnone, rfl⟩ | ⟨id, pc, ch, rt', next, rfl, hpc, ha, rfl⟩
  · -- a call that begins has entered nothing and serves nothing
    obtain ⟨-, hsv⟩ := op.start_holdsLock nx
    have hent : (Label.call id op).entry = none := rfl
    have hop : (Label.call id op).opening = none := rfl
    have hseq := enteredSequences_snoc_none ls hent
    have hnew : ∀ j c, (s.setCall s.rt id (op.start nx)).calls j = some c →
        c.serving = none ∨ s.calls j = some c := by
      intro j c hj
      rcases Sys.setCall_calls_eq hj with ⟨-, rfl⟩ | ⟨-, hold⟩
      · exact .inl hsv
      · exact .inr hold
    have hold : ∀ j c, s.calls j = some c → (s.setCall s.rt id (op.start nx)).calls j = some c := by
      intro j c hj
      have hne : j ≠ id := by
        rintro rfl
        rw [hnone] at hj
        cases hj
      rw [Sys.setCall_other _ _ _ hne]
      exact hj
    refine ⟨?_, ?_, ?_, ?_, ?_, ?_, ?_⟩
    · rw [hseq]
      exact h.ranges
    · rw [entries_snoc_none hent, openedIds_snoc_none hop]
      exact h.known
    · intro j r ref hj
      rw [hseq]
      rcases hnew j _ hj with hn | ho
      · cases hn
      · exact h.waiting j r ref ho
    · intro j c r ref hj hc
      rw [openedIds_snoc_none hop]
      rcases hnew j c hj with hn | ho
      · rw [hn] at hc
        cases hc
      · exact h.served j c r ref ho hc
    · rw [openedIds_snoc_none hop]
      exact h.stored
    · intro lease hl hno
      rw [hseq]
      exact h.counted lease hl fun j c p hj hp => hno j c p (hold j c hj) hp
    · intro lease j c p hl hj hp hk
      rw [hseq]
      rcases hnew j c hj with hn | ho
      · rw [CallState.serving_of_entered hp] at hn
        cases hn
      · exact h.pending lease j c p hl ho hp hk
  · have heff := ha.effect
    cases heff with
    | frame hf hnl hsv he _ _ hent hent' hop =>
        refine h.keep hpc (by simp [Label.entry, hent]) hop ?_ (Nat.le_of_eq hf.refs.symm) ?_ hent'
        · rcases hf.session with hss | hss
          · exact .inl ⟨hss, he⟩
          · exact .inr hss
        · intro p hp
          exact hsv.symm.trans hp
    | @acquire _ pc' hfree hl hsv _ hl' hsv' _ =>
        refine h.keep hpc (by simp [Label.entry, Pc.entry_none_of_serving hsv]) ?_
          (.inl ⟨rfl, ?_⟩) (Nat.le_refl _) ?_ (CallState.entry_none_of_serving hsv')
        · show opening pc (.running pc') = none
          cases pc <;> rfl
        · rw [CallState.entered_none_of_serving (c := .running pc') hsv',
            CallState.entered_none_of_serving (c := .running pc) hsv]
        · intro p hp
          rw [CallState.serving_running, hsv'] at hp
          cases hp
    | release hl hsv hl' hsv' _ =>
        refine h.keep hpc (by simp [Label.entry, Pc.entry_none_of_serving hsv])
          (opening_of_holdsLock _ hl) (.inl ⟨rfl, ?_⟩) (Nat.le_refl _) ?_
          (CallState.entry_none_of_serving hsv')
        · rw [CallState.entered_none_of_serving hsv',
            CallState.entered_none_of_serving (c := .running pc) hsv]
        · intro p hp
          rw [hsv'] at hp
          cases hp
    | began =>
        exact h.keep hpc rfl rfl (.inl ⟨rfl, rfl⟩) (Nat.le_refl _) (fun p hp => by cases hp) rfl
    | opened hlive ht htr href hz hsid =>
        refine h.opened href hz hsid ?_
        rw [openedIds_snoc_some rfl, List.nodup_append] at hfresh
        intro hmem
        exact hfresh.2.2 _ hmem _ (List.mem_singleton_self _) rfl
    | admitted hadm => exact h.admitted hlock hwf hpc hadm rfl
    | entered hnl he => exact h.entered hlock hpc he
    | @refused _ request lease_ref code f hl he =>
        refine h.keep hpc (by simp [Label.entry, Pc.entry_none_of_entered he])
          (opening_of_holdsLock _ hl) (.inr rfl) (Nat.le_refl _) ?_ rfl
        intro p hp
        cases hp
        exact CallState.serving_of_entered he
    | finished hss href => exact h.finished hlock hpc hss href rfl
    | left =>
        exact h.keep hpc rfl rfl (.inl ⟨rfl, rfl⟩) (Nat.le_refl _) (fun p hp => by cases hp) rfl

/-- The invariant holds after every run that returned fresh session ids. -/
theorem RuntimeRun.onceInv {cfg : RuntimeConfig} {nx : Numerics} {ls : List Label} {s : Sys}
    (h : RuntimeRun cfg nx ls s) (hfresh : (openedIds ls).Nodup) : OnceInv ls s := by
  refine TransitionSystem.Run.invariant (fun ls s => (openedIds ls).Nodup → OnceInv ls s)
    ?_ ?_ h hfresh
  · rintro s ⟨dirs, rfl⟩ _
    exact ⟨fun _ => rfl, by simp [entries], by simp, by simp, by simp [PolicyRuntime.init],
      by simp [PolicyRuntime.init], by simp⟩
  · intro ls s l s' hrun hinv hstep hnodup
    have hprefix : (openedIds ls).Nodup := by
      unfold openedIds at hnodup
      rw [List.filterMap_append] at hnodup
      exact hnodup.of_append_left
    exact (hinv hprefix).step (RuntimeRun.inv hrun).wf (RuntimeRun.lockInv hrun) hstep hnodup

/-! ## §4. Payloads. -/

/-- What a call has been asked for, as far as the history tells. -/
structure SentInv (nx : Numerics) (ls : List Label) (s : Sys) : Prop where
  /-- A call not made yet has sent nothing. -/
  unsent : ∀ id, s.calls id = none → sentPayload ls id = none
  /-- A call on its way into the policy sent the payload of its request. -/
  parsed : ∀ id pc request, s.calls id = some (.running pc) → pc.bringing = some request →
    ∃ payload, sentPayload ls id = some payload ∧
      InferenceRequest.parse nx.repr_fits payload = .ok request
  /-- So did every call that has entered it. -/
  entered : ∀ e ∈ entries ls, ∃ payload, sentPayload ls e.1 = some payload ∧
    InferenceRequest.parse nx.repr_fits payload = .ok e.2

theorem sentPayload_snoc (ls : List Label) (l : Label) (id : Nat) :
    sentPayload (ls ++ [l]) id = (sentPayload ls id).or (sentPayload [l] id) := by
  unfold sentPayload
  rw [List.findSome?_append]

/-- What was sent stays sent. -/
theorem sentPayload_mono {ls : List Label} {l : Label} {id : Nat} {payload : Value}
    (h : sentPayload ls id = some payload) : sentPayload (ls ++ [l]) id = some payload := by
  rw [sentPayload_snoc, h]
  rfl

/-- A call that begins with a request in hand was sent its payload. -/
theorem Op.start_bringing {nx : Numerics} {op : Op} {pc : Pc} {request : InferenceRequest}
    (h : op.start nx = .running pc) (hb : pc.bringing = some request) :
    ∃ payload, op = .infer payload ∧ InferenceRequest.parse nx.repr_fits payload = .ok request := by
  unfold Op.start at h
  split at h
  case h_6 payload =>
    split at h
    · cases h
    · rename_i r hparse
      cases h
      cases hb
      exact ⟨payload, rfl, hparse⟩
  all_goals (try split at h) <;> (try split at h) <;> first
    | (cases h; cases hb)
    | cases h

/-- A call keeps its request until it enters the policy. -/
theorem Advance.bringing {cfg : RuntimeConfig} {nx : Numerics} {id : Nat}
    {rt rt' : PolicyRuntime} {pc pc' : Pc} {ch : Choice} {request : InferenceRequest}
    (h : Advance cfg nx id rt pc ch rt' (.running pc')) (hb : pc'.bringing = some request) :
    pc.bringing = some request := by
  generalize hn : CallState.running pc' = next at h
  cases h
  case prepareEnter r _ =>
    cases r with
    | error e => cases hn
    | ok d => cases d <;> (cases hn; cases hb)
  case prepareDrain r _ =>
    cases r with
    | error e => cases hn
    | ok d => cases d <;> (cases hn; cases hb)
  case prepareRelease loaded =>
    cases loaded with
    | error e => cases hn
    | ok identity =>
        cases hn
        cases hb
  case beginSection r _ =>
    cases r with
    | error e => cases e <;> (cases hn; cases hb)
    | ok st =>
        cases hn
        cases hb
  case inferEnter r _ =>
    cases r with
    | error e =>
        cases hn
        cases hb
    | ok ref =>
        cases hn
        exact hb
  case inferRecord r _ => cases r <;> (cases hn; cases hb)
  case closeSection r _ =>
    cases r with
    | error e => cases hn
    | ok audit_error =>
        cases hn
        cases hb
  case closeBackend audit_error r => cases audit_error <;> cases hn
  all_goals first
    | (cases hn; exact hb)
    | (cases hn; cases hb)
    | cases hn

/-- **Every step keeps the record of what was sent.** -/
theorem SentInv.step {cfg : RuntimeConfig} {nx : Numerics} {ls : List Label} {s s' : Sys}
    {l : Label} (h : SentInv nx ls s) (hs : Step cfg nx s l s') : SentInv nx (ls ++ [l]) s' := by
  rcases step_cases hs with ⟨id, op, rfl, hnone, rfl⟩ | ⟨id, pc, ch, rt', next, rfl, hpc, ha, rfl⟩
  · refine ⟨?_, ?_, ?_⟩
    · intro j hj
      have hne : j ≠ id := by
        rintro rfl
        rw [Sys.setCall_self] at hj
        cases hj
      rw [Sys.setCall_other _ _ _ hne] at hj
      rw [sentPayload_snoc, h.unsent j hj]
      cases op <;> simp [sentPayload, Ne.symm hne]
    · intro j pc request hj hb
      rcases Sys.setCall_calls_eq hj with ⟨rfl, hst⟩ | ⟨-, hold⟩
      · obtain ⟨payload, rfl, hparse⟩ := Op.start_bringing hst.symm hb
        refine ⟨payload, ?_, hparse⟩
        rw [sentPayload_snoc, h.unsent j hnone]
        simp [sentPayload]
      · obtain ⟨payload, hp, hparse⟩ := h.parsed j pc request hold hb
        exact ⟨payload, sentPayload_mono hp, hparse⟩
    · intro e he
      rw [entries_snoc_none rfl] at he
      obtain ⟨payload, hp, hparse⟩ := h.entered e he
      exact ⟨payload, sentPayload_mono hp, hparse⟩
  · refine ⟨?_, ?_, ?_⟩
    · intro j hj
      have hne : j ≠ id := by
        rintro rfl
        rw [Sys.setCall_self] at hj
        cases hj
      rw [Sys.setCall_other _ _ _ hne] at hj
      rw [sentPayload_snoc, h.unsent j hj]
      simp [sentPayload]
    · intro j pc' request hj hb
      rcases Sys.setCall_calls_eq hj with ⟨rfl, rfl⟩ | ⟨-, hold⟩
      · obtain ⟨payload, hp, hparse⟩ := h.parsed j pc request hpc (ha.bringing hb)
        exact ⟨payload, sentPayload_mono hp, hparse⟩
      · obtain ⟨payload, hp, hparse⟩ := h.parsed j pc' request hold hb
        exact ⟨payload, sentPayload_mono hp, hparse⟩
    · intro e he
      -- a new entry is the request its call was bringing
      have hcase : e ∈ entries ls ∨ ∃ ref, pc = .inferPolicy e.2 ref ∧ e.1 = id := by
        cases hent : (Label.step id pc ch next).entry with
        | none =>
            rw [entries_snoc_none hent] at he
            exact .inl he
        | some e' =>
            rw [entries_snoc_some hent, List.mem_append, List.mem_singleton] at he
            rcases he with he | rfl
            · exact .inl he
            · right
              cases pc <;> cases hent
              exact ⟨_, rfl, rfl⟩
      rcases hcase with hold | ⟨ref, rfl, hid⟩
      · obtain ⟨payload, hp, hparse⟩ := h.entered e hold
        exact ⟨payload, sentPayload_mono hp, hparse⟩
      · obtain ⟨payload, hp, hparse⟩ := h.parsed id _ e.2 hpc rfl
        rw [hid]
        exact ⟨payload, sentPayload_mono hp, hparse⟩

theorem RuntimeRun.sentInv {cfg : RuntimeConfig} {nx : Numerics} {ls : List Label} {s : Sys}
    (h : RuntimeRun cfg nx ls s) : SentInv nx ls s := by
  refine TransitionSystem.Run.invariant (SentInv nx) ?_ ?_ h
  · rintro s ⟨dirs, rfl⟩
    exact ⟨fun _ _ => rfl, by simp, by simp [entries]⟩
  · intro ls s l s' _ hinv hstep
    exact hinv.step hstep

/-- The calls a script makes are the calls of its run. -/
theorem Sys.replay_sent {cfg : RuntimeConfig} {nx : Numerics} {s s' : Sys} {ms : List Move}
    {ls : List Label} (h : s.replay cfg nx ms = some (ls, s')) (id : Nat) :
    sentPayload ls id = ms.findSome? fun
      | .call i (.infer payload) => if i = id then some payload else none
      | _ => none := by
  induction ms generalizing s ls with
  | nil =>
      cases h
      rfl
  | cons m ms ih =>
      simp only [Sys.replay] at h
      split at h
      · cases h
      · rename_i l s₁ hm
        obtain ⟨⟨ls', s''⟩, hr, he⟩ := Option.map_eq_some_iff.mp h
        cases he
        have htail := ih hr
        unfold sentPayload at htail ⊢
        rw [List.findSome?_cons, List.findSome?_cons, htail]
        cases m with
        | call i op =>
            simp only [Sys.move] at hm
            split at hm
            · cases hm
              cases op <;> rfl
            · cases hm
        | step i ch =>
            simp only [Sys.move] at hm
            split at hm
            · obtain ⟨p, -, hl⟩ := Option.map_eq_some_iff.mp hm
              cases hl
              rfl
            · cases hm

/-! ## §5. Exactly once. -/

/-- **Exactly-once admission.**  In every run that returns fresh session ids
the policy is entered, under every session, with the sequence numbers
0, 1, …, k-1 in this order; and the payloads of the calls that enter it are
pairwise distinct. -/
theorem inference_exactly_once {cfg : RuntimeConfig} {nx : Numerics} {ls : List Label} {s : Sys}
    (h : RuntimeRun cfg nx ls s) (hfresh : (openedIds ls).Nodup) :
    (∀ session_id, ∃ k, enteredSequences ls session_id = (List.range k).map Int.ofNat) ∧
    (∀ e ∈ entries ls, ∃ payload, sentPayload ls e.1 = some payload) ∧
    ((entries ls).map fun e => sentPayload ls e.1).Nodup := by
  have honce := RuntimeRun.onceInv h hfresh
  have hsent := RuntimeRun.sentInv h
  refine ⟨fun session_id => ⟨_, honce.ranges session_id⟩, ?_, ?_⟩
  · intro e he
    obtain ⟨payload, hp, -⟩ := hsent.entered e he
    exact ⟨payload, hp⟩
  · -- a payload determines session and sequence number, and those are distinct
    have hpairs : ((entries ls).map fun e => (e.2.session_id, e.2.sequence)).Nodup := by
      apply Keyed.nodup_pairs
      intro session_id
      have := honce.ranges session_id
      unfold enteredSequences firstSequences at this
      rw [this]
      exact List.nodup_range.map fun _ _ h => Int.ofNat.inj h
    have hkey : (entries ls).map (fun e => (sentPayload ls e.1).map fun payload =>
          (InferenceRequest.parse nx.repr_fits payload).toOption.map fun r =>
            (r.session_id, r.sequence))
        = (entries ls).map fun e => some (some (e.2.session_id, e.2.sequence)) := by
      apply List.map_congr_left
      intro e he
      obtain ⟨payload, hp, hparse⟩ := hsent.entered e he
      simp [hp, hparse, Except.toOption]
    apply List.Nodup.of_map (fun v : Option Value => v.map fun payload =>
      (InferenceRequest.parse nx.repr_fits payload).toOption.map fun r => (r.session_id, r.sequence))
    rw [List.map_map]
    show ((entries ls).map (fun e => (sentPayload ls e.1).map fun payload =>
      (InferenceRequest.parse nx.repr_fits payload).toOption.map fun r =>
        (r.session_id, r.sequence))).Nodup
    rw [hkey]
    have := hpairs.map (f := fun p => some (some p)) (by
      intro a b hab
      simpa using hab)
    rw [List.map_map] at this
    exact this

/-- Two requests and a replay of each: two entries, with the numbers 0 and 1. -/
theorem inference_exactly_once_replay : ∃ ls s,
    RuntimeRun defaultConfig constNumerics ls s ∧ (entries ls).length = 2 ∧
      (∃ k, enteredSequences ls sampleId = (List.range k).map Int.ofNat) ∧
      ((entries ls).map fun e => sentPayload ls e.1).Nodup := by
  obtain ⟨ls, s, hrun, hp⟩ := Sys.exists_run defaultConfig constNumerics (fun _ => none)
    (warmUp sampleId sampleToken ++ inferMoves 3 0 ++ refusedMoves 4 0 ++ inferMoves 5 1
      ++ refusedMoves 6 1)
    (fun ls _ => decide ((openedIds ls).Nodup ∧ (entries ls).length = 2)) (by decide +kernel)
  obtain ⟨hfresh, hlen⟩ := of_decide_eq_true hp
  obtain ⟨hranges, -, hnodup⟩ := inference_exactly_once hrun hfresh
  exact ⟨ls, s, hrun, hlen, hranges sampleId, hnodup⟩

end OvenRuntime
