/-
  Lib.TransitionSystem
  ────────────────────
  Labelled transition systems, their finite paths and the invariant rule.

  A system is an initial predicate and a step relation whose labels record
  WHAT a step did.  A `Path` is a finite sequence of steps between two states,
  with the labels in the order they happened; a `Run` is a path from an
  initial state, i.e. a reachable state together with the history that led to
  it.  Safety is proved once, by `Run.invariant`: a predicate of history and
  state that holds initially and survives every step holds at the end of
  every run.
-/
import Mathlib.Data.List.Induction

namespace TransitionSystem

/-- A labelled transition system. -/
structure System (σ ℓ : Type*) where
  /-- The states a run may start in. -/
  init : σ → Prop
  /-- One atomic step and its label. -/
  step : σ → ℓ → σ → Prop

variable {σ ℓ : Type*} {M : System σ ℓ}

/-! ## §1. Paths. -/

/-- Finite paths, extended at the end so that an induction peels the LAST
step, the one whose effect an invariant has to survive. -/
inductive Path (M : System σ ℓ) : σ → List ℓ → σ → Prop
  | nil (s : σ) : Path M s [] s
  | snoc {s s' s'' : σ} {ls : List ℓ} {l : ℓ} :
      Path M s ls s' → M.step s' l s'' → Path M s (ls ++ [l]) s''

theorem Path.single {s s' : σ} {l : ℓ} (h : M.step s l s') : Path M s [l] s' := by
  simpa using Path.snoc (Path.nil s) h

/-- Paths compose. -/
theorem Path.append {s s' s'' : σ} {ls ls' : List ℓ}
    (h : Path M s ls s') (h' : Path M s' ls' s'') : Path M s (ls ++ ls') s'' := by
  induction h' with
  | nil => simpa using h
  | snoc _ hstep ih =>
      rw [← List.append_assoc]
      exact Path.snoc ih hstep

/-- A step in front of a path. -/
theorem Path.cons {s s' s'' : σ} {l : ℓ} {ls : List ℓ}
    (h : M.step s l s') (h' : Path M s' ls s'') : Path M s (l :: ls) s'' := by
  have := (Path.single h).append h'
  simpa using this

/-- A path over a concatenation passes through an intermediate state. -/
theorem Path.split {s s'' : σ} {ls ls' : List ℓ} (h : Path M s (ls ++ ls') s'') :
    ∃ s', Path M s ls s' ∧ Path M s' ls' s'' := by
  induction ls' using List.reverseRecOn generalizing s'' with
  | nil => exact ⟨s'', by simpa using h, Path.nil s''⟩
  | append_singleton ls' l ih =>
      rw [← List.append_assoc] at h
      generalize hk : (ls ++ ls') ++ [l] = k at h
      cases h with
      | nil => simp at hk
      | snoc hp hs =>
          obtain ⟨rfl, hl⟩ := List.append_inj' hk rfl
          simp only [List.cons.injEq, and_true] at hl
          subst hl
          obtain ⟨s', h1, h2⟩ := ih hp
          exact ⟨s', h1, Path.snoc h2 hs⟩

/-- The step a one-label path consists of. -/
theorem Path.single_inv {s s' : σ} {l : ℓ} (h : Path M s [l] s') : M.step s l s' := by
  generalize hk : [l] = k at h
  cases h with
  | nil => simp at hk
  | snoc hp hs =>
      rename_i ls _
      cases ls with
      | nil =>
          simp only [List.nil_append, List.cons.injEq, and_true] at hk
          subst hk
          generalize hn : ([] : List ℓ) = n at hp
          cases hp with
          | nil => exact hs
          | snoc => simp at hn
      | cons a as => simp at hk

/-- The first step of a path. -/
theorem Path.cons_inv {s s'' : σ} {l : ℓ} {ls : List ℓ} (h : Path M s (l :: ls) s'') :
    ∃ s', M.step s l s' ∧ Path M s' ls s'' := by
  obtain ⟨s', hfirst, hrest⟩ := (show Path M s ([l] ++ ls) s'' from h).split
  exact ⟨s', hfirst.single_inv, hrest⟩

theorem Path.nil_inv {s s' : σ} (h : Path M s [] s') : s' = s := by
  generalize hk : ([] : List ℓ) = ls at h
  cases h with
  | nil => rfl
  | snoc => simp at hk

/-- A predicate every step preserves is preserved by every path. -/
theorem Path.preserves (P : σ → Prop)
    (hstep : ∀ s l s', P s → M.step s l s' → P s')
    {s s' : σ} {ls : List ℓ} (h : Path M s ls s') (hs : P s) : P s' := by
  induction h with
  | nil => exact hs
  | snoc _ hst ih => exact hstep _ _ _ ih hst

/-! ## §2. Runs and the invariant rule. -/

/-- A history from some initial state, and the state it ends in. -/
def Run (M : System σ ℓ) (ls : List ℓ) (s : σ) : Prop :=
  ∃ s₀, M.init s₀ ∧ Path M s₀ ls s

theorem Run.start {s : σ} (h : M.init s) : Run M [] s := ⟨s, h, Path.nil s⟩

theorem Run.extend {ls ls' : List ℓ} {s s' : σ} (h : Run M ls s)
    (hp : Path M s ls' s') : Run M (ls ++ ls') s' := by
  obtain ⟨s₀, h0, hr⟩ := h
  exact ⟨s₀, h0, hr.append hp⟩

theorem Run.snoc {ls : List ℓ} {l : ℓ} {s s' : σ} (h : Run M ls s)
    (hst : M.step s l s') : Run M (ls ++ [l]) s' :=
  h.extend (Path.single hst)

/-- Every prefix of a run is a run, and the rest is a path from its end. -/
theorem Run.split {ls ls' : List ℓ} {s : σ} (h : Run M (ls ++ ls') s) :
    ∃ s', Run M ls s' ∧ Path M s' ls' s := by
  obtain ⟨s₀, h0, hr⟩ := h
  obtain ⟨s', h1, h2⟩ := hr.split
  exact ⟨s', ⟨s₀, h0, h1⟩, h2⟩

/-- **The invariant rule.**  A predicate of history and state that holds of
the empty history in every initial state and survives every step of a run
holds at the end of every run. -/
theorem Run.invariant (I : List ℓ → σ → Prop)
    (hinit : ∀ s, M.init s → I [] s)
    (hstep : ∀ ls s l s', Run M ls s → I ls s → M.step s l s' → I (ls ++ [l]) s')
    {ls : List ℓ} {s : σ} (h : Run M ls s) : I ls s := by
  obtain ⟨s₀, h0, hr⟩ := h
  induction hr with
  | nil => exact hinit _ h0
  | snoc hp hst ih => exact hstep _ _ _ _ ⟨_, h0, hp⟩ ih hst

/-- The invariant rule for predicates of the state alone. -/
theorem Run.invariant_state (I : σ → Prop)
    (hinit : ∀ s, M.init s → I s)
    (hstep : ∀ s l s', I s → M.step s l s' → I s')
    {ls : List ℓ} {s : σ} (h : Run M ls s) : I s :=
  Run.invariant (fun _ s => I s) hinit (fun _ s l s' _ hi hs => hstep s l s' hi hs) h

/-! ## §3. Every step of a run. -/

/-- Every step taken on the way to `s` by `ls` has the property, as a
property of the history before it, its label and its two states. -/
def EveryStep (M : System σ ℓ) (P : List ℓ → σ → ℓ → σ → Prop) (ls : List ℓ) (s : σ) : Prop :=
  ∀ ls₁ l ls₂ s₁ s₂, ls = ls₁ ++ l :: ls₂ → Run M ls₁ s₁ → M.step s₁ l s₂ →
    Path M s₂ ls₂ s → P ls₁ s₁ l s₂

variable {P Q : List ℓ → σ → ℓ → σ → Prop} {ls : List ℓ} {l : ℓ} {s s' : σ}

theorem EveryStep.mono (h : EveryStep M P ls s)
    (himp : ∀ ls₁ s₁ l s₂, Run M ls₁ s₁ → M.step s₁ l s₂ → P ls₁ s₁ l s₂ → Q ls₁ s₁ l s₂) :
    EveryStep M Q ls s := by
  intro ls₁ l ls₂ s₁ s₂ hls hrun hstep hpath
  exact himp ls₁ s₁ l s₂ hrun hstep (h ls₁ l ls₂ s₁ s₂ hls hrun hstep hpath)

/-- The steps of a run and of its beginning. -/
theorem EveryStep.init (h : EveryStep M P (ls ++ [l]) s') (hst : M.step s l s') :
    EveryStep M P ls s := by
  intro ls₁ k ls₂ s₁ s₂ hls hrun hstep hpath
  refine h ls₁ k (ls₂ ++ [l]) s₁ s₂ ?_ hrun hstep (hpath.snoc hst)
  rw [hls]
  simp

theorem EveryStep.last (h : EveryStep M P (ls ++ [l]) s') (hrun : Run M ls s)
    (hst : M.step s l s') : P ls s l s' :=
  h ls l [] s s' rfl hrun hst (Path.nil s')

/-- The invariant rule for runs whose steps all have a property. -/
theorem EveryStep.invariant (I : σ → Prop) (hinit : ∀ s, M.init s → I s)
    (hstep : ∀ ls s l s', I s → P ls s l s' → M.step s l s' → I s')
    (hrun : Run M ls s) (h : EveryStep M P ls s) : I s := by
  refine Run.invariant (fun ls s => EveryStep M P ls s → I s) ?_ ?_ hrun h
  · intro s hs _
    exact hinit s hs
  · intro ls s l s' hrun hi hst hall
    exact hstep ls s l s' (hi (hall.init hst)) (hall.last hrun hst) hst

/-- The steps before a step of a run. -/
theorem EveryStep.before {ls₁ ls₂ : List ℓ} {s₁ s₂ : σ} (h : EveryStep M P ls s)
    (hls : ls = ls₁ ++ l :: ls₂) (hst : M.step s₁ l s₂) (hpath : Path M s₂ ls₂ s) :
    EveryStep M P ls₁ s₁ := by
  intro ls₃ k ls₄ s₃ s₄ hls₁ hrun hstep hbetween
  refine h ls₃ k (ls₄ ++ l :: ls₂) s₃ s₄ ?_ hrun hstep (hbetween.append (.cons hst hpath))
  rw [hls, hls₁]
  simp

/-! ## §4. Forgetting part of the state. -/

variable {σ' : Type*} {N : System σ' ℓ}

/-- A map under which steps are steps takes paths to paths. -/
theorem Path.map (f : σ' → σ) (hstep : ∀ t l t', N.step t l t' → M.step (f t) l (f t'))
    {t t' : σ'} {ls : List ℓ} (h : Path N t ls t') : Path M (f t) ls (f t') := by
  induction h with
  | nil => exact .nil _
  | snoc _ hst ih => exact ih.snoc (hstep _ _ _ hst)

/-- **Projection**: if also initial states are initial, it takes runs to runs. -/
theorem Run.map (f : σ' → σ) (hinit : ∀ t, N.init t → M.init (f t))
    (hstep : ∀ t l t', N.step t l t' → M.step (f t) l (f t'))
    {ls : List ℓ} {t : σ'} (h : Run N ls t) : Run M ls (f t) := by
  obtain ⟨t₀, h0, hp⟩ := h
  exact ⟨f t₀, hinit t₀ h0, hp.map f hstep⟩

end TransitionSystem
