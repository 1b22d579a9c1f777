/-
  Lib.EffectProgram
  ─────────────────
  Programs that call components.

  A program is a tree: it ends, or it calls a component and goes on with what
  the call returned or raised.  `Program` adds a local state and exceptions
  that keep it.  What the components do is not part of the program but of an
  environment, a relation on a world of any type; `Runs` says which traces of
  calls a program leaves in it.  The rules of §2 take a run of each construct
  apart; §3 has two properties that are `Compositional`, so that a program has
  them as soon as its parts have them:

    `Preserves` — an invariant over the calls made so far, the state and the
                  world;
    `Straight`  — a call that raises is the last one.

  §4 is about programs that clean up: every planned call is made although
  calls before it raise, unless the exception is a fatal one.  §5 runs a
  program against scripted answers.
-/
import Mathlib.Logic.Basic
import Mathlib.Data.List.Forall2

namespace EffectProgram

/-! ## §1. Programs, environments, runs. -/

/-- A program over calls `E` with answers `R` and exceptions `ε`. -/
inductive Prog (E : Type) (R : E → Type) (ε : Type) (α : Type) where
  | ret (a : α)
  | call (e : E) (next : Except ε (R e) → Prog E R ε α)

variable {E : Type} {R : E → Type} {ε S W α β : Type}

/-- Go on with `f` where the first program returns. -/
def Prog.bind : Prog E R ε α → (α → Prog E R ε β) → Prog E R ε β
  | .ret a, f => f a
  | .call e next, f => .call e fun out => (next out).bind f

/-- A call and what it returned or raised. -/
structure Event (E : Type) (R : E → Type) (ε : Type) where
  call : E
  outcome : Except ε (R call)

/-- How the components answer a call and change the world. -/
abbrev Environment (E : Type) (R : E → Type) (ε W : Type) : Type :=
  (e : E) → W → Except ε (R e) → W → Prop

/-- A program runs to its end and leaves a trace. -/
inductive Exec (env : Environment E R ε W) :
    Prog E R ε α → W → List (Event E R ε) → α → W → Prop
  | ret (a : α) (w : W) : Exec env (.ret a) w [] a w
  | call {e : E} {next : Except ε (R e) → Prog E R ε α} {w w' w'' : W}
      {out : Except ε (R e)} {t : List (Event E R ε)} {a : α} :
      env e w out w' → Exec env (next out) w' t a w'' →
      Exec env (.call e next) w (⟨e, out⟩ :: t) a w''

/-- A program with a local state that may raise; an exception keeps the state. -/
def Program (E : Type) (R : E → Type) (ε S α : Type) : Type :=
  S → Prog E R ε (Except ε α × S)

namespace Program

instance : Monad (Program E R ε S) where
  pure a := fun s => .ret (.ok a, s)
  bind m f := fun s => (m s).bind fun r =>
    match r with
    | (.ok a, s) => f a s
    | (.error x, s) => .ret (.error x, s)

/-- Call a component. -/
def perform (e : E) : Program E R ε S (R e) := fun s => .call e fun out => .ret (out, s)

/-- Raise an exception. -/
def raise (x : ε) : Program E R ε S α := fun s => .ret (.error x, s)

/-- Read the state. -/
def read : Program E R ε S S := fun s => .ret (.ok s, s)

/-- Change the state. -/
def update (f : S → S) : Program E R ε S Unit := fun s => .ret (.ok (), f s)

/-- Go on with a value or an exception. -/
def lift (r : Except ε α) : Program E R ε S α := fun s => .ret (r, s)

/-- Raise unless the condition holds. -/
def require (b : Bool) (x : ε) : Program E R ε S Unit := if b then pure () else raise x

/-- `try`: the handler runs in the state at the exception. -/
def attempt (m : Program E R ε S α) (handler : ε → Program E R ε S α) : Program E R ε S α :=
  fun s => (m s).bind fun r =>
    match r with
    | (.ok a, s) => .ret (.ok a, s)
    | (.error x, s) => handler x s

end Program

/-- It does not matter how three programs in a row are bracketed. -/
theorem Prog.bind_assoc {γ : Type} (m : Prog E R ε α) (f : α → Prog E R ε β)
    (g : β → Prog E R ε γ) : (m.bind f).bind g = m.bind fun a => (f a).bind g := by
  induction m with
  | ret a => rfl
  | call e next ih =>
      show Prog.call e (fun out => ((next out).bind f).bind g) = Prog.call e _
      congr 1
      funext out
      exact ih out

/-- Sequences associate. -/
theorem Program.bind_assoc {γ : Type} (m : Program E R ε S α) (f : α → Program E R ε S β)
    (g : β → Program E R ε S γ) : (m >>= f) >>= g = m >>= fun a => f a >>= g := by
  funext s
  refine (Prog.bind_assoc _ _ _).trans ?_
  show Prog.bind (m s) _ = Prog.bind (m s) _
  congr 1
  funext r
  rcases r with ⟨a | x, s⟩ <;> rfl

/-- A program run from a state and a world leaves a trace, a result, a state
and a world. -/
def Runs (env : Environment E R ε W) (m : Program E R ε S α) (s : S) (w : W)
    (t : List (Event E R ε)) (r : Except ε α) (s' : S) (w' : W) : Prop :=
  Exec env (m s) w t (r, s') w'

/-! ## §2. Taking runs apart. -/

section Rules

variable {env : Environment E R ε W} {s s' : S} {w w' : W} {t : List (Event E R ε)}

/-- A program that returns makes no call. -/
theorem exec_ret {a b : α} : Exec env (.ret a) w t b w' ↔ t = [] ∧ b = a ∧ w' = w := by
  constructor
  · intro h
    cases h
    exact ⟨rfl, rfl, rfl⟩
  · rintro ⟨rfl, rfl, rfl⟩
    exact .ret _ _

/-- A program that calls is answered first, and goes on with the answer. -/
theorem exec_call {e : E} {next : Except ε (R e) → Prog E R ε α} {a : α} :
    Exec env (.call e next) w t a w' ↔
      ∃ out w₁ t₁, t = ⟨e, out⟩ :: t₁ ∧ env e w out w₁ ∧ Exec env (next out) w₁ t₁ a w' := by
  constructor
  · intro h
    cases h with
    | call henv hrest => exact ⟨_, _, _, rfl, henv, hrest⟩
  · rintro ⟨out, w₁, t₁, rfl, henv, hrest⟩
    exact .call henv hrest

/-- The trace of a sequence is cut where its first part ends. -/
theorem exec_bind {m : Prog E R ε α} {f : α → Prog E R ε β} {b : β} :
    Exec env (m.bind f) w t b w' ↔
      ∃ a w₁ t₁ t₂, t = t₁ ++ t₂ ∧ Exec env m w t₁ a w₁ ∧ Exec env (f a) w₁ t₂ b w' := by
  induction m generalizing w t with
  | ret a =>
      show Exec env (f a) w t b w' ↔ _
      constructor
      · intro h
        exact ⟨a, w, [], t, rfl, .ret a w, h⟩
      · rintro ⟨a', w₁, t₁, t₂, rfl, h₁, h₂⟩
        obtain ⟨rfl, rfl, rfl⟩ := exec_ret.mp h₁
        exact h₂
  | call e next ih =>
      show Exec env (.call e fun out => (next out).bind f) w t b w' ↔ _
      rw [exec_call]
      constructor
      · rintro ⟨out, w₁, t₁, rfl, henv, hrest⟩
        obtain ⟨a, w₂, t₂, t₃, rfl, h₁, h₂⟩ := (ih out).mp hrest
        exact ⟨a, w₂, ⟨e, out⟩ :: t₂, t₃, rfl, .call henv h₁, h₂⟩
      · rintro ⟨a, w₂, t₂, t₃, rfl, h₁, h₂⟩
        obtain ⟨out, w₁, t₁, rfl, henv, hrest⟩ := exec_call.mp h₁
        exact ⟨out, w₁, t₁ ++ t₃, rfl, henv, (ih out).mpr ⟨a, w₂, t₁, t₃, rfl, hrest, h₂⟩⟩

/-- Returning makes no call and leaves the state. -/
theorem runs_pure {a : α} {r : Except ε α} :
    Runs env (pure a : Program E R ε S α) s w t r s' w' ↔
      t = [] ∧ r = .ok a ∧ s' = s ∧ w' = w := by
  show Exec env (.ret (.ok a, s)) w t (r, s') w' ↔ _
  rw [exec_ret, Prod.mk.injEq, and_assoc]

/-- So does raising. -/
theorem runs_raise {x : ε} {r : Except ε α} :
    Runs env (Program.raise x : Program E R ε S α) s w t r s' w' ↔
      t = [] ∧ r = .error x ∧ s' = s ∧ w' = w := by
  show Exec env (.ret (.error x, s)) w t (r, s') w' ↔ _
  rw [exec_ret, Prod.mk.injEq, and_assoc]

/-- So does a pure computation, whatever it comes to. -/
theorem runs_lift {a r : Except ε α} :
    Runs env (Program.lift a : Program E R ε S α) s w t r s' w' ↔
      t = [] ∧ r = a ∧ s' = s ∧ w' = w := by
  show Exec env (.ret (a, s)) w t (r, s') w' ↔ _
  rw [exec_ret, Prod.mk.injEq, and_assoc]

/-- Reading the state makes no call. -/
theorem runs_read {r : Except ε S} :
    Runs env (Program.read : Program E R ε S S) s w t r s' w' ↔
      t = [] ∧ r = .ok s ∧ s' = s ∧ w' = w := by
  show Exec env (.ret (.ok s, s)) w t (r, s') w' ↔ _
  rw [exec_ret, Prod.mk.injEq, and_assoc]

/-- Updating the state makes no call and does not raise. -/
theorem runs_update {f : S → S} {r : Except ε Unit} :
    Runs env (Program.update f : Program E R ε S Unit) s w t r s' w' ↔
      t = [] ∧ r = .ok () ∧ s' = f s ∧ w' = w := by
  show Exec env (.ret (.ok (), f s)) w t (r, s') w' ↔ _
  rw [exec_ret, Prod.mk.injEq, and_assoc]

/-- A check raises if it fails, and makes no call. -/
theorem runs_require {b : Bool} {x : ε} {r : Except ε Unit} :
    Runs env (Program.require b x : Program E R ε S Unit) s w t r s' w' ↔
      t = [] ∧ r = (if b then .ok () else .error x) ∧ s' = s ∧ w' = w := by
  unfold Program.require
  cases b with
  | true => exact runs_pure
  | false => exact runs_raise

/-- A call leaves one event. -/
theorem runs_perform {e : E} {r : Except ε (R e)} :
    Runs env (Program.perform e : Program E R ε S (R e)) s w t r s' w' ↔
      t = [⟨e, r⟩] ∧ s' = s ∧ env e w r w' := by
  show Exec env (.call e fun out => .ret (out, s)) w t (r, s') w' ↔ _
  rw [exec_call]
  constructor
  · rintro ⟨out, w₁, t₁, rfl, henv, hrest⟩
    obtain ⟨rfl, hr, rfl⟩ := exec_ret.mp hrest
    cases hr
    exact ⟨rfl, rfl, henv⟩
  · rintro ⟨rfl, rfl, henv⟩
    exact ⟨r, w', [], rfl, henv, .ret _ _⟩

/-- A sequence raises in its first part, or goes on from where it ends. -/
theorem runs_bind {m : Program E R ε S α} {f : α → Program E R ε S β} {r : Except ε β} :
    Runs env (m >>= f) s w t r s' w' ↔
      (∃ x, Runs env m s w t (.error x) s' w' ∧ r = .error x) ∨
      (∃ a s₁ w₁ t₁ t₂, t = t₁ ++ t₂ ∧ Runs env m s w t₁ (.ok a) s₁ w₁ ∧
        Runs env (f a) s₁ w₁ t₂ r s' w') := by
  show Exec env ((m s).bind _) w t (r, s') w' ↔ _
  rw [exec_bind]
  constructor
  · rintro ⟨⟨out, s₁⟩, w₁, t₁, t₂, rfl, h₁, h₂⟩
    cases out with
    | ok a => exact .inr ⟨a, s₁, w₁, t₁, t₂, rfl, h₁, h₂⟩
    | error x =>
        obtain ⟨rfl, hr, rfl⟩ := exec_ret.mp h₂
        cases hr
        rw [List.append_nil]
        exact .inl ⟨x, h₁, rfl⟩
  · rintro (⟨x, h₁, rfl⟩ | ⟨a, s₁, w₁, t₁, t₂, rfl, h₁, h₂⟩)
    · exact ⟨(.error x, s'), w', t, [], by simp, h₁, .ret _ _⟩
    · exact ⟨(.ok a, s₁), w₁, t₁, t₂, rfl, h₁, h₂⟩

/-- A read in front is the program at the state it reads. -/
theorem runs_read_bind {f : S → Program E R ε S β} {r : Except ε β} :
    Runs env (Program.read >>= f) s w t r s' w' ↔ Runs env (f s) s w t r s' w' := Iff.rfl

/-- An update in front is the program from the updated state. -/
theorem runs_update_bind {g : S → S} {f : Unit → Program E R ε S β} {r : Except ε β} :
    Runs env (Program.update g >>= f) s w t r s' w' ↔ Runs env (f ()) (g s) w t r s' w' :=
  Iff.rfl

/-- A computation that comes out right in front is the program at its result. -/
theorem runs_lift_bind {a : α} {f : α → Program E R ε S β} {r : Except ε β} :
    Runs env (Program.lift (.ok a) >>= f) s w t r s' w' ↔ Runs env (f a) s w t r s' w' :=
  Iff.rfl

/-- A sequence that returns has run all its parts. -/
theorem runs_bind_ok {m : Program E R ε S α} {f : α → Program E R ε S β} {b : β}
    (h : Runs env (m >>= f) s w t (.ok b) s' w') :
    ∃ a s₁ w₁ t₁ t₂, t = t₁ ++ t₂ ∧ Runs env m s w t₁ (.ok a) s₁ w₁ ∧
      Runs env (f a) s₁ w₁ t₂ (.ok b) s' w' := by
  rcases runs_bind.mp h with ⟨x, -, hr⟩ | hok
  · cases hr
  · exact hok

/-- A `try` ends as its body does, unless the body raises. -/
theorem runs_attempt {m : Program E R ε S α} {handler : ε → Program E R ε S α} {r : Except ε α} :
    Runs env (Program.attempt m handler) s w t r s' w' ↔
      (∃ a, Runs env m s w t (.ok a) s' w' ∧ r = .ok a) ∨
      (∃ x s₁ w₁ t₁ t₂, t = t₁ ++ t₂ ∧ Runs env m s w t₁ (.error x) s₁ w₁ ∧
        Runs env (handler x) s₁ w₁ t₂ r s' w') := by
  show Exec env ((m s).bind _) w t (r, s') w' ↔ _
  rw [exec_bind]
  constructor
  · rintro ⟨⟨out, s₁⟩, w₁, t₁, t₂, rfl, h₁, h₂⟩
    cases out with
    | ok a =>
        obtain ⟨rfl, hr, rfl⟩ := exec_ret.mp h₂
        cases hr
        rw [List.append_nil]
        exact .inl ⟨a, h₁, rfl⟩
    | error x => exact .inr ⟨x, s₁, w₁, t₁, t₂, rfl, h₁, h₂⟩
  · rintro (⟨a, h₁, rfl⟩ | ⟨x, s₁, w₁, t₁, t₂, rfl, h₁, h₂⟩)
    · exact ⟨(.ok a, s'), w', t, [], by simp, h₁, .ret _ _⟩
    · exact ⟨(.error x, s₁), w₁, t₁, t₂, rfl, h₁, h₂⟩

end Rules

/-- What runs among fewer answers runs among more. -/
theorem Exec.mono {env env' : Environment E R ε W}
    (hle : ∀ e w out w', env e w out w' → env' e w out w') {p : Prog E R ε α} {w w' : W}
    {t : List (Event E R ε)} {a : α} (h : Exec env p w t a w') : Exec env' p w t a w' := by
  induction h with
  | ret a w => exact .ret a w
  | call henv _ ih => exact .call (hle _ _ _ _ henv) ih

/-- What a program does in one environment it does in every larger one. -/
theorem Runs.mono {env env' : Environment E R ε W}
    (hle : ∀ e w out w', env e w out w' → env' e w out w') {m : Program E R ε S α} {s s' : S}
    {w w' : W} {t : List (Event E R ε)} {r : Except ε α} (h : Runs env m s w t r s' w') :
    Runs env' m s w t r s' w' :=
  Exec.mono hle h

/-! ## §3. Properties that compose. -/

/-- A property of programs that passes from parts to the whole. -/
structure Compositional (Q : {α : Type} → Program E R ε S α → Prop) : Prop where
  bind : ∀ {α β : Type} {m : Program E R ε S α} {f : α → Program E R ε S β},
    Q m → (∀ a, Q (f a)) → Q (m >>= f)
  lift : ∀ {α : Type} (r : Except ε α), Q (Program.lift r)
  read : Q Program.read

/-- A compositional property holds of returning. -/
theorem Compositional.pure {Q : {α : Type} → Program E R ε S α → Prop} (h : Compositional Q)
    (a : α) : Q (Pure.pure a) := h.lift (.ok a)

/-- It holds of raising. -/
theorem Compositional.raise {Q : {α : Type} → Program E R ε S α → Prop} (h : Compositional Q)
    (x : ε) : Q (Program.raise x : Program E R ε S α) := h.lift (.error x)

/-- It holds of a check. -/
theorem Compositional.require {Q : {α : Type} → Program E R ε S α → Prop}
    (h : Compositional Q) (b : Bool) (x : ε) : Q (Program.require b x) := by
  unfold Program.require
  cases b with
  | true => exact h.pure ()
  | false => exact h.raise x

/-- The invariant `J`, over the calls made so far, the state and the world,
survives the program, however it ends. -/
def Preserves (env : Environment E R ε W) (J : List (Event E R ε) → S → W → Prop)
    (m : Program E R ε S α) : Prop :=
  ∀ past s w t r s' w', J past s w → Runs env m s w t r s' w' → J (past ++ t) s' w'

section Preserves

variable {env : Environment E R ε W} {J : List (Event E R ε) → S → W → Prop}

/-- Two programs in a row keep what both of them keep. -/
theorem Preserves.bind {m : Program E R ε S α} {f : α → Program E R ε S β}
    (hm : Preserves env J m) (hf : ∀ a, Preserves env J (f a)) : Preserves env J (m >>= f) := by
  intro past s w t r s' w' hJ hrun
  rcases runs_bind.mp hrun with ⟨x, h, -⟩ | ⟨a, s₁, w₁, t₁, t₂, rfl, h₁, h₂⟩
  · exact hm past s w t _ s' w' hJ h
  · rw [← List.append_assoc]
    exact hf a _ _ _ _ _ _ _ (hm past s w t₁ _ s₁ w₁ hJ h₁) h₂

/-- A pure computation keeps everything. -/
theorem Preserves.lift (r : Except ε α) : Preserves env J (Program.lift r) := by
  intro past s w t r' s' w' hJ hrun
  obtain ⟨rfl, -, rfl, rfl⟩ := runs_lift.mp hrun
  rw [List.append_nil]
  exact hJ

/-- So does a read. -/
theorem Preserves.read : Preserves env J Program.read := by
  intro past s w t r s' w' hJ hrun
  obtain ⟨rfl, -, rfl, rfl⟩ := runs_read.mp hrun
  rw [List.append_nil]
  exact hJ

/-- So it is enough to look at the calls and the updates of a program. -/
theorem Preserves.compositional :
    Compositional fun {α : Type} (m : Program E R ε S α) => Preserves env J m :=
  ⟨Preserves.bind, Preserves.lift, Preserves.read⟩

/-- An update keeps what holds of the updated state. -/
theorem Preserves.update {f : S → S} (h : ∀ past s w, J past s w → J past (f s) w) :
    Preserves env J (Program.update f) := by
  intro past s w t r s' w' hJ hrun
  obtain ⟨rfl, -, rfl, rfl⟩ := runs_update.mp hrun
  rw [List.append_nil]
  exact h _ _ _ hJ

/-- A call keeps what holds of every answer to it. -/
theorem Preserves.perform {e : E}
    (h : ∀ past s w out w', J past s w → env e w out w' → J (past ++ [⟨e, out⟩]) s w') :
    Preserves env J (Program.perform e) := by
  intro past s w t r s' w' hJ hrun
  obtain ⟨rfl, rfl, henv⟩ := runs_perform.mp hrun
  exact h _ _ _ _ _ hJ henv

/-- A `try` preserves what its body and its handler preserve. -/
theorem Preserves.attempt {m : Program E R ε S α} {handler : ε → Program E R ε S α}
    (hm : Preserves env J m) (hhandler : ∀ x, Preserves env J (handler x)) :
    Preserves env J (Program.attempt m handler) := by
  intro past s w t r s' w' hJ hrun
  rcases runs_attempt.mp hrun with ⟨a, h, -⟩ | ⟨x, s₁, w₁, t₁, t₂, rfl, h₁, h₂⟩
  · exact hm past s w t _ s' w' hJ h
  · rw [← List.append_assoc]
    exact hhandler x _ _ _ _ _ _ _ (hm past s w t₁ _ s₁ w₁ hJ h₁) h₂

end Preserves

/-- Only the last call of the program raises, and then the program raises
the same. -/
def Straight (env : Environment E R ε W) (m : Program E R ε S α) : Prop :=
  ∀ s w t r s' w', Runs env m s w t r s' w' → ∀ before ev after x, t = before ++ ev :: after →
    ev.outcome = .error x → after = [] ∧ r = .error x

section Straight

variable {env : Environment E R ε W}

/-- Two programs in a row raise at their last call if each of them does. -/
theorem Straight.bind {m : Program E R ε S α} {f : α → Program E R ε S β}
    (hm : Straight env m) (hf : ∀ a, Straight env (f a)) : Straight env (m >>= f) := by
  intro s w t r s' w' hrun before ev after x ht hx
  rcases runs_bind.mp hrun with ⟨y, h, rfl⟩ | ⟨a, s₁, w₁, t₁, t₂, rfl, h₁, h₂⟩
  · obtain ⟨hafter, hr⟩ := hm s w t _ s' w' h before ev after x ht hx
    cases hr
    exact ⟨hafter, rfl⟩
  · -- the call is one of the first part, which returned, or of the second
    rcases List.append_eq_append_iff.mp ht with ⟨c, hb, hc⟩ | ⟨c, hb, hc⟩
    · exact hf a s₁ w₁ t₂ r s' w' h₂ c ev after x hc hx
    · cases c with
      | nil => exact hf a s₁ w₁ t₂ r s' w' h₂ [] ev after x hc.symm hx
      | cons y c =>
          obtain ⟨rfl, -⟩ := List.cons.inj hc
          have := (hm s w t₁ _ s₁ w₁ h₁ before ev c x hb hx).2
          cases this

/-- A pure computation makes no call it could go on after. -/
theorem Straight.lift (r : Except ε α) :
    Straight env (Program.lift r : Program E R ε S α) := by
  intro s w t r' s' w' hrun before ev after x ht
  obtain ⟨rfl, -⟩ := runs_lift.mp hrun
  simp at ht

/-- Nor does a read. -/
theorem Straight.read : Straight env (Program.read : Program E R ε S S) := by
  intro s w t r' s' w' hrun before ev after x ht
  obtain ⟨rfl, -⟩ := runs_read.mp hrun
  simp at ht

/-- So it is enough to look at the calls of a program. -/
theorem Straight.compositional :
    Compositional fun {α : Type} (m : Program E R ε S α) => Straight env m :=
  ⟨Straight.bind, Straight.lift, Straight.read⟩

/-- Nor does an update. -/
theorem Straight.update (f : S → S) :
    Straight env (Program.update f : Program E R ε S Unit) := by
  intro s w t r' s' w' hrun before ev after x ht
  obtain ⟨rfl, -⟩ := runs_update.mp hrun
  simp at ht

/-- A call is its own last one. -/
theorem Straight.perform (e : E) :
    Straight env (Program.perform e : Program E R ε S (R e)) := by
  intro s w t r s' w' hrun before ev after x ht hx
  obtain ⟨rfl, -⟩ := runs_perform.mp hrun
  cases before with
  | nil =>
      obtain ⟨rfl, rfl⟩ := List.cons.inj ht
      exact ⟨rfl, hx⟩
  | cons y before =>
      have := (List.cons.inj ht).2
      simp at this

end Straight

/-! ## §4. Sweeps. -/

/-- Every planned call is made, in order, and none of them raises a fatal exception. -/
def Swept (fatal : ε → Prop) (plan : List (E → Prop)) (t : List (Event E R ε)) : Prop :=
  List.Forall₂ (fun p ev => p ev.call) plan t ∧
    ∀ ev ∈ t, ∀ x, ev.outcome = .error x → ¬ fatal x

/-- The planned calls are made up to the one that raises the fatal exception `x`. -/
def CutShort (fatal : ε → Prop) (plan : List (E → Prop)) (t : List (Event E R ε)) (x : ε) :
    Prop :=
  ∃ done p rest before last, plan = done ++ p :: rest ∧ t = before ++ [last] ∧
    Swept fatal done before ∧ p last.call ∧ last.outcome = .error x ∧ fatal x

/-- The program carries the plan out, and returns, unless a fatal exception
cuts it short, which it then raises. -/
def Sweeps (env : Environment E R ε W) (fatal : ε → Prop) (plan : List (E → Prop))
    (m : Program E R ε S α) (s : S) (post : S → Prop) : Prop :=
  ∀ w t r s' w', Runs env m s w t r s' w' →
    (Swept fatal plan t ∧ (∃ a, r = .ok a) ∧ post s') ∨
    (∃ x, CutShort fatal plan t x ∧ r = .error x)

section Sweeps

variable {env : Environment E R ε W} {fatal : ε → Prop} {plan plan' : List (E → Prop)}
  {t t' : List (Event E R ε)}

/-- Nothing was planned, and nothing was done. -/
theorem Swept.nil : Swept fatal [] ([] : List (Event E R ε)) := ⟨.nil, by simp⟩

/-- The one planned call was made, and what it raised was not fatal. -/
theorem Swept.single {p : E → Prop} {ev : Event E R ε} (h : p ev.call)
    (hx : ∀ x, ev.outcome = .error x → ¬ fatal x) : Swept fatal [p] [ev] := by
  refine ⟨.cons h .nil, ?_⟩
  intro ev' hev
  rw [List.mem_singleton.mp hev]
  exact hx

/-- One plan was carried out after the other. -/
theorem Swept.append (h : Swept fatal plan t) (h' : Swept fatal plan' t') :
    Swept fatal (plan ++ plan') (t ++ t') := by
  refine ⟨List.rel_append h.1 h'.1, ?_⟩
  intro ev hev
  rcases List.mem_append.mp hev with hev | hev
  · exact h.2 ev hev
  · exact h'.2 ev hev

/-- Every call of a sweep is a planned one. -/
theorem Swept.planned (h : Swept fatal plan t) {ev : Event E R ε} (hev : ev ∈ t) :
    ∃ p ∈ plan, p ev.call := by
  obtain ⟨hcalls, -⟩ := h
  induction hcalls with
  | nil => cases hev
  | cons hp _ ih =>
      rcases List.mem_cons.mp hev with rfl | hev
      · exact ⟨_, List.mem_cons_self .., hp⟩
      · obtain ⟨p, hmem, hp⟩ := ih hev
        exact ⟨p, List.mem_cons_of_mem _ hmem, hp⟩

/-- Every call that was made was planned. -/
theorem CutShort.planned {x : ε} (h : CutShort fatal plan t x) {ev : Event E R ε} (hev : ev ∈ t) :
    ∃ p ∈ plan, p ev.call := by
  obtain ⟨done, p, rest, before, last, rfl, rfl, hswept, hlast, -⟩ := h
  rcases List.mem_append.mp hev with hev | hev
  · obtain ⟨q, hmem, hq⟩ := hswept.planned hev
    exact ⟨q, List.mem_append_left _ hmem, hq⟩
  · rw [List.mem_singleton.mp hev]
    exact ⟨p, by simp, hlast⟩

/-- A single call that raises a fatal exception. -/
theorem CutShort.single {p : E → Prop} {ev : Event E R ε} {x : ε} (h : p ev.call)
    (hx : ev.outcome = .error x) (hfatal : fatal x) : CutShort fatal [p] [ev] x :=
  ⟨[], p, [], [], ev, rfl, rfl, Swept.nil, h, hx, hfatal⟩

/-- A plan that was cut short is cut short with more behind it. -/
theorem CutShort.append_right {x : ε} (h : CutShort fatal plan t x) (plan' : List (E → Prop)) :
    CutShort fatal (plan ++ plan') t x := by
  obtain ⟨done, p, rest, before, last, rfl, ht, hrest⟩ := h
  exact ⟨done, p, rest ++ plan', before, last, by simp, ht, hrest⟩

/-- So it is with another plan carried out before. -/
theorem CutShort.append_left {x : ε} (h : Swept fatal plan t) (h' : CutShort fatal plan' t' x) :
    CutShort fatal (plan ++ plan') (t ++ t') x := by
  obtain ⟨done, p, rest, before, last, rfl, rfl, hswept, hlast⟩ := h'
  exact ⟨plan ++ done, p, rest, t ++ before, last, by simp, by simp, h.append hswept, hlast⟩

/-- The first planned call was made first. -/
theorem Swept.head {p : E → Prop} (h : Swept fatal (p :: plan) t) :
    ∃ ev rest, t = ev :: rest ∧ p ev.call := by
  obtain ⟨hcalls, -⟩ := h
  cases hcalls with
  | cons hp _ => exact ⟨_, _, rfl, hp⟩

/-- The first planned call is made in any case. -/
theorem CutShort.head {p : E → Prop} {x : ε} (h : CutShort fatal (p :: plan) t x) :
    ∃ ev rest, t = ev :: rest ∧ p ev.call := by
  obtain ⟨done, q, rest, before, last, hplan, rfl, hswept, hlast, -⟩ := h
  cases done with
  | nil =>
      obtain ⟨rfl, -⟩ := List.cons.inj hplan
      obtain ⟨hcalls, -⟩ := hswept
      cases hcalls
      exact ⟨last, [], rfl, hlast⟩
  | cons p' done =>
      obtain ⟨rfl, -⟩ := List.cons.inj hplan
      obtain ⟨ev, rest', rfl, hev⟩ := hswept.head
      exact ⟨ev, rest' ++ [last], rfl, hev⟩

/-- A part that makes no call and returns. -/
theorem Sweeps.quiet {m : Program E R ε S α} {s : S} {post : S → Prop}
    (h : ∀ w t r s' w', Runs env m s w t r s' w' → t = [] ∧ (∃ a, r = .ok a) ∧ post s') :
    Sweeps env fatal [] m s post := by
  intro w t r s' w' hrun
  obtain ⟨rfl, hr, hpost⟩ := h w t r s' w' hrun
  exact .inl ⟨Swept.nil, hr, hpost⟩

/-- **Sweeps compose**: the plans are carried out one after the other. -/
theorem Sweeps.bind {m : Program E R ε S α} {f : α → Program E R ε S β} {s : S}
    {mid post : S → Prop} (hm : Sweeps env fatal plan m s mid)
    (hf : ∀ a s', mid s' → Sweeps env fatal plan' (f a) s' post) :
    Sweeps env fatal (plan ++ plan') (m >>= f) s post := by
  intro w t r s' w' hrun
  rcases runs_bind.mp hrun with ⟨x, h, rfl⟩ | ⟨a, s₁, w₁, t₁, t₂, rfl, h₁, h₂⟩
  · rcases hm w t _ s' w' h with ⟨-, ⟨a, hr⟩, -⟩ | ⟨y, hcut, hr⟩
    · cases hr
    · cases hr
      exact .inr ⟨x, hcut.append_right plan', rfl⟩
  · rcases hm w t₁ _ s₁ w₁ h₁ with ⟨hswept, -, hmid⟩ | ⟨y, -, hr⟩
    · rcases hf a s₁ hmid w₁ t₂ r s' w' h₂ with ⟨hswept', hr, hpost⟩ | ⟨y, hcut, hr⟩
      · exact .inl ⟨hswept.append hswept', hr, hpost⟩
      · exact .inr ⟨y, hcut.append_left hswept, hr⟩
    · cases hr

/-- A step that follows a sweep and only computes. -/
theorem Sweeps.bind_quiet {m : Program E R ε S α} {f : α → Program E R ε S β} {s : S}
    {mid post : S → Prop} (hm : Sweeps env fatal plan m s mid)
    (hf : ∀ a s', mid s' → Sweeps env fatal [] (f a) s' post) :
    Sweeps env fatal plan (m >>= f) s post := by
  have h := hm.bind hf
  rw [List.append_nil] at h
  exact h

/-- A sweep that follows a read. -/
theorem Sweeps.read {f : S → Program E R ε S β} {s : S} {post : S → Prop}
    (h : Sweeps env fatal plan (f s) s post) :
    Sweeps env fatal plan (Program.read >>= f) s post :=
  h

end Sweeps

/-! ## §5. Scripted runs. -/

/-- Run a program against answers that are a function of the call and the world. -/
def Prog.play (answer : (e : E) → W → Except ε (R e) × W) :
    Prog E R ε α → W → List (Event E R ε) × α × W
  | .ret a, w => ([], a, w)
  | .call e next, w =>
      let out := answer e w
      let rest := (next out.1).play answer out.2
      (⟨e, out.1⟩ :: rest.1, rest.2)

/-- The environment that gives exactly these answers. -/
def scripted (answer : (e : E) → W → Except ε (R e) × W) : Environment E R ε W :=
  fun e w out w' => answer e w = (out, w')

/-- A program that is played against a script runs in the environment of the script. -/
theorem Prog.play_exec (answer : (e : E) → W → Except ε (R e) × W) (p : Prog E R ε α) (w : W) :
    Exec (scripted answer) p w (p.play answer w).1 (p.play answer w).2.1
      (p.play answer w).2.2 := by
  induction p generalizing w with
  | ret a => exact .ret a w
  | call e next ih => exact .call rfl (ih _ _)

/-- The trace of a scripted run. -/
def Program.trace (answer : (e : E) → W → Except ε (R e) × W) (m : Program E R ε S α) (s : S)
    (w : W) : List (Event E R ε) := ((m s).play answer w).1

/-- Its result. -/
def Program.outcome (answer : (e : E) → W → Except ε (R e) × W) (m : Program E R ε S α) (s : S)
    (w : W) : Except ε α := ((m s).play answer w).2.1.1

/-- Played from a state, it runs to the outcome that the play computes. -/
theorem Program.runs_outcome (answer : (e : E) → W → Except ε (R e) × W)
    (m : Program E R ε S α) (s : S) (w : W) :
    ∃ s' w', Runs (scripted answer) m s w (m.trace answer s w) (m.outcome answer s w) s' w' :=
  ⟨_, _, Prog.play_exec answer (m s) w⟩

/-- The scripted run returns. -/
def Program.returns (answer : (e : E) → W → Except ε (R e) × W) (m : Program E R ε S α) (s : S)
    (w : W) : Bool :=
  match m.outcome answer s w with
  | .ok _ => true
  | .error _ => false

/-- A play that returns is a run that returns. -/
theorem Program.runs_returns {answer : (e : E) → W → Except ε (R e) × W}
    {m : Program E R ε S α} {s : S} {w : W} (h : m.returns answer s w = true) :
    ∃ a s' w', Runs (scripted answer) m s w (m.trace answer s w) (.ok a) s' w' := by
  obtain ⟨s', w', hrun⟩ := Program.runs_outcome answer m s w
  unfold Program.returns at h
  cases hr : m.outcome answer s w with
  | error x =>
      rw [hr] at h
      cases h
  | ok a =>
      rw [hr] at hrun
      exact ⟨a, s', w', hrun⟩

/-- Run a program against answers of which some may be missing: then there is no
run. -/
def Prog.rehearse (answer : (e : E) → W → Option (Except ε (R e) × W)) :
    Prog E R ε α → W → Option (List (Event E R ε) × α × W)
  | .ret a, w => some ([], a, w)
  | .call e next, w =>
      match answer e w with
      | none => none
      | some out =>
          ((next out.1).rehearse answer out.2).map fun rest => (⟨e, out.1⟩ :: rest.1, rest.2)

/-- A rehearsal against answers the environment can give is a run in it. -/
theorem Prog.rehearse_exec {env : Environment E R ε W}
    {answer : (e : E) → W → Option (Except ε (R e) × W)}
    (hanswer : ∀ e w out w', answer e w = some (out, w') → env e w out w') {p : Prog E R ε α}
    {w w' : W} {t : List (Event E R ε)} {a : α} (h : p.rehearse answer w = some (t, a, w')) :
    Exec env p w t a w' := by
  induction p generalizing w t with
  | ret b =>
      cases h
      exact .ret _ _
  | call e next ih =>
      unfold Prog.rehearse at h
      cases hout : answer e w with
      | none =>
          simp only [hout] at h
          cases h
      | some out =>
          simp only [hout] at h
          obtain ⟨⟨t', a', w''⟩, hrest, heq⟩ := Option.map_eq_some_iff.mp h
          cases heq
          exact .call (hanswer e w out.1 out.2 hout) (ih out.1 hrest)

end EffectProgram
