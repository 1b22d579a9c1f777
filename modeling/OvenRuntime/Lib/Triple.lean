/-
  Lib.Triple
  ──────────
  Triples for programs that call components.

  A program is seen at three kinds of points: between its calls, where the
  trace so far and the world satisfy an invariant `J`; where it returns; and
  where it raises.  `Triple env J X P m Q` says what holds at each of them when
  `m` starts where `P` holds.  There is one rule for each construct
  (`Triple.bind`, `Triple.attempt`, …), and an assertion that every call keeps
  gives a compositional property (`Triple.compositional`).
-/
import OvenRuntime.Lib.EffectProgram

namespace EffectProgram

variable {E : Type} {R : E → Type} {ε S W α β : Type}

/-! ## §1. The points of a run. -/

/-- A program gets to a point: it has made these calls, and may go on. -/
inductive Reaches (env : Environment E R ε W) :
    Prog E R ε α → W → List (Event E R ε) → W → Prop
  | here (p : Prog E R ε α) (w : W) : Reaches env p w [] w
  | call {e : E} {next : Except ε (R e) → Prog E R ε α} {w w' w'' : W}
      {out : Except ε (R e)} {t : List (Event E R ε)} :
      env e w out w' → Reaches env (next out) w' t w'' →
      Reaches env (.call e next) w (⟨e, out⟩ :: t) w''

section Reaches

variable {env : Environment E R ε W} {w w' : W} {t : List (Event E R ε)}

theorem reaches_ret {a : α} (h : Reaches env (.ret a : Prog E R ε α) w t w') :
    t = [] ∧ w' = w := by
  cases h with
  | here => exact ⟨rfl, rfl⟩

/-- The end of a run is one of its points. -/
theorem Exec.reaches {p : Prog E R ε α} {a : α} (h : Exec env p w t a w') :
    Reaches env p w t w' := by
  induction h with
  | ret a w => exact .here _ w
  | call henv _ ih => exact .call henv ih

/-- A point of a sequence is one of its first part, or of its second. -/
theorem reaches_bind {m : Prog E R ε α} {f : α → Prog E R ε β}
    (h : Reaches env (m.bind f) w t w') :
    Reaches env m w t w' ∨
      ∃ a w₁ t₁ t₂, t = t₁ ++ t₂ ∧ Exec env m w t₁ a w₁ ∧ Reaches env (f a) w₁ t₂ w' := by
  induction m generalizing w t with
  | ret a => exact .inr ⟨a, w, [], t, rfl, .ret a w, h⟩
  | call e next ih =>
      have h : Reaches env (.call e fun out => (next out).bind f) w t w' := h
      cases h with
      | here => exact .inl (.here _ _)
      | @call _ _ _ w₁ _ out t henv hrest =>
          rcases ih out hrest with hfirst | ⟨a, w₂, t₁, t₂, rfl, hexec, hsecond⟩
          · exact .inl (.call henv hfirst)
          · exact .inr ⟨a, w₂, ⟨e, out⟩ :: t₁, t₂, rfl, .call henv hexec, hsecond⟩

/-- What every answer of the components preserves holds at every point. -/
theorem Reaches.invariant {p : Prog E R ε α} (h : Reaches env p w t w') (I : W → Prop)
    (hstep : ∀ e w out w', I w → env e w out w' → I w') (hw : I w) : I w' := by
  induction h with
  | here => exact hw
  | call henv _ ih => exact ih (hstep _ _ _ _ hw henv)

end Reaches

/-! ## §2. Triples. -/

/-- A property of the calls made so far, the state and the world. -/
abbrev Assertion (E : Type) (R : E → Type) (ε S W : Type) : Type :=
  List (Event E R ε) → S → W → Prop

/-- Started where `P` holds, the program satisfies `J` at every point, `Q` where
it returns and `X` where it raises. -/
structure Triple (env : Environment E R ε W) (J : List (Event E R ε) → W → Prop)
    (X : ε → Assertion E R ε S W) (P : Assertion E R ε S W) (m : Program E R ε S α)
    (Q : α → Assertion E R ε S W) : Prop where
  along : ∀ past s w t w', P past s w → Reaches env (m s) w t w' → J (past ++ t) w'
  returns : ∀ past s w t a s' w', P past s w → Runs env m s w t (.ok a) s' w' →
    Q a (past ++ t) s' w'
  raises : ∀ past s w t x s' w', P past s w → Runs env m s w t (.error x) s' w' →
    X x (past ++ t) s' w'

section Rules

variable {env : Environment E R ε W} {J : List (Event E R ε) → W → Prop}
  {X : ε → Assertion E R ε S W} {P P' : Assertion E R ε S W}

/-- Strengthen what holds before, weaken what holds after. -/
theorem Triple.conseq {m : Program E R ε S α} {Q Q' : α → Assertion E R ε S W}
    (h : Triple env J X P m Q) (hP : ∀ past s w, P' past s w → P past s w)
    (hQ : ∀ a past s w, Q a past s w → Q' a past s w) : Triple env J X P' m Q' where
  along past s w t w' hP' := h.along past s w t w' (hP _ _ _ hP')
  returns past s w t a s' w' hP' hrun := hQ _ _ _ _ (h.returns past s w t a s' w' (hP _ _ _ hP') hrun)
  raises past s w t x s' w' hP' := h.raises past s w t x s' w' (hP _ _ _ hP')

theorem Triple.pre {m : Program E R ε S α} {Q : α → Assertion E R ε S W}
    (h : Triple env J X P m Q) (hP : ∀ past s w, P' past s w → P past s w) :
    Triple env J X P' m Q :=
  h.conseq hP fun _ _ _ _ hQ => hQ

theorem Triple.post {m : Program E R ε S α} {Q Q' : α → Assertion E R ε S W}
    (h : Triple env J X P m Q) (hQ : ∀ a past s w, Q a past s w → Q' a past s w) :
    Triple env J X P m Q' :=
  h.conseq (fun _ _ _ hP => hP) hQ

/-- What a program returns in any case. -/
theorem Triple.result {φ : α → Prop} {m : Program E R ε S α} {Q : α → Assertion E R ε S W}
    (h : Triple env J X P m Q)
    (hφ : ∀ s w t a s' w', Runs env m s w t (.ok a) s' w' → φ a) :
    Triple env J X P m fun a past s w => φ a ∧ Q a past s w where
  along := h.along
  returns past s w t a s' w' hP hrun :=
    ⟨hφ s w t a s' w' hrun, h.returns past s w t a s' w' hP hrun⟩
  raises := h.raises

/-- A fact about constants in the precondition. -/
theorem Triple.given {φ : Prop} {m : Program E R ε S α} {Q : α → Assertion E R ε S W}
    (h : φ → Triple env J X P m Q) : Triple env J X (fun past s w => φ ∧ P past s w) m Q where
  along past s w t w' hP := (h hP.1).along past s w t w' hP.2
  returns past s w t a s' w' hP := (h hP.1).returns past s w t a s' w' hP.2
  raises past s w t x s' w' hP := (h hP.1).raises past s w t x s' w' hP.2

/-- An unknown in the precondition. -/
theorem Triple.exists {γ : Type} {P : γ → Assertion E R ε S W} {m : Program E R ε S α}
    {Q : α → Assertion E R ε S W} (h : ∀ c, Triple env J X (P c) m Q) :
    Triple env J X (fun past s w => ∃ c, P c past s w) m Q where
  along past s w t w' hP hreach := by
    obtain ⟨c, hP⟩ := hP
    exact (h c).along past s w t w' hP hreach
  returns past s w t a s' w' hP hrun := by
    obtain ⟨c, hP⟩ := hP
    exact (h c).returns past s w t a s' w' hP hrun
  raises past s w t x s' w' hP hrun := by
    obtain ⟨c, hP⟩ := hP
    exact (h c).raises past s w t x s' w' hP hrun

/-- A sequence. -/
theorem Triple.bind {m : Program E R ε S α} {f : α → Program E R ε S β}
    {M : α → Assertion E R ε S W} {Q : β → Assertion E R ε S W} (hm : Triple env J X P m M)
    (hf : ∀ a, Triple env J X (M a) (f a) Q) : Triple env J X P (m >>= f) Q where
  along past s w t w' hP hreach := by
    rcases reaches_bind hreach with hfirst | ⟨⟨r, s₁⟩, w₁, t₁, t₂, rfl, hexec, hsecond⟩
    · exact hm.along past s w t w' hP hfirst
    · cases r with
      | ok a =>
          rw [← List.append_assoc]
          exact (hf a).along _ s₁ w₁ t₂ w' (hm.returns past s w t₁ a s₁ w₁ hP hexec) hsecond
      | error x =>
          -- the first part has raised: there is no second one
          obtain ⟨rfl, rfl⟩ := reaches_ret hsecond
          rw [List.append_nil]
          exact hm.along past s w t₁ w' hP hexec.reaches
  returns past s w t b s' w' hP hrun := by
    obtain ⟨a, s₁, w₁, t₁, t₂, rfl, h₁, h₂⟩ := runs_bind_ok hrun
    rw [← List.append_assoc]
    exact (hf a).returns _ s₁ w₁ t₂ b s' w' (hm.returns past s w t₁ a s₁ w₁ hP h₁) h₂
  raises past s w t x s' w' hP hrun := by
    rcases runs_bind.mp hrun with ⟨y, h, hy⟩ | ⟨a, s₁, w₁, t₁, t₂, rfl, h₁, h₂⟩
    · cases hy
      exact hm.raises past s w t x s' w' hP h
    · rw [← List.append_assoc]
      exact (hf a).raises _ s₁ w₁ t₂ x s' w' (hm.returns past s w t₁ a s₁ w₁ hP h₁) h₂

/-- A value or an exception. -/
theorem Triple.lift {r : Except ε α} {Q : α → Assertion E R ε S W}
    (hJ : ∀ past s w, P past s w → J past w)
    (hok : ∀ a, r = .ok a → ∀ past s w, P past s w → Q a past s w)
    (herror : ∀ x, r = .error x → ∀ past s w, P past s w → X x past s w) :
    Triple env J X P (Program.lift r) Q where
  along past s w t w' hP hreach := by
    obtain ⟨rfl, rfl⟩ := reaches_ret hreach
    rw [List.append_nil]
    exact hJ past s _ hP
  returns past s w t a s' w' hP hrun := by
    obtain ⟨rfl, hr, rfl, rfl⟩ := runs_lift.mp hrun
    rw [List.append_nil]
    exact hok a hr.symm past _ _ hP
  raises past s w t x s' w' hP hrun := by
    obtain ⟨rfl, hr, rfl, rfl⟩ := runs_lift.mp hrun
    rw [List.append_nil]
    exact herror x hr.symm past _ _ hP

theorem Triple.pure {a : α} {Q : α → Assertion E R ε S W}
    (hJ : ∀ past s w, P past s w → J past w) (hQ : ∀ past s w, P past s w → Q a past s w) :
    Triple env J X P (Pure.pure a) Q :=
  Triple.lift hJ (fun _ h => by cases h; exact hQ) (fun _ h => by cases h)

theorem Triple.raise {x : ε} {Q : α → Assertion E R ε S W}
    (hJ : ∀ past s w, P past s w → J past w) (hX : ∀ past s w, P past s w → X x past s w) :
    Triple env J X P (Program.raise x) Q :=
  Triple.lift hJ (fun _ h => by cases h) (fun _ h => by cases h; exact hX)

/-- A check; the assertion stays. -/
theorem Triple.require {b : Bool} {x : ε} (hJ : ∀ past s w, P past s w → J past w)
    (hX : b = false → ∀ past s w, P past s w → X x past s w) :
    Triple env J X P (Program.require b x) fun _ past s w => b = true ∧ P past s w := by
  unfold Program.require
  cases b with
  | true => exact .pure hJ fun _ _ _ hP => ⟨rfl, hP⟩
  | false => exact .raise hJ (hX rfl)

theorem Triple.update {f : S → S} {Q : Unit → Assertion E R ε S W}
    (hJ : ∀ past s w, P past s w → J past w) (hQ : ∀ past s w, P past s w → Q () past (f s) w) :
    Triple env J X P (Program.update f) Q where
  along past s w t w' hP hreach := by
    obtain ⟨rfl, rfl⟩ := reaches_ret hreach
    rw [List.append_nil]
    exact hJ past s _ hP
  returns past s w t a s' w' hP hrun := by
    obtain ⟨rfl, -, rfl, rfl⟩ := runs_update.mp hrun
    rw [List.append_nil]
    exact hQ past s _ hP
  raises past s w t x s' w' hP hrun := by
    obtain ⟨-, hr, -⟩ := runs_update.mp hrun
    cases hr

/-- A program that starts by reading its state. -/
theorem Triple.read {f : S → Program E R ε S β} {Q : β → Assertion E R ε S W}
    (h : ∀ s₀, Triple env J X (fun past s w => s = s₀ ∧ P past s w) (f s₀) Q) :
    Triple env J X P (Program.read >>= f) Q where
  along past s w t w' hP := (h s).along past s w t w' ⟨rfl, hP⟩
  returns past s w t b s' w' hP hrun :=
    (h s).returns past s w t b s' w' ⟨rfl, hP⟩ (runs_read_bind.mp hrun)
  raises past s w t x s' w' hP hrun :=
    (h s).raises past s w t x s' w' ⟨rfl, hP⟩ (runs_read_bind.mp hrun)

/-- A call, by what the component can answer. -/
theorem Triple.perform {e : E} {Q : R e → Assertion E R ε S W}
    (hJ : ∀ past s w, P past s w → J past w)
    (hcall : ∀ past s w out w', P past s w → env e w out w' → J (past ++ [⟨e, out⟩]) w' ∧
      match out with
      | .ok a => Q a (past ++ [⟨e, out⟩]) s w'
      | .error x => X x (past ++ [⟨e, out⟩]) s w') :
    Triple env J X P (Program.perform e) Q where
  along past s w t w' hP hreach := by
    cases hreach with
    | here =>
        rw [List.append_nil]
        exact hJ past s w hP
    | @call _ _ _ w₁ _ out t henv hrest =>
        obtain ⟨rfl, rfl⟩ := reaches_ret hrest
        exact (hcall past s w out _ hP henv).1
  returns past s w t a s' w' hP hrun := by
    obtain ⟨rfl, rfl, henv⟩ := runs_perform.mp hrun
    exact (hcall past _ w (.ok a) w' hP henv).2
  raises past s w t x s' w' hP hrun := by
    obtain ⟨rfl, rfl, henv⟩ := runs_perform.mp hrun
    exact (hcall past _ w (.error x) w' hP henv).2

/-- A `try`: its handler starts where the body raises. -/
theorem Triple.attempt {m : Program E R ε S α} {handler : ε → Program E R ε S α}
    {Y : ε → Assertion E R ε S W} {Q : α → Assertion E R ε S W} (hm : Triple env J Y P m Q)
    (hhandler : ∀ x, Triple env J X (Y x) (handler x) Q) :
    Triple env J X P (Program.attempt m handler) Q where
  along past s w t w' hP hreach := by
    rcases reaches_bind hreach with hfirst | ⟨⟨r, s₁⟩, w₁, t₁, t₂, rfl, hexec, hsecond⟩
    · exact hm.along past s w t w' hP hfirst
    · cases r with
      | ok a =>
          obtain ⟨rfl, rfl⟩ := reaches_ret hsecond
          rw [List.append_nil]
          exact hm.along past s w t₁ w' hP hexec.reaches
      | error x =>
          rw [← List.append_assoc]
          exact (hhandler x).along _ s₁ w₁ t₂ w' (hm.raises past s w t₁ x s₁ w₁ hP hexec) hsecond
  returns past s w t a s' w' hP hrun := by
    rcases runs_attempt.mp hrun with ⟨b, h, hb⟩ | ⟨x, s₁, w₁, t₁, t₂, rfl, h₁, h₂⟩
    · cases hb
      exact hm.returns past s w t a s' w' hP h
    · rw [← List.append_assoc]
      exact (hhandler x).returns _ s₁ w₁ t₂ a s' w' (hm.raises past s w t₁ x s₁ w₁ hP h₁) h₂
  raises past s w t y s' w' hP hrun := by
    rcases runs_attempt.mp hrun with ⟨b, -, hb⟩ | ⟨x, s₁, w₁, t₁, t₂, rfl, h₁, h₂⟩
    · cases hb
    · rw [← List.append_assoc]
      exact (hhandler x).raises _ s₁ w₁ t₂ y s' w' (hm.raises past s w t₁ x s₁ w₁ hP h₁) h₂

/-- **To keep an assertion is compositional.** -/
theorem Triple.compositional {K : List (Event E R ε) → W → Prop}
    (hJ : ∀ past w, K past w → J past w) (hX : ∀ x past s w, K past w → X x past s w) :
    Compositional fun {α : Type} (m : Program E R ε S α) =>
      Triple env J X (fun past _ w => K past w) m fun _ past _ w => K past w where
  bind hm hf := Triple.bind hm hf
  lift _ := Triple.lift (fun _ _ _ => hJ _ _) (fun _ _ _ _ _ hK => hK)
    (fun x _ past s w => hX x past s w)
  read := Triple.conseq (P := fun past _ w => K past w) (Q := fun _ past _ w => K past w)
    (Triple.read (f := Pure.pure) fun _ =>
      Triple.pure (fun _ _ _ hK => hJ _ _ hK.2) fun _ _ _ hK => hK.2)
    (fun _ _ _ hK => hK) (fun _ _ _ _ hK => hK)

theorem Triple.update_keep {K : List (Event E R ε) → W → Prop}
    (hJ : ∀ past w, K past w → J past w) (f : S → S) :
    Triple env J X (fun past _ w => K past w) (Program.update f) fun _ past _ w => K past w :=
  Triple.update (fun _ _ _ => hJ _ _) fun _ _ _ hK => hK

end Rules

end EffectProgram
