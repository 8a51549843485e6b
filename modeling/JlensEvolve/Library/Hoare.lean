import JlensEvolve.Library.Effect

/-!
Pre- and postconditions of programs that may raise. A triple has two
postconditions: one for the value that is returned and the state then, one for
the error that is raised and the state then. The rules follow the program text;
the invariant rule carries a triple over a list of calls.
-/

namespace JlensEvolve.Library

variable {ε σ α β ι : Type}

/-- From a state of `P` the program returns into `Q` or raises into `E`. -/
def Triple (P : σ → Prop) (x : EStateM ε σ α) (Q : α → σ → Prop) (E : ε → σ → Prop) : Prop :=
  ∀ s, P s →
    (∀ a t, x.run s = .ok a t → Q a t) ∧ ∀ e t, x.run s = .error e t → E e t

section Rules

variable {P P' : σ → Prop} {Q Q' : α → σ → Prop} {R : β → σ → Prop} {E E' : ε → σ → Prop}

theorem Triple.pure {a : α} (h : ∀ s, P s → Q a s) : Triple P (pure a) Q E := by
  intro s hs
  constructor
  · rintro b t hrun
    cases hrun
    exact h s hs
  · rintro e t hrun
    cases hrun

theorem Triple.throw {e : ε} (h : ∀ s, P s → E e s) :
    Triple P (throw e : EStateM ε σ α) Q E := by
  intro s hs
  constructor
  · rintro b t hrun
    cases hrun
  · rintro e' t hrun
    cases hrun
    exact h s hs

theorem Triple.bind {x : EStateM ε σ α} {f : α → EStateM ε σ β} (hx : Triple P x Q E)
    (hf : ∀ a, Triple (Q a) (f a) R E) : Triple P (x >>= f) R E := by
  intro s hs
  obtain ⟨hok, herror⟩ := hx s hs
  rw [EStateM.run_bind]
  cases hrun : x.run s with
  | ok a t => exact hf a t (hok a t hrun)
  | error e t =>
    constructor
    · rintro b u ⟨⟩
    · rintro e' u ⟨⟩
      exact herror e t hrun

theorem Triple.conseq {x : EStateM ε σ α} (hx : Triple P x Q E) (hP : ∀ s, P' s → P s)
    (hQ : ∀ a s, Q a s → Q' a s) (hE : ∀ e s, E e s → E' e s) : Triple P' x Q' E' := by
  intro s hs
  obtain ⟨hok, herror⟩ := hx s (hP s hs)
  exact ⟨fun a t hrun => hQ a t (hok a t hrun), fun e t hrun => hE e t (herror e t hrun)⟩

theorem Triple.pre {x : EStateM ε σ α} (hx : Triple P x Q E) (hP : ∀ s, P' s → P s) :
    Triple P' x Q E :=
  hx.conseq hP (fun _ _ h => h) (fun _ _ h => h)

theorem Triple.post {x : EStateM ε σ α} (hx : Triple P x Q E) (hQ : ∀ a s, Q a s → Q' a s) :
    Triple P x Q' E :=
  hx.conseq (fun _ h => h) hQ (fun _ _ h => h)

theorem Triple.exc {x : EStateM ε σ α} (hx : Triple P x Q E) (hE : ∀ e s, E e s → E' e s) :
    Triple P x Q E' :=
  hx.conseq (fun _ h => h) (fun _ _ h => h) hE

theorem Triple.of_forall {x : EStateM ε σ α} (h : ∀ s, P s → Triple (fun t => t = s) x Q E) :
    Triple P x Q E :=
  fun s hs => h s hs s rfl

theorem Triple.get {Q : σ → σ → Prop} (h : ∀ s, P s → Q s s) :
    Triple P (get : EStateM ε σ σ) Q E := by
  intro s hs
  constructor
  · rintro a t hrun
    cases hrun
    exact h s hs
  · rintro e t hrun
    cases hrun

theorem Triple.modify {f : σ → σ} {Q : Unit → σ → Prop} (h : ∀ s, P s → Q () (f s)) :
    Triple P (modify f : EStateM ε σ Unit) Q E := by
  intro s hs
  constructor
  · rintro a t hrun
    cases hrun
    exact h s hs
  · rintro e t hrun
    cases hrun

theorem Triple.check {x : Except ε α} (hok : ∀ a s, x = .ok a → P s → Q a s)
    (herror : ∀ e s, x = .error e → P s → E e s) :
    Triple P (check x : EStateM ε σ α) Q E := by
  cases x with
  | ok a => exact Triple.pure fun s hs => hok a s rfl hs
  | error e => exact Triple.throw fun s hs => herror e s rfl hs

theorem Triple.raiseIf {condition : Bool} {e : ε} {Q : Unit → σ → Prop}
    (hok : ∀ s, condition = false → P s → Q () s) (herror : ∀ s, condition = true → P s → E e s) :
    Triple P (raiseIf condition e : EStateM ε σ Unit) Q E := by
  cases condition with
  | false => exact Triple.pure fun s hs => hok s rfl hs
  | true => exact Triple.throw fun s hs => herror s rfl hs

/-- `try: x except matching errors: return them`. -/
def attempt (caught : ε → Bool) (x : EStateM ε σ α) : EStateM ε σ (Except ε α) := fun s =>
  match x s with
  | .ok a t => .ok (.ok a) t
  | .error e t => if caught e then .ok (.error e) t else .error e t

theorem run_attempt (caught : ε → Bool) (x : EStateM ε σ α) (s : σ) :
    (attempt caught x).run s =
      match x.run s with
      | .ok a t => .ok (.ok a) t
      | .error e t => if caught e then .ok (.error e) t else .error e t := rfl

theorem Triple.attempted {caught : ε → Bool} {x : EStateM ε σ α} (hx : Triple P x Q E) :
    Triple P (attempt caught x)
      (fun outcome s => match outcome with
        | .ok a => Q a s
        | .error e => caught e = true ∧ E e s)
      (fun e s => caught e = false ∧ E e s) := by
  intro s hs
  obtain ⟨hok, herror⟩ := hx s hs
  rw [run_attempt]
  cases hrun : x.run s with
  | ok a t =>
    constructor
    · rintro outcome u ⟨⟩
      exact hok a t hrun
    · rintro e u ⟨⟩
  | error e t =>
    by_cases hcaught : caught e = true
    · simp only [hcaught, if_true]
      constructor
      · rintro outcome u ⟨⟩
        exact ⟨hcaught, herror e t hrun⟩
      · rintro e' u ⟨⟩
    · simp only [hcaught]
      constructor
      · rintro outcome u ⟨⟩
      · rintro e' u ⟨⟩
        exact ⟨by simpa using hcaught, herror e t hrun⟩

end Rules

/-- Calls made one after the other, each whether or not the ones before raised. -/
def runCalls (program : ι → EStateM ε σ α) (s : σ) (calls : List ι) : σ :=
  calls.foldl (fun s call => finalState ((program call).run s)) s

theorem runCalls_invariant {I : σ → Prop} {program : ι → EStateM ε σ α}
    (hcall : ∀ call, Triple I (program call) (fun _ => I) (fun _ => I)) {s : σ} (hs : I s)
    (calls : List ι) : I (runCalls program s calls) := by
  induction calls generalizing s with
  | nil => exact hs
  | cons call calls ih =>
    apply ih
    obtain ⟨hok, herror⟩ := hcall call s hs
    cases hrun : (program call).run s with
    | ok a t => simpa only [hrun, finalState_ok] using hok a t hrun
    | error e t => simpa only [hrun, finalState_error] using herror e t hrun

end JlensEvolve.Library

/-!
Two programs side by side. From related states they both return, with related
values, or both raise the same error, and the states are related again. The
rules follow the program text.
-/

namespace JlensEvolve.Library

variable {ε σ τ α β γ δ : Type}

/-- From related states both programs return or both raise alike. -/
def Coupled (P : σ → τ → Prop) (x : EStateM ε σ α) (y : EStateM ε τ β)
    (Q : α → β → σ → τ → Prop) (E : σ → τ → Prop) : Prop :=
  ∀ s t, P s t →
    (∃ a b s' t', x.run s = .ok a s' ∧ y.run t = .ok b t' ∧ Q a b s' t') ∨
      ∃ e s' t', x.run s = .error e s' ∧ y.run t = .error e t' ∧ E s' t'

theorem run_bind_get (f : σ → EStateM ε σ α) (s : σ) : (get >>= f).run s = (f s).run s := rfl

section Rules

variable {P P' : σ → τ → Prop} {Q : α → β → σ → τ → Prop} {R : γ → δ → σ → τ → Prop}
  {E : σ → τ → Prop}

theorem Coupled.pure {a : α} {b : β} (h : ∀ s t, P s t → Q a b s t) :
    Coupled P (pure a : EStateM ε σ α) (pure b) Q E :=
  fun s t hP => Or.inl ⟨a, b, s, t, rfl, rfl, h s t hP⟩

theorem Coupled.throw {e : ε} (h : ∀ s t, P s t → E s t) :
    Coupled P (throw e : EStateM ε σ α) (throw e : EStateM ε τ β) Q E :=
  fun s t hP => Or.inr ⟨e, s, t, rfl, rfl, h s t hP⟩

theorem Coupled.bind {x : EStateM ε σ α} {y : EStateM ε τ β} {f : α → EStateM ε σ γ}
    {g : β → EStateM ε τ δ} (hx : Coupled P x y Q E)
    (hf : ∀ a b, Coupled (Q a b) (f a) (g b) R E) : Coupled P (x >>= f) (y >>= g) R E := by
  intro s t hP
  rw [EStateM.run_bind, EStateM.run_bind]
  obtain ⟨a, b, s', t', hs, ht, hQ⟩ | ⟨e, s', t', hs, ht, hE⟩ := hx s t hP
  · rw [hs, ht]
    exact hf a b s' t' hQ
  · rw [hs, ht]
    exact Or.inr ⟨e, s', t', rfl, rfl, hE⟩

theorem Coupled.pre {x : EStateM ε σ α} {y : EStateM ε τ β} (hx : Coupled P x y Q E)
    (h : ∀ s t, P' s t → P s t) : Coupled P' x y Q E :=
  fun s t hP => hx s t (h s t hP)

theorem Coupled.of_forall {x : EStateM ε σ α} {y : EStateM ε τ β}
    (h : ∀ s t, P s t → Coupled (fun s' t' => s' = s ∧ t' = t) x y Q E) : Coupled P x y Q E :=
  fun s t hP => h s t hP s t ⟨rfl, rfl⟩

theorem Coupled.get {Q : σ → τ → σ → τ → Prop} (h : ∀ s t, P s t → Q s t s t) :
    Coupled P (get : EStateM ε σ σ) (get : EStateM ε τ τ) Q E :=
  fun s t hP => Or.inl ⟨s, t, s, t, rfl, rfl, h s t hP⟩

theorem Coupled.modify {f : σ → σ} {g : τ → τ} {Q : Unit → Unit → σ → τ → Prop}
    (h : ∀ s t, P s t → Q () () (f s) (g t)) :
    Coupled P (modify f : EStateM ε σ Unit) (modify g : EStateM ε τ Unit) Q E :=
  fun s t hP => Or.inl ⟨(), (), f s, g t, rfl, rfl, h s t hP⟩

theorem Coupled.check_same {x : Except ε α} {Q : α → α → σ → τ → Prop}
    (hok : ∀ a s t, x = .ok a → P s t → Q a a s t) (herror : ∀ s t, P s t → E s t) :
    Coupled P (check x : EStateM ε σ α) (check x : EStateM ε τ α) Q E := by
  cases x with
  | ok a => exact Coupled.pure fun s t hP => hok a s t rfl hP
  | error e => exact Coupled.throw herror

theorem Coupled.check {x : Except ε α} {y : Except ε β}
    (h : (∃ a b, x = .ok a ∧ y = .ok b ∧ ∀ s t, P s t → Q a b s t) ∨
      ∃ e, x = .error e ∧ y = .error e ∧ ∀ s t, P s t → E s t) :
    Coupled P (check x : EStateM ε σ α) (check y : EStateM ε τ β) Q E := by
  obtain ⟨a, b, rfl, rfl, hQ⟩ | ⟨e, rfl, rfl, hE⟩ := h
  · exact Coupled.pure hQ
  · exact Coupled.throw hE

end Rules

end JlensEvolve.Library
