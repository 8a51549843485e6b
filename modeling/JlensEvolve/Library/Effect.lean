import Mathlib.Tactic.Common

/-!
Rules for programs that read and write a state and may raise. A raise keeps
the writes made before it, which is what an exception does to a Python object
or to the files of a process, so `EStateM` of the core library is the program
type and this module only adds the inversion and preservation rules the
models use.
-/

namespace JlensEvolve.Library

variable {ε σ α β : Type}

/-- The state a call leaves behind, whether it returned or raised. -/
def finalState : EStateM.Result ε σ α → σ
  | .ok _ s => s
  | .error _ s => s

@[simp] theorem finalState_ok (a : α) (s : σ) :
    finalState (.ok a s : EStateM.Result ε σ α) = s := rfl

@[simp] theorem finalState_error (e : ε) (s : σ) :
    finalState (.error e s : EStateM.Result ε σ α) = s := rfl

def returned? : EStateM.Result ε σ α → Option α
  | .ok a _ => some a
  | .error _ _ => none

def raised? : EStateM.Result ε σ α → Option ε
  | .ok _ _ => none
  | .error e _ => some e

@[simp] theorem run_map (f : α → β) (x : EStateM ε σ α) (s : σ) :
    (f <$> x).run s =
      match x.run s with
      | .ok a t => .ok (f a) t
      | .error e t => .error e t := rfl

@[simp] theorem run_raise (e : ε) (s : σ) :
    (throw e : EStateM ε σ α).run s = .error e s := rfl

theorem run_bind_ok_iff (x : EStateM ε σ α) (f : α → EStateM ε σ β) (s t : σ) (b : β) :
    (x >>= f).run s = .ok b t ↔ ∃ a u, x.run s = .ok a u ∧ (f a).run u = .ok b t := by
  rw [EStateM.run_bind]
  cases x.run s with
  | ok a u => simp
  | error e u => simp

theorem run_bind_of_ok {x : EStateM ε σ α} {s u : σ} {a : α} (f : α → EStateM ε σ β)
    (h : x.run s = .ok a u) : (x >>= f).run s = (f a).run u := by
  rw [EStateM.run_bind, h]

/-- A pure check inside a stateful program: `.error` raises, `.ok` returns. -/
def check (x : Except ε α) : EStateM ε σ α :=
  match x with
  | .ok a => pure a
  | .error e => throw e

@[simp] theorem run_check_ok (a : α) (s : σ) :
    (check (.ok a : Except ε α) : EStateM ε σ α).run s = .ok a s := rfl

@[simp] theorem run_check_error (e : ε) (s : σ) :
    (check (.error e : Except ε α) : EStateM ε σ α).run s = .error e s := rfl

theorem run_check_ok_iff (x : Except ε α) (s t : σ) (a : α) :
    (check x : EStateM ε σ α).run s = .ok a t ↔ x = .ok a ∧ t = s := by
  cases x with
  | ok b => simp [eq_comm]
  | error e => simp

/-- `if condition: raise error`. -/
def raiseIf (condition : Bool) (error : ε) : EStateM ε σ Unit :=
  if condition then throw error else pure ()

@[simp] theorem run_raiseIf_true (e : ε) (s : σ) :
    (raiseIf true e : EStateM ε σ Unit).run s = .error e s := rfl

@[simp] theorem run_raiseIf_false (e : ε) (s : σ) :
    (raiseIf false e : EStateM ε σ Unit).run s = .ok () s := rfl

/-- `if not condition: raise error`, as a value. -/
def require (condition : Prop) [Decidable condition] (error : ε) : Except ε Unit :=
  if condition then .ok () else .error error

@[simp] theorem require_ok_iff (condition : Prop) [Decidable condition] (error : ε) (u : Unit) :
    require condition error = .ok u ↔ condition := by
  unfold require
  split <;> simp [*]

theorem except_bind_ok_iff (x : Except ε α) (f : α → Except ε β) (b : β) :
    (x >>= f) = .ok b ↔ ∃ a, x = .ok a ∧ f a = .ok b := by
  cases x with
  | error e => simp [bind, Except.bind]
  | ok a => simp [bind, Except.bind]

theorem except_map_ok_iff (f : α → β) (x : Except ε α) (b : β) :
    x.map f = .ok b ↔ ∃ a, x = .ok a ∧ f a = b := by
  cases x with
  | error e => simp [Except.map]
  | ok a => simp [Except.map]

theorem mapM_some_mem {f : α → Option β} {items : List α} {answers : List β}
    (h : items.mapM f = some answers) {item : α} (hmem : item ∈ items) :
    ∃ answer ∈ answers, f item = some answer := by
  induction items generalizing answers with
  | nil => cases hmem
  | cons first rest ih =>
    simp only [List.mapM_cons, Option.bind_eq_bind, Option.bind_eq_some_iff, Option.pure_def,
      Option.some.injEq] at h
    obtain ⟨answer, hfirst, others, hrest, rfl⟩ := h
    rcases List.mem_cons.mp hmem with rfl | hmem
    · exact ⟨answer, List.mem_cons_self, hfirst⟩
    · obtain ⟨other, hother, hvalue⟩ := ih hrest hmem
      exact ⟨other, List.mem_cons_of_mem _ hother, hvalue⟩

theorem mapM_ok_mem {f : α → Except ε β} {items : List α} {answers : List β}
    (h : items.mapM f = .ok answers) {item : α} (hmem : item ∈ items) :
    ∃ answer, f item = .ok answer := by
  induction items generalizing answers with
  | nil => cases hmem
  | cons first rest ih =>
    simp only [List.mapM_cons, except_bind_ok_iff] at h
    obtain ⟨answer, hfirst, others, hrest, -⟩ := h
    rcases List.mem_cons.mp hmem with rfl | hmem
    · exact ⟨answer, hfirst⟩
    · exact ih hrest hmem

theorem mem_mapM_iff {f : α → Except ε β} {items : List α} {answers : List β}
    (h : items.mapM f = .ok answers) (answer : β) :
    answer ∈ answers ↔ ∃ item ∈ items, f item = .ok answer := by
  induction items generalizing answers with
  | nil =>
    cases h
    simp
  | cons first rest ih =>
    simp only [List.mapM_cons, except_bind_ok_iff] at h
    obtain ⟨one, hfirst, others, hrest, hsame⟩ := h
    cases hsame
    simp only [List.mem_cons, exists_eq_or_imp, hfirst, ih hrest, Except.ok.injEq]
    exact or_congr_left eq_comm

theorem mapM_error_mem {f : α → Except ε β} {items : List α} {error : ε}
    (h : items.mapM f = .error error) : ∃ item ∈ items, f item = .error error := by
  induction items with
  | nil => cases h
  | cons first rest ih =>
    rw [List.mapM_cons] at h
    cases hfirst : f first with
    | error one =>
      rw [hfirst] at h
      cases h
      exact ⟨first, List.mem_cons_self, hfirst⟩
    | ok answer =>
      rw [hfirst] at h
      cases hrest : rest.mapM f with
      | error one =>
        rw [hrest] at h
        cases h
        obtain ⟨item, hitem, herror⟩ := ih hrest
        exact ⟨item, List.mem_cons_of_mem _ hitem, herror⟩
      | ok answers =>
        rw [hrest] at h
        cases h

theorem mapM_ok_of_forall {f : α → Except ε β} {items : List α}
    (h : ∀ item ∈ items, ∃ answer, f item = .ok answer) :
    ∃ answers, items.mapM f = .ok answers := by
  induction items with
  | nil => exact ⟨[], rfl⟩
  | cons first rest ih =>
    obtain ⟨answer, hfirst⟩ := h first List.mem_cons_self
    obtain ⟨answers, hrest⟩ := ih fun item hitem => h item (List.mem_cons_of_mem _ hitem)
    refine ⟨answer :: answers, ?_⟩
    rw [List.mapM_cons, hfirst, hrest]
    rfl

theorem mapM_checked_iff {f : α → Except ε β} {g : α → β} {valid : α → Prop} {items : List α}
    (h : ∀ item ∈ items, ∀ answer, f item = .ok answer ↔ valid item ∧ answer = g item)
    (answers : List β) :
    items.mapM f = .ok answers ↔ (∀ item ∈ items, valid item) ∧ answers = items.map g := by
  induction items generalizing answers with
  | nil => simp [pure, Except.pure, eq_comm]
  | cons first rest ih =>
    have hfirst := h first List.mem_cons_self
    have hrest := ih fun item hitem => h item (List.mem_cons_of_mem _ hitem)
    simp only [List.mapM_cons, except_bind_ok_iff, hfirst, hrest, List.forall_mem_cons,
      List.map_cons]
    constructor
    · rintro ⟨answer, ⟨hvalid, rfl⟩, others, ⟨hothers, rfl⟩, hsame⟩
      exact ⟨⟨hvalid, hothers⟩, (Except.ok.inj hsame).symm⟩
    · rintro ⟨⟨hvalid, hothers⟩, rfl⟩
      exact ⟨g first, ⟨hvalid, rfl⟩, rest.map g, ⟨hothers, rfl⟩, rfl⟩

theorem forM_ok_iff {f : α → Except ε Unit} {items : List α} (u : Unit) :
    items.forM f = .ok u ↔ ∀ item ∈ items, f item = .ok () := by
  induction items with
  | nil => simp [pure, Except.pure]
  | cons first rest ih =>
    have hcons : (first :: rest).forM f = (f first >>= fun _ => rest.forM f) := rfl
    rw [hcons, except_bind_ok_iff, List.forall_mem_cons]
    constructor
    · intro h
      obtain ⟨done, hfirst, hrest⟩ := h
      exact ⟨hfirst, ih.mp hrest⟩
    · intro h
      exact ⟨(), h.1, ih.mpr h.2⟩

/-- The program leaves the state as it found it, also when it raises. -/
def ReadOnly (x : EStateM ε σ α) : Prop := ∀ s, finalState (x.run s) = s

theorem ReadOnly.pure (a : α) : ReadOnly (pure a : EStateM ε σ α) := fun _ => rfl

theorem ReadOnly.throw (e : ε) : ReadOnly (throw e : EStateM ε σ α) := fun _ => rfl

theorem ReadOnly.get : ReadOnly (get : EStateM ε σ σ) := fun _ => rfl

theorem ReadOnly.check (x : Except ε α) : ReadOnly (check x : EStateM ε σ α) := by
  intro s
  cases x <;> rfl

theorem ReadOnly.bind {x : EStateM ε σ α} {f : α → EStateM ε σ β} (hx : ReadOnly x)
    (hf : ∀ a, ReadOnly (f a)) : ReadOnly (x >>= f) := by
  intro s
  have h := hx s
  rw [EStateM.run_bind]
  cases hrun : x.run s with
  | ok a u =>
    rw [hrun] at h
    simp only [finalState_ok] at h
    subst h
    exact hf a u
  | error e u =>
    rw [hrun] at h
    exact h

/-- Whatever the call does, and also when it raises, it leads from a state of
the invariant to one. -/
def Preserves (I : σ → Prop) (x : EStateM ε σ α) : Prop := ∀ s, I s → I (finalState (x.run s))

theorem ReadOnly.preserves {x : EStateM ε σ α} (hx : ReadOnly x) (I : σ → Prop) :
    Preserves I x := by
  intro s hs
  rw [hx s]
  exact hs

theorem Preserves.bind {I : σ → Prop} {x : EStateM ε σ α} {f : α → EStateM ε σ β}
    (hx : Preserves I x) (hf : ∀ a, Preserves I (f a)) : Preserves I (x >>= f) := by
  intro s hs
  have h := hx s hs
  rw [EStateM.run_bind]
  cases hrun : x.run s with
  | ok a u =>
    rw [hrun] at h
    exact hf a u h
  | error e u =>
    rw [hrun] at h
    exact h

/-- `try: body finally: cleanup`, for a cleanup that cannot raise. -/
def withCleanup (cleanup : σ → σ) (body : EStateM ε σ α) : EStateM ε σ α := fun s =>
  match body s with
  | .ok a t => .ok a (cleanup t)
  | .error e t => .error e (cleanup t)

theorem run_withCleanup (cleanup : σ → σ) (body : EStateM ε σ α) (s : σ) :
    (withCleanup cleanup body).run s =
      match body.run s with
      | .ok a t => .ok a (cleanup t)
      | .error e t => .error e (cleanup t) := rfl

theorem finalState_withCleanup (cleanup : σ → σ) (body : EStateM ε σ α) (s : σ) :
    finalState ((withCleanup cleanup body).run s) = cleanup (finalState (body.run s)) := by
  rw [run_withCleanup]
  cases body.run s <;> rfl

theorem filterM_ok_iff {test : α → Except ε Bool} {items : List α} :
    (∃ kept, items.filterM test = .ok kept) ↔ ∀ item ∈ items, ∃ answer, test item = .ok answer := by
  have haux : ∀ held : List α, (∃ kept, items.filterAuxM test held = .ok kept) ↔
      ∀ item ∈ items, ∃ answer, test item = .ok answer := by
    induction items with
    | nil =>
      intro held
      exact ⟨fun _ _ hmem => absurd hmem List.not_mem_nil, fun _ => ⟨held, rfl⟩⟩
    | cons item rest ih =>
      intro held
      rw [List.forall_mem_cons]
      constructor
      · intro h
        obtain ⟨kept, hkept⟩ := h
        rw [List.filterAuxM, except_bind_ok_iff] at hkept
        obtain ⟨answer, hanswer, hrest⟩ := hkept
        exact ⟨⟨answer, hanswer⟩, (ih _).mp ⟨kept, hrest⟩⟩
      · intro h
        obtain ⟨⟨answer, hanswer⟩, hrest⟩ := h
        obtain ⟨kept, hkept⟩ := (ih (cond answer (item :: held) held)).mpr hrest
        refine ⟨kept, ?_⟩
        rw [List.filterAuxM, except_bind_ok_iff]
        exact ⟨answer, hanswer, hkept⟩
  constructor
  · intro h
    obtain ⟨kept, hkept⟩ := h
    rw [List.filterM, except_bind_ok_iff] at hkept
    obtain ⟨reversed, hreversed, -⟩ := hkept
    exact (haux []).mp ⟨reversed, hreversed⟩
  · intro h
    obtain ⟨reversed, hreversed⟩ := (haux []).mpr h
    refine ⟨reversed.reverse, ?_⟩
    rw [List.filterM, except_bind_ok_iff]
    exact ⟨reversed, hreversed, rfl⟩

end JlensEvolve.Library
