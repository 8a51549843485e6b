import Mathlib.Data.List.Forall2
import Mathlib.Data.List.Induction
import JlensEvolve.Library.Effect
import JlensEvolve.Library.OneLine

/-!
JSON-lines files that only grow, written under an exclusive lease file. A line
is the value its text decodes to, or `none` when it does not decode. Canonical
text keeps every non-ASCII character, so a text that holds one of the line
boundaries above ASCII is written across several lines, the first of which ends
inside a string and does not decode.
-/

namespace JlensEvolve.Library

variable {ε α : Type}

/-- A missing file has no lines. -/
structure AppendLog where
  lines : List (Option Json)
  lease : Bool

namespace AppendLog

def empty : AppendLog := ⟨[], false⟩

/-- What a reader finds for a payload that was written on a line of its own;
nothing after a line that does not decode is ever read. -/
def written (payload : Json) : List (Option Json) :=
  if payload.canonicalJson.toList.any isLineBoundary then [none] else [some payload]

def append (log : AppendLog) (payload : Json) : AppendLog :=
  { log with lines := log.lines ++ written payload }

theorem mem_written {payload : Json} {line : Option Json} (h : line ∈ written payload) :
    line = none ∨ line = some payload := by
  unfold written at h
  split at h
  · exact Or.inl (List.mem_singleton.mp h)
  · exact Or.inr (List.mem_singleton.mp h)

theorem written_eq (payload : Json) :
    written payload = if payload.leavesOnOneLine then [some payload] else [none] := by
  have hany : payload.canonicalJson.toList.any isLineBoundary = !payload.leavesOnOneLine := by
    rw [← payload.onOneLine_canonicalJson, onOneLine, ← List.not_any_eq_all_not, Bool.not_not]
  rw [written, hany]
  cases payload.leavesOnOneLine <;> rfl

/-- The body of a writer: refused while the lease file exists, and the lease
is given back on every exit. -/
def underLease (busy : ε) (body : EStateM ε AppendLog α) : EStateM ε AppendLog α := do
  if (← get).lease then throw busy
  modify fun log => { log with lease := true }
  withCleanup (fun log => { log with lease := false }) body

theorem run_underLease_ok_iff (busy : ε) (body : EStateM ε AppendLog α) (log after : AppendLog)
    (a : α) :
    (underLease busy body).run log = .ok a after ↔
      log.lease = false ∧ ∃ middle, body.run { log with lease := true } = .ok a middle ∧
        after = { middle with lease := false } := by
  obtain ⟨lines, lease⟩ := log
  cases lease with
  | true => simp [underLease, EStateM.run_bind]
  | false =>
    simp only [underLease, EStateM.run_bind, EStateM.run_get, Bool.false_eq_true, if_false,
      EStateM.run_modify, run_withCleanup, true_and]
    cases body.run ⟨lines, true⟩ with
    | ok b middle => simp [eq_comm]
    | error e middle => simp

/-- Whatever the body does to the lines, with or without a raise, is all that
happens to them. -/
theorem lines_underLease (busy : ε) (body : EStateM ε AppendLog α) (log : AppendLog)
    (P : List (Option Json) → Prop) (hlog : P log.lines)
    (hbody : P (finalState (body.run { log with lease := true })).lines) :
    P (finalState ((underLease busy body).run log)).lines := by
  obtain ⟨lines, lease⟩ := log
  cases lease with
  | true => simpa [underLease, EStateM.run_bind] using hlog
  | false =>
    simp only [underLease, EStateM.run_bind, EStateM.run_get, Bool.false_eq_true, if_false,
      EStateM.run_modify, finalState_withCleanup]
    exact hbody

end AppendLog

end JlensEvolve.Library

/-!
Lists whose items carry a digest of their own and the digest of the item
before. Where the digest of an item fixes what the item names as previous, one
digest that two such lists share fixes everything up to it.
-/

namespace JlensEvolve.Library

variable {α δ : Type} {digest previous : α → δ} {placed : α → ℕ → Prop} {same : α → α → Prop}

/-- Every item has its place and, but for the first, names the digest of the
item before. -/
structure Linked (digest previous : α → δ) (placed : α → ℕ → Prop) (items : List α) : Prop where
  placed : ∀ before item after, items = before ++ item :: after → placed item before.length
  linked : ∀ before first second after, items = before ++ first :: second :: after →
    previous second = digest first

theorem Linked.of_append {before after : List α}
    (h : Linked digest previous placed (before ++ after)) :
    Linked digest previous placed before where
  placed := by
    rintro first item rest rfl
    apply h.placed first item (rest ++ after)
    simp
  linked := by
    rintro rest first second last rfl
    apply h.linked rest first second (last ++ after)
    simp

end JlensEvolve.Library
