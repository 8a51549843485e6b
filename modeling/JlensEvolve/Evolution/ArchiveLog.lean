import Mathlib.Data.List.Induction
import JlensEvolve.Evolution.Lineage

/-!
The event log of an archive. A row is read back exactly when its texts break no
line; the calls only ever append the row that follows from the rows before.
-/

namespace JlensEvolve.Evolution

open Library

theorem fieldsOnOneLine_eq (fields : List (String × Json)) :
    Json.fieldsOnOneLine fields =
      ((fields.map Prod.fst).all lineFree && Json.itemsOnOneLine (fields.map Prod.snd)) := by
  induction fields with
  | nil => rfl
  | cons field fields ih =>
    obtain ⟨key, value⟩ := field
    rw [Json.fieldsOnOneLine, ih, Json.onOneLine_quote_eq_lineFree]
    simp only [List.map_cons, List.all_cons, Json.itemsOnOneLine]
    cases lineFree key <;> cases value.leavesOnOneLine <;> simp

theorem fieldsOnOneLine_append (first second : List (String × Json)) :
    Json.fieldsOnOneLine (first ++ second) =
      (Json.fieldsOnOneLine first && Json.fieldsOnOneLine second) := by
  induction first with
  | nil => rfl
  | cons field first ih =>
    obtain ⟨key, value⟩ := field
    rw [List.cons_append, Json.fieldsOnOneLine, Json.fieldsOnOneLine, ih]
    simp only [Bool.and_assoc]

def ArchiveEvent.texts : ArchiveEvent → List String
  | .candidateRegistered candidate parent changesetId blobSha256 =>
    [candidate, parent, changesetId, blobSha256]
  | .candidateStateChanged candidate parent _ _ reason evidenceSha256 =>
    [candidate, parent, reason, evidenceSha256]
  | .rollbackRecorded candidate forwardPatchSha256 rollbackPatchSha256 _ _ =>
    [candidate, forwardPatchSha256, rollbackPatchSha256, rollbackPatchSha256]
  | .searchParentAdvanced candidate previousParent decisionSha256 =>
    [candidate, previousParent, decisionSha256]

theorem lineFree_stateName (state : CandidateState) : lineFree state.name = true := by
  cases state <;> decide

theorem lineFree_eventTexts :
    ∀ text ∈ ["candidate_registered", "inactive", "inactive_changeset_registered",
      "candidate_state_changed", "rollback_recorded", "rollback_roundtrip_recorded",
      "search_parent_advanced", "selected", "experimental_search_parent_gate_passed"],
      lineFree text = true := by
  decide

theorem lineFree_eventKeys (event : ArchiveEvent) :
    (event.fields.map Prod.fst).all lineFree = true := by
  have hkeys : ∀ key ∈ ["event_type", "candidate_agent_program_sha256",
      "parent_agent_program_sha256", "changeset_id", "candidate_blob_sha256", "from_state",
      "to_state", "reason", "evidence_sha256", "forward_patch_sha256", "rollback_patch_sha256",
      "rollback_verified", "previous_parent_sha256", "production_promoted"],
      lineFree key = true := by
    decide
  simp only [List.forall_mem_cons] at hkeys
  cases event <;> simp [ArchiveEvent.fields, hkeys]

theorem onOneLine_event (event : ArchiveEvent) :
    Json.fieldsOnOneLine event.fields = event.texts.all lineFree := by
  have htexts := lineFree_eventTexts
  simp only [List.forall_mem_cons] at htexts
  rw [fieldsOnOneLine_eq, lineFree_eventKeys, Bool.true_and]
  cases event <;>
    simp [ArchiveEvent.fields, ArchiveEvent.texts, Json.itemsOnOneLine, Json.leavesOnOneLine,
      Json.onOneLine_quote_eq_lineFree, lineFree_stateName, htexts]

namespace ArchiveRow

theorem line_eq (row : ArchiveRow) :
    row.line = if row.json.leavesOnOneLine then some row else none := by
  have hany : row.json.canonicalJson.toList.any isLineBoundary = !row.json.leavesOnOneLine := by
    rw [← row.json.onOneLine_canonicalJson, onOneLine, ← List.not_any_eq_all_not, Bool.not_not]
  rw [line, hany]
  cases row.json.leavesOnOneLine <;> rfl

theorem lineFree_keys :
    ∀ key ∈ ["schema_version", "sequence", "previous_event_sha256", "event_sha256"],
      lineFree key = true := by
  decide

theorem onOneLine_json (row : ArchiveRow) (hsha : Sha256.isSha256 row.eventSha256 = true)
    (hprevious : ∀ previous ∈ row.previousEventSha256, Sha256.isSha256 previous = true) :
    row.json.leavesOnOneLine = row.event.texts.all lineFree := by
  have hkeys := lineFree_keys
  simp only [List.forall_mem_cons] at hkeys
  have hprev : ((row.previousEventSha256.map Json.str).getD .null).leavesOnOneLine = true := by
    cases hcase : row.previousEventSha256 with
    | none => rfl
    | some previous =>
      change onOneLine (Json.quote previous) = true
      exact Json.onOneLine_quote_sha256 (hprevious previous hcase)
  rw [json, Json.leavesOnOneLine, fieldsOnOneLine_append, payload, fieldsOnOneLine_append,
    onOneLine_event]
  simp [Json.fieldsOnOneLine, Json.onOneLine_quote_eq_lineFree, Json.leavesOnOneLine, hkeys, hprev,
    onOneLine_intRepr, Json.lineFree_sha256 hsha]

end ArchiveRow

namespace CandidateArchive

variable (archive : CandidateArchive)

/-- The event may come after these rows. -/
def Legal (rows : List ArchiveRow) : ArchiveEvent → Prop
  | .candidateRegistered candidate _ _ _ => ∀ row ∈ rows, row.event.candidate ≠ candidate
  | .candidateStateChanged candidate _ fromState toState _ _ =>
    fromState = replay rows candidate ∧ toState ∈ fromState.transitions
  | .rollbackRecorded candidate _ _ _ state => state = replay rows candidate
  | .searchParentAdvanced candidate _ _ =>
    replay rows candidate = .selected ∧ ∃ row ∈ rows, verifiesRollback candidate row = true

/-- Every event was legal when it was written, so the states of a candidate
follow the transition table. -/
def Follows (rows : List ArchiveRow) : Prop :=
  ∀ before row after, rows = before ++ row :: after → Legal before row.event

/-- A state without transitions is never left. -/
def Absorbing (rows : List ArchiveRow) : Prop :=
  ∀ before after candidate, rows = before ++ after →
    (replay before candidate).transitions = [] → replay rows candidate = replay before candidate

theorem replay_concat (rows : List ArchiveRow) (row : ArchiveRow) (candidate : String) :
    replay (rows ++ [row]) candidate =
      if row.event.candidate = candidate then row.event.toState else replay rows candidate := by
  simp [replay]

theorem replay_of_absent {rows : List ArchiveRow} {candidate : String}
    (h : ∀ row ∈ rows, row.event.candidate ≠ candidate) : replay rows candidate = .inactive := by
  induction rows using List.reverseRecOn with
  | nil => rfl
  | append_singleton rows row ih =>
    rw [replay_concat, if_neg (h row (by simp))]
    exact ih fun other hother => h other (List.mem_append_left _ hother)

theorem Follows.of_append {before after : List ArchiveRow} (h : Follows (before ++ after)) :
    Follows before := by
  intro earlier row later hrows
  apply h earlier row (later ++ after)
  rw [hrows]
  simp

theorem follows_concat_iff {rows : List ArchiveRow} {row : ArchiveRow} :
    Follows (rows ++ [row]) ↔ Follows rows ∧ Legal rows row.event := by
  constructor
  · intro h
    exact ⟨h.of_append, h rows row [] rfl⟩
  · intro ⟨hrows, hrow⟩ before other after heq
    cases after using List.reverseRecOn with
    | nil =>
      obtain ⟨rfl, hlast⟩ := List.append_inj' heq rfl
      cases hlast
      exact hrow
    | append_singleton after last =>
      rw [← List.cons_append, ← List.append_assoc] at heq
      obtain ⟨rfl, -⟩ := List.append_inj' heq rfl
      exact hrows before other after rfl

theorem Legal.absorbs {rows : List ArchiveRow} {row : ArchiveRow} {candidate : String}
    (h : Legal rows row.event) (hend : (replay rows candidate).transitions = []) :
    replay (rows ++ [row]) candidate = replay rows candidate := by
  rw [replay_concat]
  split
  · rename_i hsame
    cases hevent : row.event with
    | candidateRegistered other parent changesetId blobSha256 =>
      rw [hevent] at h hsame
      have hinactive : replay rows candidate = .inactive :=
        replay_of_absent fun row hrow heq => h row hrow (heq.trans hsame.symm)
      rw [hinactive]
      rfl
    | candidateStateChanged other parent fromState toState reason evidenceSha256 =>
      rw [hevent] at h hsame
      obtain rfl : other = candidate := hsame
      obtain ⟨rfl, hmem⟩ := h
      rw [hend] at hmem
      cases hmem
    | rollbackRecorded other forward rollback verified state =>
      rw [hevent] at h hsame
      obtain rfl : other = candidate := hsame
      exact h
    | searchParentAdvanced other previous decision =>
      rw [hevent] at h hsame
      obtain rfl : other = candidate := hsame
      exact h.1.symm
  · rfl

theorem Follows.absorbing {rows : List ArchiveRow} (h : Follows rows) : Absorbing rows := by
  intro before after candidate hrows hend
  induction after using List.reverseRecOn generalizing rows with
  | nil =>
    rw [List.append_nil] at hrows
    rw [hrows]
  | append_singleton after row ih =>
    rw [← List.append_assoc] at hrows
    subst hrows
    obtain ⟨hbefore, hlegal⟩ := follows_concat_iff.mp h
    have hkept := ih hbefore rfl
    rw [hlegal.absorbs (by rw [hkept]; exact hend), hkept]

theorem rowErrors_append (index : Nat) (previous : Option String) (rows more : List ArchiveRow) :
    rowErrors index previous (rows ++ more) =
      rowErrors index previous rows ++
        rowErrors (index + rows.length) ((rows.getLast?.map ArchiveRow.eventSha256).or previous)
          more := by
  induction rows generalizing index previous with
  | nil => rfl
  | cons row rows ih =>
    have hlast : ((rows.getLast?.map ArchiveRow.eventSha256).or (some row.eventSha256)) =
        (((row :: rows).getLast?.map ArchiveRow.eventSha256).or previous) := by
      rw [List.getLast?_cons]
      cases rows.getLast? <;> rfl
    simp only [List.cons_append, rowErrors, ih, hlast, List.length_cons, List.append_assoc]
    rw [show index + 1 + rows.length = index + (rows.length + 1) by omega]

theorem rowErrors_nextRow (rows : List ArchiveRow) (event : ArchiveEvent) :
    rowErrors 1 none (rows ++ [nextRow rows event]) = rowErrors 1 none rows := by
  have hsequence : (nextRow rows event).sequence = 1 + rows.length := Nat.add_comm _ _
  have hprevious : (nextRow rows event).previousEventSha256 =
      (rows.getLast?.map ArchiveRow.eventSha256).or none := by
    rw [Option.or_none]
    rfl
  have hdigest : (nextRow rows event).eventSha256 =
      (Json.obj (nextRow rows event).payload).contentSha256 := rfl
  rw [rowErrors_append, rowErrors, if_pos hsequence, if_pos hprevious, if_pos hdigest]
  simp [rowErrors]

theorem eventSha256_of_no_errors {index : Nat} {previous : Option String}
    {rows : List ArchiveRow} (h : rowErrors index previous rows = []) :
    ∀ row ∈ rows, Sha256.isSha256 row.eventSha256 = true := by
  induction rows generalizing index previous with
  | nil =>
    intro row hrow
    cases hrow
  | cons first rows ih =>
    simp only [rowErrors, List.append_eq_nil_iff] at h
    obtain ⟨⟨⟨-, -⟩, hdigest⟩, hrest⟩ := h
    intro row hrow
    rcases List.mem_cons.mp hrow with rfl | hrow
    · split at hdigest
      · rename_i heq
        rw [heq]
        exact Json.contentSha256_isSha256 _
      · cases hdigest
    · exact ih hrest row hrow

theorem line_nextRow {rows : List ArchiveRow} (h : rowErrors 1 none rows = [])
    (event : ArchiveEvent) :
    (nextRow rows event).line =
      if event.texts.all lineFree then some (nextRow rows event) else none := by
  rw [ArchiveRow.line_eq, ArchiveRow.onOneLine_json]
  · rfl
  · exact Json.contentSha256_isSha256 _
  · intro previous hprevious
    obtain ⟨last, hlast, rfl⟩ := Option.map_eq_some_iff.mp hprevious
    exact eventSha256_of_no_errors h last (List.mem_of_getLast? hlast)

end CandidateArchive

end JlensEvolve.Evolution
