import JlensEvolve.AgentProgram.TournamentWinner

/-!
The decision of a tournament. `decide` returns exactly on the complete matrices;
there the decision passes its own construction checks and names the winner,
whatever the order of the rows.
-/

namespace JlensEvolve.AgentProgram

open Library Contracts

namespace TournamentAuthority

theorem onlyOne_ok_iff {α : Type} [DecidableEq α] {values : List α} {error : String} {value : α} :
    onlyOne values error = .ok value ↔ value ∈ values ∧ ∀ other ∈ values, other = value := by
  rw [onlyOne]
  constructor
  · intro h
    split at h
    · next found hdedup =>
      cases h
      have hmem : ∀ other, other ∈ values ↔ other = value := by
        intro other
        rw [← List.mem_dedup, hdedup, List.mem_singleton]
      exact ⟨(hmem value).mpr rfl, fun other hother => (hmem other).mp hother⟩
    · cases h
  · intro h
    obtain ⟨hmem, hall⟩ := h
    have hdedup : values.dedup = [value] := by
      refine List.perm_singleton.mp ?_
      rw [List.perm_ext_iff_of_nodup (List.nodup_dedup values) (List.nodup_singleton value)]
      intro other
      rw [List.mem_dedup, List.mem_singleton]
      exact ⟨hall other, fun hsame => hsame ▸ hmem⟩
    rw [hdedup]

theorem tournamentIdOf_ok_iff {value : Json} {tournamentId : String} :
    tournamentIdOf value = .ok tournamentId ↔ value = .str tournamentId ∧ tournamentId ≠ "" := by
  cases value with
  | str text =>
    rw [tournamentIdOf]
    split
    · next hempty => simp [hempty, eq_comm]
    · next hne =>
      simp only [Except.ok.injEq, Json.str.injEq]
      exact ⟨fun hsame => ⟨hsame, hsame ▸ hne⟩, And.left⟩
  | _ => simp [tournamentIdOf]

theorem tournamentConfigOf_ok_iff {value : Json} {digest : String} :
    tournamentConfigOf value = .ok digest ↔ value = .str digest ∧ digest.length = 64 := by
  cases value with
  | str text =>
    rw [tournamentConfigOf]
    split
    · next hlength =>
      simp only [Except.ok.injEq, Json.str.injEq]
      exact ⟨fun hsame => ⟨hsame, hsame ▸ hlength⟩, And.left⟩
    · next hlength =>
      simp only [reduceCtorEq, Json.str.injEq, false_iff, not_and]
      exact fun hsame => hsame ▸ hlength
  | _ => simp [tournamentConfigOf]

variable {parentRevisionId : String} {rows : List Row}

theorem mem_revisionsOf {arm revision : String} :
    revision ∈ revisionsOf arm (rows.map Prod.fst) ↔
      ∃ row ∈ rows, row.1.arm = arm ∧ row.1.candidateRevisionId = revision := by
  simp only [revisionsOf, List.mem_map, List.mem_filter, decide_eq_true_eq]
  constructor
  · rintro ⟨plan, ⟨⟨row, hrow, rfl⟩, harm⟩, hrevision⟩
    exact ⟨row, hrow, harm, hrevision⟩
  · rintro ⟨row, hrow, harm, hrevision⟩
    exact ⟨row.1, ⟨⟨row, hrow, rfl⟩, harm⟩, hrevision⟩

/-- The plan checks find a matrix exactly where the rows satisfy what
completeness says of plans. -/
theorem checkPlans_of_complete (h : Complete parentRevisionId rows) :
    ∃ matrix, checkPlans (rows.map Prod.fst) = .ok matrix ∧
      matrix.parentRevisionId = parentRevisionId ∧
      ∀ revision, revision ∈ matrix.participants ↔ Participates rows revision := by
  obtain ⟨parentRow, hparentRow, hparentArm⟩ := h.parent_row
  obtain ⟨candidateRow, hcandidateRow, hcandidateArm⟩ := h.candidate_row
  obtain ⟨tournamentId, hid, htournament⟩ := h.one_tournament
  obtain ⟨digest, hlength, hdigest⟩ := h.one_configuration
  have hparent := (h.parent_arm parentRow hparentRow).mp hparentArm
  have hcandidates : ∀ revision, revision ∈ fromKeys (revisionsOf "candidate" (rows.map Prod.fst)) ↔
      ∃ row ∈ rows, row.1.arm = "candidate" ∧ row.1.candidateRevisionId = revision := by
    intro revision
    rw [mem_fromKeys_iff, mem_revisionsOf]
  have hparticipants : ∀ revision, revision ∈ parentRevisionId ::
      fromKeys (revisionsOf "candidate" (rows.map Prod.fst)) ↔ Participates rows revision := by
    intro revision
    rw [List.mem_cons, hcandidates]
    constructor
    · rintro (rfl | ⟨row, hrow, -, hrevision⟩)
      · exact ⟨parentRow, hparentRow, hparent⟩
      · exact ⟨row, hrow, hrevision⟩
    · rintro ⟨row, hrow, hrevision⟩
      rcases h.arms row hrow with harm | harm
      · exact Or.inl (hrevision.symm.trans ((h.parent_arm row hrow).mp harm))
      · exact Or.inr ⟨row, hrow, harm, hrevision⟩
  refine ⟨⟨tournamentId, parentRow.1.campaignId, parentRevisionId,
    fromKeys (revisionsOf "candidate" (rows.map Prod.fst)),
    fromKeys ((rows.map Prod.fst).map (·.task.revisionId)), digest, matchedConfig parentRow.1⟩,
    ?_, rfl, hparticipants⟩
  have hone : ∀ {β : Type} [DecidableEq β] (read : ExecutionPlan → β) (error : String) (value : β),
      (∀ row ∈ rows, read row.1 = value) →
      onlyOne ((rows.map Prod.fst).map read) error = .ok value := by
    intro β _ read error value hall
    rw [onlyOne_ok_iff]
    constructor
    · rw [← hall parentRow hparentRow]
      exact List.mem_map_of_mem (List.mem_map_of_mem hparentRow)
    · simp only [List.forall_mem_map]
      exact hall
  have hcells : (rows.map Prod.fst).map cellOf = rows.map (cellOf ·.1) := List.map_map
  simp only [checkPlans, except_bind_ok_iff, require_ok_iff, exists_const]
  refine ⟨?_, _, hone _ _ parentRow.1.campaignId ?_, _, hone _ _ (.str tournamentId) htournament,
    _, hone _ _ (.str digest) hdigest, tournamentId, tournamentIdOf_ok_iff.mpr ⟨rfl, hid⟩, digest,
    tournamentConfigOf_ok_iff.mpr ⟨rfl, hlength⟩, _, hone _ _ (matchedConfig parentRow.1) ?_,
    parentRevisionId, ?_, ?_, ?_, ?_, ?_, ?_, rfl⟩
  · rw [List.map_map]
    exact h.plans_apart
  · exact fun row hrow => h.one_campaign row hrow parentRow hparentRow
  · exact fun row hrow => h.matched row hrow parentRow hparentRow
  · rw [onlyOne_ok_iff, mem_revisionsOf]
    refine ⟨⟨parentRow, hparentRow, hparentArm, hparent⟩, fun other hother => ?_⟩
    obtain ⟨row, hrow, harm, rfl⟩ := mem_revisionsOf.mp hother
    exact (h.parent_arm row hrow).mp harm
  · exact List.ne_nil_of_mem ((hcandidates _).mpr ⟨candidateRow, hcandidateRow, hcandidateArm, rfl⟩)
  · simp only [List.forall_mem_map]
    exact h.arms
  · rw [List.nodup_cons, hcandidates]
    refine ⟨?_, nodup_fromKeys _⟩
    rintro ⟨row, hrow, harm, hrevision⟩
    have hrowParent := (h.parent_arm row hrow).mpr hrevision
    rw [hrowParent] at harm
    exact absurd harm (by decide)
  · rw [hcells]
    exact h.cells_apart
  · rw [hcells]
    constructor
    · simp only [List.forall_mem_map]
      intro row hrow
      refine ⟨?_, (hparticipants _).mpr ⟨row, hrow, rfl⟩⟩
      rw [mem_fromKeys_iff, List.map_map]
      exact List.mem_map_of_mem hrow
    · intro task htask revision hrevision
      rw [mem_fromKeys_iff, List.map_map] at htask
      obtain ⟨row, hrow, rfl⟩ := List.mem_map.mp htask
      obtain ⟨other, hother, rfl⟩ := (hparticipants revision).mp hrevision
      obtain ⟨cell, hcell, hsame⟩ := h.full row hrow other hother
      exact List.mem_map.mpr ⟨cell, hcell, hsame⟩

/-- No two cells of a revision differ in their bundle. -/
def OneBundle (cells : List Cell) : Prop :=
  ∀ cell ∈ cells, ∀ other ∈ cells, cell.revisionId = other.revisionId → cell.bundle = other.bundle

theorem oneBundle_concat_iff {cells : List Cell} (hcells : OneBundle cells) (cell : Cell) :
    OneBundle (cells ++ [cell]) ↔
      ∀ prior ∈ bundleHolder cells cell.revisionId, prior.bundle = cell.bundle := by
  constructor
  · intro h prior hprior
    have hfound := List.find?_some hprior
    exact h prior (List.mem_append_left _ (List.mem_of_find?_eq_some hprior)) cell
      (List.mem_append_right _ List.mem_cons_self) (of_decide_eq_true hfound)
  · intro h
    have hagree : ∀ other ∈ cells, other.revisionId = cell.revisionId →
        other.bundle = cell.bundle := by
      intro other hother hrevision
      cases hholder : bundleHolder cells cell.revisionId with
      | none =>
        have hnone := List.find?_eq_none.mp hholder other hother
        exact absurd (decide_eq_true hrevision) hnone
      | some prior =>
        have hprior := List.find?_some hholder
        exact (hcells other hother prior (List.mem_of_find?_eq_some hholder)
          (hrevision.trans (of_decide_eq_true hprior).symm)).trans (h prior hholder)
    intro first hfirst second hsecond hsame
    rcases List.mem_append.mp hfirst with hfirst | hfirst
    · rcases List.mem_append.mp hsecond with hsecond | hsecond
      · exact hcells first hfirst second hsecond hsame
      · rw [List.mem_singleton.mp hsecond] at hsame ⊢
        exact hagree first hfirst hsame
    · rw [List.mem_singleton.mp hfirst] at hsame ⊢
      rcases List.mem_append.mp hsecond with hsecond | hsecond
      · exact (hagree second hsecond hsame.symm).symm
      · rw [List.mem_singleton.mp hsecond]

def ReadAs (parentRevisionId : String) (rows : List Row) (cells : List Cell) : Prop :=
  List.Forall₂ (fun row cell => readCell parentRevisionId row = .ok cell) rows cells

theorem readCells_ok_iff {cells found : List Cell} (hcells : OneBundle cells) :
    readCells parentRevisionId cells rows = .ok found ↔
      ∃ read, ReadAs parentRevisionId rows read ∧ found = cells ++ read ∧ OneBundle found := by
  induction rows generalizing cells with
  | nil =>
    rw [readCells, Except.ok.injEq]
    constructor
    · rintro rfl
      exact ⟨[], List.Forall₂.nil, (List.append_nil _).symm, hcells⟩
    · rintro ⟨read, hread, rfl, -⟩
      cases hread
      exact (List.append_nil _).symm
  | cons row rest ih =>
    simp only [readCells, except_bind_ok_iff, require_ok_iff, exists_const]
    constructor
    · rintro ⟨cell, hcell, hholder, hrest⟩
      obtain ⟨read, hread, rfl, hone⟩ :=
        (ih ((oneBundle_concat_iff hcells cell).mpr hholder)).mp hrest
      exact ⟨cell :: read, List.Forall₂.cons hcell hread, List.append_assoc _ _ _, hone⟩
    · rintro ⟨read, hread, rfl, hone⟩
      cases hread with
      | cons hcell hrest =>
        rename_i cell others
        have hhere : OneBundle (cells ++ [cell]) := by
          intro first hfirst second hsecond
          refine hone first ?_ second ?_
          · rw [← List.singleton_append, ← List.append_assoc]
            exact List.mem_append_left _ hfirst
          · rw [← List.singleton_append, ← List.append_assoc]
            exact List.mem_append_left _ hsecond
        refine ⟨cell, hcell, (oneBundle_concat_iff hcells cell).mp hhere,
          (ih hhere).mpr ⟨others, hrest, ?_, hone⟩⟩
        rw [List.append_assoc, List.singleton_append]

theorem readCell_fields {row : Row} {cell : Cell} (h : readCell parentRevisionId row = .ok cell) :
    cell.revisionId = row.1.candidateRevisionId ∧ cell.score = scoreOf row := by
  simp only [readCell, except_bind_ok_iff, require_ok_iff, exists_const] at h
  obtain ⟨-, model, hmodel, -, -, -, -, _, -, score, hscore, programId, -, bundle, -, hcell⟩ := h
  cases hcell
  refine ⟨rfl, ?_⟩
  rw [scoreOf, hmodel]
  simp only [hscore]

theorem mean_of_readAs {cells : List Cell} (h : ReadAs parentRevisionId rows cells) :
    mean cells = meanScore rows := by
  have hscores : ∀ revision, scoresOf cells revision =
      (rows.filter (·.1.candidateRevisionId = revision)).map scoreOf := by
    intro revision
    induction h with
    | nil => rfl
    | cons hcell _ ih =>
      obtain ⟨hrevision, hscore⟩ := readCell_fields hcell
      rw [scoresOf] at ih ⊢
      rw [List.filter_cons, List.filter_cons, hrevision]
      split
      · rw [List.map_cons, List.map_cons, ih, hscore]
      · exact ih
  funext revision
  simp only [mean, meanScore, hscores]

theorem readCells_of_complete (h : Complete parentRevisionId rows) :
    ∃ cells, readCells parentRevisionId [] rows = .ok cells ∧
      ReadAs parentRevisionId rows cells := by
  have hread : ∀ row ∈ rows, ∃ cell, readCell parentRevisionId row = .ok cell := h.reads
  obtain ⟨cells, hcells⟩ := mapM_ok_of_forall hread
  have hreadAs : ReadAs parentRevisionId rows cells := by
    clear h hread
    induction rows generalizing cells with
    | nil =>
      cases hcells
      exact List.Forall₂.nil
    | cons row rest ih =>
      simp only [List.mapM_cons, except_bind_ok_iff] at hcells
      obtain ⟨cell, hcell, others, hothers, hsame⟩ := hcells
      cases hsame
      exact List.Forall₂.cons hcell (ih others hothers)
  have hone : OneBundle cells := by
    intro first hfirst second hsecond hsame
    obtain ⟨row, hrow, hfirstRead⟩ := (mem_mapM_iff hcells first).mp hfirst
    obtain ⟨other, hother, hsecondRead⟩ := (mem_mapM_iff hcells second).mp hsecond
    exact h.one_bundle row hrow other hother first second hfirstRead hsecondRead hsame
  have hnil : OneBundle [] := fun _ hcell => absurd hcell List.not_mem_nil
  exact ⟨cells, (readCells_ok_iff hnil).mpr ⟨cells, hreadAs, rfl, hone⟩, hreadAs⟩

theorem ReadAs.mem_row {cells : List Cell} (h : ReadAs parentRevisionId rows cells) {cell : Cell}
    (hcell : cell ∈ cells) : ∃ row ∈ rows, readCell parentRevisionId row = .ok cell := by
  induction h with
  | nil => exact absurd hcell List.not_mem_nil
  | cons hread _ ih =>
    rcases List.mem_cons.mp hcell with rfl | hcell
    · exact ⟨_, List.mem_cons_self, hread⟩
    · obtain ⟨row, hrow, hread⟩ := ih hcell
      exact ⟨row, List.mem_cons_of_mem _ hrow, hread⟩

theorem ReadAs.mem_cell {cells : List Cell} (h : ReadAs parentRevisionId rows cells) {row : Row}
    (hrow : row ∈ rows) : ∃ cell ∈ cells, readCell parentRevisionId row = .ok cell := by
  induction h with
  | nil => exact absurd hrow List.not_mem_nil
  | cons hread _ ih =>
    rcases List.mem_cons.mp hrow with rfl | hrow
    · exact ⟨_, List.mem_cons_self, hread⟩
    · obtain ⟨cell, hcell, hread⟩ := ih hrow
      exact ⟨cell, List.mem_cons_of_mem _ hcell, hread⟩

theorem zip_fst_snd : (rows.map Prod.fst).zip (rows.map Prod.snd) = rows := by
  rw [List.zip_map']
  exact List.map_id rows

theorem postInit_decisionOf {matrix : Matrix} {plans : List ExecutionPlan} {cells : List Cell}
    {programId winner : String} (hwinner : winner ∈ matrix.participants) :
    (decisionOf matrix plans cells programId winner).postInit (TournamentDecision.idOf
      (decisionOf matrix plans cells programId winner).decisionSha256) = .ok () := by
  simp only [TournamentDecision.postInit, except_bind_ok_iff, require_ok_iff, exists_const]
  exact ⟨rfl, rfl, rfl, rfl, hwinner, rfl⟩

theorem decide_of_complete (h : Complete parentRevisionId rows) :
    ∃ decision, TournamentAuthority.decide (rows.map Prod.fst) (rows.map Prod.snd) =
        .ok decision ∧ decision.parentRevisionId = parentRevisionId ∧
      Wins parentRevisionId rows decision.winnerRevisionId := by
  obtain ⟨matrix, hmatrix, hparent, hparticipants⟩ := checkPlans_of_complete h
  obtain ⟨cells, hcells, hreadAs⟩ := readCells_of_complete h
  obtain ⟨parentRow, hparentRow, -⟩ := h.parent_row
  obtain ⟨parentCell, hparentCell, hparentRead⟩ := hreadAs.mem_cell hparentRow
  have hprogram : onlyOne (cells.map (·.programId)) "tournament mixes AgentProgram identities" =
      .ok parentCell.programId := by
    rw [onlyOne_ok_iff]
    refine ⟨List.mem_map_of_mem hparentCell, ?_⟩
    simp only [List.forall_mem_map]
    intro cell hcell
    obtain ⟨row, hrow, hread⟩ := hreadAs.mem_row hcell
    exact h.one_program row hrow parentRow hparentRow cell parentCell hread hparentRead
  have hmember : parentRevisionId ∈ matrix.participants := by
    rw [← hparent]
    exact List.mem_cons_self
  obtain ⟨winner, hwinner, hwins⟩ := winnerOf_wins hmember hparticipants
  refine ⟨decisionOf matrix (rows.map Prod.fst) cells parentCell.programId winner, ?_, hparent,
    hwins⟩
  simp only [TournamentAuthority.decide, except_bind_ok_iff, require_ok_iff, exists_const]
  refine ⟨⟨?_, by rw [List.length_map, List.length_map]⟩, matrix, hmatrix, cells, ?_,
    parentCell.programId, hprogram, winner, ?_, (), postInit_decisionOf ?_, rfl⟩
  · exact List.ne_nil_of_mem (List.mem_map_of_mem hparentRow)
  · rw [zip_fst_snd, hparent]
    exact hcells
  · rw [hparent, mean_of_readAs hreadAs]
    exact hwinner
  · exact (hparticipants winner).mpr hwins.participates

theorem complete_of_decide {decision : TournamentDecision}
    (h : TournamentAuthority.decide (rows.map Prod.fst) (rows.map Prod.snd) = .ok decision) :
    Complete decision.parentRevisionId rows := by
  simp only [TournamentAuthority.decide, except_bind_ok_iff, require_ok_iff, exists_const] at h
  obtain ⟨-, matrix, hmatrix, cells, hcells, programId, hprogram, winner, -, -, -, hdecision⟩ := h
  cases hdecision
  simp only [checkPlans, except_bind_ok_iff, require_ok_iff, exists_const, onlyOne_ok_iff,
    List.forall_mem_map, tournamentIdOf_ok_iff, tournamentConfigOf_ok_iff] at hmatrix
  obtain ⟨hplans, campaignId, ⟨-, hcampaign⟩, tournament, ⟨-, htournament⟩, config, ⟨-, hconfig⟩,
    tournamentId, ⟨rfl, hid⟩, digest, ⟨rfl, hlength⟩, matchedHash, ⟨-, hmatched⟩, parent,
    ⟨hparentMem, hparent⟩, hcandidates, harms, hapart, hcellsApart, hfills, hsame⟩ := hmatrix
  cases hsame
  have hnil : OneBundle [] := fun _ hcell => absurd hcell List.not_mem_nil
  rw [zip_fst_snd] at hcells
  obtain ⟨read, hreadAs, hread, hone⟩ := (readCells_ok_iff hnil).mp hcells
  rw [List.nil_append] at hread
  subst hread
  have hcell : ∀ row ∈ rows, ∀ cell, readCell parent row = .ok cell → cell ∈ cells := by
    intro row hrow cell hcell
    obtain ⟨found, hfound, hreadCell⟩ := hreadAs.mem_cell hrow
    rw [hcell, Except.ok.injEq] at hreadCell
    exact hreadCell ▸ hfound
  have hprograms := (onlyOne_ok_iff.mp hprogram).2
  simp only [List.forall_mem_map] at hprograms
  rw [List.map_map] at hplans hcellsApart
  obtain ⟨hparentFresh, -⟩ := List.nodup_cons.mp hapart
  have hisParent : ∀ row ∈ rows, row.1.arm = "search-parent" →
      row.1.candidateRevisionId = parent := fun row hrow harm =>
    hparent _ (mem_revisionsOf.mpr ⟨row, hrow, harm, rfl⟩)
  have hisCandidate : ∀ row ∈ rows, row.1.arm = "candidate" → row.1.candidateRevisionId ∈
      fromKeys (revisionsOf "candidate" (rows.map Prod.fst)) := fun row hrow harm =>
    mem_fromKeys_iff.mpr (mem_revisionsOf.mpr ⟨row, hrow, harm, rfl⟩)
  exact
    { plans_apart := hplans
      one_campaign := fun row hrow other hother =>
        (hcampaign row hrow).trans (hcampaign other hother).symm
      one_tournament := ⟨tournamentId, hid, htournament⟩
      one_configuration := ⟨digest, hlength, hconfig⟩
      matched := fun row hrow other hother =>
        (hmatched row hrow).trans (hmatched other hother).symm
      arms := harms
      parent_row := by
        obtain ⟨row, hrow, harm, -⟩ := mem_revisionsOf.mp hparentMem
        exact ⟨row, hrow, harm⟩
      parent_arm := by
        intro row hrow
        constructor
        · exact hisParent row hrow
        · intro hrevision
          rcases harms row hrow with harm | harm
          · exact harm
          · have hsame : row.1.candidateRevisionId = parent := hrevision
            have hmember := hisCandidate row hrow harm
            rw [hsame] at hmember
            exact absurd hmember hparentFresh
      candidate_row := by
        obtain ⟨candidate, hcandidate⟩ := List.exists_mem_of_ne_nil _ hcandidates
        obtain ⟨row, hrow, harm, -⟩ := mem_revisionsOf.mp (mem_fromKeys_iff.mp hcandidate)
        exact ⟨row, hrow, harm⟩
      cells_apart := hcellsApart
      full := by
        intro row hrow other hother
        have htask : row.1.task.revisionId ∈
            fromKeys ((rows.map Prod.fst).map (·.task.revisionId)) :=
          mem_fromKeys_iff.mpr (List.mem_map_of_mem (List.mem_map_of_mem hrow))
        have hrevision : other.1.candidateRevisionId ∈
            parent :: fromKeys (revisionsOf "candidate" (rows.map Prod.fst)) := by
          rcases harms other hother with harm | harm
          · rw [hisParent other hother harm]
            exact List.mem_cons_self
          · exact List.mem_cons_of_mem _ (hisCandidate other hother harm)
        have hfilled := hfills.2 _ htask _ hrevision
        rw [List.map_map] at hfilled
        obtain ⟨cell, hmem, hsame⟩ := List.mem_map.mp hfilled
        exact ⟨cell, hmem, hsame⟩
      reads := by
        intro row hrow
        obtain ⟨cell, -, hread⟩ := hreadAs.mem_cell hrow
        exact ⟨cell, hread⟩
      one_program := by
        intro row hrow other hother first second hfirst hsecond
        exact (hprograms first (hcell row hrow first hfirst)).trans
          (hprograms second (hcell other hother second hsecond)).symm
      one_bundle := by
        intro row hrow other hother first second hfirst hsecond hsame
        exact hone first (hcell row hrow first hfirst) second (hcell other hother second hsecond)
          hsame }

/-- `decide` returns exactly on complete matrices: of one campaign, tournament and
configuration, with the parent and a candidate and the same cells in every arm. -/
theorem decide_returns_iff :
    (∃ decision, TournamentAuthority.decide (rows.map Prod.fst) (rows.map Prod.snd) =
      .ok decision) ↔ ∃ parentRevisionId, Complete parentRevisionId rows := by
  constructor
  · rintro ⟨decision, hdecision⟩
    exact ⟨decision.parentRevisionId, complete_of_decide hdecision⟩
  · rintro ⟨parentRevisionId, hcomplete⟩
    obtain ⟨decision, hdecision, -⟩ := decide_of_complete hcomplete
    exact ⟨decision, hdecision⟩

/-- On every complete matrix `decide` builds its decision. The winner has the
highest mean, it is the parent where no mean is above that of the parent, and
every order of the rows names the same one. -/
theorem winner_of_matrix (h : Complete parentRevisionId rows) :
    ∃ decision, TournamentAuthority.decide (rows.map Prod.fst) (rows.map Prod.snd) =
        .ok decision ∧
      decision.parentRevisionId = parentRevisionId ∧
      Participates rows decision.winnerRevisionId ∧
      (∀ revision, Participates rows revision →
        meanScore rows revision ≤ meanScore rows decision.winnerRevisionId) ∧
      ((∀ revision, Participates rows revision →
          meanScore rows revision ≤ meanScore rows parentRevisionId) →
        decision.winnerRevisionId = parentRevisionId) ∧
      ∀ others : List Row, rows.Perm others →
        ∃ reordered, TournamentAuthority.decide (others.map Prod.fst) (others.map Prod.snd) =
            .ok reordered ∧
          reordered.winnerRevisionId = decision.winnerRevisionId := by
  obtain ⟨decision, hdecision, hparent, hwins⟩ := decide_of_complete h
  have hmember : Participates rows parentRevisionId := by
    obtain ⟨row, hrow, harm⟩ := h.parent_row
    exact ⟨row, hrow, (h.parent_arm row hrow).mp harm⟩
  refine ⟨decision, hdecision, hparent, hwins.participates, hwins.maximal, ?_, ?_⟩
  · intro hbest
    exact hwins.parent_first
      (le_antisymm (hwins.maximal _ hmember) (hbest _ hwins.participates))
  · intro others hperm
    obtain ⟨reordered, hreordered, -, hotherWins⟩ := decide_of_complete (h.perm hperm)
    exact ⟨reordered, hreordered, hotherWins.unique (hwins.perm hperm)⟩

def digest : String := "0000000000000000000000000000000000000000000000000000000000000000"

theorem digest_isSha256 : isSha256 digest = true := by decide

def fixtureTask : TaskRevision where
  taskId := "task"
  revisionId := "task-1"
  project := "project"
  cohort := .feedback
  sourceSha256 := digest
  evaluatorId := "evaluator"
  sourceUri := none
  texts := by decide
  source_isSha256 := digest_isSha256
  cohort_notBurned := fun hburned => Cohort.noConfusion hburned

theorem fixtureLimits_tokens : (0 : Int) ≤ 0 := by omega

theorem fixtureLimits_seconds : (0 : Int) < 1 := by omega

theorem fixtureLimits_cost : (0 : ℚ) ≤ 0 := Rat.le_refl

theorem fixturePlan_observers : ["observer"] ≠ [] := List.cons_ne_nil "observer" []

theorem fixturePlan_feedback :
    fixtureTask.cohort ≠ .feedback → "feedback-only" ≠ "feedback-only" :=
  fun hother => absurd rfl hother

theorem fixtureModel_texts :
    isText "fixture" = true ∧ isText "model" = true ∧ isText "1" = true := by
  decide

theorem fixturePlan_texts {planId arm revision : String}
    (htexts : isText planId = true ∧ isText revision = true ∧ isText arm = true) :
    ∀ text ∈ [planId, "campaign", "agent-program", revision, arm, "context", "tools",
      "evaluator", "feedback-only"], isText text = true := by
  simp only [List.forall_mem_cons, htexts, true_and]
  decide

/-- The plan of a revision in an arm, on the one task. -/
def fixturePlan (planId arm revision : String)
    (htexts : isText planId = true ∧ isText revision = true ∧ isText arm = true) :
    ExecutionPlan where
  planId := planId
  campaignId := "campaign"
  strategyId := "agent-program"
  task := fixtureTask
  candidateRevisionId := revision
  arm := arm
  model := ⟨"fixture", "model", "1", fixtureModel_texts⟩
  contextPolicyId := "context"
  toolPolicyId := "tools"
  observerPolicyIds := ["observer"]
  nativeEvaluatorId := "evaluator"
  limits := ⟨0, 1, 0, fixtureLimits_tokens, fixtureLimits_seconds, fixtureLimits_cost⟩
  holdoutScope := "feedback-only"
  metadata := [("tournament_id", .str "tournament"), ("tournament_config_sha256", .str digest),
    ("program_bundle_sha256", .str revision)]
  texts := fixturePlan_texts htexts
  observerPolicyIds_ne := fixturePlan_observers
  feedbackOnly := fixturePlan_feedback

def fixturePayload (revision : String) (score : ℚ) : List (String × Json) :=
  [("execution_scope", .str "fixture"), ("revision_id", .str revision),
    ("parent_revision_id", .str "parent"), ("program_bundle_sha256", .str revision),
    ("program_id", .str "program"), ("fixture_score", .float score)]

def fixtureModel (planId revision : String) (score : ℚ) : Receipt :=
  ⟨planId ++ "-model", "campaign", planId, 1, "model", "2026-01-01T00:00:00+00:00",
    fixturePayload revision score, (Json.obj (fixturePayload revision score)).contentSha256, none⟩

def fixtureRow (planId arm revision : String) (score : ℚ)
    (htexts : isText planId = true ∧ isText revision = true ∧ isText arm = true) : Row :=
  ⟨fixturePlan planId arm revision htexts,
    ⟨"completed", [fixtureModel planId revision score], [], false⟩⟩

theorem modelReceipt_of_single {plan : ExecutionPlan} {execution : Runtime.ExecutionResult}
    {model : Receipt} (hidentity : ∀ receipt ∈ execution.receipts,
      receipt.planId = plan.planId ∧ receipt.campaignId = plan.campaignId)
    (hmodels : execution.receipts.filter (·.kind = "model") = [model])
    (hartifact : model.artifactSha256 = (Json.obj model.payload).contentSha256) :
    modelReceipt plan execution = .ok model := by
  unfold modelReceipt
  simp only [except_bind_ok_iff, require_ok_iff, exists_const]
  refine ⟨hidentity, ?_⟩
  rw [hmodels]
  simp only [except_bind_ok_iff, require_ok_iff, exists_const]
  exact ⟨hartifact, rfl⟩

theorem modelReceipt_fixtureRow (planId arm revision : String) (score : ℚ)
    (htexts : isText planId = true ∧ isText revision = true ∧ isText arm = true) :
    modelReceipt (fixtureRow planId arm revision score htexts).1
      (fixtureRow planId arm revision score htexts).2 =
      .ok (fixtureModel planId revision score) := by
  apply modelReceipt_of_single
  · intro receipt hreceipt
    rw [List.mem_singleton.mp hreceipt]
    exact ⟨rfl, rfl⟩
  · rfl
  · rfl

theorem readCell_fixtureRow (planId arm revision : String) (score : ℚ)
    (htexts : isText planId = true ∧ isText revision = true ∧ isText arm = true) :
    readCell "parent" (fixtureRow planId arm revision score htexts) =
      .ok ⟨revision, score, "program", revision, planId ++ "-model"⟩ := by
  simp only [readCell, except_bind_ok_iff, require_ok_iff, exists_const]
  refine ⟨rfl, _, modelReceipt_fixtureRow planId arm revision score htexts, rfl, rfl,
    Json.pyEq_self _, fun _ => rfl, (), rfl, score, rfl, "program", rfl, revision, rfl, rfl⟩

def uneven : List Row :=
  [fixtureRow "plan-1" "search-parent" "parent" (1 / 2) (by decide),
    fixtureRow "plan-2" "candidate" "challenger" 1 (by decide)]

theorem forall_uneven {P : Row → Prop} :
    (∀ row ∈ uneven, P row) ↔
      P (fixtureRow "plan-1" "search-parent" "parent" (1 / 2) (by decide)) ∧
      P (fixtureRow "plan-2" "candidate" "challenger" 1 (by decide)) := by
  rw [uneven, List.forall_mem_cons, List.forall_mem_singleton]

theorem reads_uneven : ∀ row ∈ uneven, ∃ cell, readCell "parent" row = .ok cell ∧
    cell.programId = "program" ∧ cell.bundle = cell.revisionId := by
  rw [forall_uneven]
  exact ⟨⟨_, readCell_fixtureRow _ _ _ _ _, rfl, rfl⟩, _, readCell_fixtureRow _ _ _ _ _, rfl, rfl⟩

theorem campaign_uneven : ∀ row ∈ uneven, row.1.campaignId = "campaign" := by
  rw [forall_uneven]
  exact ⟨rfl, rfl⟩

theorem matched_uneven : ∀ row ∈ uneven, matchedConfig row.1 =
    matchedConfig (fixturePlan "plan-1" "search-parent" "parent" (by decide)) := by
  rw [forall_uneven]
  exact ⟨rfl, rfl⟩

theorem complete_uneven : Complete "parent" uneven where
  plans_apart := by decide
  one_campaign := fun row hrow other hother =>
    (campaign_uneven row hrow).trans (campaign_uneven other hother).symm
  one_tournament := ⟨"tournament", by decide, by
    rw [forall_uneven]
    exact ⟨rfl, rfl⟩⟩
  one_configuration := ⟨digest, by decide, by
    rw [forall_uneven]
    exact ⟨rfl, rfl⟩⟩
  matched := fun row hrow other hother =>
    (matched_uneven row hrow).trans (matched_uneven other hother).symm
  arms := by
    rw [forall_uneven]
    exact ⟨Or.inl rfl, Or.inr rfl⟩
  parent_row := ⟨_, List.mem_cons_self, rfl⟩
  parent_arm := by
    rw [forall_uneven]
    exact ⟨⟨fun _ => rfl, fun _ => rfl⟩, by decide⟩
  candidate_row := ⟨_, List.mem_cons_of_mem _ List.mem_cons_self, rfl⟩
  cells_apart := by decide
  full := by
    simp only [forall_uneven]
    exact ⟨⟨⟨_, List.mem_cons_self, rfl⟩, _, List.mem_cons_of_mem _ List.mem_cons_self, rfl⟩,
      ⟨_, List.mem_cons_self, rfl⟩, _, List.mem_cons_of_mem _ List.mem_cons_self, rfl⟩
  reads := by
    intro row hrow
    obtain ⟨cell, hcell, -⟩ := reads_uneven row hrow
    exact ⟨cell, hcell⟩
  one_program := by
    intro row hrow other hother first second hfirst hsecond
    obtain ⟨cell, hcell, hprogram, -⟩ := reads_uneven row hrow
    obtain ⟨cell', hcell', hprogram', -⟩ := reads_uneven other hother
    cases hcell.symm.trans hfirst
    cases hcell'.symm.trans hsecond
    exact hprogram.trans hprogram'.symm
  one_bundle := by
    intro row hrow other hother first second hfirst hsecond hsame
    obtain ⟨cell, hcell, -, hbundle⟩ := reads_uneven row hrow
    obtain ⟨cell', hcell', -, hbundle'⟩ := reads_uneven other hother
    cases hcell.symm.trans hfirst
    cases hcell'.symm.trans hsecond
    rw [hbundle, hbundle', hsame]

/-- The matrix has a decision, and its rows reversed have the same winner. -/
theorem uneven_winner :
    ∃ decision, TournamentAuthority.decide (uneven.map Prod.fst) (uneven.map Prod.snd) =
        .ok decision ∧
      decision.parentRevisionId = "parent" ∧
      ∃ reordered, TournamentAuthority.decide (uneven.reverse.map Prod.fst)
          (uneven.reverse.map Prod.snd) = .ok reordered ∧
        reordered.winnerRevisionId = decision.winnerRevisionId := by
  obtain ⟨decision, hdecision, hparent, -, -, -, horder⟩ := winner_of_matrix complete_uneven
  exact ⟨decision, hdecision, hparent, horder _ (List.reverse_perm uneven).symm⟩

end TournamentAuthority

end JlensEvolve.AgentProgram
