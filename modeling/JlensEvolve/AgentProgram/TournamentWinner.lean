import JlensEvolve.AgentProgram.TournamentAuthority

/-!
Who wins a tournament. The winner of a complete matrix is fixed by which
revisions take part and by their mean scores, and neither depends on the order
of the rows.
-/

namespace JlensEvolve.AgentProgram

open Library Contracts

namespace TournamentAuthority

/-- The score on the model receipt of a row. -/
def scoreOf (row : Row) : ℚ :=
  match modelReceipt row.1 row.2 with
  | .error _ => 0
  | .ok model =>
    match fixtureScore (payloadGet model.payload "fixture_score") with
    | .error _ => 0
    | .ok score => score

def meanScore (rows : List Row) (revision : String) : ℚ :=
  let scores := (rows.filter (·.1.candidateRevisionId = revision)).map scoreOf
  scores.sum / scores.length

def Participates (rows : List Row) (revision : String) : Prop :=
  ∃ row ∈ rows, row.1.candidateRevisionId = revision

/-- A complete matrix: one campaign, one tournament and one configuration; one
parent revision beside its candidates; each participant on each task once; and
in every row a completed execution that repeats what its plan says and carries a
score. -/
structure Complete (parentRevisionId : String) (rows : List Row) : Prop where
  plans_apart : (rows.map (·.1.planId)).Nodup
  one_campaign : ∀ row ∈ rows, ∀ other ∈ rows, row.1.campaignId = other.1.campaignId
  one_tournament : ∃ tournamentId, tournamentId ≠ "" ∧
    ∀ row ∈ rows, payloadGet row.1.metadata "tournament_id" = .str tournamentId
  one_configuration : ∃ digest : String, digest.length = 64 ∧
    ∀ row ∈ rows, payloadGet row.1.metadata "tournament_config_sha256" = .str digest
  matched : ∀ row ∈ rows, ∀ other ∈ rows, matchedConfig row.1 = matchedConfig other.1
  arms : ∀ row ∈ rows, row.1.arm = "search-parent" ∨ row.1.arm = "candidate"
  parent_row : ∃ row ∈ rows, row.1.arm = "search-parent"
  parent_arm : ∀ row ∈ rows,
    row.1.arm = "search-parent" ↔ row.1.candidateRevisionId = parentRevisionId
  candidate_row : ∃ row ∈ rows, row.1.arm = "candidate"
  cells_apart : (rows.map (cellOf ·.1)).Nodup
  full : ∀ row ∈ rows, ∀ other ∈ rows, ∃ cell ∈ rows,
    cellOf cell.1 = (row.1.task.revisionId, other.1.candidateRevisionId)
  reads : ∀ row ∈ rows, ∃ cell, readCell parentRevisionId row = .ok cell
  one_program : ∀ row ∈ rows, ∀ other ∈ rows, ∀ cell cell',
    readCell parentRevisionId row = .ok cell → readCell parentRevisionId other = .ok cell' →
    cell.programId = cell'.programId
  one_bundle : ∀ row ∈ rows, ∀ other ∈ rows, ∀ cell cell',
    readCell parentRevisionId row = .ok cell → readCell parentRevisionId other = .ok cell' →
    cell.revisionId = cell'.revisionId → cell.bundle = cell'.bundle

theorem Complete.perm {parentRevisionId : String} {rows others : List Row}
    (h : Complete parentRevisionId rows) (hperm : rows.Perm others) :
    Complete parentRevisionId others := by
  have hmem : ∀ row, row ∈ others ↔ row ∈ rows := fun row => hperm.symm.mem_iff
  obtain ⟨row, hrow, hparent⟩ := h.parent_row
  obtain ⟨other, hother, hcandidate⟩ := h.candidate_row
  obtain ⟨tournamentId, hid, htournament⟩ := h.one_tournament
  obtain ⟨digest, hlength, hdigest⟩ := h.one_configuration
  exact
    { plans_apart := (hperm.map _).nodup_iff.mp h.plans_apart
      one_campaign := by simpa only [hmem] using h.one_campaign
      one_tournament := ⟨tournamentId, hid, by simpa only [hmem] using htournament⟩
      one_configuration := ⟨digest, hlength, by simpa only [hmem] using hdigest⟩
      matched := by simpa only [hmem] using h.matched
      arms := by simpa only [hmem] using h.arms
      parent_row := ⟨row, (hmem row).mpr hrow, hparent⟩
      parent_arm := by simpa only [hmem] using h.parent_arm
      candidate_row := ⟨other, (hmem other).mpr hother, hcandidate⟩
      cells_apart := (hperm.map _).nodup_iff.mp h.cells_apart
      full := by simpa only [hmem] using h.full
      reads := by simpa only [hmem] using h.reads
      one_program := by simpa only [hmem] using h.one_program
      one_bundle := by simpa only [hmem] using h.one_bundle }

theorem meanScore_perm {rows others : List Row} (hperm : rows.Perm others) (revision : String) :
    meanScore rows revision = meanScore others revision := by
  have hscores := (hperm.filter fun row => row.1.candidateRevisionId = revision).map scoreOf
  simp only [meanScore]
  rw [hscores.sum_eq, hscores.length_eq]

/-- The revision wins: no participant has a higher mean, the parent wins where
its mean is the highest, and elsewhere the least of the tied wins. -/
structure Wins (parentRevisionId : String) (rows : List Row) (winner : String) : Prop where
  participates : Participates rows winner
  maximal : ∀ revision, Participates rows revision →
    meanScore rows revision ≤ meanScore rows winner
  parent_first : meanScore rows parentRevisionId = meanScore rows winner →
    winner = parentRevisionId
  least : meanScore rows parentRevisionId ≠ meanScore rows winner →
    ∀ revision, Participates rows revision →
      meanScore rows revision = meanScore rows winner → winner ≤ revision

theorem Wins.unique {parentRevisionId winner other : String} {rows : List Row}
    (h : Wins parentRevisionId rows winner) (h' : Wins parentRevisionId rows other) :
    winner = other := by
  have htied : meanScore rows winner = meanScore rows other :=
    le_antisymm (h'.maximal winner h.participates) (h.maximal other h'.participates)
  by_cases hparent : meanScore rows parentRevisionId = meanScore rows winner
  · rw [h.parent_first hparent, h'.parent_first (hparent.trans htied)]
  · have hleast := h.least hparent other h'.participates htied.symm
    have hleast' := h'.least (htied ▸ hparent) winner h.participates htied
    exact le_antisymm hleast hleast'

theorem Wins.perm {parentRevisionId winner : String} {rows others : List Row}
    (h : Wins parentRevisionId rows winner) (hperm : rows.Perm others) :
    Wins parentRevisionId others winner := by
  have hmean : meanScore others = meanScore rows :=
    funext fun revision => (meanScore_perm hperm revision).symm
  have hparticipates : ∀ revision, Participates others revision ↔ Participates rows revision := by
    intro revision
    simp only [Participates, hperm.mem_iff]
  constructor
  · exact (hparticipates winner).mpr h.participates
  · simpa only [hmean, hparticipates] using h.maximal
  · simpa only [hmean] using h.parent_first
  · simpa only [hmean, hparticipates] using h.least

theorem winnerOf_wins {parentRevisionId : String} {rows : List Row} {participants : List String}
    (hparent : parentRevisionId ∈ participants)
    (hparticipants : ∀ revision, revision ∈ participants ↔ Participates rows revision) :
    ∃ winner, winnerOf parentRevisionId participants (meanScore rows) = .ok winner ∧
      Wins parentRevisionId rows winner := by
  have hne : participants.map (meanScore rows) ≠ [] := by
    intro hnil
    rw [List.map_eq_nil_iff] at hnil
    rw [hnil] at hparent
    exact absurd hparent List.not_mem_nil
  obtain ⟨highest, hhighest⟩ := Option.ne_none_iff_exists'.mp
    (fun hnone => hne (List.max?_eq_none_iff.mp hnone))
  obtain ⟨hattained, hbound⟩ := List.max?_eq_some_iff.mp hhighest
  obtain ⟨best, hbest, hbestScore⟩ := List.mem_map.mp hattained
  have htied : ∀ revision, revision ∈ participants.filter (meanScore rows · = highest) ↔
      revision ∈ participants ∧ meanScore rows revision = highest := by
    intro revision
    rw [List.mem_filter, decide_eq_true_eq]
  have hmax : ∀ revision, Participates rows revision → meanScore rows revision ≤ highest := by
    intro revision hrevision
    exact hbound _ (List.mem_map_of_mem ((hparticipants revision).mpr hrevision))
  simp only [winnerOf, hhighest]
  by_cases hmem : parentRevisionId ∈ participants.filter (meanScore rows · = highest)
  · rw [if_pos hmem]
    have hscore := ((htied _).mp hmem).2
    exact ⟨_, rfl, (hparticipants _).mp hparent, fun revision hrevision =>
      hscore ▸ hmax revision hrevision, fun _ => rfl, fun hoff => absurd rfl hoff⟩
  · rw [if_neg hmem]
    have hbestTied := (htied best).mpr ⟨hbest, hbestScore⟩
    obtain ⟨least, hleast⟩ := Option.ne_none_iff_exists'.mp
      (fun hnone => List.ne_nil_of_mem hbestTied (List.min?_eq_none_iff.mp hnone))
    obtain ⟨hleastMem, hleastBound⟩ := List.min?_eq_some_iff.mp hleast
    obtain ⟨hleastIn, hleastScore⟩ := (htied least).mp hleastMem
    rw [hleast]
    refine ⟨least, rfl, (hparticipants least).mp hleastIn, ?_, ?_, ?_⟩
    · intro revision hrevision
      rw [hleastScore]
      exact hmax revision hrevision
    · intro hsame
      exact absurd ((htied _).mpr ⟨hparent, hsame.trans hleastScore⟩) hmem
    · intro _ revision hrevision hsame
      exact hleastBound revision
        ((htied revision).mpr ⟨(hparticipants revision).mpr hrevision, hsame.trans hleastScore⟩)

end TournamentAuthority

end JlensEvolve.AgentProgram
