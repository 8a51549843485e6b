import JlensEvolve.Library.UnifiedDiff

/-!
What becomes of a hunk with a line that no newline ends: it runs into the next
one, so that fewer lines are read than the header counts.
-/

namespace JlensEvolve.Library.UnifiedDiff

theorem splitKeep_unterminated {line : List Char} (hne : line ≠ [])
    (hfree : ∀ c ∈ line, isLineFeed c = false) (rest : List Char) :
    TextLines.splitKeep isLineFeed (line ++ rest) =
      match TextLines.splitKeep isLineFeed rest with
      | [] => [line]
      | first :: others => (line ++ first) :: others := by
  induction line with
  | nil => exact absurd rfl hne
  | cons c others ih =>
    obtain ⟨hc, hothers⟩ := List.forall_mem_cons.mp hfree
    have hgoes : TextLines.breaksAfter isLineFeed c (others ++ rest) = false := by
      rw [TextLines.breaksAfter, hc, Bool.false_and]
    rw [List.cons_append, TextLines.splitKeep, hgoes, if_neg Bool.false_ne_true]
    cases others with
    | nil =>
      rw [List.nil_append]
      cases TextLines.splitKeep isLineFeed rest <;> rfl
    | cons d tail =>
      rw [ih (List.cons_ne_nil _ _) hothers]
      cases TextLines.splitKeep isLineFeed rest <;> rfl

/-- How many of the counted lines a line of the patch is, by its first character. -/
def weight : List Char → Nat
  | ' ' :: _ => 2
  | _ => 1

def weights (lines : List (List Char)) : Nat := (lines.map weight).sum

theorem weight_mark (mark : Mark) (text : List Char) :
    weight (mark.char :: text) = if mark = .context then 2 else 1 := by
  cases mark <;> rfl

theorem newline_ne_mark (mark : Mark) : '\n' ≠ mark.char := by
  cases mark <;> decide

theorem weight_append {line : List Char} (hne : line ≠ []) (rest : List Char) :
    weight (line ++ rest) = weight line := by
  cases line with
  | nil => exact absurd rfl hne
  | cons c others =>
    unfold weight
    split
    · rename_i heq
      cases heq
      rfl
    · rename_i hother
      split
      · rename_i heq
        cases heq
        exact absurd rfl (hother _)
      · rfl

theorem weight_pos (line : List Char) : 0 < weight line := by
  unfold weight
  split <;> omega

/-- A line as a patch shows it: some text, with a newline at most at its end. -/
def Shown (line : List Char) : Prop := line ≠ [] ∧ '\n' ∉ line.dropLast

theorem Shown.cases {line : List Char} (h : Shown line) :
    line.getLast? = some '\n' ∧ Whole line ∨
      line.getLast? ≠ some '\n' ∧ ∀ c ∈ line, isLineFeed c = false := by
  obtain ⟨hne, hfree⟩ := h
  have hsplit := List.dropLast_append_getLast hne
  rw [List.getLast?_eq_some_getLast hne]
  by_cases hlast : line.getLast hne = '\n'
  · rw [hlast] at hsplit ⊢
    exact Or.inl ⟨rfl, line.dropLast, hfree, hsplit.symm⟩
  · refine Or.inr ⟨fun heq => hlast (Option.some.inj heq), fun c hc => ?_⟩
    rw [isLineFeed, beq_eq_false_iff_ne]
    rintro rfl
    rw [← hsplit, List.mem_append, List.mem_singleton] at hc
    obtain hin | heq := hc
    · exact hfree hin
    · exact hlast heq.symm

/-- The lines of the text begin as the shown lines do, weigh no more than they, and less where two
of them ran together. -/
theorem splitKeep_flatten {lines : List (List Char)} (h : ∀ line ∈ lines, Shown line) :
    (∀ piece ∈ TextLines.splitKeep isLineFeed lines.flatten,
      ∃ line ∈ lines, piece.head? = line.head?) ∧
    weights (TextLines.splitKeep isLineFeed lines.flatten) ≤ weights lines ∧
    (weights (TextLines.splitKeep isLineFeed lines.flatten) = weights lines →
      (∀ piece ∈ TextLines.splitKeep isLineFeed lines.flatten, piece.getLast? = some '\n') →
      ∀ line ∈ lines, line.getLast? = some '\n') := by
  induction lines with
  | nil =>
    exact ⟨fun _ hmem => absurd hmem List.not_mem_nil, Nat.le_refl _,
      fun _ _ _ hmem => absurd hmem List.not_mem_nil⟩
  | cons line rest ih =>
    obtain ⟨hline, hrest⟩ := List.forall_mem_cons.mp h
    obtain ⟨hheads, hle, hwhole⟩ := ih hrest
    rw [List.flatten_cons]
    obtain ⟨hlast, hends⟩ | ⟨hlast, hfree⟩ := hline.cases
    · have hsplit := splitKeep_whole (List.forall_mem_singleton.mpr hends) rest.flatten
      rw [List.flatten_singleton, List.singleton_append] at hsplit
      rw [hsplit]
      refine ⟨List.forall_mem_cons.mpr ⟨⟨line, List.mem_cons_self, rfl⟩, fun piece hpiece => ?_⟩,
        ?_, fun hequal hpieces => ?_⟩
      · obtain ⟨found, hfound, hhead⟩ := hheads piece hpiece
        exact ⟨found, List.mem_cons_of_mem _ hfound, hhead⟩
      · simp only [weights, List.map_cons, List.sum_cons] at hle ⊢
        omega
      · have hequalRest :
            weights (TextLines.splitKeep isLineFeed rest.flatten) = weights rest := by
          simp only [weights, List.map_cons, List.sum_cons] at hequal ⊢
          omega
        exact List.forall_mem_cons.mpr ⟨hlast, hwhole hequalRest
          fun piece hpiece => hpieces piece (List.mem_cons_of_mem _ hpiece)⟩
    · rw [splitKeep_unterminated hline.1 hfree]
      cases hpieces : TextLines.splitKeep isLineFeed rest.flatten with
      | nil =>
        refine ⟨List.forall_mem_singleton.mpr ⟨line, List.mem_cons_self, rfl⟩, ?_,
          fun _ hends => absurd (hends line (List.mem_singleton_self _)) hlast⟩
        simp only [weights, List.map_cons, List.map_nil, List.sum_cons, List.sum_nil]
        omega
      | cons first others =>
        rw [hpieces] at hheads hle
        have hweight := weight_append hline.1 first
        have hpos := weight_pos first
        have hlighter : weights ((line ++ first) :: others) < weights (line :: rest) := by
          simp only [weights, List.map_cons, List.sum_cons] at hle ⊢
          omega
        refine ⟨List.forall_mem_cons.mpr ⟨⟨line, List.mem_cons_self, ?_⟩,
          fun piece hpiece => ?_⟩, hlighter.le, fun hequal => absurd hequal hlighter.ne⟩
        · cases line with
          | nil => exact absurd rfl hline.1
          | cons c tail => rfl
        · obtain ⟨found, hfound, hhead⟩ := hheads piece (List.mem_cons_of_mem _ hpiece)
          exact ⟨found, List.mem_cons_of_mem _ hfound, hhead⟩

theorem Reading.readLine_weight {reading next : Reading} {mark : Mark} {text : List Char}
    (h : reading.readLine (mark.char :: text) = some next) :
    next.oldLeft + next.newLeft + weight (mark.char :: text) =
      reading.oldLeft + reading.newLeft := by
  obtain ⟨hunks, old, new⟩ := reading
  have hadd : Reading.addLine ⟨hunks, old, new⟩ mark text = some next := by
    cases mark <;> exact h
  unfold Reading.addLine at hadd
  cases hunks with
  | nil => cases hadd
  | cons hunk rest =>
    simp only [Option.ite_none_right_eq_some, Option.some.injEq] at hadd
    obtain ⟨⟨hold, hnew⟩, rfl⟩ := hadd
    rw [weight_mark]
    cases mark <;> simp only [reduceCtorEq, if_true, if_false] at hold hnew ⊢ <;> omega

/-- The line is one of a hunk. -/
def Marked (line : List Char) : Prop := ∃ mark : Mark, line.head? = some mark.char

theorem foldlM_weights {lines : List (List Char)} (hmarked : ∀ line ∈ lines, Marked line)
    {reading last : Reading} (h : lines.foldlM Reading.readLine reading = some last) :
    last.oldLeft + last.newLeft + weights lines = reading.oldLeft + reading.newLeft := by
  induction lines generalizing reading with
  | nil =>
    cases h
    rfl
  | cons line rest ih =>
    obtain ⟨⟨mark, hmark⟩, hrest⟩ := List.forall_mem_cons.mp hmarked
    rw [List.foldlM_cons, Option.bind_eq_bind, Option.bind_eq_some_iff] at h
    obtain ⟨next, hnext, hlast⟩ := h
    obtain ⟨text, rfl⟩ : ∃ text, line = mark.char :: text := by
      cases line with
      | nil => cases hmark
      | cons c text =>
        cases hmark
        exact ⟨text, rfl⟩
    have hstep := Reading.readLine_weight hnext
    have hothers := ih hrest hlast
    simp only [weights, List.map_cons, List.sum_cons] at hothers ⊢
    omega

theorem weight_dropLast {line : List Char} (hlast : line.getLast? = some '\n')
    (hmarked : Marked line) : weight line.dropLast = weight line ∧ Marked line.dropLast := by
  obtain ⟨mark, hmark⟩ := hmarked
  match line, hlast, hmark with
  | [c], hlast, hmark =>
    cases hlast
    cases mark <;> cases hmark
  | c :: d :: rest, _, hmark =>
    cases hmark
    rw [List.dropLast_cons_of_ne_nil (List.cons_ne_nil _ _)]
    exact ⟨by cases mark <;> rfl, mark, rfl⟩

theorem mapM_terminated_some {lines bare : List (List Char)}
    (h : lines.mapM terminated = some bare) : bare = lines.map List.dropLast ∧ ∀ line ∈ lines, line.getLast? = some '\n' := by
  induction lines generalizing bare with
  | nil =>
    cases h
    exact ⟨rfl, fun _ hmem => absurd hmem List.not_mem_nil⟩
  | cons line rest ih =>
    rw [List.mapM_cons, Option.bind_eq_bind, Option.bind_eq_some_iff] at h
    obtain ⟨first, hfirst, h⟩ := h
    rw [Option.bind_eq_bind, Option.bind_eq_some_iff] at h
    obtain ⟨others, hothers, hbare⟩ := h
    cases hbare
    obtain ⟨rfl, hends⟩ := ih hothers
    unfold terminated at hfirst
    split at hfirst
    · rename_i hlast
      cases hfirst
      exact ⟨rfl, List.forall_mem_cons.mpr ⟨hlast, hends⟩⟩
    · cases hfirst

theorem weights_writeLine (lines : List (Mark × List Char)) :
    weights (lines.map writeLine) = (oldLines lines).length + (newLines lines).length := by
  induction lines with
  | nil => rfl
  | cons line rest ih =>
    obtain ⟨mark, text⟩ := line
    have hold : (oldLines ((mark, text) :: rest)).length =
        (oldLines [(mark, text)]).length + (oldLines rest).length := by
      rw [← List.length_append, ← oldLines_append, List.singleton_append]
    have hnew : (newLines ((mark, text) :: rest)).length =
        (newLines [(mark, text)]).length + (newLines rest).length := by
      rw [← List.length_append, ← newLines_append, List.singleton_append]
    have hweight : weight (writeLine (mark, text)) =
        (oldLines [(mark, text)]).length + (newLines [(mark, text)]).length := by
      cases mark <;> rfl
    have hsum : weights (((mark, text) :: rest).map writeLine) =
        weight (writeLine (mark, text)) + weights (rest.map writeLine) := by
      simp only [weights, List.map_cons, List.sum_cons]
    omega

/-- A hunk that is read after its header, to the end of its counts, has no line without a
newline. -/
theorem whole_of_read {hunk : Hunk (List Char)} (hcounted : Counted hunk)
    (hshown : ∀ line ∈ hunk.lines, line.2 ≠ [] ∧ '\n' ∉ line.2.dropLast)
    {bare : List (List Char)} {opened last : Reading}
    (hbare : (TextLines.splitKeep isLineFeed (hunk.lines.map writeLine).flatten).mapM terminated =
      some bare)
    (hopened : opened.oldLeft + opened.newLeft = hunk.oldCount + hunk.newCount)
    (hread : bare.foldlM Reading.readLine opened = some last)
    (hdone : last.oldLeft = 0 ∧ last.newLeft = 0) :
    ∀ line ∈ hunk.lines, line.2.getLast? = some '\n' := by
  have hlines : ∀ line ∈ hunk.lines.map writeLine, Shown line := by
    intro line hline
    obtain ⟨⟨mark, text⟩, hmem, rfl⟩ := List.mem_map.mp hline
    obtain ⟨hne, hfree⟩ := hshown _ hmem
    refine ⟨List.cons_ne_nil _ _, ?_⟩
    rw [writeLine, List.dropLast_cons_of_ne_nil hne, List.mem_cons, not_or]
    exact ⟨newline_ne_mark mark, hfree⟩
  obtain ⟨hheads, -, hwhole⟩ := splitKeep_flatten hlines
  obtain ⟨rfl, hends⟩ := mapM_terminated_some hbare
  have hmarked : ∀ piece ∈ TextLines.splitKeep isLineFeed (hunk.lines.map writeLine).flatten,
      Marked piece := by
    intro piece hpiece
    obtain ⟨line, hline, hhead⟩ := hheads piece hpiece
    obtain ⟨⟨mark, text⟩, -, rfl⟩ := List.mem_map.mp hline
    exact ⟨mark, hhead⟩
  have hbareMarked : ∀ line ∈ (TextLines.splitKeep isLineFeed
      (hunk.lines.map writeLine).flatten).map List.dropLast, Marked line := by
    intro line hline
    obtain ⟨piece, hpiece, rfl⟩ := List.mem_map.mp hline
    exact (weight_dropLast (hends piece hpiece) (hmarked piece hpiece)).2
  have hsame : weights ((TextLines.splitKeep isLineFeed
      (hunk.lines.map writeLine).flatten).map List.dropLast) =
      weights (TextLines.splitKeep isLineFeed (hunk.lines.map writeLine).flatten) := by
    rw [weights, weights, List.map_map]
    refine congrArg List.sum (List.map_congr_left fun piece hpiece => ?_)
    exact (weight_dropLast (hends piece hpiece) (hmarked piece hpiece)).1
  have hused := foldlM_weights hbareMarked hread
  have htotal := weights_writeLine hunk.lines
  have hold := hcounted.old
  have hnew := hcounted.new
  intro line hline
  have hlast := hwhole (by omega) hends (writeLine line) (List.mem_map_of_mem hline)
  have hne := (hshown line hline).1
  rwa [writeLine, List.getLast?_cons_of_ne_nil hne] at hlast

theorem expect_eq_some {expected text rest : List Char} (h : expect expected text = some rest) :
    text = expected ++ rest := by
  unfold expect at h
  split at h
  · rename_i hprefix
    cases h
    exact (List.prefix_iff_eq_append.mp hprefix).symm
  · cases h

/-- A patch that is read: its lines are whole, the first two are its names, and the others are
read to the end of the counts. -/
theorem read_eq_some {patch : List Char} {diff : Diff} (h : read patch = some diff) :
    (∀ line ∈ TextLines.splitKeep isLineFeed patch, line.getLast? = some '\n') ∧
    ∃ rest reading, (TextLines.splitKeep isLineFeed patch).map List.dropLast =
        ("--- ".toList ++ diff.oldName) :: ("+++ ".toList ++ diff.newName) :: rest ∧
      rest.foldlM Reading.readLine ⟨[], 0, 0⟩ = some reading ∧ reading.hunks ≠ [] ∧
      reading.oldLeft = 0 ∧ reading.newLeft = 0 := by
  rw [read, Option.bind_eq_bind, Option.bind_eq_some_iff] at h
  obtain ⟨bare, hbare, hread⟩ := h
  obtain ⟨rfl, hends⟩ := mapM_terminated_some hbare
  refine ⟨hends, ?_⟩
  unfold readLines at hread
  split at hread
  · rename_i old new rest hlines
    simp only [Option.bind_eq_bind, Option.bind_eq_some_iff] at hread
    obtain ⟨oldName, hold, newName, hnew, reading, hfold, hread⟩ := hread
    split at hread
    · rename_i hdone
      cases hread
      rw [hlines, expect_eq_some hold, expect_eq_some hnew]
      exact ⟨rest, reading, rfl, hfold, hdone⟩
    · cases hread
  · cases hread

theorem readHeader_some {line : List Char} {hunk : Hunk (List Char)}
    (h : readHeader line = some hunk) : "@@ -".toList <+: line := by
  rw [readHeader, Option.bind_eq_bind, Option.bind_eq_some_iff] at h
  obtain ⟨rest, hrest, -⟩ := h
  exact ⟨rest, (expect_eq_some hrest).symm⟩

theorem Reading.readLine_some {reading next : Reading} {line : List Char}
    (h : reading.readLine line = some next) :
    Marked line ∨ line.head? = some '\\' ∨ "@@ -".toList <+: line := by
  unfold Reading.readLine at h
  split at h
  · exact Or.inr (Or.inl rfl)
  · split at h
    · rw [Reading.openHunk, Option.map_eq_some_iff] at h
      obtain ⟨hunk, hhunk, -⟩ := h
      exact Or.inr (Or.inr (readHeader_some hhunk))
    · cases h
  · exact Or.inl ⟨.context, rfl⟩
  · exact Or.inl ⟨.removed, rfl⟩
  · exact Or.inl ⟨.added, rfl⟩
  · cases h

theorem foldlM_readLine_some {lines : List (List Char)} {reading last : Reading}
    (h : lines.foldlM Reading.readLine reading = some last) :
    ∀ line ∈ lines, Marked line ∨ line.head? = some '\\' ∨ "@@ -".toList <+: line := by
  induction lines generalizing reading with
  | nil => exact fun _ hmem => absurd hmem List.not_mem_nil
  | cons line rest ih =>
    rw [List.foldlM_cons, Option.bind_eq_bind, Option.bind_eq_some_iff] at h
    obtain ⟨next, hnext, hlast⟩ := h
    exact List.forall_mem_cons.mpr ⟨Reading.readLine_some hnext, ih hlast⟩

theorem header_of_foldlM {lines : List (List Char)} {last : Reading}
    (h : lines.foldlM Reading.readLine ⟨[], 0, 0⟩ = some last) (hhunks : last.hunks ≠ []) :
    ∃ line ∈ lines, "@@ -".toList <+: line := by
  cases lines with
  | nil =>
    cases h
    exact absurd rfl hhunks
  | cons line rest =>
    rw [List.foldlM_cons, Option.bind_eq_bind, Option.bind_eq_some_iff] at h
    obtain ⟨next, hnext, -⟩ := h
    refine ⟨line, List.mem_cons_self, ?_⟩
    unfold Reading.readLine at hnext
    split at hnext
    · cases hnext
    · rw [if_pos ⟨rfl, rfl⟩, Reading.openHunk, Option.map_eq_some_iff] at hnext
      obtain ⟨hunk, hhunk, -⟩ := hnext
      exact readHeader_some hhunk
    · cases hnext
    · cases hnext
    · cases hnext
    · cases hnext

theorem newline_notMem_names {patch : List Char} {diff : Diff} (h : read patch = some diff) :
    '\n' ∉ diff.oldName ∧ '\n' ∉ diff.newName := by
  obtain ⟨-, rest, reading, hlines, -⟩ := read_eq_some h
  have hfree : ∀ line ∈ (TextLines.splitKeep isLineFeed patch).map List.dropLast, '\n' ∉ line := by
    intro line hline
    obtain ⟨piece, hpiece, rfl⟩ := List.mem_map.mp hline
    exact TextLines.newline_notMem_dropLast rfl hpiece
  rw [hlines] at hfree
  obtain ⟨hold, hothers⟩ := List.forall_mem_cons.mp hfree
  obtain ⟨hnew, -⟩ := List.forall_mem_cons.mp hothers
  exact ⟨fun hmem => hold (List.mem_append_right _ hmem),
    fun hmem => hnew (List.mem_append_right _ hmem)⟩

theorem getLast?_of_read {patch : List Char} {diff : Diff} (h : read patch = some diff) :
    patch.getLast? = some '\n' := by
  obtain ⟨hends, rest, reading, hlines, -⟩ := read_eq_some h
  have hne : TextLines.splitKeep isLineFeed patch ≠ [] := by
    intro hnil
    rw [hnil] at hlines
    cases hlines
  have hlast := hends _ (List.getLast_mem hne)
  have hsplit := congrArg List.flatten (List.dropLast_append_getLast hne)
  rw [TextLines.flatten_splitKeep, List.flatten_append, List.flatten_singleton] at hsplit
  rw [← hsplit, List.getLast?_append, hlast]
  rfl

theorem whole_of_read_write {diff found : Diff} {hunk : Hunk (List Char)}
    (hhunks : diff.hunks = [hunk]) (hcounted : Counted hunk)
    (hshown : ∀ line ∈ hunk.lines, line.2 ≠ [] ∧ '\n' ∉ line.2.dropLast)
    (hold : '\n' ∉ diff.oldName) (hnew : '\n' ∉ diff.newName)
    (h : read diff.write.flatten = some found) :
    ∀ line ∈ hunk.lines, line.2.getLast? = some '\n' := by
  have hheads : ∀ line ∈ ["--- ".toList ++ diff.oldName ++ ['\n'],
      "+++ ".toList ++ diff.newName ++ ['\n'], hunk.header ++ ['\n']], Whole line := by
    refine List.forall_mem_cons.mpr ⟨⟨_, ?_, rfl⟩, List.forall_mem_cons.mpr ⟨⟨_, ?_, rfl⟩,
      List.forall_mem_singleton.mpr hunk.whole_header⟩⟩
    · simp [hold]
    · simp [hnew]
  have hwrite : diff.write.flatten = ["--- ".toList ++ diff.oldName ++ ['\n'],
      "+++ ".toList ++ diff.newName ++ ['\n'], hunk.header ++ ['\n']].flatten ++
        (hunk.lines.map writeLine).flatten := by
    rw [Diff.write, hhunks]
    simp only [List.flatMap_cons, List.flatMap_nil, List.append_nil, Hunk.write,
      List.flatten_cons, List.flatten_nil, List.append_assoc]
  obtain ⟨hends, rest, reading, hlines, hfold, -, hdone⟩ := read_eq_some h
  rw [hwrite, splitKeep_whole hheads] at hends hlines
  have hrest : rest = hunk.header ::
      (TextLines.splitKeep isLineFeed (hunk.lines.map writeLine).flatten).map List.dropLast := by
    simp only [List.cons_append, List.nil_append, List.map_cons, List.dropLast_concat,
      List.cons.injEq] at hlines
    exact hlines.2.2.symm
  have hopened : Reading.readLine ⟨[], 0, 0⟩ hunk.header =
      some ⟨[{ hunk with lines := [] }], hunk.oldCount, hunk.newCount⟩ := by
    have hread := readHeader_header hcounted
    obtain ⟨tail, htail⟩ : ∃ tail, hunk.header = '@' :: tail := ⟨_, rfl⟩
    rw [htail] at hread ⊢
    simp only [Reading.readLine, Reading.openHunk, hread, and_self, if_true, Option.map_some]
  rw [hrest, List.foldlM_cons, hopened, Option.bind_eq_bind, Option.bind_some] at hfold
  have hbare : (TextLines.splitKeep isLineFeed (hunk.lines.map writeLine).flatten).mapM terminated =
      some ((TextLines.splitKeep isLineFeed (hunk.lines.map writeLine).flatten).map
        List.dropLast) := by
    refine mapM_terminated_of_ends fun line hline => hends line (List.mem_append_right _ hline)
  exact whole_of_read hcounted hshown hbare rfl hfold hdone

end JlensEvolve.Library.UnifiedDiff
