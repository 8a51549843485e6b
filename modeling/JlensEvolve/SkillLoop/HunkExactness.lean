import JlensEvolve.SkillLoop.HunkExtraction

/-!
When the extraction gives a diff back as it stands in an answer: only newlines
may break its lines, its last line may not end with a blank, and no line behind
it may look like the header of a hunk.
-/

namespace JlensEvolve.SkillLoop.HunkExtraction

open Library Contracts

/-- A well-formed diff of one file whose only other lines are the marker. -/
structure SingleFile (text : List Char) : Prop where
  read : ∃ diff, UnifiedDiff.read text = some diff ∧ "a/".toList <+: diff.oldName ∧
    "b/".toList <+: diff.newName
  marker : ∀ line ∈ TextLines.splitKeep UnifiedDiff.isLineFeed text,
    line.head? = some '\\' → line = noNewline ++ ['\n']

def isBodyLine (line : List Char) : Bool :=
  [" ", "+", "-"].any (fun start => startsWith start line) || line == noNewline

/-- The text ends where a line ends, and no line of it is the header of a file. -/
structure Preceding (text : List Char) : Prop where
  complete : ∀ c ∈ text.getLast?, isLineBoundary c = true
  noHeader : ∀ line ∈ splitLines text, startsWith "--- a/" line = false

/-- The first line of the text is no line of a body. -/
def Following (text : List Char) : Prop := ∀ line ∈ (splitLines text).head?, isBodyLine line = false

instance (text : List Char) : Decidable (Following text) :=
  inferInstanceAs (Decidable (∀ line ∈ (splitLines text).head?, isBodyLine line = false))

/-- What the extraction needs of a diff and the text behind it. -/
structure Extractable (diff following : List Char) : Prop where
  newlines : ∀ c ∈ diff, isLineBoundary c = true → c = '\n'
  trimmed : Trimmed diff.dropLast
  noHunk : ∀ line ∈ splitLines following, startsWith "@@" line = false

section Parts

variable {preceding diff following : List Char}

theorem startsWith_iff {start : String} {line : List Char} :
    startsWith start line = true ↔ start.toList <+: line := by
  rw [startsWith, List.isPrefixOf_iff_prefix]

/-- The lines of a diff, its newlines taken off. -/
structure Bare (lines : List (List Char)) : Prop where
  header : ∃ first rest, lines = first :: rest ∧ startsWith "--- a/" first = true
  name : ∃ line ∈ lines, startsWith "+++ b/" line = true
  hunk : ∃ line ∈ lines, startsWith "@@" line = true
  lines : ∀ line ∈ lines, isHunkLine line = true

theorem isHunkLine_of_start (start : String) (hstart : start ∈ [" ", "+", "-", "@@", "---", "+++"])
    {line : List Char} (h : startsWith start line = true) : isHunkLine line = true := by
  rw [isHunkLine, Bool.or_eq_true]
  exact Or.inl (List.any_eq_true.mpr ⟨start, hstart, h⟩)

theorem isHunkLine_eq (line : List Char) :
    isHunkLine line = (isBodyLine line || startsWith "@@" line) := by
  have hminus : startsWith "---" line = true → startsWith "-" line = true := fun h =>
    startsWith_iff.mpr (List.IsPrefix.trans (by decide) (startsWith_iff.mp h))
  have hplus : startsWith "+++" line = true → startsWith "+" line = true := fun h =>
    startsWith_iff.mpr (List.IsPrefix.trans (by decide) (startsWith_iff.mp h))
  rw [Bool.eq_iff_iff]
  simp only [isHunkLine, isBodyLine, List.any_cons, List.any_nil, Bool.or_eq_true, beq_iff_eq,
    Bool.or_false]
  constructor
  · rintro ((hspace | hadded | hremoved | hheader | hold | hnew) | hmarker)
    · exact Or.inl (Or.inl (Or.inl hspace))
    · exact Or.inl (Or.inl (Or.inr (Or.inl hadded)))
    · exact Or.inl (Or.inl (Or.inr (Or.inr hremoved)))
    · exact Or.inr hheader
    · exact Or.inl (Or.inl (Or.inr (Or.inr (hminus hold))))
    · exact Or.inl (Or.inl (Or.inr (Or.inl (hplus hnew))))
    · exact Or.inl (Or.inr hmarker)
  · rintro (((hspace | hadded | hremoved) | hmarker) | hheader)
    · exact Or.inl (Or.inl hspace)
    · exact Or.inl (Or.inr (Or.inl hadded))
    · exact Or.inl (Or.inr (Or.inr (Or.inl hremoved)))
    · exact Or.inr hmarker
    · exact Or.inl (Or.inr (Or.inr (Or.inr (Or.inl hheader))))

theorem isHunkLine_of_marked {line : List Char} (h : UnifiedDiff.Marked line) :
    isHunkLine line = true := by
  obtain ⟨mark, hmark⟩ := h
  obtain ⟨text, rfl⟩ : ∃ text, line = mark.char :: text := by
    cases line with
    | nil => cases hmark
    | cons c text =>
      cases hmark
      exact ⟨text, rfl⟩
  cases mark with
  | context => exact isHunkLine_of_start " " (by decide) rfl
  | removed => exact isHunkLine_of_start "-" (by decide) rfl
  | added => exact isHunkLine_of_start "+" (by decide) rfl

theorem SingleFile.bare (h : SingleFile diff) :
    Bare ((TextLines.splitKeep UnifiedDiff.isLineFeed diff).map List.dropLast) := by
  obtain ⟨found, hread, hold, hnew⟩ := h.read
  obtain ⟨hends, rest, reading, hlines, hfold, hhunks, -⟩ := UnifiedDiff.read_eq_some hread
  have hfirst : startsWith "--- a/" ("--- ".toList ++ found.oldName) = true :=
    startsWith_iff.mpr ((List.prefix_append_right_inj "--- ".toList).mpr hold)
  have hsecond : startsWith "+++ b/" ("+++ ".toList ++ found.newName) = true :=
    startsWith_iff.mpr ((List.prefix_append_right_inj "+++ ".toList).mpr hnew)
  have hat : ∀ {line : List Char}, "@@ -".toList <+: line → startsWith "@@" line = true := by
    intro line hline
    have hshort : "@@".toList <+: "@@ -".toList := by decide
    exact startsWith_iff.mpr (hshort.trans hline)
  rw [hlines]
  refine ⟨⟨_, _, rfl, hfirst⟩, ⟨_, List.mem_cons_of_mem _ List.mem_cons_self, hsecond⟩, ?_, ?_⟩
  · obtain ⟨line, hline, hheader⟩ := UnifiedDiff.header_of_foldlM hfold hhunks
    exact ⟨line, List.mem_cons_of_mem _ (List.mem_cons_of_mem _ hline), hat hheader⟩
  · refine List.forall_mem_cons.mpr ⟨?_, List.forall_mem_cons.mpr ⟨?_, fun line hline => ?_⟩⟩
    · exact isHunkLine_of_start "-" (by decide) (startsWith_iff.mpr ⟨_, rfl⟩)
    · exact isHunkLine_of_start "+" (by decide) (startsWith_iff.mpr ⟨_, rfl⟩)
    · obtain ⟨mark, hmark⟩ | hmarker | hheader :=
        UnifiedDiff.foldlM_readLine_some hfold line hline
      · exact isHunkLine_of_marked ⟨mark, hmark⟩
      · have hmem : line ∈ (TextLines.splitKeep UnifiedDiff.isLineFeed diff).map List.dropLast := by
          rw [hlines]
          exact List.mem_cons_of_mem _ (List.mem_cons_of_mem _ hline)
        obtain ⟨piece, hpiece, rfl⟩ := List.mem_map.mp hmem
        have hhead : piece.head? = some '\\' := by
          cases piece with
          | nil => cases hmarker
          | cons c tail =>
            cases tail with
            | nil => cases hmarker
            | cons d others => exact hmarker
        rw [h.marker piece hpiece hhead, List.dropLast_concat]
        exact Bool.or_eq_true_iff.mpr (Or.inr (beq_self_eq_true noNewline))
      · exact isHunkLine_of_start "@@" (by decide) (hat hheader)

theorem SingleFile.ends (h : SingleFile diff) :
    diff.head? = some '-' ∧ diff.dropLast ++ ['\n'] = diff ∧
      ∀ line ∈ TextLines.splitKeep UnifiedDiff.isLineFeed diff, line.getLast? = some '\n' := by
  obtain ⟨found, hread, -⟩ := h.read
  obtain ⟨hends, rest, reading, hlines, -⟩ := UnifiedDiff.read_eq_some hread
  have hsplit := dropLast_concat_of_getLast? (UnifiedDiff.getLast?_of_read hread)
  refine ⟨?_, hsplit, hends⟩
  cases hpieces : TextLines.splitKeep UnifiedDiff.isLineFeed diff with
  | nil =>
    rw [hpieces] at hlines
    cases hlines
  | cons first others =>
    rw [hpieces, List.map_cons, List.cons.injEq] at hlines
    have hflatten := TextLines.flatten_splitKeep UnifiedDiff.isLineFeed diff
    rw [hpieces, List.flatten_cons] at hflatten
    have hfirst := dropLast_concat_of_getLast? (hends first (hpieces ▸ List.mem_cons_self))
    rw [← hflatten, ← hfirst, hlines.1]
    rfl

theorem splitLines_parts (hpreceding : Preceding preceding) (hdiff : SingleFile diff)
    (following : List Char) :
    splitLines (preceding ++ (diff ++ following)) =
      splitLines preceding ++ (splitLines diff ++ splitLines following) := by
  obtain ⟨hhead, hsplit, -⟩ := hdiff.ends
  have hend : splitLines (diff ++ following) = splitLines diff ++ splitLines following := by
    rw [← hsplit]
    exact splitLines_append rfl
  rw [← hend]
  cases hlast : preceding.getLast? with
  | none =>
    rw [List.getLast?_eq_none_iff.mp hlast]
    rfl
  | some c =>
    have hc := hpreceding.complete c hlast
    have hpieces := dropLast_concat_of_getLast? hlast
    have hstart : (diff ++ following).head? = some '-' := by
      rw [List.head?_append, hhead]
      rfl
    have hbreak : TextLines.breaksAfter isLineBoundary c (diff ++ following) = true := by
      rw [TextLines.breaksAfter, hc, hstart]
      simp
    rw [← hpieces]
    exact splitLines_append hbreak

theorem diffLines_parts (hpreceding : Preceding preceding) (hdiff : SingleFile diff)
    (hnewlines : ∀ c ∈ diff, isLineBoundary c = true → c = '\n') (following : List Char) :
    diffLines (preceding ++ (diff ++ following)) =
      (TextLines.splitKeep UnifiedDiff.isLineFeed diff).map List.dropLast ++
        splitLines following := by
  have hpass : ∀ line ∈ splitLines preceding, (!startsWith "--- a/" line) = true := by
    intro line hline
    rw [hpreceding.noHeader line hline]
    rfl
  obtain ⟨first, rest, hlines, hheader⟩ := hdiff.bare.header
  rw [diffLines, splitLines_parts hpreceding hdiff, List.dropWhile_append_of_pos hpass,
    splitLines_of_newlines hnewlines hdiff.ends.2.2, hlines, List.cons_append,
    List.dropWhile_cons_of_neg (by rw [hheader]; decide)]

end Parts

section Extracting

variable {preceding diff following : List Char}

theorem isNoHeader_iff {line : List Char} :
    isNoHeader line = true ↔ startsWith "@@" line = false := by
  rw [isNoHeader, Bool.not_eq_true']

theorem SingleFile.joined (h : SingleFile diff) :
    ['\n'].intercalate ((TextLines.splitKeep UnifiedDiff.isLineFeed diff).map List.dropLast) =
      diff.dropLast := by
  obtain ⟨-, hsplit, hends⟩ := h.ends
  obtain ⟨first, rest, hlines, -⟩ := h.bare.header
  have hne : (TextLines.splitKeep UnifiedDiff.isLineFeed diff).map List.dropLast ≠ [] := by
    rw [hlines]
    exact List.cons_ne_nil _ _
  have hjoin := intercalate_concat hne
  have hwhole : ((TextLines.splitKeep UnifiedDiff.isLineFeed diff).map List.dropLast).map
      (fun line => line ++ ['\n']) = TextLines.splitKeep UnifiedDiff.isLineFeed diff := by
    rw [List.map_map]
    exact (List.map_congr_left fun line hline =>
      dropLast_concat_of_getLast? (hends line hline)).trans (List.map_id _)
  rw [hwhole, TextLines.flatten_splitKeep] at hjoin
  exact List.append_cancel_right (hjoin.trans hsplit.symm)

theorem extractHunk_of_extractable (hpreceding : Preceding preceding) (hdiff : SingleFile diff)
    (hfollowing : Following following) (h : Extractable diff following) :
    extractHunk (preceding ++ (diff ++ following)) = .ok diff := by
  obtain ⟨-, hsplit, -⟩ := hdiff.ends
  have hbare := hdiff.bare
  have hjoined := hdiff.joined
  have hname : "+++ b/".toList <:+: diff := by
    obtain ⟨line, hline, hstart⟩ := hbare.name
    obtain ⟨piece, hpiece, rfl⟩ := List.mem_map.mp hline
    have hprefix := (startsWith_iff.mp hstart).trans (List.dropLast_prefix piece)
    have hinfix := hprefix.isInfix.trans (List.infix_of_mem_flatten hpiece)
    rwa [TextLines.flatten_splitKeep] at hinfix
  have hlines := diffLines_parts hpreceding hdiff h.newlines following
  generalize hbareLines : (TextLines.splitKeep UnifiedDiff.isLineFeed diff).map List.dropLast =
    lines at hbare hjoined hlines
  have hbehind : ∀ line ∈ splitLines following, isNoHeader line = true := fun line hline =>
    isNoHeader_iff.mpr (h.noHunk line hline)
  have hstop : (splitLines following).takeWhile isHunkLine = [] := by
    cases hrest : splitLines following with
    | nil => rfl
    | cons line others =>
      have hno : isHunkLine line = false := by
        have hbody := hfollowing line (by rw [hrest]; rfl)
        have hhunk := h.noHunk line (hrest ▸ List.mem_cons_self)
        rw [isHunkLine_eq, hbody, hhunk]
        rfl
      rw [List.takeWhile_cons_of_neg (by rw [hno]; decide)]
  have hrunning : ∀ line ∈ lines.rtakeWhile isNoHeader, isHunkLine line = true := fun line hline =>
    hbare.lines line ((List.rtakeWhile_suffix isNoHeader lines).subset hline)
  have hkept : keptLines (lines ++ splitLines following) = lines := by
    rw [keptLines, rdropWhile_append_of_all hbehind, rtakeWhile_append_of_all hbehind,
      List.takeWhile_append_of_pos hrunning, hstop, List.append_nil,
      List.rdropWhile_append_rtakeWhile]
  have hsome : (lines ++ splitLines following).rdropWhile isNoHeader ≠ [] := by
    obtain ⟨line, hline, hheader⟩ := hbare.hunk
    rw [rdropWhile_append_of_all hbehind]
    intro hnil
    have hno := List.rdropWhile_eq_nil_iff.mp hnil line hline
    rw [isNoHeader_iff, hheader] at hno
    cases hno
  have hnonempty : lines ++ splitLines following ≠ [] := by
    obtain ⟨first, rest, hcons, -⟩ := hbare.header
    rw [hcons]
    exact List.cons_ne_nil _ _
  rw [extractHunk, hlines]
  dsimp only
  rw [if_neg hnonempty, if_neg hsome, hkept, hjoined, rstrip_of_trimmed h.trimmed, hsplit,
    if_pos hname]

theorem extractable_of_extractHunk (hpreceding : Preceding preceding) (hdiff : SingleFile diff)
    (h : extractHunk (preceding ++ (diff ++ following)) = .ok diff) :
    Extractable diff following := by
  obtain ⟨hhead, hsplit, -⟩ := hdiff.ends
  have hcandidate : rstrip (['\n'].intercalate (keptLines
      (diffLines (preceding ++ (diff ++ following))))) = diff.dropLast := by
    unfold extractHunk at h
    dsimp only at h
    split at h
    · cases h
    · split at h
      · cases h
      · split at h
        · exact List.append_cancel_right ((Except.ok.inj h).trans hsplit.symm)
        · cases h
  have hnonempty : diff.dropLast ≠ [] := by
    intro hnil
    rw [hnil] at hsplit
    rw [← hsplit] at hhead
    cases hhead
  have hkeptMem : ∀ line ∈ keptLines (diffLines (preceding ++ (diff ++ following))),
      line ∈ splitLines (preceding ++ (diff ++ following)) := by
    intro line hline
    have hsubset : diffLines (preceding ++ (diff ++ following)) ⊆
        splitLines (preceding ++ (diff ++ following)) := (List.dropWhile_sublist _).subset
    refine hsubset ?_
    obtain hfirst | hlast := List.mem_append.mp hline
    · exact (List.rdropWhile_prefix _ _).subset hfirst
    · exact (List.rtakeWhile_suffix _ _).subset ((List.takeWhile_sublist _).subset hlast)
  have hnewlines : ∀ c ∈ diff, isLineBoundary c = true → c = '\n' := by
    intro c hc hboundary
    rw [← hsplit, List.mem_append, List.mem_singleton] at hc
    obtain hin | rfl := hc
    · rw [← hcandidate] at hin
      obtain rfl | ⟨line, hline, hmem⟩ := mem_intercalate ((List.rdropWhile_prefix _ _).subset hin)
      · rfl
      · have hno := boundary_of_mem_splitLines (hkeptMem line hline) c hmem
        rw [hboundary] at hno
        cases hno
    · rfl
  refine ⟨hnewlines, ?_, ?_⟩
  · rw [← hcandidate] at hnonempty ⊢
    exact trimmed_rstrip hnonempty
  · intro line hline
    by_contra hheader
    rw [diffLines_parts hpreceding hdiff hnewlines] at hcandidate
    have hbehind : (splitLines following).rdropWhile isNoHeader ≠ [] := by
      intro hnil
      have hno := List.rdropWhile_eq_nil_iff.mp hnil line hline
      exact hheader (isNoHeader_iff.mp hno)
    obtain ⟨first, rest, hcons, -⟩ := hdiff.bare.header
    have hbare : (TextLines.splitKeep UnifiedDiff.isLineFeed diff).map List.dropLast ≠ [] := by
      rw [hcons]
      exact List.cons_ne_nil _ _
    have hat : ∃ found ∈ (splitLines following).rdropWhile isNoHeader, '@' ∈ found := by
      refine ⟨_, List.getLast_mem hbehind, ?_⟩
      have hlast := List.rdropWhile_last_not isNoHeader _ hbehind
      rw [isNoHeader_iff, Bool.not_eq_false, startsWith_iff] at hlast
      exact hlast.subset (by decide)
    obtain ⟨found, hfound, hmem⟩ := hat
    rw [keptLines, rdropWhile_append_of_ne_nil hbehind, List.append_assoc,
      intercalate_append hbare (List.append_ne_nil_of_left_ne_nil hbehind _),
      hdiff.joined] at hcandidate
    have hblank : rstrip ('\n' :: ['\n'].intercalate
        ((splitLines following).rdropWhile isNoHeader ++
          (((TextLines.splitKeep UnifiedDiff.isLineFeed diff).map List.dropLast ++
            splitLines following).rtakeWhile isNoHeader).takeWhile isHunkLine)) ≠ [] := by
      intro hnil
      have hspace := List.rdropWhile_eq_nil_iff.mp hnil '@' (List.mem_cons_of_mem _
        (mem_intercalate_of_mem (List.mem_append_left _ hfound) hmem))
      exact absurd hspace (by decide)
    have hlonger := (rdropWhile_append_of_ne_nil hblank).symm.trans hcandidate
    exact hblank (List.append_right_eq_self.mp hlonger)

/-- A diff is extracted as it stands exactly when only newlines break its lines, its last line does
not end with a blank, and no line behind it looks like the header of a hunk. -/
theorem extractHunk_exact_iff (hpreceding : Preceding preceding) (hdiff : SingleFile diff)
    (hfollowing : Following following) :
    extractHunk (preceding ++ (diff ++ following)) = .ok diff ↔ Extractable diff following :=
  ⟨extractable_of_extractHunk hpreceding hdiff,
    extractHunk_of_extractable hpreceding hdiff hfollowing⟩

end Extracting

/-- A diff whose last line is this one of the file. -/
def rewordedBefore (last : String) : List Char :=
  ("--- a/f.py\n+++ b/f.py\n@@ -1,2 +1,2 @@\n-a\n+b\n " ++ last ++ "\n").toList

theorem singleFile_reworded_text : SingleFile (rewordedBefore "c") :=
  ⟨⟨_, rfl, by decide, by decide⟩, by decide⟩

theorem singleFile_reworded_blank : SingleFile (rewordedBefore "") :=
  ⟨⟨_, rfl, by decide, by decide⟩, by decide⟩

theorem extractHunk_reworded_text :
    extractHunk ("Fix:\n".toList ++ (rewordedBefore "c" ++ "Done.\n".toList)) =
      .ok (rewordedBefore "c") := by
  have hheaders : ((splitLines "Fix:\n".toList).all fun line => !startsWith "--- a/" line) = true :=
    by decide
  have hplain : ((rewordedBefore "c").all fun c => !isLineBoundary c || c == '\n') = true := by
    decide
  refine (extractHunk_exact_iff ⟨?_, ?_⟩ singleFile_reworded_text (by decide)).mpr
    ⟨?_, ⟨'c', rfl, by decide⟩, by decide⟩
  · intro c hc
    obtain rfl : '\n' = c := Option.some.inj hc
    rfl
  · intro line hline
    have hheader := List.all_eq_true.mp hheaders line hline
    rwa [Bool.not_eq_eq_eq_not, Bool.not_true] at hheader
  · intro c hc hboundary
    have hnewline := List.all_eq_true.mp hplain c hc
    rw [hboundary, Bool.not_true, Bool.false_or, beq_iff_eq] at hnewline
    exact hnewline

/-- A last line that is blank in the file is lost. -/
theorem extractHunk_reworded_blank :
    ∃ preceding diff following, Preceding preceding ∧ SingleFile diff ∧ Following following ∧
      extractHunk (preceding ++ (diff ++ following)) ≠ .ok diff := by
  have hpreceding : Preceding [] :=
    ⟨fun _ hc => absurd hc (Option.not_mem_none _), fun _ hline => absurd hline List.not_mem_nil⟩
  refine ⟨[], rewordedBefore "", [], hpreceding, singleFile_reworded_blank,
    fun _ hline => absurd hline (Option.not_mem_none _), fun h => ?_⟩
  have hextractable := extractable_of_extractHunk hpreceding singleFile_reworded_blank h
  obtain ⟨c, hc, hblank⟩ := hextractable.trimmed
  have hspace : c = ' ' := (Option.some.inj hc).symm
  rw [hspace] at hblank
  exact absurd hblank (by decide)

end JlensEvolve.SkillLoop.HunkExtraction
