import JlensEvolve.Evidence.EvidenceGraph

/-!
What a reading of a graph file depends on. A line that repeats an id is skipped
when Python's `==` takes it for the record that was kept, so the file reads as
the same set of records in every order of its lines exactly when lines of one id
carry one content.
-/

namespace JlensEvolve.Evidence

open Library Contracts

variable {ρ α : Type} {file : String} {construct : ρ → Option α} {idOf : α → String}
  {contentSha256 : α → String} {same : α → α → Bool}

/-- The line decodes to this record and carries its digest. -/
def LineReads (construct : ρ → Option α) (contentSha256 : α → String) (line : StoredLine ρ)
    (item : α) : Prop :=
  ∃ raw expected, line = .record raw expected ∧ construct raw = some item ∧
    contentSha256 item = expected

/-- Every line decodes. -/
def Readable (construct : ρ → Option α) (contentSha256 : α → String)
    (lines : List (StoredLine ρ)) : Prop :=
  ∀ line ∈ lines, ∃ item, LineReads construct contentSha256 line item

/-- The records of the lines. -/
def Written (construct : ρ → Option α) (contentSha256 : α → String)
    (lines : List (StoredLine ρ)) (item : α) : Prop :=
  ∃ line ∈ lines, LineReads construct contentSha256 line item

/-- Records of one id are taken for each other. -/
def Agreeing (idOf : α → String) (same : α → α → Bool) (written : α → Prop) : Prop :=
  ∀ item other, written item → written other → idOf item = idOf other → same item other = true

/-- Records of one id are one record. -/
def OneContent (idOf : α → String) (written : α → Prop) : Prop :=
  ∀ item other, written item → written other → idOf item = idOf other → item = other

theorem lineReads_record_iff {raw : ρ} {expected : String} {item : α} :
    LineReads construct contentSha256 (.record raw expected) item ↔
      construct raw = some item ∧ contentSha256 item = expected := by
  constructor
  · rintro ⟨_, _, hline, hitem, hdigest⟩
    cases hline
    exact ⟨hitem, hdigest⟩
  · intro h
    exact ⟨raw, expected, rfl, h⟩

theorem lineReads_unique {line : StoredLine ρ} {item other : α}
    (h : LineReads construct contentSha256 line item)
    (hother : LineReads construct contentSha256 line other) : item = other := by
  obtain ⟨raw, expected, rfl, hitem, -⟩ := h
  obtain ⟨hagain, -⟩ := lineReads_record_iff.mp hother
  rw [hitem] at hagain
  exact Option.some.inj hagain

theorem written_of_perm {lines others : List (StoredLine ρ)} (h : lines.Perm others) (item : α) :
    Written construct contentSha256 lines item ↔ Written construct contentSha256 others item := by
  simp only [Written, h.mem_iff]

theorem readGraphLines_cons {line : StoredLine ρ} {rest : List (StoredLine ρ)} {lineNumber : Nat}
    {output result : List α}
    (h : readGraphLines file construct idOf contentSha256 same (line :: rest) lineNumber output =
      .ok result) :
    ∃ item, LineReads construct contentSha256 line item ∧
      ((∃ prior ∈ output, idOf prior = idOf item ∧ same prior item = true ∧
          readGraphLines file construct idOf contentSha256 same rest (lineNumber + 1) output =
            .ok result) ∨
        (∀ prior ∈ output, idOf prior ≠ idOf item) ∧
          readGraphLines file construct idOf contentSha256 same rest (lineNumber + 1)
            (output ++ [item]) = .ok result) := by
  cases line with
  | malformed => cases h
  | record raw expected =>
    simp only [readGraphLines] at h
    split at h
    · cases h
    · rename_i item hitem
      split at h
      · cases h
      · rename_i hdigest
        refine ⟨item, lineReads_record_iff.mpr ⟨hitem, not_not.mp hdigest⟩, ?_⟩
        split at h
        · rename_i prior hfind
          split at h
          · rename_i hsame
            have hid := List.find?_some hfind
            exact Or.inl ⟨prior, List.mem_of_find?_eq_some hfind, by simpa using hid, hsame, h⟩
          · cases h
        · rename_i hfind
          refine Or.inr ⟨?_, h⟩
          intro prior hprior
          simpa using List.find?_eq_none.mp hfind prior hprior

/-- A reading keeps what it had, and for every line a record of the line's id
that is taken for the line's. -/
theorem kept_of_read {lines : List (StoredLine ρ)} {lineNumber : Nat} {output result : List α}
    (hrefl : ∀ item, same item item = true)
    (h : readGraphLines file construct idOf contentSha256 same lines lineNumber output =
      .ok result) :
    output ⊆ result ∧
      (∀ item ∈ result, item ∈ output ∨ Written construct contentSha256 lines item) ∧
      ∀ line ∈ lines, ∃ item, LineReads construct contentSha256 line item ∧
        ∃ kept ∈ result, idOf kept = idOf item ∧ same kept item = true := by
  induction lines generalizing lineNumber output with
  | nil =>
    cases h
    exact ⟨fun _ hitem => hitem, fun _ hitem => Or.inl hitem,
      fun _ hline => absurd hline List.not_mem_nil⟩
  | cons line rest ih =>
    obtain ⟨item, hline, ⟨prior, hprior, hid, hsame, h⟩ | ⟨-, h⟩⟩ := readGraphLines_cons h
    · obtain ⟨hkeeps, hfrom, hlines⟩ := ih h
      refine ⟨hkeeps, ?_, ?_⟩
      · intro kept hkept
        exact (hfrom kept hkept).imp_right fun ⟨other, hother, hreads⟩ =>
          ⟨other, List.mem_cons_of_mem _ hother, hreads⟩
      · intro other hother
        rcases List.mem_cons.mp hother with rfl | hrest
        · exact ⟨item, hline, prior, hkeeps hprior, hid, hsame⟩
        · exact hlines other hrest
    · obtain ⟨hkeeps, hfrom, hlines⟩ := ih h
      have hnew : item ∈ result := hkeeps (List.mem_append_right _ List.mem_cons_self)
      refine ⟨fun kept hkept => hkeeps (List.mem_append_left _ hkept), ?_, ?_⟩
      · intro kept hkept
        rcases hfrom kept hkept with hmem | ⟨other, hother, hreads⟩
        · rcases List.mem_append.mp hmem with hold | hitem
          · exact Or.inl hold
          · rw [List.mem_singleton.mp hitem]
            exact Or.inr ⟨line, List.mem_cons_self, hline⟩
        · exact Or.inr ⟨other, List.mem_cons_of_mem _ hother, hreads⟩
      · intro other hother
        rcases List.mem_cons.mp hother with rfl | hrest
        · exact ⟨item, hline, item, hnew, rfl, hrefl item⟩
        · exact hlines other hrest

theorem read_of_agreeing {lines : List (StoredLine ρ)} {lineNumber : Nat} {output : List α}
    {written : α → Prop} (hreadable : Readable construct contentSha256 lines)
    (hagree : Agreeing idOf same written) (houtput : ∀ item ∈ output, written item)
    (hlines : ∀ item, Written construct contentSha256 lines item → written item) :
    ∃ result, readGraphLines file construct idOf contentSha256 same lines lineNumber output =
      .ok result := by
  induction lines generalizing lineNumber output with
  | nil => exact ⟨output, rfl⟩
  | cons line rest ih =>
    have hrest : Readable construct contentSha256 rest :=
      fun other hother => hreadable other (List.mem_cons_of_mem _ hother)
    have hwritten : ∀ item, Written construct contentSha256 rest item → written item :=
      fun item ⟨other, hother, hreads⟩ =>
        hlines item ⟨other, List.mem_cons_of_mem _ hother, hreads⟩
    obtain ⟨item, hreads⟩ := hreadable line List.mem_cons_self
    have hitem : written item := hlines item ⟨line, List.mem_cons_self, hreads⟩
    obtain ⟨raw, expected, rfl, hconstruct, hdigest⟩ := hreads
    simp only [readGraphLines, hconstruct, hdigest, ne_eq, not_true_eq_false, if_false]
    cases hfind : output.find? (fun prior => idOf prior = idOf item) with
    | some prior =>
      have hid : idOf prior = idOf item := by simpa using List.find?_some hfind
      have hprior : written prior := houtput prior (List.mem_of_find?_eq_some hfind)
      simp only [hagree prior item hprior hitem hid, if_true]
      exact ih hrest houtput hwritten
    | none =>
      refine ih hrest ?_ hwritten
      intro other hother
      rcases List.mem_append.mp hother with hold | hnew
      · exact houtput other hold
      · rw [List.mem_singleton.mp hnew]
        exact hitem

section Orders

variable {lines others : List (StoredLine ρ)} {result : List α}

theorem readable_of_read (hrefl : ∀ item, same item item = true)
    (h : readGraphLines file construct idOf contentSha256 same lines 1 [] = .ok result) :
    Readable construct contentSha256 lines := by
  intro line hline
  obtain ⟨item, hreads, -⟩ := (kept_of_read hrefl h).2.2 line hline
  exact ⟨item, hreads⟩

theorem kept_of_written (hrefl : ∀ item, same item item = true)
    (h : readGraphLines file construct idOf contentSha256 same lines 1 [] = .ok result) {item : α}
    (hitem : Written construct contentSha256 lines item) :
    ∃ kept ∈ result, idOf kept = idOf item ∧ same kept item = true := by
  obtain ⟨line, hline, hreads⟩ := hitem
  obtain ⟨other, hother, hkept⟩ := (kept_of_read hrefl h).2.2 line hline
  rw [lineReads_unique hreads hother]
  exact hkept

theorem written_of_mem (hrefl : ∀ item, same item item = true)
    (h : readGraphLines file construct idOf contentSha256 same lines 1 [] = .ok result) {item : α}
    (hitem : item ∈ result) : Written construct contentSha256 lines item :=
  ((kept_of_read hrefl h).2.1 item hitem).resolve_left List.not_mem_nil

theorem eq_of_id (h : readGraphLines file construct idOf contentSha256 same lines 1 [] = .ok result)
    {item other : α} (hitem : item ∈ result) (hother : other ∈ result)
    (hid : idOf item = idOf other) : item = other :=
  List.inj_on_of_nodup_map (readGraphLines_nodup lines 1 [] result (by simp) h) hitem hother hid

theorem mem_read_iff (hrefl : ∀ item, same item item = true)
    (hone : OneContent idOf (Written construct contentSha256 lines))
    (h : readGraphLines file construct idOf contentSha256 same lines 1 [] = .ok result) (item : α) :
    item ∈ result ↔ Written construct contentSha256 lines item := by
  constructor
  · exact written_of_mem hrefl h
  · intro hitem
    obtain ⟨kept, hkept, hid, -⟩ := kept_of_written hrefl h hitem
    rw [← hone kept item (written_of_mem hrefl h hkept) hitem hid]
    exact hkept

/-- Records that are taken for each other only when they are equal have one
content for each id in every file that is read. -/
theorem oneContent_of_read (hrefl : ∀ item, same item item = true)
    (heq : ∀ item other, same item other = true → item = other)
    (h : readGraphLines file construct idOf contentSha256 same lines 1 [] = .ok result) :
    OneContent idOf (Written construct contentSha256 lines) := by
  intro item other hitem hother hid
  obtain ⟨kept, hkept, hkeptId, hsame⟩ := kept_of_written hrefl h hitem
  obtain ⟨held, hheld, hheldId, hsame'⟩ := kept_of_written hrefl h hother
  rw [← heq kept item hsame, ← heq held other hsame']
  exact eq_of_id h hkept hheld (hkeptId.trans (hid.trans hheldId.symm))

theorem agreeing_of_read (hrefl : ∀ item, same item item = true)
    (heuclid : ∀ kept item other, same kept item = true → same kept other = true →
      same item other = true)
    (h : readGraphLines file construct idOf contentSha256 same lines 1 [] = .ok result) :
    Agreeing idOf same (Written construct contentSha256 lines) := by
  intro item other hitem hother hid
  obtain ⟨kept, hkept, hkeptId, hsame⟩ := kept_of_written hrefl h hitem
  obtain ⟨held, hheld, hheldId, hsame'⟩ := kept_of_written hrefl h hother
  have hone : kept = held :=
    eq_of_id h hkept hheld (hkeptId.trans (hid.trans hheldId.symm))
  rw [← hone] at hsame'
  exact heuclid kept item other hsame hsame'

theorem read_perm (hrefl : ∀ item, same item item = true)
    (hone : OneContent idOf (Written construct contentSha256 lines)) (hperm : lines.Perm others)
    (h : readGraphLines file construct idOf contentSha256 same lines 1 [] = .ok result) :
    ∃ again, readGraphLines file construct idOf contentSha256 same others 1 [] = .ok again ∧
      result.Perm again := by
  have hreadable : Readable construct contentSha256 others := by
    intro line hline
    exact readable_of_read hrefl h line (hperm.mem_iff.mpr hline)
  have hagree : Agreeing idOf same (Written construct contentSha256 others) := by
    intro item other hitem hother hid
    rw [hone item other ((written_of_perm hperm item).mpr hitem)
      ((written_of_perm hperm other).mpr hother) hid]
    exact hrefl other
  have hone' : OneContent idOf (Written construct contentSha256 others) := by
    intro item other hitem hother
    exact hone item other ((written_of_perm hperm item).mpr hitem)
      ((written_of_perm hperm other).mpr hother)
  obtain ⟨again, hagain⟩ : ∃ again, readGraphLines file construct idOf contentSha256 same others 1
      [] = .ok again :=
    read_of_agreeing hreadable hagree (fun _ hitem => absurd hitem List.not_mem_nil) fun _ h => h
  refine ⟨again, hagain, ?_⟩
  have hnodup : result.Nodup := (readGraphLines_nodup lines 1 [] result (by simp) h).of_map _
  have hnodup' : again.Nodup := (readGraphLines_nodup others 1 [] again (by simp) hagain).of_map _
  rw [List.perm_ext_iff_of_nodup hnodup hnodup']
  intro item
  rw [mem_read_iff hrefl hone h, mem_read_iff hrefl hone' hagain, written_of_perm hperm]

/-- Where an id has two contents that are taken for each other, some order of
the lines is read to other records. -/
theorem read_differs (hrefl : ∀ item, same item item = true)
    (hagree : Agreeing idOf same (Written construct contentSha256 lines))
    (hmany : ¬ OneContent idOf (Written construct contentSha256 lines))
    (h : readGraphLines file construct idOf contentSha256 same lines 1 [] = .ok result) :
    ∃ others again, lines.Perm others ∧
      readGraphLines file construct idOf contentSha256 same others 1 [] = .ok again ∧
      ¬ result.Perm again := by
  -- a written record that the reading dropped for another one of its id
  obtain ⟨dropped, hdropped, hmissing⟩ : ∃ item, Written construct contentSha256 lines item ∧
      item ∉ result := by
    by_contra hnone
    push Not at hnone
    refine hmany ?_
    intro item other hitem hother hid
    exact eq_of_id h (hnone item hitem) (hnone other hother) hid
  obtain ⟨line, hline, hreads⟩ := hdropped
  obtain ⟨before, after, rfl⟩ := List.append_of_mem hline
  have hperm : (before ++ line :: after).Perm (line :: (before ++ after)) := List.perm_middle
  have hreadable : Readable construct contentSha256 (line :: (before ++ after)) := by
    intro other hother
    exact readable_of_read hrefl h other (hperm.mem_iff.mpr hother)
  have hagree' : Agreeing idOf same
      (Written construct contentSha256 (line :: (before ++ after))) := by
    intro item other hitem hother
    exact hagree item other ((written_of_perm hperm item).mpr hitem)
      ((written_of_perm hperm other).mpr hother)
  obtain ⟨again, hagain⟩ : ∃ again, readGraphLines file construct idOf contentSha256 same
      (line :: (before ++ after)) 1 [] = .ok again :=
    read_of_agreeing hreadable hagree' (fun _ hitem => absurd hitem List.not_mem_nil) fun _ h => h
  refine ⟨_, again, hperm, hagain, ?_⟩
  intro hsame
  obtain ⟨item, hfirst, ⟨prior, hprior, -⟩ | ⟨-, hrest⟩⟩ := readGraphLines_cons hagain
  · exact List.not_mem_nil hprior
  · have hkept : item ∈ again := (kept_of_read hrefl hrest).1 List.mem_cons_self
    rw [lineReads_unique hreads hfirst] at hmissing
    exact hmissing (hsame.mem_iff.mpr hkept)

end Orders

end JlensEvolve.Evidence
