import Mathlib.Data.List.Pairwise
import JlensEvolve.SkillLoop.SpanRewrite

/-!
What a plan that materializes does to its source. Each text it names occurs
once, the occurrences do not overlap, and the result is the source with all of
them replaced at once, in whatever order the plan lists them.
-/

namespace JlensEvolve.SkillLoop.SpanRewrite

open Library Contracts

def OccursAt (source text : String) (offset : Nat) : Prop :=
  text.toList <+: source.toList.drop offset

theorem find_some {source selector : List Char} {start found : Nat}
    (h : find source selector start = some found) : selector <+: source.drop found := by
  have hholds := List.find?_some h
  simpa using hholds

theorem find_least {source selector : List Char} {start found offset : Nat}
    (h : find source selector start = some found) (hstart : start ≤ offset)
    (hbefore : offset < found) : ¬ selector <+: source.drop offset := by
  obtain ⟨-, first, last, hsplit, hnone⟩ := List.find?_eq_some_iff_append.mp h
  have hbounds := find_bounds h
  have hmem : offset ∈ first ++ found :: last := by
    rw [← hsplit, List.mem_range'_1]
    omega
  have hsorted : (first ++ found :: last).Pairwise (· < ·) := hsplit ▸ List.pairwise_lt_range'
  obtain hfirst | hlast := List.mem_append.mp hmem
  · simpa using hnone offset hfirst
  · have hle : found ≤ offset := by
      obtain rfl | hrest := List.mem_cons.mp hlast
      · exact Nat.le_refl _
      · have hpair := (List.pairwise_append.mp hsorted).2.1
        exact ((List.pairwise_cons.mp hpair).1 offset hrest).le
    omega

theorem mem_matchOffsetsFrom (source selector : List Char) (start offset : Nat) :
    offset ∈ matchOffsetsFrom source selector start ↔
      start ≤ offset ∧ offset ≤ source.length ∧ selector <+: source.drop offset := by
  induction start using matchOffsetsFrom.induct source selector with
  | case1 start hnone =>
    rw [matchOffsetsFrom]
    split
    · simp only [List.not_mem_nil, false_iff, not_and]
      intro hstart hoffset hoccurs
      have hnever := List.find?_eq_none.mp hnone offset (by
        rw [List.mem_range'_1]
        omega)
      exact hnever (by simpa using hoccurs)
    · rename_i found hfound
      rw [hnone] at hfound
      cases hfound
  | case2 start found hfound ih =>
    rw [matchOffsetsFrom]
    split
    · rename_i hnone
      rw [hfound] at hnone
      cases hnone
    · rename_i other hother
      rw [hfound] at hother
      cases hother
      have hbounds := find_bounds hfound
      rw [List.mem_cons, ih]
      constructor
      · rintro (rfl | ⟨hlater, hoffset, hoccurs⟩)
        · exact ⟨hbounds.1, hbounds.2, find_some hfound⟩
        · exact ⟨by omega, hoffset, hoccurs⟩
      · rintro ⟨hstart, hoffset, hoccurs⟩
        obtain hbefore | hsame | hafter := Nat.lt_trichotomy offset found
        · exact absurd hoccurs (find_least hfound hstart hbefore)
        · exact Or.inl hsame
        · exact Or.inr ⟨hafter, hoffset, hoccurs⟩

theorem mem_matchOffsets {source text : String} {offset : Nat} :
    offset ∈ matchOffsets source.toList text.toList ↔
      offset ≤ source.toList.length ∧ OccursAt source text offset := by
  rw [matchOffsets, mem_matchOffsetsFrom]
  exact and_iff_right (Nat.zero_le _)

theorem OccursAt.bound {source text : String} {offset : Nat} (h : OccursAt source text offset)
    (hne : text ≠ "") : offset + text.length ≤ source.toList.length := by
  have hlength := h.length_le
  rw [List.length_drop, String.length_toList] at hlength
  have hpos : text.length ≠ 0 := fun hzero => hne (String.length_eq_zero_iff.mp hzero)
  omega

theorem OccursAt.take {source text : String} {offset : Nat} (h : OccursAt source text offset) :
    (source.toList.drop offset).take text.length = text.toList := by
  rw [← String.length_toList]
  exact (List.prefix_iff_eq_take.mp h).symm

theorem occurs_once {source text : String} (hne : text ≠ "") {start : Nat}
    (h : matchOffsets source.toList text.toList = [start]) :
    OccursAt source text start ∧ ∀ offset, OccursAt source text offset → offset = start := by
  constructor
  · have hmem : start ∈ matchOffsets source.toList text.toList := h ▸ List.mem_singleton_self start
    exact (mem_matchOffsets.mp hmem).2
  · intro offset hoccurs
    have hbound := hoccurs.bound hne
    have hmem := mem_matchOffsets.mpr ⟨by omega, hoccurs⟩
    rw [h] at hmem
    exact List.mem_singleton.mp hmem

/-- The edit that an operation with one match is resolved to. -/
def spanOf (source : String) (operation : SpanOperation) : Splice.Edit Char :=
  let start := (matchOffsets source.toList operation.before.toList).headD 0
  ⟨start, start + operation.before.length, operation.after.toList⟩

/-- The operation names a text that occurs once. -/
def Resolves (source : String) (operation : SpanOperation) : Prop :=
  ∃ start, matchOffsets source.toList operation.before.toList = [start]

theorem resolveSpan_ok_iff (source : String) (operation : SpanOperation)
    (edit : Splice.Edit Char) :
    resolveSpan source.toList operation = .ok edit ↔
      Resolves source operation ∧ edit = spanOf source operation := by
  unfold resolveSpan Resolves spanOf
  split
  · rename_i start hstart
    rw [hstart]
    constructor
    · intro h
      cases h
      exact ⟨⟨start, rfl⟩, rfl⟩
    · rintro ⟨-, rfl⟩
      rfl
  · rename_i hmany
    constructor
    · intro h
      cases h
    · rintro ⟨⟨start, hstart⟩, -⟩
      exact absurd hstart (hmany start)

theorem spanOf_spec {source : String} {operation : SpanOperation} (hne : operation.before ≠ "")
    (h : Resolves source operation) :
    OccursAt source operation.before (spanOf source operation).start ∧
      (∀ offset, OccursAt source operation.before offset →
        offset = (spanOf source operation).start) ∧
      (spanOf source operation).stop =
        (spanOf source operation).start + operation.before.length ∧
      (spanOf source operation).start < (spanOf source operation).stop ∧
      (spanOf source operation).stop ≤ source.toList.length := by
  obtain ⟨start, hstart⟩ := h
  have hspan : spanOf source operation =
      ⟨start, start + operation.before.length, operation.after.toList⟩ := by
    rw [spanOf, hstart]
    rfl
  obtain ⟨hoccurs, honly⟩ := occurs_once hne hstart
  have hbound := hoccurs.bound hne
  have hpos : operation.before.length ≠ 0 := fun hzero => hne (String.length_eq_zero_iff.mp hzero)
  rw [hspan]
  exact ⟨hoccurs, honly, rfl, by dsimp only; omega, hbound⟩

/-- Spans of the source that are not empty. -/
def Within (bound : Nat) (edits : List (Splice.Edit Char)) : Prop :=
  ∀ edit ∈ edits, edit.start < edit.stop ∧ edit.stop ≤ bound

theorem checkNeighbours_cons_iff (edit next : Splice.Edit Char) (rest : List (Splice.Edit Char)) :
    checkNeighbours (edit :: next :: rest) = .ok () ↔
      edit.stop ≤ next.start ∧ checkNeighbours (next :: rest) = .ok () := by
  simp only [checkNeighbours, List.tail_cons, List.zip_cons_cons, forM_ok_iff, require_ok_iff,
    List.forall_mem_cons]

theorem apart_of_neighbours {bound offset : Nat} {edits : List (Splice.Edit Char)}
    (hwithin : Within bound edits) (hchecked : checkNeighbours edits = .ok ())
    (hoffset : offset ≤ bound) (hfirst : ∀ edit ∈ edits.head?, offset ≤ edit.start) :
    Splice.Apart bound offset edits := by
  induction edits generalizing offset with
  | nil => exact hoffset
  | cons edit rest ih =>
    obtain ⟨hedit, hrest⟩ := List.forall_mem_cons.mp hwithin
    refine ⟨hfirst edit rfl, hedit.1.le, ?_⟩
    cases rest with
    | nil => exact hedit.2
    | cons next others =>
      obtain ⟨hnext, hothers⟩ := (checkNeighbours_cons_iff edit next others).mp hchecked
      refine ih hrest hothers hedit.2 fun found hfound => ?_
      cases hfound
      exact hnext

theorem Apart.pairwise {bound offset : Nat} {edits : List (Splice.Edit Char)}
    (hwithin : Within bound edits) (h : Splice.Apart bound offset edits) :
    edits.Pairwise (fun left right => left.stop ≤ right.start) ∧
      ∀ edit ∈ edits, offset ≤ edit.start := by
  induction edits generalizing offset with
  | nil => exact ⟨List.Pairwise.nil, fun _ hmem => absurd hmem List.not_mem_nil⟩
  | cons edit rest ih =>
    obtain ⟨hedit, hrest⟩ := List.forall_mem_cons.mp hwithin
    obtain ⟨hpairwise, hlater⟩ := ih hrest h.2.2
    refine ⟨List.pairwise_cons.mpr ⟨hlater, hpairwise⟩, List.forall_mem_cons.mpr ⟨h.1, ?_⟩⟩
    intro other hother
    have hle := hlater other hother
    have hstart := h.1
    omega

theorem start_inj {bound : Nat} {edits : List (Splice.Edit Char)} (hwithin : Within bound edits)
    (hpairwise : edits.Pairwise fun left right => left.stop ≤ right.start)
    {edit other : Splice.Edit Char} (hedit : edit ∈ edits) (hother : other ∈ edits)
    (hsame : edit.start = other.start) : edit = other := by
  have hstrict : edits.Pairwise fun left right => left.start < right.start := by
    refine hpairwise.imp_of_mem fun hleft _ hle => ?_
    have hleftSpan := (hwithin _ hleft).1
    omega
  by_contra hne
  have hsymmetric : edits.Pairwise fun left right => left.start ≠ right.start :=
    hstrict.imp fun hlt => hlt.ne
  have hsymm : Std.Symm fun left right : Splice.Edit Char => left.start ≠ right.start :=
    ⟨fun _ _ hstarts => hstarts.symm⟩
  exact hsymmetric.forall hedit hother hne hsame

section Materialized

variable {source : String} {plan : SpanPlan} {result : SpanMaterializationResult}

def orderedSpans (source : String) (plan : SpanPlan) : List (Splice.Edit Char) :=
  KeyedSort.sortBy spanKey (plan.operations.map (spanOf source))

/-- The text that a plan makes of its source. -/
def materialized (source : String) (plan : SpanPlan) : String :=
  String.ofList (Splice.fromRight source.toList (orderedSpans source plan))

/-- A plan whose texts occur once and do not overlap, and which changes its source. -/
structure Materializes (source : String) (plan : SpanPlan) : Prop where
  valid : plan.validate = .ok ()
  resolves : ∀ operation ∈ plan.operations, Resolves source operation
  apart : checkNeighbours (orderedSpans source plan) = .ok ()
  gated : ((gates source (materialized source plan)).all fun gate => gate.2) = true

theorem materializeSpanPlan_ok_iff :
    materializeSpanPlan source plan = .ok result ↔
      Materializes source plan ∧ result = ⟨source, materialized source plan, true,
        gates source (materialized source plan), plan.fingerprint⟩ := by
  simp only [materializeSpanPlan, except_bind_ok_iff, require_ok_iff,
    mapM_checked_iff fun operation _ => resolveSpan_ok_iff source operation]
  constructor
  · rintro ⟨_, hvalid, resolved, ⟨hresolves, rfl⟩, _, happart, _, hgated, hresult⟩
    cases hresult
    exact ⟨⟨hvalid, hresolves, happart, hgated⟩, rfl⟩
  · rintro ⟨h, rfl⟩
    exact ⟨(), h.valid, _, ⟨h.resolves, rfl⟩, (), h.apart, (), h.gated, rfl⟩

theorem Materializes.before_ne (h : Materializes source plan) {operation : SpanOperation}
    (hmem : operation ∈ plan.operations) : operation.before ≠ "" := by
  have hvalid := h.valid
  simp only [SpanPlan.validate, except_bind_ok_iff, require_ok_iff, forM_ok_iff] at hvalid
  obtain ⟨_, -, _, -, _, -, _, -, _, hoperations, -⟩ := hvalid
  have hoperation := hoperations operation hmem
  simp only [SpanOperation.validate, except_bind_ok_iff, require_ok_iff] at hoperation
  obtain ⟨_, hne, -⟩ := hoperation
  exact hne

theorem orderedSpans_perm : (orderedSpans source plan).Perm (plan.operations.map (spanOf source)) :=
  KeyedSort.perm_sortBy _ _

theorem Materializes.within (h : Materializes source plan) :
    Within source.toList.length (orderedSpans source plan) := by
  intro edit hedit
  obtain ⟨operation, hoperation, rfl⟩ := List.mem_map.mp (orderedSpans_perm.mem_iff.mp hedit)
  obtain ⟨-, -, -, hstart, hstop⟩ :=
    spanOf_spec (h.before_ne hoperation) (h.resolves operation hoperation)
  exact ⟨hstart, hstop⟩

theorem Materializes.splice (h : Materializes source plan) :
    Splice.Apart source.toList.length 0 (orderedSpans source plan) :=
  apart_of_neighbours h.within h.apart (Nat.zero_le _) fun _ _ => Nat.zero_le _

theorem Materializes.disjoint (h : Materializes source plan) :
    plan.operations.Pairwise fun first second =>
      (spanOf source first).stop ≤ (spanOf source second).start ∨
        (spanOf source second).stop ≤ (spanOf source first).start := by
  have hpairwise := (Apart.pairwise h.within h.splice).1
  have heither : (orderedSpans source plan).Pairwise fun left right =>
      left.stop ≤ right.start ∨ right.stop ≤ left.start := hpairwise.imp fun hle => Or.inl hle
  have hspans := (orderedSpans_perm.pairwise_iff
    (fun {left right : Splice.Edit Char} (hor : left.stop ≤ right.start ∨
      right.stop ≤ left.start) => hor.symm)).mp heither
  exact List.pairwise_map.mp hspans

/-- The replacement of a piece of the source. -/
def replacementOf (piece : Splice.Piece Char) : List Char × List Char := (piece.before, piece.after)

theorem pieces_replacements (source : List Char) (offset : Nat) (edits : List (Splice.Edit Char)) :
    (Splice.pieces source offset edits).map replacementOf =
      edits.map fun edit =>
        ((source.drop edit.start).take (edit.stop - edit.start), edit.replacement) := by
  induction edits generalizing offset with
  | nil => rfl
  | cons edit rest ih => rw [Splice.pieces, List.map_cons, List.map_cons, ih]; rfl

/-- The result is the source with each named text replaced and everything else copied: both
are the same pieces one after the other, and what the pieces replace are the operations. -/
def ReplacedAtOnce (source : String) (operations : List SpanOperation) (after : String) : Prop :=
  ∃ (pieces : List (Splice.Piece Char)) (rest : List Char),
    (pieces.map replacementOf).Perm
      (operations.map fun operation => (operation.before.toList, operation.after.toList)) ∧
    source.toList = pieces.flatMap (fun piece => piece.copied ++ piece.before) ++ rest ∧
    after.toList = pieces.flatMap (fun piece => piece.copied ++ piece.after) ++ rest

theorem Materializes.replacedAtOnce (h : Materializes source plan) :
    ReplacedAtOnce source plan.operations (materialized source plan) := by
  refine ⟨Splice.pieces source.toList 0 (orderedSpans source plan),
    source.toList.drop (Splice.lastStop 0 (orderedSpans source plan)), ?_, ?_, ?_⟩
  · rw [pieces_replacements]
    refine (orderedSpans_perm.map _).trans ?_
    rw [List.map_map]
    refine List.Perm.of_eq (List.map_congr_left fun operation hmem => ?_)
    obtain ⟨hoccurs, -, hstop, -, -⟩ :=
      spanOf_spec (h.before_ne hmem) (h.resolves operation hmem)
    rw [Function.comp_apply, hstop, Nat.add_sub_cancel_left, hoccurs.take]
    rfl
  · have hpieces := Splice.drop_eq_pieces source.toList h.splice
    rwa [List.drop_zero] at hpieces
  · rw [materialized, String.toList_ofList, Splice.fromRight_eq_allAtOnce h.splice,
      Splice.allAtOnce_eq_pieces]

/-- The same plan with its operations in another order. -/
def reordered (plan : SpanPlan) (operations : List SpanOperation) : SpanPlan :=
  { plan with operations := operations }

theorem Materializes.reordered (h : Materializes source plan) {operations : List SpanOperation}
    (hperm : plan.operations.Perm operations) :
    Materializes source (reordered plan operations) ∧
      materialized source (SpanRewrite.reordered plan operations) = materialized source plan := by
  have hspans : orderedSpans source (SpanRewrite.reordered plan operations) =
      orderedSpans source plan := by
    refine (KeyedSort.sortBy_eq_of_perm ?_ (hperm.map _)).symm
    intro edit hedit other hother hkey
    have hstart : edit.start = other.start := congrArg (fun key => (ofLex key).1) hkey
    exact start_inj h.within (Apart.pairwise h.within h.splice).1
      (orderedSpans_perm.mem_iff.mpr hedit) (orderedSpans_perm.mem_iff.mpr hother) hstart
  have hsame : materialized source (SpanRewrite.reordered plan operations) =
      materialized source plan := by
    rw [materialized, hspans, materialized]
  refine ⟨⟨?_, fun operation hmem => h.resolves operation (hperm.mem_iff.mpr hmem), ?_, ?_⟩, hsame⟩
  · have hvalid := h.valid
    simp only [SpanPlan.validate, except_bind_ok_iff, require_ok_iff, forM_ok_iff] at hvalid ⊢
    obtain ⟨_, hschema, _, hfile, _, hintent, _, hcount, _, hoperations, hdiagnostic⟩ := hvalid
    refine ⟨(), hschema, (), hfile, (), hintent, (), ?_, (), fun operation hmem =>
      hoperations operation (hperm.mem_iff.mpr hmem), hdiagnostic⟩
    rw [SpanRewrite.reordered, ← hperm.length_eq]
    exact hcount
  · rw [hspans]
    exact h.apart
  · rw [hsame]
    exact h.gated

end Materialized

/-- What materializing a plan means for its source. -/
structure Replaces (source : String) (plan : SpanPlan) (after : String) : Prop where
  once : ∀ operation ∈ plan.operations, ∃ offset, OccursAt source operation.before offset ∧
    ∀ other, OccursAt source operation.before other → other = offset
  disjoint : plan.operations.Pairwise fun first second => ∀ i j,
    OccursAt source first.before i → OccursAt source second.before j →
      i + first.before.length ≤ j ∨ j + second.before.length ≤ i
  replaced : ReplacedAtOnce source plan.operations after
  anyOrder : ∀ operations, plan.operations.Perm operations →
    ∃ again, materializeSpanPlan source (reordered plan operations) = .ok again ∧
      again.after = after

theorem replaces_of_materialized {source : String} {plan : SpanPlan}
    {result : SpanMaterializationResult} (hresult : materializeSpanPlan source plan = .ok result) :
    Replaces source plan result.after := by
  obtain ⟨h, rfl⟩ := materializeSpanPlan_ok_iff.mp hresult
  refine ⟨fun operation hmem => ?_, ?_, h.replacedAtOnce, fun operations hperm => ?_⟩
  · obtain ⟨hoccurs, honly, -⟩ := spanOf_spec (h.before_ne hmem) (h.resolves operation hmem)
    exact ⟨_, hoccurs, honly⟩
  · refine h.disjoint.imp_of_mem fun {first second} hfirst hsecond hapart i j hi hj => ?_
    obtain ⟨-, honlyFirst, hstopFirst, -⟩ :=
      spanOf_spec (h.before_ne hfirst) (h.resolves first hfirst)
    obtain ⟨-, honlySecond, hstopSecond, -⟩ :=
      spanOf_spec (h.before_ne hsecond) (h.resolves second hsecond)
    rw [honlyFirst i hi, honlySecond j hj]
    omega
  · obtain ⟨hagain, hsame⟩ := h.reordered hperm
    exact ⟨_, materializeSpanPlan_ok_iff.mpr ⟨hagain, rfl⟩, hsame⟩

theorem materializeFile_ok_iff {sources : Dict String String} {plan : SpanPlan}
    {answer : String × SpanMaterializationResult} :
    materializeFile sources plan = .ok answer ↔
      ∃ source result, sources.get? plan.file = some source ∧
        materializeSpanPlan source plan = .ok result ∧ answer = (plan.file, result) := by
  unfold materializeFile
  cases hsource : sources.get? plan.file with
  | none => simp
  | some source =>
    simp only [except_bind_ok_iff, Option.some.injEq]
    constructor
    · rintro ⟨result, hresult, hanswer⟩
      cases hanswer
      exact ⟨source, result, rfl, hresult, rfl⟩
    · rintro ⟨found, result, rfl, hresult, rfl⟩
      exact ⟨result, hresult, rfl⟩

theorem length_mapM {ε α β : Type} {f : α → Except ε β} {items : List α} {answers : List β}
    (h : items.mapM f = .ok answers) : answers.length = items.length := by
  induction items generalizing answers with
  | nil =>
    cases h
    rfl
  | cons first rest ih =>
    simp only [List.mapM_cons, except_bind_ok_iff] at h
    obtain ⟨answer, -, others, hrest, hsame⟩ := h
    cases hsame
    rw [List.length_cons, List.length_cons, ih hrest]

theorem materializeSpanBundle_iff (sources : Dict String String) (bundle : SpanBundlePlan) :
    (∃ result, materializeSpanBundle sources bundle = .ok result) ↔
      bundle.validate = .ok () ∧ ∀ plan ∈ bundle.plans, ∃ source result,
        sources.get? plan.file = some source ∧ materializeSpanPlan source plan = .ok result := by
  simp only [materializeSpanBundle, except_bind_ok_iff, require_ok_iff]
  constructor
  · rintro ⟨result, _, hvalid, results, hresults, -⟩
    refine ⟨hvalid, fun plan hmem => ?_⟩
    obtain ⟨answer, hanswer⟩ := mapM_ok_mem hresults hmem
    obtain ⟨source, found, hsource, hfound, -⟩ := materializeFile_ok_iff.mp hanswer
    exact ⟨source, found, hsource, hfound⟩
  · rintro ⟨hvalid, hplans⟩
    obtain ⟨results, hresults⟩ : ∃ results, bundle.plans.mapM (materializeFile sources) =
        .ok results := by
      refine mapM_ok_of_forall fun plan hmem => ?_
      obtain ⟨source, result, hsource, hresult⟩ := hplans plan hmem
      exact ⟨_, materializeFile_ok_iff.mpr ⟨source, result, hsource, hresult, rfl⟩⟩
    refine ⟨_, (), hvalid, results, hresults, (), ⟨length_mapM hresults, ?_⟩, rfl⟩
    refine List.all_eq_true.mpr fun answer hanswer => ?_
    obtain ⟨plan, -, hplan⟩ := (mem_mapM_iff hresults answer).mp hanswer
    obtain ⟨source, result, -, hresult, rfl⟩ := materializeFile_ok_iff.mp hplan
    obtain ⟨-, rfl⟩ := materializeSpanPlan_ok_iff.mp hresult
    rfl

/-- A plan that materializes replaces its texts at once; a bundle materializes exactly when
the plan of each of its files does. -/
theorem span_materialization :
    (∀ source plan result, materializeSpanPlan source plan = .ok result →
      Replaces source plan result.after) ∧
    ∀ sources bundle, (∃ result, materializeSpanBundle sources bundle = .ok result) ↔
      bundle.validate = .ok () ∧ ∀ plan ∈ bundle.plans, ∃ source result,
        sources.get? plan.file = some source ∧ materializeSpanPlan source plan = .ok result :=
  ⟨fun _ _ _ hresult => replaces_of_materialized hresult, materializeSpanBundle_iff⟩

def raiseLimit : SpanPlan :=
  ⟨1, "limits.go", ⟨"limit", "load", "wider"⟩, [⟨"= 1", "= 2"⟩], "raise"⟩

theorem raiseLimit_offsets : matchOffsets "limit = 1".toList "= 1".toList = [6] := by
  have hfirst : find "limit = 1".toList "= 1".toList 0 = some 6 := by decide
  have hlast : find "limit = 1".toList "= 1".toList 7 = none := by decide
  rw [matchOffsets, matchOffsetsFrom]
  split
  · rename_i hnone
    rw [hfirst] at hnone
    cases hnone
  · rename_i found hfound
    rw [hfirst] at hfound
    cases hfound
    rw [matchOffsetsFrom]
    split
    · rfl
    · rename_i other hother
      rw [hlast] at hother
      cases hother

theorem raiseLimit_materialized :
    ∃ result, materializeSpanPlan "limit = 1" raiseLimit = .ok result ∧
      Replaces "limit = 1" raiseLimit result.after := by
  have hresolves : Resolves "limit = 1" ⟨"= 1", "= 2"⟩ := ⟨6, raiseLimit_offsets⟩
  have hspan : spanOf "limit = 1" ⟨"= 1", "= 2"⟩ = ⟨6, 9, "= 2".toList⟩ := by
    rw [spanOf, raiseLimit_offsets]
    rfl
  have hordered : orderedSpans "limit = 1" raiseLimit = [⟨6, 9, "= 2".toList⟩] := by
    rw [orderedSpans, raiseLimit, List.map_singleton, hspan]
    rfl
  have hafter : materialized "limit = 1" raiseLimit = "limit = 2" := by
    rw [materialized, hordered]
    decide
  have h : Materializes "limit = 1" raiseLimit := by
    refine ⟨by decide, ?_, ?_, ?_⟩
    · intro operation hmem
      obtain rfl := List.mem_singleton.mp hmem
      exact hresolves
    · rw [hordered]
      rfl
    · rw [hafter]
      decide
  have hresult := materializeSpanPlan_ok_iff.mpr ⟨h, rfl⟩
  exact ⟨_, hresult, span_materialization.1 _ _ _ hresult⟩

end JlensEvolve.SkillLoop.SpanRewrite
