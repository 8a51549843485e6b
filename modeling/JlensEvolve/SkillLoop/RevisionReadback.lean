import JlensEvolve.Library.Separation
import JlensEvolve.SkillLoop.Revisions

/-!
What `read_revisions` and `latest` give back after any appends. The rows form
one chain of parents per skill; they read back as long as no appended text has
a line boundary in it that quoting keeps.
-/

namespace JlensEvolve.SkillLoop

open Library Contracts

theorem isLower_eq (c : Char) :
    c.isLower = (decide ('a'.val ≤ c.val) && decide (c.val ≤ 'z'.val)) := rfl

theorem isIdentifierChar_ascii {c : Char} (h : isIdentifierChar c = true) : c.toNat < 128 := by
  simp only [isIdentifierChar, isIdentifierStart, isLower_eq, Char.isDigit, Bool.or_eq_true,
    Bool.and_eq_true, decide_eq_true_eq, beq_iff_eq, ge_iff_le, UInt32.le_iff_toNat_le] at h
  have hz : 'z'.val.toNat = 122 := rfl
  have hnine : '9'.val.toNat = 57 := rfl
  change c.val.toNat < 128
  rcases h with (((hlower | hdigit) | rfl) | rfl) | rfl
  · have hhigh : c.val.toNat ≤ 122 := hlower.2
    omega
  · have hhigh : c.val.toNat ≤ 57 := hdigit.2
    omega
  all_goals decide

theorem isIdentifier_append_iff {value suffix : String} (h : isIdentifier value = true)
    (hsuffix : ∀ c ∈ suffix.toList, isIdentifierChar c = true) :
    isIdentifier (value ++ suffix) = true ↔ value.length + suffix.length ≤ 128 := by
  unfold isIdentifier at h ⊢
  rw [String.toList_append, ← String.length_toList, ← String.length_toList]
  cases hvalue : value.toList with
  | nil =>
    rw [hvalue] at h
    cases h
  | cons c rest =>
    rw [hvalue] at h
    simp only [Bool.and_eq_true, decide_eq_true_eq, List.all_eq_true] at h
    have hall : ∀ c ∈ rest ++ suffix.toList, isIdentifierChar c = true := by
      intro d hd
      rcases List.mem_append.mp hd with hrest | hnew
      · exact h.2 d hrest
      · exact hsuffix d hnew
    simp only [List.cons_append, Bool.and_eq_true, decide_eq_true_eq, List.all_eq_true, h.1.1,
      true_and, List.length_append, List.length_cons]
    constructor
    · intro hboth
      omega
    · intro hlength
      exact ⟨by omega, hall⟩

theorem isIdentifierChar_of_isHexChar {c : Char} (h : Sha256.isHexChar c = true) :
    isIdentifierChar c = true := by
  simp only [Sha256.isHexChar, Bool.or_eq_true, Bool.and_eq_true, decide_eq_true_eq, Char.le_def,
    UInt32.le_iff_toNat_le] at h
  rcases h with hdigit | hletter
  · have hc : c.isDigit = true := by
      simpa [Char.isDigit, UInt32.le_iff_toNat_le] using hdigit
    simp [isIdentifierChar, isIdentifierStart, hc]
  · have hc : c.isLower = true := by
      simp only [isLower_eq, Bool.and_eq_true, decide_eq_true_eq, ge_iff_le,
        UInt32.le_iff_toNat_le]
      exact ⟨hletter.1, hletter.2.trans (by decide)⟩
    simp [isIdentifierChar, isIdentifierStart, hc]

theorem lineFree_of_isIdentifier {value : String} (h : isIdentifier value = true) :
    lineFree value = true := by
  have hascii : ∀ c ∈ value.toList, c.toNat < 128 := by
    unfold isIdentifier at h
    split at h
    · cases h
    · next first rest hchars =>
      simp only [Bool.and_eq_true, List.all_eq_true] at h
      obtain ⟨⟨hstart, -⟩, hrest⟩ := h
      rw [hchars]
      intro c hc
      rcases List.mem_cons.mp hc with rfl | hc
      · exact isIdentifierChar_ascii (by simp [isIdentifierChar, hstart])
      · exact isIdentifierChar_ascii (hrest c hc)
  rw [lineFree, List.all_eq_true]
  intro c hc
  have hlow := hascii c hc
  simp only [isBareBoundary, Bool.not_eq_true', Bool.or_eq_false_iff, beq_eq_false_iff_ne]
  omega

theorem leavesOnOneLine_of_pyEq_one {value : Json} (h : Json.pyEq value (.int 1) = true) :
    value.leavesOnOneLine = true := by
  have hcomparable : value.comparable = .float 1 := by
    simpa [Json.pyEq, Json.comparable, decide_eq_true_eq] using of_decide_eq_true h
  cases value with
  | null => rfl
  | bool value => rfl
  | int value => exact onOneLine_intRepr value
  | float value => exact Json.onOneLine_floatRepr value
  | str value => cases hcomparable
  | arr items => cases hcomparable
  | obj fields => cases hcomparable

namespace LoopRevision

variable {revision : LoopRevision}

/-- What validation leaves open are the four texts. -/
structure Valid (revision : LoopRevision) : Prop where
  schemaVersion : Json.pyEq revision.schemaVersion (.int 1) = true
  skillId : isIdentifier revision.skillId = true
  revisionId : isIdentifier revision.revisionId = true
  parentRevisionId : ∀ parent, revision.parentRevisionId = some parent → isIdentifier parent = true
  sourceRound : 0 ≤ revision.sourceRound
  texts : ∀ text ∈ revision.texts, isText text = true

theorem requireOptionalIdentifier_ok_iff (label : String) (value : Option String) (u : Unit) :
    requireOptionalIdentifier label value = .ok u ↔
      ∀ text, value = some text → isIdentifier text = true := by
  cases value with
  | none => simp [requireOptionalIdentifier, pure, Except.pure]
  | some text => simp [requireOptionalIdentifier, requireIdentifier]

theorem validate_ok_iff (u : Unit) : revision.validate = .ok u ↔ revision.Valid := by
  simp only [validate, except_bind_ok_iff, require_ok_iff, requireIdentifier, requireNonempty,
    requireOptionalIdentifier_ok_iff, exists_const]
  constructor
  · intro h
    obtain ⟨hschema, hskill, hrevision, hparent, hround, hprotocol, htext, hprompt, hnote⟩ := h
    refine ⟨hschema, hskill, hrevision, hparent, hround, ?_⟩
    simp [LoopRevision.texts, hprotocol, htext, hprompt, hnote]
  · intro h
    have htexts := h.texts
    simp only [LoopRevision.texts, List.forall_mem_cons] at htexts
    obtain ⟨hprotocol, htext, hprompt, hnote, -⟩ := htexts
    exact ⟨h.schemaVersion, h.skillId, h.revisionId, h.parentRevisionId, h.sourceRound, hprotocol,
      htext, hprompt, hnote⟩

theorem fromDict_toDict (h : revision.Valid) : fromDict revision.toDict = .ok revision := by
  have hkeys : hasKeys (revision.content ++ [("fingerprint", .str revision.fingerprint)])
      fieldNames := fun _ => Iff.rfl
  have hparent : (if payloadGet (revision.content ++ [("fingerprint", .str revision.fingerprint)])
      "parent_revision_id" = .null then none else some (pyStr (payloadGet (revision.content ++
        [("fingerprint", .str revision.fingerprint)]) "parent_revision_id"))) =
      revision.parentRevisionId := by
    change (if optionText revision.parentRevisionId = .null then none
      else some (pyStr (optionText revision.parentRevisionId))) = revision.parentRevisionId
    cases revision.parentRevisionId with
    | none => rfl
    | some parent => simp [optionText, pyStr]
  have hround : payloadGet (revision.content ++ [("fingerprint", .str revision.fingerprint)])
      "source_round" = .int revision.sourceRound := rfl
  unfold toDict fromDict
  simp only [hparent, hround, except_bind_ok_iff, require_ok_iff, exists_const]
  exact ⟨hkeys, (), (validate_ok_iff ()).mpr h, rfl, rfl⟩

theorem leavesOnOneLine_toDict (h : revision.Valid) :
    revision.toDict.leavesOnOneLine = revision.texts.all lineFree := by
  have hnames : ∀ name ∈ fieldNames, lineFree name = true := by decide
  simp only [fieldNames, List.forall_mem_cons] at hnames
  have hskill := lineFree_of_isIdentifier h.skillId
  have hrevision := lineFree_of_isIdentifier h.revisionId
  have hfingerprint : lineFree revision.fingerprint = true :=
    Json.lineFree_sha256 (Json.obj revision.content).contentSha256_isSha256
  have hschema := leavesOnOneLine_of_pyEq_one h.schemaVersion
  have hparent : (optionText revision.parentRevisionId).leavesOnOneLine = true := by
    cases hparent : revision.parentRevisionId with
    | none => rfl
    | some parent =>
      exact (Json.onOneLine_quote_eq_lineFree parent).trans
        (lineFree_of_isIdentifier (h.parentRevisionId parent hparent))
  have hround : onOneLine revision.sourceRound.repr = true :=
    onOneLine_intRepr revision.sourceRound
  simp [toDict, content, texts, Json.leavesOnOneLine, Json.fieldsOnOneLine,
    Json.onOneLine_quote_eq_lineFree, hnames, hskill, hrevision, hfingerprint, hschema, hparent,
    hround]

end LoopRevision

/-- The registry and the revisions that appends have added to it. -/
structure RevisionLog where
  registry : LoopRevisionRegistry
  appended : List LoopRevision

namespace RevisionLog

open LoopRevisionRegistry

def empty : RevisionLog := ⟨⟨[]⟩, []⟩

/-- A call of `append`; one that raises changes nothing. -/
def after (log : RevisionLog) (revision : LoopRevision) : RevisionLog :=
  match log.registry.append revision with
  | .ok (true, registry) => ⟨registry, log.appended ++ [revision]⟩
  | .ok (false, registry) => ⟨registry, log.appended⟩
  | .error _ => log

/-- The revisions of a skill are one line of descent. -/
structure Linear (own : List LoopRevision) : Prop where
  parent : ∀ before revision after, own = before ++ revision :: after →
    revision.parentRevisionId = before.getLast?.map LoopRevision.revisionId
  increasing : own.Pairwise fun first second => first.sourceRound < second.sourceRound

/-- Both queries return what was appended, one line of descent per skill. -/
structure ReadsBack (log : RevisionLog) : Prop where
  revisions : log.registry.readRevisions = .ok log.appended
  latest : ∀ skillId,
    log.registry.latest skillId = .ok (ofSkill skillId log.appended).getLast?
  linear : ∀ skillId, Linear (ofSkill skillId log.appended)

/-- The revision is valid, new and the next of its skill. -/
structure Extends (log : RevisionLog) (revision : LoopRevision) : Prop where
  valid : revision.Valid
  fresh : ∀ other ∈ log.appended, other.fingerprint ≠ revision.fingerprint
  parent : revision.parentRevisionId =
    (ofSkill revision.skillId log.appended).getLast?.map LoopRevision.revisionId
  increases : ∀ last ∈ (ofSkill revision.skillId log.appended).getLast?,
    last.sourceRound < revision.sourceRound

/-- A revision that is added has no line boundary in its texts. -/
def AddsPlain (log : RevisionLog) (revision : LoopRevision) : Prop :=
  log.Extends revision → ∀ text ∈ revision.texts, lineFree text = true

/-- The rows are those of the appended revisions, which are valid. -/
structure Holds (log : RevisionLog) : Prop where
  rows : log.registry.rows = log.appended.map LoopRevision.toDict
  valid : ∀ revision ∈ log.appended, revision.Valid
  linear : ∀ skillId, Linear (ofSkill skillId log.appended)

variable {log : RevisionLog} {revision : LoopRevision}

theorem Holds.decodes (h : log.Holds) : ∀ revision ∈ log.appended,
    revisionFormat.decode (revisionFormat.encode revision) = .ok revision :=
  fun revision hmem => LoopRevision.fromDict_toDict (h.valid revision hmem)

theorem holds_empty : empty.Holds := by
  refine ⟨rfl, fun _ hmem => absurd hmem List.not_mem_nil, ?_⟩
  intro skillId
  constructor
  · intro before revision after h
    simp [empty, ofSkill] at h
  · exact List.Pairwise.nil

theorem Holds.append_ok_iff (h : log.Holds) {result : Bool × LoopRevisionRegistry} :
    log.registry.append revision = .ok result ↔
      revision.Valid ∧
        if revision.fingerprint ∈ log.appended.map LoopRevision.fingerprint then
          result = (false, log.registry)
        else
          revision.parentRevisionId =
              (ofSkill revision.skillId log.appended).getLast?.map LoopRevision.revisionId ∧
            (ofSkill revision.skillId log.appended).getLast?.all
              (fun last => last.sourceRound < revision.sourceRound) = true ∧
            result = (true, ⟨log.registry.rows ++ [revision.toDict]⟩) := by
  have hread : revisionFormat.read isNewline log.registry.rows = .ok log.appended := by
    rw [h.rows]
    exact RowFormat.read_newline h.decodes
  simp only [LoopRevisionRegistry.append, except_bind_ok_iff, hread,
    LoopRevision.validate_ok_iff, exists_const]
  apply and_congr_right
  intro _
  constructor
  · intro hrun
    obtain ⟨existing, hexisting, hrun⟩ := hrun
    cases hexisting
    split at hrun
    · next hstored =>
      rw [if_pos hstored]
      exact (Except.ok.inj hrun).symm
    · next hstored =>
      rw [if_neg hstored]
      simp only [except_bind_ok_iff, require_ok_iff, exists_const] at hrun
      exact ⟨hrun.1, hrun.2.1, (Except.ok.inj hrun.2.2).symm⟩
  · intro hresult
    refine ⟨log.appended, rfl, ?_⟩
    split
    · next hstored =>
      rw [if_pos hstored] at hresult
      rw [hresult]
      rfl
    · next hstored =>
      rw [if_neg hstored] at hresult
      simp only [except_bind_ok_iff, require_ok_iff, exists_const]
      exact ⟨hresult.1, hresult.2.1, congrArg Except.ok hresult.2.2.symm⟩

theorem stored_iff : revision.fingerprint ∉ log.appended.map LoopRevision.fingerprint ↔
    ∀ other ∈ log.appended, other.fingerprint ≠ revision.fingerprint := by
  simp

theorem roundIncreases_iff {last? : Option LoopRevision} :
    last?.all (fun last => last.sourceRound < revision.sourceRound) = true ↔
      ∀ last ∈ last?, last.sourceRound < revision.sourceRound := by
  cases last? <;> simp

theorem Holds.append_true_iff (h : log.Holds) {registry : LoopRevisionRegistry} :
    log.registry.append revision = .ok (true, registry) ↔
      log.Extends revision ∧ registry = ⟨log.registry.rows ++ [revision.toDict]⟩ := by
  rw [h.append_ok_iff]
  constructor
  · intro hrun
    obtain ⟨hvalid, hresult⟩ := hrun
    split at hresult
    · cases hresult
    · next hstored =>
      obtain ⟨hparent, hround, hsame⟩ := hresult
      exact ⟨⟨hvalid, stored_iff.mp hstored, hparent, roundIncreases_iff.mp hround⟩,
        (Prod.mk.inj hsame).2⟩
  · intro hboth
    obtain ⟨hextends, hregistry⟩ := hboth
    refine ⟨hextends.valid, ?_⟩
    rw [if_neg (stored_iff.mpr hextends.fresh)]
    exact ⟨hextends.parent, roundIncreases_iff.mpr hextends.increases, by rw [hregistry]⟩

theorem Holds.after_of_extends (h : log.Holds) (hextends : log.Extends revision) :
    log.after revision =
      ⟨⟨log.registry.rows ++ [revision.toDict]⟩, log.appended ++ [revision]⟩ := by
  have hrun := h.append_true_iff.mpr ⟨hextends, rfl⟩
  rw [after, hrun]

theorem Holds.after_of_not_extends (h : log.Holds) (hrefused : ¬log.Extends revision) :
    log.after revision = log := by
  unfold after
  split
  · next registry hrun => exact absurd (h.append_true_iff.mp hrun).1 hrefused
  · next registry hrun =>
    have hresult := (h.append_ok_iff.mp hrun).2
    split at hresult
    · cases hresult
      rfl
    · cases hresult.2.2
  · rfl

theorem Linear.concat {own : List LoopRevision} (h : Linear own)
    (hparent : revision.parentRevisionId = own.getLast?.map LoopRevision.revisionId)
    (hincreases : ∀ last ∈ own.getLast?, last.sourceRound < revision.sourceRound) :
    Linear (own ++ [revision]) := by
  constructor
  · intro before other after hsplit
    rcases concat_split hsplit with ⟨rfl, rfl, -⟩ | ⟨middle, -, hown⟩
    · exact hparent
    · exact h.parent before other middle hown
  · rw [List.pairwise_append]
    refine ⟨h.increasing, List.pairwise_singleton _ _, ?_⟩
    intro first hfirst second hsecond
    obtain rfl := List.mem_singleton.mp hsecond
    rcases List.eq_nil_or_concat own with rfl | ⟨init, last, rfl⟩
    · cases hfirst
    · rw [List.concat_eq_append] at h hfirst hincreases
      have hlast := hincreases last (by simp)
      rcases List.mem_append.mp hfirst with hinit | hend
      · have hbefore := (List.pairwise_append.mp h.increasing).2.2 first hinit last (by simp)
        exact hbefore.trans hlast
      · rw [List.mem_singleton.mp hend]
        exact hlast

theorem Holds.after (h : log.Holds) (revision : LoopRevision) : (log.after revision).Holds := by
  by_cases hextends : log.Extends revision
  · rw [h.after_of_extends hextends]
    refine ⟨?_, ?_, ?_⟩
    · simp [h.rows]
    · intro other hother
      rcases List.mem_append.mp hother with hold | hnew
      · exact h.valid other hold
      · rw [List.mem_singleton.mp hnew]
        exact hextends.valid
    · intro skillId
      rw [ofSkill, List.filter_append]
      by_cases hskill : revision.skillId = skillId
      · subst hskill
        rw [List.filter_cons_of_pos (by simp), List.filter_nil]
        exact (h.linear revision.skillId).concat hextends.parent hextends.increases
      · rw [List.filter_cons_of_neg (by simpa using hskill), List.filter_nil, List.append_nil]
        exact h.linear skillId
  · rw [h.after_of_not_extends hextends]
    exact h

theorem Holds.latest_of_read (h : log.Holds)
    (hread : log.registry.readRevisions = .ok log.appended) : log.ReadsBack := by
  refine ⟨hread, ?_, h.linear⟩
  intro skillId
  rw [latest, hread]
  rfl

theorem Holds.readsBack_iff_lineFree (h : log.Holds) :
    log.ReadsBack ↔ ∀ revision ∈ log.appended, ∀ text ∈ revision.texts, lineFree text = true := by
  have hread := RowFormat.read_lineBoundary_iff h.decodes log.appended
  have hrows : revisionFormat.read isLineBoundary log.registry.rows =
      revisionFormat.read isLineBoundary (log.appended.map revisionFormat.encode) := by
    rw [h.rows]
    rfl
  have hwhole : ∀ revision ∈ log.appended,
      ((revisionFormat.encode revision).leavesOnOneLine = true ↔
        ∀ text ∈ revision.texts, lineFree text = true) := by
    intro revision hmem
    rw [show (revisionFormat.encode revision).leavesOnOneLine = revision.texts.all lineFree from
      LoopRevision.leavesOnOneLine_toDict (h.valid revision hmem), List.all_eq_true]
  constructor
  · intro hback revision hmem
    have hrevisions := hback.revisions
    rw [readRevisions, hrows, hread] at hrevisions
    exact (hwhole revision hmem).mp (hrevisions.2 revision hmem)
  · intro hplain
    apply h.latest_of_read
    rw [readRevisions, hrows, hread]
    exact ⟨rfl, fun revision hmem => (hwhole revision hmem).mpr (hplain revision hmem)⟩

theorem Holds.readsBack_after_iff (h : log.Holds) (hback : log.ReadsBack)
    (revision : LoopRevision) : (log.after revision).ReadsBack ↔ log.AddsPlain revision := by
  rw [(h.after revision).readsBack_iff_lineFree]
  have hplain := h.readsBack_iff_lineFree.mp hback
  by_cases hextends : log.Extends revision
  · rw [h.after_of_extends hextends]
    constructor
    · intro hall _
      exact hall revision (by simp)
    · intro hadds other hother
      rcases List.mem_append.mp hother with hold | hnew
      · exact hplain other hold
      · rw [List.mem_singleton.mp hnew]
        exact hadds hextends
  · rw [h.after_of_not_extends hextends]
    constructor
    · intro _ hadded
      exact absurd hadded hextends
    · intro _
      exact hplain

/-- Along any appends from an empty registry, everything reads back, as one line
of descent per skill, exactly when every revision that is added is plain. -/
theorem revisions_readBack_iff (revisions : List LoopRevision) :
    Along ReadsBack after empty revisions ↔ Guarded AddsPlain after empty revisions := by
  have hstart : empty.ReadsBack := by
    apply holds_empty.readsBack_iff_lineFree.mpr
    intro revision hmem
    exact absurd hmem List.not_mem_nil
  apply along_iff_guarded (I := fun log => log.Holds ∧ log.ReadsBack)
  · intro log h
    exact h.2
  · intro log revision h hadds
    exact ⟨h.1.after revision, (h.1.readsBack_after_iff h.2 revision).mpr hadds⟩
  · intro log revision h hback
    exact (h.1.readsBack_after_iff h.2 revision).mp hback
  · exact ⟨holds_empty, hstart⟩

/-- A first revision whose only peculiarity is its protocol. -/
def firstRevision (protocol : String) : LoopRevision where
  schemaVersion := .int 1
  skillId := "skill"
  revisionId := "skill-r000"
  parentRevisionId := none
  sourceRound := 0
  protocol := protocol
  skillText := "text"
  promptTemplate := "prompt"
  evalNote := "note"

theorem extends_firstRevision {protocol : String} (h : isText protocol = true) :
    empty.Extends (firstRevision protocol) := by
  have hothers : ∀ text ∈ ["text", "prompt", "note"], isText text = true := by decide
  refine ⟨⟨?_, ?_, ?_, ?_, le_rfl, List.forall_mem_cons.mpr ⟨h, hothers⟩⟩, ?_, rfl, ?_⟩
  · change Json.pyEq (.int 1) (.int 1) = true
    decide
  · change isIdentifier "skill" = true
    decide
  · change isIdentifier "skill-r000" = true
    decide
  · intro parent hparent
    cases hparent
  · intro other hother
    exact absurd hother List.not_mem_nil
  · intro last hlast
    cases hlast

/-- A protocol with U+2028 in it is appended, and nothing reads back. -/
theorem separated_protocol_unreadable :
    empty.Extends (firstRevision "a\u2028b") ∧
      ¬Along ReadsBack after empty [firstRevision "a\u2028b"] := by
  have hextends : empty.Extends (firstRevision "a\u2028b") := extends_firstRevision (by decide)
  refine ⟨hextends, ?_⟩
  intro halong
  have hback := halong.2
  rw [Along, holds_empty.after_of_extends hextends] at hback
  have hholds := holds_empty.after (firstRevision "a\u2028b")
  rw [holds_empty.after_of_extends hextends] at hholds
  have hplain := hholds.readsBack_iff_lineFree.mp hback (firstRevision "a\u2028b") (by simp) "a\u2028b"
    (by simp [LoopRevision.texts, firstRevision])
  exact absurd hplain (by decide)

end RevisionLog

end JlensEvolve.SkillLoop
