import JlensEvolve.Library.SequenceMatcher
import JlensEvolve.Library.UnifiedDiff

/-!
The rest of `difflib` that builds a patch: the opcodes between matching blocks,
their groups with three lines of context, and `unified_diff`. Every group is a
hunk that stands where both sequences have its lines, and what stands between
two groups is the same in both.
-/

namespace JlensEvolve.Library.Difflib

open SequenceMatcher UnifiedDiff

variable {α : Type}

inductive Tag where
  | replace
  | delete
  | insert
  | equal
deriving DecidableEq

structure Opcode where
  tag : Tag
  i1 : Nat
  i2 : Nat
  j1 : Nat
  j2 : Nat
deriving DecidableEq

/-- What is done with the elements in front of a matching block. -/
def changeBefore (i ai j bj : Nat) : List Opcode :=
  if i < ai ∧ j < bj then [⟨.replace, i, ai, j, bj⟩]
  else if i < ai then [⟨.delete, i, ai, j, bj⟩]
  else if j < bj then [⟨.insert, i, ai, j, bj⟩]
  else []

/-- The loop of `get_opcodes`. -/
def opcodesFrom : Nat → Nat → List Match → List Opcode
  | _, _, [] => []
  | i, j, found :: rest =>
    changeBefore i found.a j found.b ++
      (if found.size ≠ 0 then
        [⟨.equal, found.a, found.a + found.size, found.b, found.b + found.size⟩] else []) ++
      opcodesFrom (found.a + found.size) (found.b + found.size) rest

/-- `get_opcodes`. -/
def opcodes [DecidableEq α] (a b : List α) : List Opcode := opcodesFrom 0 0 (matchingBlocks a b)

/-- The leading code with at most `n` unchanged elements. -/
def trimFirst (n : Nat) : List Opcode → List Opcode
  | [] => []
  | code :: rest =>
    if code.tag = .equal then
      { code with i1 := max code.i1 (code.i2 - n), j1 := max code.j1 (code.j2 - n) } :: rest
    else code :: rest

/-- The trailing code with at most `n` unchanged elements. -/
def trimLast (n : Nat) : List Opcode → List Opcode
  | [] => []
  | [code] =>
    if code.tag = .equal then
      [{ code with i2 := min code.i2 (code.i1 + n), j2 := min code.j2 (code.j1 + n) }]
    else [code]
  | code :: next :: rest => code :: trimLast n (next :: rest)

/-- A group that shows no change. -/
def unchanged : List Opcode → Bool
  | [] => true
  | [code] => code.tag == .equal
  | _ => false

/-- The loop of `get_grouped_opcodes`, which splits a long unchanged stretch. -/
def regroup (n : Nat) : List Opcode → List Opcode → List (List Opcode)
  | group, [] => if unchanged group then [] else [group]
  | group, code :: rest =>
    if code.tag = .equal ∧ n + n < code.i2 - code.i1 then
      (group ++ [{ code with i2 := min code.i2 (code.i1 + n), j2 := min code.j2 (code.j1 + n) }]) ::
        regroup n
          [{ code with i1 := max code.i1 (code.i2 - n), j1 := max code.j1 (code.j2 - n) }] rest
    else regroup n (group ++ [code]) rest

/-- `get_grouped_opcodes`. -/
def groupedOpcodes [DecidableEq α] (n : Nat) (a b : List α) : List (List Opcode) :=
  let codes := if opcodes a b = [] then [⟨.equal, 0, 1, 0, 1⟩] else opcodes a b
  regroup n [] (trimLast n (trimFirst n codes))

/-- `items[start:stop]`. -/
def slice (items : List α) (start stop : Nat) : List α := (items.drop start).take (stop - start)

/-- What `unified_diff` writes for an opcode. -/
def shown (a b : List α) (code : Opcode) : List (Mark × α) :=
  match code.tag with
  | .equal => (slice a code.i1 code.i2).map (Prod.mk .context)
  | .delete => (slice a code.i1 code.i2).map (Prod.mk .removed)
  | .insert => (slice b code.j1 code.j2).map (Prod.mk .added)
  | .replace => (slice a code.i1 code.i2).map (Prod.mk .removed) ++
      (slice b code.j1 code.j2).map (Prod.mk .added)

/-- `_format_range_unified`. -/
def formatRange (start stop : Nat) : List Char :=
  let beginning := start + 1
  let length := stop - start
  if length = 1 then Nat.toDigits 10 beginning
  else if length = 0 then Nat.toDigits 10 (beginning - 1) ++ ',' :: Nat.toDigits 10 length
  else Nat.toDigits 10 beginning ++ ',' :: Nat.toDigits 10 length

/-- What `unified_diff` writes for a group. -/
def groupText (a b : List (List Char)) : List Opcode → List (List Char)
  | [] => []
  | first :: rest =>
    let last := rest.getLastD first
    ("@@ -".toList ++ formatRange first.i1 last.i2 ++ " +".toList ++
      formatRange first.j1 last.j2 ++ " @@".toList ++ ['\n']) ::
      ((first :: rest).flatMap (shown a b)).map writeLine

/-- `unified_diff`, with three lines of context and no dates. -/
def unifiedDiff (a b : List (List Char)) (fromfile tofile : List Char) : List (List Char) :=
  let groups := groupedOpcodes 3 a b
  if groups = [] then []
  else ("--- ".toList ++ fromfile ++ ['\n']) :: ("+++ ".toList ++ tofile ++ ['\n']) ::
    groups.flatMap (groupText a b)

/-- A stretch of both sequences that is the same in both. -/
structure Same (a b : List α) (i j i' j' : Nat) : Prop where
  le_a : i ≤ i'
  le_b : j ≤ j'
  inside_a : i' ≤ a.length
  inside_b : j' ≤ b.length
  agree : slice a i i' = slice b j j'

/-- An opcode that shows the stretches of both sequences it names. -/
structure Faithful (a b : List α) (code : Opcode) : Prop where
  le_a : code.i1 ≤ code.i2
  le_b : code.j1 ≤ code.j2
  inside_a : code.i2 ≤ a.length
  inside_b : code.j2 ≤ b.length
  old : oldLines (shown a b code) = slice a code.i1 code.i2
  new : newLines (shown a b code) = slice b code.j1 code.j2

/-- Opcodes that go on from each other. -/
def Chain (a b : List α) (i' j' : Nat) : Nat → Nat → List Opcode → Prop
  | i, j, [] => i = i' ∧ j = j'
  | i, j, code :: rest =>
    code.i1 = i ∧ code.j1 = j ∧ Faithful a b code ∧ Chain a b i' j' code.i2 code.j2 rest

section Stretches

variable {a b : List α}

theorem slice_append (items : List α) {i j k : Nat} (hij : i ≤ j) (hjk : j ≤ k) :
    slice items i j ++ slice items j k = slice items i k := by
  have hdrop : items.drop j = (items.drop i).drop (j - i) := by
    rw [List.drop_drop, Nat.add_sub_cancel' hij]
  have hsplit := List.take_append_drop (j - i) ((items.drop i).take (k - i))
  rw [List.take_take, List.drop_take, Nat.min_eq_left (by omega)] at hsplit
  rw [slice, slice, slice, hdrop, show k - j = k - i - (j - i) by omega]
  exact hsplit

theorem slice_append_drop (items : List α) {i j : Nat} (hij : i ≤ j) :
    slice items i j ++ items.drop j = items.drop i := by
  rw [slice, ← Splice.drop_eq_take_append items hij]

theorem length_slice (items : List α) {i j : Nat} (hij : i ≤ j) (hj : j ≤ items.length) :
    (slice items i j).length = j - i := by
  rw [slice, List.length_take, List.length_drop]
  omega

theorem oldLines_map (mark : Mark) (items : List α) :
    oldLines (items.map (Prod.mk mark)) = if mark = .added then [] else items := by
  cases mark <;> simp [oldLines, List.filter_map, Function.comp_def]

theorem newLines_map (mark : Mark) (items : List α) :
    newLines (items.map (Prod.mk mark)) = if mark = .removed then [] else items := by
  cases mark <;> simp [newLines, List.filter_map, Function.comp_def]

theorem Faithful.equal {i j i' j' : Nat} (h : Same a b i j i' j') :
    Faithful a b ⟨.equal, i, i', j, j'⟩ :=
  ⟨h.le_a, h.le_b, h.inside_a, h.inside_b, oldLines_map _ _,
    (newLines_map _ _).trans h.agree⟩

theorem Faithful.same {code : Opcode} (h : Faithful a b code) (hequal : code.tag = .equal) :
    Same a b code.i1 code.j1 code.i2 code.j2 := by
  refine ⟨h.le_a, h.le_b, h.inside_a, h.inside_b, ?_⟩
  have hnew := h.new
  rw [shown, hequal] at hnew
  exact (newLines_map _ _).symm.trans hnew

theorem Chain.append {i j i' j' i'' j'' : Nat} {first second : List Opcode}
    (hfirst : Chain a b i' j' i j first) (hsecond : Chain a b i'' j'' i' j' second) :
    Chain a b i'' j'' i j (first ++ second) := by
  induction first generalizing i j with
  | nil =>
    obtain ⟨rfl, rfl⟩ := hfirst
    exact hsecond
  | cons code rest ih =>
    obtain ⟨hi, hj, hcode, hrest⟩ := hfirst
    exact ⟨hi, hj, hcode, ih hrest⟩

theorem changeBefore_chain {i j ai bj : Nat} (hi : i ≤ ai) (hj : j ≤ bj) (ha : ai ≤ a.length)
    (hb : bj ≤ b.length) : Chain a b ai bj i j (changeBefore i ai j bj) := by
  have hnone : ∀ (items : List α) (k : Nat), slice items k k = [] := by
    intro items k
    rw [slice, Nat.sub_self, List.take_zero]
  unfold changeBefore
  split
  · refine ⟨rfl, rfl, ⟨hi, hj, ha, hb, ?_, ?_⟩, rfl, rfl⟩
    · simp [shown, oldLines_map]
    · simp [shown, newLines_map]
  · split
    · obtain rfl : j = bj := by omega
      exact ⟨rfl, rfl, ⟨hi, hj, ha, hb, oldLines_map _ _,
        (newLines_map _ _).trans (hnone _ _).symm⟩, rfl, rfl⟩
    · obtain rfl : i = ai := by omega
      split
      · exact ⟨rfl, rfl, ⟨hi, hj, ha, hb, (oldLines_map _ _).trans (hnone _ _).symm,
          newLines_map _ _⟩, rfl, rfl⟩
      · exact ⟨rfl, by omega⟩

theorem Matches.same {i j size : Nat} (h : Matches a b i j size) (ha : i + size ≤ a.length)
    (hb : j + size ≤ b.length) : Same a b i j (i + size) (j + size) := by
  refine ⟨Nat.le_add_right _ _, Nat.le_add_right _ _, ha, hb, ?_⟩
  apply List.ext_getElem?
  intro t
  rw [slice, slice, Nat.add_sub_cancel_left, Nat.add_sub_cancel_left]
  by_cases ht : t < size
  · obtain ⟨elt, haelt, hbelt⟩ := h t ht
    rw [List.getElem?_take_of_lt ht, List.getElem?_take_of_lt ht, List.getElem?_drop,
      List.getElem?_drop, haelt, hbelt]
  · rw [List.getElem?_eq_none, List.getElem?_eq_none]
    · rw [List.length_take]; omega
    · rw [List.length_take]; omega

theorem InOrder.le {ahi bhi i j : Nat} {blocks : List Match} (h : InOrder a b ahi bhi i j blocks) :
    i ≤ ahi ∧ j ≤ bhi := by
  induction blocks generalizing i j with
  | nil => exact h
  | cons found rest ih =>
    obtain ⟨hi, hj, -, hrest⟩ := h
    obtain ⟨ha, hb⟩ := ih hrest
    exact ⟨by omega, by omega⟩

theorem opcodesFrom_chain {i j : Nat} {blocks : List Match}
    (h : InOrder a b a.length b.length i j (blocks ++ [⟨a.length, b.length, 0⟩])) :
    Chain a b a.length b.length i j (opcodesFrom i j (blocks ++ [⟨a.length, b.length, 0⟩])) := by
  induction blocks generalizing i j with
  | nil =>
    obtain ⟨hi, hj, -⟩ := h
    have hchange := changeBefore_chain (a := a) (b := b) hi hj (Nat.le_refl _) (Nat.le_refl _)
    simpa [opcodesFrom] using hchange
  | cons found rest ih =>
    obtain ⟨hi, hj, hsame, hrest⟩ := h
    obtain ⟨ha, hb⟩ := InOrder.le hrest
    have hchange : Chain a b found.a found.b i j (changeBefore i found.a j found.b) :=
      changeBefore_chain hi hj (by omega) (by omega)
    have hequal : Chain a b (found.a + found.size) (found.b + found.size) found.a found.b
        (if found.size ≠ 0 then
          [⟨.equal, found.a, found.a + found.size, found.b, found.b + found.size⟩] else []) := by
      split
      · exact ⟨rfl, rfl, Faithful.equal (Matches.same hsame ha hb), rfl, rfl⟩
      · exact ⟨by omega, by omega⟩
    rw [List.cons_append, opcodesFrom]
    exact (hchange.append hequal).append (ih hrest)

theorem opcodes_chain [DecidableEq α] (a b : List α) :
    Chain a b a.length b.length 0 0 (opcodes a b) :=
  opcodesFrom_chain (matchingBlocks_inOrder a b)

theorem Same.refl {i j : Nat} (ha : i ≤ a.length) (hb : j ≤ b.length) : Same a b i j i j :=
  ⟨Nat.le_refl _, Nat.le_refl _, ha, hb, by
    rw [slice, slice, Nat.sub_self, Nat.sub_self, List.take_zero, List.take_zero]⟩

theorem Same.trans {i j i' j' i'' j'' : Nat} (hfirst : Same a b i j i' j')
    (hsecond : Same a b i' j' i'' j'') : Same a b i j i'' j'' := by
  refine ⟨hfirst.le_a.trans hsecond.le_a, hfirst.le_b.trans hsecond.le_b, hsecond.inside_a,
    hsecond.inside_b, ?_⟩
  rw [← slice_append a hfirst.le_a hsecond.le_a, ← slice_append b hfirst.le_b hsecond.le_b,
    hfirst.agree, hsecond.agree]

theorem Same.length {i j i' j' : Nat} (h : Same a b i j i' j') : i' - i = j' - j := by
  have hlength := congrArg List.length h.agree
  rwa [length_slice a h.le_a h.inside_a, length_slice b h.le_b h.inside_b] at hlength

theorem Same.split {i j i' j' : Nat} (h : Same a b i j i' j') {t : Nat} (ht : t ≤ i' - i) :
    Same a b i j (i + t) (j + t) ∧ Same a b (i + t) (j + t) i' j' := by
  have hlength := h.length
  have hle_a := h.le_a
  have hle_b := h.le_b
  have hinside_a := h.inside_a
  have hinside_b := h.inside_b
  have hslice := h.agree
  rw [← slice_append a (Nat.le_add_right i t) (by omega : i + t ≤ i'),
    ← slice_append b (Nat.le_add_right j t) (by omega : j + t ≤ j')] at hslice
  obtain ⟨hfirst, hsecond⟩ := List.append_inj hslice (by
    rw [length_slice a (by omega) (by omega), length_slice b (by omega) (by omega)]
    omega)
  exact ⟨⟨by omega, by omega, by omega, by omega, hfirst⟩,
    ⟨by omega, by omega, hinside_a, hinside_b, hsecond⟩⟩

/-- Groups that stand one behind the other, with nothing changed between them. -/
def Located (a b : List α) : Nat → Nat → List (List Opcode) → Prop
  | i, j, [] => a.drop i = b.drop j
  | i, j, group :: rest => ∃ gi gj i' j', Same a b i j gi gj ∧ group ≠ [] ∧
      Chain a b i' j' gi gj group ∧ Located a b i' j' rest

theorem drop_eq_of_same {i j i' j' : Nat} (h : Same a b i j i' j') (hrest : a.drop i' = b.drop j') :
    a.drop i = b.drop j := by
  rw [← slice_append_drop a h.le_a, ← slice_append_drop b h.le_b, h.agree, hrest]

theorem same_of_unchanged {i j i' j' : Nat} {group : List Opcode} (ha : i ≤ a.length)
    (hb : j ≤ b.length) (h : Chain a b i' j' i j group) (hgroup : unchanged group = true) :
    Same a b i j i' j' := by
  match group, h, hgroup with
  | [], h, _ =>
    obtain ⟨rfl, rfl⟩ := h
    exact Same.refl ha hb
  | [code], h, hgroup =>
    obtain ⟨rfl, rfl, hcode, rfl, rfl⟩ := h
    exact hcode.same (by simpa [unchanged] using hgroup)

theorem regroup_located {n i j gi gj ci cj i' j' : Nat} {group codes : List Opcode}
    (hgap : Same a b i j gi gj) (hgroup : Chain a b ci cj gi gj group)
    (hcodes : Chain a b i' j' ci cj codes) (hend : a.drop i' = b.drop j') :
    Located a b i j (regroup n group codes) := by
  induction codes generalizing i j gi gj ci cj group with
  | nil =>
    obtain ⟨rfl, rfl⟩ := hcodes
    rw [regroup]
    split
    · rename_i hunchanged
      have hsame := same_of_unchanged hgap.inside_a hgap.inside_b hgroup hunchanged
      exact drop_eq_of_same (hgap.trans hsame) hend
    · rename_i hchanged
      refine ⟨gi, gj, ci, cj, hgap, ?_, hgroup, hend⟩
      rintro rfl
      exact hchanged rfl
  | cons code rest ih =>
    obtain ⟨rfl, rfl, hcode, hrest⟩ := hcodes
    rw [regroup]
    split
    · rename_i hsplit
      have hsame := hcode.same hsplit.1
      have hlength := hsame.length
      obtain ⟨hfirst, hlater⟩ := hsame.split (t := n) (by omega)
      obtain ⟨hmiddle, hlast⟩ := hlater.split (t := code.i2 - code.i1 - n - n) (by omega)
      have hhead : min code.i2 (code.i1 + n) = code.i1 + n := by omega
      have hheadB : min code.j2 (code.j1 + n) = code.j1 + n := by omega
      have htail : max code.i1 (code.i2 - n) = code.i1 + n + (code.i2 - code.i1 - n - n) := by
        omega
      have htailB : max code.j1 (code.j2 - n) = code.j1 + n + (code.i2 - code.i1 - n - n) := by
        omega
      rw [hsplit.1, hhead, hheadB, htail, htailB]
      refine ⟨gi, gj, code.i1 + n, code.j1 + n, hgap, List.append_ne_nil_of_right_ne_nil _
        (List.cons_ne_nil _ _), hgroup.append ⟨rfl, rfl, Faithful.equal hfirst, rfl, rfl⟩, ?_⟩
      have hpiece : Chain a b code.i2 code.j2 (code.i1 + n + (code.i2 - code.i1 - n - n))
          (code.j1 + n + (code.i2 - code.i1 - n - n))
          [⟨.equal, code.i1 + n + (code.i2 - code.i1 - n - n), code.i2,
            code.j1 + n + (code.i2 - code.i1 - n - n), code.j2⟩] :=
        ⟨rfl, rfl, Faithful.equal hlast, rfl, rfl⟩
      exact ih hmiddle hpiece hrest
    · exact ih hgap (hgroup.append ⟨rfl, rfl, hcode, rfl, rfl⟩) hrest

theorem trimFirst_chain {n i' j' : Nat} {codes : List Opcode} (h : Chain a b i' j' 0 0 codes) :
    ∃ i j, Same a b 0 0 i j ∧ Chain a b i' j' i j (trimFirst n codes) := by
  cases codes with
  | nil => exact ⟨0, 0, Same.refl (Nat.zero_le _) (Nat.zero_le _), h⟩
  | cons code rest =>
    obtain ⟨hi, hj, hcode, hrest⟩ := h
    rw [trimFirst]
    split
    · rename_i hequal
      have hsame := hcode.same hequal
      have hlength := hsame.length
      obtain ⟨hhead, htail⟩ := hsame.split (t := code.i2 - code.i1 - n) (by omega)
      have hle_a := hcode.le_a
      have hle_b := hcode.le_b
      have hstart : max code.i1 (code.i2 - n) = code.i1 + (code.i2 - code.i1 - n) := by omega
      have hstartB : max code.j1 (code.j2 - n) = code.j1 + (code.i2 - code.i1 - n) := by omega
      rw [hequal, hstart, hstartB]
      rw [hi, hj] at hhead
      rw [hi, hj] at htail ⊢
      exact ⟨_, _, hhead, rfl, rfl, Faithful.equal htail, hrest⟩
    · exact ⟨0, 0, Same.refl (Nat.zero_le _) (Nat.zero_le _), hi, hj, hcode, hrest⟩

theorem trimLast_chain {n i j i' j' : Nat} {codes : List Opcode} (h : Chain a b i' j' i j codes)
    (hend : a.drop i' = b.drop j') :
    ∃ i'' j'', Chain a b i'' j'' i j (trimLast n codes) ∧ a.drop i'' = b.drop j'' := by
  induction codes generalizing i j with
  | nil => exact ⟨i', j', h, hend⟩
  | cons code rest ih =>
    obtain ⟨hi, hj, hcode, hrest⟩ := h
    cases rest with
    | nil =>
      obtain ⟨rfl, rfl⟩ := hrest
      rw [trimLast]
      split
      · rename_i hequal
        have hsame := hcode.same hequal
        have hlength := hsame.length
        have hle_a := hcode.le_a
        have hle_b := hcode.le_b
        obtain ⟨hhead, htail⟩ := hsame.split (t := min n (code.i2 - code.i1)) (by omega)
        have hstop : min code.i2 (code.i1 + n) = code.i1 + min n (code.i2 - code.i1) := by omega
        have hstopB : min code.j2 (code.j1 + n) = code.j1 + min n (code.i2 - code.i1) := by
          omega
        rw [hequal, hstop, hstopB]
        exact ⟨_, _, ⟨hi, hj, Faithful.equal hhead, rfl, rfl⟩, drop_eq_of_same htail hend⟩
      · exact ⟨_, _, ⟨hi, hj, hcode, rfl, rfl⟩, hend⟩
    | cons next others =>
      obtain ⟨i'', j'', hchain, hdrop⟩ := ih hrest
      exact ⟨i'', j'', ⟨hi, hj, hcode, hchain⟩, hdrop⟩

theorem regroup_nothing (n : Nat) :
    regroup n [] (trimLast n (trimFirst n [⟨.equal, 0, 1, 0, 1⟩])) = [] := by
  have hshort : ¬ n + n < min 1 (max 0 (1 - n) + n) - max 0 (1 - n) := by omega
  simp only [trimFirst, trimLast, if_true, regroup, true_and, if_neg hshort, List.nil_append]
  rfl

theorem groupedOpcodes_located [DecidableEq α] (n : Nat) (a b : List α) :
    Located a b 0 0 (groupedOpcodes n a b) := by
  have hcodes := opcodes_chain a b
  unfold groupedOpcodes
  dsimp only
  split
  · rename_i hnone
    rw [hnone] at hcodes
    obtain ⟨ha, hb⟩ := hcodes
    rw [regroup_nothing]
    change a.drop 0 = b.drop 0
    rw [List.eq_nil_of_length_eq_zero ha.symm, List.eq_nil_of_length_eq_zero hb.symm]
  · have hend : a.drop a.length = b.drop b.length := by
      rw [List.drop_length, List.drop_length]
    obtain ⟨i, j, hsame, hfirst⟩ := trimFirst_chain (n := n) hcodes
    obtain ⟨i', j', hlast, hdrop⟩ := trimLast_chain (n := n) hfirst hend
    have hnone : Chain a b i j i j [] := ⟨rfl, rfl⟩
    exact regroup_located hsame hnone hlast hdrop

def groupLines (a b : List α) (group : List Opcode) : List (Mark × α) := group.flatMap (shown a b)

theorem Chain.bounds {i j i' j' : Nat} {group : List Opcode} (h : Chain a b i' j' i j group) :
    i ≤ i' ∧ j ≤ j' ∧ (group ≠ [] → i' ≤ a.length ∧ j' ≤ b.length) := by
  induction group generalizing i j with
  | nil =>
    obtain ⟨rfl, rfl⟩ := h
    exact ⟨Nat.le_refl _, Nat.le_refl _, fun hne => absurd rfl hne⟩
  | cons code rest ih =>
    obtain ⟨rfl, rfl, hcode, hrest⟩ := h
    obtain ⟨hi, hj, hinside⟩ := ih hrest
    refine ⟨hcode.le_a.trans hi, hcode.le_b.trans hj, fun _ => ?_⟩
    cases rest with
    | nil =>
      obtain ⟨rfl, rfl⟩ := hrest
      exact ⟨hcode.inside_a, hcode.inside_b⟩
    | cons next others => exact hinside (List.cons_ne_nil _ _)

theorem Chain.lines {i j i' j' : Nat} {group : List Opcode} (h : Chain a b i' j' i j group) :
    oldLines (groupLines a b group) = slice a i i' ∧
      newLines (groupLines a b group) = slice b j j' := by
  induction group generalizing i j with
  | nil =>
    obtain ⟨rfl, rfl⟩ := h
    constructor
    · rw [slice, Nat.sub_self, List.take_zero]
      rfl
    · rw [slice, Nat.sub_self, List.take_zero]
      rfl
  | cons code rest ih =>
    obtain ⟨rfl, rfl, hcode, hrest⟩ := h
    obtain ⟨hold, hnew⟩ := ih hrest
    obtain ⟨hi, hj, -⟩ := hrest.bounds
    have hcons : groupLines a b (code :: rest) = shown a b code ++ groupLines a b rest := rfl
    rw [hcons, oldLines_append, newLines_append, hcode.old, hcode.new, hold, hnew,
      slice_append a hcode.le_a hi, slice_append b hcode.le_b hj]
    exact ⟨rfl, rfl⟩

theorem Chain.last {i j i' j' : Nat} {first : Opcode} {rest : List Opcode}
    (h : Chain a b i' j' i j (first :: rest)) :
    (rest.getLastD first).i2 = i' ∧ (rest.getLastD first).j2 = j' := by
  induction rest generalizing i j first with
  | nil => exact h.2.2.2
  | cons next others ih =>
    rw [List.getLastD_cons]
    exact ih h.2.2.2

def hunkOf (a b : List α) : List Opcode → Hunk α
  | [] => ⟨0, 0, 0, 0, []⟩
  | first :: rest =>
    let last := rest.getLastD first
    ⟨startAt first.i1 (last.i2 - first.i1), last.i2 - first.i1,
      startAt first.j1 (last.j2 - first.j1), last.j2 - first.j1,
      groupLines a b (first :: rest)⟩

/-- Where the last group ends in both sequences. -/
def reachFrom (i j : Nat) : List (List Opcode) → Nat × Nat
  | [] => (i, j)
  | [] :: rest => reachFrom i j rest
  | (first :: others) :: rest =>
    reachFrom (others.getLastD first).i2 (others.getLastD first).j2 rest

theorem Located.changes {i j : Nat} {groups : List (List Opcode)} (h : Located a b i j groups) :
    ∃ changes tail, a.drop i = oldText changes ++ tail ∧ b.drop j = newText changes ++ tail ∧
      groups.map (hunkOf a b) = locate i j changes ∧
      reachFrom i j groups = (i + (oldText changes).length, j + (newText changes).length) := by
  induction groups generalizing i j with
  | nil => exact ⟨[], a.drop i, rfl, h.symm, rfl, rfl⟩
  | cons group rest ih =>
    obtain ⟨gi, gj, i', j', hgap, hne, hgroup, hrest⟩ := h
    obtain ⟨changes, tail, ha, hb, hhunks, hreach⟩ := ih hrest
    obtain ⟨hold, hnew⟩ := hgroup.lines
    obtain ⟨hi, hj, hinside⟩ := hgroup.bounds
    obtain ⟨hinside_a, hinside_b⟩ := hinside hne
    have hlength_a := length_slice a hi hinside_a
    have hlength_b := length_slice b hj hinside_b
    have hgap_a := length_slice a hgap.le_a hgap.inside_a
    have hgap_b := length_slice b hgap.le_b hgap.inside_b
    have hle_a := hgap.le_a
    have hle_b := hgap.le_b
    refine ⟨⟨slice a i gi, groupLines a b group⟩ :: changes, tail, ?_, ?_, ?_, ?_⟩
    · rw [oldText_cons, List.append_assoc, hold, List.append_assoc, ← ha,
        slice_append_drop a hi, slice_append_drop a hgap.le_a]
    · rw [newText_cons, List.append_assoc, hnew, hgap.agree, List.append_assoc, ← hb,
        slice_append_drop b hj, slice_append_drop b hgap.le_b]
    · cases group with
      | nil => exact absurd rfl hne
      | cons first others =>
        obtain ⟨hlast_a, hlast_b⟩ := hgroup.last
        obtain ⟨hfirst_a, hfirst_b, -⟩ := hgroup
        have hplace_a : i + (gi - i) = gi := by omega
        have hplace_b : j + (gi - i) = gj := by
          rw [hgap.length]
          omega
        have hstop_a : gi + (i' - gi) = i' := by omega
        have hstop_b : gj + (j' - gj) = j' := by omega
        simp only [List.map_cons, hhunks, locate, hold, hnew, hlength_a, hlength_b, hgap_a,
          hplace_a, hplace_b, hstop_a, hstop_b, hunkOf, hlast_a, hlast_b, hfirst_a, hfirst_b]
    · cases group with
      | nil => exact absurd rfl hne
      | cons first others =>
        obtain ⟨hlast_a, hlast_b⟩ := hgroup.last
        have hlength := hgap.length
        rw [reachFrom, hlast_a, hlast_b, hreach, oldText_cons, newText_cons,
          List.length_append, List.length_append, List.length_append, List.length_append,
          hold, hnew, hlength_a, hlength_b, hgap_a]
        refine Prod.ext ?_ ?_
        · dsimp only
          omega
        · dsimp only
          omega

end Stretches

theorem formatRange_eq (start stop : Nat) :
    formatRange start stop = writeRange (startAt start (stop - start)) (stop - start) := by
  unfold formatRange writeRange startAt
  dsimp only
  split
  · rename_i hone
    rw [if_neg (by omega)]
  · split
    · rfl
    · rfl

theorem groupText_eq {a b : List (List Char)} {group : List Opcode} (hne : group ≠ []) :
    groupText a b group = (hunkOf a b group).write := by
  cases group with
  | nil => exact absurd rfl hne
  | cons first rest =>
    simp only [groupText, hunkOf, Hunk.write, Hunk.header_eq, formatRange_eq]
    rfl

theorem Located.ne_nil {a b : List α} {i j : Nat} {groups : List (List Opcode)}
    (h : Located a b i j groups) : ∀ group ∈ groups, group ≠ [] := by
  induction groups generalizing i j with
  | nil => exact fun _ hmem => absurd hmem List.not_mem_nil
  | cons group rest ih =>
    obtain ⟨_, _, _, _, -, hne, -, hrest⟩ := h
    exact List.forall_mem_cons.mpr ⟨hne, ih hrest⟩

/-- How many elements of both sequences the groups reach over. -/
def reach [DecidableEq α] (a b : List α) : Nat × Nat := reachFrom 0 0 (groupedOpcodes 3 a b)

/-- The diff that `unified_diff` writes. -/
def diffOf (a b : List (List Char)) (fromfile tofile : List Char) : Diff :=
  ⟨fromfile, tofile, (groupedOpcodes 3 a b).map (hunkOf a b)⟩

theorem unifiedDiff_eq {a b : List (List Char)} (hne : a ≠ b) (fromfile tofile : List Char) :
    groupedOpcodes 3 a b ≠ [] ∧
      unifiedDiff a b fromfile tofile = (diffOf a b fromfile tofile).write := by
  have hlocated := groupedOpcodes_located 3 a b
  have hsome : groupedOpcodes 3 a b ≠ [] := by
    intro hnone
    rw [hnone] at hlocated
    exact hne hlocated
  refine ⟨hsome, ?_⟩
  have htexts : (groupedOpcodes 3 a b).flatMap (groupText a b) =
      ((groupedOpcodes 3 a b).map (hunkOf a b)).flatMap Hunk.write := by
    rw [List.flatMap_map]
    exact List.flatMap_congr fun group hmem => groupText_eq (hlocated.ne_nil group hmem)
  rw [unifiedDiff, if_neg hsome, htexts]
  rfl

theorem mem_oldText_or_newText {changes : List (Change α)} {change : Change α}
    (hchange : change ∈ changes) {line : Mark × α} (hline : line ∈ change.lines) :
    line.2 ∈ oldText changes ∨ line.2 ∈ newText changes := by
  have hlift : line.2 ∈ oldLines change.lines ∨ line.2 ∈ newLines change.lines := by
    by_cases hadded : line.1 = .added
    · refine Or.inr (List.mem_map.mpr ⟨line, List.mem_filter.mpr ⟨hline, ?_⟩, rfl⟩)
      rw [hadded]
      rfl
    · refine Or.inl (List.mem_map.mpr ⟨line, List.mem_filter.mpr ⟨hline, ?_⟩, rfl⟩)
      simpa using hadded
  refine hlift.imp (fun hold => ?_) (fun hnew => ?_)
  · exact List.mem_flatMap.mpr ⟨change, hchange, List.mem_append_right _ hold⟩
  · exact List.mem_flatMap.mpr ⟨change, hchange, List.mem_append_right _ hnew⟩

/-- A patch over lines that a newline ends, as far as the groups reach, is read as a diff that
turns the first text into the second. -/
theorem read_unifiedDiff {a b : List (List Char)} {fromfile tofile : List Char} (hne : a ≠ b)
    (hfrom : '\n' ∉ fromfile) (hto : '\n' ∉ tofile)
    (ha : ∀ line ∈ a.take (reach a b).1, Whole line)
    (hb : ∀ line ∈ b.take (reach a b).2, Whole line) :
    read (unifiedDiff a b fromfile tofile).flatten = some (diffOf a b fromfile tofile) ∧
      (diffOf a b fromfile tofile).apply a.flatten = some b.flatten := by
  obtain ⟨hsome, hwrite⟩ := unifiedDiff_eq hne fromfile tofile
  obtain ⟨changes, tail, hold, hnew, hhunks, hreach⟩ := (groupedOpcodes_located 3 a b).changes
  rw [List.drop_zero] at hold hnew
  rw [Nat.zero_add, Nat.zero_add] at hreach
  have hreach_a : a.take (reach a b).1 = oldText changes := by
    rw [reach, hreach, hold, List.take_left]
  have hreach_b : b.take (reach a b).2 = newText changes := by
    rw [reach, hreach, hnew, List.take_left]
  rw [hreach_a] at ha
  rw [hreach_b] at hb
  have hwritable : (diffOf a b fromfile tofile).Writable := by
    refine ⟨hfrom, hto, fun hnone => hsome (List.map_eq_nil_iff.mp hnone), ?_, ?_⟩
    · change ∀ hunk ∈ (groupedOpcodes 3 a b).map (hunkOf a b), Counted hunk
      rw [hhunks]
      exact counted_locate 0 0 changes
    · change ∀ hunk ∈ (groupedOpcodes 3 a b).map (hunkOf a b), ∀ line ∈ hunk.lines, Whole line.2
      rw [hhunks]
      intro hunk hhunk line hline
      have hlines : hunk.lines ∈ changes.map Change.lines := by
        rw [← lines_locate 0 0 changes]
        exact List.mem_map_of_mem hhunk
      obtain ⟨change, hchange, hsame⟩ := List.mem_map.mp hlines
      rw [← hsame] at hline
      obtain hmem | hmem := mem_oldText_or_newText hchange hline
      · exact ha _ hmem
      · exact hb _ hmem
  constructor
  · rw [hwrite]
    exact read_write hwritable
  · have hlines : TextLines.splitKeep isLineFeed a.flatten =
        oldText changes ++ TextLines.splitKeep isLineFeed tail.flatten := by
      rw [hold, List.flatten_append]
      exact splitKeep_whole ha _
    change (applyHunks _ ((groupedOpcodes 3 a b).map (hunkOf a b))).map List.flatten = _
    rw [hlines, hhunks, applyHunks_locate, Option.map_some, List.flatten_append,
      TextLines.flatten_splitKeep, ← List.flatten_append, ← hnew]

theorem counted_hunkOf (a b : List (List Char)) :
    ∀ group ∈ groupedOpcodes 3 a b, Counted (hunkOf a b group) := by
  obtain ⟨changes, tail, -, -, hhunks, -⟩ := (groupedOpcodes_located 3 a b).changes
  intro group hgroup
  have hmem : hunkOf a b group ∈ locate 0 0 changes := by
    rw [← hhunks]
    exact List.mem_map_of_mem hgroup
  exact counted_locate 0 0 changes _ hmem

theorem mem_of_mem_slice {items : List α} {start stop : Nat} {item : α}
    (h : item ∈ slice items start stop) : item ∈ items :=
  List.mem_of_mem_drop (List.mem_of_mem_take h)

theorem mem_of_mem_groupLines {a b : List α} {group : List Opcode} {line : Mark × α}
    (h : line ∈ groupLines a b group) : line.2 ∈ a ∨ line.2 ∈ b := by
  obtain ⟨⟨tag, i1, i2, j1, j2⟩, -, hcode⟩ := List.mem_flatMap.mp h
  cases tag with
  | replace =>
    obtain hold | hnew := List.mem_append.mp hcode
    · obtain ⟨item, hitem, rfl⟩ := List.mem_map.mp hold
      exact Or.inl (mem_of_mem_slice hitem)
    · obtain ⟨item, hitem, rfl⟩ := List.mem_map.mp hnew
      exact Or.inr (mem_of_mem_slice hitem)
  | delete =>
    obtain ⟨item, hitem, rfl⟩ := List.mem_map.mp hcode
    exact Or.inl (mem_of_mem_slice hitem)
  | insert =>
    obtain ⟨item, hitem, rfl⟩ := List.mem_map.mp hcode
    exact Or.inr (mem_of_mem_slice hitem)
  | equal =>
    obtain ⟨item, hitem, rfl⟩ := List.mem_map.mp hcode
    exact Or.inl (mem_of_mem_slice hitem)

end JlensEvolve.Library.Difflib
