import Mathlib.Data.List.Basic
import Mathlib.Tactic.Common

/-!
`difflib.SequenceMatcher` without a junk test: the longest matching block of two
sequences, the matching blocks on both sides of it, and the opcodes that turn
the first sequence into the second. Elements that make up more than a hundredth
of a long second sequence start no block.
-/

namespace JlensEvolve.Library.SequenceMatcher

variable {α : Type}

structure Match where
  a : Nat
  b : Nat
  size : Nat
deriving DecidableEq

section Definitions

variable [DecidableEq α] (a b : List α)

/-- `elt in self.bpopular`. -/
def popular (elt : α) : Bool :=
  decide (200 ≤ b.length) && decide (b.length / 100 + 1 < b.count elt)

/-- `self.b2j.get(elt, nothing)`. -/
def indicesOf (elt : α) : List Nat :=
  if popular b elt then [] else (List.range b.length).filter fun j => b[j]? = some elt

/-- `j2lenget(j - 1, 0)`. -/
def lengthBefore (j2len : List (Nat × Nat)) : Nat → Nat
  | 0 => 0
  | j + 1 => (j2len.lookup j).getD 0

/-- The inner loop of `find_longest_match`, over the places of `a[i]` in `b`. -/
def scanPlaces (blo bhi i : Nat) (j2len : List (Nat × Nat)) :
    List Nat → List (Nat × Nat) × Match → List (Nat × Nat) × Match
  | [], found => found
  | j :: rest, (newj2len, best) =>
    if j < blo then scanPlaces blo bhi i j2len rest (newj2len, best)
    else if bhi ≤ j then (newj2len, best)
    else
      let k := lengthBefore j2len j + 1
      scanPlaces blo bhi i j2len rest
        ((j, k) :: newj2len, if best.size < k then ⟨i + 1 - k, j + 1 - k, k⟩ else best)

/-- One turn of the outer loop of `find_longest_match`. -/
def scanRow (blo bhi : Nat) (state : List (Nat × Nat) × Match) (i : Nat) :
    List (Nat × Nat) × Match :=
  scanPlaces blo bhi i state.1 ((a[i]?.map (indicesOf b)).getD []) ([], state.2)

def extendLeft (alo blo : Nat) : Nat → Nat → Nat → Match
  | i + 1, j + 1, size =>
    if alo < i + 1 ∧ blo < j + 1 ∧ a[i]? = b[j]? then extendLeft alo blo i j (size + 1)
    else ⟨i + 1, j + 1, size⟩
  | i, j, size => ⟨i, j, size⟩

/-- The loop that extends a block to the right; it runs at most as often as elements are left. -/
def extendRight (ahi bhi : Nat) : Nat → Match → Match
  | 0, found => found
  | left + 1, found =>
    if found.a + found.size < ahi ∧ found.b + found.size < bhi ∧
        a[found.a + found.size]? = b[found.b + found.size]? then
      extendRight ahi bhi left { found with size := found.size + 1 }
    else found

def findLongestMatch (alo ahi blo bhi : Nat) : Match :=
  let best := ((List.range' alo (ahi - alo)).foldl (scanRow a b blo bhi) ([], ⟨alo, blo, 0⟩)).2
  let extended := extendLeft a b alo blo best.a best.b best.size
  extendRight a b ahi bhi (ahi - (extended.a + extended.size)) extended

end Definitions

section Invariants

variable (a b : List α)

/-- So many elements from the two places on are the same. -/
def Matches (i j size : Nat) : Prop :=
  ∀ t < size, ∃ elt, a[i + t]? = some elt ∧ b[j + t]? = some elt

/-- A matching block inside the ranges. -/
structure Within (alo ahi blo bhi : Nat) (found : Match) : Prop where
  left_a : alo ≤ found.a
  right_a : found.a + found.size ≤ ahi
  left_b : blo ≤ found.b
  right_b : found.b + found.size ≤ bhi
  same : Matches a b found.a found.b found.size

/-- Blocks of the recorded lengths end in front of row `i`. -/
def Recorded (alo blo bhi i : Nat) (j2len : List (Nat × Nat)) : Prop :=
  ∀ j k, (j, k) ∈ j2len → alo + k ≤ i ∧ blo + k ≤ j + 1 ∧ j < bhi ∧
    Matches a b (i - k) (j + 1 - k) k

end Invariants

section Found

variable {a b : List α} {alo ahi blo bhi : Nat}

theorem mem_of_lookup {entries : List (Nat × Nat)} {j k : Nat} (h : entries.lookup j = some k) :
    (j, k) ∈ entries := by
  induction entries with
  | nil => cases h
  | cons entry rest ih =>
    obtain ⟨key, value⟩ := entry
    rw [List.lookup_cons] at h
    split at h
    · rename_i hsame
      cases h
      rw [beq_iff_eq.mp hsame]
      exact List.mem_cons_self
    · exact List.mem_cons_of_mem _ (ih h)

theorem Matches.snoc {i j size : Nat} (h : Matches a b i j size) {elt : α}
    (ha : a[i + size]? = some elt) (hb : b[j + size]? = some elt) :
    Matches a b i j (size + 1) := by
  intro t ht
  obtain hlt | rfl := Nat.lt_succ_iff_lt_or_eq.mp ht
  · exact h t hlt
  · exact ⟨elt, ha, hb⟩

theorem Matches.cons {i j size : Nat} (h : Matches a b (i + 1) (j + 1) size) {elt : α}
    (ha : a[i]? = some elt) (hb : b[j]? = some elt) : Matches a b i j (size + 1) := by
  intro t ht
  cases t with
  | zero => exact ⟨elt, ha, hb⟩
  | succ t =>
    obtain ⟨other, hother⟩ := h t (by omega)
    rw [show i + 1 + t = i + (t + 1) by omega, show j + 1 + t = j + (t + 1) by omega] at hother
    exact ⟨other, hother⟩

theorem block_at {i j : Nat} {j2len : List (Nat × Nat)} {elt : α}
    (hrecorded : Recorded a b alo blo bhi i j2len) (halo : alo ≤ i) (hblo : blo ≤ j)
    (ha : a[i]? = some elt) (hb : b[j]? = some elt) :
    alo + (lengthBefore j2len j + 1) ≤ i + 1 ∧ blo + (lengthBefore j2len j + 1) ≤ j + 1 ∧
      Matches a b (i + 1 - (lengthBefore j2len j + 1)) (j + 1 - (lengthBefore j2len j + 1))
        (lengthBefore j2len j + 1) := by
  have hone : Matches a b i j 1 := by
    intro t ht
    obtain rfl := Nat.lt_one_iff.mp ht
    exact ⟨elt, ha, hb⟩
  cases j with
  | zero =>
    have hlength : lengthBefore j2len 0 = 0 := rfl
    rw [hlength]
    exact ⟨by omega, by omega, hone⟩
  | succ j =>
    cases hlookup : j2len.lookup j with
    | none =>
      have hlength : lengthBefore j2len (j + 1) = 0 := by rw [lengthBefore, hlookup]; rfl
      rw [hlength]
      exact ⟨by omega, by omega, hone⟩
    | some k =>
      have hlength : lengthBefore j2len (j + 1) = k := by rw [lengthBefore, hlookup]; rfl
      obtain ⟨hi, hj, -, hmatches⟩ := hrecorded j k (mem_of_lookup hlookup)
      rw [hlength]
      refine ⟨by omega, by omega, ?_⟩
      rw [show i + 1 - (k + 1) = i - k by omega, show j + 1 + 1 - (k + 1) = j + 1 - k by omega]
      have hlast_a : a[i - k + k]? = some elt := by rwa [show i - k + k = i by omega]
      have hlast_b : b[j + 1 - k + k]? = some elt := by
        rwa [show j + 1 - k + k = j + 1 by omega]
      exact hmatches.snoc hlast_a hlast_b

theorem scanPlaces_spec {i : Nat} {j2len : List (Nat × Nat)} {places : List Nat}
    {state : List (Nat × Nat) × Match} (hrecorded : Recorded a b alo blo bhi i j2len)
    (halo : alo ≤ i) (hahi : i < ahi)
    (hplaces : ∀ j ∈ places, ∃ elt, a[i]? = some elt ∧ b[j]? = some elt)
    (hnew : Recorded a b alo blo bhi (i + 1) state.1)
    (hbest : Within a b alo ahi blo bhi state.2) :
    Recorded a b alo blo bhi (i + 1) (scanPlaces blo bhi i j2len places state).1 ∧
      Within a b alo ahi blo bhi (scanPlaces blo bhi i j2len places state).2 := by
  induction places generalizing state with
  | nil => exact ⟨hnew, hbest⟩
  | cons j rest ih =>
    obtain ⟨newj2len, best⟩ := state
    obtain ⟨⟨elt, ha, hb⟩, hrest⟩ := List.forall_mem_cons.mp hplaces
    rw [scanPlaces]
    split
    · exact ih hrest hnew hbest
    · rename_i hblo
      split
      · exact ⟨hnew, hbest⟩
      · rename_i hbhi
        obtain ⟨hi, hk, hmatches⟩ := block_at hrecorded halo (Nat.le_of_not_lt hblo) ha hb
        refine ih hrest ?_ ?_
        · intro j' k' hmem
          obtain hsame | hold := List.mem_cons.mp hmem
          · cases hsame
            exact ⟨hi, hk, Nat.lt_of_not_le hbhi, hmatches⟩
          · exact hnew j' k' hold
        · dsimp only
          split
          · exact ⟨by dsimp only; omega, by dsimp only; omega, by dsimp only; omega,
              by dsimp only; omega, hmatches⟩
          · exact hbest

section Search

variable [DecidableEq α]

theorem mem_indicesOf {elt : α} {j : Nat} (h : j ∈ indicesOf b elt) : b[j]? = some elt := by
  unfold indicesOf at h
  split at h
  · cases h
  · simpa using (List.mem_filter.mp h).2

theorem scanRow_spec {i : Nat} {state : List (Nat × Nat) × Match} (halo : alo ≤ i) (hahi : i < ahi)
    (hrecorded : Recorded a b alo blo bhi i state.1)
    (hbest : Within a b alo ahi blo bhi state.2) :
    Recorded a b alo blo bhi (i + 1) (scanRow a b blo bhi state i).1 ∧
      Within a b alo ahi blo bhi (scanRow a b blo bhi state i).2 := by
  refine scanPlaces_spec hrecorded halo hahi (fun j hj => ?_)
    (fun j k hmem => absurd hmem List.not_mem_nil) hbest
  cases helt : a[i]? with
  | none =>
    rw [helt] at hj
    cases hj
  | some elt =>
    rw [helt] at hj
    exact ⟨elt, rfl, mem_indicesOf hj⟩

theorem scanRows_spec {count : Nat} {state : List (Nat × Nat) × Match} {i : Nat} (halo : alo ≤ i)
    (hahi : i + count ≤ ahi) (hrecorded : Recorded a b alo blo bhi i state.1)
    (hbest : Within a b alo ahi blo bhi state.2) :
    Within a b alo ahi blo bhi
      ((List.range' i count).foldl (scanRow a b blo bhi) state).2 := by
  induction count generalizing i state with
  | zero => exact hbest
  | succ count ih =>
    obtain ⟨hnew, hnewBest⟩ := scanRow_spec halo (by omega) hrecorded hbest
    rw [List.range'_succ, List.foldl_cons]
    exact ih (by omega) (by omega) hnew hnewBest

theorem extendLeft_spec {i j size : Nat} (hahi : ahi ≤ a.length)
    (h : Within a b alo ahi blo bhi ⟨i, j, size⟩) :
    Within a b alo ahi blo bhi (extendLeft a b alo blo i j size) := by
  induction i generalizing j size with
  | zero =>
    rw [extendLeft]
    · exact h
    · intro i j hi
      cases hi
  | succ i ih =>
    cases j with
    | zero =>
      rw [extendLeft]
      · exact h
      · intro i' j' _ hj
        cases hj
    | succ j =>
      rw [extendLeft]
      split
      · rename_i hmore
        obtain ⟨halo, hblo, hsame⟩ := hmore
        have hright := h.right_a
        have hrightB := h.right_b
        dsimp only at hright hrightB
        have ha : a[i]? = some a[i] := List.getElem?_eq_getElem (by omega)
        exact ih ⟨by dsimp only; omega, by dsimp only; omega, by dsimp only; omega,
          by dsimp only; omega, h.same.cons ha (hsame ▸ ha)⟩
      · exact h

theorem extendRight_spec {left : Nat} {found : Match} (hahi : ahi ≤ a.length)
    (h : Within a b alo ahi blo bhi found) :
    Within a b alo ahi blo bhi (extendRight a b ahi bhi left found) := by
  induction left generalizing found with
  | zero => exact h
  | succ left ih =>
    rw [extendRight]
    split
    · rename_i hmore
      obtain ⟨hright, hrightB, hsame⟩ := hmore
      have ha : a[found.a + found.size]? = some a[found.a + found.size] :=
        List.getElem?_eq_getElem (by omega)
      exact ih ⟨h.left_a, by dsimp only; omega, h.left_b, by dsimp only; omega,
        h.same.snoc ha (hsame ▸ ha)⟩
    · exact h

theorem findLongestMatch_within (halo : alo ≤ ahi) (hahi : ahi ≤ a.length) (hblo : blo ≤ bhi) :
    Within a b alo ahi blo bhi (findLongestMatch a b alo ahi blo bhi) := by
  have hnone : Within a b alo ahi blo bhi ⟨alo, blo, 0⟩ :=
    ⟨Nat.le_refl _, halo, Nat.le_refl _, hblo, fun t ht => absurd ht (Nat.not_lt_zero t)⟩
  have hnothing : Recorded a b alo blo bhi alo [] := fun j k hmem => absurd hmem List.not_mem_nil
  have hrange : alo + (ahi - alo) ≤ ahi := by omega
  have hbest : Within a b alo ahi blo bhi
      ((List.range' alo (ahi - alo)).foldl (scanRow a b blo bhi) ([], ⟨alo, blo, 0⟩)).2 :=
    scanRows_spec (Nat.le_refl alo) hrange hnothing hnone
  exact extendRight_spec hahi (extendLeft_spec hahi hbest)

end Search

/-- Blocks from left to right, all inside the ranges. -/
def InOrder (a b : List α) (ahi bhi : Nat) : Nat → Nat → List Match → Prop
  | i, j, [] => i ≤ ahi ∧ j ≤ bhi
  | i, j, found :: rest =>
    i ≤ found.a ∧ j ≤ found.b ∧ Matches a b found.a found.b found.size ∧
      InOrder a b ahi bhi (found.a + found.size) (found.b + found.size) rest

theorem InOrder.append {i j ahi bhi ahi' bhi' : Nat} {first second : List Match}
    (hfirst : InOrder a b ahi bhi i j first) (hsecond : InOrder a b ahi' bhi' ahi bhi second) :
    InOrder a b ahi' bhi' i j (first ++ second) := by
  induction first generalizing i j with
  | nil =>
    cases second with
    | nil => exact ⟨Nat.le_trans hfirst.1 hsecond.1, Nat.le_trans hfirst.2 hsecond.2⟩
    | cons found rest =>
      exact ⟨Nat.le_trans hfirst.1 hsecond.1, Nat.le_trans hfirst.2 hsecond.2.1, hsecond.2.2⟩
  | cons found rest ih => exact ⟨hfirst.1, hfirst.2.1, hfirst.2.2.1, ih hfirst.2.2.2⟩

theorem Matches.append {i j first second : Nat} (hfirst : Matches a b i j first)
    (hsecond : Matches a b (i + first) (j + first) second) :
    Matches a b i j (first + second) := by
  intro t ht
  by_cases hlt : t < first
  · exact hfirst t hlt
  · obtain ⟨elt, ha, hb⟩ := hsecond (t - first) (by omega)
    rw [show i + first + (t - first) = i + t by omega] at ha
    rw [show j + first + (t - first) = j + t by omega] at hb
    exact ⟨elt, ha, hb⟩

/-- The loop that collapses blocks with nothing between them. -/
def collapse (current : Match) : List Match → List Match
  | [] => if current.size ≠ 0 then [current] else []
  | found :: rest =>
    if current.a + current.size = found.a ∧ current.b + current.size = found.b then
      collapse { current with size := current.size + found.size } rest
    else (if current.size ≠ 0 then [current] else []) ++ collapse found rest

theorem collapse_inOrder {i j ahi bhi : Nat} {current : Match} {blocks : List Match}
    (h : InOrder a b ahi bhi i j (current :: blocks)) :
    InOrder a b ahi bhi i j (collapse current blocks) := by
  induction blocks generalizing i j current with
  | nil =>
    rw [collapse]
    split
    · exact h
    · obtain ⟨hi, hj, -, hahi, hbhi⟩ := h
      exact ⟨by omega, by omega⟩
  | cons found rest ih =>
    obtain ⟨hi, hj, hsame, hfi, hfj, hfound, hrest⟩ := h
    rw [collapse]
    split
    · rename_i hadjacent
      refine ih ⟨hi, hj, hsame.append ?_, ?_⟩
      · rw [hadjacent.1, hadjacent.2]
        exact hfound
      · rw [← Nat.add_assoc, ← Nat.add_assoc, hadjacent.1, hadjacent.2]
        exact hrest
    · have htail := ih (i := current.a + current.size) (j := current.b + current.size)
        ⟨hfi, hfj, hfound, hrest⟩
      split
      · exact ⟨hi, hj, hsame, htail⟩
      · rename_i hempty
        have hzero : current.size = 0 := by simpa using hempty
        rw [hzero, Nat.add_zero, Nat.add_zero] at htail
        have hgap : InOrder a b current.a current.b i j [] := ⟨hi, hj⟩
        exact hgap.append htail

end Found

section Sequences

variable [DecidableEq α] (a b : List α)

/-- A part of each sequence. -/
structure Region where
  alo : Nat
  ahi : Nat
  blo : Nat
  bhi : Nat
  ordered_a : alo ≤ ahi
  inside_a : ahi ≤ a.length
  ordered_b : blo ≤ bhi
  inside_b : bhi ≤ b.length

variable {a b}

namespace Region

variable (region : Region a b)

/-- The longest match of the region. -/
def best : Match := findLongestMatch a b region.alo region.ahi region.blo region.bhi

theorem best_within : Within a b region.alo region.ahi region.blo region.bhi region.best :=
  findLongestMatch_within region.ordered_a region.inside_a region.ordered_b

theorem best_inside_a : region.best.a ≤ a.length := by
  have hright := region.best_within.right_a
  have hinside := region.inside_a
  omega

theorem best_inside_b : region.best.b ≤ b.length := by
  have hright := region.best_within.right_b
  have hinside := region.inside_b
  omega

/-- The part in front of the longest match. -/
def before : Region a b :=
  ⟨region.alo, region.best.a, region.blo, region.best.b, region.best_within.left_a,
    region.best_inside_a, region.best_within.left_b, region.best_inside_b⟩

/-- The part behind the longest match. -/
def after : Region a b :=
  ⟨region.best.a + region.best.size, region.ahi, region.best.b + region.best.size, region.bhi,
    region.best_within.right_a, region.inside_a, region.best_within.right_b, region.inside_b⟩

end Region

/-- The matching blocks of a region in order: what the queue of `get_matching_blocks` collects,
sorted. -/
def blocksIn (region : Region a b) : List Match :=
  if region.best.size = 0 then []
  else
    (if region.alo < region.best.a ∧ region.blo < region.best.b then blocksIn region.before
      else []) ++
    region.best ::
    (if region.best.a + region.best.size < region.ahi ∧
        region.best.b + region.best.size < region.bhi then blocksIn region.after
      else [])
termination_by region.ahi - region.alo
decreasing_by
  · have hright := region.best_within.right_a
    change region.best.a - region.alo < region.ahi - region.alo
    omega
  · have hleft := region.best_within.left_a
    change region.ahi - (region.best.a + region.best.size) < region.ahi - region.alo
    omega

theorem blocksIn_inOrder (region : Region a b) :
    InOrder a b region.ahi region.bhi region.alo region.blo (blocksIn region) := by
  induction region using blocksIn.induct with
  | case1 region hnone =>
    rw [blocksIn, if_pos hnone]
    exact ⟨region.ordered_a, region.ordered_b⟩
  | case2 region hsome ihbefore ihafter =>
    have hwithin := region.best_within
    have hbefore : InOrder a b region.best.a region.best.b region.alo region.blo
        (if region.alo < region.best.a ∧ region.blo < region.best.b then blocksIn region.before
          else []) := by
      split
      · rename_i hroom
        exact ihbefore hroom
      · exact ⟨hwithin.left_a, hwithin.left_b⟩
    have hafter : InOrder a b region.ahi region.bhi (region.best.a + region.best.size)
        (region.best.b + region.best.size)
        (if region.best.a + region.best.size < region.ahi ∧
            region.best.b + region.best.size < region.bhi then blocksIn region.after
          else []) := by
      split
      · rename_i hroom
        exact ihafter hroom
      · exact ⟨hwithin.right_a, hwithin.right_b⟩
    rw [blocksIn, if_neg hsome]
    exact hbefore.append ⟨Nat.le_refl _, Nat.le_refl _, hwithin.same, hafter⟩

variable (a b)

def whole : Region a b :=
  ⟨0, a.length, 0, b.length, Nat.zero_le _, Nat.le_refl _, Nat.zero_le _, Nat.le_refl _⟩

/-- `get_matching_blocks`. -/
def matchingBlocks : List Match :=
  collapse ⟨0, 0, 0⟩ (blocksIn (whole a b)) ++ [⟨a.length, b.length, 0⟩]

theorem matchingBlocks_inOrder : InOrder a b a.length b.length 0 0 (matchingBlocks a b) := by
  have hnone : Matches a b 0 0 0 := fun t ht => absurd ht (Nat.not_lt_zero t)
  have hstart : InOrder a b a.length b.length 0 0 (⟨0, 0, 0⟩ :: blocksIn (whole a b)) :=
    ⟨Nat.le_refl _, Nat.le_refl _, hnone, blocksIn_inOrder (whole a b)⟩
  have hblocks := collapse_inOrder hstart
  exact hblocks.append ⟨Nat.le_refl _, Nat.le_refl _, fun t ht => absurd ht (Nat.not_lt_zero t),
    Nat.le_refl _, Nat.le_refl _⟩

end Sequences

end JlensEvolve.Library.SequenceMatcher
