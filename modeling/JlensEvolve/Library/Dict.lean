import Mathlib.Algebra.BigOperators.Group.List.Basic
import Mathlib.Algebra.Order.BigOperators.Group.List
import Mathlib.Data.List.Basic
import Mathlib.Data.List.Nodup
import Mathlib.Tactic.Abel

/-!
Insertion-ordered dictionaries: assigning to a present key keeps its position,
a new key goes last, and no key occurs twice. The distinctness of keys is a
field, so every dictionary a model builds has it.
-/

namespace JlensEvolve.Library

variable {κ ν : Type} [DecidableEq κ]

structure Dict (κ ν : Type) where
  entries : List (κ × ν)
  nodup_keys : (entries.map Prod.fst).Nodup

namespace Dict

def empty : Dict κ ν := ⟨[], by simp⟩

def keys (d : Dict κ ν) : List κ := d.entries.map Prod.fst

def values (d : Dict κ ν) : List ν := d.entries.map Prod.snd

def lookupEntries (key : κ) : List (κ × ν) → Option ν
  | [] => none
  | (k, v) :: rest => if k = key then some v else lookupEntries key rest

def get? (d : Dict κ ν) (key : κ) : Option ν := lookupEntries key d.entries

/-- `len(d)`. -/
def size (d : Dict κ ν) : Nat := d.entries.length

def setEntries (key : κ) (value : ν) : List (κ × ν) → List (κ × ν)
  | [] => [(key, value)]
  | (k, v) :: rest =>
    if k = key then (key, value) :: rest else (k, v) :: setEntries key value rest

private theorem mem_keys_setEntries (key : κ) (value : ν) (entries : List (κ × ν)) (k : κ) :
    k ∈ (setEntries key value entries).map Prod.fst ↔
      k = key ∨ k ∈ entries.map Prod.fst := by
  induction entries with
  | nil => simp [setEntries]
  | cons entry rest ih =>
    obtain ⟨j, w⟩ := entry
    by_cases h : j = key
    · subst h
      simp [setEntries]
    · simp only [setEntries, if_neg h, List.map_cons, List.mem_cons, ih]
      tauto

private theorem nodup_setEntries (key : κ) (value : ν) (entries : List (κ × ν))
    (h : (entries.map Prod.fst).Nodup) :
    ((setEntries key value entries).map Prod.fst).Nodup := by
  induction entries with
  | nil => simp [setEntries]
  | cons entry rest ih =>
    obtain ⟨j, w⟩ := entry
    simp only [List.map_cons, List.nodup_cons] at h
    by_cases hj : j = key
    · subst hj
      simpa [setEntries] using h
    · simp only [setEntries, if_neg hj, List.map_cons, List.nodup_cons,
        mem_keys_setEntries]
      exact ⟨by rintro (rfl | hmem); exacts [hj rfl, h.1 hmem], ih h.2⟩

/-- `d[key] = value`. -/
def set (d : Dict κ ν) (key : κ) (value : ν) : Dict κ ν :=
  ⟨setEntries key value d.entries, nodup_setEntries key value d.entries d.nodup_keys⟩

/-- `d.pop(key)`; an absent key changes nothing here. -/
def erase (d : Dict κ ν) (key : κ) : Dict κ ν :=
  ⟨d.entries.filter (·.1 ≠ key), by
    have h : (d.entries.filter (·.1 ≠ key)).Sublist d.entries := List.filter_sublist
    exact (h.map Prod.fst).nodup d.nodup_keys⟩

@[simp] theorem get?_empty (key : κ) : (empty : Dict κ ν).get? key = none := rfl

theorem lookup_setEntries (key : κ) (value : ν) (entries : List (κ × ν)) (k : κ) :
    lookupEntries k (setEntries key value entries) =
      if k = key then some value else lookupEntries k entries := by
  induction entries with
  | nil => simp [setEntries, lookupEntries, eq_comm]
  | cons entry rest ih =>
    obtain ⟨j, w⟩ := entry
    by_cases hj : j = key
    · subst hj
      by_cases h : k = j
      · simp [setEntries, lookupEntries, h]
      · simp [setEntries, lookupEntries, h, Ne.symm h]
    · by_cases h : j = k
      · subst h
        simp [setEntries, lookupEntries, hj]
      · simp [setEntries, lookupEntries, hj, h, ih]

theorem get?_set (d : Dict κ ν) (key k : κ) (value : ν) :
    (d.set key value).get? k = if k = key then some value else d.get? k :=
  lookup_setEntries key value d.entries k

@[simp] theorem get?_set_self (d : Dict κ ν) (key : κ) (value : ν) :
    (d.set key value).get? key = some value := by
  simp [get?_set]

theorem get?_set_of_ne (d : Dict κ ν) {key k : κ} (value : ν) (h : k ≠ key) :
    (d.set key value).get? k = d.get? k := by
  simp [get?_set, h]

theorem get?_erase (d : Dict κ ν) (key k : κ) :
    (d.erase key).get? k = if k = key then none else d.get? k := by
  obtain ⟨entries, hnodup⟩ := d
  change lookupEntries k (entries.filter (·.1 ≠ key)) =
    if k = key then none else lookupEntries k entries
  clear hnodup
  induction entries with
  | nil => simp [lookupEntries]
  | cons entry rest ih =>
    obtain ⟨j, w⟩ := entry
    by_cases hj : j = key
    · subst hj
      by_cases h : k = j
      · simpa [h] using ih
      · simpa [lookupEntries, h, Ne.symm h] using ih
    · by_cases h : j = k
      · subst h
        simp [hj, lookupEntries]
      · simpa [hj, lookupEntries, h] using ih

theorem get?_eq_some_iff (d : Dict κ ν) (key : κ) (value : ν) :
    d.get? key = some value ↔ (key, value) ∈ d.entries := by
  obtain ⟨entries, hnodup⟩ := d
  change lookupEntries key entries = some value ↔ (key, value) ∈ entries
  induction entries with
  | nil => simp [lookupEntries]
  | cons entry rest ih =>
    obtain ⟨j, w⟩ := entry
    simp only [List.map_cons, List.nodup_cons, List.mem_map] at hnodup
    by_cases h : j = key
    · subst h
      have habsent : (j, value) ∉ rest := fun hmem => hnodup.1 ⟨_, hmem, rfl⟩
      simp [lookupEntries, habsent, eq_comm]
    · simp [lookupEntries, h, Ne.symm h, ih hnodup.2]

theorem mem_keys_iff (d : Dict κ ν) (key : κ) :
    key ∈ d.keys ↔ (d.get? key).isSome = true := by
  rw [Option.isSome_iff_exists]
  simp only [get?_eq_some_iff, keys, List.mem_map, Prod.exists, exists_and_right,
    exists_eq_right]

theorem get?_eq_none_iff (d : Dict κ ν) (key : κ) : d.get? key = none ↔ key ∉ d.keys := by
  rw [mem_keys_iff]
  cases d.get? key <;> simp

/-- `d.update(other)`. -/
def update (d other : Dict κ ν) : Dict κ ν :=
  other.entries.foldl (fun d entry => d.set entry.1 entry.2) d

private theorem get?_foldl_set (key : κ) (entries : List (κ × ν)) :
    ∀ (d : Dict κ ν), (entries.map Prod.fst).Nodup →
      (entries.foldl (fun d entry => d.set entry.1 entry.2) d).get? key =
        (lookupEntries key entries).or (d.get? key) := by
  induction entries with
  | nil =>
    intro d _
    rfl
  | cons entry rest ih =>
    obtain ⟨j, w⟩ := entry
    intro d h
    rw [List.map_cons, List.nodup_cons] at h
    rw [List.foldl_cons, ih _ h.2, get?_set]
    by_cases hj : j = key
    · subst hj
      have habsent : lookupEntries j rest = none :=
        (get?_eq_none_iff ⟨rest, h.2⟩ j).mpr h.1
      rw [habsent]
      simp [lookupEntries]
    · simp [lookupEntries, hj, Ne.symm hj]

theorem get?_update (d other : Dict κ ν) (key : κ) :
    (d.update other).get? key = (other.get? key).or (d.get? key) :=
  get?_foldl_set key other.entries d other.nodup_keys

theorem entries_set_of_absent (d : Dict κ ν) {key : κ} (value : ν)
    (h : key ∉ d.entries.map Prod.fst) :
    (d.set key value).entries = d.entries ++ [(key, value)] := by
  obtain ⟨entries, hnodup⟩ := d
  change key ∉ entries.map Prod.fst at h
  change setEntries key value entries = entries ++ [(key, value)]
  clear hnodup
  induction entries with
  | nil => rfl
  | cons entry rest ih =>
    obtain ⟨j, w⟩ := entry
    simp only [List.map_cons, List.mem_cons, not_or] at h
    simp [setEntries, Ne.symm h.1, ih h.2]

/-- Filling an empty dictionary with the values of another, each under its own
key, gives that dictionary. -/
theorem foldl_set_values (d : Dict κ ν) (keyOf : ν → κ)
    (h : ∀ entry ∈ d.entries, keyOf entry.2 = entry.1) :
    d.values.foldl (fun acc value => acc.set (keyOf value) value) empty = d := by
  have hfill : ∀ (rest : List (κ × ν)) (acc : Dict κ ν),
      ((acc.entries ++ rest).map Prod.fst).Nodup → (∀ entry ∈ rest, keyOf entry.2 = entry.1) →
      ((rest.map Prod.snd).foldl (fun acc value => acc.set (keyOf value) value) acc).entries =
        acc.entries ++ rest := by
    intro rest
    induction rest with
    | nil => simp
    | cons entry rest ih =>
      intro acc hnodup hkeys
      obtain ⟨key, value⟩ := entry
      obtain ⟨hkey, hrest⟩ := List.forall_mem_cons.mp hkeys
      have habsent : key ∉ acc.entries.map Prod.fst := by
        rw [List.map_append, List.nodup_append] at hnodup
        intro hmem
        exact hnodup.2.2 key hmem key (by simp) rfl
      have hentries : (acc.set (keyOf value) value).entries = acc.entries ++ [(key, value)] := by
        rw [show keyOf value = key from hkey]
        exact acc.entries_set_of_absent value habsent
      rw [List.map_cons, List.foldl_cons, ih _ _ hrest, hentries]
      · simp
      · rw [hentries]
        simpa using hnodup
  have hall := hfill d.entries empty (by simpa [empty] using d.nodup_keys) h
  obtain ⟨entries, hnodup⟩ := d
  rw [Dict.mk.injEq]
  simpa [empty, values] using hall

theorem mem_values_iff (d : Dict κ ν) (value : ν) :
    value ∈ d.values ↔ ∃ key, d.get? key = some value := by
  simp only [get?_eq_some_iff, values, List.mem_map, Prod.exists, exists_eq_right]

theorem mem_values_set_self (d : Dict κ ν) (key : κ) (value : ν) :
    value ∈ (d.set key value).values :=
  (mem_values_iff _ value).mpr ⟨key, d.get?_set_self key value⟩

theorem mem_values_set {d : Dict κ ν} {key : κ} {value other : ν}
    (h : other ∈ (d.set key value).values) : other = value ∨ other ∈ d.values := by
  obtain ⟨k, hk⟩ := (mem_values_iff _ other).mp h
  rw [get?_set] at hk
  split at hk
  · exact Or.inl (Option.some_inj.mp hk).symm
  · exact Or.inr ((mem_values_iff _ other).mpr ⟨k, hk⟩)

theorem mem_values_foldl_set (keyOf : ν → κ) {items : List ν} {d : Dict κ ν} {value : ν}
    (h : value ∈ (items.foldl (fun acc item => acc.set (keyOf item) item) d).values) :
    value ∈ items ∨ value ∈ d.values := by
  induction items generalizing d with
  | nil => exact Or.inr h
  | cons item rest ih =>
    rcases ih h with hrest | hset
    · exact Or.inl (List.mem_cons_of_mem _ hrest)
    · rcases mem_values_set hset with rfl | hold
      · exact Or.inl List.mem_cons_self
      · exact Or.inr hold

theorem isSome_get?_foldl_set (keyOf : ν → κ) {items : List ν} {d : Dict κ ν} {key : κ}
    (h : (d.get? key).isSome = true ∨ ∃ item ∈ items, keyOf item = key) :
    ((items.foldl (fun acc item => acc.set (keyOf item) item) d).get? key).isSome = true := by
  induction items generalizing d with
  | nil =>
    rcases h with hbound | ⟨item, hitem, -⟩
    · exact hbound
    · cases hitem
  | cons first rest ih =>
    refine ih ?_
    rw [get?_set]
    by_cases hkey : key = keyOf first
    · rw [if_pos hkey]
      exact Or.inl rfl
    · rw [if_neg hkey]
      refine h.imp_right ?_
      rintro ⟨item, hitem, hitemKey⟩
      rcases List.mem_cons.mp hitem with rfl | hrest
      · exact absurd hitemKey.symm hkey
      · exact ⟨item, hrest, hitemKey⟩

/-- The sum of a measure over all values. -/
def total {M : Type} [AddCommMonoid M] (d : Dict κ ν) (measure : ν → M) : M :=
  (d.values.map measure).sum

omit [DecidableEq κ] in
@[simp] theorem total_empty {M : Type} [AddCommMonoid M] (measure : ν → M) :
    (empty : Dict κ ν).total measure = 0 := by
  simp [total, values, empty]

/-- What an assignment does to a total: the old value of the key, if any,
leaves and the new one enters. -/
theorem total_set {M : Type} [AddCommMonoid M] (d : Dict κ ν) (measure : ν → M)
    (key : κ) (value : ν) :
    (d.set key value).total measure + ((d.get? key).map measure).getD 0 =
      d.total measure + measure value := by
  obtain ⟨entries, hnodup⟩ := d
  change ((setEntries key value entries).map Prod.snd |>.map measure).sum +
    ((lookupEntries key entries).map measure).getD 0 =
      (entries.map Prod.snd |>.map measure).sum + measure value
  clear hnodup
  induction entries with
  | nil => simp [setEntries, lookupEntries]
  | cons entry rest ih =>
    obtain ⟨j, w⟩ := entry
    by_cases hj : j = key
    · subst hj
      simp only [setEntries, lookupEntries, if_true, List.map_cons, List.sum_cons,
        Option.map_some, Option.getD_some]
      abel
    · simp only [setEntries, lookupEntries, if_neg hj, List.map_cons, List.sum_cons]
      rw [add_assoc, ih, add_assoc]

theorem total_set_absent {M : Type} [AddCommMonoid M] (d : Dict κ ν) (measure : ν → M)
    {key : κ} (value : ν) (h : d.get? key = none) :
    (d.set key value).total measure = d.total measure + measure value := by
  simpa [h] using d.total_set measure key value

theorem total_set_present {M : Type} [AddCommMonoid M] (d : Dict κ ν) (measure : ν → M)
    {key : κ} {old : ν} (value : ν) (h : d.get? key = some old) :
    (d.set key value).total measure + measure old = d.total measure + measure value := by
  simpa [h] using d.total_set measure key value

theorem le_total {M : Type} [AddCommMonoid M] [PartialOrder M] [IsOrderedAddMonoid M]
    (d : Dict κ ν) (measure : ν → M)
    (hnonneg : ∀ key value, d.get? key = some value → 0 ≤ measure value) {key : κ} {value : ν}
    (hvalue : d.get? key = some value) : measure value ≤ d.total measure := by
  apply List.single_le_sum
  · intro weight hweight
    obtain ⟨other, hother, rfl⟩ := List.mem_map.mp hweight
    obtain ⟨entry, hentry, rfl⟩ := List.mem_map.mp hother
    exact hnonneg entry.1 entry.2 ((d.get?_eq_some_iff _ _).mpr hentry)
  · apply List.mem_map_of_mem
    exact List.mem_map.mpr ⟨(key, value), (d.get?_eq_some_iff _ _).mp hvalue, rfl⟩

/-- Closing one open key of an association list takes exactly its value out of
the open total. -/
theorem sum_filter_close {M : Type} [AddCommMonoid M] (entries : List (κ × ν))
    (hnodup : (entries.map Prod.fst).Nodup) (closed : κ → Prop) [DecidablePred closed]
    (measure : ν → M) {key : κ} {value : ν} (hmem : (key, value) ∈ entries)
    (hopen : ¬ closed key) :
    ((entries.filter (fun entry => ¬ (entry.1 = key ∨ closed entry.1))).map
        (fun entry => measure entry.2)).sum + measure value =
      ((entries.filter (fun entry => ¬ closed entry.1)).map
        (fun entry => measure entry.2)).sum := by
  induction entries with
  | nil => simp at hmem
  | cons entry rest ih =>
    obtain ⟨j, w⟩ := entry
    simp only [List.map_cons, List.nodup_cons] at hnodup
    rcases List.mem_cons.mp hmem with heq | hmem
    · obtain ⟨rfl, rfl⟩ := Prod.mk.inj heq
      have hrest : rest.filter (fun entry => ¬ (entry.1 = key ∨ closed entry.1)) =
          rest.filter (fun entry => ¬ closed entry.1) := by
        apply List.filter_congr
        intro entry hentry
        have hne : entry.1 ≠ key := fun h =>
          hnodup.1 (h ▸ List.mem_map.mpr ⟨entry, hentry, rfl⟩)
        simp [hne]
      rw [List.filter_cons_of_neg (by simp), List.filter_cons_of_pos (by simpa using hopen),
        hrest]
      simp [add_comm]
    · have hne : j ≠ key := fun h =>
        hnodup.1 (h ▸ List.mem_map.mpr ⟨(key, value), hmem, rfl⟩)
      by_cases hclosed : closed j
      · rw [List.filter_cons_of_neg (by simp [hclosed]),
          List.filter_cons_of_neg (by simp [hclosed])]
        exact ih hnodup.2 hmem
      · rw [List.filter_cons_of_pos (by simp [hclosed, hne]),
          List.filter_cons_of_pos (by simp [hclosed])]
        simp only [List.map_cons, List.sum_cons, add_assoc, ih hnodup.2 hmem]

theorem total_erase_present {M : Type} [AddCommMonoid M] (d : Dict κ ν) (measure : ν → M)
    {key : κ} {value : ν} (h : d.get? key = some value) :
    (d.erase key).total measure + measure value = d.total measure := by
  have hclose := sum_filter_close d.entries d.nodup_keys (fun _ => False) measure
    ((d.get?_eq_some_iff key value).mp h) not_false
  simp only [or_false, not_false_eq_true, decide_true, List.filter_true] at hclose
  simpa [total, values, erase, List.map_map, Function.comp_def] using hclose

omit [DecidableEq κ] in
theorem size_eq_total (d : Dict κ ν) : d.size = d.total fun _ => 1 := by
  simp [size, total, values, Function.comp_def]

end Dict

section ById

variable {α : Type} {items : List α} {idOf : α → String}

theorem find?_of_nodup (hnodup : (items.map idOf).Nodup) {item : α}
    (hmem : item ∈ items) :
    items.find? (fun other => idOf other = idOf item) = some item := by
  induction items with
  | nil => cases hmem
  | cons first rest ih =>
    simp only [List.map_cons, List.nodup_cons] at hnodup
    rcases List.mem_cons.mp hmem with rfl | hmem
    · exact List.find?_cons_of_pos (by simp)
    · have hne : idOf first ≠ idOf item :=
        fun h => hnodup.1 (h ▸ List.mem_map_of_mem hmem)
      rw [List.find?_cons_of_neg (by simpa using hne)]
      exact ih hnodup.2 hmem

theorem filter_of_nodup (hnodup : (items.map idOf).Nodup) {item : α} (hmem : item ∈ items) :
    items.filter (fun other => idOf other = idOf item) = [item] := by
  induction items with
  | nil => cases hmem
  | cons first rest ih =>
    simp only [List.map_cons, List.nodup_cons] at hnodup
    rcases List.mem_cons.mp hmem with rfl | hmem
    · have hrest : rest.filter (fun other => idOf other = idOf item) = [] := by
        rw [List.filter_eq_nil_iff]
        intro other hother hsame
        exact hnodup.1 (of_decide_eq_true hsame ▸ List.mem_map_of_mem hother)
      rw [List.filter_cons_of_pos (by simp), hrest]
    · have hne : idOf first ≠ idOf item :=
        fun h => hnodup.1 (h ▸ List.mem_map_of_mem hmem)
      rw [List.filter_cons_of_neg (by simpa using hne)]
      exact ih hnodup.2 hmem

theorem filterMap_find?_of_nodup (hnodup : (items.map idOf).Nodup) (chosen : List α)
    (h : ∀ item ∈ chosen, item ∈ items) :
    (chosen.map idOf).filterMap (fun id => items.find? (fun other => idOf other = id)) = chosen := by
  induction chosen with
  | nil => rfl
  | cons item rest ih =>
    have hfind := find?_of_nodup hnodup (h item List.mem_cons_self)
    simp only [List.map_cons, List.filterMap_cons, hfind,
      ih fun other hother => h other (List.mem_cons_of_mem _ hother)]

theorem find?_none_of_append {acc rest : List α} {item : α}
    (hnodup : ((acc ++ item :: rest).map idOf).Nodup) :
    acc.find? (fun prior => idOf prior = idOf item) = none := by
  rw [List.find?_eq_none]
  intro prior hprior
  rw [List.map_append, List.map_cons, List.nodup_append] at hnodup
  have hne := hnodup.2.2 _ (List.mem_map_of_mem hprior) _ List.mem_cons_self
  simpa using hne

end ById

section FromKeys

variable {α : Type} [DecidableEq α]

/-- The items without the repetitions, each where it first occurs. -/
def fromKeys (items : List α) : List α :=
  items.foldl (fun kept item => if item ∈ kept then kept else kept ++ [item]) []

theorem nodup_fromKeys (items : List α) : (fromKeys items).Nodup := by
  have hfold : ∀ kept : List α, kept.Nodup → (items.foldl
      (fun kept item => if item ∈ kept then kept else kept ++ [item]) kept).Nodup := by
    induction items with
    | nil => exact fun _ hkept => hkept
    | cons item rest ih =>
      intro kept hkept
      rw [List.foldl_cons]
      apply ih
      split
      · exact hkept
      · next hnew =>
        rw [List.nodup_append]
        refine ⟨hkept, List.nodup_singleton item, ?_⟩
        intro first hfirst second hsecond hsame
        rw [List.mem_singleton.mp hsecond] at hsame
        exact hnew (hsame ▸ hfirst)
  exact hfold [] List.nodup_nil

theorem mem_fromKeys_iff {items : List α} {item : α} : item ∈ fromKeys items ↔ item ∈ items := by
  have hfold : ∀ kept : List α, (item ∈ items.foldl
      (fun kept item => if item ∈ kept then kept else kept ++ [item]) kept ↔
        item ∈ kept ∨ item ∈ items) := by
    induction items with
    | nil => simp
    | cons first rest ih =>
      intro kept
      rw [List.foldl_cons, ih, List.mem_cons]
      split
      · next hheld =>
        constructor
        · rintro (hkept | hrest)
          · exact Or.inl hkept
          · exact Or.inr (Or.inr hrest)
        · rintro (hkept | rfl | hrest)
          · exact Or.inl hkept
          · exact Or.inl hheld
          · exact Or.inr hrest
      · rw [List.mem_append, List.mem_singleton, or_assoc]
  have hempty := hfold []
  simpa [fromKeys] using hempty

end FromKeys

end JlensEvolve.Library
