import JlensEvolve.Benchmarks.TaskPool

/-!
A pool that is saved and loaded again. The document has sorted keys, so what is
loaded differs from the pool in the order of keys in its dictionaries at most.
-/

namespace JlensEvolve.Benchmarks

open Library Contracts

def TaskPoolRecord.sorted (record : TaskPoolRecord) : TaskPoolRecord :=
  { record with taskContract := record.taskContract.sorted }

namespace TaskPool

/-- The pool with the keys of its dictionaries in order. -/
def sorted (pool : TaskPool) : TaskPool :=
  { pool with
    records := pool.records.map TaskPoolRecord.sorted
    duplicates := pool.duplicates.map Json.sorted
    retiredExclusions := pool.retiredExclusions.map Json.sorted }

/-- The pools are equal, where dictionaries are compared without regard to the order of keys. -/
def Equal (first second : TaskPool) : Prop := first.sorted = second.sorted

theorem sorted_equal (pool : TaskPool) : Equal pool.sorted pool := by
  have hrecords : (pool.records.map TaskPoolRecord.sorted).map TaskPoolRecord.sorted =
      pool.records.map TaskPoolRecord.sorted := by
    rw [List.map_map]
    refine List.map_congr_left ?_
    intro record _
    rw [Function.comp_apply, TaskPoolRecord.sorted, TaskPoolRecord.sorted, Json.sorted_sorted]
  have hrows : ∀ rows : List Json, (rows.map Json.sorted).map Json.sorted =
      rows.map Json.sorted := by
    intro rows
    rw [List.map_map]
    exact List.map_congr_left fun row _ => Json.sorted_sorted row
  rw [Equal, sorted, sorted, hrecords, hrows, hrows]

theorem item_of_get? {row value : Json} {key : String} (h : row.get? key = some value) :
    item row key = .ok value := by
  rw [item, h]

theorem text_of_get? {row : Json} {key value : String} (h : row.get? key = some (.str value)) :
    text row key = .ok value := by
  rw [text, item_of_get? h]
  rfl

theorem items_of_get? {row : Json} {key : String} {values : List Json}
    (h : row.get? key = some (.arr values)) : items row key = .ok values := by
  rw [items, item_of_get? h]
  rfl

theorem named_partition (partition : Partition) :
    Partition.named partition.name = some partition := by
  cases partition <;> decide

theorem named_state (state : TaskState) : TaskState.named state.name = some state := by
  cases state with
  | unopened => decide
  | opened partition => cases partition <;> decide
  | retired => decide

theorem validate_sorted {record : TaskPoolRecord} (h : record.validate = .ok ()) :
    record.sorted.validate = .ok () := by
  simp only [TaskPoolRecord.validate, except_bind_ok_iff, require_ok_iff] at h ⊢
  obtain ⟨_, huid, _, hidentity, _, hcontract, _, hsame, hbenchmark⟩ := h
  refine ⟨(), huid, (), hidentity, (), ?_, (), ?_, ?_⟩
  · rw [TaskPoolRecord.sorted, Json.get?_sorted, hcontract]
    rfl
  · rw [TaskPoolRecord.sorted, Json.get?_sorted, hsame]
    rfl
  · rw [TaskPoolRecord.sorted, Json.get?_sorted, hbenchmark]
    rfl

theorem readRecord_toDict {record : TaskPoolRecord} (h : record.validate = .ok ()) :
    readRecord record.toDict.sorted = .ok record.sorted := by
  have hget : ∀ key value, record.toDict.get? key = some value →
      record.toDict.sorted.get? key = some value.sorted := by
    intro key value hvalue
    rw [Json.get?_sorted, hvalue]
    rfl
  have huid := text_of_get? (hget "task_uid" (.str record.taskUid)
    (by simp [TaskPoolRecord.toDict]))
  have hidentity := text_of_get? (hget "identity_fingerprint" (.str record.identityFingerprint)
    (by simp [TaskPoolRecord.toDict]))
  have hbenchmark := text_of_get? (hget "benchmark_id" (.str record.benchmarkId)
    (by simp [TaskPoolRecord.toDict]))
  have hinstance := text_of_get? (hget "instance_id" (.str record.instanceId)
    (by simp [TaskPoolRecord.toDict]))
  have hpartition := text_of_get? (hget "assigned_partition" (.str record.assignedPartition.name)
    (by simp [TaskPoolRecord.toDict]))
  have hcontract := item_of_get? (hget "task_contract" record.taskContract
    (by simp [TaskPoolRecord.toDict]))
  have hstate := text_of_get? (hget "state" (.str record.state.name)
    (by simp [TaskPoolRecord.toDict]))
  have hvalid := validate_sorted h
  rw [TaskPoolRecord.sorted] at hvalid
  simp only [readRecord, huid, hidentity, hbenchmark, hinstance, hpartition, hcontract, hstate,
    bind, Except.bind, named_partition, named_state, orError, hvalid]
  rfl

theorem mapM_readRecord {records : List TaskPoolRecord}
    (h : ∀ record ∈ records, record.validate = .ok ()) :
    (records.map fun record => record.toDict.sorted).mapM readRecord =
      .ok (records.map TaskPoolRecord.sorted) := by
  induction records with
  | nil => rfl
  | cons record rest ih =>
    obtain ⟨hrecord, hrest⟩ := List.forall_mem_cons.mp h
    rw [List.map_cons, List.mapM_cons, readRecord_toDict hrecord, ih hrest]
    rfl

theorem mapM_readAdapter (adapters : List String) :
    (adapters.map Json.str).mapM readAdapter = .ok adapters := by
  induction adapters with
  | nil => rfl
  | cons adapter rest ih =>
    rw [List.map_cons, List.mapM_cons, ih]
    rfl

/-- What `TaskPool(...)` has checked. -/
structure Created (pool : TaskPool) : Prop where
  records : ∀ record ∈ pool.records, record.validate = .ok ()
  create : create pool = .ok pool

theorem mapM_item_sorted {rows : List Json} {key : String} {values : List Json}
    (h : rows.mapM (fun row => item row key) = .ok values) :
    (rows.map Json.sorted).mapM (fun row => item row key) = .ok (values.map Json.sorted) := by
  induction rows generalizing values with
  | nil =>
    cases h
    rfl
  | cons row rest ih =>
    simp only [List.mapM_cons, except_bind_ok_iff] at h
    obtain ⟨value, hvalue, others, hothers, hsame⟩ := h
    cases hsame
    have hrow : item row.sorted key = .ok value.sorted := by
      rw [item] at hvalue
      split at hvalue
      · rename_i found hfound
        cases hvalue
        refine item_of_get? ?_
        rw [Json.get?_sorted, hfound]
        rfl
      · cases hvalue
    rw [List.map_cons, List.mapM_cons, hrow, ih hothers]
    rfl

theorem create_sorted {pool : TaskPool} (h : create pool = .ok pool) :
    create pool.sorted = .ok pool.sorted := by
  simp only [create, validate, except_bind_ok_iff, require_ok_iff] at h ⊢
  obtain ⟨_, hseed, _, ⟨_, huids, _, hidentities, _, hstates, ids, hids, hretired⟩, -⟩ := h
  refine ⟨(), hseed, (), ⟨(), ?_, (), ?_, (), ?_, ids.map Json.sorted, mapM_item_sorted hids, ?_⟩,
    rfl⟩
  · rw [sorted, List.map_map]
    exact huids
  · rw [sorted, List.map_map]
    exact hidentities
  · rw [sorted, List.all_map]
    exact hstates
  · rw [sorted, List.all_map]
    rw [List.all_eq_true] at hretired ⊢
    intro record hrecord
    have hnot := hretired record hrecord
    rw [decide_eq_true_eq] at hnot
    rw [Function.comp_apply, decide_eq_true_eq, List.mem_map]
    rintro ⟨id, hid, hsame⟩
    rw [Json.sorted_eq_str_iff] at hsame
    exact hnot (hsame ▸ hid)

theorem ofPayload_of_sorted {pool : TaskPool} (h : Created pool) {payload : Json}
    (hpayload : ∀ key ∈ pool.payload.map Prod.fst,
      payload.get? key = (Json.field? pool.payload key).map Json.sorted) :
    ofPayload payload = .ok pool.sorted := by
  have hget : ∀ key value, Json.field? pool.payload key = some value →
      payload.get? key = some value.sorted := by
    intro key value hvalue
    have hkey := Json.mem_keys_iff_field?.mpr (Option.isSome_iff_exists.mpr ⟨value, hvalue⟩)
    rw [hpayload key hkey, hvalue]
    rfl
  have hseed := text_of_get? (hget "seed_material" (.str pool.seedMaterial)
    (by simp [TaskPool.payload]))
  have hadapters := items_of_get? (hget "adapters" (.arr (pool.adapters.map .str))
    (by simp [TaskPool.payload]))
  have hrecords := items_of_get? (hget "records" (.arr (pool.records.map TaskPoolRecord.toDict))
    (by simp [TaskPool.payload]))
  have hduplicates := items_of_get? (hget "duplicates" (.arr pool.duplicates)
    (by simp [TaskPool.payload]))
  have hexclusions : readExclusions payload = .ok (pool.retiredExclusions.map Json.sorted) := by
    rw [readExclusions, hget "retired_exclusions" (.arr pool.retiredExclusions)
      (by simp [TaskPool.payload]), Json.sorted, Json.sortedItems_eq_map]
  rw [Json.sortedItems_eq_map, List.map_map] at hadapters hrecords
  rw [Json.sortedItems_eq_map] at hduplicates
  have hread : (pool.adapters.map (Json.sorted ∘ Json.str)).mapM readAdapter = .ok pool.adapters :=
    mapM_readAdapter pool.adapters
  have hrows : (pool.records.map (Json.sorted ∘ TaskPoolRecord.toDict)).mapM readRecord =
      .ok (pool.records.map TaskPoolRecord.sorted) := mapM_readRecord h.records
  simp only [ofPayload, hseed, hadapters, hrecords, hduplicates, hexclusions, hread, hrows, bind,
    Except.bind]
  exact create_sorted h.create

theorem payload_keys {pool : TaskPool} {key : String} (h : key ∈ pool.payload.map Prod.fst) :
    key ≠ "semantic_fingerprint" := by
  rintro rfl
  simp [payload] at h

theorem whole_nodup (pool : TaskPool) (fingerprint : Json) :
    ((pool.payload ++ [("semantic_fingerprint", fingerprint)]).map Prod.fst).Nodup := by
  simp [payload]

theorem filter_whole (pool : TaskPool) (fingerprint : Json) :
    (pool.payload ++ [("semantic_fingerprint", fingerprint)]).filter
      (fun field => field.1 ≠ "semantic_fingerprint") = pool.payload := by
  simp [payload]

theorem load_obj {fields : List (String × Json)}
    (hschema : Json.field? fields "schema_version" = some (.str "1.0"))
    (hfingerprint : Json.field? fields "semantic_fingerprint" = some (.str (Json.obj
      (fields.filter fun field => field.1 ≠ "semantic_fingerprint")).contentSha256)) :
    load (.obj fields) =
      ofPayload (.obj (fields.filter fun field => field.1 ≠ "semantic_fingerprint")) := by
  simp only [load, (require_ok_iff _ _ ()).mpr hschema, (require_ok_iff _ _ ()).mpr hfingerprint,
    bind, Except.bind]

theorem load_save {pool : TaskPool} (h : Created pool) : load pool.save = .ok pool.sorted := by
  have hget : ∀ key, Json.field? (Json.sortFields (Json.sortedFields (pool.payload ++
      [("semantic_fingerprint", .str (Json.obj pool.payload).contentSha256)]))) key =
      (Json.field? (pool.payload ++
        [("semantic_fingerprint", .str (Json.obj pool.payload).contentSha256)]) key).map
          Json.sorted := by
    intro key
    rw [Json.field?_sortFields, Json.field?_sortedFields]
  have hsame := Json.sorted_sorted (.obj (pool.payload ++
    [("semantic_fingerprint", .str (Json.obj pool.payload).contentSha256)]))
  have hfilter := Json.sorted_filter (whole_nodup pool _) hsame
    fun key => decide (key ≠ "semantic_fingerprint")
  have hwhole := filter_whole pool (.str (Json.obj pool.payload).contentSha256)
  rw [hwhole] at hfilter
  have hsha := Json.contentSha256_of_sorted hfilter
  have hschema : Json.field? (pool.payload ++
      [("semantic_fingerprint", .str (Json.obj pool.payload).contentSha256)]) "schema_version" =
      some (.str "1.0") := by simp [payload]
  have hfingerprint : Json.field? (pool.payload ++
      [("semantic_fingerprint", .str (Json.obj pool.payload).contentSha256)])
      "semantic_fingerprint" = some (.str (Json.obj pool.payload).contentSha256) := by
    simp [payload]
  rw [save, toDict, Json.sorted, load_obj]
  · refine ofPayload_of_sorted h ?_
    intro key hkey
    rw [Json.get?_obj, Json.field?_filter_ne _ (payload_keys hkey), hget,
      Json.field?_concat_of_ne _ (payload_keys hkey)]
  · rw [hget, hschema]
    rfl
  · rw [hget, hfingerprint, hsha]
    rfl

end TaskPool

end JlensEvolve.Benchmarks
