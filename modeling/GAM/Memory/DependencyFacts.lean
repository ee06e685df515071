import GAM.Memory.Rendering
import GAM.Store.MemoryTables

/-!
# Dependency facts

`append_dependency_fact` and `get_dependency_facts`. The digest of a fact covers the text of the
observed value as it was written, the reader recomputes it over the text it renders, and refuses all
facts of a query when one digest differs. So what is read is what was written as long as every text
that is written is rendered as it stands (`Readable`).
-/

namespace GAM
open Lib

section
variable [Platform]

/-- `_record_digest(fact, "gam.dependency-fact.v1", "fact_digest")`. -/
def factRecordDigest (f : DependencyFact) : Except PyError String :=
  canonicalSha256
    (digestPayload [("schema", .str "gam.dependency-fact.v1")] ["fact_digest"] (toValue f))

/-- A fact always has a digest. -/
lemma factRecordDigest_ok (f : DependencyFact) : ∃ d, factRecordDigest f = .ok d := by
  refine Encodes.digest ?_
  rw [show digestPayload _ _ (toValue f) = .dict _ from rfl, encodes_dict]
  · simp
  · simp
  · simp only [List.forall_mem_append, List.mem_cons, List.not_mem_nil, or_false, forall_eq]
    simp
    decide

/-- Python `_validate_dependency_fact`. -/
def validateDependencyFact (f : DependencyFact) : Except PyError Unit := do
  let digest ← factRecordDigest f
  ensure (f.factDigest = digest) (.integrity "dependency fact digest is invalid")
  ensure (f.factVersion = 1 ↔ f.priorFactId = none ∧ f.priorFactVersion = none)
    (.integrity "dependency fact lineage is invalid")

/-- The parameters of the insert, under the column names. -/
def factArgs (f : DependencyFact) : Except PyError FactRow := do
  let evidence ← dump (toValue f.evidenceRefs)
  return { id := f.factId, dependencyKey := f.dependencyKey, factVersion := f.factVersion,
           priorFactId := f.priorFactId, priorFactVersion := f.priorFactVersion,
           subjectRef := f.subjectRef, predicate := f.predicate,
           observedValue := f.observedValueJson, state := f.state,
           snapshotDigest := f.snapshotDigest, evidenceRefs := evidence,
           recordedBy := f.recordedBy, factDigest := f.factDigest,
           idempotencyKey := f.idempotencyKey }

/-- `$1::JSONB` of a value that may be `None`. -/
def castOptJsonb : Option String → Except PyError (Option String)
  | none => .ok none
  | some text => do
    let column ← castJsonb text
    return some column

/-- `_plain_json(value) if value is not None else None`. -/
def plainOptJson : Option String → Except PyError (Option String)
  | none => .ok none
  | some column => do
    let text ← plainJson (.str column)
    return some text

/-- A row as a fact. -/
def factOfRow (row : FactRow) : Except PyError DependencyFact := do
  let observed ← plainOptJson row.observedValue
  let state ← enumOf dependencyStateType (.str row.state.value)
  let items ← tupleOf (.str row.evidenceRefs)
  let evidence ← mapAll evidenceOf items
  return { factId := row.id, dependencyKey := row.dependencyKey, factVersion := row.factVersion,
           priorFactId := row.priorFactId, priorFactVersion := row.priorFactVersion,
           subjectRef := row.subjectRef, predicate := row.predicate,
           observedValueJson := observed, state := state, snapshotDigest := row.snapshotDigest,
           evidenceRefs := evidence, recordedBy := row.recordedBy, factDigest := row.factDigest,
           idempotencyKey := row.idempotencyKey }

/-- The row of a key that `SELECT DISTINCT ON (dependency_key) .. ORDER BY dependency_key,
fact_version DESC` keeps. -/
def newestRow (rows : List FactRow) (key : String) : Option FactRow :=
  (sortedBy FactRow.factVersion (rows.filter fun r => r.dependencyKey = key)).getLast?

/-- Python `AppMemory.get_dependency_facts`; the keys are in order, and so are the rows. -/
def getDependencyFacts (db : Store) (keys : List String) : Except PyError (List DependencyFact) := do
  ensure (keys = sortedBy id keys.dedup) (.integrity "dependency keys are not sorted and unique")
  let facts ← mapAll factOfRow (keys.filterMap (newestRow db.facts))
  forAll validateDependencyFact facts
  return facts

end

section
variable [Engine]

/-- The values of the columns of a fact. -/
def castFact (row : FactRow) : Except PyError FactRow := do
  return { row with id := ← castUuid row.id, priorFactId := ← castOptUuid row.priorFactId,
                    observedValue := ← castOptJsonb row.observedValue,
                    evidenceRefs := ← castJsonb row.evidenceRefs }

/-- Python `AppMemory.append_dependency_fact`. -/
def appendDependencyFact (db : Store) (f : DependencyFact) : Except PyError (String × Store) := do
  validateDependencyFact f
  match db.facts.find? fun r => r.idempotencyKey = f.idempotencyKey with
  | some existing => do
    ensure (existing.factDigest = f.factDigest) (.conflict "dependency idempotency key conflicts")
    return (existing.id, db)
  | none => do
    let args ← factArgs f
    let row ← castFact args
    let db ← insertFact db row
    return (f.factId, db)

end

/-! ### What is stored -/

section
variable [Platform]

/-- What the reader gives back as it was written: a rendered observation, evidence in NFC and
canonical identifiers. -/
structure Readable (f : DependencyFact) : Prop where
  observed : ∀ text ∈ f.observedValueJson, Rendered text
  evidence : Normal (toValue f.evidenceRefs)

end

/-- Identifiers in canonical text. -/
structure CanonicalIds (f : DependencyFact) : Prop where
  fact : isUuid f.factId = true
  prior : ∀ id ∈ f.priorFactId, isUuid id = true

section
variable [Engine] {db db' : Store} {f : DependencyFact} {row : FactRow} {id : String}

/-- The row is the stored fact. -/
def FactStored (f : DependencyFact) (row : FactRow) : Prop :=
  ∃ args, factArgs f = .ok args ∧ castFact args = .ok row

/-- An append that goes through repeats a stored digest or stores one row. -/
lemma appendDependencyFact_ok (h : appendDependencyFact db f = .ok (id, db')) :
    validateDependencyFact f = .ok () ∧
      ((db' = db ∧ ∃ r ∈ db.facts, r.idempotencyKey = f.idempotencyKey ∧
          r.factDigest = f.factDigest ∧ id = r.id) ∨
        ((∀ r ∈ db.facts, r.idempotencyKey ≠ f.idempotencyKey) ∧ id = f.factId ∧
          ∃ row, FactStored f row ∧ insertFact db row = .ok db')) := by
  simp only [appendDependencyFact, bind_eq_ok, exists_unit] at h
  obtain ⟨valid, h⟩ := h
  refine ⟨valid, ?_⟩
  split at h
  · rename_i existing found
    simp only [bind_eq_ok, ensure_eq_ok, exists_unit, pure_eq_ok, Except.ok.injEq,
      Prod.mk.injEq] at h
    obtain ⟨digest, rfl, rfl⟩ := h
    have key := List.find?_some found
    exact .inl ⟨rfl, existing, List.mem_of_find?_eq_some found, of_decide_eq_true key, digest, rfl⟩
  · rename_i absent
    simp only [bind_eq_ok, pure_eq_ok, Except.ok.injEq, Prod.mk.injEq] at h
    obtain ⟨args, hargs, row, hrow, db'', insert, rfl, rfl⟩ := h
    have fresh : ∀ r ∈ db.facts, r.idempotencyKey ≠ f.idempotencyKey := by
      intro r hr
      have := List.find?_eq_none.mp absent r hr
      simpa using this
    exact .inr ⟨fresh, rfl, row, ⟨args, hargs, hrow⟩, insert⟩

/-- The columns of a stored fact that keep what is written. -/
lemma FactStored.columns (h : FactStored f row) : row.dependencyKey = f.dependencyKey ∧
    row.factVersion = f.factVersion ∧ row.factDigest = f.factDigest ∧
      row.idempotencyKey = f.idempotencyKey := by
  obtain ⟨args, hargs, hrow⟩ := h
  simp only [factArgs, bind_eq_ok, pure_eq_ok, Except.ok.injEq] at hargs
  obtain ⟨_, -, rfl⟩ := hargs
  simp only [castFact, bind_eq_ok, pure_eq_ok, Except.ok.injEq] at hrow
  obtain ⟨_, -, _, -, _, -, _, -, rfl⟩ := hrow
  exact ⟨rfl, rfl, rfl, rfl⟩

omit [Engine] in
/-- A rendered observation comes back as it was written. -/
lemma plainOptJson_column {o column : Option String} (h : ∀ text ∈ o, Rendered text)
    (cast : castOptJsonb o = .ok column) : plainOptJson column = .ok o := by
  cases o with
  | none =>
    cases cast
    rfl
  | some text =>
    simp only [castOptJsonb, bind_eq_ok, pure_eq_ok, Except.ok.injEq] at cast
    obtain ⟨column, cast, rfl⟩ := cast
    rw [plainOptJson, (h text rfl).column cast, ok_bind, pure_eq_ok]

lemma dependencyState_stored {state : DependencyState} :
    enumOf dependencyStateType (.str state.value) = .ok state := by
  cases state <;> rfl

/-- A readable fact is read from its row. -/
lemma FactStored.read (h : FactStored f row) (readable : Readable f) (ids : CanonicalIds f) :
    factOfRow row = .ok f := by
  obtain ⟨args, hargs, hrow⟩ := h
  simp only [factArgs, bind_eq_ok, pure_eq_ok, Except.ok.injEq] at hargs
  obtain ⟨evidence, written, rfl⟩ := hargs
  simp only [castFact, castUuid_self ids.fact, castOptUuid_self ids.prior, castJsonb_dump written,
    ok_bind, bind_eq_ok, pure_eq_ok, Except.ok.injEq] at hrow
  obtain ⟨observed, cast, rfl⟩ := hrow
  have refs : ∀ r ∈ f.evidenceRefs, Decodes evidenceOf r := fun r hr =>
    evidence_decodes (normalElems_iff.mp readable.evidence _ (List.mem_map_of_mem hr))
  obtain ⟨items, loads, decoded⟩ := tupleOf_dumped written refs
  rw [factOfRow]
  simp only [plainOptJson_column readable.observed cast, dependencyState_stored, loads, decoded,
    ok_bind, pure_eq_ok]

omit [Engine] in
/-- What an insert adds, and to what. -/
lemma insertFact_ok {db db' : Store} {row : FactRow} (h : insertFact db row = .ok db') :
    db' = { db with facts := db.facts ++ [row] } ∧ Fresh FactRow.id db.facts row ∧
      Fresh FactRow.idempotencyKey db.facts row ∧
        Fresh (fun r => (r.dependencyKey, r.factVersion)) db.facts row := by
  simp only [insertFact, bind_eq_ok, ensure_eq_ok, exists_unit, pure_eq_ok, Except.ok.injEq] at h
  obtain ⟨-, -, -, -, ⟨id, key, version⟩, -, rfl⟩ := h
  exact ⟨rfl, id, key, version⟩

end

/-! ### What is read -/

section
variable {rows : List FactRow} {key : String} {row : FactRow}

/-- The row that is kept has the highest version of its key. -/
lemma newestRow_some (h : newestRow rows key = some row) : row ∈ rows ∧ row.dependencyKey = key ∧
    ∀ r ∈ rows, r.dependencyKey = key → r.factVersion ≤ row.factVersion := by
  have mem := mem_sortedBy.mp (List.mem_of_getLast? h)
  obtain ⟨stored, same⟩ := List.mem_filter.mp mem
  refine ⟨stored, of_decide_eq_true same, fun r hr hk => ?_⟩
  have other : r ∈ sortedBy FactRow.factVersion (rows.filter fun r => r.dependencyKey = key) :=
    mem_sortedBy.mpr (List.mem_filter.mpr ⟨hr, decide_eq_true hk⟩)
  have ordered := @sortedBy_pairwise _ _ _ FactRow.factVersion
    (rows.filter fun r => r.dependencyKey = key)
  obtain ⟨l, e⟩ := List.getLast?_eq_some_iff.mp h
  rw [e] at other ordered
  rcases List.mem_append.mp other with before | last
  · exact (List.pairwise_append.mp ordered).2.2 r before row (List.mem_singleton.mpr rfl)
  · rw [List.mem_singleton.mp last]

/-- A key has no row only when nothing was stored under it. -/
lemma newestRow_none : newestRow rows key = none ↔ ∀ r ∈ rows, r.dependencyKey ≠ key := by
  rw [newestRow, List.getLast?_eq_none_iff, ← List.length_eq_zero_iff, length_sortedBy,
    List.length_eq_zero_iff, List.filter_eq_nil_iff]
  simp

end

/-- The kept rows are those of the keys that have any, in the order of the keys. -/
lemma newestRow_keys {rows : List FactRow} {keys : List String} :
    (keys.filterMap (newestRow rows)).map FactRow.dependencyKey =
      keys.filter fun key => ∃ r ∈ rows, r.dependencyKey = key := by
  induction keys with
  | nil => rfl
  | cons key keys ih =>
    cases h : newestRow rows key with
    | none =>
      have absent : ¬∃ r ∈ rows, r.dependencyKey = key :=
        fun ⟨r, hr, hk⟩ => newestRow_none.mp h r hr hk
      rw [List.filterMap_cons_none h, ih, List.filter_cons_of_neg (by simpa using absent)]
    | some row =>
      obtain ⟨stored, same, -⟩ := newestRow_some h
      have present : ∃ r ∈ rows, r.dependencyKey = key := ⟨row, stored, same⟩
      rw [List.filterMap_cons_some h, List.map_cons, ih, same,
        List.filter_cons_of_pos (by simpa using present)]

section
variable [Engine] {fs : List DependencyFact} {db : Store}

/-- The store after a sequence of appends that all went through, and the facts that were stored by
them; a call that repeats a stored fact stores nothing. -/
inductive FactRun : List DependencyFact → Store → Prop
  | start {db : Store} (empty : db.facts = []) : FactRun [] db
  | stored {fs db f id db'} (run : FactRun fs db)
      (append : appendDependencyFact db f = .ok (id, db')) (new : db'.facts ≠ db.facts) :
      FactRun (fs ++ [f]) db'
  | repeated {fs db f id db'} (run : FactRun fs db)
      (append : appendDependencyFact db f = .ok (id, db')) (same : db'.facts = db.facts) :
      FactRun fs db'

/-- The rows are the stored facts, in order, and no key has a version twice. -/
lemma FactRun.rows (run : FactRun fs db) :
    List.Forall₂ (fun f row => validateDependencyFact f = .ok () ∧ FactStored f row) fs db.facts ∧
      (db.facts.map fun r => (r.dependencyKey, r.factVersion)).Nodup := by
  induction run with
  | start empty =>
    rw [empty]
    exact ⟨.nil, List.nodup_nil⟩
  | stored run append new ih =>
    obtain ⟨valid, ⟨rfl, -⟩ | ⟨-, -, row, stored, insert⟩⟩ := appendDependencyFact_ok append
    · exact absurd rfl new
    · obtain ⟨rfl, -, -, fresh⟩ := insertFact_ok insert
      refine ⟨List.rel_append ih.1 (.cons ⟨valid, stored⟩ .nil), ?_⟩
      rw [List.map_append, List.map_singleton, List.nodup_append]
      refine ⟨ih.2, List.nodup_singleton _, ?_⟩
      intro a ha b hb e
      obtain ⟨r, hr, rfl⟩ := List.mem_map.mp ha
      exact fresh r hr (e.trans (List.mem_singleton.mp hb))
  | repeated run append same ih => rwa [same]

omit [Engine] in
/-- Rows of one key and one version are one row. -/
lemma row_unique {rows : List FactRow}
    (nodup : (rows.map fun r => (r.dependencyKey, r.factVersion)).Nodup) {r r' : FactRow}
    (hr : r ∈ rows) (hr' : r' ∈ rows) (key : r.dependencyKey = r'.dependencyKey)
    (version : r.factVersion = r'.factVersion) : r = r' :=
  List.inj_on_of_nodup_map nodup hr hr' (Prod.ext key version)

/-- In every run whose stored facts are readable, a query returns the stored fact of highest version
for every key that has one. -/
theorem getDependencyFacts_run {keys : List String} (run : FactRun fs db)
    (ids : ∀ f ∈ fs, CanonicalIds f) (readable : ∀ f ∈ fs, Readable f)
    (sorted : keys.Pairwise (· < ·)) :
    ∃ facts, getDependencyFacts db keys = .ok facts ∧
      facts.map DependencyFact.dependencyKey =
        keys.filter (fun key => ∃ f ∈ fs, f.dependencyKey = key) ∧
      ∀ f ∈ facts, f ∈ fs ∧
        ∀ g ∈ fs, g.dependencyKey = f.dependencyKey → g ≠ f → g.factVersion < f.factVersion := by
  obtain ⟨rows, nodup⟩ := run.rows
  -- every row is that of a fact of the run, and is decoded as it
  have source : ∀ row ∈ db.facts, ∃ f ∈ fs, validateDependencyFact f = .ok () ∧ FactStored f row ∧
      factOfRow row = .ok f := by
    intro row hr
    obtain ⟨f, hf, valid, stored⟩ := forall₂_mem_right rows row hr
    exact ⟨f, hf, valid, stored, stored.read (readable f hf) (ids f hf)⟩
  have kept : ∀ row ∈ keys.filterMap (newestRow db.facts), row ∈ db.facts ∧
      ∀ r ∈ db.facts, r.dependencyKey = row.dependencyKey → r.factVersion ≤ row.factVersion := by
    intro row hr
    obtain ⟨key, -, h⟩ := List.mem_filterMap.mp hr
    obtain ⟨stored, rfl, highest⟩ := newestRow_some h
    exact ⟨stored, highest⟩
  have sourced := fun row hr => source row (kept row hr).1
  obtain ⟨facts, decoded⟩ := mapAll_ok fun row hr => (sourced row hr).imp fun f h => h.2.2.2
  -- a row that is read is the row of the fact that is returned for it
  have returned : List.Forall₂ (fun row f => f ∈ fs ∧ validateDependencyFact f = .ok () ∧
      FactStored f row) (keys.filterMap (newestRow db.facts)) facts := by
    refine ((List.forall₂_and_left _ _).mpr ⟨sourced, mapAll_eq_ok.mp decoded⟩).imp ?_
    rintro row f ⟨⟨f', mem, valid, stored, read⟩, read'⟩
    rw [read] at read'
    cases read'
    exact ⟨mem, valid, stored⟩
  have valid : forAll validateDependencyFact facts = .ok () := by
    refine forAll_eq_ok.mpr fun f hf => ?_
    obtain ⟨row, -, -, h, -⟩ := forall₂_mem_right returned f hf
    exact h
  have columns : (keys.filterMap (newestRow db.facts)).map FactRow.dependencyKey =
      facts.map DependencyFact.dependencyKey := by
    rw [← List.forall₂_eq_eq_eq, List.forall₂_map_left_iff, List.forall₂_map_right_iff]
    exact returned.imp fun row f h => h.2.2.columns.1
  have present : (fun key => decide (∃ r ∈ db.facts, r.dependencyKey = key)) =
      fun key => decide (∃ f ∈ fs, f.dependencyKey = key) := by
    funext key
    refine decide_eq_decide.mpr ⟨?_, ?_⟩
    · rintro ⟨row, hr, rfl⟩
      obtain ⟨f, hf, -, stored, -⟩ := source row hr
      exact ⟨f, hf, stored.columns.1.symm⟩
    · rintro ⟨f, hf, rfl⟩
      obtain ⟨row, hr, -, stored⟩ := forall₂_mem_left rows f hf
      exact ⟨row, hr, stored.columns.1⟩
  have unique : keys = sortedBy id keys.dedup := by
    have nodup : keys.Nodup := sorted.imp ne_of_lt
    rw [List.dedup_eq_self.mpr nodup]
    exact (sortedBy_eq_self (sorted.imp le_of_lt)).symm
  refine ⟨facts, ?_, ?_, ?_⟩
  · simp only [getDependencyFacts, ensure_pos unique, decoded, valid, ok_bind, pure_eq_ok]
  · rw [← columns, newestRow_keys, present]
  · intro f hf
    obtain ⟨row, hr, mem, -, stored⟩ := forall₂_mem_right returned f hf
    obtain ⟨inStore, highest⟩ := kept row hr
    refine ⟨mem, fun g hg key ne => ?_⟩
    obtain ⟨row', hr', -, stored'⟩ := forall₂_mem_left rows g hg
    obtain ⟨keyColumn, versionColumn, -⟩ := stored.columns
    obtain ⟨keyColumn', versionColumn', -⟩ := stored'.columns
    have same : row'.dependencyKey = row.dependencyKey := by rw [keyColumn', key, keyColumn]
    have bound := highest row' hr' same
    rw [versionColumn', versionColumn] at bound
    -- two facts of one key and one version are one row
    refine lt_of_le_of_ne bound fun version => ne ?_
    have one := row_unique nodup hr' inStore same (by rw [versionColumn', version, versionColumn])
    have readF := stored.read (readable f mem) (ids f mem)
    have readG := stored'.read (readable g hg) (ids g hg)
    rw [one, readF] at readG
    exact (Except.ok.inj readG).symm

/-- A first fact with an observation. -/
def firstFact (text digest : String) : DependencyFact where
  factId := "00000000-0000-0000-0000-000000000001"
  dependencyKey := "k"
  factVersion := 1
  priorFactId := none
  priorFactVersion := none
  subjectRef := "s"
  predicate := "p"
  observedValueJson := some text
  state := .true
  snapshotDigest := zeroDigest
  evidenceRefs := []
  recordedBy := "r"
  factDigest := digest
  idempotencyKey := "i"

omit [Engine] in
lemma firstFact_ids {text digest : String} : CanonicalIds (firstFact text digest) :=
  ⟨(by decide : isUuid "00000000-0000-0000-0000-000000000001" = true), nofun⟩

/-- The row of the first fact. -/
def firstRow (column digest : String) : FactRow where
  id := "00000000-0000-0000-0000-000000000001"
  dependencyKey := "k"
  factVersion := 1
  priorFactId := none
  priorFactVersion := none
  subjectRef := "s"
  predicate := "p"
  observedValue := some column
  state := .true
  snapshotDigest := zeroDigest
  evidenceRefs := "[]"
  recordedBy := "r"
  factDigest := digest
  idempotencyKey := "i"

/-- A first fact is stored when its observation is JSON. -/
lemma firstFact_stored {text column : String} (cast : castJsonb text = .ok column) :
    ∃ digest, appendDependencyFact {} (firstFact text digest) =
        .ok ("00000000-0000-0000-0000-000000000001", { facts := [firstRow column digest] }) := by
  obtain ⟨digest, hd⟩ := factRecordDigest_ok (firstFact text "")
  have record : factRecordDigest (firstFact text digest) = .ok digest := hd
  have written : dump (toValue ([] : List EvidenceRef)) = .ok "[]" := rfl
  have valid : validateDependencyFact (firstFact text digest) = .ok () := by
    rw [validateDependencyFact, record, ok_bind]
    have same : (firstFact text digest).factDigest = digest := rfl
    rw [ensure_pos same, ok_bind]
    exact ensure_pos ⟨fun _ => ⟨rfl, rfl⟩, fun _ => rfl⟩
  have id : isUuid "00000000-0000-0000-0000-000000000001" = true := by decide
  have columns : castFact { firstRow text digest with observedValue := some text } =
      .ok (firstRow column digest) := by
    simp only [castFact, firstRow, castUuid_self id, castOptUuid, castOptJsonb, cast,
      castJsonb_dump written, ok_bind, pure_eq_ok]
  have hex := isDigestLength_of_hex (canonicalSha256_hex hd)
  have insert : insertFact {} (firstRow column digest) =
      .ok { facts := [firstRow column digest] } := by
    have none (r : FactRow) : r ∉ ([] : List FactRow) := List.not_mem_nil
    simp only [insertFact, bind_eq_ok, ensure_eq_ok, exists_unit, pure_eq_ok]
    have resolved : (firstRow column digest).state ≠ .unresolved := fun same => by cases same
    exact ⟨Nat.one_pos, .inr ⟨resolved, Option.some_ne_none _⟩, ⟨jsonbTypeof_tuple written,
      isDigestLength_of_hex (d := zeroDigest) (by decide), hex⟩, .inl ⟨rfl, rfl, rfl⟩,
      ⟨fun r hr => absurd hr (none r), fun r hr => absurd hr (none r),
        fun r hr => absurd hr (none r)⟩, (fun _ h => by cases h), rfl⟩
  refine ⟨digest, ?_⟩
  rw [appendDependencyFact, valid, ok_bind]
  have args : factArgs (firstFact text digest) =
      .ok { firstRow text digest with observedValue := some text } := rfl
  simp only [List.find?_nil, args, ok_bind, columns, insert, pure_eq_ok]
  rfl

/-- A number is stored as an observation. -/
lemma firstFact_run (n : Number) : ∃ digest, FactRun [firstFact (String.ofList n.print) digest]
    { facts := [firstRow (String.ofList n.print) digest] } := by
  have parsed : Json.parse (String.ofList n.print) = some (.num n) := Json.parse_print (.num n)
  have cast : castJsonb (String.ofList n.print) = .ok (String.ofList n.print) := by
    rw [castJsonb, parsed]
    rfl
  obtain ⟨digest, append⟩ := firstFact_stored cast
  exact ⟨digest, .stored (.start rfl) append (List.cons_ne_nil _ _)⟩

end

/-- A fact with a whole observation is read back. -/
theorem getDependencyFacts_run_one :
    let _ := asciiEngine
    ∃ db facts, getDependencyFacts db ["k"] = .ok facts ∧
      facts.map DependencyFact.dependencyKey = ["k"] := by
  intro _
  obtain ⟨digest, run⟩ := firstFact_run ⟨false, 1, [], none⟩
  obtain ⟨facts, read, keys, -⟩ := @getDependencyFacts_run _ _ _ ["k"] run
    (fun f hf => by
      cases List.mem_singleton.mp hf
      exact firstFact_ids)
    (fun f hf => by
      cases List.mem_singleton.mp hf
      refine ⟨?_, trivial⟩
      rintro text ⟨⟩
      exact ⟨_, Json.parse_print (.num _), by simp [Json.parts, Distinct], by
        simp [Json.parts]
        decide +kernel, by decide +kernel⟩)
    (List.pairwise_singleton _ _)
  exact ⟨_, facts, read, keys.trans (by simp [firstFact])⟩

/-- A fact whose observation ends in a zero after the point is stored and not read back. -/
theorem getDependencyFacts_point :
    let _ := asciiEngine
    ∃ f db, FactRun [f] db ∧ CanonicalIds f ∧ f.observedValueJson = some "1.0" ∧
      getDependencyFacts db [f.dependencyKey] ≠ .ok [f] := by
  intro _
  obtain ⟨digest, run⟩ := firstFact_run ⟨false, 1, [0], none⟩
  refine ⟨_, _, run, firstFact_ids, rfl, fun read => ?_⟩
  have newest (row : FactRow) : [row.dependencyKey].filterMap (newestRow [row]) = [row] := by
    simp [newestRow]
  simp only [getDependencyFacts, bind_eq_ok, exists_unit, pure_eq_ok, Except.ok.injEq] at read
  obtain ⟨-, _, decoded, -, rfl⟩ := read
  have row := mapAll_eq_ok.mp decoded
  rw [show (firstFact _ digest).dependencyKey = (firstRow _ digest).dependencyKey from rfl,
    newest] at row
  have observed := (List.forall₂_cons.mp row).1
  simp only [factOfRow, bind_eq_ok, pure_eq_ok, Except.ok.injEq] at observed
  obtain ⟨o, ho, _, -, _, -, _, -, e⟩ := observed
  have value : o = some "1.0" := congrArg DependencyFact.observedValueJson e
  simp only [firstRow, plainOptJson, bind_eq_ok, pure_eq_ok, Except.ok.injEq] at ho
  obtain ⟨text, rendered, rfl⟩ := ho
  have written : text = String.ofList (decimalChars ⟨false, 1, [0], none⟩) :=
    ((plainJson_dumps (j := .num ⟨false, 1, [0], none⟩) (by simp [Json.parts, Distinct])).mp rendered).2
  have digits : decimalChars ⟨false, 1, [0], none⟩ = ['1'] := by decide +kernel
  rw [written, digits] at value
  exact absurd (Option.some.inj value) (by decide)

end GAM
