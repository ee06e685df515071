import GAM.Consequences.Replay
import GAM.Memory.DependencyFacts
import GAM.System.Growth
import GAM.System.Progress

/-!
# Repeated appends

The five appending operations of `AppMemory` over whole runs. Each looks a stored row up (a first
append by the identifiers of its proposal and its evaluation, a re-evaluation by its own identifier, the
others by their idempotency key) and answers a repeated call from it. As rows stay where they are, the
answer does not change with what is appended later.
-/

namespace GAM
open Lib

/-- A call of one of the five operations. -/
inductive Append where
  | proposal (p : Proposal) (s : EvaluationSnapshot) (r : EvaluationResult)
  | reEvaluation (s : EvaluationSnapshot) (r : EvaluationResult)
  | dependencyFact (f : DependencyFact)
  | consequence (r : ConsequenceReport)
  | toolEvidence (e : ToolEvidence)

/-- Every table of the memory is a prefix of the table of a later one. -/
structure Store.Grows (db later : Store) : Prop where
  database : db.toDatabase.Grows later.toDatabase
  facts : db.facts <+: later.facts
  consequences : db.consequences <+: later.consequences
  toolEvidence : db.toolEvidence <+: later.toolEvidence

@[refl] lemma Store.Grows.refl (db : Store) : db.Grows db :=
  ⟨.refl _, List.prefix_rfl, List.prefix_rfl, List.prefix_rfl⟩

@[trans] lemma Store.Grows.trans {a b c : Store} (h : a.Grows b) (g : b.Grows c) : a.Grows c where
  database := h.database.trans g.database
  facts := h.facts.trans g.facts
  consequences := h.consequences.trans g.consequences
  toolEvidence := h.toolEvidence.trans g.toolEvidence

/-! ### A lookup that answers -/

section
variable [Engine] {db db' later : Database} {s : EvaluationSnapshot} {r : EvaluationResult}

/-- A first append whose two rows are stored. -/
lemma firstAppend_stored {p : Proposal} {id evaluationId : String} {row : ProposalRow}
    {evaluation : EvaluationRow} (hid : castUuid p.proposalId = .ok id)
    (he : castUuid r.evaluationId = .ok evaluationId)
    (found : db.proposals.find? (fun row => row.id = id) = some row)
    (digest : row.proposalDigest = p.proposalDigest)
    (evaluated : db.evaluations.find? (fun row => row.id = evaluationId ∧ row.proposalId = id) =
      some evaluation) (trace : evaluation.traceDigest = r.traceDigest) :
    firstAppend db p s r = .ok ((p.proposalId, r.evaluationId), db) := by
  have matched : row.proposalDigest = p.proposalDigest ∧
      (some evaluation).map EvaluationRow.traceDigest = some r.traceDigest :=
    ⟨digest, congrArg some trace⟩
  rw [firstAppend, hid, ok_bind]
  simp only [found, he, ok_bind, evaluated, ensure_pos matched]
  rfl

/-- A first append that went through is answered from its rows. -/
lemma firstAppend_again {p : Proposal} {ids : String × String}
    (h : firstAppend db p s r = .ok (ids, db')) (grown : db'.Grows later) :
    firstAppend later p s r = .ok (ids, later) := by
  simp only [firstAppend, bind_eq_ok] at h
  obtain ⟨id, hid, h⟩ := h
  split at h
  · rename_i row found
    simp only [bind_eq_ok, ensure_eq_ok, exists_unit, pure_eq_ok, Except.ok.injEq,
      Prod.mk.injEq] at h
    obtain ⟨evaluationId, he, ⟨digest, matched⟩, rfl, rfl⟩ := h
    obtain ⟨evaluation, evaluated, trace⟩ := Option.map_eq_some_iff.mp matched
    exact firstAppend_stored hid he (grown.proposals.find?_eq_some found) digest
      (grown.evaluations.find?_eq_some evaluated) trace
  · rename_i absent
    simp only [bind_eq_ok, pure_eq_ok, Except.ok.injEq, Prod.mk.injEq] at h
    obtain ⟨args, ha, row, hc, mid, hi, _, hs, rfl, rfl⟩ := h
    obtain ⟨evaluation, he, written⟩ := storeEvaluation_ok hs
    have stored := isProposalOf ha hc
    have same : row.id = id := Except.ok.inj (stored.id.symm.trans hid)
    have home : evaluation.proposalId = id := Except.ok.inj (written.proposalId.symm.trans hid)
    have fresh := (insertEvaluation_facts he).1
    cases insertProposal_eq hi
    cases insertEvaluation_eq he
    refine firstAppend_stored hid written.id ?_ stored.digest ?_ written.trace
    · refine find_appended (fun q hq => ?_) (decide_eq_true same) grown.proposals
      simpa using List.find?_eq_none.mp absent q hq
    · refine find_appended (fun q hq => ?_) (decide_eq_true ⟨rfl, home⟩) grown.evaluations
      exact decide_eq_false fun e => fresh q hq e.1

/-- A first append that went through has its evaluation stored. -/
lemma firstAppend_recorded {p : Proposal} {ids : String × String}
    (h : firstAppend db p s r = .ok (ids, db')) :
    ∃ row ∈ db'.evaluations, castUuid r.evaluationId = .ok row.id ∧ row.traceDigest = r.traceDigest := by
  simp only [firstAppend, bind_eq_ok] at h
  obtain ⟨id, -, h⟩ := h
  split at h
  · simp only [bind_eq_ok, ensure_eq_ok, exists_unit, pure_eq_ok, Except.ok.injEq,
      Prod.mk.injEq] at h
    obtain ⟨evaluationId, he, ⟨-, matched⟩, -, rfl⟩ := h
    obtain ⟨row, found, trace⟩ := Option.map_eq_some_iff.mp matched
    have named := List.find?_some found
    rw [decide_eq_true_eq] at named
    exact ⟨row, List.mem_of_find?_eq_some found, named.1 ▸ he, trace⟩
  · simp only [bind_eq_ok, pure_eq_ok, Except.ok.injEq, Prod.mk.injEq] at h
    obtain ⟨_, -, _, -, mid, -, _, hs, -, rfl⟩ := h
    obtain ⟨row, insert, written⟩ := storeEvaluation_ok hs
    cases insertEvaluation_eq insert
    exact ⟨row, List.mem_append_right _ List.mem_cons_self, written.id, written.trace⟩

/-- A re-evaluation whose row is stored. -/
lemma nextAppend_stored {prior : PriorEvaluationTrace} {id : String} {evaluation : EvaluationRow}
    (hid : castUuid r.evaluationId = .ok id)
    (found : db.evaluations.find? (fun row => row.id = id) = some evaluation)
    (trace : evaluation.traceDigest = r.traceDigest) :
    nextAppend db s prior r = .ok ((s.proposal.proposalId, r.evaluationId), db) := by
  rw [nextAppend, hid, ok_bind]
  simp only [found, ensure_pos trace]
  rfl

/-- A re-evaluation that went through is answered from its row. -/
lemma nextAppend_again {prior : PriorEvaluationTrace} {ids : String × String}
    (h : nextAppend db s prior r = .ok (ids, db')) (grown : db'.Grows later) :
    nextAppend later s prior r = .ok (ids, later) := by
  simp only [nextAppend, bind_eq_ok] at h
  obtain ⟨id, hid, h⟩ := h
  split at h
  · rename_i row found
    simp only [bind_eq_ok, ensure_eq_ok, exists_unit, pure_eq_ok, Except.ok.injEq,
      Prod.mk.injEq] at h
    obtain ⟨trace, rfl, rfl⟩ := h
    exact nextAppend_stored hid (grown.evaluations.find?_eq_some found) trace
  · rename_i absent
    simp only [bind_eq_ok, ensure_eq_ok, exists_unit, pure_eq_ok, Except.ok.injEq,
      Prod.mk.injEq] at h
    obtain ⟨_, -, -, _, hs, rfl, rfl⟩ := h
    obtain ⟨evaluation, he, written⟩ := storeEvaluation_ok hs
    have same : evaluation.id = id := Except.ok.inj (written.id.symm.trans hid)
    cases insertEvaluation_eq he
    refine nextAppend_stored hid ?_ written.trace
    refine find_appended (fun q hq => ?_) (decide_eq_true same) grown.evaluations
    simpa using List.find?_eq_none.mp absent q hq

/-- A re-evaluation that went through has its evaluation stored. -/
lemma nextAppend_recorded {prior : PriorEvaluationTrace} {ids : String × String}
    (h : nextAppend db s prior r = .ok (ids, db')) :
    ∃ row ∈ db'.evaluations, castUuid r.evaluationId = .ok row.id ∧ row.traceDigest = r.traceDigest := by
  simp only [nextAppend, bind_eq_ok] at h
  obtain ⟨id, hid, h⟩ := h
  split at h
  · rename_i row found
    simp only [bind_eq_ok, ensure_eq_ok, exists_unit, pure_eq_ok, Except.ok.injEq,
      Prod.mk.injEq] at h
    obtain ⟨trace, -, rfl⟩ := h
    have named := List.find?_some found
    rw [decide_eq_true_eq] at named
    exact ⟨row, List.mem_of_find?_eq_some found, named ▸ hid, trace⟩
  · simp only [bind_eq_ok, ensure_eq_ok, exists_unit, pure_eq_ok, Except.ok.injEq,
      Prod.mk.injEq] at h
    obtain ⟨_, -, -, _, hs, -, rfl⟩ := h
    obtain ⟨row, insert, written⟩ := storeEvaluation_ok hs
    cases insertEvaluation_eq insert
    exact ⟨row, List.mem_append_right _ List.mem_cons_self, written.id, written.trace⟩

/-- A re-evaluation that goes through names its prior, and its operation goes through. -/
lemma appendReEvaluation_body {ids : String × String}
    (h : appendReEvaluation db s r = .ok (ids, db')) :
    ∃ prior, nextAppend db s prior r = .ok (ids, db') ∧
      ∀ db, appendReEvaluation db s r = nextAppend db s prior r := by
  rw [appendReEvaluation, bind_eq_ok] at h
  obtain ⟨_, bound, h⟩ := h
  cases named : s.priorEvaluation with
  | none =>
    rw [named] at h
    cases h
  | some prior =>
    simp only [named, bind_eq_ok] at h
    obtain ⟨_, genealogy, h⟩ := h
    refine ⟨prior, h, fun db => ?_⟩
    rw [appendReEvaluation, bound, ok_bind]
    simp only [named, genealogy, ok_bind]

/-- A first append that goes through passes its checks, and its operation goes through. -/
lemma appendProposalAndEvaluation_body {p : Proposal} {ids : String × String}
    (h : appendProposalAndEvaluation db p s r = .ok (ids, db')) :
    firstAppend db p s r = .ok (ids, db') ∧
      ∀ db, appendProposalAndEvaluation db p s r = firstAppend db p s r := by
  rw [appendProposalAndEvaluation, bind_eq_ok] at h
  obtain ⟨_, bound, h⟩ := h
  rw [bind_eq_ok] at h
  obtain ⟨_, genealogy, h⟩ := h
  refine ⟨h, fun db => ?_⟩
  rw [appendProposalAndEvaluation, bound, ok_bind, genealogy, ok_bind]

end

/-! ### Tables with an idempotency key -/

/-- A table whose rows have an idempotency key and a digest. -/
structure KeyedTable (R : Type) where
  rows : Store → List R
  put : Store → List R → Store
  key : R → String
  digest : R → String
  id : R → String

/-- The table `dependency_facts`. -/
def factTable : KeyedTable FactRow where
  rows := Store.facts
  put := fun db l => { db with facts := l }
  key := FactRow.idempotencyKey
  digest := FactRow.factDigest
  id := FactRow.id

/-- The table `consequence_reports`. -/
def consequenceTable : KeyedTable ConsequenceRow where
  rows := Store.consequences
  put := fun db l => { db with consequences := l }
  key := ConsequenceRow.idempotencyKey
  digest := ConsequenceRow.reportDigest
  id := ConsequenceRow.id

/-- The table `tool_evidence`. -/
def toolEvidenceTable : KeyedTable ToolEvidenceRow where
  rows := Store.toolEvidence
  put := fun db l => { db with toolEvidence := l }
  key := ToolEvidenceRow.idempotencyKey
  digest := ToolEvidenceRow.evidenceDigest
  id := ToolEvidenceRow.id

/-- The identifier that a call returned, and the one that a replay reads from the row: the same, or
what the UUID column keeps of it. -/
def SameUuid [Engine] (returned stored : String) : Prop :=
  stored = returned ∨ castUuid returned = .ok stored

/-- What the three operations do with a valid record of key `k`, digest `d` and identifier `own`: a row
with the key answers or refuses, and without one `insert` appends a row. -/
def putOnce {R : Type} (T : KeyedTable R) (k d own : String) (conflict : PyError)
    (insert : Store → Except PyError Store) (db : Store) : Except PyError (String × Store) :=
  match (T.rows db).find? fun r => T.key r = k with
  | some existing => do
    ensure (T.digest existing = d) conflict
    return (T.id existing, db)
  | none => do
    let db ← insert db
    return (own, db)

section
variable {R : Type} {T : KeyedTable R} {k d own i : String} {conflict : PyError}
variable {insert : Store → Except PyError Store} {db db' later : Store} {row : R}

/-- A key that is stored is answered with its row, or refused. -/
lemma putOnce_some (found : (T.rows db).find? (fun r => T.key r = k) = some row) :
    putOnce T k d own conflict insert db = (do
      ensure (T.digest row = d) conflict
      return (T.id row, db)) := by
  rw [putOnce, found]

/-- A key that is not stored is inserted. -/
lemma putOnce_none (found : (T.rows db).find? (fun r => T.key r = k) = none) :
    putOnce T k d own conflict insert db = (do
      let db ← insert db
      return (own, db)) := by
  rw [putOnce, found]

/-- A key is not used again with another digest. -/
lemma putOnce_conflict (keys : ((T.rows db).map T.key).Nodup) (mem : row ∈ T.rows db)
    (key : T.key row = k) (digest : T.digest row ≠ d) :
    putOnce T k d own conflict insert db = .error conflict := by
  subst key
  rw [putOnce_some (find_key keys mem), ensure_neg digest, error_bind]

variable [Engine]

/-- An insert appends one row, with this key and digest and the identifier in its column. -/
def Inserts (T : KeyedTable R) (k d own : String) (insert : Store → Except PyError Store) : Prop :=
  ∀ {db db'}, insert db = .ok db' → ∃ row, db' = T.put db (T.rows db ++ [row]) ∧ T.key row = k ∧
    T.digest row = d ∧ castUuid own = .ok (T.id row)

/-- A call that goes through leaves the store as it is, or appends a row with a new key. -/
lemma putOnce_ok (h : Inserts T k d own insert)
    (ok : putOnce T k d own conflict insert db = .ok (i, db')) :
    (db' = db ∧ ∃ row, (T.rows db).find? (fun r => T.key r = k) = some row ∧ T.digest row = d ∧
        i = T.id row) ∨
      ((∀ r ∈ T.rows db, T.key r ≠ k) ∧ i = own ∧ ∃ row, db' = T.put db (T.rows db ++ [row]) ∧
        T.key row = k ∧ T.digest row = d ∧ castUuid own = .ok (T.id row)) := by
  rw [putOnce] at ok
  split at ok
  · rename_i row found
    obtain ⟨_, digest, ok⟩ := bind_eq_ok.mp ok
    cases ok
    exact .inl ⟨rfl, row, found, ensure_eq_ok.mp digest, rfl⟩
  · rename_i absent
    obtain ⟨_, insert, ok⟩ := bind_eq_ok.mp ok
    cases ok
    refine .inr ⟨fun r hr => ?_, rfl, h insert⟩
    simpa using List.find?_eq_none.mp absent r hr

/-- A call that went through is answered from its row. -/
lemma putOnce_again (h : Inserts T k d own insert) (put : ∀ db l, T.rows (T.put db l) = l)
    (ok : putOnce T k d own conflict insert db = .ok (i, db'))
    (grown : T.rows db' <+: T.rows later) :
    ∃ stored, putOnce T k d own conflict insert later = .ok (stored, later) ∧ SameUuid i stored := by
  have answer : ∀ row, (T.rows later).find? (fun r => T.key r = k) = some row → T.digest row = d →
      putOnce T k d own conflict insert later = .ok (T.id row, later) := by
    intro row found digest
    rw [putOnce_some found, ensure_pos digest, ok_bind, pure_eq_ok]
  obtain ⟨rfl, row, found, digest, rfl⟩ | ⟨unused, rfl, row, rfl, key, digest, id⟩ := putOnce_ok h ok
  · exact ⟨T.id row, answer row (grown.find?_eq_some found) digest, .inl rfl⟩
  · rw [put] at grown
    refine ⟨T.id row, answer row (find_appended (fun r hr => ?_) ?_ grown) digest, .inr id⟩
    · exact decide_eq_false (unused r hr)
    · exact decide_eq_true key

/-- The keys stay distinct. -/
lemma putOnce_keys (h : Inserts T k d own insert) (put : ∀ db l, T.rows (T.put db l) = l)
    (ok : putOnce T k d own conflict insert db = .ok (i, db'))
    (keys : ((T.rows db).map T.key).Nodup) : ((T.rows db').map T.key).Nodup := by
  obtain ⟨rfl, -⟩ | ⟨unused, -, row, rfl, key, -, -⟩ := putOnce_ok h ok
  · exact keys
  · rw [put]
    exact keys_append keys (key ▸ unused)

end

/-! ### The three operations -/

section
variable [ColumnTypes] {db db' : Store}

/-- A fact as it is inserted. -/
def storeFact (f : DependencyFact) (db : Store) : Except PyError Store := do
  let args ← factArgs f
  let row ← castFact args
  insertFact db row

/-- `appendDependencyFact` after its check. -/
def putFact (f : DependencyFact) : Store → Except PyError (String × Store) :=
  putOnce factTable f.idempotencyKey f.factDigest f.factId
    (.conflict "dependency idempotency key conflicts") (storeFact f)

/-- A dependency fact is validated and put. -/
lemma appendDependencyFact_eq (db : Store) (f : DependencyFact) :
    appendDependencyFact db f = (do validateDependencyFact f; putFact f db) := by
  cases found : db.facts.find? (fun r => r.idempotencyKey = f.idempotencyKey) with
  | none =>
    rw [putFact, putOnce_none found, appendDependencyFact]
    simp only [found, storeFact, bind_assoc]
  | some row =>
    rw [putFact, putOnce_some found, appendDependencyFact]
    simp only [found]
    rfl

/-- Storing a fact inserts its row. -/
lemma fact_inserts (f : DependencyFact) :
    Inserts factTable f.idempotencyKey f.factDigest f.factId (storeFact f) := by
  intro db db' h
  simp only [storeFact, bind_eq_ok] at h
  obtain ⟨args, hargs, row, hrow, insert⟩ := h
  have stored : FactStored f row := ⟨args, hargs, hrow⟩
  obtain ⟨-, -, digest, key⟩ := stored.columns
  refine ⟨row, (insertFact_ok insert).1, key, digest, ?_⟩
  simp only [factArgs, bind_eq_ok, pure_eq_ok, Except.ok.injEq] at hargs
  obtain ⟨_, -, rfl⟩ := hargs
  simp only [castFact, bind_eq_ok, pure_eq_ok, Except.ok.injEq] at hrow
  obtain ⟨id, hid, _, -, _, -, _, -, rfl⟩ := hrow
  exact hid

/-- A report as it is inserted. -/
def storeConsequence (r : ConsequenceReport) (db : Store) : Except PyError Store := do
  let row ← castConsequence (consequenceArgs r)
  insertConsequence db row

/-- `appendConsequence` after its check. -/
def putConsequence (r : ConsequenceReport) : Store → Except PyError (String × Store) :=
  putOnce consequenceTable r.idempotencyKey r.reportDigest r.consequenceId
    (.conflict "consequence idempotency key conflicts") (storeConsequence r)

/-- A consequence is validated and put. -/
lemma appendConsequence_eq (db : Store) (r : ConsequenceReport) :
    appendConsequence db r = (do validateReport r; putConsequence r db) := by
  cases found : db.consequences.find? (fun row => row.idempotencyKey = r.idempotencyKey) with
  | none =>
    rw [putConsequence, putOnce_none found, appendConsequence]
    simp only [found, storeConsequence, bind_assoc]
  | some row =>
    rw [putConsequence, putOnce_some found, appendConsequence]
    simp only [found]
    rfl

/-- Storing a consequence inserts its row. -/
lemma consequence_inserts (r : ConsequenceReport) :
    Inserts consequenceTable r.idempotencyKey r.reportDigest r.consequenceId
      (storeConsequence r) := by
  intro db db' h
  simp only [storeConsequence, bind_eq_ok] at h
  obtain ⟨row, cast, insert⟩ := h
  refine ⟨row, ?_, ?_⟩
  · simp only [insertConsequence, bind_eq_ok, pure_eq_ok, Except.ok.injEq] at insert
    obtain ⟨_, _, _, _, _, _, _, _, _, _, _, _, rfl⟩ := insert
    rfl
  · simp only [castConsequence, bind_eq_ok, pure_eq_ok, Except.ok.injEq] at cast
    obtain ⟨_, hid, _, -, _, -, _, -, _, -, _, -, _, -, _, -, rfl⟩ := cast
    exact ⟨rfl, rfl, hid⟩

/-- Tool evidence as it is inserted. -/
def storeToolEvidence (e : ToolEvidence) (db : Store) : Except PyError Store := do
  let row ← castToolEvidence (toolEvidenceArgs e)
  insertToolEvidence db row

/-- `appendToolEvidence` after its check. -/
def putToolEvidence (e : ToolEvidence) : Store → Except PyError (String × Store) :=
  putOnce toolEvidenceTable e.idempotencyKey e.evidenceDigest e.evidenceId
    (.conflict "tool evidence idempotency key conflicts") (storeToolEvidence e)

/-- Tool evidence is validated and put. -/
lemma appendToolEvidence_eq (db : Store) (e : ToolEvidence) :
    appendToolEvidence db e = (do validateToolEvidence e; putToolEvidence e db) := by
  cases found : db.toolEvidence.find? (fun row => row.idempotencyKey = e.idempotencyKey) with
  | none =>
    rw [putToolEvidence, putOnce_none found, appendToolEvidence]
    simp only [found, storeToolEvidence, bind_assoc]
  | some row =>
    rw [putToolEvidence, putOnce_some found, appendToolEvidence]
    simp only [found]
    rfl

/-- Storing tool evidence inserts its row. -/
lemma toolEvidence_inserts (e : ToolEvidence) :
    Inserts toolEvidenceTable e.idempotencyKey e.evidenceDigest e.evidenceId
      (storeToolEvidence e) := by
  intro db db' h
  simp only [storeToolEvidence, bind_eq_ok] at h
  obtain ⟨row, cast, insert⟩ := h
  refine ⟨row, ?_, ?_⟩
  · simp only [insertToolEvidence, bind_eq_ok, pure_eq_ok, Except.ok.injEq] at insert
    obtain ⟨_, _, _, _, _, _, _, _, rfl⟩ := insert
    rfl
  · simp only [castToolEvidence, bind_eq_ok, pure_eq_ok, Except.ok.injEq] at cast
    obtain ⟨_, hid, _, -, _, -, _, -, _, -, _, -, rfl⟩ := cast
    exact ⟨rfl, rfl, hid⟩

end

/-! ### Runs -/

section
variable [ColumnTypes]

/-- The operation of a call: the identifiers it returns and the store. -/
def Append.run (db : Store) : Append → Except PyError (List String × Store)
  | .proposal p s r => do
    let ((proposalId, evaluationId), database) ← appendProposalAndEvaluation db.toDatabase p s r
    return ([proposalId, evaluationId], { db with toDatabase := database })
  | .reEvaluation s r => do
    let ((proposalId, evaluationId), database) ← appendReEvaluation db.toDatabase s r
    return ([proposalId, evaluationId], { db with toDatabase := database })
  | .dependencyFact f => do
    let (id, db) ← appendDependencyFact db f
    return ([id], db)
  | .consequence r => do
    let (id, db) ← appendConsequence db r
    return ([id], db)
  | .toolEvidence e => do
    let (id, db) ← appendToolEvidence db e
    return ([id], db)

/-- One step of a run: a call returns or raises, or a transaction of another client commits. -/
inductive AppendStep : Store → Store → Prop
  | returned {db c ids db'} : Append.run db c = .ok (ids, db') → AppendStep db db'
  | raised {db c e} : Append.run db c = .error e → AppendStep db db
  | other {db c database c'} : Runs db.toDatabase c database c' →
      AppendStep db { db with toDatabase := database }

/-- A run of the memory. -/
def AppendRun : Store → Store → Prop := Relation.ReflTransGen AppendStep

/-- The call uses the identity of a stored evaluation or a stored idempotency key with another
digest. -/
def Append.Reuses (db : Store) : Append → Prop
  | .proposal _ _ r | .reEvaluation _ r => ∃ row ∈ db.evaluations,
      castUuid r.evaluationId = .ok row.id ∧ row.traceDigest ≠ r.traceDigest
  | .dependencyFact f => ∃ row ∈ db.facts,
      row.idempotencyKey = f.idempotencyKey ∧ row.factDigest ≠ f.factDigest
  | .consequence r => ∃ row ∈ db.consequences,
      row.idempotencyKey = r.idempotencyKey ∧ row.reportDigest ≠ r.reportDigest
  | .toolEvidence e => ∃ row ∈ db.toolEvidence,
      row.idempotencyKey = e.idempotencyKey ∧ row.evidenceDigest ≠ e.evidenceDigest

variable {db db' later : Store} {c : Append} {ids : List String}

/-- What a call that returns did. -/
lemma Append.run_ok (h : c.run db = .ok (ids, db')) :
    (∃ call database call', Runs db.toDatabase call database call' ∧
        db' = { db with toDatabase := database }) ∨
      (∃ f id, c = .dependencyFact f ∧ ids = [id] ∧ validateDependencyFact f = .ok () ∧
        putFact f db = .ok (id, db')) ∨
      (∃ r id, c = .consequence r ∧ ids = [id] ∧ validateReport r = .ok () ∧
        putConsequence r db = .ok (id, db')) ∨
      ∃ e id, c = .toolEvidence e ∧ ids = [id] ∧ validateToolEvidence e = .ok () ∧
        putToolEvidence e db = .ok (id, db') := by
  cases c with
  | proposal p s r =>
    simp only [run, bind_eq_ok] at h
    obtain ⟨⟨_, database⟩, append, h⟩ := h
    cases h
    exact .inl ⟨_, database, _, .proposed append, rfl⟩
  | reEvaluation s r =>
    simp only [run, bind_eq_ok] at h
    obtain ⟨⟨_, database⟩, append, h⟩ := h
    cases h
    exact .inl ⟨_, database, _, .reevaluated append, rfl⟩
  | dependencyFact f =>
    simp only [run, bind_eq_ok, appendDependencyFact_eq] at h
    obtain ⟨⟨id, _⟩, ⟨_, valid, put⟩, h⟩ := h
    cases h
    exact .inr (.inl ⟨f, id, rfl, rfl, valid, put⟩)
  | consequence r =>
    simp only [run, bind_eq_ok, appendConsequence_eq] at h
    obtain ⟨⟨id, _⟩, ⟨_, valid, put⟩, h⟩ := h
    cases h
    exact .inr (.inr (.inl ⟨r, id, rfl, rfl, valid, put⟩))
  | toolEvidence e =>
    simp only [run, bind_eq_ok, appendToolEvidence_eq] at h
    obtain ⟨⟨id, _⟩, ⟨_, valid, put⟩, h⟩ := h
    cases h
    exact .inr (.inr (.inr ⟨e, id, rfl, rfl, valid, put⟩))

/-- A call only adds rows. -/
lemma Append.run_grows (h : c.run db = .ok (ids, db')) : db.Grows db' := by
  obtain ⟨_, database, _, step, rfl⟩ | ⟨f, _, -, -, -, put⟩ | ⟨r, _, -, -, -, put⟩ |
    ⟨e, _, -, -, -, put⟩ := Append.run_ok h
  · exact ⟨runs_grows step, List.prefix_rfl, List.prefix_rfl, List.prefix_rfl⟩
  · obtain ⟨rfl, -⟩ | ⟨-, -, row, rfl, -⟩ := putOnce_ok (fact_inserts f) put
    · rfl
    · exact ⟨.refl _, List.prefix_append _ _, List.prefix_rfl, List.prefix_rfl⟩
  · obtain ⟨rfl, -⟩ | ⟨-, -, row, rfl, -⟩ := putOnce_ok (consequence_inserts r) put
    · rfl
    · exact ⟨.refl _, List.prefix_rfl, List.prefix_append _ _, List.prefix_rfl⟩
  · obtain ⟨rfl, -⟩ | ⟨-, -, row, rfl, -⟩ := putOnce_ok (toolEvidence_inserts e) put
    · rfl
    · exact ⟨.refl _, List.prefix_rfl, List.prefix_rfl, List.prefix_append _ _⟩

/-- A run only adds rows. -/
lemma AppendRun.grows (h : AppendRun db later) : db.Grows later := by
  induction h with
  | refl => rfl
  | tail _ step grown =>
    cases step with
    | returned ok => exact grown.trans (Append.run_grows ok)
    | raised _ => exact grown
    | other step =>
      exact grown.trans ⟨runs_grows step, List.prefix_rfl, List.prefix_rfl, List.prefix_rfl⟩

/-- A call that returned is answered by every store that has its rows. -/
lemma Append.again (h : c.run db = .ok (ids, db')) (grown : db'.Grows later) :
    ∃ stored, c.run later = .ok (stored, later) ∧ List.Forall₂ SameUuid ids stored := by
  cases c with
  | proposal p s r =>
    simp only [run, bind_eq_ok] at h
    obtain ⟨⟨⟨proposalId, evaluationId⟩, database⟩, append, h⟩ := h
    cases h
    obtain ⟨first, body⟩ := appendProposalAndEvaluation_body append
    refine ⟨[proposalId, evaluationId], ?_, .cons (.inl rfl) (.cons (.inl rfl) .nil)⟩
    rw [run, body, firstAppend_again first grown.database]
    rfl
  | reEvaluation s r =>
    simp only [run, bind_eq_ok] at h
    obtain ⟨⟨⟨proposalId, evaluationId⟩, database⟩, append, h⟩ := h
    cases h
    obtain ⟨prior, next, body⟩ := appendReEvaluation_body append
    refine ⟨[proposalId, evaluationId], ?_, .cons (.inl rfl) (.cons (.inl rfl) .nil)⟩
    rw [run, body, nextAppend_again next grown.database]
    rfl
  -- the other three tables answer a stored key with its row
  | dependencyFact f =>
    simp only [run, bind_eq_ok, appendDependencyFact_eq] at h
    obtain ⟨⟨id, _⟩, ⟨_, valid, put⟩, h⟩ := h
    cases h
    obtain ⟨stored, answer, same⟩ :=
      putOnce_again (fact_inserts f) (fun _ _ => rfl) put grown.facts
    refine ⟨[stored], ?_, .cons same .nil⟩
    rw [run, appendDependencyFact_eq, valid, ok_bind, putFact, answer]
    rfl
  | consequence r =>
    simp only [run, bind_eq_ok, appendConsequence_eq] at h
    obtain ⟨⟨id, _⟩, ⟨_, valid, put⟩, h⟩ := h
    cases h
    obtain ⟨stored, answer, same⟩ :=
      putOnce_again (consequence_inserts r) (fun _ _ => rfl) put grown.consequences
    refine ⟨[stored], ?_, .cons same .nil⟩
    rw [run, appendConsequence_eq, valid, ok_bind, putConsequence, answer]
    rfl
  | toolEvidence e =>
    simp only [run, bind_eq_ok, appendToolEvidence_eq] at h
    obtain ⟨⟨id, _⟩, ⟨_, valid, put⟩, h⟩ := h
    cases h
    obtain ⟨stored, answer, same⟩ :=
      putOnce_again (toolEvidence_inserts e) (fun _ _ => rfl) put grown.toolEvidence
    refine ⟨[stored], ?_, .cons same .nil⟩
    rw [run, appendToolEvidence_eq, valid, ok_bind, putToolEvidence, answer]
    rfl

/-- The evaluations of a store have a genealogy, and in the other tables no key is used twice. -/
structure KeysDistinct (db : Store) : Prop where
  genealogy : Genealogy db.toDatabase
  facts : (db.facts.map FactRow.idempotencyKey).Nodup
  consequences : (db.consequences.map ConsequenceRow.idempotencyKey).Nodup
  toolEvidence : (db.toolEvidence.map ToolEvidenceRow.idempotencyKey).Nodup

/-- A call keeps the keys distinct. -/
lemma KeysDistinct.run (keys : KeysDistinct db) (h : c.run db = .ok (ids, db')) :
    KeysDistinct db' := by
  obtain ⟨_, database, _, step, rfl⟩ | ⟨f, _, -, -, -, put⟩ | ⟨r, _, -, -, -, put⟩ |
    ⟨e, _, -, -, -, put⟩ := Append.run_ok h
  · exact ⟨keys.genealogy.step step, keys.facts, keys.consequences, keys.toolEvidence⟩
  · have next := putOnce_keys (fact_inserts f) (fun _ _ => rfl) put keys.facts
    obtain ⟨rfl, -⟩ | ⟨-, -, row, rfl, -⟩ := putOnce_ok (fact_inserts f) put
    · exact keys
    · exact ⟨keys.genealogy, next, keys.consequences, keys.toolEvidence⟩
  · have next := putOnce_keys (consequence_inserts r) (fun _ _ => rfl) put keys.consequences
    obtain ⟨rfl, -⟩ | ⟨-, -, row, rfl, -⟩ := putOnce_ok (consequence_inserts r) put
    · exact keys
    · exact ⟨keys.genealogy, keys.facts, next, keys.toolEvidence⟩
  · have next := putOnce_keys (toolEvidence_inserts e) (fun _ _ => rfl) put keys.toolEvidence
    obtain ⟨rfl, -⟩ | ⟨-, -, row, rfl, -⟩ := putOnce_ok (toolEvidence_inserts e) put
    · exact keys
    · exact ⟨keys.genealogy, keys.facts, keys.consequences, next⟩

/-- In every store of a run the keys are distinct. -/
lemma AppendRun.keys (h : AppendRun {} db) : KeysDistinct db := by
  induction h with
  | refl =>
    exact ⟨⟨List.nodup_nil, fun _ h => absurd h List.not_mem_nil,
      fun _ h => absurd h List.not_mem_nil, fun _ h => absurd h List.not_mem_nil,
      fun _ => trivial⟩, List.nodup_nil, List.nodup_nil, List.nodup_nil⟩
  | tail _ step keys =>
    cases step with
    | returned ok => exact keys.run ok
    | raised _ => exact keys
    | other step =>
      exact ⟨keys.genealogy.step step, keys.facts, keys.consequences, keys.toolEvidence⟩

/-- An evaluation identity has one trace digest. -/
lemma Genealogy.recorded_trace {a b : Database} {r : EvaluationResult} (g : Genealogy b)
    (grown : a.Grows b) (reused : ∃ row ∈ a.evaluations,
      castUuid r.evaluationId = .ok row.id ∧ row.traceDigest ≠ r.traceDigest) :
    ¬∃ row ∈ b.evaluations, castUuid r.evaluationId = .ok row.id ∧ row.traceDigest = r.traceDigest := by
  obtain ⟨row, mem, id, other⟩ := reused
  rintro ⟨row', mem', id', trace⟩
  have same : row.id = row'.id := Except.ok.inj (id.symm.trans id')
  have one := List.inj_on_of_nodup_map g.ids (grown.evaluations.subset mem) mem' same
  exact other (one ▸ trace)

/-- A call that uses an identity or a key again raises. -/
lemma Append.conflicts (keys : KeysDistinct db) (reuses : c.Reuses db) :
    ∃ e, c.run db = .error e := by
  cases h : c.run db with
  | error e => exact ⟨e, rfl⟩
  | ok answer =>
    exfalso
    obtain ⟨ids, db'⟩ := answer
    have next := keys.run h
    have grown := Append.run_grows h
    cases c with
    | proposal p s r =>
      simp only [run, bind_eq_ok] at h
      obtain ⟨⟨_, database⟩, append, h⟩ := h
      cases h
      exact next.genealogy.recorded_trace grown.database reuses
        (firstAppend_recorded (appendProposalAndEvaluation_body append).1)
    | reEvaluation s r =>
      simp only [run, bind_eq_ok] at h
      obtain ⟨⟨_, database⟩, append, h⟩ := h
      cases h
      obtain ⟨prior, append, -⟩ := appendReEvaluation_body append
      exact next.genealogy.recorded_trace grown.database reuses (nextAppend_recorded append)
    | dependencyFact f =>
      obtain ⟨row, mem, key, digest⟩ := reuses
      simp only [run, bind_eq_ok, appendDependencyFact_eq, putFact,
        putOnce_conflict (T := factTable) keys.facts mem key digest] at h
      obtain ⟨_, ⟨_, -, h⟩, -⟩ := h
      cases h
    | consequence r =>
      obtain ⟨row, mem, key, digest⟩ := reuses
      simp only [run, bind_eq_ok, appendConsequence_eq, putConsequence,
        putOnce_conflict (T := consequenceTable) keys.consequences mem key digest] at h
      obtain ⟨_, ⟨_, -, h⟩, -⟩ := h
      cases h
    | toolEvidence e =>
      obtain ⟨row, mem, key, digest⟩ := reuses
      simp only [run, bind_eq_ok, appendToolEvidence_eq, putToolEvidence,
        putOnce_conflict (T := toolEvidenceTable) keys.toolEvidence mem key digest] at h
      obtain ⟨_, ⟨_, -, h⟩, -⟩ := h
      cases h

/-- Appends over whole runs: no row changes or disappears; a call that returned goes on returning what
it recorded and writes nothing, whatever was appended since; and a call that uses a stored identity or
key with another digest raises, so that the store stays as it is. -/
theorem appends_idempotent (h : AppendRun {} db) :
    (∀ later, AppendRun db later → db.Grows later) ∧
    (∀ c ids db' later, Append.run db c = .ok (ids, db') → AppendRun db' later →
      ∃ stored, Append.run later c = .ok (stored, later) ∧ List.Forall₂ SameUuid ids stored) ∧
    ∀ c, Append.Reuses db c → ∃ e, Append.run db c = .error e :=
  ⟨fun _ run => run.grows, fun _ _ _ _ ok run => Append.again ok run.grows,
    fun _ reuses => Append.conflicts h.keys reuses⟩

end

/-- A first append that changed the store went through. -/
lemma runs_proposed [Engine] {db db' : Database} {p : Proposal} {s : EvaluationSnapshot}
    {r : EvaluationResult} (h : Runs db (.propose p s r) db' .done) (changed : db' ≠ db) :
    ∃ ids, appendProposalAndEvaluation db p s r = .ok (ids, db') := by
  cases h with
  | failed => exact absurd rfl changed
  | proposed h => exact ⟨_, h⟩

/-- The first evaluation is answered after a second one was appended. -/
theorem appends_idempotent_twice :
    let _ := asciiColumns
    ∃ (c : Append) (ids : List String) (db later : Store), Append.run {} c = .ok (ids, db) ∧
      AppendRun db later ∧ later.evaluations.length = 2 ∧
      ∃ stored, Append.run later c = .ok (stored, later) ∧ List.Forall₂ SameUuid ids stored := by
  intro _
  have proposalId : isUuid "00000000-0000-0000-0000-000000000001" = true := by decide
  have first : isUuid "00000000-0000-0000-0000-000000000002" = true := by decide
  have second : isUuid "00000000-0000-0000-0000-000000000003" = true := by decide
  obtain ⟨row, evaluation, evaluation', hrow, -, hev', propose, reevaluate⟩ := evaluated_twice
    "reason" "reason" "gam-gate/1.0" "gam-gate/1.1" proposalId first second (by decide) (by decide)
    fun _ => rfl
  obtain ⟨ids, append⟩ := runs_proposed propose fun e => by cases congrArg Database.proposals e
  have proposed : Append.run {} (.proposal _ _ _) = .ok ([ids.1, ids.2], { toDatabase := _ }) :=
    bind_eq_ok.mpr ⟨(ids, _), append, rfl⟩
  have run : AppendRun { toDatabase := _ } { toDatabase := _ } := .single (.other reevaluate)
  exact ⟨_, _, _, _, proposed, run, rfl, (appends_idempotent .refl).2.1 _ _ _ _ proposed run⟩

end GAM
