import GAM.Agent.Process
import GAM.Agent.Snapshot
import GAM.System.ExactlyOnce
import GAM.System.Refusals

/-!
# A task is all or nothing

The triples of the stages of `process_task`, relative to the world in which it began. Up to the last stage
nothing but tool evidence is committed, and every call leaves the process at most once and in one order.
The last stage is one unit: it commits the proposal with its evaluation, after the evidence and the lineage
were checked in the same transaction, or nothing.
-/

namespace GAM
open Lib Program

/-! ### What a task may do before it commits -/

/-- Everything but tool evidence is as it was, and evidence was only added. -/
structure EvidenceOnly (db later : Store) : Prop where
  kept : later = { db with toolEvidence := later.toolEvidence }
  grown : db.toolEvidence <+: later.toolEvidence

lemma EvidenceOnly.refl (db : Store) : EvidenceOnly db db := ⟨rfl, List.prefix_rfl⟩

lemma EvidenceOnly.trans {a b c : Store} (h : EvidenceOnly a b) (h' : EvidenceOnly b c) :
    EvidenceOnly a c := by
  refine ⟨?_, h.grown.trans h'.grown⟩
  rw [h'.kept, h.kept]

/-- Evidence alone leaves the memory's tables. -/
lemma EvidenceOnly.database {db later : Store} (h : EvidenceOnly db later) :
    later.toDatabase = db.toDatabase := by
  rw [h.kept]

/-- A world outside a transaction that came from another, with the calls that were made since. -/
structure World.Since (start : World) (calls : List ExternalCall) (w : World) : Prop where
  closed : w.session.active = none
  store : EvidenceOnly start.session.store w.session.store
  calls : w.calls = start.calls ++ calls

/-- Some of the calls were made, in their order: at least the first of them. -/
def World.Between (start : World) (least most : List ExternalCall) (w : World) : Prop :=
  ∃ made, least <+: made ∧ made <+: most ∧ start.Since made w

/-- A world since its calls lies between them. -/
lemma World.Since.between {start w : World} {calls : List ExternalCall} (h : start.Since calls w) :
    start.Between calls calls w :=
  ⟨calls, List.prefix_rfl, List.prefix_rfl, h⟩

/-- Wider bounds on the calls hold too. -/
lemma World.Between.mono {start w : World} {least most least' most' : List ExternalCall}
    (h : start.Between least most w) (below : least' <+: least) (above : most <+: most') :
    start.Between least' most' w := by
  obtain ⟨made, low, high, since⟩ := h
  exact ⟨made, below.trans low, high.trans above, since⟩

section
variable {α β : Type} {start : World} {calls least most : List ExternalCall} {m : AppMemory}

/-- Where an exception is raised, the calls lie between any bounds around those that were made. -/
lemma within {pre : World → Prop} {x : Process α} {value : α → World → Prop}
    (h : Triple pre x value fun _ => start.Since calls) (low : least <+: calls) (high : calls <+: most) :
    Triple pre x value fun _ => start.Between least most :=
  h.imp (fun _ holds => holds) (fun _ _ holds => holds) fun _ _ since => since.between.mono low high

/-- A check of the agent leaves the world. -/
lemma agent_triple {x : Except AgentError α} :
    Triple (start.Since calls) (Process.agent x) (fun a w => x = .ok a ∧ start.Since calls w)
      fun _ => start.Since calls :=
  triple_lift (fun _ h _ since => ⟨mapError_eq_ok.mp h, since⟩) fun _ _ since => since

/-- A Python computation leaves the world. -/
lemma python_triple {x : Except PyError α} :
    Triple (start.Since calls) (Process.python x) (fun a w => x = .ok a ∧ start.Since calls w)
      fun _ => start.Since calls :=
  agent_triple.imp (fun _ since => since) (fun _ _ h => ⟨mapError_eq_ok.mp h.1, h.2⟩)
    fun _ _ since => since

/-- A pure computation leaves the world. -/
lemma lift_triple {x : Except TaskError α} :
    Triple (start.Since calls) (Program.lift x) (fun a w => x = .ok a ∧ start.Since calls w)
      fun _ => start.Since calls :=
  triple_lift (fun _ h _ since => ⟨h, since⟩) fun _ _ since => since

/-- A call outside is counted, also where it fails. -/
lemma external_triple {call : ExternalCall} {x : Except TaskError α} :
    Triple (start.Since calls) (Process.external call x)
      (fun a w => x = .ok a ∧ start.Since (calls ++ [call]) w)
      fun _ => start.Since (calls ++ [call]) := by
  intro w since
  have called : start.Since (calls ++ [call]) { w with calls := w.calls ++ [call] } :=
    ⟨since.closed, since.store, by rw [since.calls, List.append_assoc]⟩
  cases run : x with
  | ok a => exact ⟨rfl, called⟩
  | error e => exact called

/-- A unit under the envelope is committed once, on a store that is the first one but for evidence. -/
lemma retry_triple (op : Operation Store TaskError α) :
    Triple (start.Since calls) (Process.memory m (.retry op))
      (fun a w => w.session.active = none ∧ w.calls = start.calls ++ calls ∧
        ∃ store, EvidenceOnly start.session.store store ∧ Committed m op store a w.session.store)
      fun _ => start.Since calls := by
  intro w since
  obtain ⟨_, r, k', -, -, -, -, ran, closed, success, failure⟩ := retry_tried m op since.closed
  have run : (Operation.retry op).run m w.session = (r, k') := ran
  simp only [Process.memory, run]
  cases r with
  | ok a => exact ⟨closed, since.calls, w.session.store, since.store, (success a rfl).1⟩
  | error e =>
    obtain ⟨store, -⟩ := failure e rfl
    exact ⟨closed, store ▸ since.store, since.calls⟩

/-- What a statement that reads yields. -/
lemma yields_query {f : Nat → Store → Except AgentError α} {store written : Store} {a : α} :
    (query f).Yields store a written ↔ ∃ n, f n store = .ok a ∧ written = store := by
  simp only [query, statement, Operation.Yields, mapError_eq_ok, bind_eq_ok, pure_eq_ok,
    Except.ok.injEq, Prod.mk.injEq]
  constructor
  · rintro ⟨n, _, read, rfl, rfl⟩
    exact ⟨n, read, rfl⟩
  · rintro ⟨n, read, rfl⟩
    exact ⟨n, a, read, rfl, rfl⟩

/-- What a statement yields. -/
lemma yields_statement {f : Nat → Store → Except AgentError (α × Store)} {store written : Store}
    {a : α} : (statement f).Yields store a written ↔ ∃ n, f n store = .ok (a, written) := by
  simp only [statement, Operation.Yields, mapError_eq_ok]

/-- A computation answers without writing. -/
lemma yields_compute {x : Except AgentError α} {store written : Store} {a : α} :
    (compute x).Yields store a written ↔ x = .ok a ∧ written = store := by
  cases x with
  | ok b => simp [compute, Operation.Yields, eq_comm]
  | error e => simp [compute, Operation.Yields]

/-- A unit that reads. -/
lemma query_triple {f : Nat → Store → Except AgentError α} :
    Triple (start.Since calls) (Process.memory m (.retry (query f)))
      (fun a w => (∃ n, f n w.session.store = .ok a) ∧ start.Since calls w)
      fun _ => start.Since calls := by
  refine (retry_triple (query f)).imp (fun _ since => since) ?_ fun _ _ since => since
  rintro a w ⟨closed, called, store, evidence, committed⟩
  obtain ⟨n, read, same⟩ := yields_query.mp committed.yields
  rw [← same] at evidence read
  exact ⟨⟨n, read⟩, closed, evidence, called⟩

end

/-! ### The stages -/

/-- The calls that were made when a stage fails, at least. -/
def AgentStage.leastCalls : AgentStage → List ExternalCall
  | .input | .embedding => []
  | .ccloud => [.embed, .capture]
  | .openai => [.embed, .capture]
  | .validation | .persistence => [.embed, .capture, .respond]

/-- The calls that were made when a stage fails, at most. -/
def AgentStage.mostCalls : AgentStage → List ExternalCall
  | .input => []
  | .embedding => [.embed]
  | .ccloud => [.embed, .capture]
  | .openai | .validation | .persistence => [.embed, .capture, .respond]

section
variable [AgentEngine] {α : Type} {start : World} {calls : List ExternalCall} {m : AppMemory}

/-- The lineage is read in a transaction of its own, which writes nothing. -/
lemma lineage_triple {parentId decisionId : Option String} :
    Triple (start.Since calls) (Process.memory m (lineage parentId decisionId))
      (fun _ => start.Since calls) fun _ => start.Since calls := by
  intro w since
  cases parentId with
  | none => exact since
  | some parent =>
    let op := query fun _ db => checkLineage db.toDatabase parent decisionId
    obtain ⟨r, k', ran, closed, failure, success⟩ := @transaction_cases _ _ _ _ m op _ since.closed
    have run : (lineage (some parent) decisionId).run m w.session = (r, k') := ran
    simp only [Process.memory, run]
    cases r with
    | ok a =>
      obtain ⟨_, -, same⟩ := yields_query.mp (success a rfl).1.yields
      exact ⟨closed, same ▸ since.store, since.calls⟩
    | error e =>
      obtain ⟨same, -⟩ := failure e rfl
      exact ⟨closed, same ▸ since.store, since.calls⟩

/-- Appended evidence is all that a store gains by it. -/
lemma appendToolEvidence_only {db later : Store} {e : ToolEvidence} {id : String}
    (h : appendToolEvidence db e = .ok (id, later)) : EvidenceOnly db later := by
  simp only [appendToolEvidence, bind_eq_ok, exists_unit] at h
  obtain ⟨-, h⟩ := h
  split at h
  · simp only [bind_eq_ok, exists_unit, pure_eq_ok, Except.ok.injEq, Prod.mk.injEq] at h
    obtain ⟨-, -, rfl⟩ := h
    exact .refl _
  · simp only [bind_eq_ok, insertToolEvidence, exists_unit, pure_eq_ok, Except.ok.injEq,
      Prod.mk.injEq] at h
    obtain ⟨row, -, _, ⟨-, -, -, -, rfl⟩, -, rfl⟩ := h
    exact ⟨rfl, List.prefix_append _ _⟩

/-- The answer of a stage that raised. -/
lemma blockedAt_triple {requestId : String} {stage : AgentStage} {taskDigest configDigest : String}
    {least most : List ExternalCall} :
    Triple (start.Between least most) (blockedAt requestId stage taskDigest configDigest)
      (fun outcome w => (∃ r, outcome = .blocked r ∧ r.stage = stage) ∧ start.Between least most w)
      fun _ => start.Between least most := by
  have answer : Triple (start.Between least most)
      (Process.python (agentBlocked requestId stage taskDigest configDigest))
      (fun r w => r.stage = stage ∧ start.Between least most w) fun _ => start.Between least most := by
    refine triple_lift ?_ fun _ _ within => within
    intro r answered w within
    simp only [mapError_eq_ok, agentBlocked, bind_eq_ok, pure_eq_ok, Except.ok.injEq] at answered
    obtain ⟨_, -, rfl⟩ := answered
    exact ⟨rfl, within⟩
  exact triple_bind answer fun r => triple_pure fun w h => ⟨⟨r, rfl, h.1⟩, h.2⟩

/-- The recall embeds the task. -/
lemma recall_triple {config : AgentConfig} {outside : Collaborators α} {task evaluationId : String} :
    Triple (start.Since []) (recallStage m config outside task evaluationId)
      (fun recalled w => outside.embed task = .ok recalled.embedding ∧ start.Since [.embed] w)
      fun _ => start.Between [] [.embed] := by
  have none : [] <+: ([] : List ExternalCall) ∧ [] <+: [ExternalCall.embed] := by decide
  have one : [] <+: [ExternalCall.embed] ∧ [.embed] <+: [ExternalCall.embed] := by decide
  refine triple_bind (within lift_triple none.1 none.2) fun _ => triple_given fun _ => ?_
  refine triple_bind (within external_triple one.1 one.2) fun _ => triple_given fun embedded => ?_
  refine triple_bind (within python_triple one.1 one.2) fun _ => triple_given fun _ => ?_
  refine triple_bind (within python_triple one.1 one.2) fun _ => triple_given fun _ => ?_
  refine triple_bind (within python_triple one.1 one.2) fun _ => triple_given fun _ => ?_
  refine triple_bind (within query_triple one.1 one.2) fun _ => triple_pure fun _ h => ⟨embedded, h.2⟩

/-- The append of the captured evidence. -/
lemma append_triple (evidence : ToolEvidence) :
    Triple (start.Since calls)
      (Process.memory m (.retry (statement fun _ db =>
        (appendToolEvidence db evidence).mapError .python)))
      (fun _ => start.Since calls) fun _ => start.Since calls := by
  refine (retry_triple _).imp (fun _ since => since) ?_ fun _ _ since => since
  rintro id w ⟨closed, called, store, before, committed⟩
  obtain ⟨_, appended⟩ := yields_statement.mp committed.yields
  exact ⟨closed, before.trans (appendToolEvidence_only (mapError_eq_ok.mp appended)), called⟩

/-- The evidence stage captures the cluster. -/
lemma evidence_triple {outside : Collaborators α} :
    Triple (start.Since [.embed]) (evidenceStage m outside)
      (fun found w => evidenceRef found.1 = .ok found.2 ∧ start.Since [.embed, .capture] w)
      fun _ => start.Between [.embed, .capture] [.embed, .capture] := by
  have two : [ExternalCall.embed, .capture] <+: [.embed, .capture] := List.prefix_rfl
  refine triple_bind (within external_triple two two) fun evidence => triple_given fun _ => ?_
  refine triple_bind (within python_triple two two) fun _ => triple_given fun _ => ?_
  refine triple_bind (within (append_triple evidence) two two) fun _ => ?_
  refine triple_bind (within agent_triple two two) fun reference => triple_given fun cited => ?_
  exact triple_pure fun _ since => ⟨cited, since⟩

/-- The draft stage asks the model. -/
lemma draft_triple {config : AgentConfig} {outside : Collaborators α} {draws : TaskDraws}
    {input : TaskInput} {configDigest prompt promptDigest evidenceId : String} :
    Triple (start.Since [.embed, .capture])
      (draftStage config outside draws input configDigest prompt promptDigest evidenceId)
      (fun drafted w => (∃ parsed,
          draft AgentEngine.casefold outside.modelValidate parsed [evidenceId] = .ok drafted.1) ∧
        start.Since [.embed, .capture, .respond] w)
      fun _ => start.Between [.embed, .capture] [.embed, .capture, .respond] := by
  have two : [ExternalCall.embed, .capture] <+: [.embed, .capture] ∧
      [ExternalCall.embed, .capture] <+: [.embed, .capture, .respond] := by decide
  have three : [ExternalCall.embed, .capture] <+: [.embed, .capture, .respond] ∧
      [ExternalCall.embed, .capture, .respond] <+: [.embed, .capture, .respond] := by decide
  refine triple_bind (within lift_triple two.1 two.2) fun _ => triple_given fun _ => ?_
  refine triple_bind (within external_triple three.1 three.2) fun _ => triple_given fun _ => ?_
  refine triple_bind (within agent_triple three.1 three.2) fun parsed => triple_given fun _ => ?_
  refine triple_bind (within agent_triple three.1 three.2) fun d => triple_given fun drafted => ?_
  refine triple_bind (within agent_triple three.1 three.2) fun _ => triple_given fun _ => ?_
  exact triple_pure fun _ since => ⟨⟨parsed, drafted⟩, since⟩

/-- The validation stage evaluates the task on the exclusions and dependencies it has read. -/
lemma validation_triple {config : AgentConfig} {draws : TaskDraws} {t : Task}
    {reference : EvidenceRef} :
    Triple (start.Since calls) (validationStage m config draws t reference)
      (fun e w => (∃ actionKey targetKey exclusions dependencies,
          t.evaluation config draws reference actionKey targetKey exclusions dependencies = .ok e) ∧
        start.Since calls w) fun _ => start.Since calls := by
  refine triple_bind python_triple fun actionKey => triple_given fun _ => ?_
  refine triple_bind python_triple fun targetKey => triple_given fun _ => ?_
  refine triple_bind query_triple fun exclusions => ?_
  refine triple_bind (python_triple.imp (fun _ h => h.2) (fun _ _ h => h) fun _ _ h => h)
    fun _ => triple_given fun _ => ?_
  refine triple_bind query_triple fun facts => ?_
  refine triple_bind (agent_triple.imp (fun _ h => h.2) (fun _ _ h => h) fun _ _ h => h)
    fun dependencies => triple_given fun _ => ?_
  refine triple_bind lineage_triple fun _ => ?_
  refine agent_triple.imp (fun _ h => h) ?_ fun _ _ h => h
  rintro e w ⟨evaluated, since⟩
  exact ⟨⟨actionKey, targetKey, exclusions, dependencies, evaluated⟩, since⟩

/-! ### The unit of the last stage -/

omit [AgentEngine] in
/-- A query of the memory answers without writing. -/
lemma yields_gateQuery {f : Database → Except PyError α} {store written : Store} {a : α} :
    (gateQuery f).Yields store a written ↔ f store.toDatabase = .ok a ∧ written = store := by
  simp only [gateQuery, yields_query, mapError_eq_ok, exists_const]

omit [AgentEngine] in
/-- A statement of the memory writes its tables. -/
lemma yields_gateStatement {f : Database → Except PyError (α × Database)} {store written : Store} {a : α} :
    (gateStatement f).Yields store a written ↔
      ∃ tables, f store.toDatabase = .ok (a, tables) ∧ written = { store with toDatabase := tables } := by
  simp only [gateStatement, yields_statement, bind_eq_ok, mapError_eq_ok, exists_const, pure_eq_ok,
    Except.ok.injEq, Prod.mk.injEq, Prod.exists]
  constructor
  · rintro ⟨a, tables, written, rfl, rfl⟩
    exact ⟨tables, written, rfl⟩
  · rintro ⟨tables, written, rfl⟩
    exact ⟨a, tables, written, rfl, rfl⟩

/-- The statements of a first append, one after the other, are its transaction. -/
lemma yields_appendOperation {p : Proposal} {s : EvaluationSnapshot} {r : EvaluationResult}
    {store written : Store} {ids : String × String}
    (h : (appendOperation p s r).Yields store ids written) :
    appendProposalAndEvaluation store.toDatabase p s r = .ok (ids, written.toDatabase) ∧
      written = { store with toDatabase := written.toDatabase } := by
  obtain ⟨_, _, checked, _, _, genealogy, appended⟩ := h
  obtain ⟨bound, rfl⟩ := (yields_compute.mp checked).imp_right Eq.symm
  obtain ⟨first, rfl⟩ := (yields_compute.mp genealogy).imp_right Eq.symm
  rw [mapError_eq_ok] at bound
  rw [ensure_eq_ok] at first
  obtain ⟨existing, _, searched, rest⟩ := appended
  obtain ⟨found, rfl⟩ := (yields_gateQuery.mp searched).imp_right Eq.symm
  simp only [bind_eq_ok, pure_eq_ok, Except.ok.injEq] at found
  obtain ⟨id, cast, rfl⟩ := found
  simp only [appendProposalAndEvaluation, bound, ensure_pos first, firstAppend, cast, ok_bind]
  cases known : store.proposals.find? fun row => row.id = id with
  | some row =>
    rw [known] at rest
    obtain ⟨evaluation, _, searched', _, _, compared, rfl, rfl⟩ := rest
    obtain ⟨looked, rfl⟩ := (yields_gateQuery.mp searched').imp_right Eq.symm
    obtain ⟨same, rfl⟩ := (yields_compute.mp compared).imp_right Eq.symm
    simp only [bind_eq_ok, pure_eq_ok, Except.ok.injEq] at looked
    obtain ⟨id', cast', evaluationId, castEvaluation, rfl⟩ := looked
    rw [cast] at cast'
    cases cast'
    rw [ensure_eq_ok] at same
    simp only [castEvaluation, ok_bind, ensure_pos same]
    exact ⟨rfl, trivial⟩
  | none =>
    rw [known] at rest
    obtain ⟨_, _, inserts, _, _, stores, rfl, rfl⟩ := rest
    obtain ⟨tables, inserted, rfl⟩ := yields_gateStatement.mp inserts
    obtain ⟨tables', stored, rfl⟩ := yields_gateStatement.mp stores
    simp only [bind_eq_ok, pure_eq_ok, Except.ok.injEq, Prod.mk.injEq] at inserted stored
    obtain ⟨args, written, row, columns, _, insert, -, rfl⟩ := inserted
    obtain ⟨_, store, -, rfl⟩ := stored
    simp only [written, columns, insert, store, ok_bind]
    exact ⟨rfl, trivial⟩

/-- The newest row of the tool evidence that is not expired. -/
structure Store.IsNewest (db : Store) (n : Nat) (row : ToolEvidenceRow) : Prop where
  stored : row ∈ db.toolEvidence
  cluster : row.clusterName = ccloudClusterName
  succeeded : row.exitStatus = 0
  fresh : AgentEngine.transactionTime n < AgentEngine.instant row.expiresAt
  newest : ∀ other ∈ db.toolEvidence, other.clusterName = ccloudClusterName → other.exitStatus = 0 →
    AgentEngine.transactionTime n < AgentEngine.instant other.expiresAt → other.age ≤ row.age

/-- The first of the unexpired rows is the newest of them. -/
lemma unexpired_newest {db : Store} {n : Nat} {row : ToolEvidenceRow} {others : List ToolEvidenceRow}
    (h : db.unexpired n = row :: others) : db.IsNewest n row := by
  have mem : ∀ other, other ∈ db.unexpired n ↔ other ∈ db.toolEvidence ∧
      other.clusterName = ccloudClusterName ∧ other.exitStatus = 0 ∧
        AgentEngine.transactionTime n < AgentEngine.instant other.expiresAt := by
    intro other
    simp [Store.unexpired]
  have ordered : (db.unexpired n).Pairwise fun a b => b.age ≤ a.age := by
    rw [Store.unexpired, List.pairwise_reverse]
    exact sortedBy_pairwise
  obtain ⟨stored, cluster, succeeded, fresh⟩ := (mem row).mp (h ▸ List.mem_cons_self)
  refine ⟨stored, cluster, succeeded, fresh, fun other hm hc hs hf => ?_⟩
  have within := (mem other).mpr ⟨hm, hc, hs, hf⟩
  rw [h] at within ordered
  cases List.mem_cons.mp within with
  | inl same => rw [same]
  | inr later => exact (List.pairwise_cons.mp ordered).1 other later

/-- What `get_latest_unexpired_tool_evidence` returns is the newest row. -/
lemma latestUnexpired_ok {db : Store} {n : Nat} {e : ToolEvidence} (h : latestUnexpired n db = .ok e) :
    ∃ row, db.IsNewest n row ∧ row.id = e.evidenceId ∧ row.evidenceDigest = e.evidenceDigest := by
  rw [latestUnexpired] at h
  cases rows : db.unexpired n with
  | nil =>
    rw [rows] at h
    cases h
  | cons row others =>
    rw [rows] at h
    simp only [List.take_succ_cons, bind_eq_ok, pure_eq_ok, exists_unit, Except.ok.injEq,
      readToolEvidence, toolEvidenceOfRow] at h
    obtain ⟨_, ⟨_, ⟨_, _, _, _, _, _, rfl⟩, -, rfl⟩, -, rfl⟩ := h
    exact ⟨row, unexpired_newest rows, rfl, rfl⟩

/-- The lineage of a task in a store: a MODIFY decision on the parent, both with their digests. -/
def HoldsLineage (db : Database) (parentId decisionId : String) : Prop :=
  ∃ d ∈ db.decisions, d.decisionId = decisionId ∧ d.proposalId = parentId ∧ d.decision = .modify ∧
    ∃ p ∈ db.proposals, p.id = parentId

/-- An identifier that the agent accepts is canonical. -/
lemma agentUuid_canonical {value name u : String} (h : agentUuid value name = .ok u) :
    isUuid value = true := by
  rw [agentUuid] at h
  split at h
  · cases h
  · rename_i parsed canonical
    simp only [bind_eq_ok, exists_unit, ensure_eq_ok] at h
    obtain ⟨rfl, -⟩ := h
    exact AgentEngine.parseUuid_canonical canonical

/-- A checked lineage is held by the store. -/
lemma checkLineage_ok {db : Database} {parentId decisionId : String} (parent : isUuid parentId = true)
    (decision : isUuid decisionId = true) (h : checkLineage db parentId (some decisionId) = .ok ()) :
    HoldsLineage db parentId decisionId := by
  simp only [checkLineage, castOptUuid, castUuid_self parent, castUuid_self decision, ok_bind, pure_eq_ok,
    Except.mapError, Option.some.injEq] at h
  split at h
  · rename_i d p found found'
    rw [ensure_eq_ok] at h
    have keys := List.find?_some found
    have key := List.find?_some found'
    simp only [decide_eq_true_eq] at keys key
    exact ⟨d, List.mem_of_find?_eq_some found, keys.1, keys.2, h.1, p, List.mem_of_find?_eq_some found', key⟩
  · cases h

/-- The lineage is checked without writing. -/
lemma yields_lineage {parentId decisionId : Option String} {store written : Store} {u : Unit}
    (h : (lineage parentId decisionId).Yields store u written) :
    written = store ∧ ∀ parent ∈ parentId, checkLineage store.toDatabase parent decisionId = .ok () := by
  cases parentId with
  | none => exact ⟨h.2, fun _ hp => by cases hp⟩
  | some parent =>
    obtain ⟨_, checked, same⟩ := yields_query.mp h
    refine ⟨same, fun p hp => ?_⟩
    cases hp
    exact checked

/-- What the unit of the last stage has checked and written. -/
lemma yields_persist {t : Task} {e : TaskEvaluation} {store written : Store} {ids : String × String}
    (h : (persist t e).Yields store ids written) :
    (∃ n row, store.IsNewest n row ∧ row.id = t.evidence.evidenceId ∧
      row.evidenceDigest = t.evidence.evidenceDigest) ∧
    (∀ parent ∈ t.parentProposalId,
      checkLineage store.toDatabase parent t.sourceModifyDecisionId = .ok ()) ∧
    appendProposalAndEvaluation store.toDatabase e.proposal e.snapshot e.result =
      .ok (ids, written.toDatabase) ∧ written = { store with toDatabase := written.toDatabase } := by
  obtain ⟨latest, _, read, _, _, compared, _, _, linked, appended⟩ := h
  obtain ⟨n, found, rfl⟩ := yields_query.mp read
  obtain ⟨same, rfl⟩ := (yields_compute.mp compared).imp_right Eq.symm
  obtain ⟨rfl, held⟩ := (yields_lineage linked).imp_left Eq.symm
  rw [mapError_eq_ok] at found
  rw [ensure_eq_ok] at same
  obtain ⟨row, newest, id, digest⟩ := latestUnexpired_ok found
  exact ⟨⟨n, row, newest, id.trans same.1, digest.trans same.2⟩, held, yields_appendOperation appended⟩

/-! ### The task -/

/-- The unit that ended a task that was not blocked. -/
structure TaskUnit (m : AppMemory) (config : AgentConfig) (outside : Collaborators α) (args : TaskArgs)
    (draws : TaskDraws) (t : Task) (reference : EvidenceRef) (e : TaskEvaluation) (store written : Store) :
    Prop where
  embedded : ∃ task, outside.embed task = .ok t.embedding
  drafted : ∃ parsed, draft AgentEngine.casefold outside.modelValidate parsed [t.evidence.evidenceId] =
    .ok t.draft
  cited : evidenceRef t.evidence = .ok reference
  evaluated : ∃ actionKey targetKey exclusions dependencies,
    t.evaluation config draws reference actionKey targetKey exclusions dependencies = .ok e
  drawn : t.proposalId = draws.proposalId ∧ t.evaluationId = draws.evaluationId
  lineage : t.parentProposalId = args.parentProposalId ∧
    t.sourceModifyDecisionId = args.sourceModifyDecisionId ∧ inputLineage args = .ok ()
  committed : ∃ ids, Committed m (persist t e) store ids written

/-- How a task ends: blocked, with nothing but evidence committed, or with its unit. -/
def TaskEnds (m : AppMemory) (config : AgentConfig) (outside : Collaborators α) (args : TaskArgs)
    (draws : TaskDraws) (start : World) : TaskOutcome → World → Prop
  | .blocked r, w => start.Between r.stage.leastCalls r.stage.mostCalls w
  | outcome, w => w.session.active = none ∧ w.calls = start.calls ++ [.embed, .capture, .respond] ∧
      ∃ store t reference digest e, EvidenceOnly start.session.store store ∧
        TaskUnit m config outside args draws t reference e store w.session.store ∧
        outcome = taskOutcome t reference digest e

/-- The configuration of the gate is the pinned one. -/
lemma defaultRuleConfig_ok {gate : RuleConfig} (h : defaultRuleConfig = .ok gate) :
    gate = pinnedConfig := by
  simp only [defaultRuleConfig, bind_eq_ok, pure_eq_ok, Except.ok.injEq] at h
  obtain ⟨digest, computed, rfl⟩ := h
  rw [pinnedConfig, computed]
  rfl

/-- What the validation stage evaluates is the proposal of the task, and the gate has answered it. -/
lemma evaluation_ok {config : AgentConfig} {draws : TaskDraws} {t : Task} {reference : EvidenceRef}
    {actionKey targetKey : String} {exclusions : List ExclusionRef} {dependencies : List DependencyRef}
    {e : TaskEvaluation}
    (h : t.evaluation config draws reference actionKey targetKey exclusions dependencies = .ok e) :
    e.proposal.proposalId = t.proposalId ∧ e.snapshot.evaluationId = t.evaluationId ∧
      e.snapshot.proposal = e.proposal ∧ evaluateProposal e.snapshot pinnedConfig = .ok e.result := by
  simp only [Task.evaluation, bind_eq_ok, mapError_eq_ok, pure_eq_ok, Except.ok.injEq] at h
  obtain ⟨p, proposed, s, built, gate, default, r, evaluated, -, -, rfl⟩ := h
  obtain ⟨_, _, rfl⟩ := Task.proposal_ok proposed
  obtain ⟨_, _, _, rfl, -⟩ := Task.snapshot_ok built
  cases defaultRuleConfig_ok default
  exact ⟨rfl, rfl, rfl, evaluated⟩

/-- The transaction that persisted a task: the store before it, what it has checked there, and the two
rows that it has added. -/
structure TaskCommit (m : AppMemory) (args : TaskArgs) (draws : TaskDraws) (receipt : AgentReceipt)
    (result : EvaluationResult) (store written : Store) : Prop where
  /-- One run of the unit in one transaction, of a proposal that the gate has answered. -/
  committed : ∃ t e ids, Committed m (persist t e) store ids written ∧ e.result = result ∧
    evaluateProposal e.snapshot pinnedConfig = .ok result ∧ e.snapshot.proposal = e.proposal
  /-- The rows carry the returned identifiers and digests. -/
  written : ∃ row evaluation, written = { store with
      proposals := store.proposals ++ [row], evaluations := store.evaluations ++ [evaluation] } ∧
    row.id = receipt.proposalId ∧ row.proposalDigest = receipt.proposalDigest ∧
    evaluation.id = receipt.evaluationId ∧ evaluation.proposalId = receipt.proposalId ∧
    evaluation.traceDigest = receipt.traceDigest ∧
    (evaluation.status = .finalized ↔ result.isFinalized = true)
  drawn : receipt.proposalId = draws.proposalId ∧ receipt.evaluationId = draws.evaluationId
  /-- The evidence that may be cited was the newest that had not expired. -/
  evidence : ∃ n row, store.IsNewest n row ∧ ∀ id ∈ receipt.toolEvidenceRefs, id = row.id
  lineage : ∀ parent ∈ args.parentProposalId, ∃ decision ∈ args.sourceModifyDecisionId,
    HoldsLineage store.toDatabase parent decision

/-- The unit of the last stage persists the task. -/
lemma TaskUnit.commit {config : AgentConfig} {outside : Collaborators α} {args : TaskArgs} {draws : TaskDraws} {t : Task}
    {reference : EvidenceRef} {e : TaskEvaluation} {store written : Store} (digest : String)
    (h : TaskUnit m config outside args draws t reference e store written)
    (fresh : ∀ row ∈ store.proposals, row.id ≠ draws.proposalId) :
    TaskCommit m args draws (taskReceipt t reference digest e) e.result store written := by
  obtain ⟨ids, committed⟩ := h.committed
  obtain ⟨_, _, _, _, evaluated⟩ := h.evaluated
  obtain ⟨proposalId, evaluationId⟩ := h.drawn
  obtain ⟨parent, decision, linked⟩ := h.lineage
  obtain ⟨⟨n, newest, isNewest, id, -⟩, held, appended, same⟩ := yields_persist committed.yields
  obtain ⟨ownProposal, ownEvaluation, embedded, answered⟩ := evaluation_ok evaluated
  obtain ⟨bound, -, -, -, -, first⟩ := appendProposalAndEvaluation_ok appended
  have resultId : e.result.evaluationId = draws.evaluationId :=
    (validateEvaluationBinding_iff.mp bound).2.2.2.2.2.1.trans (ownEvaluation.trans evaluationId)
  obtain ⟨stored, cast, rows⟩ := firstAppend_ok first
  have drawnId : e.proposal.proposalId = draws.proposalId := ownProposal.trans proposalId
  have storedId : stored = draws.proposalId := by
    rw [drawnId, castUuid_self draws.proposal_isUuid] at cast
    exact (Except.ok.inj cast).symm
  refine ⟨⟨t, e, ids, committed, rfl, answered, embedded⟩, ?_, ⟨proposalId, evaluationId⟩, ?_, ?_⟩
  · cases rows with
    -- a replay would find the drawn identifier stored
    | inl replayed =>
      obtain ⟨-, ⟨row, stored', same'⟩, -⟩ := replayed
      exact absurd (same'.trans storedId) (fresh row stored')
    | inr added =>
      obtain ⟨row, evaluation, proposal, isEvaluation, -, -, tables⟩ := added
      have rowId : row.id = t.proposalId := by
        have cast' := proposal.id
        rw [drawnId, castUuid_self draws.proposal_isUuid] at cast'
        exact (Except.ok.inj cast').symm.trans proposalId.symm
      have evaluationRow : evaluation.id = t.evaluationId := by
        have cast' := isEvaluation.id
        rw [resultId, castUuid_self draws.evaluation_isUuid] at cast'
        exact (Except.ok.inj cast').symm.trans evaluationId.symm
      have owner : evaluation.proposalId = t.proposalId := by
        have cast' := isEvaluation.proposalId
        rw [drawnId, castUuid_self draws.proposal_isUuid] at cast'
        exact (Except.ok.inj cast').symm.trans proposalId.symm
      refine ⟨row, evaluation, ?_, rowId, proposal.digest, evaluationRow, owner, isEvaluation.trace,
        isEvaluation.status⟩
      rw [same, tables]
  -- the evidence that is cited is the newest row of the transaction's store
  · refine ⟨n, newest, isNewest, fun cite hc => ?_⟩
    have cited := h.cited
    simp only [evidenceRef, bind_eq_ok, exists_unit, ensure_eq_ok, pure_eq_ok, Except.ok.injEq] at cited
    obtain ⟨-, rfl⟩ := cited
    simp only [taskReceipt, Task.refs] at hc
    split at hc
    · cases hc
    · rw [List.mem_singleton.mp hc, id]
  · intro p hp
    have held' := held p (parent ▸ hp)
    rw [Option.mem_def] at hp
    simp only [inputLineage, hp] at linked
    split at linked
    · rename_i given _
      cases given
    · rename_i parent' d given source
      cases given
      simp only [bind_eq_ok] at linked
      obtain ⟨_, canonical, _, canonical', -⟩ := linked
      rw [decision, source] at held'
      exact ⟨d, source, checkLineage_ok (agentUuid_canonical canonical) (agentUuid_canonical canonical') held'⟩
    · cases linked

omit [AgentEngine] in
/-- Every stage has made a prefix of the three calls. -/
lemma escapes {stage : AgentStage} {w : World}
    (h : start.Between stage.leastCalls stage.mostCalls w) :
    start.Between [] [.embed, .capture, .respond] w := by
  refine h.mono List.nil_prefix ?_
  cases stage <;> decide

/-- What a stage that raised answers. -/
lemma blocked_ends {config : AgentConfig} {outside : Collaborators α} {args : TaskArgs}
    {draws : TaskDraws} {requestId taskDigest configDigest : String} {stage : AgentStage} :
    Triple (start.Between stage.leastCalls stage.mostCalls)
      (blockedAt requestId stage taskDigest configDigest) (TaskEnds m config outside args draws start)
      fun _ => start.Between [] [.embed, .capture, .respond] := by
  refine blockedAt_triple.imp (fun _ h => h) ?_ fun _ _ => escapes
  rintro outcome w ⟨⟨r, rfl, rfl⟩, between⟩
  exact between

/-- A stage under its handler, and what follows. -/
lemma stage_triple {β : Type} {config : AgentConfig} {outside : Collaborators α} {args : TaskArgs}
    {draws : TaskDraws} {requestId taskDigest configDigest : String} {stage : AgentStage} {pre : World → Prop}
    {body : Process β} {next : β → Process TaskOutcome} {mid : β → World → Prop}
    (hbody : Triple pre body mid fun _ => start.Between stage.leastCalls stage.mostCalls)
    (hnext : ∀ b, Triple (mid b) (next b) (TaskEnds m config outside args draws start)
      fun _ => start.Between [] [.embed, .capture, .respond]) :
    Triple pre (Process.stage body (blockedAt requestId stage taskDigest configDigest) next)
      (TaskEnds m config outside args draws start) fun _ => start.Between [] [.embed, .capture, .respond] :=
  triple_attempt hbody blocked_ends hnext fun _ _ => escapes

/-- How a task ends, whatever its collaborators and the database do. -/
lemma processTask_triple {config : AgentConfig} {outside : Collaborators α} {draws : TaskDraws}
    {args : TaskArgs} :
    Triple (start.Since []) (processTask m config outside draws args)
      (TaskEnds m config outside args draws start)
      fun _ => start.Between [] [.embed, .capture, .respond] := by
  have none : [] <+: ([] : List ExternalCall) := List.prefix_rfl
  have two : [ExternalCall.embed, .capture] <+: [.embed, .capture, .respond] := by decide
  have all : [ExternalCall.embed, .capture, .respond] <+: [.embed, .capture, .respond] := List.prefix_rfl
  refine triple_bind (within python_triple none List.nil_prefix) fun _ => triple_given fun _ => ?_
  refine triple_bind (within python_triple none List.nil_prefix) fun _ => triple_given fun _ => ?_
  refine stage_triple (within agent_triple none none) fun input => triple_given fun _ => ?_
  refine stage_triple (within agent_triple none none) fun _ => triple_given fun linked => ?_
  refine stage_triple recall_triple fun recalled => triple_given fun embedded => ?_
  refine stage_triple evidence_triple fun found => triple_given fun cited => ?_
  refine triple_bind (within python_triple List.nil_prefix two) fun _ => triple_given fun _ => ?_
  refine triple_bind (within python_triple List.nil_prefix two) fun _ => triple_given fun _ => ?_
  refine stage_triple draft_triple fun answer => triple_given fun drafted => ?_
  refine stage_triple (within validation_triple all all) fun e => triple_given fun evaluated => ?_
  refine stage_triple (within (retry_triple _) all all) fun ids => triple_pure ?_
  rintro w ⟨closed, called, store, before, committed⟩
  have unit : TaskUnit m config outside args draws _ _ _ _ _ :=
    ⟨⟨_, embedded⟩, drafted, cited, evaluated, ⟨rfl, rfl⟩, ⟨rfl, rfl, linked⟩, ⟨ids, committed⟩⟩
  unfold taskOutcome
  cases result : e.result with
  | check r => exact ⟨closed, called, store, _, found.2, answer.2, e, before, unit, by rw [taskOutcome, result]⟩
  | blocked r => exact ⟨closed, called, store, _, found.2, answer.2, e, before, unit, by rw [taskOutcome, result]⟩

/-- What an outcome says was persisted. -/
def TaskOutcome.persisted : TaskOutcome → Option (AgentReceipt × EvaluationResult)
  | .result receipt r => some (receipt, .check r)
  | .gateBlocked receipt r => some (receipt, .blocked r)
  | .blocked _ => none

omit [AgentEngine] in
/-- An evaluated task's outcome holds its receipt and its result. -/
lemma taskOutcome_persisted {t : Task} {reference : EvidenceRef} {digest : String} {e : TaskEvaluation} :
    (taskOutcome t reference digest e).persisted = some (taskReceipt t reference digest e, e.result) := by
  rw [taskOutcome]
  cases e.result with
  | check r => rfl
  | blocked r => rfl

/-- A task that was blocked has committed nothing but evidence; another ends with its unit. -/
lemma TaskEnds.cases {config : AgentConfig} {outside : Collaborators α} {args : TaskArgs}
    {draws : TaskDraws} {outcome : TaskOutcome} {w : World} (h : TaskEnds m config outside args draws start outcome w) :
    (∃ b, outcome = .blocked b ∧ start.Between b.stage.leastCalls b.stage.mostCalls w) ∨
      ∃ store t reference digest e, w.session.active = none ∧
        w.calls = start.calls ++ [.embed, .capture, .respond] ∧ EvidenceOnly start.session.store store ∧
        TaskUnit m config outside args draws t reference e store w.session.store ∧
        outcome.persisted = some (taskReceipt t reference digest e, e.result) := by
  cases outcome with
  | blocked b => exact .inl ⟨b, rfl, h⟩
  | result receipt r | gateBlocked receipt r =>
    obtain ⟨closed, called, store, t, reference, digest, e, before, unit, same⟩ := h
    exact .inr ⟨store, t, reference, digest, e, closed, called, before, unit,
      same ▸ taskOutcome_persisted⟩

/-- `process_task` is all-or-nothing. Whatever the embedding, the capture, the model and the database do,
a task that is blocked or raises has committed nothing but tool evidence. A task that returns a result has
made each outside call once, and one transaction has added one proposal and one evaluation of it, with the
returned identifiers and digests, on a store where the cited evidence was the newest unexpired row and the
lineage held. -/
theorem processTask_allOrNothing {config : AgentConfig} {outside : Collaborators α} {draws : TaskDraws}
    {args : TaskArgs} {r : Except TaskError TaskOutcome} {w : World} (closed : start.session.active = none)
    (fresh : ∀ row ∈ start.session.store.proposals, row.id ≠ draws.proposalId)
    (run : processTask m config outside draws args start = (r, w)) :
    w.session.active = none ∧
    (∀ e, r = .error e → EvidenceOnly start.session.store w.session.store) ∧
    (∀ outcome, r = .ok outcome → outcome.persisted = none →
      EvidenceOnly start.session.store w.session.store) ∧
    ∀ outcome receipt result, r = .ok outcome → outcome.persisted = some (receipt, result) →
      w.calls = start.calls ++ [.embed, .capture, .respond] ∧
      ∃ store, EvidenceOnly start.session.store store ∧
        TaskCommit m args draws receipt result store w.session.store := by
  have ends := @processTask_triple _ α start m config outside draws args start
    ⟨closed, .refl _, (List.append_nil _).symm⟩
  rw [run] at ends
  cases r with
  | error e =>
    obtain ⟨_, -, -, since⟩ := ends
    exact ⟨since.closed, fun _ _ => since.store, fun _ h => (by cases h), fun _ _ _ h => (by cases h)⟩
  | ok outcome =>
    cases TaskEnds.cases ends with
    | inl blocked =>
      obtain ⟨b, rfl, _, -, -, since⟩ := blocked
      refine ⟨since.closed, fun _ h => (by cases h), fun _ _ _ => since.store, ?_⟩
      intro _ _ _ same persisted
      cases same
      cases persisted
    | inr persisted =>
      obtain ⟨store, t, reference, digest, e, closed', called, before, unit, returned⟩ := persisted
      refine ⟨closed', fun _ h => (by cases h), ?_, ?_⟩
      · intro _ same none
        cases same
        rw [returned] at none
        cases none
      · intro _ receipt result same some
        cases same
        rw [returned, Option.some.injEq, Prod.mk.injEq] at some
        obtain ⟨rfl, rfl⟩ := some
        exact ⟨called, store, before, unit.commit digest fun row => before.database ▸ fresh row⟩

/-- What a task returns is what its tables show, whatever the embedding, the capture, the model and the
database do. No call is made twice, however often the memory tries a transaction again. A blocked task
leaves the proposals and the evaluations as they were. Another has added one row to each in one transaction,
with the returned identifiers and digests, and in the store of that transaction the cited evidence was the
newest that had not expired and the lineage held. -/
theorem processTask_tables {config : AgentConfig} {outside : Collaborators α} {draws : TaskDraws}
    {args : TaskArgs} {outcome : TaskOutcome} {w : World} (closed : start.session.active = none)
    (fresh : ∀ row ∈ start.session.store.proposals, row.id ≠ draws.proposalId)
    (run : processTask m config outside draws args start = (.ok outcome, w)) :
    (∃ made, w.calls = start.calls ++ made ∧ made.Nodup) ∧
    ((∃ b, outcome = .blocked b) → w.session.store.proposals = start.session.store.proposals ∧
      w.session.store.evaluations = start.session.store.evaluations) ∧
    ∀ receipt result, outcome.persisted = some (receipt, result) →
      (∃ row evaluation, w.session.store.proposals = start.session.store.proposals ++ [row] ∧
        w.session.store.evaluations = start.session.store.evaluations ++ [evaluation] ∧
        row.id = receipt.proposalId ∧ row.proposalDigest = receipt.proposalDigest ∧
        evaluation.id = receipt.evaluationId ∧ evaluation.proposalId = receipt.proposalId ∧
        evaluation.traceDigest = receipt.traceDigest) ∧
      ∃ store, EvidenceOnly start.session.store store ∧
        TaskCommit m args draws receipt result store w.session.store := by
  have ends := @processTask_triple _ α start m config outside draws args start
    ⟨closed, .refl _, (List.append_nil _).symm⟩
  rw [run] at ends
  cases TaskEnds.cases ends with
  | inl blocked =>
    obtain ⟨b, rfl, between⟩ := blocked
    obtain ⟨made, -, most, since⟩ := escapes between
    have tables := since.store.database
    refine ⟨⟨made, since.calls, most.sublist.nodup (by decide)⟩, fun _ => ?_, fun _ _ none => by cases none⟩
    exact ⟨congrArg Database.proposals tables, congrArg Database.evaluations tables⟩
  | inr ended =>
    obtain ⟨store, t, reference, digest, e, -, called, before, unit, returned⟩ := ended
    refine ⟨⟨_, called, by decide⟩, ?_, ?_⟩
    · rintro ⟨b, rfl⟩
      cases returned
    · intro receipt result some
      rw [returned, Option.some.injEq, Prod.mk.injEq] at some
      obtain ⟨rfl, rfl⟩ := some
      have commit := unit.commit digest fun row => before.database ▸ fresh row
      obtain ⟨row, evaluation, written, id, record, evaluationId, owner, trace, -⟩ := commit.written
      have tables := before.database
      refine ⟨⟨row, evaluation, ?_, ?_, id, record, evaluationId, owner, trace⟩, store, before, commit⟩
      · rw [written, tables]
      · rw [written, tables]

/-- What the agent may write: proposals, evaluations and tool evidence are added to, one of the first two at
a time, and nothing else changes. -/
structure AgentWrites (db later : Store) : Prop where
  kept : later = { db with proposals := later.proposals, evaluations := later.evaluations,
                           toolEvidence := later.toolEvidence }
  proposals : ∃ rows, later.proposals = db.proposals ++ rows ∧ rows.length ≤ 1
  evaluations : ∃ rows, later.evaluations = db.evaluations ++ rows ∧ rows.length ≤ 1
  evidence : db.toolEvidence <+: later.toolEvidence

omit [AgentEngine] in
/-- Evidence alone is what the agent writes. -/
lemma EvidenceOnly.writes {db later : Store} (h : EvidenceOnly db later) : AgentWrites db later := by
  refine ⟨?_, ⟨[], ?_, Nat.zero_le 1⟩, ⟨[], ?_, Nat.zero_le 1⟩, h.grown⟩
  · rw [h.kept]
  · rw [h.kept, List.append_nil]
  · rw [h.kept, List.append_nil]

/-- The unit adds a proposal and an evaluation, or it answers a replay. -/
lemma TaskUnit.writes {config : AgentConfig} {outside : Collaborators α} {args : TaskArgs} {draws : TaskDraws} {t : Task}
    {reference : EvidenceRef} {e : TaskEvaluation} {db store written : Store}
    (h : TaskUnit m config outside args draws t reference e store written) (before : EvidenceOnly db store) :
    AgentWrites db written := by
  obtain ⟨ids, committed⟩ := h.committed
  obtain ⟨-, -, appended, same⟩ := yields_persist committed.yields
  obtain ⟨-, -, -, -, -, first⟩ := appendProposalAndEvaluation_ok appended
  obtain ⟨_, -, rows⟩ := firstAppend_ok first
  cases rows with
  | inl replayed =>
    rw [replayed.1] at same
    rw [show written = store from same]
    exact before.writes
  | inr added =>
    obtain ⟨row, evaluation, -, -, -, -, tables⟩ := added
    have tables' : store.toDatabase = db.toDatabase := before.database
    refine ⟨?_, ⟨[row], ?_, Nat.le_refl 1⟩, ⟨[evaluation], ?_, Nat.le_refl 1⟩, ?_⟩
    · rw [same, tables, before.kept]
    · rw [tables, tables']
    · rw [tables, tables']
    · rw [same]
      exact before.grown

/-- The agent has no authority. Whatever happens in a task, it decides, excludes, executes and reports
nothing and records no fact: it adds at most one proposal, one evaluation and evidence. What leaves the
process is a beginning of embedding, capture and model call, each at most once, and the stage of a blocked
task says how far it came. -/
theorem processTask_authority {config : AgentConfig} {outside : Collaborators α} {draws : TaskDraws}
    {args : TaskArgs} {r : Except TaskError TaskOutcome} {w : World} (closed : start.session.active = none)
    (run : processTask m config outside draws args start = (r, w)) :
    AgentWrites start.session.store w.session.store ∧
      ∃ made, made <+: [.embed, .capture, .respond] ∧ w.calls = start.calls ++ made ∧
        ∀ b, r = .ok (.blocked b) → b.stage.leastCalls <+: made ∧ made <+: b.stage.mostCalls := by
  have ends := @processTask_triple _ α start m config outside draws args start
    ⟨closed, .refl _, (List.append_nil _).symm⟩
  rw [run] at ends
  cases r with
  | error e =>
    obtain ⟨made, -, most, since⟩ := ends
    exact ⟨since.store.writes, made, most, since.calls, fun _ h => (by cases h)⟩
  | ok outcome =>
    cases TaskEnds.cases ends with
    | inl blocked =>
      obtain ⟨b, rfl, made, least, most, since⟩ := blocked
      obtain ⟨made', -, most', since'⟩ := escapes ⟨made, least, most, since⟩
      have same : made = made' := List.append_cancel_left (since.calls.symm.trans since'.calls)
      refine ⟨since.store.writes, made, same ▸ most', since.calls, fun _ h => ?_⟩
      cases h
      exact ⟨least, most⟩
    | inr persisted =>
      obtain ⟨store, t, reference, digest, e, -, called, before, unit, returned⟩ := persisted
      refine ⟨unit.writes before, _, List.prefix_rfl, called, fun b h => ?_⟩
      cases h
      cases returned

end

end GAM
