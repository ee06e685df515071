import GAM.Lib.DecimalNormal
import GAM.Lib.Query
import GAM.Memory.Append
import GAM.Memory.Decode
import GAM.Store.MemoryTables

/-!
# Retrieving precedents

`search_precedents`. The query takes the five proposals nearest to a vector, joins each to its
FINALIZED evaluations other than the current one and those to what followed from them, and the program
groups the joined rows by proposal and evaluation. The LIMIT counts proposals; what is returned counts
evaluations.
-/

namespace GAM
open Lib

/-- The vector operators of the engine: the place of `a <=> b` in the order of distances, the value of
`1 - (a <=> b)`, and the order in which rows of one distance are delivered. -/
class VectorEngine extends Engine where
  distance : String → String → ℚ
  similarity : String → String → Binary64
  tie : String → ProposalRow → Nat

/-- A row of the joined query. -/
structure PrecedentRow where
  proposal : ProposalRow
  similarity : Binary64
  evaluation : EvaluationRow
  decision : Option DecisionRecord
  receipt : Option ExecutionReceipt
  consequence : Option ConsequenceRow

/-- The columns of `ORDER BY c.id, g.id, r.id, cr.id`; a null comes first. -/
def PrecedentRow.place (row : PrecedentRow) :
    String ×ₗ String ×ₗ WithBot String ×ₗ WithBot String :=
  toLex (row.proposal.id, toLex (row.evaluation.id,
    toLex ((row.receipt.map ExecutionReceipt.receiptId : WithBot String),
      (row.consequence.map ConsequenceRow.id : WithBot String))))

/-- `(str(row["proposal_id"]), str(row["evaluation_id"]))`. -/
def PrecedentRow.key (row : PrecedentRow) : String ×ₗ String :=
  toLex (row.proposal.id, row.evaluation.id)

section
variable [VectorEngine]

/-- The five nearest proposals. -/
def Database.candidates (db : Database) (vector : String) : List ProposalRow :=
  (sortedBy (fun p => toLex (VectorEngine.distance p.embedding vector, VectorEngine.tie vector p))
    db.proposals).take 5

/-- The FINALIZED evaluations of a proposal other than the current one. -/
def Database.finalizedBut (db : Database) (current : String) (p : ProposalRow) :
    List EvaluationRow :=
  db.evaluations.filter fun g => g.proposalId = p.id ∧ g.status = .finalized ∧ g.id ≠ current

/-- The candidates with their evaluations. -/
def Database.recalled (db : Database) (vector current : String) :
    List (ProposalRow × EvaluationRow) :=
  (db.candidates vector).flatMap fun c => (db.finalizedBut current c).map fun g => (c, g)

/-- The rows of the query, in its order. -/
def precedentRows (db : Store) (vector current : String) : List PrecedentRow :=
  let decided := leftJoin (fun row => db.decisions.filter fun d => d.evaluationId = row.2.id)
    (db.recalled vector current)
  let executed := leftJoin (fun row => db.receipts.filter fun r =>
    row.2.map DecisionRecord.decisionId = some r.decisionId) decided
  let observed := leftJoin (fun row => db.consequences.filter fun cr =>
    row.2.map ExecutionReceipt.receiptId = some cr.receiptId) executed
  sortedBy PrecedentRow.place (observed.map fun row =>
    { proposal := row.1.1.1.1
      similarity := VectorEngine.similarity row.1.1.1.1.embedding vector
      evaluation := row.1.1.1.2
      decision := row.1.1.2
      receipt := row.1.2
      consequence := row.2 })

/-- Python `_decimal` of a `DECIMAL` column. -/
def storedDecimal (d : Decimal) : Except PyError Decimal := do
  ensure d.isFinite (.integrity "stored Decimal is non-finite")
  return d

/-- Python `_decimal` of a `FLOAT` column: the decimal of the number's text. -/
def floatDecimal (f : Binary64) : Except PyError Decimal := do
  ensure f.isFinite (.integrity "stored Decimal is non-finite")
  return .ofNumber (tokenOf f.repr)

/-- A row with a consequence has the receipt that it is joined to. -/
def PrecedentRow.observed? (row : PrecedentRow) : Option (ExecutionReceipt × ConsequenceRow) :=
  match row.receipt, row.consequence with
  | some receipt, some consequence => some (receipt, consequence)
  | _, _ => none

/-- The consequence of a row that has one. -/
def consequenceRefOf (row : ExecutionReceipt × ConsequenceRow) : Except PyError ConsequenceRef := do
  let (receipt, consequence) := row
  return { consequenceId := consequence.id, receiptId := receipt.receiptId,
           receiptTerminalStatus := receipt.attemptTerminalStatus,
           receiptDigest := receipt.receiptDigest,
           predictedSnapshotDigest := consequence.predictedSnapshotDigest,
           actualSnapshotDigest := consequence.actualSnapshotDigest,
           comparisonVersion := consequence.comparisonVersion,
           divergence := ← storedDecimal consequence.divergenceScore,
           divergenceThreshold := ← storedDecimal consequence.divergenceThreshold,
           reportDigest := consequence.reportDigest }

/-- The precedent of a group of rows. -/
def precedentOf (group : Group PrecedentRow (String ×ₗ String)) : Except PyError PrecedentRef := do
  let consequences ← mapAll consequenceRefOf (group.rows.filterMap PrecedentRow.observed?)
  let first := group.first
  let similarity ← floatDecimal first.similarity
  return { proposalId := (ofLex group.key).1, proposalDigest := first.proposal.proposalDigest,
           actionDigest := first.proposal.actionDigest,
           actionTypeKey := first.proposal.actionTypeKey, targetKey := first.proposal.targetKey,
           decision := first.decision.map DecisionRecord.decision,
           decisionId := first.decision.map DecisionRecord.decisionId,
           decisionDigest := first.decision.map DecisionRecord.decisionDigest,
           similarity := some similarity, similarityErrorCode := none,
           evaluationId := (ofLex group.key).2, traceDigest := first.evaluation.traceDigest,
           receiptId := first.receipt.map ExecutionReceipt.receiptId,
           receiptDigest := first.receipt.map ExecutionReceipt.receiptDigest,
           receiptTerminalStatus := first.receipt.map ExecutionReceipt.attemptTerminalStatus,
           consequenceRefs := consequences }

/-- Python `AppMemory.search_precedents`. -/
def searchPrecedents (db : Store) (embedding : List Binary64) (limit : Int)
    (currentEvaluationId : String) : Except PyError (List PrecedentRef) := do
  ensure (limit = 5) (.integrity "precedent search limit must be five")
  let text ← vectorText embedding
  let current ← castUuid currentEvaluationId
  let vector ← castVector text
  mapAll precedentOf (groupedBy PrecedentRow.key (precedentRows db vector current))

/-- The identifiers of a recalled evaluation. -/
def recallKey (pair : ProposalRow × EvaluationRow) : String ×ₗ String :=
  toLex (pair.1.id, pair.2.id)

/-- The identifiers of the evaluations that a query recalls. -/
def Database.recalledIds (db : Database) (vector current : String) : Finset (String ×ₗ String) :=
  ((db.recalled vector current).map recallKey).toFinset

/-- The outer joins keep every recalled evaluation and add none. -/
lemma precedentRows_keys {db : Store} {vector current : String} :
    ((precedentRows db vector current).map PrecedentRow.key).toFinset =
      db.recalledIds vector current := by
  have sorted (rows : List PrecedentRow) :
      ((sortedBy PrecedentRow.place rows).map PrecedentRow.key).toFinset =
        (rows.map PrecedentRow.key).toFinset :=
    List.toFinset_eq_of_perm _ _ (sortedBy_perm.map PrecedentRow.key)
  rw [precedentRows, sorted, List.map_map]
  -- each of the three joins is undone in turn
  refine (leftJoin_keys fun row : (_ × Option DecisionRecord) × Option ExecutionReceipt =>
    recallKey row.1.1).trans ?_
  refine (leftJoin_keys fun row : _ × Option DecisionRecord => recallKey row.1).trans ?_
  exact leftJoin_keys recallKey

/-- A search returns when the similarities and the reports are finite. -/
lemma searchPrecedents_succeeds {db : Store} {embedding : List Binary64}
    {text vector current id : String} (written : vectorText embedding = .ok text)
    (cast : castVector text = .ok vector) (known : castUuid current = .ok id)
    (similar : ∀ p ∈ db.proposals, (VectorEngine.similarity p.embedding vector).isFinite = true)
    (reports : ∀ cr ∈ db.consequences,
      cr.divergenceScore.isFinite = true ∧ cr.divergenceThreshold.isFinite = true) :
    ∃ refs, searchPrecedents db embedding 5 current = .ok refs := by
  simp only [searchPrecedents, written, cast, known, ok_bind, ensure_pos]
  refine mapAll_ok fun group hgroup => ?_
  have rows {row : PrecedentRow} (hrow : row ∈ group.rows) :
      row.similarity.isFinite = true ∧ ∀ cr ∈ row.consequence, cr ∈ db.consequences := by
    have hrow := mem_sortedBy.mp (groupedBy_rows hgroup hrow)
    obtain ⟨joined, hjoined, rfl⟩ := List.mem_map.mp hrow
    have executed := leftJoin_left.mp ⟨joined, hjoined, rfl⟩
    have decided := leftJoin_left.mp ⟨_, executed, rfl⟩
    have recalled := leftJoin_left.mp ⟨_, decided, rfl⟩
    obtain ⟨c, hc, hpair⟩ := List.mem_flatMap.mp recalled
    obtain ⟨g, -, e⟩ := List.mem_map.mp hpair
    refine ⟨?_, fun cr hcr => List.mem_of_mem_filter (leftJoin_right hjoined hcr)⟩
    dsimp only
    rw [← e]
    exact similar c (mem_sortedBy.mp (List.mem_of_mem_take hc))
  have consequences : ∃ l, mapAll consequenceRefOf
      (group.rows.filterMap PrecedentRow.observed?) = .ok l := by
    refine mapAll_ok fun pair hpair => ?_
    obtain ⟨row, hrow, observed⟩ := List.mem_filterMap.mp hpair
    rw [PrecedentRow.observed?] at observed
    split at observed
    · rename_i receipt cr _ hcr
      cases observed
      obtain ⟨score, threshold⟩ := reports cr ((rows hrow).2 cr hcr)
      simp [consequenceRefOf, storedDecimal, ensure_pos score, ensure_pos threshold]
    · cases observed
  obtain ⟨l, hl⟩ := consequences
  have first : group.first.similarity.isFinite = true := (rows (List.head_mem group.nonempty)).1
  simp only [precedentOf, hl, floatDecimal, ok_bind, pure_eq_ok]
  rw [ensure_pos first, ok_bind, ok_bind]
  exact ⟨_, rfl⟩

/-- What is returned is one precedent for each recalled evaluation. -/
lemma searchPrecedents_length {db : Store} {embedding : List Binary64} {limit : Int}
    {text vector current id : String} {refs : List PrecedentRef}
    (written : vectorText embedding = .ok text) (cast : castVector text = .ok vector)
    (known : castUuid current = .ok id)
    (found : searchPrecedents db embedding limit current = .ok refs) :
    refs.length = (db.recalledIds vector id).card := by
  simp only [searchPrecedents, written, cast, known, ok_bind, bind_eq_ok, ensure_eq_ok,
    exists_unit] at found
  obtain ⟨-, built⟩ := found
  rw [← (mapAll_eq_ok.mp built).length_eq, length_groupedBy, precedentRows_keys]

/-! ### The order of what is returned -/

omit [VectorEngine] in
/-- The rows of a group with a receipt and a report stand in the order of these. -/
lemma PrecedentRow.observed_ordered {a b : PrecedentRow} {x y : ExecutionReceipt × ConsequenceRow}
    (ordered : a.place ≤ b.place) (same : a.key = b.key) (ha : a.observed? = some x)
    (hb : b.observed? = some y) :
    toLex (x.1.receiptId, x.2.id) ≤ toLex (y.1.receiptId, y.2.id) := by
  obtain ⟨pa, sa, ea, da, ra, ca⟩ := a
  obtain ⟨pb, sb, eb, db, rb, cb⟩ := b
  cases ra <;> cases ca <;> cases ha
  cases rb <;> cases cb <;> cases hb
  simp only [PrecedentRow.key, EmbeddingLike.apply_eq_iff_eq, Prod.mk.injEq] at same
  simp only [PrecedentRow.place, Prod.Lex.toLex_le_toLex, same.1, same.2, lt_self_iff_false,
    false_or, true_and] at ordered
  obtain before | ⟨receipt, le⟩ := ordered
  · exact Prod.Lex.toLex_le_toLex.mpr (.inl (WithBot.coe_lt_coe.mp before))
  · exact Prod.Lex.toLex_le_toLex.mpr (.inr ⟨Option.some.inj receipt, WithBot.coe_le_coe.mp le⟩)

/-- What is returned stands in the order of proposals and evaluations, the reports of a precedent in
that of their receipts. -/
lemma searchPrecedents_ordered {db : Store} {embedding : List Binary64} {limit : Int}
    {current : String} {refs : List PrecedentRef}
    (found : searchPrecedents db embedding limit current = .ok refs) :
    refs.Pairwise (fun p q =>
      toLex (p.proposalId, p.evaluationId) ≤ toLex (q.proposalId, q.evaluationId)) ∧
    ∀ p ∈ refs, p.consequenceRefs.Pairwise fun r r' =>
      toLex (r.receiptId, r.consequenceId) ≤ toLex (r'.receiptId, r'.consequenceId) := by
  simp only [searchPrecedents, bind_eq_ok, ensure_eq_ok, exists_unit] at found
  obtain ⟨-, _, -, id, -, vector, -, built⟩ := found
  constructor
  · refine mapAll_pairwise built groupedBy_pairwise fun g g' p q hp hq le => ?_
    simp only [precedentOf, bind_eq_ok, pure_eq_ok, Except.ok.injEq] at hp hq
    obtain ⟨_, -, _, -, rfl⟩ := hp
    obtain ⟨_, -, _, -, rfl⟩ := hq
    exact le
  · intro p hp
    obtain ⟨g, hg, hp⟩ := forall₂_mem_right (mapAll_eq_ok.mp built) p hp
    simp only [precedentOf, bind_eq_ok, pure_eq_ok, Except.ok.injEq] at hp
    obtain ⟨consequences, hc, _, -, rfl⟩ := hp
    have rows : g.rows.Pairwise fun a b => a.place ≤ b.place :=
      groupedBy_ordered hg sortedBy_pairwise
    have observed : (g.rows.filterMap PrecedentRow.observed?).Pairwise fun x y =>
        toLex (x.1.receiptId, x.2.id) ≤ toLex (y.1.receiptId, y.2.id) := by
      rw [List.pairwise_filterMap]
      refine rows.imp_of_mem fun ha hb le x hx y hy => ?_
      exact PrecedentRow.observed_ordered le ((groupedBy_key hg ha).trans (groupedBy_key hg hb).symm)
        hx hy
    refine mapAll_pairwise hc observed fun x y r r' hr hr' le => ?_
    simp only [consequenceRefOf, bind_eq_ok, pure_eq_ok, Except.ok.injEq] at hr hr'
    obtain ⟨_, -, _, -, rfl⟩ := hr
    obtain ⟨_, -, _, -, rfl⟩ := hr'
    exact le

end

end GAM
