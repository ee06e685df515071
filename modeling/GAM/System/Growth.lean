import GAM.Lib.AppendOnly
import GAM.System.Transactions

/-!
# Growth of the store

No transaction changes or deletes a row: along every run each table of the store is extended at its
end.
-/

namespace GAM
open Lib

/-- Every table of a store is a prefix of the table of a later store. -/
structure Database.Grows (db later : Database) : Prop where
  proposals : db.proposals <+: later.proposals
  evaluations : db.evaluations <+: later.evaluations
  decisions : db.decisions <+: later.decisions
  exclusions : db.exclusions <+: later.exclusions
  effects : db.effects <+: later.effects
  attempts : db.attempts <+: later.attempts
  receipts : db.receipts <+: later.receipts

@[refl] lemma Database.Grows.refl (db : Database) : db.Grows db :=
  ⟨List.prefix_rfl, List.prefix_rfl, List.prefix_rfl, List.prefix_rfl, List.prefix_rfl,
    List.prefix_rfl, List.prefix_rfl⟩

@[trans] lemma Database.Grows.trans {a b c : Database} (h : a.Grows b) (g : b.Grows c) :
    a.Grows c where
  proposals := h.proposals.trans g.proposals
  evaluations := h.evaluations.trans g.evaluations
  decisions := h.decisions.trans g.decisions
  exclusions := h.exclusions.trans g.exclusions
  effects := h.effects.trans g.effects
  attempts := h.attempts.trans g.attempts
  receipts := h.receipts.trans g.receipts

/-- Rows at the ends of the tables. -/
lemma Database.grows_append (db : Database) (proposals : List ProposalRow)
    (evaluations : List EvaluationRow) (decisions : List DecisionRecord)
    (exclusions : List ExclusionRef) (effects : List EffectRow) (attempts : List ExecutionAttempt)
    (receipts : List ExecutionReceipt) :
    db.Grows
      { proposals := db.proposals ++ proposals, evaluations := db.evaluations ++ evaluations,
        decisions := db.decisions ++ decisions, exclusions := db.exclusions ++ exclusions,
        effects := db.effects ++ effects, attempts := db.attempts ++ attempts,
        receipts := db.receipts ++ receipts } :=
  ⟨List.prefix_append _ _, List.prefix_append _ _, List.prefix_append _ _, List.prefix_append _ _,
    List.prefix_append _ _, List.prefix_append _ _, List.prefix_append _ _⟩

section
variable [Engine] {db db' : Database} {c c' : Call}

/-- Every transaction extends the tables. -/
lemma runs_grows (h : Runs db c db' c') : db.Grows db' := by
  cases h with
  | aborted | failed | loaded | checked | latest | refused => rfl
  | proposed h =>
    obtain ⟨-, -, -, -, -, h⟩ := appendProposalAndEvaluation_ok h
    obtain ⟨_, -, ⟨rfl, -⟩ | ⟨row, evaluation, -, -, -, -, rfl⟩⟩ := firstAppend_ok h
    · rfl
    · simpa using db.grows_append [row] [evaluation] [] [] [] [] []
  | reevaluated h =>
    obtain ⟨_, -, -, -, _, -, h⟩ := appendReEvaluation_ok h
    obtain ⟨rfl, -⟩ | ⟨_, _, evaluation, -, -, -, -, -, -, rfl⟩ := h
    · rfl
    · simpa using db.grows_append [] [evaluation] [] [] [] [] []
  | decided h =>
    obtain rfl | ⟨_, row, _, exclusions, -, -, -, rfl⟩ := decideTransaction_ok h
    · rfl
    · simpa using db.grows_append [] [] [row] exclusions [] [] []
  | executed _ h =>
    obtain rfl | ⟨_, _, row, attempt, receipt, -, rfl⟩ := executeTransaction_ok h
    · rfl
    · simpa using db.grows_append [] [] [] [] [row] [attempt] [receipt]
  | recovered h =>
    obtain rfl | ⟨attempt, receipt, -, -, -, -, -, rfl⟩ := errorTransaction_ok h
    · rfl
    · simpa using db.grows_append [] [] [] [] [] [attempt] [receipt]

/-- Every run extends the tables. -/
lemma leads_grows {guard} {k k' : Config Database Call} (h : clients.Leads guard k k') :
    k.store.Grows k'.store :=
  Protocol.Leads.preserves (P := clients) (K := k.store.Grows)
    (fun _ _ _ _ hr grown => grown.trans (runs_grows hr)) h (.refl k.store)

end

end GAM
