import GAM.System.Transactions

/-!
# The history of a proposal

Which transactions write proposals and evaluations (`runs_genealogy`), and what holds of the
evaluations of every proposal in every reachable store: they form one chain, each naming the
evaluation that was committed before it as prior (`evaluation_history`).
-/

namespace GAM
open Lib

section
variable [Engine] {db db' : Database} {c c' : Call}

/-- What a first append writes. -/
structure FirstWrite (db : Database) (p : Proposal) (s : EvaluationSnapshot) (r : EvaluationResult)
    (row : ProposalRow) (evaluation : EvaluationRow) : Prop where
  bound : validateEvaluationBinding s r = .ok ()
  same : proposalEq s.proposal p = true
  prior : r.priorEvaluationId = none
  proposal : IsProposalOf p row
  evaluated : IsEvaluationOf p.proposalId s r evaluation
  new : ∀ q ∈ db.proposals, q.id ≠ row.id
  fresh : Fresh EvaluationRow.id db.evaluations evaluation

/-- What a re-evaluation writes after the latest evaluation. -/
structure NextWrite (db : Database) (s : EvaluationSnapshot) (r : EvaluationResult)
    (latest evaluation : EvaluationRow) : Prop where
  bound : validateEvaluationBinding s r = .ok ()
  prior : r.priorEvaluationId = some latest.id
  evaluated : IsEvaluationOf s.proposal.proposalId s r evaluation
  isLatest : db.latest evaluation.proposalId = some latest
  fresh : Fresh EvaluationRow.id db.evaluations evaluation

/-- What a transaction does to proposals and evaluations: nothing, a first append, or a
re-evaluation. -/
lemma runs_genealogy (h : Runs db c db' c') :
    (db'.proposals = db.proposals ∧ db'.evaluations = db.evaluations) ∨
    (∃ p s r row evaluation, c = .propose p s r ∧ FirstWrite db p s r row evaluation ∧
      db' = { db with proposals := db.proposals ++ [row],
                      evaluations := db.evaluations ++ [evaluation] }) ∨
    (∃ s r latest evaluation, c = .reevaluate s r ∧ NextWrite db s r latest evaluation ∧
      db' = { db with evaluations := db.evaluations ++ [evaluation] }) := by
  cases h with
  | aborted | failed | loaded | checked | latest | refused => exact .inl ⟨rfl, rfl⟩
  | @proposed _ p s r ids h =>
    obtain ⟨bound, same, -, prior, -, h⟩ := appendProposalAndEvaluation_ok h
    obtain ⟨id, hid, ⟨rfl, -⟩ | ⟨row, evaluation, hp, he, new, fresh, rfl⟩⟩ := firstAppend_ok h
    · exact .inl ⟨rfl, rfl⟩
    · have hrow : row.id = id := by
        have value := hp.id
        rw [hid] at value
        cases value
        rfl
      exact .inr (.inl ⟨p, s, r, row, evaluation, rfl,
        ⟨bound, same, prior, hp, he, hrow ▸ new, fresh⟩, rfl⟩)
  | @reevaluated _ s r ids h =>
    obtain ⟨prior, hs, hr, bound, id, -, h⟩ := appendReEvaluation_ok h
    obtain ⟨rfl, -⟩ | ⟨proposalId, latest, evaluation, hp, hl, hid, -, he, fresh, rfl⟩ := h
    · exact .inl ⟨rfl, rfl⟩
    · have home : evaluation.proposalId = proposalId := by
        have value := he.proposalId
        rw [hp] at value
        cases value
        rfl
      exact .inr (.inr ⟨s, r, latest, evaluation, rfl,
        ⟨bound, by rw [hr, hid], he, home ▸ hl, fresh⟩, rfl⟩)
  | decided h =>
    rcases decideTransaction_ok h with rfl | ⟨_, _, _, _, _, _, _, rfl⟩ <;> exact .inl ⟨rfl, rfl⟩
  | executed _ h =>
    rcases executeTransaction_ok h with rfl | ⟨_, _, _, _, _, _, rfl⟩ <;> exact .inl ⟨rfl, rfl⟩
  | recovered h =>
    rcases errorTransaction_ok h with rfl | ⟨_, _, _, _, _, _, _, rfl⟩ <;> exact .inl ⟨rfl, rfl⟩

end

/-! ### Chains of evaluations -/

/-- Every row names the row before it as prior, the first one `prior`. -/
def Linked : Option String → List EvaluationRow → Prop
  | _, [] => True
  | prior, r :: l => r.priorEvaluationId = prior ∧ Linked (some r.id) l

/-- A linked list is extended by a row that names its last one. -/
lemma linked_concat {l : List EvaluationRow} {row : EvaluationRow} {prior : Option String} :
    Linked prior (l ++ [row]) ↔ Linked prior l ∧
      row.priorEvaluationId = (l.getLast?.map EvaluationRow.id).or prior := by
  induction l generalizing prior with
  | nil => simp [Linked]
  | cons r l ih =>
    rw [List.cons_append, Linked, Linked, ih, and_assoc]
    have last : ((r :: l).getLast?.map EvaluationRow.id).or prior =
        (l.getLast?.map EvaluationRow.id).or (some r.id) := by
      rw [List.getLast?_cons]
      cases l.getLast? <;> rfl
    rw [last]

/-- A row of a linked list comes first, or names a row of the list. -/
lemma Linked.prior_mem {l : List EvaluationRow} {prior : Option String} (h : Linked prior l) :
    ∀ r ∈ l, r.priorEvaluationId = prior ∨ ∃ q ∈ l, r.priorEvaluationId = some q.id := by
  induction l generalizing prior with
  | nil => simp
  | cons r l ih =>
    intro q hq
    cases hq with
    | head => exact .inl h.1
    | tail _ hq =>
      rcases ih h.2 q hq with hp | ⟨p, hp, he⟩
      · exact .inr ⟨r, List.mem_cons_self, hp⟩
      · exact .inr ⟨p, List.mem_cons_of_mem _ hp, he⟩

/-- Position by position: the row after another one names it. -/
lemma Linked.next {l : List EvaluationRow} {prior : Option String} (h : Linked prior l) :
    ∀ i (hi : i + 1 < l.length), l[i + 1].priorEvaluationId = some l[i].id := by
  induction l generalizing prior with
  | nil => intro i hi; simp at hi
  | cons r l ih =>
    intro i hi
    cases i with
    | zero =>
      cases l with
      | nil => simp at hi
      | cons q l => exact h.2.1
    | succ i => exact ih h.2 i (by simpa using hi)

/-- The evaluations of one proposal, in commit order: the first one has no prior, every other one
names the evaluation committed immediately before it, and no two evaluations share a prior. -/
structure LinearHistory (l : List EvaluationRow) : Prop where
  first : ∃ r rest, l = r :: rest ∧ r.priorEvaluationId = none
  single : ∀ i (hi : i < l.length), l[i].priorEvaluationId = none → i = 0
  next : ∀ i (hi : i + 1 < l.length), l[i + 1].priorEvaluationId = some l[i].id
  unshared : ∀ i j (hi : i < l.length) (hj : j < l.length),
    l[i].priorEvaluationId = l[j].priorEvaluationId → i = j

/-- Linked rows with distinct identifiers are a linear history. -/
lemma Linked.linearHistory {l : List EvaluationRow} (h : Linked none l) (hl : l ≠ [])
    (nd : (l.map EvaluationRow.id).Nodup) : LinearHistory l := by
  have next := h.next
  have first : ∃ r rest, l = r :: rest ∧ r.priorEvaluationId = none := by
    cases l with
    | nil => exact absurd rfl hl
    | cons r rest => exact ⟨r, rest, rfl, h.1⟩
  have single : ∀ i (hi : i < l.length), l[i].priorEvaluationId = none → i = 0 := by
    intro i hi hn
    cases i with
    | zero => rfl
    | succ i =>
      rw [next i hi] at hn
      cases hn
  refine ⟨first, single, next, ?_⟩
  intro i j hi hj he
  cases i with
  | zero =>
    obtain ⟨r, rest, rfl, hr⟩ := first
    exact (single j hj (by rw [← he]; exact hr)).symm
  | succ i =>
    cases j with
    | zero =>
      obtain ⟨r, rest, rfl, hr⟩ := first
      exact single _ hi (by rw [he]; exact hr)
    | succ j =>
      rw [next i hi, next j hj, Option.some.injEq] at he
      have hi' : i < (l.map EvaluationRow.id).length := by simpa using Nat.lt_of_succ_lt hi
      have hj' : j < (l.map EvaluationRow.id).length := by simpa using Nat.lt_of_succ_lt hj
      have same : i = j := (@List.Nodup.getElem_inj_iff _ _ nd _ hi' _ hj').mp (by simpa using he)
      rw [same]

/-! ### The genealogy of a store -/

section
variable {db : Database} {evaluation : EvaluationRow} {id : String}

/-- A new evaluation is the last of its proposal's history. -/
lemma history_append : Database.history { db with evaluations := db.evaluations ++ [evaluation] } id =
    if evaluation.proposalId = id then db.history id ++ [evaluation] else db.history id := by
  rw [Database.history, Database.history, List.filter_append]
  by_cases h : evaluation.proposalId = id <;> simp [h]

/-- The history of a proposal has its evaluations. -/
lemma mem_history {r : EvaluationRow} :
    r ∈ db.history id ↔ r ∈ db.evaluations ∧ r.proposalId = id := by
  simp [Database.history]

/-- What holds of the evaluations of a store. -/
structure Genealogy (db : Database) : Prop where
  ids : (db.evaluations.map EvaluationRow.id).Nodup
  canonical : ∀ r ∈ db.evaluations, isUuid r.id = true
  homes : ∀ r ∈ db.evaluations, ∃ p ∈ db.proposals, p.id = r.proposalId
  evaluated : ∀ p ∈ db.proposals, ∃ r ∈ db.evaluations, r.proposalId = p.id
  linked : ∀ id, Linked none (db.history id)

/-- A proposal that is not stored has no history. -/
lemma Genealogy.history_nil (g : Genealogy db) (h : ∀ p ∈ db.proposals, p.id ≠ id) :
    db.history id = [] := by
  rw [List.eq_nil_iff_forall_not_mem]
  intro r hr
  obtain ⟨hr, home⟩ := mem_history.mp hr
  obtain ⟨p, hp, he⟩ := g.homes r hr
  exact h p hp (he.trans home)

/-- A new evaluation that names the latest one keeps the genealogy. -/
lemma Genealogy.append (g : Genealogy db) {proposals : List ProposalRow}
    (fresh : Fresh EvaluationRow.id db.evaluations evaluation)
    (canonical : isUuid evaluation.id = true)
    (stored : ∀ p ∈ db.proposals, p ∈ proposals)
    (home : ∃ p ∈ proposals, p.id = evaluation.proposalId)
    (others : ∀ p ∈ proposals, p ∈ db.proposals ∨ p.id = evaluation.proposalId)
    (prior : evaluation.priorEvaluationId =
      (db.latest evaluation.proposalId).map EvaluationRow.id) :
    Genealogy { db with proposals := proposals, evaluations := db.evaluations ++ [evaluation] } where
  ids := by
    rw [List.map_append, List.nodup_append]
    refine ⟨g.ids, List.nodup_singleton _, ?_⟩
    intro a ha b hb
    obtain ⟨r, hr, rfl⟩ := List.mem_map.mp ha
    rw [List.map_singleton, List.mem_singleton] at hb
    exact hb ▸ fresh r hr
  canonical r hr := by
    rcases List.mem_append.mp hr with hr | hr
    · exact g.canonical r hr
    · exact List.mem_singleton.mp hr ▸ canonical
  homes r hr := by
    rcases List.mem_append.mp hr with hr | hr
    · obtain ⟨p, hp, he⟩ := g.homes r hr
      exact ⟨p, stored p hp, he⟩
    · exact List.mem_singleton.mp hr ▸ home
  evaluated p hp := by
    rcases others p hp with hp | hp
    · obtain ⟨r, hr, he⟩ := g.evaluated p hp
      exact ⟨r, List.mem_append_left _ hr, he⟩
    · exact ⟨evaluation, List.mem_append_right _ List.mem_cons_self, hp.symm⟩
  linked id := by
    rw [show Database.history { db with proposals := proposals, evaluations := _ } id =
      Database.history { db with evaluations := db.evaluations ++ [evaluation] } id from rfl,
      history_append]
    split
    · rename_i home
      refine linked_concat.mpr ⟨g.linked id, ?_⟩
      rw [prior, Option.or_none, ← home]
      rfl
    · exact g.linked id

end

section
variable [Engine] {db db' : Database} {c c' : Call}

/-- Every transaction keeps the genealogy. -/
lemma Genealogy.step (g : Genealogy db) (h : Runs db c db' c') : Genealogy db' := by
  obtain ⟨hp, he⟩ | ⟨p, s, r, row, evaluation, -, w, rfl⟩ | ⟨s, r, latest, evaluation, -, w, rfl⟩ :=
    runs_genealogy h
  · have history : ∀ id, db'.history id = db.history id := fun id => by
      rw [Database.history, he]
      rfl
    exact ⟨he ▸ g.ids, he ▸ g.canonical, he ▸ hp ▸ g.homes, he ▸ hp ▸ g.evaluated,
      fun id => history id ▸ g.linked id⟩
  · have home : row.id = evaluation.proposalId := by
      have value := w.evaluated.proposalId
      rw [w.proposal.id] at value
      exact Except.ok.inj value
    have prior : evaluation.priorEvaluationId = none := by
      have value := w.evaluated.prior
      rw [w.prior] at value
      exact (Except.ok.inj value).symm
    refine g.append w.fresh (castUuid_canonical w.evaluated.id)
      (fun q hq => List.mem_append_left _ hq)
      ⟨row, List.mem_append_right _ List.mem_cons_self, home⟩ (fun q hq => ?_) ?_
    · rcases List.mem_append.mp hq with hq | hq
      · exact .inl hq
      · exact .inr (List.mem_singleton.mp hq ▸ home)
    · rw [prior, Database.latest, g.history_nil (home ▸ w.new)]
      rfl
  · obtain ⟨hl, home⟩ := mem_history.mp (List.mem_of_getLast? w.isLatest)
    have prior : evaluation.priorEvaluationId = some latest.id := by
      have value := w.evaluated.prior
      rw [w.prior, castOptUuid, castUuid_self (g.canonical _ hl)] at value
      exact (Except.ok.inj value).symm
    refine g.append w.fresh (castUuid_canonical w.evaluated.id) (fun q hq => hq)
      (home ▸ g.homes latest hl) (fun q hq => .inl hq) ?_
    rw [prior, w.isLatest]
    rfl

/-- Every reachable store has a genealogy. -/
lemma reachable_genealogy {k : Config Database Call} {guard}
    (h : clients.ReachableUnder guard emptyStore k) : Genealogy k.store := by
  refine Protocol.store_invariant (P := clients) (I := Genealogy) ?_ ?_ h
  · exact ⟨List.nodup_nil, fun _ h => absurd h List.not_mem_nil,
      fun _ h => absurd h List.not_mem_nil, fun _ h => absurd h List.not_mem_nil, fun _ => trivial⟩
  · intro s _ c s' c' g hr _
    exact g.step hr

end

end GAM
