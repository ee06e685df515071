import GAM.System.Executions

/-!
# The chain of effects

The effects under one key are a chain without gaps, and each of them is authorized by an approved
decision on a finalized evaluation of its proposal (`effects_authorized`).
-/

namespace GAM
open Lib

section
variable [Engine] {db db' later : Database}

/-! ### The chain of a key -/

/-- The effects under a key, in commit order. -/
def Database.effectsUnder (db : Database) (key : String) : List EffectRow :=
  db.effects.filter fun e => e.effectKey = key

/-- The effect is the next one after `prior`, or the first one. -/
structure EffectRow.Follows (prior : Option EffectRow) (e : EffectRow) : Prop where
  version : e.effectVersion = prior.elim 1 fun p => p.effectVersion + 1
  priorId : e.priorEffectId = prior.map EffectRow.id
  priorVersion : e.priorEffectVersion = prior.map EffectRow.effectVersion
  before : e.beforeEffectDigest = prior.elim zeroDigest EffectRow.effectDigest

/-- Under every key the effects follow one another. -/
structure EffectChains (db : Database) : Prop where
  ids : ∀ e ∈ db.effects, isUuid e.id = true
  chains : ∀ key, Chained EffectRow.Follows none (db.effectsUnder key)

omit [Engine] in
/-- The current effect under a key is the last one of its chain. -/
lemma EffectChains.current (h : EffectChains db) (key : String) :
    db.currentEffect key = (db.effectsUnder key).getLast? :=
  (h.chains key).argmax fun _ _ follows => follows.version

/-- A written effect follows the current one under its key. -/
lemma ObservedWrite.follows {command : DemoExecutionCommand} {failed : FailedEffect}
    {effect row : EffectRow} {receipt : ExecutionReceipt}
    (w : ObservedWrite db command failed effect row receipt) (h : EffectChains db) :
    row.Follows (db.currentEffect row.effectKey) := by
  obtain ⟨effectId, digest, next⟩ := w.next
  have key : row.effectKey = failed.effectKey := by
    rw [w.columns.rest, next]
    rfl
  have stored : ∀ id ∈ (db.currentEffect failed.effectKey).map EffectRow.id, isUuid id = true := by
    intro id hid
    obtain ⟨e, he, rfl⟩ := Option.map_eq_some_iff.mp hid
    exact h.ids e (List.mem_filter.mp (List.argmax_mem he)).1
  have prior := w.columns.prior
  rw [show effect.priorEffectId = (db.currentEffect failed.effectKey).map EffectRow.id by rw [next]; rfl,
    castOptUuid_self stored] at prior
  rw [key]
  constructor
  · rw [w.columns.rest, next]
    rfl
  · exact (Except.ok.inj prior).symm
  · rw [w.columns.rest, next]
    rfl
  · rw [w.columns.rest, next]
    exact w.authority.before

/-- Every transaction keeps the chains. -/
lemma EffectChains.step {c c' : Call} (h : EffectChains db) (run : Runs db c db' c') :
    EffectChains db' := by
  obtain ⟨effects, -⟩ | ⟨_, _, _, _, row, _, _, -, write, rfl⟩ | ⟨_, _, _, -, -, rfl⟩ :=
    runs_executions run
  · constructor
    · rw [effects]
      exact h.ids
    · simpa only [Database.effectsUnder, effects] using h.chains
  · constructor
    · intro e he
      rcases List.mem_append.mp he with he | he
      · exact h.ids e he
      · rw [List.mem_singleton.mp he]
        exact castUuid_canonical write.columns.id
    · intro key
      rw [Database.effectsUnder, List.filter_append, List.filter_singleton]
      by_cases same : row.effectKey = key
      · rw [decide_eq_true same, cond_true]
        refine chained_concat.mpr ⟨h.chains key, ?_⟩
        have follows := write.follows h
        rw [same, h.current key] at follows
        rw [Option.or_none]
        exact follows
      · rw [decide_eq_false same, cond_false, List.append_nil]
        exact h.chains key
  · exact ⟨h.ids, h.chains⟩

omit [Engine] in
lemma EffectChains.empty : EffectChains emptyStore :=
  ⟨fun _ h => absurd h List.not_mem_nil, fun _ => trivial⟩

/-- In every reachable state the effects of a key are chained. -/
lemma reachable_effectChains {guard} {k : Config Database Call}
    (h : clients.ReachableUnder guard emptyStore k) : EffectChains k.store :=
  Protocol.store_invariant (P := clients) EffectChains.empty
    (fun _ _ _ _ _ chains run _ => chains.step run) h

/-! ### The authority of an effect -/

/-- Every decision is about a finalized evaluation of its proposal. -/
def DecisionsRefer (db : Database) : Prop :=
  ∀ d ∈ db.decisions, ∃ g ∈ db.evaluations, g.id = d.evaluationId ∧ g.proposalId = d.proposalId ∧
    g.traceDigest = d.evaluationTraceDigest ∧ g.status = .finalized

/-- One step keeps the decisions referring to evaluations. -/
lemma DecisionsRefer.step {c c' : Call} (h : DecisionsRefer db) (run : Runs db c db' c') :
    DecisionsRefer db' := by
  have kept := (runs_grows run).evaluations.subset
  obtain ⟨decisions, -⟩ | ⟨_, _, _, _, row, _, -, write, rfl⟩ := runs_decisions run
  · intro d hd
    rw [decisions] at hd
    obtain ⟨g, hg, refers⟩ := h d hd
    exact ⟨g, kept hg, refers⟩
  · intro d hd
    rcases List.mem_append.mp hd with hd | hd
    · exact h d hd
    · have inserted := write.inserted
      simp only [insertDecision, bind_eq_ok, ensure_eq_ok, exists_unit] at inserted
      obtain ⟨-, -, ⟨-, g, hg, same⟩, -⟩ := inserted
      rw [List.mem_singleton.mp hd]
      simp only [Prod.mk.injEq] at same
      exact ⟨g, hg, same⟩

/-- The records that authorize an effect: the approved decision `d`, its finalized evaluation `g`, and
the proposal, stored as `r` and loaded as `p`. -/
structure Authorizes (d : DecisionRecord) (g : EvaluationRow) (r : ProposalRow) (p : Proposal)
    (e : EffectRow) : Prop where
  approved : d.decision = .approve
  finalized : g.status = .finalized
  about : d.evaluationId = g.id ∧ d.evaluationTraceDigest = g.traceDigest ∧ d.proposalId = r.id ∧
    g.proposalId = r.id
  decision : e.decisionId = d.decisionId ∧ e.decisionDigest = d.decisionDigest
  evaluation : e.evaluationId = g.id ∧ e.evaluationTraceDigest = g.traceDigest
  proposal : e.proposalId = r.id ∧ e.actionDigest = r.actionDigest
  loaded : proposalFromMapping r.mapping = .ok p
  target : r.target = "demo_kv:" ++ e.effectKey
  value : ∃ value, jsonScalar p.parametersJson = .ok value ∧ databaseJson e.effectValue = .ok value

/-- Every effect is authorized by stored records. -/
def EffectsAuthorized (db : Database) : Prop :=
  ∀ e ∈ db.effects, ∃ d ∈ db.decisions, ∃ g ∈ db.evaluations, ∃ r ∈ db.proposals, ∃ p,
    Authorizes d g r p e

/-- The checks of an effect leave the key and the value of the proposal. -/
lemma validateEffect_ok {p : Proposal} {key value : String}
    (h : validateEffect p = .ok (key, value)) :
    p.target = "demo_kv:" ++ key ∧ jsonScalar p.parametersJson = .ok value := by
  simp only [validateEffect, bind_eq_ok, ensure_eq_ok, exists_unit, pure_eq_ok, Except.ok.injEq,
    Prod.mk.injEq] at h
  obtain ⟨-, ⟨⟨rest, split⟩, -⟩, -, -, scalar, hs, rfl, rfl⟩ := h
  refine ⟨?_, hs⟩
  rw [← String.toList_inj, ← split, String.toList_append, List.drop_left]
  exact congrArg _ String.toList_ofList.symm

/-- What an execution has loaded authorizes the effect that it writes. -/
lemma ObservedWrite.authorized {command : DemoExecutionCommand} {failed : FailedEffect}
    {effect row : EffectRow} {receipt : ExecutionReceipt}
    (w : ObservedWrite db command failed effect row receipt) (refer : DecisionsRefer db) :
    ∃ d ∈ db.decisions, ∃ g ∈ db.evaluations, ∃ r ∈ db.proposals, ∃ p,
      Authorizes d g r p row := by
  obtain ⟨d, hd, binding⟩ := w.bound.decision
  simp only [DecisionRecord.binding, Prod.mk.injEq] at binding
  obtain ⟨id, value, proposal, evaluation, trace, digest⟩ := binding
  obtain ⟨g, hg, gid, gproposal, gtrace, final⟩ := refer d hd
  have read := w.authority.proposal
  rw [getProposal, bind_eq_ok] at read
  obtain ⟨r, found, loaded⟩ := read
  obtain ⟨hr, -⟩ := findRow_ok found
  obtain ⟨pid, target, action⟩ := proposalFromMapping_row loaded
  obtain ⟨named, scalar⟩ := validateEffect_ok w.authority.effect
  obtain ⟨effectId, digest', next⟩ := w.next
  have stored : row.proposalId = r.id := by
    have cast := w.columns.proposalId
    rw [next] at cast
    have cast : castUuid failed.proposal.proposalId = .ok row.proposalId := cast
    rw [pid, castUuid_idem (findRow_ok found).2] at cast
    exact (Except.ok.inj cast).symm
  have key : row.effectKey = failed.effectKey := by
    rw [w.columns.rest, next]
    rfl
  have rowAction : row.actionDigest = r.actionDigest := by
    rw [w.columns.rest, next, ← action]
    rfl
  refine ⟨d, hd, g, hg, r, hr, failed.proposal, ?_⟩
  exact
    { approved := value.trans w.bound.value
      finalized := final
      about := ⟨gid.symm, gtrace.symm, proposal.trans stored, gproposal.trans (proposal.trans stored)⟩
      decision := ⟨id.symm, digest.symm⟩
      evaluation := ⟨(gid.trans evaluation).symm, (gtrace.trans trace).symm⟩
      proposal := ⟨stored, rowAction⟩
      loaded := loaded
      target := by rw [← target, named, key]
      value := ⟨failed.valueJson, scalar, by rw [w.value, next]; rfl⟩ }

/-- Every transaction keeps the authority of the effects. -/
lemma EffectsAuthorized.step {c c' : Call} (h : EffectsAuthorized db) (refer : DecisionsRefer db)
    (run : Runs db c db' c') : EffectsAuthorized db' := by
  have grown := runs_grows run
  have kept : ∀ e, (∃ d ∈ db.decisions, ∃ g ∈ db.evaluations, ∃ r ∈ db.proposals, ∃ p,
      Authorizes d g r p e) → ∃ d ∈ db'.decisions, ∃ g ∈ db'.evaluations, ∃ r ∈ db'.proposals, ∃ p,
        Authorizes d g r p e := by
    rintro e ⟨d, hd, g, hg, r, hr, authorizes⟩
    exact ⟨d, grown.decisions.subset hd, g, grown.evaluations.subset hg, r,
      grown.proposals.subset hr, authorizes⟩
  intro e he
  apply kept
  obtain ⟨effects, -⟩ | ⟨_, _, _, _, row, _, _, -, write, rfl⟩ | ⟨_, _, _, -, -, rfl⟩ :=
    runs_executions run
  · exact h e (effects ▸ he)
  · rcases List.mem_append.mp he with he | he
    · exact h e he
    · rw [List.mem_singleton.mp he]
      exact write.authorized refer
  · exact h e he

/-- In every reachable state the effects are authorized. -/
lemma reachable_authorized {guard} {k : Config Database Call}
    (h : clients.ReachableUnder guard emptyStore k) :
    DecisionsRefer k.store ∧ EffectsAuthorized k.store :=
  Protocol.store_invariant (P := clients) (I := fun db => DecisionsRefer db ∧ EffectsAuthorized db)
    ⟨fun _ h => absurd h List.not_mem_nil, fun _ h => absurd h List.not_mem_nil⟩
    (fun _ _ _ _ _ inv run _ => ⟨inv.1.step run, inv.2.step inv.1 run⟩) h

/-- Effects in commit order are a chain of versions: numbered from one, the first without a prior
effect, every other one after the effect committed before it. -/
structure VersionChain (l : List EffectRow) : Prop where
  versions : l.map EffectRow.effectVersion = List.range' 1 l.length
  first : ∀ e ∈ l.head?, e.priorEffectId = none ∧ e.priorEffectVersion = none ∧
    e.beforeEffectDigest = zeroDigest
  next : ∀ i (hi : i + 1 < l.length), l[i + 1].priorEffectId = some l[i].id ∧
    l[i + 1].priorEffectVersion = some l[i].effectVersion ∧
    l[i + 1].beforeEffectDigest = l[i].effectDigest

omit [Engine] in
/-- The effects of a key are a chain of versions. -/
lemma EffectChains.versionChain (h : EffectChains db) (key : String) :
    VersionChain (db.effectsUnder key) where
  versions := (h.chains key).numbers fun _ _ follows => follows.version
  first := by
    have chain := h.chains key
    intro e he
    cases under : db.effectsUnder key with
    | nil =>
      rw [under] at he
      cases he
    | cons a l =>
      rw [under] at he chain
      cases he
      exact ⟨chain.1.priorId, chain.1.priorVersion, chain.1.before⟩
  next := by
    intro i hi
    have follows := (h.chains key).next i hi
    exact ⟨follows.priorId, follows.priorVersion, follows.before⟩

/-- In every reachable store the effects of every key are a chain of versions, and every effect is
authorized by an approved decision on a finalized evaluation of the proposal that asks for it. -/
theorem effects_authorized {k : Config Database Call} (h : clients.Reachable emptyStore k) :
    (∀ key, VersionChain (k.store.effectsUnder key)) ∧ EffectsAuthorized k.store :=
  ⟨(reachable_effectChains h).versionChain, (reachable_authorized h).2⟩

end

/-- The effect of the smallest proposal is the first of its chain and authorized. -/
theorem effects_authorized_first :
    let _ := codecEngine
    ∃ k : Config Database Call, clients.Reachable emptyStore k ∧ k.store.effectsUnder "alpha" ≠ [] ∧
      (∀ key, VersionChain (k.store.effectsUnder key)) ∧ EffectsAuthorized k.store := by
  intro _
  obtain ⟨k, row, reached, stored, key⟩ := codec_observed
  refine ⟨k, reached, ?_, effects_authorized reached⟩
  exact List.ne_nil_of_mem (List.mem_filter.mpr ⟨stored, decide_eq_true key⟩)

end GAM
