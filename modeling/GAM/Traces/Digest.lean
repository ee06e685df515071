import GAM.Lib.JsonParse
import GAM.Traces.Canonical

/-!
# Records that always have a digest

A record without numbers has a canonical encoding whatever its texts are. So every finalized and
every BLOCKED result has a digest, and so has every prior trace.
-/

namespace GAM
open Lib

section
variable [Platform]

@[simp] lemma encodes_enum {type member : String} :
    Encodes (.enum type member) ↔ (enumTag type).isSome = true := by
  unfold Encodes canonicalValue
  cases enumTag type <;> simp [reject]

attribute [simp] enumTag

@[simp] lemma encodes_option {α : Type} [ToValue α] {o : Option α} :
    Encodes (toValue o) ↔ ∀ a ∈ o, Encodes (toValue a) := by
  cases o <;> simp

@[simp] lemma EvidenceRef.encodes (r : EvidenceRef) : Encodes (toValue r) := by
  rw [show toValue r = .record _ from rfl]
  simp

@[simp] lemma EvidenceGap.encodes (r : EvidenceGap) : Encodes (toValue r) := by
  rw [show toValue r = .record _ from rfl]
  simp

@[simp] lemma DependencyRef.encodes (r : DependencyRef) : Encodes (toValue r) := by
  rw [show toValue r = .record _ from rfl]
  simp

@[simp] lemma OperatorTraceStep.encodes (r : OperatorTraceStep) : Encodes (toValue r) := by
  rw [show toValue r = .record _ from rfl]
  simp

@[simp] lemma ReducerTraceStep.encodes (r : ReducerTraceStep) : Encodes (toValue r) := by
  rw [show toValue r = .record _ from rfl]
  simp

@[simp] lemma TraceStep.encodes (r : TraceStep) : Encodes (toValue r) := by
  cases r with
  | operator r => exact r.encodes
  | reducer r => exact r.encodes

/-- A finalized result has a digest. -/
lemma checkResultDigest_ok (r : CheckResult) : ∃ d, checkResultDigest r = .ok d := by
  refine Encodes.digest ?_
  rw [show checkPayload r = .dict _ from rfl, encodes_dict]
  · simp
  · simp
  · simp only [List.forall_mem_append, List.mem_cons, List.not_mem_nil, or_false, forall_eq_or_imp,
      forall_eq]
    simp
    decide

/-- A BLOCKED result has a digest. -/
lemma blockedResultDigest_ok (r : BlockedResult) : ∃ d, blockedResultDigest r = .ok d := by
  refine Encodes.digest ?_
  rw [show blockedPayload r = .dict _ from rfl, encodes_dict]
  · simp
  · simp
  · simp only [List.forall_mem_append, List.mem_cons, List.not_mem_nil, or_false, forall_eq_or_imp,
      forall_eq]
    simp
    decide

/-! ### The order of the members of a mapping -/

/-- The member of the encoded mapping for a member of a mapping that is encoded. -/
def encodedMember (f : String × Value) : String × Json :=
  (nfc f.1, ((canonicalValue f.2).toOption).getD .null)

/-- A mapping that is encoded is encoded member by member. -/
lemma normalizedMapping_eq {l : List (String × Value)} {seen ms}
    (h : normalizedMapping seen l = .ok ms) : ms = l.map encodedMember := by
  induction l generalizing seen ms with
  | nil =>
    cases h
    rfl
  | cons f l ih =>
    obtain ⟨key, v⟩ := f
    simp only [normalizedMapping, bind_eq_ok, pure_eq_ok, Except.ok.injEq, ensure_eq_ok,
      exists_unit] at h
    obtain ⟨-, j, hj, ms', h', rfl⟩ := h
    rw [List.map_cons, ← ih h', encodedMember, hj]
    rfl

/-- The digest of a mapping does not depend on the order of its members. -/
lemma canonicalSha256_perm {l l' : List (String × Value)} {d : String} (p : l.Perm l')
    (h : canonicalSha256 (.dict l) = .ok d) : canonicalSha256 (.dict l') = .ok d := by
  simp only [canonicalSha256_eq_ok, canonicalValue, bind_eq_ok, pure_eq_ok, Except.ok.injEq,
    Value.isUnicode_dict] at h
  obtain ⟨us, _, ⟨ms, hms, rfl⟩, rfl⟩ := h
  obtain ⟨nd, -, encodes⟩ := (encodes_mapping l []).mp ⟨us, ms, hms⟩
  obtain ⟨us', ms', hms'⟩ : (∀ f ∈ l', f.2.isUnicode = true) ∧
      ∃ ms', normalizedMapping [] l' = .ok ms' := by
    refine (encodes_mapping l' []).mpr ⟨(p.map _).nodup_iff.mp nd, by simp, fun f hf => ?_⟩
    exact encodes f (p.mem_iff.mpr hf)
  have keys : (ms.map Prod.fst).Nodup := by
    rw [normalizedMapping_eq hms, List.map_map]
    exact nd
  have perm : ms.Perm ms' := by
    rw [normalizedMapping_eq hms, normalizedMapping_eq hms']
    exact p.map _
  have sorted : (Json.obj ms).sortKeys = (Json.obj ms').sortKeys := by
    rw [Json.sortKeys, Json.sortKeys, sortMembers_eq, sortMembers_eq]
    refine congrArg Json.obj (sortedBy_eq_of_perm (perm.map _) ?_)
    have nd' : ((ms.map fun m => (m.1, m.2.sortKeys)).map Prod.fst).Nodup := by
      rw [List.map_map]
      exact keys
    exact fun a ha b hb e => List.inj_on_of_nodup_map nd' ha hb e
  refine canonicalSha256_eq_ok.mpr ⟨Value.isUnicode_dict.mpr us', .obj ms', ?_, ?_⟩
  · simp only [canonicalValue, hms', ok_bind, pure_eq_ok]
  · simp only [Json.dumps, sorted]

/-- What a hashed mapping has under a key can be read in the hashed text. -/
lemma canonicalSha256_member {l : List (String × Value)} {d key : String} {v : Value} {j : Json}
    (h : canonicalSha256 (.dict l) = .ok d) (hm : (key, v) ∈ l) (hj : canonicalValue v = .ok j) :
    ∃ text ms, d = sha256 text ∧ Json.parse text = some (.obj ms) ∧
      ms.lookup (nfc key) = some j.sortKeys := by
  simp only [canonicalSha256_eq_ok, canonicalValue, bind_eq_ok, pure_eq_ok, Except.ok.injEq,
    Value.isUnicode_dict] at h
  obtain ⟨us, _, ⟨ms, hms, rfl⟩, rfl⟩ := h
  have nd := (normalizedMapping_nodup hms).1
  refine ⟨_, sortedBy Prod.fst (sortMembers ms), rfl, Json.parse_dumps _, ?_⟩
  have keys : ((sortedBy Prod.fst (sortMembers ms)).map Prod.fst).Nodup := by
    rw [(sortedBy_perm.map _).nodup_iff, sortMembers_eq, List.map_map, normalizedMapping_eq hms,
      List.map_map]
    exact nd
  refine lookup_of_mem keys (mem_sortedBy.mpr ?_)
  rw [sortMembers_eq, normalizedMapping_eq hms, List.map_map]
  refine List.mem_map.mpr ⟨(key, v), hm, ?_⟩
  simp [encodedMember, hj, Except.toOption]

/-- What the encoding of a record holds under the name of a field. -/
lemma canonicalValue_field {fields : List (String × Value)} {name : String} {v : Value} {j k : Json}
    (nd : (fields.map Prod.fst).Nodup) (h : canonicalValue (.record fields) = .ok j)
    (hm : (name, v) ∈ fields) (hk : canonicalValue v = .ok k) :
    j.sortKeys.get? name = some k.sortKeys := by
  simp only [canonicalValue, bind_eq_ok, pure_eq_ok, Except.ok.injEq] at h
  obtain ⟨ms, hms, rfl⟩ := h
  have each := canonicalFields_forall₂ hms
  have names : fields.map Prod.fst = ms.map Prod.fst := forall₂_keys each fun _ _ h => h.1
  have keys : ((sortedBy Prod.fst (sortMembers ms)).map Prod.fst).Nodup := by
    rw [(sortedBy_perm.map _).nodup_iff, sortMembers_eq, List.map_map]
    exact names ▸ nd
  obtain ⟨m, member, rfl, hv⟩ := forall₂_mem_left each _ hm
  have same : m.2 = k := Except.ok.inj (hv.symm.trans hk)
  refine lookup_of_mem keys (mem_sortedBy.mpr ?_)
  rw [sortMembers_eq, ← same]
  exact List.mem_map_of_mem member

end

end GAM
