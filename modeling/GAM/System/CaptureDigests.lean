import GAM.Agent.Capture
import GAM.System.PrintedValues

/-!
# The digest of a capture

The adapter digests what `json.dumps` writes, the memory what `_plain_json` writes. Both write a document
of texts, integers, lists and objects as its tree with the keys in order, so the record that is made of a
payload has the payload's digest. The record that is read back has been through decimals of 28 digits, which
keep the integers of up to 28 digits; the target that a capture is bound to holds texts only.
-/

namespace GAM
open Lib

/-! ### Documents and their trees -/

/-- The integer of a token without fraction and exponent. -/
def integerOf (n : Number) : Int := if n.neg then -n.int else n.int

lemma integerOf_ofInt {i : Int} : integerOf (.ofInt i) = i := by
  simp only [integerOf, Number.ofInt, decide_eq_true_eq]
  split <;> omega

mutual

/-- The value of a tree whose numbers are integers. -/
def integerValue : Json → Value
  | .null | .constant _ => .none
  | .bool b => .bool b
  | .num n => .int (integerOf n)
  | .str s => .str s
  | .arr l => .list (integerElems l)
  | .obj l => .dict (integerMembers l)

/-- The items of an array. -/
def integerElems : List Json → List Value
  | [] => []
  | j :: l => integerValue j :: integerElems l

/-- The members of an object. -/
def integerMembers : List (String × Json) → List (String × Value)
  | [] => []
  | (k, j) :: l => (k, integerValue j) :: integerMembers l

end

lemma integerElems_eq {l : List Json} : integerElems l = l.map integerValue := by
  induction l with
  | nil => rfl
  | cons j l ih => rw [integerElems, ih, List.map_cons]

lemma integerMembers_eq {l : List (String × Json)} :
    integerMembers l = l.map fun m => (m.1, integerValue m.2) := by
  induction l with
  | nil => rfl
  | cons m l ih => rw [integerMembers, ih, List.map_cons]

/-- No constant of the dialect, no repeated key, and a number is the token of an integer. -/
def Whole : Json → Prop
  | .constant _ => False
  | .num n => n = .ofInt (integerOf n)
  | .obj l => (l.map Prod.fst).Nodup
  | _ => True

lemma Whole.distinct {p : Json} (h : Whole p) : Distinct p := by
  cases p with
  | constant c => exact h
  | obj l => exact h
  | null | bool | num | str | arr => trivial

/-- A tree with the keys in order is whole. -/
lemma whole_sortKeys {j : Json} (h : ∀ p ∈ j.parts, Whole p) : ∀ p ∈ j.sortKeys.parts, Whole p := by
  intro p hp
  obtain ⟨q, hq, rfl⟩ := mem_parts_sortKeys.mp hp
  have part := h q hq
  cases q with
  | obj l =>
    rw [Json.sortKeys, Whole, sortMembers_eq]
    refine (sortedBy_perm.map _).nodup_iff.mpr ?_
    rw [List.map_map]
    exact part
  | null | bool | constant | num | str | arr => exact part

lemma dumpsElems_eq {l : List Value} : dumpsElems l = mapAll dumpsValue l := by
  induction l with
  | nil => rfl
  | cons v l ih => rw [dumpsElems, mapAll, ih]

lemma sorted_obj {f : Number → List Char} {ms : List (String × Json)} :
    (Json.obj ms).sortKeys.printWith f = commaSeparated '\x7b' '\x7d'
      ((sortedBy Prod.fst ms).map fun m => stringChars m.1 ++ ':' :: m.2.sortKeys.printWith f) := by
  rw [Json.sortKeys, ← commaSeparated_obj, sortMembers_eq, @sortedBy_map _ _ _ Prod.fst ms _ Prod.fst
    (fun m : String × Json => (m.1, m.2.sortKeys)) fun _ => rfl, List.map_map]
  rfl

lemma sorted_arr {f : Number → List Char} {l : List Json} :
    (Json.arr l).sortKeys.printWith f =
      commaSeparated '[' ']' (l.map fun j => j.sortKeys.printWith f) := by
  rw [Json.sortKeys, ← commaSeparated_arr, sortElems_eq, List.map_map]
  rfl

lemma intChars_integerOf {n : Number} (h : n = .ofInt (integerOf n)) : intChars (integerOf n) = n.print := by
  rw [intChars_ofInt, ← h]

/-- `json.dumps` writes a document as its tree with the keys in order. -/
lemma dumpsValue_integer {j : Json} (whole : ∀ p ∈ j.parts, Whole p) :
    dumpsValue (integerValue j) = .ok (j.sortKeys.printWith Number.print) := by
  induction j using Json.induction with
  | null | str => rfl
  | bool b => cases b <;> rfl
  | constant c => exact (whole _ (Json.mem_parts _)).elim
  | num n =>
    rw [integerValue, dumpsValue, intChars_integerOf (whole _ (Json.mem_parts _))]
    rfl
  | arr l ih =>
    obtain ⟨-, inner⟩ := forall_parts_arr.mp whole
    rw [integerValue, dumpsValue, dumpsElems_eq, integerElems_eq, mapAll_map,
      mapAll_of_ok fun j hj => ih j hj (inner j hj), sorted_arr]
    rfl
  | obj ms ih =>
    obtain ⟨-, inner⟩ := forall_parts_obj.mp whole
    have members : dumpsMembers (integerMembers ms) =
        .ok (ms.map fun m => (m.1, m.2.sortKeys.printWith Number.print)) := by
      clear whole
      induction ms with
      | nil => rfl
      | cons m ms rest =>
        rw [List.forall_mem_cons] at ih inner
        rw [integerMembers, dumpsMembers, ih.1 inner.1, ok_bind, rest ih.2 inner.2]
        rfl
    rw [integerValue, dumpsValue, members, ok_bind, sorted_obj,
      @sortedBy_map _ _ _ Prod.fst ms _ Prod.fst
        (fun m : String × Json => (m.1, m.2.sortKeys.printWith Number.print)) fun _ => rfl, List.map_map]
    rfl

/-- `_plain_json_value` writes a document as its tree with the keys in order. -/
lemma plainJsonValue_integer {j : Json} (whole : ∀ p ∈ j.parts, Whole p) :
    plainJsonValue (integerValue j) = .ok (j.sortKeys.printWith Number.print) := by
  induction j using Json.induction with
  | null | str => rfl
  | bool b => cases b <;> rfl
  | constant c => exact (whole _ (Json.mem_parts _)).elim
  | num n =>
    rw [integerValue, plainJsonValue, intChars_integerOf (whole _ (Json.mem_parts _))]
    rfl
  | arr l ih =>
    obtain ⟨-, inner⟩ := forall_parts_arr.mp whole
    rw [integerValue, plainJsonValue, plainElems_eq, integerElems_eq, mapAll_map,
      mapAll_of_ok fun j hj => ih j hj (inner j hj), sorted_arr]
    rfl
  | obj ms ih =>
    obtain ⟨-, inner⟩ := forall_parts_obj.mp whole
    have texts : sortedBy Prod.fst (plainMemberTexts (integerMembers ms)) =
        (sortedBy Prod.fst ms).map fun m => (m.1, plainJsonValue (integerValue m.2)) := by
      rw [plainMemberTexts_eq, integerMembers_eq, List.map_map]
      exact @sortedBy_map _ _ _ Prod.fst ms _ Prod.fst
        (fun m : String × Json => (m.1, plainJsonValue (integerValue m.2))) fun _ => rfl
    have member (m : String × Json) (hm : m ∈ sortedBy Prod.fst ms) :
        (do
          let text ← plainJsonValue (integerValue m.2)
          return stringChars m.1 ++ ':' :: text : Except PyError (List Char)) =
            .ok (stringChars m.1 ++ ':' :: m.2.sortKeys.printWith Number.print) := by
      rw [ih m (mem_sortedBy.mp hm) (inner m (mem_sortedBy.mp hm))]
      rfl
    rw [integerValue, plainJsonValue, plainMembers, texts, mapAll_map, mapAll_of_ok member, ok_bind,
      sorted_obj]
    rfl

/-- The integers of a document are the numbers of its tree. -/
lemma mem_integersOf {j : Json} {i : Int} :
    i ∈ integersOf (integerValue j) ↔ ∃ n, .num n ∈ j.parts ∧ integerOf n = i := by
  induction j using Json.induction with
  | null | bool | constant | str => simp [integerValue, integersOf, Json.parts]
  | num n => simp [integerValue, integersOf, Json.parts, eq_comm]
  | arr l ih =>
    have elems : i ∈ integersOfElems (integerElems l) ↔ ∃ j ∈ l, i ∈ integersOf (integerValue j) := by
      clear ih
      induction l with
      | nil => simp [integerElems, integersOfElems]
      | cons j l ih => simp [integerElems, integersOfElems, ih]
    rw [integerValue, integersOf, elems]
    simp only [mem_parts_arr, reduceCtorEq, false_or]
    constructor
    · rintro ⟨j, hj, h⟩
      obtain ⟨n, hn, e⟩ := (ih j hj).mp h
      exact ⟨n, ⟨j, hj, hn⟩, e⟩
    · rintro ⟨n, ⟨j, hj, hn⟩, e⟩
      exact ⟨j, hj, (ih j hj).mpr ⟨n, hn, e⟩⟩
  | obj ms ih =>
    have members : i ∈ integersOfMembers (integerMembers ms) ↔
        ∃ m ∈ ms, i ∈ integersOf (integerValue m.2) := by
      clear ih
      induction ms with
      | nil => simp [integerMembers, integersOfMembers]
      | cons m ms ih => simp [integerMembers, integersOfMembers, ih]
    rw [integerValue, integersOf, members]
    simp only [mem_parts_obj, reduceCtorEq, false_or]
    constructor
    · rintro ⟨m, hm, h⟩
      obtain ⟨n, hn, e⟩ := (ih m hm).mp h
      exact ⟨n, ⟨m, hm, hn⟩, e⟩
    · rintro ⟨n, ⟨m, hm, hn⟩, e⟩
      exact ⟨m, hm, (ih m hm).mpr ⟨n, hn, e⟩⟩

/-- The interpreter's limit on the digits of an integer holds for every number. -/
def Short (j : Json) : Prop := ∀ n, .num n ∈ j.parts → (natChars n.int).length ≤ maxIntDigits

lemma loadElems_eq {l : List Json} : loadElems l = mapAll loadValue l := by
  induction l with
  | nil => rfl
  | cons j l ih => rw [loadElems, mapAll, ih]

/-- `json.loads` reads a tree as its document, when it reads it. -/
lemma loadValue_integer {j : Json} (whole : ∀ p ∈ j.parts, Whole p) (short : Short j) :
    loadValue j = .ok (integerValue j) := by
  induction j using Json.induction with
  | null | bool | str => rfl
  | constant c => exact (whole _ (Json.mem_parts _)).elim
  | num n =>
    have token : n = .ofInt (integerOf n) := whole _ (Json.mem_parts _)
    have plain : n.frac = [] ∧ n.exp = none := by
      rw [token]
      exact ⟨rfl, rfl⟩
    rw [loadValue, loadNumber, if_pos plain, if_neg (Nat.not_lt.mpr (short n (Json.mem_parts _)))]
    rfl
  | arr l ih =>
    obtain ⟨-, inner⟩ := forall_parts_arr.mp whole
    have each (j : Json) (hj : j ∈ l) : loadValue j = .ok (integerValue j) :=
      ih j hj (inner j hj) fun n hn => short n (mem_parts_arr.mpr (.inr ⟨j, hj, hn⟩))
    rw [loadValue, loadElems_eq, mapAll_of_ok each, integerValue, integerElems_eq]
    rfl
  | obj ms ih =>
    obtain ⟨nd, inner⟩ := forall_parts_obj.mp whole
    have each (m : String × Json) (hm : m ∈ ms) : loadValue m.2 = .ok (integerValue m.2) :=
      ih m hm (inner m hm) fun n hn => short n (mem_parts_obj.mpr (.inr ⟨m, hm, hn⟩))
    have members : loadMembers ms = .ok (integerMembers ms) := by
      clear whole short ih nd inner
      induction ms with
      | nil => rfl
      | cons m ms rest =>
        rw [List.forall_mem_cons] at each
        rw [loadMembers, each.1, ok_bind, rest each.2]
        rfl
    have keys : ((integerMembers ms).map Prod.fst).Nodup := by
      rw [integerMembers_eq, List.map_map]
      exact nd
    rw [loadValue, members, ok_bind, lastWins_of_nodup keys, integerValue]
    rfl

/-- A tree that `json.loads` reads has short integers. -/
lemma short_of_loads {j : Json} {v : Value} (whole : ∀ p ∈ j.parts, Whole p) (h : loadValue j = .ok v) :
    Short j := by
  induction j using Json.induction generalizing v with
  | null | bool | str | constant =>
    intro n hn
    exact absurd (List.mem_singleton.mp hn) (fun same => by cases same)
  | num n =>
    intro m hm
    obtain rfl := Json.num.inj (List.mem_singleton.mp hm)
    have token : m = .ofInt (integerOf m) := whole _ (Json.mem_parts _)
    have plain : m.frac = [] ∧ m.exp = none := by
      rw [token]
      exact ⟨rfl, rfl⟩
    rw [loadValue, loadNumber, if_pos plain] at h
    split at h
    · cases h
    · exact Nat.not_lt.mp ‹_›
  | arr l ih =>
    obtain ⟨-, inner⟩ := forall_parts_arr.mp whole
    simp only [loadValue, loadElems_eq, bind_eq_ok] at h
    obtain ⟨vs, hvs, -⟩ := h
    intro n hn
    obtain ⟨j, hj, hn⟩ := (mem_parts_arr.mp hn).resolve_left (fun same => by cases same)
    obtain ⟨w, hw⟩ := mapAll_mem hvs j hj
    exact ih j hj (inner j hj) hw n hn
  | obj ms ih =>
    obtain ⟨-, inner⟩ := forall_parts_obj.mp whole
    simp only [loadValue, bind_eq_ok] at h
    obtain ⟨vs, hvs, -⟩ := h
    intro n hn
    obtain ⟨m, hm, hn⟩ := (mem_parts_obj.mp hn).resolve_left (fun same => by cases same)
    have rel := loadMembers_forall₂ hvs
    obtain ⟨w, -, -, hw⟩ := forall₂_mem_left rel m hm
    exact ih m hm (inner m hm) hw n hn

/-! ### Integers as decimals -/

/-- The token of a short integer as a decimal is the token of an integer. -/
lemma decimalToken_integer {i : Int} (short : (natChars i.natAbs).length ≤ maxIntDigits) :
    Prints (.ofInt i) ∧ ∃ i', decimalToken (.ofInt i) = .ofInt i' := by
  have decimal : Decimal.ofNumber (.ofInt i) = .finite (decide (i < 0)) i.natAbs 0 := rfl
  by_cases zero : i = 0
  · subst zero
    exact ⟨by decide, 0, by decide⟩
  · have large : Decimal.numDigits i.natAbs ≤ 999999 := short.trans (by decide)
    obtain ⟨m, hm, text⟩ := @Decimal.canonicalChars_integer (decide (i < 0)) _ (Int.natAbs_ne_zero.mpr zero) large
    have chars : decimalChars (.ofInt i) = Decimal.signChars (decide (i < 0)) ++ natChars m := by
      rw [decimalChars, decimal, text, Option.getD_some]
    refine ⟨by rw [Prints, chars]; exact text, if i < 0 then -m else m, ?_⟩
    have token : (Number.ofInt (if i < 0 then -m else m)).print = decimalChars (.ofInt i) := by
      rw [chars, ← intChars_ofInt, intChars]
      by_cases neg : i < 0
      · have minus : -(m : Int) < 0 := by omega
        simp [neg, hm, Decimal.signChars]
      · have plus : ¬(m : Int) < 0 := by omega
        simp [neg, plus, Decimal.signChars]
    rw [decimalToken, ← token]
    exact (Number.isToken _).tokenOf

/-- A short integer is within the limits of the constructor. -/
lemma accepts_ofInt {i : Int} (short : (natChars i.natAbs).length ≤ maxIntDigits) :
    Decimal.accepts (.ofInt i) = true := by
  refine Decimal.accepts_of_short rfl ?_
  have sign : (if (Number.ofInt i).neg then ['-'] else []).length ≤ 1 := by split <;> simp
  have size : (Number.ofInt i).print.length ≤ 1 + (natChars i.natAbs).length := by
    simp only [Number.print, List.length_append]
    exact Nat.add_le_add_right sign _
  exact size.trans (by rw [maxIntDigits] at short; omega)

lemma value_ofInt {i : Int} : (Decimal.ofNumber (.ofInt i)).value = i := by
  have sign : Decimal.signed (decide (i < 0)) i.natAbs = i := by
    rw [Decimal.signed]
    by_cases neg : i < 0
    · simp only [neg, decide_true, if_true]
      omega
    · simp only [neg, decide_false, Bool.false_eq_true, if_false]
      omega
  change (Decimal.signed (decide (i < 0)) i.natAbs : ℚ) * 10 ^ (0 : Int) = i
  rw [sign, zpow_zero, mul_one]

/-- A short integer is written as it stands exactly when it is representable. -/
lemma decimalToken_fixed {i : Int} (short : (natChars i.natAbs).length ≤ maxIntDigits) :
    decimalToken (.ofInt i) = .ofInt i ↔ Decimal.Representable i := by
  obtain ⟨prints, i', token⟩ := decimalToken_integer short
  have exact := Decimal.canonicalChars_exact rfl prints prints.token.isToken
  rw [← decimalToken, token, value_ofInt, value_ofInt, Int.cast_inj] at exact
  rw [token, ← exact]
  exact ⟨fun h => by rw [← @integerOf_ofInt i', h, integerOf_ofInt], congrArg Number.ofInt⟩

/-! ### Numbers in a tree -/

/-- Other number literals leave the order of the keys alone. -/
lemma sortKeys_map {j : Json} {tok : Number → Number} : (j.map id tok).sortKeys = j.sortKeys.map id tok := by
  induction j using Json.induction with
  | null | bool | constant | num | str => rfl
  | arr l ih =>
    rw [Json.map, Json.sortKeys, Json.sortKeys, Json.map, mapElems_eq, mapElems_eq, sortElems_eq,
      sortElems_eq, List.map_map, List.map_map]
    exact congrArg Json.arr (List.map_congr_left ih)
  | obj ms ih =>
    have members : (ms.map fun m => (m.1, (m.2.map id tok).sortKeys)) =
        ms.map fun m => (m.1, m.2.sortKeys.map id tok) :=
      List.map_congr_left fun m hm => by rw [ih m hm]
    have sorted := @sortedBy_map _ _ _ Prod.fst (sortMembers ms) _ Prod.fst
      (fun m : String × Json => (m.1, m.2.map id tok)) fun _ => rfl
    rw [sortMembers_eq, List.map_map] at sorted
    rw [Json.map, Json.sortKeys, Json.sortKeys, Json.map, mapMembers_eq, mapMembers_eq, sortMembers_eq,
      sortMembers_eq, List.map_map]
    refine congrArg Json.obj ?_
    exact (congrArg (sortedBy Prod.fst) members).trans sorted

lemma map_self_iff {α : Type} {f : α → α} {l : List α} : l.map f = l ↔ ∀ a ∈ l, f a = a := by
  have same : l.map f = l.map id ↔ ∀ a ∈ l, f a = id a := List.map_inj_left
  rwa [List.map_id] at same

/-- A tree is left alone exactly when each of its numbers is. -/
lemma map_fixed_iff {j : Json} {tok : Number → Number} :
    j.map id tok = j ↔ ∀ n, .num n ∈ j.parts → tok n = n := by
  induction j using Json.induction with
  | null | bool | constant | str => simp [Json.map, Json.parts]
  | num n => simp [Json.map, Json.parts]
  | arr l ih =>
    rw [Json.map, Json.arr.injEq, mapElems_eq]
    simp only [mem_parts_arr, reduceCtorEq, false_or]
    constructor
    · rintro same n ⟨j, hj, hn⟩
      exact (ih j hj).mp (map_self_iff.mp same j hj) n hn
    · intro fixed
      exact map_self_iff.mpr fun j hj => (ih j hj).mpr fun n hn => fixed n ⟨j, hj, hn⟩
  | obj ms ih =>
    rw [Json.map, Json.obj.injEq, mapMembers_eq]
    simp only [mem_parts_obj, reduceCtorEq, false_or]
    constructor
    · rintro same n ⟨m, hm, hn⟩
      exact (ih m hm).mp (congrArg Prod.snd (map_self_iff.mp same m hm)) n hn
    · intro fixed
      refine map_self_iff.mpr fun m hm => ?_
      exact Prod.ext rfl ((ih m hm).mpr fun n hn => fixed n ⟨m, hm, hn⟩)

/-- Whole trees stay whole when their numbers become other integers. -/
lemma whole_map {j : Json} {tok : Number → Number} (whole : ∀ p ∈ j.parts, Whole p)
    (integers : ∀ n, .num n ∈ j.parts → ∃ i, tok n = .ofInt i) : ∀ p ∈ (j.map id tok).parts, Whole p := by
  intro p hp
  obtain ⟨q, hq, rfl⟩ := mem_parts_map.mp hp
  have part := whole q hq
  cases q with
  | constant c => exact part
  | null | bool | str | arr => trivial
  | num n =>
    obtain ⟨i, token⟩ := integers n hq
    rw [Json.map, Whole, token, integerOf_ofInt]
  | obj l =>
    rw [Json.map, Whole, mapMembers_eq, List.map_map]
    exact part

/-! ### Payloads and records -/

/-- The tree of a payload, from the trees of its documents. -/
def CapturePayload.tree (p : CapturePayload) (argv output manifest : Json) : Json :=
  .obj [("schema", .str "gam.tool-evidence.v1"), ("tool_name", .str p.toolName),
    ("tool_version", .str p.toolVersion), ("redacted_command_argv", argv),
    ("command_digest", .str p.commandDigest), ("help_digest", .str p.helpDigest),
    ("config_digest", .str p.configDigest), ("cluster_name", .str p.clusterName),
    ("cluster_name_digest", .str p.clusterNameDigest),
    ("observed_cluster_id_digest", .str p.observedClusterIdDigest),
    ("observed_version", .str p.observedVersion), ("observed_state", .str p.observedState),
    ("observed_plan", .str p.observedPlan), ("observed_cloud", .str p.observedCloud),
    ("normalized_redacted_output", output), ("redaction_manifest", manifest),
    ("raw_output_digest", .str p.rawOutputDigest),
    ("normalized_output_digest", .str p.normalizedOutputDigest), ("exit_status", .int p.exitStatus),
    ("captured_at", .str p.capturedAt), ("expires_at", .str p.expiresAt),
    ("captured_by", .str p.capturedBy), ("idempotency_key", .str p.idempotencyKey)]

/-- The record of a payload, from the texts of its documents. -/
def CapturePayload.record (p : CapturePayload) (evidenceId argv output manifest : String) :
    ToolEvidence where
  evidenceId := evidenceId
  toolName := p.toolName
  toolVersion := p.toolVersion
  redactedCommandArgvJson := argv
  commandDigest := p.commandDigest
  helpDigest := p.helpDigest
  configDigest := p.configDigest
  clusterName := p.clusterName
  clusterNameDigest := p.clusterNameDigest
  observedClusterIdDigest := p.observedClusterIdDigest
  observedVersion := p.observedVersion
  observedState := p.observedState
  observedPlan := p.observedPlan
  observedCloud := p.observedCloud
  normalizedRedactedOutputJson := output
  redactionManifestJson := manifest
  rawOutputDigest := p.rawOutputDigest
  normalizedOutputDigest := p.normalizedOutputDigest
  exitStatus := p.exitStatus
  capturedAt := p.capturedAt
  expiresAt := p.expiresAt
  capturedBy := p.capturedBy
  evidenceDigest := p.evidenceDigest
  idempotencyKey := p.idempotencyKey

section
variable {p : CapturePayload} {a o m : Json}

/-- What holds of every part of the tree of a payload. -/
lemma CapturePayload.forall_tree {P : Json → Prop} (str : ∀ s, P (.str s)) (status : P (.int p.exitStatus))
    (object : P (p.tree a o m)) :
    (∀ q ∈ (p.tree a o m).parts, P q) ↔
      (∀ q ∈ a.parts, P q) ∧ (∀ q ∈ o.parts, P q) ∧ ∀ q ∈ m.parts, P q := by
  have text (s : String) : ∀ q ∈ (Json.str s).parts, P q := by
    intro q hq
    obtain rfl := List.mem_singleton.mp hq
    exact str s
  have number : ∀ q ∈ (Json.int p.exitStatus).parts, P q := by
    intro q hq
    obtain rfl := List.mem_singleton.mp hq
    exact status
  rw [tree] at object ⊢
  simp only [forall_parts_obj, List.forall_mem_cons, List.not_mem_nil, false_implies, implies_true, object,
    eq_true (text _), eq_true number, true_and, and_true]

lemma CapturePayload.tree_whole (argv : ∀ q ∈ a.parts, Whole q) (output : ∀ q ∈ o.parts, Whole q)
    (manifest : ∀ q ∈ m.parts, Whole q) : ∀ q ∈ (p.tree a o m).parts, Whole q := by
  refine (forall_tree (fun _ => trivial) ?_ ?_).mpr ⟨argv, output, manifest⟩
  · rw [Json.int, Whole, integerOf_ofInt]
  · rw [tree, Whole]
    simp only [List.map_cons, List.map_nil]
    decide

lemma CapturePayload.tree_value : integerValue (p.tree a o m) =
    .dict (p.members (integerValue a) (integerValue o) (integerValue m)) := by
  simp only [tree, members, integerValue, integerMembers, Json.int, integerOf_ofInt]

/-- What holds of every number in the tree of a payload. -/
lemma CapturePayload.numbers_tree {Q : Number → Prop} (status : Q (.ofInt p.exitStatus)) :
    (∀ n, .num n ∈ (p.tree a o m).parts → Q n) ↔ (∀ n, .num n ∈ a.parts → Q n) ∧
      (∀ n, .num n ∈ o.parts → Q n) ∧ ∀ n, .num n ∈ m.parts → Q n := by
  have parts (j : Json) : (∀ n, .num n ∈ j.parts → Q n) ↔ ∀ q ∈ j.parts, ∀ n, q = .num n → Q n :=
    ⟨fun h q hq n e => h n (e ▸ hq), fun h n hn => h _ hn n rfl⟩
  rw [parts, parts, parts, parts]
  refine forall_tree (fun _ _ => nofun) (fun n e => ?_) (fun _ => nofun)
  obtain rfl := Json.num.inj e
  exact status

/-- Ordering the keys of the documents does not change the ordered tree. -/
lemma CapturePayload.tree_sorted :
    (p.tree a.sortKeys o.sortKeys m.sortKeys).sortKeys = (p.tree a o m).sortKeys := by
  simp only [tree, Json.sortKeys, sortMembers, Json.sortKeys_idem]

/-- Other numbers in the documents are other numbers in the tree. -/
lemma CapturePayload.tree_map {tok : Number → Number} (status : tok (.ofInt p.exitStatus) = .ofInt p.exitStatus) :
    p.tree (a.map id tok) (o.map id tok) (m.map id tok) = (p.tree a o m).map id tok := by
  simp only [tree, Json.map, mapMembers, Json.int, status, id_eq]

end

section
variable [Platform]

mutual

/-- A value of texts in NFC, integers, lists and objects. -/
def IsDocument : Value → Prop
  | .none | .bool _ | .int _ => True
  | .str s => nfc s = s
  | .list l => AreDocuments l
  | .dict l => (l.map Prod.fst).Nodup ∧ MembersAreDocuments l
  | _ => False

/-- The items of a list. -/
def AreDocuments : List Value → Prop
  | [] => True
  | v :: l => IsDocument v ∧ AreDocuments l

/-- The members of a mapping, whose keys are in NFC. -/
def MembersAreDocuments : List (String × Value) → Prop
  | [] => True
  | (k, v) :: l => (nfc k = k ∧ IsDocument v) ∧ MembersAreDocuments l

end

mutual

/-- A document is in normal form. -/
lemma normalizeJson_document : ∀ {v : Value}, IsDocument v → normalizeJson v = .ok v
  | .none, _ | .bool _, _ | .int _, _ => rfl
  | .str s, h => congrArg (fun s => Except.ok (Value.str s)) h
  | .list l, h => by
    rw [normalizeJson, normalizeElems_documents h]
    rfl
  | .dict l, h => by
    rw [normalizeJson, normalizeMembers_documents h.2 h.1 fun _ _ => List.not_mem_nil]
    rfl
  | .float _, h | .decimal _, h | .enum _ _, h | .tuple _, h | .record _, h => h.elim

lemma normalizeElems_documents : ∀ {l : List Value}, AreDocuments l → normalizeElems l = .ok l
  | [], _ => rfl
  | v :: l, h => by
    rw [normalizeElems, normalizeJson_document h.1, ok_bind, normalizeElems_documents h.2]
    rfl

lemma normalizeMembers_documents : ∀ {l : List (String × Value)} {taken : List String},
    MembersAreDocuments l → (l.map Prod.fst).Nodup → (∀ m ∈ l, m.1 ∉ taken) →
      normalizeMembers taken l = .ok l
  | [], _, _, _, _ => rfl
  | (k, v) :: l, taken, h, nd, fresh => by
    obtain ⟨⟨key, value⟩, others⟩ := h
    obtain ⟨apart, nd⟩ := List.nodup_cons.mp nd
    rw [List.forall_mem_cons] at fresh
    have rest : normalizeMembers (k :: taken) l = .ok l := by
      refine normalizeMembers_documents others nd fun m hm => ?_
      refine List.not_mem_cons_of_ne_of_not_mem (fun e => apart ?_) (fresh.2 m hm)
      exact List.mem_map.mpr ⟨m, hm, e⟩
    rw [normalizeMembers, key, ensure_pos fresh.1, ok_bind, normalizeJson_document value, ok_bind, rest]
    rfl

end

mutual

/-- A document has no lone surrogate. -/
lemma isUnicode_document : ∀ {v : Value}, IsDocument v → v.isUnicode = true
  | .none, _ | .bool _, _ | .int _, _ | .str _, _ => rfl
  | .list _, h => Value.isUnicode_list.mpr (isUnicode_documents h)
  | .dict _, h => Value.isUnicode_dict.mpr (isUnicode_memberDocuments h.2)

lemma isUnicode_documents : ∀ {l : List Value}, AreDocuments l → ∀ v ∈ l, v.isUnicode = true
  | [], _ => fun _ hv => absurd hv List.not_mem_nil
  | _ :: _, h => List.forall_mem_cons.mpr ⟨isUnicode_document h.1, isUnicode_documents h.2⟩

lemma isUnicode_memberDocuments : ∀ {l : List (String × Value)}, MembersAreDocuments l →
    ∀ m ∈ l, m.2.isUnicode = true
  | [], _ => fun _ hm => absurd hm List.not_mem_nil
  | _ :: _, h => List.forall_mem_cons.mpr ⟨isUnicode_document h.1.2, isUnicode_memberDocuments h.2⟩

end

mutual

/-- A document has a tree. -/
lemma exists_tree : ∀ {v : Value}, IsDocument v →
    ∃ j, (∀ q ∈ j.parts, Whole q) ∧ integerValue j = v
  | .none, _ => ⟨.null, fun q hq => List.mem_singleton.mp hq ▸ trivial, rfl⟩
  | .bool b, _ => ⟨.bool b, fun q hq => List.mem_singleton.mp hq ▸ trivial, rfl⟩
  | .int i, _ => by
    refine ⟨.num (.ofInt i), fun q hq => ?_, by rw [integerValue, integerOf_ofInt]⟩
    obtain rfl := List.mem_singleton.mp hq
    rw [Whole, integerOf_ofInt]
  | .str s, _ => ⟨.str s, fun q hq => List.mem_singleton.mp hq ▸ trivial, rfl⟩
  | .list l, h => by
    obtain ⟨js, whole, rfl⟩ := exists_trees h
    exact ⟨.arr js, forall_parts_arr.mpr ⟨trivial, whole⟩, by rw [integerValue, integerElems_eq]⟩
  | .dict l, h => by
    obtain ⟨ms, whole, rfl⟩ := exists_memberTrees h.2
    refine ⟨.obj ms, forall_parts_obj.mpr ⟨?_, whole⟩, by rw [integerValue, integerMembers_eq]⟩
    have nd := h.1
    rw [List.map_map] at nd
    exact nd
  | .float _, h | .decimal _, h | .enum _ _, h | .tuple _, h | .record _, h => h.elim

lemma exists_trees : ∀ {l : List Value}, AreDocuments l →
    ∃ js : List Json, (∀ j ∈ js, ∀ q ∈ j.parts, Whole q) ∧ js.map integerValue = l
  | [], _ => ⟨[], fun _ h => absurd h List.not_mem_nil, rfl⟩
  | v :: l, h => by
    obtain ⟨j, whole, rfl⟩ := exists_tree h.1
    obtain ⟨js, others, rfl⟩ := exists_trees h.2
    exact ⟨j :: js, List.forall_mem_cons.mpr ⟨whole, others⟩, rfl⟩

lemma exists_memberTrees : ∀ {l : List (String × Value)}, MembersAreDocuments l →
    ∃ ms : List (String × Json), (∀ m ∈ ms, ∀ q ∈ m.2.parts, Whole q) ∧
      (ms.map fun m => (m.1, integerValue m.2)) = l
  | [], _ => ⟨[], fun _ h => absurd h List.not_mem_nil, rfl⟩
  | (k, v) :: l, h => by
    obtain ⟨j, whole, rfl⟩ := exists_tree h.1.2
    obtain ⟨ms, others, rfl⟩ := exists_memberTrees h.2
    exact ⟨(k, j) :: ms, List.forall_mem_cons.mpr ⟨whole, others⟩, rfl⟩

end

omit [Platform] in
lemma short_iff {j : Json} : Short j ↔
    ∀ i ∈ integersOf (integerValue j), (natChars i.natAbs).length ≤ maxIntDigits := by
  have size (n : Number) : (integerOf n).natAbs = n.int := by
    rw [integerOf]
    split
    · exact Int.natAbs_neg _
    · rfl
  simp only [Short, mem_integersOf, forall_exists_index, and_imp, forall_apply_eq_imp_iff₂, size]

omit [Platform] in
lemma dumps_eq {j : Json} : String.ofList (j.sortKeys.printWith Number.print) = j.dumps := by
  rw [Json.dumps, Json.print_eq]

/-- What the adapter writes of a document. -/
lemma canonicalBytes_document {j : Json} {text : String} (document : IsDocument (integerValue j))
    (whole : ∀ q ∈ j.parts, Whole q) :
    canonicalBytes (integerValue j) = .ok text ↔ Short j ∧ text = j.dumps := by
  rw [canonicalBytes, canonicalChars, normalizeJson_document document, ok_bind,
    dumpsValue_integer whole, short_iff]
  simp only [Except.mapError, bind_eq_ok, ensure_eq_ok, pure_eq_ok, Except.ok.injEq, exists_const,
    isUnicode_document document, true_and]
  constructor
  · rintro ⟨_, ⟨short, rfl⟩, rfl⟩
    exact ⟨short, dumps_eq⟩
  · rintro ⟨short, rfl⟩
    exact ⟨_, ⟨short, rfl⟩, dumps_eq⟩

lemma canonicalDigest_document {j : Json} {d : String} (document : IsDocument (integerValue j))
    (whole : ∀ q ∈ j.parts, Whole q) :
    canonicalDigest (integerValue j) = .ok d ↔ Short j ∧ d = sha256 j.dumps := by
  simp only [canonicalDigest, bind_eq_ok, canonicalBytes_document document whole, pure_eq_ok,
    Except.ok.injEq]
  constructor
  · rintro ⟨_, ⟨short, rfl⟩, rfl⟩
    exact ⟨short, rfl⟩
  · rintro ⟨short, rfl⟩
    exact ⟨_, ⟨short, rfl⟩, rfl⟩

/-- The text that `_tool_evidence_digest` digests. -/
def toolEvidenceText (e : ToolEvidence) : Except PyError String := do
  let argv ← loaded (.str e.redactedCommandArgvJson)
  let output ← loaded (.str e.normalizedRedactedOutputJson)
  let manifest ← loaded (.str e.redactionManifestJson)
  plainJson (.dict
    [("schema", .str "gam.tool-evidence.v1"), ("tool_name", .str e.toolName),
      ("tool_version", .str e.toolVersion), ("redacted_command_argv", argv),
      ("command_digest", .str e.commandDigest), ("help_digest", .str e.helpDigest),
      ("config_digest", .str e.configDigest), ("cluster_name", .str e.clusterName),
      ("cluster_name_digest", .str e.clusterNameDigest),
      ("observed_cluster_id_digest", .str e.observedClusterIdDigest),
      ("observed_version", .str e.observedVersion), ("observed_state", .str e.observedState),
      ("observed_plan", .str e.observedPlan), ("observed_cloud", .str e.observedCloud),
      ("normalized_redacted_output", output), ("redaction_manifest", manifest),
      ("raw_output_digest", .str e.rawOutputDigest),
      ("normalized_output_digest", .str e.normalizedOutputDigest),
      ("exit_status", .int e.exitStatus), ("captured_at", .str e.capturedAt),
      ("expires_at", .str e.expiresAt), ("captured_by", .str e.capturedBy),
      ("idempotency_key", .str e.idempotencyKey)])

lemma toolEvidenceDigest_ok {e : ToolEvidence} {d : String} :
    toolEvidenceDigest e = .ok d ↔ ∃ text, toolEvidenceText e = .ok text ∧ d = sha256 text := by
  simp only [toolEvidenceDigest, toolEvidenceText, jsonSha256, bind_eq_ok, pure_eq_ok, Except.ok.injEq]
  constructor
  · rintro ⟨a, ha, o, ho, m, hm, text, written, rfl⟩
    exact ⟨text, ⟨a, ha, o, ho, m, hm, written⟩, rfl⟩
  · rintro ⟨text, ⟨a, ha, o, ho, m, hm, written⟩, rfl⟩
    exact ⟨a, ha, o, ho, m, hm, text, written, rfl⟩

omit [Platform] in
/-- The memory reads a text as the document of its tree, when it reads it. -/
lemma loaded_document {j : Json} {text : String} {v : Value} (parsed : Json.parse text = some j)
    (whole : ∀ q ∈ j.parts, Whole q) : loaded (.str text) = .ok v ↔ Short j ∧ v = integerValue j := by
  have read : loaded (.str text) = loadValue j := by rw [loaded, jsonLoads_parse parsed]
  rw [read]
  constructor
  · intro h
    have short := short_of_loads whole h
    rw [loadValue_integer whole short, Except.ok.injEq] at h
    exact ⟨short, h.symm⟩
  · rintro ⟨short, rfl⟩
    exact loadValue_integer whole short

omit [Platform] in
lemma plainJson_dict {l : List (String × Value)} {cs : List Char} (h : plainJsonValue (.dict l) = .ok cs) :
    plainJson (.dict l) = .ok (String.ofList cs) := by
  change (plainJsonValue (.dict l) >>= fun cs => pure (String.ofList cs)) = _
  rw [h]
  rfl

omit [Platform] in
/-- What the memory digests of a record: the tree of its payload and documents, with the keys in order. -/
lemma toolEvidenceText_record {p : CapturePayload} {id : String} {a o m : Json} {ta tb tc text : String}
    (pa : Json.parse ta = some a) (po : Json.parse tb = some o) (pm : Json.parse tc = some m)
    (argv : ∀ q ∈ a.parts, Whole q) (output : ∀ q ∈ o.parts, Whole q)
    (manifest : ∀ q ∈ m.parts, Whole q) :
    toolEvidenceText (p.record id ta tb tc) = .ok text ↔
      (Short a ∧ Short o ∧ Short m) ∧ text = (p.tree a o m).dumps := by
  have tree := plainJsonValue_integer (CapturePayload.tree_whole (p := p) argv output manifest)
  rw [CapturePayload.tree_value] at tree
  have written : plainJson (.dict (p.members (integerValue a) (integerValue o) (integerValue m))) =
      .ok (p.tree a o m).dumps := by
    rw [plainJson_dict tree, dumps_eq]
  simp only [toolEvidenceText, CapturePayload.record, bind_eq_ok, loaded_document pa argv,
    loaded_document po output, loaded_document pm manifest]
  constructor
  · rintro ⟨_, ⟨sa, rfl⟩, _, ⟨so, rfl⟩, _, ⟨sm, rfl⟩, h⟩
    exact ⟨⟨sa, so, sm⟩, Except.ok.inj (h.symm.trans written)⟩
  · rintro ⟨⟨sa, so, sm⟩, rfl⟩
    exact ⟨_, ⟨sa, rfl⟩, _, ⟨so, rfl⟩, _, ⟨sm, rfl⟩, written⟩

omit [Platform] in
lemma parse_dumps_whole {j : Json} (whole : ∀ q ∈ j.parts, Whole q) :
    Json.parse j.dumps = some j.sortKeys ∧ ∀ q ∈ j.sortKeys.parts, Whole q :=
  ⟨Json.parse_dumps j, whole_sortKeys whole⟩

/-- The record of a payload, and the digest of the payload. -/
lemma toolEvidence_document {p : CapturePayload} (id : String) {a o m : Json} {d : String}
    (document : IsDocument p.value) (argv : integerValue a = p.redactedCommandArgv)
    (output : integerValue o = p.normalizedRedactedOutput) (manifest : integerValue m = p.redactionManifest)
    (wa : ∀ q ∈ a.parts, Whole q) (wo : ∀ q ∈ o.parts, Whole q) (wm : ∀ q ∈ m.parts, Whole q)
    (digest : canonicalDigest p.value = .ok d) :
    (Short a ∧ Short o ∧ Short m) ∧ toolEvidence p id = .ok (p.record id a.dumps o.dumps m.dumps) ∧
      toolEvidenceText (p.record id a.dumps o.dumps m.dumps) = .ok (p.tree a o m).dumps ∧
        d = sha256 (p.tree a o m).dumps := by
  have value : integerValue (p.tree a o m) = p.value := by
    rw [CapturePayload.tree_value, argv, output, manifest]
    rfl
  rw [← value] at digest document
  obtain ⟨short, rfl⟩ := (canonicalDigest_document document (CapturePayload.tree_whole wa wo wm)).mp digest
  have shorts : Short a ∧ Short o ∧ Short m :=
    (CapturePayload.numbers_tree (short _ (by simp [CapturePayload.tree, Json.parts, partsMembers, Json.int]))).mp
      short
  rw [CapturePayload.tree_value] at document
  obtain ⟨da, do', dm⟩ : IsDocument (integerValue a) ∧ IsDocument (integerValue o) ∧
      IsDocument (integerValue m) := by
    have members := document.2
    simp only [CapturePayload.members, MembersAreDocuments] at members
    tauto
  refine ⟨shorts, ?_, ?_, rfl⟩
  · rw [toolEvidence, ← argv, ← output, ← manifest, (canonicalBytes_document da wa).mpr ⟨shorts.1, rfl⟩,
      (canonicalBytes_document do' wo).mpr ⟨shorts.2.1, rfl⟩,
      (canonicalBytes_document dm wm).mpr ⟨shorts.2.2, rfl⟩]
    rfl
  · obtain ⟨pa, sa⟩ := parse_dumps_whole wa
    obtain ⟨po, so⟩ := parse_dumps_whole wo
    obtain ⟨pm, sm⟩ := parse_dumps_whole wm
    have sorted {j : Json} (h : Short j) : Short j.sortKeys := fun n hn => h n (num_mem_sortKeys.mp hn)
    refine (toolEvidenceText_record pa po pm sa so sm).mpr
      ⟨⟨sorted shorts.1, sorted shorts.2.1, sorted shorts.2.2⟩, ?_⟩
    rw [Json.dumps, Json.dumps, CapturePayload.tree_sorted]

/-! ### The record that is read back -/

/-- What `_plain_json` makes of the column of a document. -/
def readBack (j : Json) : Json := j.sortKeys.map id decimalToken

omit [Platform] in
/-- The text of a column, as the memory renders it, and the tree it is read as. -/
lemma plainJson_document {j : Json} (whole : ∀ q ∈ j.parts, Whole q) (short : Short j) :
    ∃ text, plainJson (.str j.dumps) = .ok text ∧ Json.parse text = some (readBack j) ∧
      ∀ q ∈ (readBack j).parts, Whole q := by
  have integer (n : Number) (hn : .num n ∈ j.parts) :
      (Decimal.accepts n = true ∧ Prints n) ∧ ∃ i, decimalToken n = .ofInt i := by
    have token : n = .ofInt (integerOf n) := whole _ hn
    have size := short_iff.mp short _ (mem_integersOf.mpr ⟨n, hn, rfl⟩)
    rw [token]
    obtain ⟨prints, integer⟩ := decimalToken_integer size
    exact ⟨⟨accepts_ofInt size, prints⟩, integer⟩
  have written := (plainJson_dumps fun q hq => (whole q hq).distinct).mpr
    ⟨fun n hn => (integer n hn).1, rfl⟩
  refine ⟨_, written, parse_decimal fun n hn => (integer n (num_mem_sortKeys.mp hn)).1.2, ?_⟩
  exact whole_map (whole_sortKeys whole) fun n hn => (integer n (num_mem_sortKeys.mp hn)).2

omit [Platform] in
/-- The tree of the record that is read back is the tree of the payload, through decimals. -/
lemma CapturePayload.tree_readBack {p : CapturePayload} {a o m : Json} (status : p.exitStatus = 0) :
    (p.tree (readBack a) (readBack o) (readBack m)).sortKeys =
      (p.tree a o m).sortKeys.map id decimalToken := by
  have zero : decimalToken (.ofInt p.exitStatus) = .ofInt p.exitStatus := by
    rw [status]
    decide
  rw [readBack, readBack, readBack, tree_map zero, sortKeys_map, tree_sorted]

omit [Platform] in
/-- While the numbers are as they were, the two trees have one text. -/
lemma CapturePayload.dumps_readBack {p : CapturePayload} {a o m : Json} (status : p.exitStatus = 0)
    (fixed : ∀ n, .num n ∈ (p.tree a o m).parts → decimalToken n = n) :
    (p.tree (readBack a) (readBack o) (readBack m)).dumps = (p.tree a o m).dumps := by
  have same : (p.tree a o m).sortKeys.map id decimalToken = (p.tree a o m).sortKeys :=
    map_fixed_iff.mpr fun n hn => fixed n (num_mem_sortKeys.mp hn)
  rw [Json.dumps, tree_readBack status, same, ← Json.dumps]

omit [Platform] in
/-- Every number is written as it stands when every integer is representable. -/
lemma numbers_fixed {j : Json} (whole : ∀ q ∈ j.parts, Whole q) (short : Short j)
    (exact : ∀ i ∈ integersOf (integerValue j), Decimal.Representable i) (n : Number)
    (hn : .num n ∈ j.parts) : decimalToken n = n := by
  have held : integerOf n ∈ integersOf (integerValue j) := mem_integersOf.mpr ⟨n, hn, rfl⟩
  rw [whole _ hn]
  exact (decimalToken_fixed (short_iff.mp short _ held)).mpr (exact _ held)

omit [Platform] in
/-- While the numbers are as they were, no text has grown beyond the limit. -/
lemma CapturePayload.short_readBack {p : CapturePayload} {a o m : Json} (status : p.exitStatus = 0)
    (fixed : ∀ n, .num n ∈ (p.tree a o m).parts → decimalToken n = n) (sa : Short a) (so : Short o)
    (sm : Short m) : Short (readBack a) ∧ Short (readBack o) ∧ Short (readBack m) := by
  have zero : decimalToken (.ofInt p.exitStatus) = .ofInt p.exitStatus := by
    rw [status]
    decide
  have each {j : Json} (fixed : ∀ n, .num n ∈ j.parts → decimalToken n = n) (short : Short j) :
      Short (readBack j) := by
    rw [readBack, map_fixed_iff.mpr fun n hn => fixed n (num_mem_sortKeys.mp hn)]
    exact fun n hn => short n (num_mem_sortKeys.mp hn)
  obtain ⟨fa, fo, fm⟩ := (numbers_tree (Q := fun n => decimalToken n = n) zero).mp fixed
  exact ⟨each fa sa, each fo so, each fm sm⟩

/-- What the payloads of `build_capture` are bound to. -/
structure CapturePayload.Bound (p : CapturePayload) : Prop where
  name : p.toolName = "ccloud"
  cluster : p.clusterName = boundClusterName
  digest : p.clusterNameDigest = sha256 boundClusterName
  status : p.exitStatus = 0

/-- A record of a bound payload is accepted when its text has the payload's digest. -/
lemma validateToolEvidence_record {p : CapturePayload} {id ta tb tc : String} (bound : p.Bound) :
    validateToolEvidence (p.record id ta tb tc) = .ok () ↔
      ∃ text, toolEvidenceText (p.record id ta tb tc) = .ok text ∧ p.evidenceDigest = sha256 text := by
  simp only [validateToolEvidence, bind_eq_ok, ensure_eq_ok, toolEvidenceDigest_ok]
  constructor
  · rintro ⟨-, -, _, ⟨text, written, rfl⟩, same⟩
    exact ⟨text, written, same⟩
  · rintro ⟨text, written, same⟩
    exact ⟨(), ⟨bound.name, bound.cluster, bound.digest, bound.status⟩, _, ⟨text, written, rfl⟩, same⟩

/-- What `build_capture` binds of a payload. -/
lemma buildCapture_ok {host : CaptureHost} {artifact : VersionArtifact} {p : CapturePayload}
    (built : buildCapture host artifact = .ok p) :
    canonicalDigest p.value = .ok p.evidenceDigest ∧ p.Bound ∧
      redactionGuard artifact.expected.value = .ok () ∧
      p.redactedCommandArgv = captureArgv artifact ∧
      p.normalizedRedactedOutput = artifact.expected.value ∧
      p.redactionManifest = .list [.str "cluster_id"] := by
  simp only [buildCapture, bind_eq_ok, ensure_eq_ok, pure_eq_ok, Except.ok.injEq] at built
  obtain ⟨_, -, -, -, _, -, _, -, _, -, -, -, -, -, -, -, _, -, -, -, -, -, receipt, -,
    ⟨normalized, redactions⟩, document, target, bound, _, guarded, _, -, _, -, d, digest, rfl⟩ := built
  obtain ⟨-, rfl⟩ := validateTarget_ok bound
  obtain rfl := normalizeClusterDocument_manifest document
  exact ⟨digest, ⟨rfl, rfl, rfl, receipt.succeeded⟩, guarded, rfl, rfl, rfl⟩

/-- A capture succeeds where the environment, the executable and the target are the bound ones. -/
lemma buildCapture_succeeds {host : CaptureHost} {artifact : VersionArtifact} {receipt : ProcessReceipt}
    {profile command output digest : String}
    (name : host.requiredEnvironment "CCLOUD_CLUSTER_NAME" = .ok boundClusterName)
    (authenticated : host.requiredEnvironment "CCLOUD_AUTH_PROFILE" = .ok profile)
    (known : sha256 profile = artifact.ccloudAuthProfileDigest)
    (expectedId : host.requiredEnvironment "CCLOUD_EXPECTED_CLUSTER_ID_DIGEST" =
      .ok artifact.expectedClusterIdDigest)
    (provisioned : host.requiredEnvironment "CCLOUD_PROVISIONING_RECEIPT_DIGEST" =
      .ok artifact.provisioningReceiptDigest)
    (executable : host.executableDigest artifact.ccloudExecutable = .ok artifact.ccloudExecutableSha256)
    (flag : artifact.ccloudJsonFlag ∈ jsonFlags)
    (run : host.boundedProcess artifact.ccloudExecutable ["cluster", "info", boundClusterName,
      artifact.ccloudJsonFlag] = .ok receipt)
    (normalized : normalizeClusterDocument receipt.stdout artifact.ccloudVersion artifact.ccapiVersion =
      .ok (artifact.expected.texts, ["cluster_id"]))
    (target : validateTarget artifact.expected.texts artifact = .ok artifact.expected)
    (guarded : redactionGuard artifact.expected.value = .ok ())
    (commandDigest : canonicalDigest (captureArgv artifact) = .ok command)
    (outputDigest : canonicalDigest artifact.expected.value = .ok output)
    (signed : canonicalDigest (capturePayload host artifact (captureArgv artifact) artifact.expected
      ["cluster_id"] receipt command output).value = .ok digest) :
    buildCapture host artifact = .ok { capturePayload host artifact (captureArgv artifact)
      artifact.expected ["cluster_id"] receipt command output with evidenceDigest := digest } := by
  simp only [buildCapture, name, authenticated, known, expectedId, provisioned, executable, flag, run,
    normalized, target, guarded, commandDigest, outputDigest, signed, ok_bind, ensure_pos]
  rfl

/-- The only integer of a payload that is built is its exit status. -/
lemma buildCapture_integers {host : CaptureHost} {artifact : VersionArtifact} {p : CapturePayload}
    (built : buildCapture host artifact = .ok p) : integersOf p.value = [0] := by
  obtain ⟨-, bound, -, argv, output, manifest⟩ := buildCapture_ok built
  rw [CapturePayload.value, argv, output, manifest, CapturePayload.members, bound.status]
  rfl

/-- The integers of a payload that is built have few digits. -/
lemma buildCapture_exact {host : CaptureHost} {artifact : VersionArtifact} {p : CapturePayload}
    (built : buildCapture host artifact = .ok p) :
    ∀ i ∈ integersOf p.value, Decimal.Representable i := by
  rw [buildCapture_integers built]
  exact List.forall_mem_singleton.mpr ⟨0, 0, by norm_num, by decide, by decide⟩

omit [Platform] in
/-- A column keeps the text of a document. -/
lemma castJsonb_document {j : Json} {column : String} (h : castJsonb j.dumps = .ok column) :
    column = j.dumps := by
  obtain ⟨j', parsed, -, rfl⟩ := castJsonb_ok.mp h
  rw [Json.parse_dumps, Option.some.injEq] at parsed
  rw [← parsed, Json.dumps, Json.sortKeys_idem, ← Json.dumps]

end

/-- A row that holds a record: the columns have its documents, and everything else is as it was recorded, the
times as `_timestamp` prints them. The identifier is that of the insert. -/
structure ToolEvidenceRow.Holds (row : ToolEvidenceRow) (e : ToolEvidence) : Prop where
  argv : castJsonb e.redactedCommandArgvJson = .ok row.redactedCommandArgv
  output : castJsonb e.normalizedRedactedOutputJson = .ok row.normalizedRedactedOutput
  manifest : castJsonb e.redactionManifestJson = .ok row.redactionManifest
  rest : row = { toolEvidenceArgs e with
    id := row.id, redactedCommandArgv := row.redactedCommandArgv,
    normalizedRedactedOutput := row.normalizedRedactedOutput, redactionManifest := row.redactionManifest }

/-- An append of a record whose times are kept gives a row that holds it. -/
lemma castToolEvidence_holds [ColumnTypes] {e : ToolEvidence} {row : ToolEvidenceRow}
    (captured : castTimestamp e.capturedAt = .ok e.capturedAt)
    (expires : castTimestamp e.expiresAt = .ok e.expiresAt)
    (cast : castToolEvidence (toolEvidenceArgs e) = .ok row) : row.Holds e := by
  simp only [castToolEvidence, bind_eq_ok, pure_eq_ok, Except.ok.injEq] at cast
  obtain ⟨_, -, _, hc, _, he, _, argv, _, output, _, manifest, rfl⟩ := cast
  cases captured.symm.trans hc
  cases expires.symm.trans he
  exact ⟨argv, output, manifest, rfl⟩

/-- What `_persist` adds to the rows holds the record. -/
lemma persistEvidence_holds {db db' : Store} {e : ToolEvidence}
    (h : persistEvidence db (toolEvidenceArgs e) = .ok db') :
    db' = db ∨ ∃ row : ToolEvidenceRow, row.Holds e ∧
      db' = { db with toolEvidence := db.toolEvidence ++ [row] } := by
  simp only [persistEvidence, bind_eq_ok] at h
  obtain ⟨row, cast, h⟩ := h
  split at h
  · simp only [bind_eq_ok, pure_eq_ok, Except.ok.injEq] at h
    obtain ⟨-, -, rfl⟩ := h
    exact .inl rfl
  · have inserted := mapError_eq_ok.mp h
    simp only [insertToolEvidence, bind_eq_ok, pure_eq_ok, Except.ok.injEq] at inserted
    obtain ⟨_, -, _, -, _, -, _, -, rfl⟩ := inserted
    have columns := mapError_eq_ok.mp cast
    simp only [castDocuments, bind_eq_ok, pure_eq_ok, Except.ok.injEq] at columns
    obtain ⟨_, argv, _, output, _, manifest, rfl⟩ := columns
    refine .inr ⟨_, ?_, rfl⟩
    exact ⟨argv, output, manifest, rfl⟩

/-- The times of a record are those of its payload. -/
lemma toolEvidence_times [Platform] {p : CapturePayload} {id : String} {e : ToolEvidence}
    (made : toolEvidence p id = .ok e) : e.capturedAt = p.capturedAt ∧ e.expiresAt = p.expiresAt := by
  simp only [toolEvidence, bind_eq_ok, pure_eq_ok, Except.ok.injEq] at made
  obtain ⟨_, -, _, -, _, -, rfl⟩ := made
  exact ⟨rfl, rfl⟩

/-- A row that holds the record of a payload is that of such a record. -/
lemma ToolEvidenceRow.Holds.record {p : CapturePayload} {id : String} {a o m : Json}
    {row : ToolEvidenceRow} (h : row.Holds (p.record id a.dumps o.dumps m.dumps)) :
    row = toolEvidenceArgs (p.record row.id a.dumps o.dumps m.dumps) := by
  obtain ⟨argv, output, manifest, rest⟩ := h
  rw [castJsonb_document argv, castJsonb_document output, castJsonb_document manifest] at rest
  exact rest

section
variable [Platform]

/-- The record that is read from a row, and its digest, when every integer is representable. -/
lemma readToolEvidence_record {p : CapturePayload} {u : String} {a o m : Json}
    (wa : ∀ q ∈ a.parts, Whole q) (wo : ∀ q ∈ o.parts, Whole q) (wm : ∀ q ∈ m.parts, Whole q)
    (sa : Short a) (so : Short o) (sm : Short m) (bound : p.Bound)
    (signed : p.evidenceDigest = sha256 (p.tree a o m).dumps)
    (fixed : ∀ n, .num n ∈ (p.tree a o m).parts → decimalToken n = n) :
    ∃ e', toolEvidenceOfRow (toolEvidenceArgs (p.record u a.dumps o.dumps m.dumps)) = .ok e' ∧
      toolEvidenceDigest e' = .ok p.evidenceDigest ∧
      readToolEvidence (toolEvidenceArgs (p.record u a.dumps o.dumps m.dumps)) = .ok e' := by
  obtain ⟨ta, reada, pa, wa'⟩ := plainJson_document wa sa
  obtain ⟨tb, readb, pb, wb'⟩ := plainJson_document wo so
  obtain ⟨tc, readc, pc, wc'⟩ := plainJson_document wm sm
  have again : toolEvidenceOfRow (toolEvidenceArgs (p.record u a.dumps o.dumps m.dumps)) =
      .ok (p.record u ta tb tc) := by
    simp only [toolEvidenceOfRow, toolEvidenceArgs, CapturePayload.record, reada, readb, readc, ok_bind]
    rfl
  -- the numbers stay, so the text that is digested stays
  have text : toolEvidenceText (p.record u ta tb tc) = .ok (p.tree a o m).dumps := by
    refine (toolEvidenceText_record pa pb pc wa' wb' wc').mpr
      ⟨CapturePayload.short_readBack bound.status fixed sa so sm, ?_⟩
    exact (CapturePayload.dumps_readBack bound.status fixed).symm
  refine ⟨_, again, toolEvidenceDigest_ok.mpr ⟨_, text, signed⟩, ?_⟩
  simp only [readToolEvidence, again, ok_bind, bind_eq_ok]
  exact ⟨(), (validateToolEvidence_record bound).mpr ⟨_, text, signed⟩, rfl⟩

/-- The trees of the documents of a payload with its own digest, and the record made of it. -/
lemma CapturePayload.exists_trees {p : CapturePayload} (id : String)
    (digest : canonicalDigest p.value = .ok p.evidenceDigest) (document : IsDocument p.value) :
    ∃ a o m, ((∀ q ∈ a.parts, Whole q) ∧ (∀ q ∈ o.parts, Whole q) ∧ ∀ q ∈ m.parts, Whole q) ∧
      (Short a ∧ Short o ∧ Short m) ∧ Short (p.tree a o m) ∧ integerValue (p.tree a o m) = p.value ∧
      toolEvidence p id = .ok (p.record id a.dumps o.dumps m.dumps) ∧
      toolEvidenceText (p.record id a.dumps o.dumps m.dumps) = .ok (p.tree a o m).dumps ∧
        p.evidenceDigest = sha256 (p.tree a o m).dumps := by
  obtain ⟨da, do', dm⟩ : IsDocument p.redactedCommandArgv ∧ IsDocument p.normalizedRedactedOutput ∧
      IsDocument p.redactionManifest := by
    have members := document.2
    simp only [CapturePayload.members, MembersAreDocuments] at members
    tauto
  obtain ⟨a, wa, ha⟩ := exists_tree da
  obtain ⟨o, wo, ho⟩ := exists_tree do'
  obtain ⟨m, wm, hm⟩ := exists_tree dm
  obtain ⟨shorts, record, written, signed⟩ :=
    toolEvidence_document id document ha ho hm wa wo wm digest
  have whole : ∀ q ∈ (p.tree a o m).parts, Whole q := CapturePayload.tree_whole wa wo wm
  have value : integerValue (p.tree a o m) = p.value := by
    rw [CapturePayload.tree_value, ha, ho, hm]
    rfl
  have short : Short (p.tree a o m) := by
    rw [← value] at digest document
    exact ((canonicalDigest_document document whole).mp digest).1
  exact ⟨a, o, m, ⟨wa, wo, wm⟩, shorts, short, value, record, written, signed⟩

/-- A bound payload of documents, with its own digest: the record has the digest, and so has the record
that is read from its row when every integer has at most 28 significant digits. -/
theorem CapturePayload.digests {p : CapturePayload} {id : String}
    (digest : canonicalDigest p.value = .ok p.evidenceDigest) (bound : p.Bound)
    (document : IsDocument p.value) :
    ∃ e, toolEvidence p id = .ok e ∧ toolEvidenceDigest e = .ok p.evidenceDigest ∧
      validateToolEvidence e = .ok () ∧
      ((∀ i ∈ integersOf p.value, Decimal.Representable i) →
        ∀ row : ToolEvidenceRow, row.Holds e →
          ∃ e', toolEvidenceOfRow row = .ok e' ∧ toolEvidenceDigest e' = .ok p.evidenceDigest ∧
            readToolEvidence row = .ok e') := by
  obtain ⟨a, o, m, ⟨wa, wo, wm⟩, ⟨sa, so, sm⟩, short, value, record, written, signed⟩ :=
    exists_trees id digest document
  refine ⟨_, record, toolEvidenceDigest_ok.mpr ⟨_, written, signed⟩,
    (validateToolEvidence_record bound).mpr ⟨_, written, signed⟩, ?_⟩
  intro exact row held
  rw [held.record]
  rw [← value] at exact
  exact readToolEvidence_record wa wo wm sa so sm bound signed
    (numbers_fixed (tree_whole wa wo wm) short exact)

/-- Every payload that `build_capture` emits with texts in NFC: the record of `_tool_evidence` has its
digest and is accepted, and the record that is read from a row that holds it has the digest again and is
accepted again. -/
theorem buildCapture_digests {host : CaptureHost} {artifact : VersionArtifact} {p : CapturePayload}
    {id : String} (built : buildCapture host artifact = .ok p) (document : IsDocument p.value) :
    ∃ e, toolEvidence p id = .ok e ∧ toolEvidenceDigest e = .ok p.evidenceDigest ∧
      validateToolEvidence e = .ok () ∧
      ∀ row : ToolEvidenceRow, row.Holds e →
        ∃ e', toolEvidenceOfRow row = .ok e' ∧ toolEvidenceDigest e' = .ok p.evidenceDigest ∧
          readToolEvidence row = .ok e' := by
  obtain ⟨digest, bound, -⟩ := buildCapture_ok built
  obtain ⟨e, made, same, accepted, read⟩ := CapturePayload.digests digest bound document
  exact ⟨e, made, same, accepted, read (buildCapture_exact built)⟩

/-- Every row that `capture_closure` adds is read as a record with the digest of the payload. -/
theorem captureClosure_read {host : CaptureHost} {artifact : VersionArtifact} {p : CapturePayload}
    {id : String} {db db' : Store} (h : captureClosure host artifact id db = .ok (p, db'))
    (document : IsDocument p.value) :
    ∀ row ∈ db'.toolEvidence, row ∈ db.toolEvidence ∨
      ∃ e, readToolEvidence row = .ok e ∧ toolEvidenceDigest e = .ok p.evidenceDigest := by
  simp only [captureClosure, bind_eq_ok, pure_eq_ok, Except.ok.injEq, Prod.mk.injEq] at h
  obtain ⟨_, built, e, made, _, persisted, rfl, rfl⟩ := h
  obtain ⟨digest, bound, -⟩ := buildCapture_ok built
  obtain ⟨_, record, -, -, read⟩ := CapturePayload.digests digest bound document
  cases record.symm.trans made
  intro row hr
  obtain rfl | ⟨added, held, rfl⟩ := persistEvidence_holds persisted
  · exact .inl hr
  rcases List.mem_append.mp hr with hr | hr
  · exact .inl hr
  · cases List.mem_singleton.mp hr
    obtain ⟨e', -, same, accepted⟩ := read (buildCapture_exact built) row held
    exact .inr ⟨e', accepted, same⟩

/-- The output that is stored of a capture has none of the patterns. -/
theorem buildCapture_redacted {host : CaptureHost} {artifact : VersionArtifact} {p : CapturePayload}
    {id : String} {e : ToolEvidence} (built : buildCapture host artifact = .ok p)
    (made : toolEvidence p id = .ok e) : isSensitive e.normalizedRedactedOutputJson.toList = false := by
  obtain ⟨-, -, guarded, -, output, -⟩ := buildCapture_ok built
  obtain ⟨cs, written, clear⟩ := redactionGuard_ok guarded
  have stored : canonicalBytes artifact.expected.value = .ok (String.ofList cs) := by
    rw [canonicalBytes, written]
    rfl
  simp only [toolEvidence, bind_eq_ok, pure_eq_ok, Except.ok.injEq, output, stored] at made
  obtain ⟨_, -, _, rfl, _, -, rfl⟩ := made
  exact String.toList_ofList.symm ▸ clear

omit [Platform] in
/-- The tree of a document is standard JSON. -/
lemma standard_whole {j : Json} (whole : ∀ q ∈ j.parts, Whole q) : isStandard j = true := by
  induction j using Json.induction with
  | null | bool | num | str => rfl
  | constant c => exact (whole _ (Json.mem_parts _)).elim
  | arr l ih =>
    obtain ⟨-, inner⟩ := forall_parts_arr.mp whole
    exact standardElems_iff.mpr fun j hj => ih j hj (inner j hj)
  | obj ms ih =>
    obtain ⟨-, inner⟩ := forall_parts_obj.mp whole
    exact standardMembers_iff.mpr fun m hm => ih m hm (inner m hm)

omit [Platform] in
/-- The row of a record of documents holds it. -/
lemma toolEvidenceArgs_holds {p : CapturePayload} {u : String} {a o m : Json}
    (wa : ∀ q ∈ a.parts, Whole q) (wo : ∀ q ∈ o.parts, Whole q) (wm : ∀ q ∈ m.parts, Whole q) :
    (toolEvidenceArgs (p.record u a.dumps o.dumps m.dumps)).Holds
      (p.record u a.dumps o.dumps m.dumps) :=
  ⟨castJsonb_dumps (standard_whole wa), castJsonb_dumps (standard_whole wo),
    castJsonb_dumps (standard_whole wm), rfl⟩

omit [Platform] in
/-- The columns keep the texts of documents. -/
lemma castDocuments_ok {p : CapturePayload} {u : String} {a o m : Json}
    (wa : ∀ q ∈ a.parts, Whole q) (wo : ∀ q ∈ o.parts, Whole q) (wm : ∀ q ∈ m.parts, Whole q) :
    castDocuments (toolEvidenceArgs (p.record u a.dumps o.dumps m.dumps)) =
      .ok (toolEvidenceArgs (p.record u a.dumps o.dumps m.dumps)) := by
  obtain ⟨argv, output, manifest, -⟩ := @toolEvidenceArgs_holds p u a o m wa wo wm
  simp only [castDocuments, toolEvidenceArgs, CapturePayload.record] at *
  rw [argv, output, manifest]
  rfl

/-- The row of a capture is stored in an empty table when its digests and times are those of a capture. -/
lemma persistEvidence_succeeds {p : CapturePayload} {u : String} {argv redactions : List Json}
    {members : List (String × Json)} (bound : p.Bound)
    (wa : ∀ q ∈ (Json.arr argv).parts, Whole q) (wo : ∀ q ∈ (Json.obj members).parts, Whole q)
    (wm : ∀ q ∈ (Json.arr redactions).parts, Whole q)
    (digests : ∀ d ∈ [p.commandDigest, p.helpDigest, p.configDigest, p.clusterNameDigest,
      p.observedClusterIdDigest, p.rawOutputDigest, p.normalizedOutputDigest, p.evidenceDigest],
      isDigestLength d = true) (times : p.capturedAt < p.expiresAt) :
    let row := toolEvidenceArgs
      (p.record u (Json.arr argv).dumps (Json.obj members).dumps (Json.arr redactions).dumps)
    persistEvidence {} row = .ok { toolEvidence := [row] } := by
  intro row
  simp only [List.forall_mem_cons] at digests
  obtain ⟨command, help, config, cluster, observed, raw, normalized, evidence, -⟩ := digests
  have array (l : List Json) : jsonbTypeof (Json.arr l).dumps = "array" := by
    rw [jsonbTypeof, Json.parse_dumps]
    rfl
  have object : jsonbTypeof (Json.obj members).dumps = "object" := by
    rw [jsonbTypeof, Json.parse_dumps]
    rfl
  have inserted : insertToolEvidence {} row = .ok { toolEvidence := [row] } := by
    simp only [insertToolEvidence, bind_eq_ok, ensure_eq_ok, exists_unit, pure_eq_ok]
    exact ⟨⟨bound.name, array argv, bound.cluster, array redactions, bound.status⟩,
      ⟨command, help, config, cluster, observed, raw, normalized, evidence, object⟩, times,
      ⟨fun _ h => absurd h List.not_mem_nil, fun _ h => absurd h List.not_mem_nil⟩, rfl⟩
  simp only [persistEvidence, row, castDocuments_ok wa wo wm]
  exact mapError_eq_ok.mpr inserted

end

/-- Where the times are kept, every row that `append_tool_evidence` adds of the record of a capture is read as
a record with the digest of the payload. -/
theorem appendToolEvidence_read [ColumnTypes] {host : CaptureHost} {artifact : VersionArtifact}
    {p : CapturePayload} {id stored : String} {e : ToolEvidence} {db db' : Store}
    (built : buildCapture host artifact = .ok p) (document : IsDocument p.value)
    (made : toolEvidence p id = .ok e)
    (captured : castTimestamp p.capturedAt = .ok p.capturedAt)
    (expires : castTimestamp p.expiresAt = .ok p.expiresAt)
    (h : appendToolEvidence db e = .ok (stored, db')) :
    ∀ row ∈ db'.toolEvidence, row ∈ db.toolEvidence ∨
      ∃ e', readToolEvidence row = .ok e' ∧ toolEvidenceDigest e' = .ok p.evidenceDigest := by
  obtain ⟨digest, bound, -⟩ := buildCapture_ok built
  obtain ⟨_, record, -, -, read⟩ := CapturePayload.digests digest bound document
  cases record.symm.trans made
  simp only [appendToolEvidence, bind_eq_ok] at h
  obtain ⟨-, -, h⟩ := h
  intro row hr
  split at h
  · simp only [bind_eq_ok, pure_eq_ok, Except.ok.injEq, Prod.mk.injEq] at h
    obtain ⟨-, -, -, rfl⟩ := h
    exact .inl hr
  · simp only [insertToolEvidence, bind_eq_ok, pure_eq_ok, Except.ok.injEq, Prod.mk.injEq] at h
    obtain ⟨added, cast, _, ⟨_, -, _, -, _, -, _, -, rfl⟩, -, rfl⟩ := h
    rcases List.mem_append.mp hr with hr | hr
    · exact .inl hr
    · cases List.mem_singleton.mp hr
      obtain ⟨times, expiry⟩ := toolEvidence_times made
      rw [← times] at captured
      rw [← expiry] at expires
      obtain ⟨e', -, same, accepted⟩ :=
        read (buildCapture_exact built) row (castToolEvidence_holds captured expires cast)
      exact .inr ⟨e', accepted, same⟩

/-! ### A capture -/

/-- The output of `ccloud cluster info`, as a tree. -/
def clusterTree : Json :=
  .obj [("account_id", .str "a"), ("cloud_provider", .str "AWS"), ("cockroach_version", .str "v26.2.1"),
    ("config", .null), ("created_at", .null), ("creator_id", .null), ("egress_traffic_policy", .null),
    ("id", .str "c"), ("name", .str "kingly-dreamer"), ("network_visibility", .null),
    ("operation_status", .null), ("parent_id", .null), ("plan", .str "SERVERLESS"),
    ("regions", .arr [.obj [("name", .str "us-east-1")]]), ("sql_dns", .null), ("state", .str "CREATED"),
    ("updated_at", .null), ("upgrade_status", .null)]

/-- The artifact of the cluster whose identifier is `c`. -/
def clusterArtifact : VersionArtifact :=
  { ccloudAuthProfileDigest := sha256Hex "p",
    expectedClusterIdDigest := "2e7d2c03a9507ae265ecf5b5356885a53393a2029d241394997265a1a25aefc6",
    provisioningReceiptDigest := "r", ccloudExecutable := "/usr/bin/ccloud",
    ccloudExecutableSha256 := "x", ccloudJsonFlag := "--output=json", ccloudVersion := "v0.6.12",
    ccapiVersion := "2023-04-10", ccloudHelpDigest := sha256Hex "h", ccloudConfigDigest := sha256Hex "g",
    observedCockroachVersion := "v26.2.1", targetWirePlan := "SERVERLESS", targetPlan := "BASIC",
    requiredVersionFamily := "v26.2" }

/-- The receipt of the command. -/
def clusterReceipt : ProcessReceipt := ⟨clusterTree.dumps.toUTF8, sha256Hex "o", 0, rfl⟩

/-- A host with the bound environment and executable. -/
def clusterHost : CaptureHost :=
  { environment := fun name =>
      [("CCLOUD_CLUSTER_NAME", "kingly-dreamer"), ("CCLOUD_AUTH_PROFILE", "p"),
        ("CCLOUD_EXPECTED_CLUSTER_ID_DIGEST", clusterArtifact.expectedClusterIdDigest),
        ("CCLOUD_PROVISIONING_RECEIPT_DIGEST", "r")].lookup name,
    executableDigest := fun _ => .ok "x",
    boundedProcess := fun _ _ => .ok clusterReceipt,
    captured := "2026-01-01T00:00:00.000000Z", expires := "2026-01-01T00:15:00.000000Z", key := "k" }

section
variable [Platform]

/-- A document has a digest. -/
lemma canonicalDigest_ok {v : Value} (document : IsDocument v)
    (limit : ∀ i ∈ integersOf v, (natChars i.natAbs).length ≤ maxIntDigits) :
    ∃ t, canonicalDigest v = .ok (sha256 t) := by
  obtain ⟨j, whole, rfl⟩ := exists_tree document
  exact ⟨j.dumps, (canonicalDigest_document document whole).mpr ⟨short_iff.mpr limit, rfl⟩⟩

end

/-- The payload of the capture. -/
def clusterPayload (command output digest : String) : CapturePayload :=
  let _ := asciiPlatform
  { capturePayload clusterHost clusterArtifact (captureArgv clusterArtifact) clusterArtifact.expected
      ["cluster_id"] clusterReceipt command output with evidenceDigest := digest }

lemma clusterPayload_document {command output digest : String} :
    let _ := asciiPlatform
    IsDocument (clusterPayload command output digest).value := by
  intro _
  have fixed (s : String) : nfc s = s := rfl
  refine ⟨?_, ?_⟩
  · simp only [CapturePayload.members, List.map_cons, List.map_nil]
    decide
  · simp [CapturePayload.members, MembersAreDocuments, AreDocuments, IsDocument, fixed, clusterPayload,
      capturePayload, captureArgv, clusterArtifact, VersionArtifact.expected, ClusterDocument.value]

/-- The cluster is captured, with three digests. -/
lemma cluster_captured :
    let _ := asciiPlatform
    ∃ command output digest, buildCapture clusterHost clusterArtifact =
      .ok (clusterPayload (sha256 command) (sha256 output) (sha256 digest)) := by
  intro _
  have argv : IsDocument (captureArgv clusterArtifact) := ⟨rfl, rfl, rfl, rfl, rfl, trivial⟩
  have document : IsDocument clusterArtifact.expected.value := by
    have members := (@clusterPayload_document "" "" "").2
    simp only [CapturePayload.members, MembersAreDocuments, clusterPayload, capturePayload] at members
    tauto
  obtain ⟨t, command⟩ := canonicalDigest_ok argv (by simp [captureArgv, integersOf, integersOfElems])
  obtain ⟨t', output⟩ := canonicalDigest_ok document
    (by simp [ClusterDocument.value, integersOf, integersOfMembers, integersOfElems,
      VersionArtifact.expected])
  obtain ⟨t'', digest⟩ := canonicalDigest_ok (@clusterPayload_document (sha256 t) (sha256 t') "")
    (List.forall_mem_singleton.mpr (by decide : (natChars 0).length ≤ maxIntDigits))
  have normalized : normalizeClusterDocument clusterReceipt.stdout clusterArtifact.ccloudVersion
      clusterArtifact.ccapiVersion = .ok (clusterArtifact.expected.texts, ["cluster_id"]) := by
    simp only [normalizeClusterDocument, clusterReceipt, strictJson_dumps]
    decide +kernel
  have target : validateTarget clusterArtifact.expected.texts clusterArtifact =
      .ok clusterArtifact.expected := by decide +kernel
  have guarded : redactionGuard clusterArtifact.expected.value = .ok () := by decide +kernel
  have environment :
      clusterHost.requiredEnvironment "CCLOUD_CLUSTER_NAME" = .ok boundClusterName ∧
      clusterHost.requiredEnvironment "CCLOUD_AUTH_PROFILE" = .ok "p" ∧
      clusterHost.requiredEnvironment "CCLOUD_EXPECTED_CLUSTER_ID_DIGEST" =
        .ok clusterArtifact.expectedClusterIdDigest ∧
      clusterHost.requiredEnvironment "CCLOUD_PROVISIONING_RECEIPT_DIGEST" = .ok "r" := by
    decide +kernel
  obtain ⟨name, profile, expectedId, receiptDigest⟩ := environment
  have known : sha256 "p" = clusterArtifact.ccloudAuthProfileDigest := Eq.refl (sha256Hex "p")
  exact ⟨t, t', t'', buildCapture_succeeds name profile known expectedId receiptDigest rfl
    List.mem_cons_self rfl normalized target guarded command output digest⟩

/-- The capture of a cluster is recorded, stored and read back. -/
theorem buildCapture_digests_cluster :
    let _ := asciiPlatform
    ∃ p e row e', buildCapture clusterHost clusterArtifact = .ok p ∧
      toolEvidence p "00000000-0000-0000-0000-000000000001" = .ok e ∧
      toolEvidenceDigest e = .ok p.evidenceDigest ∧ validateToolEvidence e = .ok () ∧
      captureClosure clusterHost clusterArtifact "00000000-0000-0000-0000-000000000001" {} =
        .ok (p, { toolEvidence := [row] }) ∧
      readToolEvidence row = .ok e' ∧ toolEvidenceDigest e' = .ok p.evidenceDigest := by
  intro _
  obtain ⟨t, t', t'', built⟩ := cluster_captured
  have document := @clusterPayload_document (sha256 t) (sha256 t') (sha256 t'')
  obtain ⟨signed, bound, -⟩ := buildCapture_ok built
  let argv := ["ccloud", "cluster", "info", "kingly-dreamer", "--output=json"].map Json.str
  let members : List (String × Json) :=
    [("name", .str "kingly-dreamer"),
      ("cluster_id_digest", .str clusterArtifact.expectedClusterIdDigest),
      ("cockroach_version", .str "v26.2.1"), ("state", .str "CREATED"), ("wire_plan", .str "SERVERLESS"),
      ("plan", .str "BASIC"), ("cloud", .str "AWS"), ("regions", .arr (["us-east-1"].map .str))]
  let redactions := ["cluster_id"].map Json.str
  have texts (l : List String) : ∀ q ∈ (Json.arr (l.map .str)).parts, Whole q := by
    refine forall_parts_arr.mpr ⟨trivial, List.forall_mem_map.mpr fun s _ q hq => ?_⟩
    cases List.mem_singleton.mp hq
    trivial
  have wa : ∀ q ∈ (Json.arr argv).parts, Whole q := texts _
  have wm : ∀ q ∈ (Json.arr redactions).parts, Whole q := texts _
  have wo : ∀ q ∈ (Json.obj members).parts, Whole q := by
    refine forall_parts_obj.mpr ⟨?_, ?_⟩
    · simp only [Whole, members, List.map_cons, List.map_nil]
      decide
    · simp [members, Json.parts, partsElems, Whole]
  obtain ⟨-, record, -⟩ := @toolEvidence_document _ _ "00000000-0000-0000-0000-000000000001"
    (.arr argv) (.obj members) (.arr redactions) _ document rfl rfl rfl wa wo wm signed
  obtain ⟨e, made, same, accepted, read⟩ := buildCapture_digests built document
  cases record.symm.trans made
  have digests : ∀ d ∈ [sha256 t, sha256Hex "h", sha256Hex "g", sha256 boundClusterName,
      clusterArtifact.expectedClusterIdDigest, sha256Hex "o", sha256 t', sha256 t''],
      isDigestLength d = true := by
    have hex (text : String) : isDigestLength (sha256Hex text) = true :=
      isDigestLength_of_hex (sha256Hex_isHex text)
    have cluster : isDigestLength clusterArtifact.expectedClusterIdDigest = true := by decide
    simp only [List.forall_mem_cons]
    exact ⟨hex _, hex _, hex _, hex _, cluster, hex _, hex _, hex _, List.forall_mem_nil _⟩
  have times : "2026-01-01T00:00:00.000000Z" < "2026-01-01T00:15:00.000000Z" := by decide
  have stored := @persistEvidence_succeeds _ _ "00000000-0000-0000-0000-000000000001" _ _ _ bound wa wo wm
    digests times
  obtain ⟨e', -, again, readable⟩ := read _ (toolEvidenceArgs_holds wa wo wm)
  refine ⟨_, _, _, _, built, made, same, accepted, ?_, readable, again⟩
  rw [captureClosure, built, ok_bind, record, ok_bind, stored]
  rfl

end GAM
