import GAM.Lib.Steady
import GAM.Memory.ProposalCodec
import GAM.Memory.Rendering
import GAM.Memory.VectorText

/-!
# Proposals that come back

A proposal is admitted with its JSON documents as `json.dumps` writes them, and loaded with them as
`_plain_json` renders the decimals of the column. The two agree exactly on documents whose numbers are
`Steady`; the embedding comes back exactly when its components are single-precision numbers other than
the negative zero.
-/

namespace GAM
open Lib

/-- A number that is written without exponent and trailing zeros, with no more digits than the decimal
context keeps. -/
def Steady (n : Number) : Prop :=
  n.exp = none ∧ Trimmed n.frac ∧ Decimal.Representable (Decimal.ofNumber n).value

lemma decimalChars_ok {n : Number} (h : Prints n) :
    (Decimal.ofNumber n).canonicalChars = some (decimalChars n) := h

lemma prints_of_lt {n : Number} {k : Nat} (hk : k ≤ 999999)
    (small : |(Decimal.ofNumber n).value| < 10 ^ k) : Prints n := by
  cases h : (Decimal.ofNumber n).canonicalChars with
  | some cs =>
    rw [Prints, decimalChars, h]
    rfl
  | none =>
    have large := (Decimal.canonicalChars_none rfl).mp h
    have bound : (10 : ℚ) ^ (k : Int) ≤ 10 ^ (999999 : Int) := Context.ten_zpow_mono (by omega)
    have least := Context.bound_between.1
    rw [TooLarge] at large
    rw [← zpow_natCast] at small
    exact absurd (large.trans_lt small) (not_lt.mpr (bound.trans least.le))

/-- A number token without exponent that renders as its own text is the print of the number, and small
enough for the decimal context. -/
lemma renderNumber_plain {n : Number} {cs : List Char} (token : IsToken cs n)
    (own : renderNumber n = .ok cs) (plain : n.exp = none) : n.print = cs ∧ Prints n ∧
      (n.neg = true → n.int = 0 → n.frac ≠ []) := by
  rw [renderNumber, loadNumber] at own
  by_cases whole : n.frac = [] ∧ n.exp = none
  · rw [if_pos whole] at own
    split at own
    · cases own
    · rename_i short
      cases own
      generalize (if n.neg = true then -(n.int : Int) else n.int) = i at token
      have again : IsToken (intChars i) (.ofInt i) := intChars_ofInt ▸ Number.isToken _
      obtain rfl := token.unique again
      refine ⟨intChars_ofInt.symm, @prints_of_lt _ maxIntDigits (by decide) ?_,
        fun neg zero => absurd zero ?_⟩
      · have digits := (Binary64.length_natChars_le (by decide)).mp (not_lt.mp short)
        rw [Number.ofInt] at digits
        rw [Number.ofInt, Decimal.ofNumber, Decimal.abs_value]
        simp only [List.foldl_nil, Option.getD_none, List.length_nil, Nat.cast_zero, sub_self,
          zpow_zero, mul_one]
        have cast : (i.natAbs : ℚ) < (10 ^ maxIntDigits : Nat) := Nat.cast_lt.mpr digits
        rwa [Nat.cast_pow, Nat.cast_ofNat] at cast
      · have below : i < 0 := of_decide_eq_true neg
        exact Int.natAbs_ne_zero.mpr below.ne
  · rw [if_neg whole, ok_bind, dumpsValue] at own
    split at own
    · rename_i finite
      cases own
      obtain ⟨print, small⟩ := Binary64.repr_print finite token plain
      exact ⟨print, prints_of_lt (by decide) small, fun _ _ empty => whole ⟨empty, plain⟩⟩
    · cases own

/-- A number that renders as its own text is rendered by the decimals alike exactly when it is
steady. -/
lemma steady_iff {n : Number} {cs : List Char} (token : IsToken cs n)
    (own : renderNumber n = .ok cs) : Prints n ∧ decimalChars n = cs ↔ Steady n := by
  constructor
  · rintro ⟨prints, same⟩
    obtain ⟨print, plain⟩ := decimalToken_print prints
    rw [same] at print
    have again : IsToken cs (decimalToken n) := print ▸ Number.isToken _
    rw [again.unique token] at plain
    obtain ⟨print, -, signed⟩ := renderNumber_plain token own plain
    have kept := Decimal.canonicalChars_print plain signed (decimalChars_ok prints)
    exact ⟨plain, kept.mp (same.trans print.symm)⟩
  · rintro ⟨plain, fits⟩
    obtain ⟨print, prints, signed⟩ := renderNumber_plain token own plain
    have kept := Decimal.canonicalChars_print plain signed (decimalChars_ok prints)
    exact ⟨prints, (kept.mpr fits).trans print⟩

/-! ### Documents -/

section
variable [Platform]

/-- A canonical text is the print of its own tree, whose numbers render as their tokens. -/
lemma canonical_tree {text : String} {j : Json} (canonical : canonicalPlainJson text = .ok ())
    (parsed : Json.parse text = some j) :
    j.sortKeys = j ∧ (∀ p ∈ j.parts, Distinct p) ∧
      text = String.ofList (j.printWith numberChars) ∧
      ∀ n, .num n ∈ j.parts → IsToken (numberChars n) n ∧ renderNumber n = .ok (numberChars n) := by
  obtain ⟨j', parsed', plain, printed⟩ := canonicalPlainJson_iff.mp canonical
  obtain rfl : j' = j := Option.some.inj (parsed'.symm.trans parsed)
  have renders : ∀ n, .num n ∈ j'.parts → renderNumber n = .ok (numberChars n) := by
    intro n hn
    obtain ⟨cs, hcs⟩ := plain _ hn
    rw [numberChars_ok hcs, hcs]
  have tokens : Tokens numberChars (fun n => tokenOf (numberChars n)) (normalJson j').parts := by
    intro n hn
    exact (renderNumber_token (renders n (num_mem_normal.mp hn))).isToken
  have text_eq : text = String.ofList ((normalJson j').printWith numberChars) := by
    rw [printed, String.ofList_toList]
  have tree := Json.parse_printWith tokens
  rw [← text_eq, parsed, Option.some.injEq] at tree
  have normal : normalJson j' = j' := by
    conv_lhs => rw [tree]
    rw [normalJson_map, normalJson_idem, ← tree]
  rw [normal] at tree text_eq
  have kept : ∀ n, .num n ∈ j'.parts → tokenOf (numberChars n) = n := by
    have prints : j'.printWith (fun n => (tokenOf (numberChars n)).print) = j'.printWith Number.print := by
      rw [← Json.printWith_map, ← tree]
    intro n hn
    have same := (Json.printWith_inj (fun n => Number.numberText _) Number.numberText).mp prints n hn
    exact (Number.isToken _).unique (same ▸ Number.isToken n)
  refine ⟨?_, ?_, text_eq, fun n hn => ⟨?_, renders n hn⟩⟩
  · have again := (j'.map nfc id).sortKeys_idem
    rwa [show (j'.map nfc id).sortKeys = j' from normal] at again
  · intro p hp
    have plain := plain p hp
    cases p with
    | constant c => exact plain
    | obj l =>
      refine List.Nodup.of_map nfc ?_
      rw [List.map_map]
      exact plain
    | _ => trivial
  · have token : IsToken (numberChars n) (tokenOf (numberChars n)) :=
      tokens n (num_mem_normal.mpr hn)
    rwa [kept n hn] at token

/-- A canonical document is rendered by the decimals as it stands exactly when its numbers are
steady. -/
lemma rendered_iff {text : String} {j : Json} (canonical : canonicalPlainJson text = .ok ())
    (parsed : Json.parse text = some j) : Rendered text ↔ ∀ n, .num n ∈ j.parts → Steady n := by
  obtain ⟨sorted, distinct, printed, numbers⟩ := canonical_tree canonical parsed
  have each : ∀ n, .num n ∈ j.parts → (Prints n ∧ decimalChars n = numberChars n ↔ Steady n) :=
    fun n hn => steady_iff (numbers n hn).1 (numbers n hn).2
  have texts : ∀ n, NumberText (numberChars n) := by
    intro n
    rw [numberChars]
    cases h : renderNumber n with
    | ok cs => exact (renderNumber_token h).1
    | error e => exact numberText_nil
  have compared := @Json.printWith_inj numberChars decimalChars j texts decimalChars_numberText
  constructor
  · rintro ⟨j', parsed', -, prints, same⟩ n hn
    obtain rfl : j' = j := Option.some.inj (parsed'.symm.trans parsed)
    rw [sorted, printed, String.ofList_inj] at same
    exact (each n hn).mp ⟨prints n hn, (compared.mp same n hn).symm⟩
  · intro steady
    refine ⟨j, parsed, distinct, fun n hn => ((each n hn).mpr (steady n hn)).1, ?_⟩
    rw [sorted, printed, compared.mpr fun n hn => ((each n hn).mpr (steady n hn)).2.symm]

end

/-! ### Rows -/

/-- What a proposal needs to be loaded as it was written. -/
structure Proposal.Durable (p : Proposal) : Prop where
  /-- The numbers of the documents are steady. -/
  documents : ∀ text ∈ [p.parametersJson, p.impactAssessmentJson, p.predictedOutcomeJson],
    ∀ j, Json.parse text = some j → ∀ n, .num n ∈ j.parts → Steady n
  /-- The components are single-precision numbers, and none is the negative zero. -/
  embedding : ∀ x ∈ p.embedding, x.toSingle = some x ∧ unsignedZero x = x

/-- The identifiers of a proposal are canonical. -/
structure Proposal.Identified (p : Proposal) : Prop where
  own : isUuid p.proposalId = true
  parent : ∀ id ∈ p.parentProposalId, isUuid id = true
  decision : ∀ id ∈ p.sourceModifyDecisionId, isUuid id = true

section
variable [Engine] {p : Proposal} {args row : ProposalRow}

/-- The column keeps the components of an embedding. -/
def KeepsVector (l : List Binary64) : Prop :=
  ∀ text column, vectorText l = .ok text → castVector text = .ok column →
    readEmbedding column = readEmbedding text

/-- A canonical document is loaded as it was written exactly when its numbers are steady. -/
lemma column_iff {text column : String} (canonical : PlainJson text)
    (cast : castJsonb text = .ok column) : plainJson (.str column) = .ok text ↔
      ∀ j, Json.parse text = some j → ∀ n, .num n ∈ j.parts → Steady n := by
  obtain ⟨j, parsed, -, -⟩ := canonicalPlainJson_iff.mp canonical
  obtain ⟨-, distinct, -, -⟩ := canonical_tree canonical parsed
  rw [plainJson_column parsed distinct cast, rendered_iff canonical parsed]
  constructor
  · intro steady j' parsed'
    cases parsed.symm.trans parsed'
    exact steady
  · intro steady
    exact steady j parsed

/-- The columns that a proposal with canonical identifiers is written to. -/
lemma castProposal_writes (ids : p.Identified) (written : proposalArgs p = .ok args)
    (cast : castProposal args = .ok row) : WritesProposal p row ∧
      castJsonb p.parametersJson = .ok row.parameters ∧
      castJsonb p.impactAssessmentJson = .ok row.impactAssessment ∧
      castJsonb p.predictedOutcomeJson = .ok row.predictedOutcome ∧
      ∃ text, vectorText p.embedding = .ok text ∧ castVector text = .ok row.embedding := by
  simp only [proposalArgs, bind_eq_ok, pure_eq_ok, Except.ok.injEq] at written
  obtain ⟨evidence, he, dependencies, hd, text, vector, rfl⟩ := written
  simp only [castProposal, castUuid_self ids.own, castOptUuid_self ids.parent,
    castOptUuid_self ids.decision, castJsonb_dump he, castJsonb_dump hd, bind_eq_ok, pure_eq_ok,
    Except.ok.injEq, exists_eq_left'] at cast
  obtain ⟨parameters, hp, impact, hi, outcome, ho, embedding, hv, rfl⟩ := cast
  exact ⟨⟨he, hd, rfl, rfl⟩, hp, hi, ho, text, vector, hv⟩

/-- The row of an accepted proposal is loaded as that proposal exactly when the proposal is
durable. -/
lemma proposalFromMapping_durable (normal : Normal (toValue p)) (ids : p.Identified)
    (valid : FieldsValid p) (finite : ∀ x ∈ p.embedding, x.isFinite = true)
    (keeps : KeepsVector p.embedding) (written : proposalArgs p = .ok args)
    (cast : castProposal args = .ok row) :
    proposalFromMapping row.mapping = .ok p ↔ p.Durable := by
  rw [Proposal.fieldsValid] at valid
  obtain ⟨parameters, impact, outcome, -⟩ := valid
  obtain ⟨writes, castParameters, castImpact, castOutcome, text, vector, castEmbedding⟩ :=
    castProposal_writes ids written cast
  have components : readEmbedding row.embedding = .ok p.embedding ↔
      ∀ x ∈ p.embedding, x.toSingle = some x ∧ unsignedZero x = x := by
    rw [keeps text _ vector castEmbedding, readEmbedding_same finite vector]
  rw [proposalFromMapping_columns normal writes]
  constructor
  · rintro ⟨a, b, c, e, ha, hb, hc, he, same⟩
    obtain ⟨rfl, rfl, rfl, rfl⟩ : p.parametersJson = a ∧ p.impactAssessmentJson = b ∧
        p.predictedOutcomeJson = c ∧ p.embedding = e := by
      rw [same]
      exact ⟨rfl, rfl, rfl, rfl⟩
    refine ⟨?_, components.mp he⟩
    rw [List.forall_mem_cons, List.forall_mem_cons, List.forall_mem_singleton]
    exact ⟨(column_iff parameters castParameters).mp ha, (column_iff impact castImpact).mp hb,
      (column_iff outcome castOutcome).mp hc⟩
  · rintro ⟨documents, embedding⟩
    rw [List.forall_mem_cons, List.forall_mem_cons, List.forall_mem_singleton] at documents
    obtain ⟨ha, hb, hc⟩ := documents
    exact ⟨_, _, _, _, (column_iff parameters castParameters).mpr ha,
      (column_iff impact castImpact).mpr hb, (column_iff outcome castOutcome).mpr hc,
      components.mpr embedding, rfl⟩

end

end GAM
