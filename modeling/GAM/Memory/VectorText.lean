import GAM.Lib.Single
import GAM.Lib.Steady
import GAM.Memory.ProposalCodec

/-!
# Vectors that come back

`_vector_text` writes the components of an embedding with seventeen digits. `json.loads` and `_float`
read each of them back as the double it was, except that the negative zero, whose text is an integer,
comes back without its sign.
-/

namespace GAM
open Lib

/-! ### Texts of number tokens -/

/-- A list of number tokens is parsed as their numbers. -/
lemma parse_tokens {α : Type} {f : α → List Char} {l : List α} (h : ∀ a ∈ l, TokenText (f a)) :
    Json.parse (String.ofList (commaSeparated '[' ']' (l.map f))) =
      some (.arr (l.map fun a => .num (tokenOf (f a)))) := by
  -- the tree of the positions, each printed as the text at its position
  let text : Number → List Char := fun n => (l.map f).getD n.int []
  let tree : List Json := (List.range l.length).map fun i => .num ⟨false, i, [], none⟩
  have texts : tree.map (Json.printWith text) = l.map f := by
    refine List.ext_getElem (by simp [tree]) fun i hi hi' => ?_
    have bound : i < l.length := by simpa using hi'
    simp [tree, text, Json.printWith, bound]
  have tokens : Tokens text (fun n => tokenOf (text n)) (Json.arr tree).parts := by
    intro n hn
    obtain ⟨i, hi, rfl⟩ : ∃ i, i < l.length ∧ n = ⟨false, i, [], none⟩ := by
      rcases mem_parts_arr.mp hn with e | ⟨j, hj, hp⟩
      · cases e
      · obtain ⟨i, hi, rfl⟩ := List.mem_map.mp hj
        exact ⟨i, List.mem_range.mp hi, by simpa [Json.parts] using hp⟩
    have token := h _ (List.getElem_mem hi)
    have same : text ⟨false, i, [], none⟩ = f (l[i]) := by simp [text, hi]
    show IsToken (text _) (tokenOf (text _))
    rw [same]
    exact token.isToken
  have parsed := Json.parse_printWith tokens
  rw [← commaSeparated_arr, texts] at parsed
  rw [parsed, Json.map, mapElems_eq]
  congr 2
  refine List.ext_getElem (by simp [tree]) fun i hi hi' => ?_
  have bound : i < l.length := by simpa using hi'
  simp [tree, text, Json.map, bound]

/-! ### Components -/

/-- A double without the sign of a zero. -/
def unsignedZero : Binary64 → Binary64
  | .finite neg E F => if Binary64.mant E F = 0 then .zero else .finite neg E F
  | x => x

/-- A finite double equals itself without the sign of a zero. -/
lemma unsignedZero_eqv {x : Binary64} (finite : x.isFinite = true) : (unsignedZero x).eqv x = true := by
  cases x with
  | infinity | nan => cases finite
  | finite neg E F =>
    by_cases h : Binary64.mant E F = 0
    · rw [unsignedZero, if_pos h, Binary64.zero, Binary64.eqv, h]
      simp [Binary64.mant]
    · rw [unsignedZero, if_neg h]
      exact Binary64.eqv_self rfl

/-- Finite doubles that are equal are the same without the sign of a zero. -/
lemma unsignedZero_of_eqv {x y : Binary64} (same : x.eqv y = true) (finite : x.isFinite = true) :
    unsignedZero x = unsignedZero y := by
  cases x with
  | infinity | nan => cases finite
  | finite neg E F =>
    cases y with
    | infinity | nan => cases same
    | finite neg' E' F' =>
      simp only [Binary64.eqv, Bool.or_eq_true, Bool.and_eq_true, beq_iff_eq] at same
      obtain ⟨⟨rfl, rfl⟩, rfl⟩ | ⟨zero, zero'⟩ := same
      · rfl
      · rw [unsignedZero, unsignedZero, if_pos zero, if_pos zero']

lemma format17_zero {neg : Bool} {E : Fin 2047} {F : Fin (2 ^ 52)} (h : Binary64.mant E F = 0) :
    IsToken (Binary64.format17 (.finite neg E F)) ⟨neg, 0, [], none⟩ ∧
      NumberText (Binary64.format17 (.finite neg E F)) := by
  rw [Binary64.format17, if_pos h]
  have plain : IsPointed ['0'] := ⟨['0'], [], rfl, leading_zero, fun c hc => absurd hc List.not_mem_nil⟩
  have token := @isToken_number neg ['0'] [] [] none leading_zero
    (fun c hc => absurd hc List.not_mem_nil)
    fun r hr => ⟨parseExp_expChars (e := none) hr, expChars_noFrac (e := none) hr⟩
  rw [List.append_nil] at token
  exact ⟨token, plain.token.1⟩

/-- A finite double is printed without the sign of a zero exactly when it has none. -/
lemma format17_unsigned {x : Binary64} (same : x.format17 = (unsignedZero x).format17) :
    unsignedZero x = x := by
  cases x with
  | infinity | nan => rfl
  | finite neg E F =>
    by_cases h : Binary64.mant E F = 0
    · have zero : Binary64.mant 0 0 = 0 := rfl
      rw [unsignedZero, if_pos h, Binary64.zero, Binary64.format17, if_pos h, Binary64.format17, if_pos zero]
        at same
      cases neg with
      | true => cases same
      | false =>
        rw [Binary64.mant] at h
        split at h
        · rename_i E0
          obtain rfl : E = 0 := Fin.ext E0
          obtain rfl : F = 0 := Fin.ext h
          rfl
        · omega
    · rw [unsignedZero, if_neg h]

/-- A double that equals one in single precision is in single precision. -/
lemma toSingle_of_eqv {x y : Binary64} (same : x.eqv y = true) (single : y.toSingle = some y) :
    x.toSingle = some x := by
  have finite : y.isFinite = true := Binary64.isFinite_of_toSingle single
  cases y with
  | infinity | nan => cases finite
  | finite neg E F =>
    cases x with
    | infinity | nan => cases same
    | finite neg' E' F' =>
      simp only [Binary64.eqv, Bool.or_eq_true, Bool.and_eq_true, beq_iff_eq] at same
      obtain ⟨⟨rfl, rfl⟩, rfl⟩ | ⟨zero, -⟩ := same
      · exact single
      · simp only [Binary64.toSingle, if_pos zero]

/-- The text of a finite double is a number token. -/
lemma format17_token {x : Binary64} (finite : x.isFinite = true) : TokenText x.format17 := by
  cases x with
  | infinity | nan => cases finite
  | finite neg E F =>
    by_cases h : Binary64.mant E F = 0
    · obtain ⟨token, text⟩ := @format17_zero neg E F h
      exact ⟨text, _, token⟩
    · obtain ⟨_, -, text, n, token, -⟩ := @Binary64.format17_denotes neg E F h
      exact ⟨text, n, token⟩

/-- An integer token denotes its integer. -/
lemma whole_magnitude {n : Number} (whole : n.frac = []) (plain : n.exp = none) :
    Binary64.magnitude n = n.int ∧ Binary64.ofNumber n = .ofDecimal n.neg n.int 0 := by
  have number : Decimal.ofNumber n = .finite n.neg n.int 0 := by
    rw [Decimal.ofNumber, whole, plain]
    rfl
  rw [Binary64.magnitude, Binary64.ofNumber, number, Decimal.abs_value, zpow_zero, mul_one]
  exact ⟨rfl, rfl⟩

lemma pyFloat_int {i : Int} {x : Binary64} (finite : x.isFinite = true)
    (value : Binary64.ofDecimal (decide (i < 0)) i.natAbs 0 = x) : pyFloat (.int i) = .ok x := by
  rw [pyFloat, value]
  cases x with
  | infinity | nan => cases finite
  | finite => rfl

lemma floatOf_number {v : Value} {x : Binary64} (finite : x.isFinite = true)
    (h : (∃ i, v = .int i ∧ Binary64.ofDecimal (decide (i < 0)) i.natAbs 0 = x) ∨ v = .float x) :
    floatOf v = .ok x := by
  rcases h with ⟨i, rfl, value⟩ | rfl
  · simp [floatOf, loaded, pyFloat_int finite value, finite]
  · simp [floatOf, loaded, pyFloat, finite]

/-- The number that is read from the text of a finite double. -/
lemma component_reads {x : Binary64} (finite : x.isFinite = true) :
    ∃ v, loadNumber (tokenOf x.format17) = .ok v ∧ floatOf v = .ok (unsignedZero x) := by
  cases x with
  | infinity | nan => cases finite
  | finite neg E F =>
    by_cases h : Binary64.mant E F = 0
    · refine ⟨.int 0, ?_, ?_⟩
      · have short : ¬maxIntDigits < (natChars 0).length := by decide
        rw [(@format17_zero neg E F h).1.tokenOf, loadNumber, if_pos ⟨rfl, rfl⟩, if_neg short]
        cases neg <;> rfl
      · rw [unsignedZero, if_pos h]
        exact floatOf_number rfl (.inl ⟨0, rfl, rfl⟩)
    · have token := (@format17_token (.finite neg E F) rfl).isToken
      generalize tokenOf (Binary64.format17 (.finite neg E F)) = n at token
      obtain ⟨sign, value, small⟩ := Binary64.format17_reads h token
      rw [unsignedZero, if_neg h, loadNumber]
      by_cases whole : n.frac = [] ∧ n.exp = none
      · obtain ⟨magnitude, ofDecimal⟩ := whole_magnitude whole.1 whole.2
        have short : ¬maxIntDigits < (natChars n.int).length := by
          rw [magnitude] at small
          have bound : n.int < 10 ^ 320 := by exact_mod_cast small
          have length := (Binary64.length_natChars_le (by decide)).mpr bound
          rw [maxIntDigits]
          omega
        have nonzero : n.int ≠ 0 := by
          intro zero
          rw [ofDecimal, zero, sign] at value
          cases value
          exact h rfl
        rw [if_pos whole, if_neg short]
        refine ⟨_, rfl, floatOf_number rfl (.inl ⟨_, rfl, ?_⟩)⟩
        rw [← value, ofDecimal]
        cases n.neg with
        | true =>
          have below : -(n.int : Int) < 0 := by omega
          rw [if_pos rfl, decide_eq_true below, Int.natAbs_neg, Int.natAbs_natCast]
        | false =>
          have above : ¬(n.int : Int) < 0 := by omega
          rw [if_neg Bool.false_ne_true, decide_eq_false above, Int.natAbs_natCast]
      · rw [if_neg whole, value]
        exact ⟨_, rfl, floatOf_number rfl (.inr rfl)⟩

lemma components_read {l : List Binary64} (finite : ∀ x ∈ l, x.isFinite = true) :
    ∃ vs, loadElems (l.map fun x => .num (tokenOf x.format17)) = .ok vs ∧
      mapAll floatOf vs = .ok (l.map unsignedZero) := by
  induction l with
  | nil => exact ⟨[], rfl, rfl⟩
  | cons x l ih =>
    obtain ⟨v, number, float⟩ := component_reads (finite x List.mem_cons_self)
    obtain ⟨vs, numbers, floats⟩ := ih fun y hy => finite y (List.mem_cons_of_mem x hy)
    refine ⟨v :: vs, ?_, ?_⟩
    · rw [List.map_cons, loadElems, loadValue, number, ok_bind, numbers]
      rfl
    · rw [mapAll, float, ok_bind, floats]
      rfl

/-- What is read from the text of an embedding. -/
lemma readEmbedding_written {l : List Binary64} {text : String} (finite : ∀ x ∈ l, x.isFinite = true)
    (written : vectorText l = .ok text) :
    readEmbedding text = normalizeEmbeddingVector (l.map unsignedZero) := by
  obtain ⟨vs, numbers, floats⟩ := components_read finite
  rw [vectorText] at written
  obtain ⟨_, -, e⟩ := bind_eq_ok.mp written
  cases e
  have parsed := parse_tokens fun x hx => format17_token (finite x hx)
  have loads : embeddingOf (.dict [("embedding",
      .str (String.ofList (commaSeparated '[' ']' (l.map Binary64.format17))))]) = .ok (.list vs) := by
    have found : subscript "embedding" (.dict [("embedding",
        .str (String.ofList (commaSeparated '[' ']' (l.map Binary64.format17))))]) =
          .ok (.str (String.ofList (commaSeparated '[' ']' (l.map Binary64.format17)))) := rfl
    rw [embeddingOf, found, ok_bind, loaded, jsonLoads_parse parsed]
    simp only [loadValue, numbers, ok_bind, pure_eq_ok]
  rw [readEmbedding, loads, ok_bind, componentsOf, iterate, ok_bind, floats, ok_bind]

/-- The embedding that is read back is the one that was written exactly when its components are
single-precision numbers and none is the negative zero. -/
lemma readEmbedding_same {l : List Binary64} {text : String} (finite : ∀ x ∈ l, x.isFinite = true)
    (written : vectorText l = .ok text) :
    readEmbedding text = .ok l ↔ ∀ x ∈ l, x.toSingle = some x ∧ unsignedZero x = x := by
  have length : l.length = pinnedEmbeddingDimensions := by
    rw [vectorText] at written
    obtain ⟨_, checked, -⟩ := bind_eq_ok.mp written
    exact ensure_eq_ok.mp checked
  have single : ∀ x, (unsignedZero x).toSingle = some x ↔ x.toSingle = some x ∧ unsignedZero x = x := by
    intro x
    by_cases same : unsignedZero x = x
    · rw [same]
      exact (and_iff_left rfl).symm
    · have zero : unsignedZero x = .zero := by
        cases x with
        | infinity | nan => exact absurd rfl same
        | finite neg E F =>
          rw [unsignedZero] at same ⊢
          split
          · rfl
          · rename_i h
            exact absurd (if_neg h) same
      rw [zero] at same ⊢
      exact iff_of_false (fun h => same (Option.some.inj h)) fun h => same h.2
  rw [readEmbedding_written finite written, normalizeEmbeddingVector_ok, List.forall₂_map_left_iff,
    List.forall₂_same]
  refine (and_iff_right ((List.length_map _).trans length)).trans (forall₂_congr fun x _ => single x)

/-- An embedding in single precision is read back without the signs of its zeros. -/
lemma readEmbedding_single {l : List Binary64} {text : String} (single : ∀ x ∈ l, x.toSingle = some x)
    (written : vectorText l = .ok text) : readEmbedding text = .ok (l.map unsignedZero) := by
  have finite : ∀ x ∈ l, x.isFinite = true := fun x hx => Binary64.isFinite_of_toSingle (single x hx)
  have length : l.length = pinnedEmbeddingDimensions := by
    rw [vectorText] at written
    obtain ⟨_, checked, -⟩ := bind_eq_ok.mp written
    exact ensure_eq_ok.mp checked
  have kept : ∀ x ∈ l.map unsignedZero, x.toSingle = some x := by
    intro x hx
    obtain ⟨y, hy, rfl⟩ := List.mem_map.mp hx
    exact toSingle_of_eqv (unsignedZero_eqv (finite y hy)) (single y hy)
  rw [readEmbedding_written finite written, normalizeEmbeddingVector_ok, List.forall₂_same]
  exact ⟨(List.length_map _).trans length, kept⟩

end GAM
