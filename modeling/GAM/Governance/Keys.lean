import GAM.Governance.Config
import GAM.Lib.Runs

/-!
# Action and target keys

What `normalize_action_target_key` makes of an ASCII text: the runs of the text between white space, in
lower case and joined by single spaces. A key is its own key, and two texts have one key when they have
the same runs up to case, which is what the identity checks on exclusions and precedents go by.
-/

namespace GAM
open Lib

/-- The runs of a text between white space, in lower case. -/
def keyRuns (text : String) : List String :=
  (runs isKeySpace text.toList).map fun r => String.ofList (r.map Char.toLower)

/-! ### Stripping and folding -/

/-- A run leaves no open run of white space. -/
lemma foldSpace_run {r : List Char} (h : IsRun isKeySpace r) (b : Bool) (l : List Char) :
    foldSpace b (r ++ l) = r ++ foldSpace false l := by
  obtain ⟨ne, letters⟩ := h
  induction r generalizing b with
  | nil => exact absurd rfl ne
  | cons c r ih =>
    have letter : ¬isKeySpace c = true := by simp [letters c List.mem_cons_self]
    rw [List.cons_append, foldSpace, if_neg letter]
    cases r with
    | nil => rfl
    | cons d r =>
      rw [ih false (List.cons_ne_nil d r) fun a ha => letters a (List.mem_cons_of_mem c ha)]
      rfl

/-- A leading space is folded into the blank before it. -/
lemma foldSpace_space {c : Char} (h : isKeySpace c = true) (l : List Char) :
    foldSpace true (c :: l) = foldSpace true l ∧ foldSpace false (c :: l) = ' ' :: foldSpace true l := by
  simp [foldSpace, h]

/-- Within an open run of white space, a text without white space at its end is folded to its runs. -/
lemma foldSpace_runs {l : List Char} (h : ∀ ne : l ≠ [], ¬isKeySpace (l.getLast ne) = true) :
    foldSpace true l = [' '].intercalate (runs isKeySpace l) := by
  induction l using runInduction isKeySpace with
  | nil => rfl
  | step c l hc ih =>
    rw [(foldSpace_space hc l).1, runs_sep hc]
    apply ih
    intro ne
    rw [← List.getLast_cons ne]
    exact h (List.cons_ne_nil c l)
  | last r hr =>
    have folded := foldSpace_run hr true []
    rw [List.append_nil] at folded
    rw [folded, hr.runs, foldSpace, List.append_nil, List.intercalate_singleton]
  | run r c l hr hc ih =>
    have ne : l ≠ [] := by
      rintro rfl
      exact h (by simp) (by simpa using hc)
    have ending : ¬isKeySpace (l.getLast ne) = true := by
      have last := h (by simp)
      rwa [List.getLast_append_of_ne_nil _ (List.cons_ne_nil c l), List.getLast_cons ne] at last
    have more : runs isKeySpace l ≠ [] := by
      intro none
      exact ending (runs_eq_nil.mp none _ (List.getLast_mem ne))
    rw [foldSpace_run hr, (foldSpace_space hc l).2, ih fun _ => ending, hr.runs_append hc,
      List.intercalate_cons_of_ne_nil more, List.append_assoc, List.singleton_append]

/-- Stripped and folded, a text is its runs joined by single spaces. -/
lemma foldSpace_stripSpace (l : List Char) :
    foldSpace false (stripSpace l) = [' '].intercalate (runs isKeySpace l) := by
  have strip : stripSpace l = (l.dropWhile isKeySpace).rdropWhile isKeySpace := rfl
  have ending : ∀ ne : stripSpace l ≠ [], ¬isKeySpace ((stripSpace l).getLast ne) = true := by
    rw [strip]
    exact fun ne => List.rdropWhile_last_not isKeySpace _ ne
  rw [← runs_dropWhile, ← runs_rdropWhile, ← strip, ← foldSpace_runs ending]
  -- the text does not start with white space, so that no run of it is open
  cases h : stripSpace l with
  | nil => rfl
  | cons c cs =>
    have start : ¬isKeySpace c = true := by
      obtain ⟨rest, first⟩ := List.rdropWhile_prefix isKeySpace (l.dropWhile isKeySpace)
      rw [← strip, h, List.cons_append] at first
      have stop := List.head?_dropWhile_not isKeySpace l
      rw [← first] at stop
      simpa using stop
    rw [foldSpace, foldSpace, if_neg start, if_neg start]

/-! ### Lower case -/

/-- What holds of the first 128 characters holds of every ASCII one. -/
lemma ofNat_toNat_ascii {P : Char → Prop} (h : ∀ n < 128, P (Char.ofNat n)) {c : Char}
    (hc : c.toNat < 128) : P c := by
  rw [← Char.ofNat_toNat c]
  exact h _ hc

/-- Lower case keeps what is a space. -/
lemma isKeySpace_toLower {c : Char} (h : c.toNat < 128) : isKeySpace c.toLower = isKeySpace c :=
  ofNat_toNat_ascii (P := fun c => isKeySpace c.toLower = isKeySpace c) (by decide) h

/-- Lower case keeps ASCII. -/
lemma toLower_ascii {c : Char} (h : c.toNat < 128) : c.toLower.toNat < 128 :=
  ofNat_toNat_ascii (P := fun c => c.toLower.toNat < 128) (by decide) h

/-- Lower case twice is lower case. -/
lemma toLower_idem {c : Char} (h : c.toNat < 128) : c.toLower.toLower = c.toLower :=
  ofNat_toNat_ascii (P := fun c => c.toLower.toLower = c.toLower) (by decide) h

/-! ### Keys of ASCII texts -/

section
variable {x y : String}

/-- A word of an ASCII key is ASCII, without spaces and in lower case. -/
lemma mem_keyRuns {w : String} (hx : isAscii x) (h : w ∈ keyRuns x) :
    isAscii w ∧ IsRun isKeySpace w.toList ∧ w.toList.map Char.toLower = w.toList := by
  obtain ⟨r, hr, rfl⟩ := List.mem_map.mp h
  have ascii : ∀ c ∈ r, c.toNat < 128 := fun c hc => hx c (mem_of_mem_runs hr c hc)
  obtain ⟨ne, letters⟩ := isRun_of_mem hr
  rw [isAscii, String.toList_ofList, List.map_map]
  refine ⟨fun c hc => ?_, ⟨by simpa using ne, fun c hc => ?_⟩, ?_⟩
  · obtain ⟨a, ha, rfl⟩ := List.mem_map.mp hc
    exact toLower_ascii (ascii a ha)
  · obtain ⟨a, ha, rfl⟩ := List.mem_map.mp hc
    rw [isKeySpace_toLower (ascii a ha), letters a ha]
  · exact List.map_congr_left fun a ha => toLower_idem (ascii a ha)

/-- The characters of the runs joined by spaces. -/
lemma keyRuns_joined : (" ".intercalate (keyRuns x)).toList =
    ([' '].intercalate (runs isKeySpace x.toList)).map Char.toLower := by
  have space : " ".toList = [' '] := rfl
  rw [String.toList_intercalate, space, keyRuns, List.map_map]
  induction runs isKeySpace x.toList with
  | nil => rfl
  | cons r rs ih =>
    cases rs with
    | nil => simp
    | cons r' rs =>
      rw [List.map_cons, List.map_cons, List.intercalate_cons_cons, ← List.map_cons, ih,
        List.intercalate_cons_cons, List.map_append, List.map_append]
      simp

/-- The folded text of an ASCII key is ASCII. -/
lemma ascii_folded (hx : isAscii x) :
    isAscii (String.ofList ([' '].intercalate (runs isKeySpace x.toList))) := by
  intro c hc
  rw [String.toList_ofList] at hc
  cases mem_intercalate hc with
  | inl space => exact space ▸ by decide
  | inr inside =>
    obtain ⟨r, hr, hc⟩ := inside
    exact hx c (mem_of_mem_runs hr c hc)

/-- The joined words of an ASCII key are ASCII. -/
lemma ascii_joined (hx : isAscii x) : isAscii (" ".intercalate (keyRuns x)) := by
  intro c hc
  rw [keyRuns_joined] at hc
  obtain ⟨a, ha, rfl⟩ := List.mem_map.mp hc
  exact toLower_ascii (ascii_folded hx a (by rwa [String.toList_ofList]))

/-- The runs of the joined runs are the runs. -/
lemma keyRuns_idem (hx : isAscii x) : keyRuns (" ".intercalate (keyRuns x)) = keyRuns x := by
  have space : " ".toList = [' '] := rfl
  have areRuns : ∀ r ∈ (keyRuns x).map String.toList, IsRun isKeySpace r := by
    intro r hr
    obtain ⟨w, hw, rfl⟩ := List.mem_map.mp hr
    exact (mem_keyRuns hx hw).2.1
  have read := runs_intercalate (show isKeySpace ' ' = true from rfl) areRuns
  rw [keyRuns, String.toList_intercalate, space, read, List.map_map]
  conv_rhs => rw [← List.map_id (keyRuns x)]
  refine List.map_congr_left fun w hw => ?_
  rw [Function.comp, (mem_keyRuns hx hw).2.2, String.ofList_toList]
  rfl

/-- The joined words are empty exactly where there are none. -/
lemma joined_empty (hx : isAscii x) : " ".intercalate (keyRuns x) = "" ↔ keyRuns x = [] := by
  constructor
  · intro empty
    rw [← keyRuns_idem hx, empty]
    rfl
  · intro none
    rw [none]
    rfl

/-- A key has no words exactly where it is all spaces. -/
lemma keyRuns_eq_nil : keyRuns x = [] ↔ ∀ c ∈ x.toList, isKeySpace c = true := by
  rw [keyRuns, List.map_eq_nil_iff, runs_eq_nil]

variable [Platform]

/-- The key of a text is its runs joined by single spaces; a text without runs has none. -/
lemma normalizeActionTargetKey_ascii (hx : isAscii x) : normalizeActionTargetKey x =
    if keyRuns x = [] then stop "EMPTY_NORMALIZED_KEY" "action or target key normalizes to empty"
    else .ok (" ".intercalate (keyRuns x)) := by
  have lowered : lower (String.ofList ([' '].intercalate (runs isKeySpace x.toList))) =
      " ".intercalate (keyRuns x) := by
    rw [Platform.lower_ascii _ (ascii_folded hx), String.toList_ofList, ← keyRuns_joined, String.ofList_toList]
  rw [normalizeActionTargetKey, Platform.nfc_ascii x hx, foldSpace_stripSpace, lowered,
    Platform.nfc_ascii _ (ascii_joined hx)]
  simp only [joined_empty hx]

/-- Keys of ASCII texts are canonical: exactly a text of white space alone is refused; any other has
its lower-case runs joined by single spaces as its key; a key is its own key; and two texts come to the
same exactly when their lower-case runs are the same. -/
theorem normalizeActionTargetKey_canonical (hx : isAscii x) (hy : isAscii y) :
    ((∃ e, normalizeActionTargetKey x = .error e) ↔ ∀ c ∈ x.toList, isKeySpace c = true) ∧
    ((¬∀ c ∈ x.toList, isKeySpace c = true) →
      normalizeActionTargetKey x = .ok (" ".intercalate (keyRuns x))) ∧
    (∀ key, normalizeActionTargetKey x = .ok key → normalizeActionTargetKey key = .ok key) ∧
    (normalizeActionTargetKey x = normalizeActionTargetKey y ↔ keyRuns x = keyRuns y) := by
  refine ⟨?_, fun words => ?_, fun key hk => ?_, fun same => ?_, fun same => ?_⟩
  · rw [normalizeActionTargetKey_ascii hx, ← keyRuns_eq_nil]
    split
    · rename_i none
      exact iff_of_true ⟨_, rfl⟩ none
    · rename_i some
      refine iff_of_false ?_ some
      rintro ⟨e, he⟩
      cases he
  · rw [normalizeActionTargetKey_ascii hx, if_neg (mt keyRuns_eq_nil.mp words)]
  · rw [normalizeActionTargetKey_ascii hx] at hk
    split at hk
    · cases hk
    · rename_i some
      cases hk
      -- the runs of a key are those it was joined from
      rw [normalizeActionTargetKey_ascii (ascii_joined hx), keyRuns_idem hx, if_neg some]
  · rw [normalizeActionTargetKey_ascii hx, normalizeActionTargetKey_ascii hy] at same
    split at same <;> split at same
    · rename_i noneX noneY
      rw [noneX, noneY]
    · cases same
    · cases same
    · have joined := congrArg keyRuns (Except.ok.inj same)
      rwa [keyRuns_idem hx, keyRuns_idem hy] at joined
  · rw [normalizeActionTargetKey_ascii hx, normalizeActionTargetKey_ascii hy, same]

end

/-- Two spellings of one key. -/
theorem normalizeActionTargetKey_canonical_spellings :
    @normalizeActionTargetKey asciiPlatform "  A\t B\n" =
      @normalizeActionTargetKey asciiPlatform "a\x0bb" ∧
    ∃ e, @normalizeActionTargetKey asciiPlatform " \r" = .error e := by
  let _ : Platform := asciiPlatform
  have blank := normalizeActionTargetKey_canonical (show isAscii " \r" by decide)
    (show isAscii "" by decide)
  have same := normalizeActionTargetKey_canonical (show isAscii "  A\t B\n" by decide)
    (show isAscii "a\x0bb" by decide)
  exact ⟨same.2.2.2.mpr rfl, blank.1.mpr (keyRuns_eq_nil.mp rfl)⟩

end GAM
