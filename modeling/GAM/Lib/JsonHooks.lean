import GAM.Lib.JsonParse

/-!
# Reading a text through its tree

A reading with hooks and `Json.parse` go over one text. Where the text has a tree, the reading is the
tree's (`Hooks.scan_parse`): the tree is walked in the order of the text, and the walk raises what the
reading raises. Where it has none, the reading raises, or else it met a lone surrogate and its value is
none of those that hold no lone surrogate (`Hooks.scan_unicode`).

What every hook keeps of the values it is given, the value of the whole text has (`Hooks.scan_holds`).
-/

namespace GAM.Lib

section
variable {ε α : Type} (h : Hooks ε α)

mutual

/-- What the hooks make of a tree. -/
def Json.load : Json → Except ε α
  | .null => .ok h.null
  | .bool b => .ok (h.bool b)
  | .constant c => h.constant c
  | .num n => h.number n
  | .str s => h.str (textOf s)
  | .arr l => do
    let as ← loadItems l
    return h.arr as
  | .obj l => do
    let ms ← loadPairs l
    h.obj ms

/-- The items of an array. -/
def loadItems : List Json → Except ε (List α)
  | [] => .ok []
  | j :: l => do
    let a ← j.load
    let as ← loadItems l
    return a :: as

/-- The members of an object, as the hook for pairs is given them. -/
def loadPairs : List (String × Json) → Except ε (List (Text × α))
  | [] => .ok []
  | (k, j) :: l => do
    let a ← j.load
    let ms ← loadPairs l
    return (textOf k, a) :: ms

end

/-- One member whose key is a text. -/
def loadMember (m : Text × Json) : Except ε (Text × α) := (m.2.load h).map (m.1, ·)

/-- The elements are loaded one by one. -/
lemma loadItems_eq (l : List Json) : loadItems h l = mapAll (Json.load h) l := by
  induction l with
  | nil => rfl
  | cons j l ih => rw [loadItems, mapAll, ih]

/-- The members are loaded one by one, their names as texts. -/
lemma loadPairs_eq (l : List (String × Json)) :
    loadPairs h l = mapAll (loadMember h) (textMembers l) := by
  induction l with
  | nil => rfl
  | cons m l ih =>
    rw [loadPairs, ih, textMembers_cons, mapAll, loadMember]
    cases m.2.load h <;> rfl

/-- The keys stay. -/
lemma loadMember_keys {l : List (Text × Json)} {ms} (e : mapAll (loadMember h) l = .ok ms) :
    ms.map Prod.fst = l.map Prod.fst := by
  induction l generalizing ms with
  | nil =>
    cases e
    rfl
  | cons m l ih =>
    simp only [mapAll, loadMember, bind_eq_ok, pure_eq_ok, Except.ok.injEq, except_map_eq_ok] at e
    obtain ⟨_, ⟨a, -, rfl⟩, ms, e, rfl⟩ := e
    rw [List.map_cons, List.map_cons, ih e]

end

/-- A reading into the tree and a reading with hooks of one text: the first is mapped to the second,
and where the first raises, the second raises or its value is `lost`. -/
def Agree {ε β γ : Type} (load : β → Except ε γ) (lost : γ → Prop) :
    Except Unit (β × List Char) → Except ε (γ × List Char) → Prop
  | .ok (b, r), y => y = (load b).map (·, r)
  | .error _, y => ∀ c r, y = .ok (c, r) → lost c

section
variable {ε β γ β' γ' : Type} {load : β → Except ε γ} {lost : γ → Prop}
  {x : Except Unit (β × List Char)} {y : Except ε (γ × List Char)}

/-- Both raise. -/
lemma Agree.invalid {e : ε} : Agree load lost (.error ()) (.error e) := fun _ _ h => nomatch h

/-- Two readings one after the other. -/
lemma Agree.cons {k : List Char → Except Unit (List β × List Char)}
    {k' : List Char → Except ε (List γ × List Char)} (head : Agree load lost x y)
    (tail : ∀ r, Agree (mapAll load) (fun l => ∃ c ∈ l, lost c) (k r) (k' r)) :
    Agree (mapAll load) (fun l => ∃ c ∈ l, lost c)
      (do let (b, r) ← x; let (l, r) ← k r; return (b :: l, r))
      (do let (c, r) ← y; let (l, r) ← k' r; return (c :: l, r)) := by
  rcases x with _ | ⟨b, r⟩
  · intro l r e
    simp only [bind_eq_ok, pure_eq_ok, Except.ok.injEq] at e
    obtain ⟨⟨c, r₁⟩, hy, ⟨l, r₂⟩, -, e⟩ := e
    cases e
    exact ⟨c, List.mem_cons_self, head c r₁ hy⟩
  · have hy : y = (load b).map (·, r) := head
    subst hy
    have rest := tail r
    rcases hk : k r with _ | ⟨l, r₁⟩
    · rw [hk] at rest
      simp only [ok_bind, hk, error_bind]
      intro l r₂ e
      simp only [bind_eq_ok, pure_eq_ok, Except.ok.injEq, except_map_eq_ok] at e
      obtain ⟨_, ⟨c, -, rfl⟩, ⟨l', r₃⟩, hl, e⟩ := e
      cases e
      obtain ⟨c', hc, lost⟩ := rest l' r₃ hl
      exact ⟨c', List.mem_cons_of_mem _ hc, lost⟩
    · rw [hk] at rest
      have hk' : k' r = (mapAll load l).map (·, r₁) := rest
      simp only [ok_bind, hk, pure_eq_ok]
      change _ = (mapAll load (b :: l)).map (·, r₁)
      rw [mapAll]
      cases load b with
      | error e => rfl
      | ok c =>
        simp only [except_map_ok, ok_bind, hk']
        cases mapAll load l <;> rfl

/-- A reading whose value is handed to a hook. -/
lemma Agree.finish (load' : β' → Except ε γ') (lost' : γ' → Prop) (f : β → Except Unit β')
    (f' : γ → Except ε γ') (h : Agree load lost x y)
    (read : ∀ b b', f b = .ok b' → load' b' = (load b >>= f'))
    (refused : ∀ b c c', f b = .error () → load b = .ok c → f' c = .ok c' → lost' c')
    (inside : ∀ c c', lost c → f' c = .ok c' → lost' c') :
    Agree load' lost' (do let (b, r) ← x; let b' ← f b; return (b', r))
      (do let (c, r) ← y; let c' ← f' c; return (c', r)) := by
  rcases x with _ | ⟨b, r⟩
  · intro c' r e
    simp only [bind_eq_ok, pure_eq_ok, Except.ok.injEq] at e
    obtain ⟨⟨c, r₁⟩, hy, c', hc, e⟩ := e
    cases e
    exact inside c c' (h c r₁ hy) hc
  · have hy : y = (load b).map (·, r) := h
    subst hy
    rcases hf : f b with _ | b'
    · simp only [ok_bind, hf, error_bind]
      intro c' r₁ e
      simp only [bind_eq_ok, pure_eq_ok, Except.ok.injEq, except_map_eq_ok] at e
      obtain ⟨_, ⟨c, hc, rfl⟩, c', hc', e⟩ := e
      cases e
      exact refused b c c' hf hc hc'
    · simp only [ok_bind, hf, pure_eq_ok]
      change _ = (load' b').map (·, r)
      rw [read b b' hf]
      cases load b with
      | error e => rfl
      | ok c =>
        simp only [except_map_ok, ok_bind]
        cases f' c <;> rfl

end

/-- The hooks carry a lone surrogate, in a text or in a key, into a value that is not `unicode`. -/
structure Keeps {ε α : Type} (h : Hooks ε α) (unicode : α → Prop) : Prop where
  str : ∀ t a, t.isUnicode = false → h.str t = .ok a → ¬unicode a
  arr : ∀ l, ∀ a ∈ l, ¬unicode a → ¬unicode (h.arr l)
  obj : ∀ l a, h.obj l = .ok a → ∀ m ∈ l, m.1.isUnicode = false ∨ ¬unicode m.2 → ¬unicode a

section
variable {ε α : Type} {h : Hooks ε α} {unicode : α → Prop}

/-- A first item, the others, and a hook at the end. -/
lemma bind_finish {ε β γ : Type} (x : Except ε (β × List Char))
    (k : List Char → Except ε (List β × List Char)) (f : List β → Except ε γ) :
    (do let (b, r) ← x; let (l, r) ← k r; let c ← f (b :: l); return (c, r)) =
      (do
        let (l, r) ← (do let (b, r) ← x; let (l, r) ← k r; return (b :: l, r))
        let c ← f l
        return (c, r)) := by
  rcases x with _ | ⟨b, r⟩
  · rfl
  · simp only [ok_bind]
    cases k r <;> rfl

/-- A word is a word for both. -/
lemma scanWord_agree (cs : List Char) :
    Agree (Json.load h) (¬unicode ·) (scanWord Json.hooks cs) (scanWord h cs) := by
  fun_cases scanWord Json.hooks cs
  all_goals try rfl
  rw [scanWord]
  · exact .invalid
  all_goals assumption

/-- A string token. -/
lemma scanString_agree {n : Nat} (keeps : Keeps h unicode) (cs : List Char) :
    Agree (Json.load h) (¬unicode ·) (scanValue Json.hooks (n + 1) ('"' :: cs))
      (scanValue h (n + 1) ('"' :: cs)) := by
  simp only [scanValue]
  rcases parseString cs with _ | ⟨t, r⟩
  · exact .invalid
  simp only [Json.hooks]
  cases ht : t.string? with
  | some s =>
    rw [Text.string?_eq_some.mp ht]
    rfl
  | none =>
    have lone : t.isUnicode = false := by
      cases hu : t.isUnicode with
      | false => rfl
      | true =>
        obtain ⟨s, rfl⟩ := Text.isUnicode_iff.mp hu
        simp at ht
    intro a r e
    obtain ⟨a, ha, e⟩ := except_map_eq_ok.mp e
    cases e
    exact keeps.str t a lone ha

section
variable {n : Nat}
  (value : ∀ cs, Agree (Json.load h) (¬unicode ·) (scanValue Json.hooks n cs) (scanValue h n cs))
  (elems : ∀ cs, Agree (mapAll (Json.load h)) (fun l => ∃ a ∈ l, ¬unicode a)
    (scanElems Json.hooks n cs) (scanElems h n cs))
  (member : ∀ cs, Agree (loadMember h) (¬unicode ·.2) (scanMember Json.hooks n cs)
    (scanMember h n cs))
  (members : ∀ cs, Agree (mapAll (loadMember h)) (fun l => ∃ m ∈ l, ¬unicode m.2)
    (scanMembers Json.hooks n cs) (scanMembers h n cs))
include value

/-- A member is read as its key and its value. -/
lemma scanMember_agree (cs : List Char) :
    Agree (loadMember h) (¬unicode ·.2) (scanMember Json.hooks (n + 1) cs)
      (scanMember h (n + 1) cs) := by
  rcases cs with _ | ⟨c, cs⟩
  · exact .invalid
  by_cases quote : c = '"'
  · subst quote
    simp only [scanMember]
    rcases parseString cs with _ | ⟨k, rest⟩
    · exact .invalid
    simp only
    generalize skipBlanks rest = rest
    split
    · rename_i cs
      have agree := value (skipBlanks cs)
      rcases hj : scanValue Json.hooks n (skipBlanks cs) with _ | ⟨j, r⟩
      · rw [hj] at agree
        intro m r e
        obtain ⟨⟨a, r⟩, ha, e⟩ := except_map_eq_ok.mp e
        cases e
        exact agree a r ha
      · rw [hj] at agree
        have read : scanValue h n (skipBlanks cs) = (j.load h).map (·, r) := agree
        rw [read]
        change _ = (loadMember h (k, j)).map (·, r)
        rw [loadMember]
        cases j.load h <;> rfl
    · exact .invalid
  · have other {ε α : Type} (g : Hooks ε α) : scanMember g (n + 1) (c :: cs) = .error g.invalid := by
      rw [scanMember]
      rintro cs ⟨⟩
      exact quote rfl
    rw [other, other]
    exact .invalid

include elems

/-- An array goes on after a comma. -/
lemma scanElems_agree (cs : List Char) :
    Agree (mapAll (Json.load h)) (fun l => ∃ a ∈ l, ¬unicode a)
      (scanElems Json.hooks (n + 1) cs) (scanElems h (n + 1) cs) := by
  rcases cs with _ | ⟨c, cs⟩
  · exact .invalid
  by_cases bracket : c = ']'
  · subst bracket
    simp only [scanElems]
    rfl
  by_cases comma : c = ','
  · subst comma
    simp only [scanElems]
    exact (value _).cons fun r => elems _
  · have other {ε α : Type} (g : Hooks ε α) : scanElems g (n + 1) (c :: cs) = .error g.invalid := by
      rw [scanElems]
      · rintro cs ⟨⟩
        exact bracket rfl
      · rintro cs ⟨⟩
        exact comma rfl
    rw [other, other]
    exact .invalid

omit value elems in
include member members in
/-- An object goes on after a comma. -/
lemma scanMembers_agree (cs : List Char) :
    Agree (mapAll (loadMember h)) (fun l => ∃ m ∈ l, ¬unicode m.2)
      (scanMembers Json.hooks (n + 1) cs) (scanMembers h (n + 1) cs) := by
  rcases cs with _ | ⟨c, cs⟩
  · exact .invalid
  by_cases brace : c = '}'
  · subst brace
    simp only [scanMembers]
    rfl
  by_cases comma : c = ','
  · subst comma
    simp only [scanMembers]
    exact (member _).cons fun r => members _
  · have other {ε α : Type} (g : Hooks ε α) : scanMembers g (n + 1) (c :: cs) = .error g.invalid := by
      rw [scanMembers]
      · rintro cs ⟨⟩
        exact brace rfl
      · rintro cs ⟨⟩
        exact comma rfl
    rw [other, other]
    exact .invalid

/-- An array: the elements are handed over when it closes. -/
lemma scanArray_agree (keeps : Keeps h unicode) (cs : List Char) :
    Agree (Json.load h) (¬unicode ·) (scanValue Json.hooks (n + 1) ('[' :: cs))
      (scanValue h (n + 1) ('[' :: cs)) := by
  simp only [scanValue]
  generalize skipBlanks cs = cs
  split
  · rfl
  have items := (value cs).cons fun r => elems (skipBlanks r)
  have closed := items.finish (Json.load h) (¬unicode ·)
    (fun l => .ok (.arr l)) (fun l => .ok (h.arr l)) ?_ ?_ ?_
  · have json := bind_finish (scanValue Json.hooks n cs)
      (fun r => scanElems Json.hooks n (skipBlanks r)) fun l => .ok (Json.arr l)
    have hooks := bind_finish (scanValue h n cs) (fun r => scanElems h n (skipBlanks r))
      fun l => .ok (h.arr l)
    exact (congrArg₂ (Agree (Json.load h) (¬unicode ·)) json hooks).mpr closed
  · rintro l _ ⟨⟩
    rw [Json.load, loadItems_eq]
    rfl
  · rintro l c c' ⟨⟩
  · rintro l _ ⟨a, ha, lone⟩ ⟨⟩
    exact keeps.arr l a ha lone

omit value elems
include member members

/-- An object: the members are handed over when it closes. -/
lemma scanObject_agree (keeps : Keeps h unicode) (cs : List Char) :
    Agree (Json.load h) (¬unicode ·) (scanValue Json.hooks (n + 1) ('{' :: cs))
      (scanValue h (n + 1) ('{' :: cs)) := by
  simp only [scanValue]
  generalize skipBlanks cs = cs
  split
  · rfl
  have pairs := (member cs).cons fun r => members (skipBlanks r)
  have closed := pairs.finish (Json.load h) (¬unicode ·) Json.hooks.obj h.obj
    ?_ ?_ ?_
  · have json := bind_finish (scanMember Json.hooks n cs)
      (fun r => scanMembers Json.hooks n (skipBlanks r)) Json.hooks.obj
    have hooks := bind_finish (scanMember h n cs) (fun r => scanMembers h n (skipBlanks r)) h.obj
    exact (congrArg₂ (Agree (Json.load h) (¬unicode ·)) json hooks).mpr closed
  · intro l j e
    simp only [Json.hooks] at e
    split at e
    · rename_i ms hms
      cases e
      rw [Text.members?_eq_some.mp hms, Json.load, loadPairs_eq]
    · cases e
  · intro l ms a e read closed
    simp only [Json.hooks] at e
    split at e
    · cases e
    · rename_i none
      obtain ⟨m, hm, lone⟩ := Text.members?_eq_none none
      have key : m.1 ∈ ms.map Prod.fst := loadMember_keys h read ▸ List.mem_map_of_mem hm
      obtain ⟨m', hm', same⟩ := List.mem_map.mp key
      exact keeps.obj ms a closed m' hm' (.inl (same ▸ lone))
  · rintro ms a ⟨m, hm, lone⟩ closed
    exact keeps.obj ms a closed m hm (.inr lone)

include value elems

/-- A value is read by its first character. -/
lemma scanValue_agree (keeps : Keeps h unicode) (cs : List Char) :
    Agree (Json.load h) (¬unicode ·) (scanValue Json.hooks (n + 1) cs)
      (scanValue h (n + 1) cs) := by
  rcases cs with _ | ⟨c, cs⟩
  · exact .invalid
  by_cases quote : c = '"'
  · exact quote ▸ scanString_agree keeps cs
  by_cases bracket : c = '['
  · exact bracket ▸ scanArray_agree value elems keeps cs
  by_cases brace : c = '{'
  · exact brace ▸ scanObject_agree member members keeps cs
  · have other {ε α : Type} (g : Hooks ε α) : scanValue g (n + 1) (c :: cs) =
        (parseNumber (c :: cs)).elim (scanWord g (c :: cs)) fun r => (g.number r.1).map (·, r.2) := by
      rw [scanValue]
      · cases parseNumber (c :: cs) <;> rfl
      · rintro cs ⟨⟩
        exact quote rfl
      · rintro cs ⟨⟩
        exact bracket rfl
      · rintro cs ⟨⟩
        exact brace rfl
    rw [other, other]
    rcases parseNumber (c :: cs) with _ | ⟨n, r⟩
    · exact scanWord_agree _
    · rfl

end

/-- The readings agree at every fuel. -/
lemma scan_agree (keeps : Keeps h unicode) (n : Nat) :
    (∀ cs, Agree (Json.load h) (¬unicode ·) (scanValue Json.hooks n cs) (scanValue h n cs)) ∧
    (∀ cs, Agree (mapAll (Json.load h)) (fun l => ∃ a ∈ l, ¬unicode a)
      (scanElems Json.hooks n cs) (scanElems h n cs)) ∧
    (∀ cs, Agree (loadMember h) (¬unicode ·.2) (scanMember Json.hooks n cs) (scanMember h n cs)) ∧
    ∀ cs, Agree (mapAll (loadMember h)) (fun l => ∃ m ∈ l, ¬unicode m.2)
      (scanMembers Json.hooks n cs) (scanMembers h n cs) := by
  induction n with
  | zero =>
    refine ⟨fun cs => ?_, fun cs => ?_, fun cs => ?_, fun cs => ?_⟩
    · simp only [scanValue]
      exact .invalid
    · simp only [scanElems]
      exact .invalid
    · simp only [scanMember]
      exact .invalid
    · simp only [scanMembers]
      exact .invalid
  | succ n ih =>
    obtain ⟨value, elems, member, members⟩ := ih
    exact ⟨scanValue_agree value elems member members keeps, scanElems_agree value elems,
      scanMember_agree value, scanMembers_agree member members⟩

/-- The reading of a text with a tree is that of the tree. -/
theorem Hooks.scan_parse (h : Hooks ε α) {s : String} {j : Json} (parsed : Json.parse s = some j) :
    h.scan s = j.load h := by
  have keeps : Keeps h fun _ => False := ⟨by simp, by simp, by simp⟩
  have agree := (scan_agree keeps (2 * s.toList.length + 2)).1 (skipBlanks s.toList)
  rw [Json.parse, Hooks.scan] at parsed
  rw [Hooks.scan]
  rcases hj : scanValue Json.hooks (2 * s.toList.length + 2) (skipBlanks s.toList) with _ | ⟨j', r⟩
  · simp [hj, Except.toOption] at parsed
  rw [hj] at agree parsed
  have read : scanValue h _ _ = (j'.load h).map (·, r) := agree
  simp only [ok_bind] at parsed
  split at parsed
  · rename_i blank
    cases parsed
    rw [read]
    cases j.load h with
    | error e => rfl
    | ok a => simp [blank]
  · cases parsed

/-- A text that is read as a value without lone surrogates has a tree. -/
theorem Hooks.scan_unicode (h : Hooks ε α) (keeps : Keeps h unicode) {s : String} {a : α} (read : h.scan s = .ok a)
    (ha : unicode a) : ∃ j, Json.parse s = some j ∧ j.load h = .ok a := by
  have agree := (scan_agree keeps (2 * s.toList.length + 2)).1 (skipBlanks s.toList)
  simp only [Hooks.scan, bind_eq_ok] at read
  obtain ⟨⟨a', r⟩, value, read⟩ := read
  split at read
  · rename_i blank
    cases read
    rcases hj : scanValue Json.hooks (2 * s.toList.length + 2) (skipBlanks s.toList)
      with _ | ⟨j, r'⟩
    · rw [hj] at agree
      exact absurd ha (agree _ r value)
    · rw [hj] at agree
      have loaded : scanValue h _ _ = (j.load h).map (·, r') := agree
      rw [value] at loaded
      obtain ⟨a', load, e⟩ := except_map_eq_ok.mp loaded.symm
      cases e
      exact ⟨j, by simp [Json.parse, Hooks.scan, hj, blank, Except.toOption], load⟩
  · cases read

/-- The hooks make no lone surrogate of strings. -/
structure Clean {ε α : Type} (h : Hooks ε α) (unicode : α → Prop) : Prop where
  null : unicode h.null
  bool : ∀ b, unicode (h.bool b)
  constant : ∀ c a, h.constant c = .ok a → unicode a
  number : ∀ n a, h.number n = .ok a → unicode a
  str : ∀ s a, h.str (textOf s) = .ok a → unicode a
  arr : ∀ l, (∀ a ∈ l, unicode a) → unicode (h.arr l)
  obj : ∀ ms a, h.obj (textMembers ms) = .ok a → (∀ m ∈ ms, unicode m.2) → unicode a

mutual

/-- The value of a tree holds no lone surrogate. -/
lemma Json.load_unicode (clean : Clean h unicode) : ∀ {j : Json} {a : α}, j.load h = .ok a → unicode a
  | .null, _, e => by
    cases e
    exact clean.null
  | .bool b, _, e => by
    cases e
    exact clean.bool b
  | .constant c, a, e => clean.constant c a e
  | .num n, a, e => clean.number n a e
  | .str s, a, e => clean.str s a e
  | .arr l, a, e => by
    simp only [Json.load, bind_eq_ok, pure_eq_ok, Except.ok.injEq] at e
    obtain ⟨as, items, rfl⟩ := e
    exact clean.arr as (loadItems_unicode clean items)
  | .obj l, a, e => by
    simp only [Json.load, bind_eq_ok] at e
    obtain ⟨ms, pairs, e⟩ := e
    obtain ⟨ms, rfl, unicode⟩ := loadPairs_unicode clean pairs
    exact clean.obj ms a e unicode

/-- Elements loaded from an array of whole texts are without surrogates. -/
lemma loadItems_unicode (clean : Clean h unicode) : ∀ {l : List Json} {as : List α},
    loadItems h l = .ok as → ∀ a ∈ as, unicode a
  | [], _, e => by
    cases e
    simp
  | j :: l, _, e => by
    simp only [loadItems, bind_eq_ok, pure_eq_ok, Except.ok.injEq] at e
    obtain ⟨a, item, as, items, rfl⟩ := e
    exact List.forall_mem_cons.mpr ⟨j.load_unicode clean item, loadItems_unicode clean items⟩

/-- Members loaded from an object of whole texts have names and values without surrogates. -/
lemma loadPairs_unicode (clean : Clean h unicode) : ∀ {l : List (String × Json)}
    {ps : List (Text × α)}, loadPairs h l = .ok ps →
      ∃ ms : List (String × α), ps = textMembers ms ∧ ∀ m ∈ ms, unicode m.2
  | [], _, e => by
    cases e
    exact ⟨[], rfl, by simp⟩
  | (k, j) :: l, _, e => by
    simp only [loadPairs, bind_eq_ok, pure_eq_ok, Except.ok.injEq] at e
    obtain ⟨a, item, _, pairs, rfl⟩ := e
    obtain ⟨ms, rfl, unicode⟩ := loadPairs_unicode clean pairs
    exact ⟨(k, a) :: ms, textMembers_cons.symm,
      List.forall_mem_cons.mpr ⟨j.load_unicode clean item, unicode⟩⟩

end

/-- A text is read as a value without lone surrogates exactly when its tree is. -/
theorem Hooks.scan_iff (keeps : Keeps h unicode) (clean : Clean h unicode) {s : String} {a : α} :
    h.scan s = .ok a ∧ unicode a ↔ ∃ j, Json.parse s = some j ∧ j.load h = .ok a := by
  constructor
  · rintro ⟨read, ha⟩
    exact h.scan_unicode keeps read ha
  · rintro ⟨j, parsed, load⟩
    exact ⟨h.scan_parse parsed ▸ load, j.load_unicode clean load⟩

/-- The hooks keep a property of the values. -/
structure Hooks.Holds (h : Hooks ε α) (P : α → Prop) : Prop where
  null : P h.null
  bool : ∀ b, P (h.bool b)
  constant : ∀ c a, h.constant c = .ok a → P a
  number : ∀ n a, h.number n = .ok a → P a
  str : ∀ t a, h.str t = .ok a → P a
  arr : ∀ l, (∀ a ∈ l, P a) → P (h.arr l)
  obj : ∀ l a, h.obj l = .ok a → (∀ m ∈ l, P m.2) → P a

/-- The words have what the constants have. -/
lemma scanWord_holds {P : α → Prop} (holds : h.Holds P) {cs r : List Char} {a : α}
    (read : scanWord h cs = .ok (a, r)) : P a := by
  have constant {c : Constant} {cs : List Char}
      (read : (h.constant c).map (·, cs) = .ok (a, r)) : P a := by
    obtain ⟨_, constant, e⟩ := except_map_eq_ok.mp read
    cases e
    exact holds.constant c a constant
  unfold scanWord at read
  split at read
  · cases read
    exact holds.null
  · cases read
    exact holds.bool true
  · cases read
    exact holds.bool false
  · exact constant read
  · exact constant read
  · exact constant read
  · cases read

/-- Every value that is read, at every fuel, has what the hooks keep. -/
lemma scan_holds {P : α → Prop} (holds : h.Holds P) (n : Nat) :
    (∀ cs a r, scanValue h n cs = .ok (a, r) → P a) ∧
    (∀ cs l r, scanElems h n cs = .ok (l, r) → ∀ a ∈ l, P a) ∧
    (∀ cs m r, scanMember h n cs = .ok (m, r) → P m.2) ∧
    ∀ cs l r, scanMembers h n cs = .ok (l, r) → ∀ m ∈ l, P m.2 := by
  induction n with
  | zero => simp [scanValue, scanElems, scanMember, scanMembers]
  | succ n ih =>
    obtain ⟨value, elems, member, members⟩ := ih
    refine ⟨fun cs a r read => ?_, fun cs l r read => ?_, fun cs m r read => ?_,
      fun cs l r read => ?_⟩
    · unfold scanValue at read
      split at read <;> cases ‹n + 1 = _›
      · split at read
        · obtain ⟨_, str, e⟩ := except_map_eq_ok.mp read
          cases e
          exact holds.str _ _ str
        · cases read
      · split at read
        · cases read
          exact holds.arr [] (List.forall_mem_nil _)
        · simp only [bind_eq_ok, pure_eq_ok, Except.ok.injEq] at read
          obtain ⟨⟨a, r⟩, ha, ⟨l, r⟩, hl, e⟩ := read
          cases e
          exact holds.arr _ (List.forall_mem_cons.mpr ⟨value _ _ _ ha, elems _ _ _ hl⟩)
      · split at read
        · obtain ⟨_, obj, e⟩ := except_map_eq_ok.mp read
          cases e
          exact holds.obj _ _ obj (List.forall_mem_nil _)
        · simp only [bind_eq_ok, pure_eq_ok, Except.ok.injEq] at read
          obtain ⟨⟨m, r⟩, hm, ⟨l, r⟩, hl, a, obj, e⟩ := read
          cases e
          exact holds.obj _ _ obj (List.forall_mem_cons.mpr ⟨member _ _ _ hm, members _ _ _ hl⟩)
      · split at read
        · obtain ⟨_, number, e⟩ := except_map_eq_ok.mp read
          cases e
          exact holds.number _ _ number
        · exact scanWord_holds holds read
    · unfold scanElems at read
      split at read <;> cases ‹n + 1 = _›
      · cases read
        exact List.forall_mem_nil _
      · simp only [bind_eq_ok, pure_eq_ok, Except.ok.injEq] at read
        obtain ⟨⟨a, r⟩, ha, ⟨l, r⟩, hl, e⟩ := read
        cases e
        exact List.forall_mem_cons.mpr ⟨value _ _ _ ha, elems _ _ _ hl⟩
      · cases read
    · unfold scanMember at read
      split at read <;> cases ‹n + 1 = _›
      · split at read
        · cases read
        · split at read
          · obtain ⟨⟨a, r⟩, ha, e⟩ := except_map_eq_ok.mp read
            cases e
            exact value _ _ _ ha
          · cases read
      · cases read
    · unfold scanMembers at read
      split at read <;> cases ‹n + 1 = _›
      · cases read
        exact List.forall_mem_nil _
      · simp only [bind_eq_ok, pure_eq_ok, Except.ok.injEq] at read
        obtain ⟨⟨m, r⟩, hm, ⟨l, r⟩, hl, e⟩ := read
        cases e
        exact List.forall_mem_cons.mpr ⟨member _ _ _ hm, members _ _ _ hl⟩
      · cases read

/-- The value that a text is read as has what the hooks keep. -/
theorem Hooks.scan_holds {P : α → Prop} (holds : h.Holds P) {s : String} {a : α}
    (read : h.scan s = .ok a) : P a := by
  simp only [Hooks.scan, bind_eq_ok] at read
  obtain ⟨⟨b, r⟩, value, read⟩ := read
  split at read
  · cases read
    exact (GAM.Lib.scan_holds holds _).1 _ _ _ value
  · cases read

/-- The hooks raise such exceptions only. -/
structure Hooks.Raise (h : Hooks ε α) (P : ε → Prop) : Prop where
  invalid : P h.invalid
  constant : ∀ c, OnlyRaises P (h.constant c)
  number : ∀ n, OnlyRaises P (h.number n)
  str : ∀ t, OnlyRaises P (h.str t)
  obj : ∀ l, OnlyRaises P (h.obj l)

/-- The words raise what the hook for constants raises. -/
lemma scanWord_raises {P : ε → Prop} (raises : h.Raise P) {cs : List Char} :
    OnlyRaises P (scanWord h cs) := by
  unfold scanWord
  split <;> simp [raises.constant, raises.invalid]

/-- Reading raises at every fuel what the hooks raise. -/
lemma scan_raises {P : ε → Prop} (raises : h.Raise P) (n : Nat) :
    (∀ cs, OnlyRaises P (scanValue h n cs)) ∧ (∀ cs, OnlyRaises P (scanElems h n cs)) ∧
      (∀ cs, OnlyRaises P (scanMember h n cs)) ∧ ∀ cs, OnlyRaises P (scanMembers h n cs) := by
  induction n with
  | zero => simp [scanValue, scanElems, scanMember, scanMembers, raises.invalid]
  | succ n ih =>
    obtain ⟨value, elems, member, members⟩ := ih
    refine ⟨fun cs => ?_, fun cs => ?_, fun cs => ?_, fun cs => ?_⟩
    · unfold scanValue
      split <;> cases ‹n + 1 = _›
      · split <;> simp [raises.str, raises.invalid]
      · split <;> simp [value, elems]
      · split <;> simp [raises.obj, member, members]
      · split
        · simp [raises.number]
        · exact scanWord_raises raises
    · unfold scanElems
      split <;> cases ‹n + 1 = _› <;> simp [value, elems, raises.invalid]
    · unfold scanMember
      split <;> cases ‹n + 1 = _›
      · split
        · exact raises.invalid
        · split <;> simp [value, raises.invalid]
      · exact raises.invalid
    · unfold scanMembers
      split <;> cases ‹n + 1 = _› <;> simp [member, members, raises.invalid]

/-- Reading raises what the hooks raise. -/
theorem Hooks.scan_raises {P : ε → Prop} (raises : h.Raise P) {s : String} :
    OnlyRaises P (h.scan s) := by
  simp only [Hooks.scan, onlyRaises_bind]
  refine ⟨(GAM.Lib.scan_raises raises _).1 _, fun p _ => ?_⟩
  split
  · trivial
  · exact raises.invalid

end

end GAM.Lib
