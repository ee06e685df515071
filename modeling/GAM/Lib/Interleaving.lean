import Mathlib.Logic.Relation

/-!
# Interleaved transactions

Calls of several clients share one store. Each call runs one atomic transaction after another; between
two of them any other call may run. A call is represented by what it will do next, so that a
transaction takes a store and a call to a store and a call. `Protocol.invariant` is the rule for such
systems: an invariant of the store, and for each call in flight an assertion that its own
transactions establish and the transactions of others do not disturb.
-/

namespace GAM.Lib

/-- Calls of type `C` on a store of type `S`. -/
structure Protocol (S C : Type) where
  /-- What a client may begin with. -/
  starts : C → Prop
  /-- One transaction of a call: the store and the call before it, the store and the call after. -/
  runs : S → C → S → C → Prop

/-- A store and the calls in flight. -/
structure Config (S C : Type) where
  store : S
  calls : List C

namespace Protocol
variable {S C : Type} (P : Protocol S C)

/-- A client begins a call, or a call runs a transaction that meets the condition. The condition sees
the store, the other calls, the call that runs and the new store. -/
inductive Step (guard : S → List C → C → S → Prop) : Config S C → Config S C → Prop
  | start {s l c} : P.starts c → Step guard ⟨s, l⟩ ⟨s, l ++ [c]⟩
  | run {s s' l r c c'} : P.runs s c s' c' → guard s (l ++ r) c s' →
      Step guard ⟨s, l ++ c :: r⟩ ⟨s', l ++ c' :: r⟩

/-- One configuration leads to another by steps that meet the condition. -/
def Leads (guard : S → List C → C → S → Prop) : Config S C → Config S C → Prop :=
  Relation.ReflTransGen (P.Step guard)

/-- A configuration that a store without calls leads to. -/
def ReachableUnder (guard : S → List C → C → S → Prop) (init : S) (k : Config S C) : Prop :=
  P.Leads guard ⟨init, []⟩ k

/-- No condition on the transactions. -/
def anyRun : S → List C → C → S → Prop := fun _ _ _ _ => True

/-- A configuration that is reached by any transactions. -/
def Reachable (init : S) (k : Config S C) : Prop := P.ReachableUnder anyRun init k

variable {P} {guard : S → List C → C → S → Prop} {init : S} {k k' : Config S C}

/-- What leads on from a reachable configuration is reachable. -/
lemma ReachableUnder.trans (h : P.ReachableUnder guard init k) (l : P.Leads guard k k') :
    P.ReachableUnder guard init k' := Relation.ReflTransGen.trans h l

/-- A reachable configuration steps to a reachable one. -/
lemma ReachableUnder.step (h : P.ReachableUnder guard init k) (hs : P.Step guard k k') :
    P.ReachableUnder guard init k' := Relation.ReflTransGen.tail h hs

/-- A call that begins and runs one transaction. -/
lemma ReachableUnder.call {s s' : S} {l : List C} {c c' : C}
    (h : P.ReachableUnder guard init ⟨s, l⟩) (hc : P.starts c) (hr : P.runs s c s' c')
    (hg : guard s l c s') : P.ReachableUnder guard init ⟨s', l ++ [c']⟩ := by
  have begun : P.ReachableUnder guard init ⟨s, l ++ [c]⟩ := h.step (.start hc)
  refine begun.step (.run hr ?_)
  rwa [List.append_nil]

/-- The call that began last runs its next transaction. -/
lemma ReachableUnder.continue {s s' : S} {l : List C} {c c' : C}
    (h : P.ReachableUnder guard init ⟨s, l ++ [c]⟩) (hr : P.runs s c s' c')
    (hg : guard s l c s') : P.ReachableUnder guard init ⟨s', l ++ [c']⟩ := by
  refine h.step (.run hr ?_)
  rwa [List.append_nil]

section Invariant
variable {I : S → Prop} {G : S → C → Prop}

/-- One step keeps the invariant and the assertions of all calls. -/
lemma step_invariant (start : ∀ s c, I s → P.starts c → G s c)
    (own : ∀ s others c s' c', I s → G s c → P.runs s c s' c' → guard s others c s' →
      I s' ∧ G s' c')
    (stable : ∀ s others c s' c' d, I s → G s c → P.runs s c s' c' → guard s others c s' →
      d ∈ others → G s d → G s' d)
    (h : P.Step guard k k') (inv : I k.store) (good : ∀ c ∈ k.calls, G k.store c) :
    I k'.store ∧ ∀ c ∈ k'.calls, G k'.store c := by
  cases h with
  | start hc =>
    refine ⟨inv, fun d hd => ?_⟩
    rcases List.mem_append.mp hd with hd | hd
    · exact good d hd
    · rw [List.mem_singleton.mp hd]
      exact start _ _ inv hc
  | @run s s' l r c c' hr hg =>
    have hc : G s c := good c (List.mem_append_right _ List.mem_cons_self)
    have others : ∀ d ∈ l ++ r, G s d := by
      intro d hd
      rcases List.mem_append.mp hd with hd | hd
      · exact good d (List.mem_append_left _ hd)
      · exact good d (List.mem_append_right _ (List.mem_cons_of_mem _ hd))
    have new := own s (l ++ r) c s' c' inv hc hr hg
    refine ⟨new.1, fun d hd => ?_⟩
    rcases List.mem_append.mp hd with hd | hd
    · have hd := List.mem_append_left r hd
      exact stable s (l ++ r) c s' c' d inv hc hr hg hd (others d hd)
    · cases hd with
      | head => exact new.2
      | tail _ hd =>
        have hd := List.mem_append_right l hd
        exact stable s (l ++ r) c s' c' d inv hc hr hg hd (others d hd)

/-- The invariant rule: the initial store has the invariant, a call begins with its assertion, a
transaction keeps the invariant and establishes the next assertion of its call, and it does not
disturb the assertions of the other calls. -/
theorem invariant (initial : I init) (start : ∀ s c, I s → P.starts c → G s c)
    (own : ∀ s others c s' c', I s → G s c → P.runs s c s' c' → guard s others c s' →
      I s' ∧ G s' c')
    (stable : ∀ s others c s' c' d, I s → G s c → P.runs s c s' c' → guard s others c s' →
      d ∈ others → G s d → G s' d)
    (h : P.ReachableUnder guard init k) : I k.store ∧ ∀ c ∈ k.calls, G k.store c := by
  induction h with
  | refl => exact ⟨initial, fun c hc => absurd hc List.not_mem_nil⟩
  | tail _ hs ih => exact step_invariant start own stable hs ih.1 ih.2

/-- The rule for an invariant that no assertion of a call supports. -/
theorem store_invariant (initial : I init)
    (own : ∀ s others c s' c', I s → P.runs s c s' c' → guard s others c s' → I s')
    (h : P.ReachableUnder guard init k) : I k.store :=
  (invariant (G := fun _ _ => True) initial (fun _ _ _ _ => trivial)
    (fun s others c s' c' hi _ hr hg => ⟨own s others c s' c' hi hr hg, trivial⟩)
    (fun _ _ _ _ _ _ _ _ _ _ _ _ => trivial) h).1

end Invariant

/-- What every transaction preserves is preserved along a run. -/
theorem Leads.preserves {K : S → Prop}
    (keeps : ∀ s c s' c', P.runs s c s' c' → K s → K s') (h : P.Leads guard k k')
    (hk : K k.store) : K k'.store := by
  induction h with
  | refl => exact hk
  | tail _ hs ih =>
    cases hs with
    | start _ => exact ih
    | run hr _ => exact keeps _ _ _ _ hr ih

end Protocol

end GAM.Lib
