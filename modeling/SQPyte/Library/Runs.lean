import Mathlib.Tactic.Common

/-!
# Runs of a transition system

`step` says what an event does in a state, if it can happen there. A run is given by the list of its
events. `Always` is a property of all its states, `Throughout` one of all its steps, and `Each` a
condition that each event meets in the state before it.

An invariant that the steps keep under the condition holds along every run whose events meet it
(`Always.of_each`), and so does what such a step does (`Throughout.of_each`). Where a step that does
not meet the condition breaks the property, the condition is the exact one (`always_iff_each`,
`throughout_iff_each`).
-/

namespace Runs

variable {σ ε : Type*} (step : σ → ε → Option σ)

/-- Every state of the run has the property. -/
def Always (P : σ → Prop) : List ε → σ → Prop
  | [], s => P s
  | e :: es, s => P s ∧ ∀ s', step s e = some s' → Always P es s'

/-- Every step of the run has the property. -/
def Throughout (R : σ → ε → σ → Prop) : List ε → σ → Prop
  | [], _ => True
  | e :: es, s => ∀ s', step s e = some s' → R s e s' ∧ Throughout R es s'

/-- Every event of the run meets the condition in the state before it. -/
def Each (C : σ → ε → Prop) : List ε → σ → Prop
  | [], _ => True
  | e :: es, s => C s e ∧ ∀ s', step s e = some s' → Each C es s'

/-- The state after the run, if all its events can happen. -/
def after : List ε → σ → Option σ
  | [], s => some s
  | e :: es, s => (step s e).bind (after es)

/-- What is observed of the steps of the run, in order. -/
def observed {α : Type*} (f : σ → ε → σ → List α) : List ε → σ → List α
  | [], _ => []
  | e :: es, s =>
    match step s e with
    | none => []
    | some s' => f s e s' ++ observed f es s'

variable {step} {P I : σ → Prop} {C : σ → ε → Prop} {R : σ → ε → σ → Prop}

/-- The first state. -/
theorem Always.head {es : List ε} {s : σ} (h : Always step P es s) : P s := by
  cases es with
  | nil => exact h
  | cons e es => exact h.1

/-- A weaker property holds as well. -/
theorem Always.mono {Q : σ → Prop} (hPQ : ∀ s, P s → Q s) {es : List ε} {s : σ}
    (h : Always step P es s) : Always step Q es s := by
  induction es generalizing s with
  | nil => exact hPQ s h
  | cons e es ih => exact ⟨hPQ s h.1, fun s' hs' => ih (h.2 s' hs')⟩

/-- A run without events. -/
theorem Each.nil (s : σ) : Each step C [] s := trivial

/-- A weaker condition is met as well. -/
theorem Each.mono {D : σ → ε → Prop} (hCD : ∀ s e, C s e → D s e) {es : List ε} {s : σ}
    (h : Each step C es s) : Each step D es s := by
  induction es generalizing s with
  | nil => trivial
  | cons e es ih => exact ⟨hCD s e h.1, fun s' hs' => ih (h.2 s' hs')⟩

/-- Whether all states have a property is decided by running the events. -/
instance Always.decidable [DecidablePred P] : ∀ es s, Decidable (Always step P es s)
  | [], s => inferInstanceAs (Decidable (P s))
  | e :: es, s =>
    have : DecidablePred (Always step P es) := Always.decidable es
    inferInstanceAs (Decidable (P s ∧ ∀ s' ∈ step s e, Always step P es s'))

/-- Whether the events meet a condition is decided by running them. -/
instance Each.decidable [∀ s e, Decidable (C s e)] : ∀ es s, Decidable (Each step C es s)
  | [], _ => inferInstanceAs (Decidable True)
  | e :: es, s =>
    have : DecidablePred (Each step C es) := Each.decidable es
    inferInstanceAs (Decidable (C s e ∧ ∀ s' ∈ step s e, Each step C es s'))

/-- A run is continued at the front by an event that can happen and meets the condition. -/
theorem Each.cons {es : List ε} {e : ε} {s s' : σ} (hC : C s e) (hs' : step s e = some s')
    (h : Each step C es s') : Each step C (e :: es) s :=
  ⟨hC, fun s'' hs'' => by
    obtain rfl := Option.some.inj (hs'.symm.trans hs'')
    exact h⟩

/-- An invariant of the steps that meet the condition is one of the runs whose events meet it. -/
theorem Always.of_each (hI : ∀ s e s', I s → C s e → step s e = some s' → I s') {es : List ε} {s : σ}
    (hs : I s) (hC : Each step C es s) : Always step I es s := by
  induction es generalizing s with
  | nil => exact hs
  | cons e es ih => exact ⟨hs, fun s' hs' => ih (hI s e s' hs hC.1 hs') (hC.2 s' hs')⟩

/-- An invariant of all steps is one of all runs. -/
theorem Always.of_steps (hI : ∀ s e s', I s → step s e = some s' → I s') {es : List ε} {s : σ}
    (hs : I s) : Always step I es s := by
  induction es generalizing s with
  | nil => exact hs
  | cons e es ih => exact ⟨hs, fun s' hs' => ih (hI s e s' hs hs')⟩

/-- What the steps that meet the condition do from the states of an invariant, all steps of a run do
whose events meet it. -/
theorem Throughout.of_each (hI : ∀ s e s', I s → C s e → step s e = some s' → I s' ∧ R s e s')
    {es : List ε} {s : σ} (hs : I s) (hC : Each step C es s) : Throughout step R es s := by
  induction es generalizing s with
  | nil => trivial
  | cons e es ih =>
    intro s' hs'
    obtain ⟨hI', hR⟩ := hI s e s' hs hC.1 hs'
    exact ⟨hR, ih hI' (hC.2 s' hs')⟩

/-- A step that does not meet the condition breaks the property. Then the property holds along a run
exactly if its events meet the condition. -/
theorem always_iff_each (hIP : ∀ s, I s → P s)
    (hI : ∀ s e s', I s → C s e → step s e = some s' → I s')
    (hbad : ∀ s e, I s → ¬ C s e → ∃ s', step s e = some s' ∧ ¬ P s') {es : List ε} {s : σ}
    (hs : I s) : Always step P es s ↔ Each step C es s := by
  induction es generalizing s with
  | nil => exact ⟨fun _ => trivial, fun _ => hIP s hs⟩
  | cons e es ih =>
    constructor
    · intro h
      have hC : C s e := by
        by_contra hC
        obtain ⟨s', hs', hP⟩ := hbad s e hs hC
        exact hP (h.2 s' hs').head
      exact ⟨hC, fun s' hs' => (ih (hI s e s' hs hC hs')).mp (h.2 s' hs')⟩
    · intro h
      exact ⟨hIP s hs, fun s' hs' => (ih (hI s e s' hs h.1 hs')).mpr (h.2 s' hs')⟩

/-- The steps of a run meet a condition that they meet from the states of an invariant. The
invariant may depend on the number of steps so far, as long as that is below a bound. -/
theorem Each.of_count {I : ℕ → σ → Prop} {D : σ → ε → Prop} {bound n : ℕ}
    (hI : ∀ n s e, n < bound → I n s → C s e →
      D s e ∧ ∀ s', step s e = some s' → I (n + 1) s')
    {es : List ε} {s : σ} (hs : I n s) (hlen : n + es.length ≤ bound) (hC : Each step C es s) :
    Each step D es s ∧ Always step (fun s => ∃ m, I m s) es s := by
  induction es generalizing s n with
  | nil => exact ⟨trivial, n, hs⟩
  | cons e es ih =>
    rw [List.length_cons] at hlen
    obtain ⟨hD, hnext⟩ := hI n s e (by omega) hs hC.1
    have htail : ∀ s', step s e = some s' →
        Each step D es s' ∧ Always step (fun s => ∃ m, I m s) es s' := fun s' hs' =>
      ih (hnext s' hs') (by omega) (hC.2 s' hs')
    exact ⟨⟨hD, fun s' hs' => (htail s' hs').1⟩, ⟨n, hs⟩, fun s' hs' => (htail s' hs').2⟩

/-- The same for a property of the steps. -/
theorem throughout_iff_each (hI : ∀ s e s', I s → C s e → step s e = some s' → I s' ∧ R s e s')
    (hbad : ∀ s e, I s → ¬ C s e → ∃ s', step s e = some s' ∧ ¬ R s e s') {es : List ε} {s : σ}
    (hs : I s) : Throughout step R es s ↔ Each step C es s := by
  refine ⟨fun h => ?_, fun h => Throughout.of_each hI hs h⟩
  induction es generalizing s with
  | nil => trivial
  | cons e es ih =>
    have hC : C s e := by
      by_contra hC
      obtain ⟨s', hs', hR⟩ := hbad s e hs hC
      exact hR (h s' hs').1
    exact ⟨hC, fun s' hs' => ih (hI s e s' hs hC hs').1 (h s' hs').2⟩

/-- A property of all states is one of the first state and of the state after each step. -/
theorem always_iff_throughout {es : List ε} {s : σ} :
    Always step P es s ↔ P s ∧ Throughout step (fun _ _ s' => P s') es s := by
  induction es generalizing s with
  | nil => exact ⟨fun h => ⟨h, trivial⟩, fun h => h.1⟩
  | cons e es ih =>
    constructor
    · intro h
      exact ⟨h.1, fun s' hs' => ih.mp (h.2 s' hs')⟩
    · intro h
      exact ⟨h.1, fun s' hs' => ih.mpr (h.2 s' hs')⟩

/-- Two properties of all steps. -/
theorem throughout_and {R' : σ → ε → σ → Prop} {es : List ε} {s : σ} :
    Throughout step (fun s e s' => R s e s' ∧ R' s e s') es s ↔
      Throughout step R es s ∧ Throughout step R' es s := by
  induction es generalizing s with
  | nil => exact ⟨fun _ => ⟨trivial, trivial⟩, fun _ => trivial⟩
  | cons e es ih =>
    constructor
    · intro h
      exact ⟨fun s' hs' => ⟨(h s' hs').1.1, (ih.mp (h s' hs').2).1⟩,
        fun s' hs' => ⟨(h s' hs').1.2, (ih.mp (h s' hs').2).2⟩⟩
    · intro h s' hs'
      exact ⟨⟨(h.1 s' hs').1, (h.2 s' hs').1⟩, ih.mpr ⟨(h.1 s' hs').2, (h.2 s' hs').2⟩⟩

/-- The same for a property of the states and one of the steps together. A step that does not meet
the condition breaks one of them. -/
theorem always_and_throughout_iff_each (hIP : ∀ s, I s → P s)
    (hI : ∀ s e s', I s → C s e → step s e = some s' → I s' ∧ R s e s')
    (hbad : ∀ s e, I s → ¬ C s e → ∃ s', step s e = some s' ∧ ¬ (P s' ∧ R s e s')) {es : List ε}
    {s : σ} (hs : I s) :
    (Always step P es s ∧ Throughout step R es s) ↔ Each step C es s := by
  have hiff : Throughout step (fun s e s' => P s' ∧ R s e s') es s ↔ Each step C es s :=
    throughout_iff_each
    (fun s e s' hs hC h => ⟨(hI s e s' hs hC h).1, hIP s' (hI s e s' hs hC h).1, (hI s e s' hs hC h).2⟩)
    hbad hs
  rw [← hiff, throughout_and, always_iff_throughout]
  exact ⟨fun h => ⟨h.1.2, h.2⟩, fun h => ⟨⟨hIP s hs, h.1⟩, h.2⟩⟩

/-- What holds along the run holds of the state after it. -/
theorem Always.after {es : List ε} {s s' : σ} (h : Always step P es s)
    (hs' : Runs.after step es s = some s') : P s' := by
  induction es generalizing s with
  | nil =>
    obtain rfl := Option.some.inj hs'
    exact h
  | cons e es ih =>
    obtain ⟨t, ht, hrest⟩ := Option.bind_eq_some_iff.mp hs'
    exact ih (h.2 t ht) hrest

/-- What holds of all steps holds of the last one. -/
theorem Throughout.last {es : List ε} {e : ε} {s s' s'' : σ} (h : Throughout step R (es ++ [e]) s)
    (hs' : Runs.after step es s = some s') (hs'' : step s' e = some s'') : R s' e s'' := by
  induction es generalizing s with
  | nil =>
    obtain rfl := Option.some.inj hs'
    exact (h s'' hs'').1
  | cons e' es ih =>
    obtain ⟨t, ht, hrest⟩ := Option.bind_eq_some_iff.mp hs'
    exact ih (h t ht).2 hrest

/-- The condition of a run is met by what comes after a part of it. -/
theorem Each.after {es es' : List ε} {s s' : σ} (h : Each step C (es ++ es') s)
    (hs' : Runs.after step es s = some s') : Each step C es' s' := by
  induction es generalizing s with
  | nil =>
    obtain rfl := Option.some.inj hs'
    exact h
  | cons e es ih =>
    obtain ⟨t, ht, hrest⟩ := Option.bind_eq_some_iff.mp hs'
    exact ih (h.2 t ht) hrest

/-- The condition of a run is met by its first part. -/
theorem Each.front {es es' : List ε} {s : σ} (h : Each step C (es ++ es') s) :
    Each step C es s := by
  induction es generalizing s with
  | nil => trivial
  | cons e es ih => exact ⟨h.1, fun s' hs' => ih (h.2 s' hs')⟩

/-- Two conditions are met. -/
theorem Each.and {D : σ → ε → Prop} {es : List ε} {s : σ} (h : Each step C es s)
    (hD : Each step D es s) : Each step (fun s e => C s e ∧ D s e) es s := by
  induction es generalizing s with
  | nil => trivial
  | cons e es ih => exact ⟨⟨h.1, hD.1⟩, fun s' hs' => ih (h.2 s' hs') (hD.2 s' hs')⟩

/-- A condition on the events alone is met in addition. -/
theorem Each.and_forall {D : ε → Prop} {es : List ε} {s : σ} (h : Each step C es s)
    (hD : ∀ e ∈ es, D e) : Each step (fun s e => C s e ∧ D e) es s := by
  induction es generalizing s with
  | nil => trivial
  | cons e es ih =>
    exact ⟨⟨h.1, hD e List.mem_cons_self⟩,
      fun s' hs' => ih (h.2 s' hs') fun e he => hD e (List.mem_cons_of_mem _ he)⟩

/-- What the steps keep of what was observed before them holds at the end of the run. -/
theorem Each.observed {α : Type*} {f : σ → ε → σ → List α} {I : List α → σ → Prop}
    (hI : ∀ os s e s', I os s → C s e → step s e = some s' → I (os ++ f s e s') s') {es : List ε}
    (os : List α) {s t : σ} (hs : I os s) (h : Each step C es s)
    (ht : Runs.after step es s = some t) : I (os ++ Runs.observed step f es s) t := by
  induction es generalizing os s with
  | nil =>
    obtain rfl := Option.some.inj ht
    rw [Runs.observed, List.append_nil]
    exact hs
  | cons e es ih =>
    obtain ⟨s', hs', hrest⟩ := Option.bind_eq_some_iff.mp ht
    rw [Runs.observed, hs', ← List.append_assoc]
    exact ih _ (hI os s e s' hs h.1 hs') (h.2 s' hs') hrest

end Runs
