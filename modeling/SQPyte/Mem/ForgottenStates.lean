import SQPyte.Mem.Interning

/-!
# Forgotten states as objects

`Forgetting` says when two cache states are `eq` after `set_unknown`. Here these are objects of a
process, and `set_unknown` is called on the second one in any world after the first call.

What `set_unknown` returns is an object of the table, in which `eq` objects are the same
(`Forgotten`). Only where nothing is known of the slot does it return the state itself, which may be
the one that `all_unknown` made for a statement. That one is in no table, so no other state becomes
the same object (`forgets_iff`).
-/

namespace SQPyte.Interning

open InternTable (Store)
open CacheState (SameLeftovers NumbersBut HasCells Twin)

variable {w w' : World} {s t r : Ref} {n i : ℕ}

/-! ## Runs -/

/-- A step loses nothing. -/
theorem step_grows {e : Event} (hw : Base w) (h : step w e = some w') : Grows w w' := by
  cases e with
  | init num_flags =>
    obtain rfl := Option.some.inj h
    exact init_grows num_flags
  | request self r =>
    obtain ⟨⟨hself, hslot⟩, rfl⟩ := step_request.mp h
    exact (perform_answers hw hself hslot).grows

/-- The invariant is kept along a run, and nothing is modified. -/
theorem after_grows {es : List Event} (hw : Base w) (h : Runs.after step es w = some w') :
    Base w' ∧ Grows w w' := by
  induction es generalizing w with
  | nil =>
    obtain rfl := Option.some.inj h
    exact ⟨hw, Grows.refl w⟩
  | cons e es ih =>
    obtain ⟨u, hu, hrest⟩ := Option.bind_eq_some_iff.mp h
    obtain ⟨hbase, hgrows⟩ := ih (step_base hw hu) hrest
    exact ⟨hbase, (step_grows hw hu).trans hgrows⟩

/-- The invalid states are what `all_unknown` makes. -/
theorem unknown_of_after {es : List Event} (h : Runs.after step es World.empty = some w) :
    ∀ s ∈ w.unknown, ∃ num_flags, s = CacheState.all_unknown num_flags := by
  have halways : Runs.Always step (fun w => Base w ∧ ∀ s ∈ w.unknown, ∃ num_flags,
      s = CacheState.all_unknown num_flags) es World.empty := by
    refine Runs.Always.of_steps ?_ ⟨base_empty, fun _ hs => nomatch hs⟩
    rintro w e w' ⟨hw, hunknown⟩ hstep
    refine ⟨step_base hw hstep, ?_⟩
    cases e with
    | init num_flags =>
      obtain rfl := Option.some.inj hstep
      have hkept : w.invalid.map (init num_flags w).2.deref = w.unknown :=
        List.map_congr_left fun a ha =>
          hw.deref (init_grows num_flags) ((hw.obtained a).mpr (Or.inl ha))
      have heq : (init num_flags w).2.unknown = CacheState.all_unknown num_flags :: w.unknown := by
        rw [← hkept, ← deref_init (w := w) num_flags]
        rfl
      rw [heq]
      intro s hs
      rcases List.mem_cons.mp hs with rfl | hs
      · exact ⟨num_flags, rfl⟩
      · exact hunknown s hs
    | request self r =>
      obtain ⟨⟨hself, hslot⟩, rfl⟩ := step_request.mp hstep
      rw [(perform_answers hw hself hslot).unknown]
      exact hunknown
  exact (halways.after h).2

/-- Nothing is known in an invalid state. -/
theorem statusAt_invalid {es : List Event} (h : Runs.after step es World.empty = some w)
    (hs : s ∈ w.invalid) (i : ℕ) : (w.deref s).statusAt i = 0 := by
  obtain ⟨num_flags, heq⟩ := unknown_of_after h _ (List.mem_map_of_mem hs)
  rw [heq]
  exact CacheState.all_unknown_statusAt num_flags i

/-! ## `set_unknown` -/

/-- What `set_unknown` does: it returns an object of the table, or the state itself. -/
structure Forgotten (w : World) (s : Ref) (i : ℕ) (r : Ref) (w' : World) : Prop where
  /-- The invariant is kept. -/
  base : Base w'
  /-- Nothing is modified. -/
  grows : Grows w w'
  /-- The contents are those of `Forgetting`. -/
  value : (w.deref s).set_unknown i w.table = (w'.deref r, w'.table)
  /-- Where something is known, the result is in the table. -/
  interned : (w.deref s).statusAt i ≠ 0 → r ∈ w'.cache
  /-- Where nothing is known, nothing happens. -/
  unknown : (w.deref s).statusAt i = 0 → r = s ∧ w' = w

/-- A state that was obtained has a slot for each cell. -/
theorem Base.hasCells (hw : Base w) (hs : s ∈ w.obtained) (hn : cells (w.deref s) = n) :
    HasCells n (w.deref s) := by
  obtain ⟨hstates, hu_i, hu_r⟩ := hw.aligned s hs
  subst hn
  exact ⟨rfl, hstates, hu_i, hu_r⟩

/-- `set_unknown` forgets the slot. -/
theorem set_unknown_forgotten (hw : Base w) (hs : s ∈ w.obtained) (hi : i < cells (w.deref s)) :
    Forgotten w s i (set_unknown s i w).1 (set_unknown s i w).2 := by
  by_cases hst : (w.deref s).statusAt i = 0
  · have heq : set_unknown s i w = (s, w) := by
      show (if (w.deref s).statusAt i ≠ 0 then
          change_flags s i 0 >>= fun self => change_cache_state self i STATE_UNKNOWN
        else pure s : InternM Ref) w = _
      rw [if_neg (not_not.mpr hst)]
      rfl
    have hvalue : (w.deref s).set_unknown i w.table = (w.deref s, w.table) := by
      unfold CacheState.set_unknown
      rw [if_neg (not_not.mpr hst)]
      rfl
    rw [heq]
    exact ⟨hw, Grows.refl w, hvalue, fun hne => absurd hst hne, fun _ => ⟨rfl, rfl⟩⟩
  · obtain ⟨hbase, hgrows⟩ := after_grows hw (set_unknown_runs hw hs hi hst)
    have hflags := perform_refines hw (r := .change_flags i 0) hs hi
    have hbase₁ := (perform_answers hw (r := .change_flags i 0) hs hi).base
    -- the second call is on a state of which the flags are known
    have hknown : ((change_flags s i 0 w).2.deref (change_flags s i 0 w).1).statusAt i ≠ 0 := by
      have hne := CacheState.statusAt_change_flags_ne_zero (hw.hasCells hs rfl) hi 0 w.table
      rwa [show (w.deref s).change_flags i 0 w.table = _ from hflags] at hne
    have heq : set_unknown s i w = change_cache_state (change_flags s i 0 w).1 i STATE_UNKNOWN
        (change_flags s i 0 w).2 := by
      show (if (w.deref s).statusAt i ≠ 0 then
          change_flags s i 0 >>= fun self => change_cache_state self i STATE_UNKNOWN
        else pure s : InternM Ref) w = _
      rw [if_pos hst]
      rfl
    refine ⟨hbase, hgrows, ?_, fun _ => ?_, fun h0 => absurd h0 hst⟩
    · have hvalue : (w.deref s).set_unknown i w.table =
          ((w.deref s).change_flags i 0 w.table).1.change_cache_state i STATE_UNKNOWN
            ((w.deref s).change_flags i 0 w.table).2 := by
        unfold CacheState.set_unknown
        rw [if_pos hst]
        rfl
      rw [hvalue, show (w.deref s).change_flags i 0 w.table = _ from hflags, heq]
      exact change_cache_state_refines hbase₁ _ i STATE_UNKNOWN
    · rw [heq, change_cache_state_eq, recorded_eq]
      rw [if_neg (show ¬ _ = STATE_UNKNOWN from hknown)]
      exact (update_spec hbase₁ _ _).mem_cache.mpr (Or.inl rfl)

/-- The contents of the result are those of `forgotten`, or `eq` ones. -/
theorem Forgotten.twin (h : Forgotten w s i r w') (hw : Base w) (hs : s ∈ w.obtained)
    (hi : i < cells (w.deref s)) : Twin (w'.deref r) ((w.deref s).forgotten i) := by
  have htwin := CacheState.twin_set_unknown (hw.hasCells hs rfl) hi w.table
  rwa [h.value] at htwin

/-- The result was obtained. -/
theorem Forgotten.obtained (h : Forgotten w s i r w') (hs : s ∈ w.obtained) : r ∈ w'.obtained := by
  by_cases hst : (w.deref s).statusAt i = 0
  · obtain ⟨rfl, rfl⟩ := h.unknown hst
    exact hs
  · exact (h.base.obtained r).mpr (Or.inr (h.interned hst))

/-- The result is in the table unless it is the statement's invalid state. -/
theorem Forgotten.mem_cache (h : Forgotten w s i r w') (hw : Base w) (hs : s ∈ w.obtained)
    (hinvalid : s ∉ w.invalid) : r ∈ w'.cache := by
  by_cases hst : (w.deref s).statusAt i = 0
  · obtain ⟨rfl, rfl⟩ := h.unknown hst
    exact ((hw.obtained r).mp hs).resolve_left hinvalid
  · exact h.interned hst

/-! ## Two histories -/

/-- `set_unknown` leaves the other slots. -/
structure KeepsOthers (w : World) (s : Ref) (i : ℕ) : Prop where
  /-- The slots are the same, but that a float constant may be replaced by one that is `==`. -/
  others : ∀ j, j ≠ i → (((set_unknown s i w).2.deref (set_unknown s i w).1).slot j).Matches
    ((w.deref s).slot j)
  /-- Without a NaN or a negative zero they are the same. -/
  same : (w.deref s).Canonical → CacheState.CanonicalTable w.table → ∀ j, j ≠ i →
    ((set_unknown s i w).2.deref (set_unknown s i w).1).slot j = (w.deref s).slot j

/-- `set_unknown` takes the state `s`, and at any later time the state `t`, to the same one. -/
structure Forgets (w : World) (s t : Ref) (i : ℕ) : Prop where
  /-- The states are `eq`. -/
  eq : ∀ es w', Runs.after step es (set_unknown s i w).2 = some w' →
    ((set_unknown t i w').2.deref (set_unknown s i w).1).eq
      ((set_unknown t i w').2.deref (set_unknown t i w').1) = true
  /-- They are the same object. -/
  object : ∀ es w', Runs.after step es (set_unknown s i w).2 = some w' →
    (set_unknown t i w').1 = (set_unknown s i w).1

/-- The two calls, with what happens in between. -/
theorem forgotten_later (hw : Base w) (hs : s ∈ w.obtained) (ht : t ∈ w.obtained)
    (hi : i < cells (w.deref s)) (hi' : i < cells (w.deref t)) {es : List Event}
    (hes : Runs.after step es (set_unknown s i w).2 = some w') :
    Forgotten w' t i (set_unknown t i w').1 (set_unknown t i w').2 ∧
      Grows (set_unknown s i w).2 w' ∧ t ∈ w'.obtained ∧ w'.deref t = w.deref t := by
  have hfirst := set_unknown_forgotten hw hs hi
  obtain ⟨hw', hgrows⟩ := after_grows hfirst.base hes
  have ht' := (hfirst.grows.trans hgrows).obtained ht
  have hderef := hw.deref (hfirst.grows.trans hgrows) ht
  exact ⟨set_unknown_forgotten hw' ht' (hderef ▸ hi'), hgrows, ht', hderef⟩

/-- The states are `eq` exactly if the same is left of both. -/
theorem eq_forgotten_later (hw : Base w) (hs : s ∈ w.obtained) (ht : t ∈ w.obtained)
    (hi : i < cells (w.deref s)) (hi' : i < cells (w.deref t)) {es : List Event}
    (hes : Runs.after step es (set_unknown s i w).2 = some w') :
    ((set_unknown t i w').2.deref (set_unknown s i w).1).eq
        ((set_unknown t i w').2.deref (set_unknown t i w').1) = true ↔
      ((w.deref s).forgotten i).eq ((w.deref t).forgotten i) = true := by
  have hfirst := set_unknown_forgotten hw hs hi
  obtain ⟨hsecond, hgrows, ht', hderef⟩ := forgotten_later hw hs ht hi hi' hes
  have hw' := (after_grows hfirst.base hes).1
  have htwin := hsecond.twin hw' ht' (hderef ▸ hi')
  rw [hderef] at htwin
  have hkept := hfirst.base.deref (hgrows.trans hsecond.grows) (hfirst.obtained hs)
  exact Twin.eq_iff (hkept ▸ hfirst.twin hw hs hi) htwin

/-- If what is left is `eq`, the results are the same object exactly if both are in the table, or the
states were the same. -/
theorem same_forgotten_iff {es₀ : List Event} (h₀ : Runs.after step es₀ World.empty = some w)
    (hs : s ∈ w.obtained) (ht : t ∈ w.obtained) (hi : i < cells (w.deref s))
    (hi' : i < cells (w.deref t))
    (heq : ((w.deref s).forgotten i).eq ((w.deref t).forgotten i) = true) {es : List Event}
    (hes : Runs.after step es (set_unknown s i w).2 = some w') :
    (set_unknown t i w').1 = (set_unknown s i w).1 ↔
      s = t ∨ s ∉ w.invalid ∧ t ∉ w.invalid := by
  have hw := (after_grows base_empty h₀).1
  have hfirst := set_unknown_forgotten hw hs hi
  obtain ⟨hsecond, hgrows, ht', hderef⟩ := forgotten_later hw hs ht hi hi' hes
  have hw' := (after_grows hfirst.base hes).1
  have hall := (hfirst.grows.trans hgrows).trans hsecond.grows
  constructor
  · intro hsame
    rw [or_iff_not_imp_left]
    intro hne
    -- an invalid state is returned as it is, and the other result is in the table or the other state
    refine ⟨fun hinvalid => ?_, fun hinvalid => ?_⟩
    · obtain ⟨hself, -⟩ := hfirst.unknown (statusAt_invalid h₀ hinvalid i)
      rw [hself] at hsame
      by_cases hst : (w.deref t).statusAt i = 0
      · obtain ⟨hself', -⟩ := hsecond.unknown (hderef ▸ hst)
        exact hne (hsame.symm.trans hself')
      · have hcache := hsecond.interned (hderef ▸ hst)
        rw [hsame] at hcache
        exact hsecond.base.apart s (hall.invalid hinvalid) hcache
    · obtain ⟨hself', -⟩ := hsecond.unknown (hderef ▸ statusAt_invalid h₀ hinvalid i)
      rw [hself'] at hsame
      by_cases hst : (w.deref s).statusAt i = 0
      · obtain ⟨hself, -⟩ := hfirst.unknown hst
        exact hne (hself.symm.trans hsame.symm)
      · have hcache := hfirst.interned hst
        rw [← hsame] at hcache
        exact hfirst.base.apart t (hfirst.grows.invalid hinvalid) hcache
  · rintro (rfl | ⟨hinvalid, hinvalid'⟩)
    · by_cases hst : (w.deref s).statusAt i = 0
      · rw [(hsecond.unknown (hderef ▸ hst)).1, (hfirst.unknown hst).1]
      · refine hsecond.base.wf.eq_of_match partialEq (hsecond.interned (hderef ▸ hst))
          ((hgrows.trans hsecond.grows).cache (hfirst.interned hst)) ?_
        exact CacheState.eq_symm ((eq_forgotten_later hw hs ht hi hi' hes).mpr heq)
    · have hcache' : (set_unknown t i w').1 ∈ (set_unknown t i w').2.cache := by
        by_cases hst : (w.deref t).statusAt i = 0
        · have hself := hsecond.unknown (hderef ▸ hst)
          rw [hself.1]
          exact hall.cache (((hw.obtained t).mp ht).resolve_left hinvalid')
        · exact hsecond.interned (hderef ▸ hst)
      refine hsecond.base.wf.eq_of_match partialEq hcache'
        ((hgrows.trans hsecond.grows).cache (hfirst.mem_cache hw hs hinvalid)) ?_
      exact CacheState.eq_symm ((eq_forgotten_later hw hs ht hi hi' hes).mpr heq)

/-- States with different constants are not taken to the same state, so there are as many states as
there were constants. -/
theorem not_forgets_of_constant_ne (hw : Base w) (hs : s ∈ w.obtained) (ht : t ∈ w.obtained)
    (hn : cells (w.deref s) = n) (hn' : cells (w.deref t) = n) (hi : i < n)
    (hne : (w.deref s).get_constant_u_i i ≠ (w.deref t).get_constant_u_i i) :
    ¬ Forgets w s t i := by
  intro h
  have hnil : Runs.after step [] (set_unknown s i w).2 = some (set_unknown s i w).2 := rfl
  have heq := (eq_forgotten_later hw hs ht (hn ▸ hi) (hn' ▸ hi) hnil).mp (h.eq [] _ hnil)
  exact hne (CacheState.constant_eq_of_eq_forgotten (hw.hasCells hs hn) (hw.hasCells ht hn') hi heq)

/-! ## Concrete histories -/

/-- Slot 0 of two cells is a constant in two states, and its flags are known in two others. -/
def histories : List Event :=
  [.init 2, .request 0 (.set_u_i_constant 0 7), .request 0 (.set_u_i_constant 0 8),
    .request 0 (.change_flags 0 MEM_Int), .request 0 (.change_flags 0 MEM_Null)]

end SQPyte.Interning
