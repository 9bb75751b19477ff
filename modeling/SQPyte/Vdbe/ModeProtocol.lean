import SQPyte.Vdbe.Resumption

/-!
# The modes of the flag cache

Between two calls the flag cache of a query is to have its non-virtual state only, so that the next
call can begin, and in `mainloop` it is to have no non-virtual state, so that `prepare_return` can
end it. `mainloop` has no `finally` clause: an exception leaves the virtual state behind.
`always_modeProtocol_iff` says that this is all that goes wrong: the protocol holds along a run
exactly if no opcode raises an exception in it.
-/

namespace SQPyte

open Commands

variable {κ : Type} (B : Backend κ) (program : Program)

/-- The protocol that the calls rely on, and what they get from it. -/
structure ModeProtocol (q : Query κ) : Prop where
  /-- Between two calls there is the non-virtual state and no other. -/
  mode : ∀ last, q.control = .outside last → q.machine.cache.InMode false
  /-- The assertion of `reenter` holds. -/
  reenter : ∀ last, q.control = .outside last → ∃ x, q.machine.cache.reenter = .ok x
  /-- The assertion of `invalidate_all_outside` holds. -/
  invalidate : ∀ last, q.control = .outside last →
    ∃ cache, q.machine.cache.invalidate_all_outside = .ok cache
  /-- The statement can be reset and run again. -/
  rerun : ∀ last, q.control = .outside last → ∃ q', q.reset_query B = (.ok (), q') ∧
    ∃ cs, q'.enter.control = .inside 0 SQLITE_OK cs
  /-- The assertion of `prepare_return` holds after anything that the loop executes. -/
  returns : ∀ pc rc cs, q.control = .inside pc rc cs → ∀ p : MemM (Env κ) Iteration,
    ∃ cache, (runTo (machine (Env κ)) p
      { q.machine with cache := q.machine.cache.reveal cs }).2.cache.prepare_return = .ok cache

/-- If the loop goes around once more, its opcode raises no exception. -/
def NoException (q : Query κ) (e : Event κ) : Prop :=
  match e with
  | .turn => ∀ pc cs, q.control = .inside pc SQLITE_OK cs →
      ∃ instr, program.hlops[pc]? = some instr ∧ ∀ x,
        (runTo (machine (Env κ)) (iteration B q.machine.nMem pc SQLITE_OK instr)
          { q.machine with cache := q.machine.cache.reveal cs }).1 ≠ .error x
  | _ => True

/-- The mode is right for where control is. -/
def InRightMode (q : Query κ) : Prop :=
  match q.control with
  | .outside _ => q.machine.cache.InMode false
  | .inside _ _ _ => q.machine.cache.Entered

variable {B program}

/-- A new query is in the right mode. -/
theorem Query.Prepared.inRightMode {q : Query κ} (hq : q.Prepared) : InRightMode q := by
  unfold InRightMode
  rw [hq.control]
  have hcache := hq.cache
  exact ⟨by rw [hcache]; rfl, by rw [hcache]; rfl⟩

/-! ## What the right mode gives -/

section mode

variable {h : Cache}

/-- A cache that is outside can be entered. -/
theorem Cache.InMode.reenter (hm : h.InMode false) :
    ∃ cs cache, h.reenter = .ok (cs, cache) ∧ cache.Entered := by
  have hvirt : h._virt_cache_state.isSome = false := hm.virt
  obtain ⟨cs, hcs⟩ := Option.isSome_iff_exists.mp hm.nonvirt
  unfold Cache.reenter
  rw [hvirt, hcs]
  simp only [Bool.and_false, Bool.false_eq_true, ↓reduceIte]
  exact ⟨cs, _, rfl, rfl⟩

/-- It can be invalidated. -/
theorem Cache.InMode.invalidate_all_outside (hm : h.InMode false) :
    ∃ cache, h.invalidate_all_outside = .ok cache ∧ cache.InMode false := by
  have hvirt : h._virt_cache_state.isSome = false := hm.virt
  unfold Cache.invalidate_all_outside
  rw [hvirt]
  simp only [Bool.and_false, Bool.false_eq_true, ↓reduceIte]
  exact ⟨_, rfl, hvirt, rfl⟩

/-- A cache that is inside can be left. -/
theorem Cache.InMode.prepare_return (hm : h.InMode true) : ∃ cache, h.prepare_return = .ok cache := by
  have hnonvirt : h._nonvirt_cache_state.isSome = false := hm.nonvirt
  unfold Cache.prepare_return
  rw [hnonvirt]
  simp only [Bool.and_false, Bool.false_eq_true, ↓reduceIte]
  exact ⟨_, rfl⟩

end mode

/-- From the non-virtual mode, `mainloop` gets to its loop. -/
theorem enter_of_inMode {q : Query κ} (hm : q.machine.cache.InMode false) :
    ∃ cs, q.enter.control = .inside q.machine.rest.p.pc.toNat SQLITE_OK cs ∧
      q.enter.machine.cache.Entered := by
  obtain ⟨cs, cache, hreenter, hentered⟩ := hm.reenter
  refine ⟨cs, ?_, ?_⟩
  · unfold Query.enter
    rw [hreenter]
  · unfold Query.enter
    rw [hreenter]
    exact hentered

/-- From the non-virtual mode, the statement can be reset. -/
theorem reset_query_of_inMode {q : Query κ} (hm : q.machine.cache.InMode false) :
    ∃ q', q.reset_query B = (.ok (), q') ∧ q'.control = .outside .fresh ∧
      q'.machine.cache.InMode false ∧ q'.machine.rest.p.pc = -1 := by
  obtain ⟨cache, hcache, hmode⟩ := hm.invalidate_all_outside
  unfold Query.reset_query
  rw [hcache]
  exact ⟨_, rfl, rfl, hmode, rfl⟩

/-- The right mode is what the protocol asks for. -/
theorem InRightMode.protocol {q : Query κ} (hq : InRightMode q) : ModeProtocol B q := by
  have hout : ∀ last, q.control = .outside last → q.machine.cache.InMode false := by
    intro last hlast
    unfold InRightMode at hq
    rw [hlast] at hq
    exact hq
  refine ⟨hout, fun last hlast => ?_, fun last hlast => ?_, fun last hlast => ?_, ?_⟩
  · obtain ⟨cs, cache, hreenter, -⟩ := (hout last hlast).reenter
    exact ⟨_, hreenter⟩
  · obtain ⟨cache, hcache, -⟩ := (hout last hlast).invalidate_all_outside
    exact ⟨cache, hcache⟩
  · obtain ⟨q', hreset, -, hmode, hpc⟩ := reset_query_of_inMode (B := B) (hout last hlast)
    obtain ⟨cs, hinside, -⟩ := enter_of_inMode hmode
    rw [hpc] at hinside
    exact ⟨q', hreset, cs, hinside⟩
  · intro pc rc cs hinside p
    unfold InRightMode at hq
    rw [hinside] at hq
    exact (runTo_inMode p (hq.reveal cs)).prepare_return

/-! ## The steps -/

/-- A turn without an exception leaves the right mode, and one with an exception the wrong one. -/
theorem turn_inRightMode {q : Query κ} {pc rc : ℕ} {cs : CacheState} (hq : InRightMode q)
    (hinside : q.control = .inside pc rc cs) :
    (NoException B program q .turn → InRightMode (q.turn B program pc rc cs)) ∧
      (¬ NoException B program q .turn → ∃ last,
        (q.turn B program pc rc cs).control = .outside last ∧
        (q.turn B program pc rc cs).machine.cache.InMode true) := by
  unfold InRightMode at hq
  rw [hinside] at hq
  have hno : rc ≠ SQLITE_OK → NoException B program q .turn := by
    intro hrc pc' cs' hinside'
    obtain ⟨-, hrc', -⟩ := Control.inside.inj (hinside.symm.trans hinside')
    exact absurd hrc' hrc
  -- what the condition says of an opcode
  have hop : ∀ instr x m, rc = SQLITE_OK → program.hlops[pc]? = some instr →
      runTo (machine (Env κ)) (iteration B q.machine.nMem pc rc instr)
        { q.machine with cache := q.machine.cache.reveal cs } = (.ok x, m) →
      NoException B program q .turn := by
    intro instr x m hrc hpc hturn pc' cs' hinside'
    obtain ⟨rfl, -, rfl⟩ := Control.inside.inj (hinside.symm.trans hinside')
    subst hrc
    refine ⟨instr, hpc, fun e he => ?_⟩
    rw [hturn] at he
    cases he
  have hturned := turn_turned B program q pc rc cs hq
  generalize q.turn B program pc rc cs = q' at hturned ⊢
  -- Only the endings by an exception leave the cache as it is inside the loop.
  cases hturned with
  | ended hrc cache hmode => exact ⟨fun _ => hmode, fun hC => absurd (hno hrc) hC⟩
  | index hrc hpc hmode =>
    refine ⟨fun hC => ?_, fun _ => ⟨_, rfl, hmode⟩⟩
    subst hrc
    obtain ⟨instr, hinstr, -⟩ := hC pc cs hinside
    rw [hpc] at hinstr
    cases hinstr
  | raised hrc instr hpc e m hturn hmode =>
    refine ⟨fun hC => ?_, fun _ => ⟨_, rfl, hmode⟩⟩
    subst hrc
    obtain ⟨instr', hinstr, hne⟩ := hC pc cs hinside
    obtain rfl := Option.some.inj (hpc.symm.trans hinstr)
    exact absurd (congrArg Prod.fst hturn) (hne e)
  | left hrc instr hpc ending m hturn cache hmode =>
    exact ⟨fun _ => hmode, fun hC => absurd (hop instr _ m hrc hpc hturn) hC⟩
  | again hrc instr hpc pc' rc' m hturn cache hentered =>
    exact ⟨fun _ => hentered, fun hC => absurd (hop instr _ m hrc hpc hturn) hC⟩

/-- A method leaves the non-virtual mode. -/
theorem method_inRightMode {q : Query κ} {last : Ending} (hq : InRightMode q)
    (hlast : q.control = .outside last) (method : Method) :
    InRightMode (q.invoke B method).2 := by
  unfold InRightMode at hq
  rw [hlast] at hq
  unfold InRightMode
  by_cases hreset : method = .reset_query
  · subst hreset
    obtain ⟨q', hq', hcontrol, hmode, -⟩ := reset_query_of_inMode (B := B) hq
    have hinvoke : (q.invoke B .reset_query).2 = q' := congrArg Prod.snd hq'
    rw [hinvoke, hcontrol]
    exact hmode
  · have hkept := invoke_kept B q hreset
    rw [hkept.control, hlast]
    exact hkept.mode hq

/-- Every step without an exception leaves the right mode. -/
theorem step_inRightMode {q q' : Query κ} {e : Event κ} (hq : InRightMode q)
    (hC : NoException B program q e) (hstep : q.step B program e = some q') : InRightMode q' := by
  unfold Query.step at hstep
  cases e with
  | mainloop =>
    cases hcontrol : q.control with
    | inside pc rc cs => simp [hcontrol] at hstep
    | outside last =>
      simp only [hcontrol, Option.some.injEq] at hstep
      subst hstep
      unfold InRightMode at hq ⊢
      rw [hcontrol] at hq
      obtain ⟨cs, hinside, hentered⟩ := enter_of_inMode hq
      rw [hinside]
      exact hentered
  | turn =>
    cases hcontrol : q.control with
    | outside last => simp [hcontrol] at hstep
    | inside pc rc cs =>
      simp only [hcontrol, Option.some.injEq] at hstep
      subst hstep
      exact (turn_inRightMode hq hcontrol).1 hC
  | method method =>
    cases hcontrol : q.control with
    | inside pc rc cs => simp [hcontrol] at hstep
    | outside last =>
      simp only [hcontrol, Option.some.injEq] at hstep
      subst hstep
      exact method_inRightMode hq hcontrol method
  | elsewhere world db lastRowid expired =>
    simp only [Option.some.injEq] at hstep
    subst hstep
    exact hq

/-- A step with an exception breaks the protocol. -/
theorem step_not_protocol {q : Query κ} {e : Event κ} (hq : InRightMode q)
    (hC : ¬ NoException B program q e) :
    ∃ q', q.step B program e = some q' ∧ ¬ ModeProtocol B q' := by
  cases e with
  | turn =>
    cases hcontrol : q.control with
    | outside last =>
      refine absurd (fun pc cs hinside => ?_) hC
      rw [hcontrol] at hinside
      cases hinside
    | inside pc rc cs =>
      obtain ⟨last, hlast, hmode⟩ := (turn_inRightMode hq hcontrol).2 hC
      refine ⟨q.turn B program pc rc cs, ?_, fun hP => ?_⟩
      · unfold Query.step
        rw [hcontrol]
      · have hvirt := (hP.mode last hlast).virt
        rw [hmode.virt] at hvirt
        cases hvirt
  | mainloop => exact absurd trivial hC
  | method method => exact absurd trivial hC
  | elsewhere world db lastRowid expired => exact absurd trivial hC

/-- The protocol holds in every state of a run exactly if no opcode raises an exception in it. -/
theorem always_modeProtocol_iff {q : Query κ} (hq : q.Prepared) {events : List (Event κ)} :
    Runs.Always (Query.step B program) (ModeProtocol B) events q ↔
      Runs.Each (Query.step B program) (NoException B program) events q := by
  refine Runs.always_iff_each (I := InRightMode) (fun s hI => hI.protocol)
    (fun s e s' hI hC hs => ?_) (fun s e hI hC => ?_) hq.inRightMode
  · exact step_inRightMode hI hC hs
  · exact step_not_protocol hI hC

/-- A run of a statement without exceptions. -/
theorem always_modeProtocol_halt :
    Runs.Always (Query.step .quiet haltProgram) (ModeProtocol .quiet)
      [.mainloop, .turn, .method (.bind_str 1 []), .method (.column_type 0)] haltQuery :=
  (always_modeProtocol_iff haltQuery_prepared).mpr <|
    .cons trivial rfl <| .cons (fun pc cs h => by
      obtain ⟨rfl, -, rfl⟩ := Control.inside.inj h
      exact ⟨_, rfl, fun x hx => by cases hx⟩) rfl <| .cons trivial rfl <| .cons trivial rfl <|
        .nil _

/-! ## An exception -/

/-- A program with an opcode that `mainloop` does not implement. -/
def unimplementedProgram : Program where
  hlops := [.unimplemented 0 false]
  resultRow_pos op hop h := by simp at hop

/-- After an exception `reset_query` fails, and the statement cannot be run again. -/
theorem not_always_modeProtocol :
    ¬ Runs.Always (Query.step .quiet unimplementedProgram) (ModeProtocol .quiet)
      [.mainloop, .turn] haltQuery := by
  intro h
  obtain ⟨q', hreset, -⟩ := (h.after rfl).rerun (.raised .sqpyte) rfl
  cases congrArg Prod.fst hreset

end SQPyte
