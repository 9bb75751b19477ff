import SQPyte.Library.Runs
import Mathlib.Logic.Function.Basic

/-!
# The switches between two implementations

Some opcodes are implemented in Python and in C, and an `OpcodeStatus` has a switch for each. Two
pairs of opcodes work on state of their own, so the two of a pair have to be on one side. The C
implementations do not maintain the flag cache, so with the cache in use no switch may change, and
after the first call of `mainloop` none may change at all.

`set_use_translated` guards all of this. `disable_from_cmdline` guards it as well, except for the
text `all`, which switches everything off by itself: `guards_iff_each` says that this is all that
can break it.
-/

namespace SQPyte

/-! ## The opcodes with two implementations -/

/-- An opcode, or a group of opcodes, with two implementations. -/
inductive DualOpcode where
  | Add_Subtract_Multiply_Divide_Remainder | AggFinal | AggStep | Affinity | Cast | CollSeq | Compare
  | Copy | EndCoroutine | Function | Gosub | Goto | IdxLE_IdxGT_IdxLT_IdxGE | IdxRowid | IfPos
  | IfZero | If_IfNot | InitCoroutine | Integer | IsNull | Jump | MakeRecord | Move | MustBeInt
  | Ne_Eq_Gt_Le_Lt_Ge | Next | NextIfOpen | NotExists | NotNull | Null | Once | OpenRead_OpenWrite
  | Real | RealAffinity | ResultRow | Return | SCopy | Seek | SeekLT_SeekLE_SeekGE_SeekGT | Sequence
  | Variable | Yield
deriving DecidableEq, Repr

/-- `dual_implementation_opcodes`. -/
def dual_implementation_opcodes : List DualOpcode :=
  [.Add_Subtract_Multiply_Divide_Remainder, .AggFinal, .AggStep, .Affinity, .Cast, .CollSeq,
    .Compare, .Copy, .EndCoroutine, .Function, .Gosub, .Goto, .IdxLE_IdxGT_IdxLT_IdxGE, .IdxRowid,
    .IfPos, .IfZero, .If_IfNot, .InitCoroutine, .Integer, .IsNull, .Jump, .MakeRecord, .Move,
    .MustBeInt, .Ne_Eq_Gt_Le_Lt_Ge, .Next, .NextIfOpen, .NotExists, .NotNull, .Null, .Once,
    .OpenRead_OpenWrite, .Real, .RealAffinity, .ResultRow, .Return, .SCopy, .Seek,
    .SeekLT_SeekLE_SeekGE_SeekGT, .Sequence, .Variable, .Yield]

/-- The name of the attribute. -/
def DualOpcode.name : DualOpcode → String
  | .Add_Subtract_Multiply_Divide_Remainder => "Add_Subtract_Multiply_Divide_Remainder"
  | .AggFinal => "AggFinal"
  | .AggStep => "AggStep"
  | .Affinity => "Affinity"
  | .Cast => "Cast"
  | .CollSeq => "CollSeq"
  | .Compare => "Compare"
  | .Copy => "Copy"
  | .EndCoroutine => "EndCoroutine"
  | .Function => "Function"
  | .Gosub => "Gosub"
  | .Goto => "Goto"
  | .IdxLE_IdxGT_IdxLT_IdxGE => "IdxLE_IdxGT_IdxLT_IdxGE"
  | .IdxRowid => "IdxRowid"
  | .IfPos => "IfPos"
  | .IfZero => "IfZero"
  | .If_IfNot => "If_IfNot"
  | .InitCoroutine => "InitCoroutine"
  | .Integer => "Integer"
  | .IsNull => "IsNull"
  | .Jump => "Jump"
  | .MakeRecord => "MakeRecord"
  | .Move => "Move"
  | .MustBeInt => "MustBeInt"
  | .Ne_Eq_Gt_Le_Lt_Ge => "Ne_Eq_Gt_Le_Lt_Ge"
  | .Next => "Next"
  | .NextIfOpen => "NextIfOpen"
  | .NotExists => "NotExists"
  | .NotNull => "NotNull"
  | .Null => "Null"
  | .Once => "Once"
  | .OpenRead_OpenWrite => "OpenRead_OpenWrite"
  | .Real => "Real"
  | .RealAffinity => "RealAffinity"
  | .ResultRow => "ResultRow"
  | .Return => "Return"
  | .SCopy => "SCopy"
  | .Seek => "Seek"
  | .SeekLT_SeekLE_SeekGE_SeekGT => "SeekLT_SeekLE_SeekGE_SeekGT"
  | .Sequence => "Sequence"
  | .Variable => "Variable"
  | .Yield => "Yield"

/-- Every opcode with two implementations is in the list. -/
theorem mem_dual_implementation_opcodes (op : DualOpcode) : op ∈ dual_implementation_opcodes := by
  cases op <;> decide

/-- `OpcodeDefaults`. -/
def OpcodeDefaults : DualOpcode → Bool
  | .OpenRead_OpenWrite | .Cast => false
  | _ => true

/-! ## `OpcodeStatus` -/

/-- A `TypeError` of `set_use_translated`. -/
inductive Refusal where
  /-- "too late to change" -/
  | frozen
  /-- "can't change if flag cache is used" -/
  | use_flag_cache
deriving DecidableEq, Repr

/-- `class OpcodeStatus`. -/
structure OpcodeStatus where
  /-- The flags of cells are cached. -/
  use_flag_cache : Bool
  /-- The attributes can no longer be set. -/
  frozen : Bool
  /-- The attributes that are named after opcodes. -/
  switch : DualOpcode → Bool

namespace OpcodeStatus

/-- `OpcodeStatus.__init__`. -/
def init (use_flag_cache : Bool) : OpcodeStatus := ⟨use_flag_cache, false, OpcodeDefaults⟩

/-- `setattr(self, op, value)`. -/
def setattr (self : OpcodeStatus) (op : DualOpcode) (value : Bool) : OpcodeStatus :=
  { self with switch := Function.update self.switch op value }

/-- The body of the loop in `set_use_translated`, where `whichop == op`. -/
def set_both (self : OpcodeStatus) (whichop : DualOpcode) (value : Bool) : OpcodeStatus :=
  let self := self.setattr whichop value
  match whichop with
  | .Compare => self.setattr .Jump value
  | .Jump => self.setattr .Compare value
  | .AggStep => self.setattr .AggFinal value
  | .AggFinal => self.setattr .AggStep value
  | _ => self

/-- `set_use_translated`. -/
def set_use_translated (self : OpcodeStatus) (op : String) (value : Bool) :
    Except Refusal Unit × OpcodeStatus :=
  if self.frozen then (.error .frozen, self)
  else if self.use_flag_cache then (.error .use_flag_cache, self)
  else
    (.ok (), dual_implementation_opcodes.foldl
      (fun self whichop => if whichop.name = op then self.set_both whichop value else self) self)

/-- `freeze`. -/
def freeze (self : OpcodeStatus) : OpcodeStatus := { self with frozen := true }

/-- The loop of `disable_from_cmdline`. An exception ends it. -/
def disable_specs (self : OpcodeStatus) : List String → Except Refusal Unit × OpcodeStatus
  | [] => (.ok (), self)
  | spec :: specs =>
    if spec = "" then self.disable_specs specs
    else
      match self.set_use_translated spec false with
      | (.error e, self) => (.error e, self)
      | (.ok _, self) => self.disable_specs specs

/-- `s.split(":")`. -/
def split (s : String) : List String := (s.toList.splitOn ':').map String.ofList

/-- `disable_from_cmdline`. -/
def disable_from_cmdline (self : OpcodeStatus) (s : String) : Except Refusal Unit × OpcodeStatus :=
  if s = "all" then
    (.ok (), dual_implementation_opcodes.foldl (fun self op => self.setattr op false) self)
  else self.disable_specs (split s)

end OpcodeStatus

/-- A call of a method of an `OpcodeStatus`. -/
inductive StatusCall where
  | set_use_translated (op : String) (value : Bool)
  | disable_from_cmdline (s : String)
  | freeze

/-- What a call returns or raises, and the status after it. -/
def OpcodeStatus.call (self : OpcodeStatus) : StatusCall → Except Refusal Unit × OpcodeStatus
  | .set_use_translated op value => self.set_use_translated op value
  | .disable_from_cmdline s => self.disable_from_cmdline s
  | .freeze => (.ok (), self.freeze)

/-- The status after a call. Any call is possible at any time. -/
def OpcodeStatus.step (self : OpcodeStatus) (call : StatusCall) : Option OpcodeStatus :=
  some (self.call call).2

/-! ## The guards -/

/-- What the flag cache and the paired opcodes need of the switches. -/
structure Guarded (status : OpcodeStatus) : Prop where
  /-- `Compare` and `Jump` are on one side. -/
  compare_jump : status.switch .Compare = status.switch .Jump
  /-- `AggStep` and `AggFinal` are on one side. -/
  aggStep_aggFinal : status.switch .AggStep = status.switch .AggFinal
  /-- With the flag cache in use, the switches are as they were. -/
  flag_cache : status.use_flag_cache = true → status.switch = OpcodeDefaults

/-- A call changes no switch of a frozen status, and none when it raises. -/
structure RefusedUnchanged (status : OpcodeStatus) (call : StatusCall) (status' : OpcodeStatus) :
    Prop where
  /-- The status is frozen. -/
  frozen : status.frozen = true → status'.switch = status.switch
  /-- It stays frozen. -/
  freezes : status.frozen = true ∨ call = .freeze → status'.frozen = true
  /-- The call raises. -/
  raises : ∀ e, (status.call call).1 = .error e → status'.switch = status.switch

/-- The call does not switch everything off while the flag cache is in use, nor in a frozen status
that has something on. -/
def SparesGuarded (self : OpcodeStatus) (call : StatusCall) : Prop :=
  call = .disable_from_cmdline "all" →
    self.use_flag_cache = false ∧ (self.frozen = true → ∀ op, self.switch op = false)

/-! ## One call -/

section calls

variable {self : OpcodeStatus} {op : String} {value : Bool}

/-- Nothing but switches changes, and the two of a pair change together. -/
structure Changes (status status' : OpcodeStatus) : Prop where
  /-- Whether the cache is used. -/
  use_flag_cache : status'.use_flag_cache = status.use_flag_cache
  /-- Whether the status is frozen. -/
  frozen : status'.frozen = status.frozen
  /-- `OP_Compare` and `OP_Jump` stay on one side. -/
  compare_jump : status.switch .Compare = status.switch .Jump →
    status'.switch .Compare = status'.switch .Jump
  /-- So do `OP_AggStep` and `OP_AggFinal`. -/
  aggStep_aggFinal : status.switch .AggStep = status.switch .AggFinal →
    status'.switch .AggStep = status'.switch .AggFinal

/-- Nothing has changed. -/
theorem Changes.refl (self : OpcodeStatus) : Changes self self := ⟨rfl, rfl, id, id⟩

/-- One change after the other. -/
theorem Changes.trans {self' self'' : OpcodeStatus} (h : Changes self self')
    (h' : Changes self' self'') : Changes self self'' where
  use_flag_cache := h'.use_flag_cache.trans h.use_flag_cache
  frozen := h'.frozen.trans h.frozen
  compare_jump hs := h'.compare_jump (h.compare_jump hs)
  aggStep_aggFinal hs := h'.aggStep_aggFinal (h.aggStep_aggFinal hs)

/-- The two of a pair are set together. -/
theorem set_both_changes (self : OpcodeStatus) (whichop : DualOpcode) (value : Bool) :
    Changes self (self.set_both whichop value) := by
  cases whichop <;>
    refine ⟨rfl, rfl, fun h => ?_, fun h => ?_⟩ <;>
      simp [OpcodeStatus.set_both, OpcodeStatus.setattr, h]

/-- The loop over all opcodes. -/
theorem foldl_changes {f : OpcodeStatus → DualOpcode → OpcodeStatus}
    (hf : ∀ self whichop, Changes self (f self whichop)) (ops : List DualOpcode)
    (self : OpcodeStatus) : Changes self (ops.foldl f self) := by
  induction ops generalizing self with
  | nil => exact Changes.refl self
  | cons whichop ops ih => exact (hf self whichop).trans (ih _)

/-- A call of the setter. -/
theorem set_use_translated_changes (self : OpcodeStatus) (op : String) (value : Bool) :
    Changes self (self.set_use_translated op value).2 := by
  unfold OpcodeStatus.set_use_translated
  split_ifs with hfrozen huse
  · exact Changes.refl self
  · exact Changes.refl self
  · refine foldl_changes (fun self whichop => ?_) _ self
    split_ifs
    · exact set_both_changes self whichop value
    · exact Changes.refl self

/-- Behind a guard `set_use_translated` does nothing. -/
theorem set_use_translated_of_guard (h : self.frozen = true ∨ self.use_flag_cache = true) :
    (self.set_use_translated op value).2 = self := by
  unfold OpcodeStatus.set_use_translated
  rcases h with h | h
  · rw [if_pos h]
  · by_cases hfrozen : self.frozen = true
    · rw [if_pos hfrozen]
    · rw [if_neg hfrozen, if_pos h]

/-- `set_use_translated` raises behind a guard only. -/
theorem guard_of_set_use_translated {e : Refusal}
    (h : (self.set_use_translated op value).1 = .error e) :
    self.frozen = true ∨ self.use_flag_cache = true := by
  unfold OpcodeStatus.set_use_translated at h
  split_ifs at h with hfrozen huse
  · exact Or.inl hfrozen
  · exact Or.inr huse

/-- A list of specifications. -/
theorem disable_specs_changes (specs : List String) (self : OpcodeStatus) :
    Changes self (self.disable_specs specs).2 := by
  induction specs generalizing self with
  | nil => exact Changes.refl self
  | cons spec specs ih =>
    unfold OpcodeStatus.disable_specs
    split_ifs with hspec
    · exact ih self
    · have hone := set_use_translated_changes self spec false
      cases hset : self.set_use_translated spec false with
      | mk r self' =>
        rw [hset] at hone
        cases r with
        | error e => exact hone
        | ok u => exact hone.trans (ih self')

/-- Behind a guard the loop of `disable_from_cmdline` does nothing. -/
theorem disable_specs_of_guard (h : self.frozen = true ∨ self.use_flag_cache = true)
    (specs : List String) : (self.disable_specs specs).2 = self := by
  induction specs with
  | nil => rfl
  | cons spec specs ih =>
    unfold OpcodeStatus.disable_specs
    split_ifs with hspec
    · exact ih
    · have hone : (self.set_use_translated spec false).2 = self := set_use_translated_of_guard h
      cases hset : self.set_use_translated spec false with
      | mk r self' =>
        rw [hset] at hone
        obtain rfl : self' = self := hone
        cases r with
        | error e => rfl
        | ok u => exact ih

/-- The loop of `disable_from_cmdline` raises behind a guard only. The guards are the same at every
segment. -/
theorem guard_of_disable_specs {e : Refusal} {specs : List String}
    (h : (self.disable_specs specs).1 = .error e) :
    self.frozen = true ∨ self.use_flag_cache = true := by
  induction specs generalizing self with
  | nil => cases h
  | cons spec specs ih =>
    unfold OpcodeStatus.disable_specs at h
    split_ifs at h with hspec
    · exact ih h
    · have hone := set_use_translated_changes self spec false
      cases hset : self.set_use_translated spec false with
      | mk r self' =>
        rw [hset] at hone h
        cases r with
        | error e' => exact guard_of_set_use_translated (congrArg Prod.fst hset)
        | ok u =>
          have hguard := ih h
          rwa [hone.frozen, hone.use_flag_cache] at hguard

/-- The loop that switches everything off. -/
theorem foldl_setattr (ops : List DualOpcode) (self : OpcodeStatus) :
    ops.foldl (fun self op => self.setattr op false) self =
      { self with switch := fun op => if op ∈ ops then false else self.switch op } := by
  induction ops generalizing self with
  | nil => simp
  | cons op ops ih =>
    rw [List.foldl_cons, ih]
    unfold OpcodeStatus.setattr
    congr 1
    funext op'
    by_cases hop : op' ∈ ops
    · simp [hop]
    · by_cases heq : op' = op <;> simp [hop, heq]

/-- The specification `all`. -/
theorem disable_all (self : OpcodeStatus) :
    self.disable_from_cmdline "all" = (.ok (), { self with switch := fun _ => false }) := by
  unfold OpcodeStatus.disable_from_cmdline
  rw [if_pos rfl, foldl_setattr]
  congr 2
  funext op
  rw [if_pos (mem_dual_implementation_opcodes op)]

/-- Another specification. -/
theorem disable_from_cmdline_of_ne {s : String} (h : s ≠ "all") (self : OpcodeStatus) :
    self.disable_from_cmdline s = self.disable_specs (OpcodeStatus.split s) := if_neg h

/-- A call that does not go past the guards keeps what they guard. -/
theorem call_guarded {call : StatusCall} (hg : Guarded self) (hC : SparesGuarded self call) :
    Guarded (self.call call).2 ∧ RefusedUnchanged self call (self.call call).2 := by
  -- any call but `all` changes switches behind no guard, and raises behind a guard
  have hloop : ∀ {r : Except Refusal Unit} {self' : OpcodeStatus}, Changes self self' →
      (self.frozen = true ∨ self.use_flag_cache = true → self' = self) →
      (∀ e, r = .error e → self.frozen = true ∨ self.use_flag_cache = true) →
      Guarded self' ∧ (self.frozen = true → self'.switch = self.switch) ∧
        ∀ e, r = .error e → self'.switch = self.switch := by
    intro r self' hchanges hguard hraises
    refine ⟨⟨hchanges.compare_jump hg.compare_jump, hchanges.aggStep_aggFinal hg.aggStep_aggFinal,
      fun huse => ?_⟩, fun hfrozen => by rw [hguard (Or.inl hfrozen)],
      fun e he => by rw [hguard (hraises e he)]⟩
    rw [hchanges.use_flag_cache] at huse
    rw [hguard (Or.inr huse)]
    exact hg.flag_cache huse
  cases call with
  | set_use_translated op value =>
    have hchanges := set_use_translated_changes self op value
    obtain ⟨hguarded, hfrozen, hraises⟩ := hloop hchanges set_use_translated_of_guard
      fun e => guard_of_set_use_translated
    exact ⟨hguarded, hfrozen, fun h => hchanges.frozen.trans (h.resolve_right (by simp)), hraises⟩
  | freeze => exact ⟨⟨hg.compare_jump, hg.aggStep_aggFinal, hg.flag_cache⟩, fun _ => rfl, fun _ => rfl,
      fun _ _ => rfl⟩
  | disable_from_cmdline s =>
    by_cases hs : s = "all"
    · subst hs
      obtain ⟨huse, hoff⟩ := hC rfl
      show Guarded (self.disable_from_cmdline "all").2 ∧
        RefusedUnchanged self _ (self.disable_from_cmdline "all").2
      rw [disable_all]
      refine ⟨⟨rfl, rfl, fun h => ?_⟩, fun h => (funext (hoff h)).symm,
        fun h => h.resolve_right (by simp), fun e he => ?_⟩
      · rw [huse] at h
        cases h
      · have hok : (self.disable_from_cmdline "all").1 = .error e := he
        rw [disable_all] at hok
        cases hok
    · have hchanges := disable_specs_changes (OpcodeStatus.split s) self
      obtain ⟨hguarded, hfrozen, hraises⟩ := hloop hchanges
        (fun h => disable_specs_of_guard h _) fun e => guard_of_disable_specs
      have hcall := disable_from_cmdline_of_ne hs self
      show Guarded (self.disable_from_cmdline s).2 ∧
        RefusedUnchanged self _ (self.disable_from_cmdline s).2
      rw [hcall]
      exact ⟨hguarded, hfrozen, fun h => hchanges.frozen.trans (h.resolve_right (by simp)),
        fun e he => hraises e (by rw [← hcall]; exact he)⟩

/-- A call that goes past the guards breaks what they guard. -/
theorem not_guarded_of_all {call : StatusCall} (hC : ¬ SparesGuarded self call) :
    ¬ (Guarded (self.call call).2 ∧ RefusedUnchanged self call (self.call call).2) := by
  rintro ⟨hguarded, hrefuses⟩
  apply hC
  rintro rfl
  have hall : (self.call (.disable_from_cmdline "all")).2 = { self with switch := fun _ => false } :=
    congrArg Prod.snd (disable_all self)
  rw [hall] at hguarded hrefuses
  refine ⟨?_, fun h op => (congrFun (hrefuses.frozen h) op).symm⟩
  by_contra huse
  have hswitch : (fun _ => false) = OpcodeDefaults := hguarded.flag_cache (by simpa using huse)
  exact Bool.false_ne_true (congrFun hswitch .Goto)

end calls

/-! ## All calls -/

/-- The initial status is guarded. -/
theorem guarded_init (use_flag_cache : Bool) : Guarded (.init use_flag_cache) :=
  ⟨rfl, rfl, fun _ => rfl⟩

/-- The guards hold in a run of calls exactly if none of them switches everything off while the flag
cache is in use, or in a frozen status that has something on. -/
theorem guards_iff_each (use_flag_cache : Bool) (calls : List StatusCall) :
    (Runs.Always OpcodeStatus.step Guarded calls (.init use_flag_cache) ∧
      Runs.Throughout OpcodeStatus.step RefusedUnchanged calls (.init use_flag_cache)) ↔
      Runs.Each OpcodeStatus.step SparesGuarded calls (.init use_flag_cache) := by
  refine Runs.always_and_throughout_iff_each (I := Guarded) (fun _ h => h) ?_ ?_
    (guarded_init use_flag_cache)
  · intro self call self' hg hC hs
    obtain rfl := Option.some.inj hs
    exact call_guarded hg hC
  · intro self call _ hC
    exact ⟨_, rfl, not_guarded_of_all hC⟩

/-- With the flag cache in use, `all` switches everything off. -/
theorem not_guards_all :
    ¬ (Runs.Always OpcodeStatus.step Guarded [.disable_from_cmdline "all"] (.init true) ∧
      Runs.Throughout OpcodeStatus.step RefusedUnchanged [.disable_from_cmdline "all"]
        (.init true)) := by
  rintro ⟨halways, -⟩
  have hguarded : Guarded (OpcodeStatus.init true |>.call (.disable_from_cmdline "all")).2 :=
    halways.after rfl
  have hgoto := congrFun (hguarded.flag_cache (by decide)) .Goto
  revert hgoto
  decide

end SQPyte
