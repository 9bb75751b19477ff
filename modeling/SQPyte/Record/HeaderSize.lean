import Mathlib.Order.Bounds.Basic
import SQPyte.Record.MakeRecord

/-!
# The size of a header

The header of a record starts with its own size, a varint, so that the size of the header depends on
the size of its size. `OP_MakeRecord` corrects the sum of the other sizes once. That is enough: the
correction makes the varint longer by at most one byte (`headerSize_isLeast`).

The sizes of the first pass are those of the varints that the second pass writes, whatever the
registers hold. So the assertion at the end of the header holds in every run that gets there.
-/

namespace SQPyte

open Commands

/-! ## The size of a varint -/

/-- At most `fuel` turns of the loop in `sqlite3VarintLen`, from `i` and `v` on. -/
def sqlite3VarintLenLoop : ℕ → ℕ → ℤ → Option ℕ
  | 0, _, _ => none
  | fuel + 1, i, v =>
    let i := i + 1
    let v := v / 128
    if v = 0 then some i else sqlite3VarintLenLoop fuel i v

/-- The `buf` of `putVarint64`: the groups of `v`, the lowest first. -/
def varintBuf (v : ℕ) : List Byte :=
  UInt8.ofNat (128 + v % 128) :: if v / 128 = 0 then [] else varintBuf (v / 128)
termination_by v
decreasing_by omega

/-- `putVarint64` of `util.c`. -/
def putVarint64 (v : ℕ) : List Byte :=
  -- `v & (((u64)0xff000000)<<32)`
  if v / 2^56 % 2^8 ≠ 0 then Varint.groups 8 (v / 256) ++ [UInt8.ofNat v]
  else ((varintBuf v).modify 0 (· &&& 0x7f)).reverse

/-- `sqlite3PutVarint` of `util.c`, for a `u64`: the bytes that it writes. -/
def sqlite3PutVarint (v : ℕ) : List Byte :=
  if v ≤ 0x7f then [UInt8.ofNat v]
  else if v ≤ 0x3fff then [UInt8.ofNat (128 + v / 128 % 128), UInt8.ofNat (v % 128)]
  else putVarint64 v

/-- The buffer has the groups of the number, the last one first. -/
theorem reverse_varintBuf (v : ℕ) : (varintBuf v).reverse = Varint.groups (Varint.size v) v := by
  induction v using Nat.strongRecOn with
  | ind v ih =>
    rw [varintBuf, List.reverse_cons]
    split_ifs with h
    · rw [Varint.size_eq_one (by omega)]
      rfl
    · rw [ih _ (by omega), Varint.size_of_ge (v := v) (by omega), Varint.groups]

/-- The high bit of the last group is cleared. -/
theorem modify_varintBuf (v : ℕ) : ((varintBuf v).modify 0 (· &&& 0x7f)).reverse =
    Varint.groups (Varint.size v - 1) (v / 128) ++ [UInt8.ofNat (v % 128)] := by
  have hlast : UInt8.ofNat (128 + v % 128) &&& 0x7f = UInt8.ofNat (v % 128) := by
    apply UInt8.toNat_inj.mp
    rw [UInt8.toNat_and, UInt8.toNat_ofNat', UInt8.toNat_ofNat']
    have h7f : (0x7f : UInt8).toNat = 2 ^ 7 - 1 := rfl
    rw [h7f, Nat.and_two_pow_sub_one_eq_mod]
    omega
  rw [varintBuf]
  show ((_ &&& 0x7f) :: _ : List Byte).reverse = _
  rw [hlast, List.reverse_cons]
  split_ifs with h
  · rw [Varint.size_eq_one (by omega)]
    rfl
  · rw [reverse_varintBuf, Varint.size_of_ge (v := v) (by omega), Nat.add_sub_cancel]

/-- The C code writes varints. -/
theorem sqlite3PutVarint_eq {v : ℕ} (h : v < 2^64) : sqlite3PutVarint v = Varint.encode v := by
  unfold sqlite3PutVarint
  split_ifs with h1 h2
  · exact (Varint.encode_of_lt (by omega)).symm
  · have hsize : Varint.size v = 2 := by
      rw [Varint.size_of_ge (by omega), Varint.size_eq_one (by omega)]
    have hgroups : Varint.groups (2 - 1) (v / 128) = [UInt8.ofNat (128 + v / 128 % 128)] := rfl
    unfold Varint.encode
    rw [if_pos (by omega), hsize, hgroups, List.singleton_append]
  · unfold putVarint64 Varint.encode
    by_cases hhigh : v < 2^56
    · rw [if_neg (by omega), if_pos hhigh, modify_varintBuf]
    · rw [if_pos (by omega), if_neg hhigh]

/-- The groups of a number of 63 bits are counted by the nine bytes too. -/
theorem length_encode_eq {v : ℕ} (h : v < 2^63) : (Varint.encode v).length = sqlite3VarintLen v := by
  rw [sqlite3VarintLen_eq]
  by_cases hv : v < 2^56
  · exact Varint.length_encode hv
  · have hlow : ¬ Varint.size v ≤ 8 := fun hle => by
      have := (Varint.size_le_iff (v := v) (n := 8) (by decide)).mp hle
      omega
    have hhigh : Varint.size v ≤ 9 := (Varint.size_le_iff (by decide)).mpr (by omega)
    unfold Varint.encode
    rw [if_neg hv, List.length_append, Varint.length_groups, List.length_singleton]
    omega

/-- The loop ends after as many turns as there are groups. -/
theorem sqlite3VarintLenLoop_eq (v : ℕ) : ∀ fuel i, Varint.size v ≤ fuel →
    sqlite3VarintLenLoop fuel i v = some (i + sqlite3VarintLen v) := by
  induction v using Nat.strongRecOn with
  | ind v ih =>
    intro fuel i hfuel
    obtain ⟨fuel, rfl⟩ : ∃ k, fuel = k + 1 := ⟨fuel - 1, by have := Varint.size_pos v; omega⟩
    have hdiv : ((v : ℤ) / 128) = ((v / 128 : ℕ) : ℤ) := by norm_cast
    rw [sqlite3VarintLenLoop, sqlite3VarintLen, hdiv]
    split_ifs with h h' h'
    · rfl
    · omega
    · omega
    · have hsize := Varint.size_of_ge (v := v) (by omega)
      rw [ih _ (by omega) fuel (i + 1) (by omega)]
      congr 1
      omega

/-- A negative number stays negative, and the loop does not end. -/
theorem sqlite3VarintLenLoop_neg (fuel i : ℕ) {v : ℤ} (h : v < 0) :
    sqlite3VarintLenLoop fuel i v = none := by
  induction fuel generalizing i v with
  | zero => rfl
  | succ fuel ih =>
    rw [sqlite3VarintLenLoop, if_neg (by omega)]
    exact ih _ (by omega)

/-! ## The size of the header -/

/-- With its own size, a header whose serial types take `h` bytes has `headerSize h`, and it could
not have fewer. -/
theorem headerSize_isLeast (h : ℕ) :
    IsLeast {nHdr | nHdr = h + sqlite3VarintLen nHdr} (headerSize h) := by
  simp only [sqlite3VarintLen_eq]
  have hlt := Varint.lt_pow_size h
  have hpow : Varint.size h + 1 < 127 * 128 ^ Varint.size h := by
    have := Nat.lt_pow_self (n := Varint.size h) (show 1 < 128 by decide)
    omega
  -- a fixed point is no smaller than what it is the sum of
  have hbelow : ∀ n, n = h + Varint.size n → h + Varint.size h ≤ n := by
    intro n hn
    have := Varint.size_mono (show h ≤ n by omega)
    omega
  unfold headerSize
  simp only [sqlite3VarintLen_eq]
  split_ifs with h126 hgrow
  · have hone : Varint.size (h + 1) = 1 := Varint.size_eq_one (by omega)
    refine ⟨(congrArg (h + ·) hone).symm, fun n hn => ?_⟩
    have := Varint.size_pos n
    have hn : n = h + Varint.size n := hn
    omega
  · -- the correction makes the varint one byte longer
    have hbound : h + Varint.size h + 1 < 128 ^ (Varint.size h + 1) := by
      rw [pow_succ]
      omega
    have hle : Varint.size (h + Varint.size h + 1) ≤ Varint.size h + 1 :=
      (Varint.size_le_iff (by omega)).mpr hbound
    have hge := Varint.size_mono (show h + Varint.size h ≤ h + Varint.size h + 1 by omega)
    refine ⟨?_, fun n hn => ?_⟩
    · show h + Varint.size h + 1 = h + Varint.size (h + Varint.size h + 1)
      omega
    · have hn : n = h + Varint.size n := hn
      have hn' := hbelow n hn
      by_contra hlt
      have heq : n = h + Varint.size h := by omega
      rw [heq] at hn
      omega
  · have hge := Varint.size_mono (show h ≤ h + Varint.size h by omega)
    refine ⟨?_, fun n hn => hbelow n hn⟩
    show h + Varint.size h = h + Varint.size (h + Varint.size h)
    omega

/-! ## The first pass -/

/-- The header entry of a field is as long as the first pass says. -/
def RecordField.Sized (field : RecordField) : Prop :=
  field.hdrlen = sqlite3VarintLen field.serial_type

section runs

variable {ρ : Type} {L : CLib ρ} {ff : ℕ}

/-- Nothing is said. -/
theorem triple_true {α : Type} (p : MemM ρ α) :
    Triple (machine ρ) (fun _ => True) p fun _ _ => True := fun _ _ _ _ _ => trivial

/-- What holds whatever the state is may be assumed. -/
theorem triple_of_pure {α : Type} {φ : Prop} {p : MemM ρ α} {Q : α → Machine ρ → Prop}
    (h : φ → Triple (machine ρ) (fun _ => True) p Q) : Triple (machine ρ) (fun _ => φ) p Q :=
  fun m hφ => h hφ m trivial

/-- A serial type below 128 takes one byte. -/
theorem sized_small {t : ℕ} (h : t < 128) : (_type_size_and_hdrsize t).Sized := by
  show 1 = sqlite3VarintLen t
  rw [sqlite3VarintLen_eq, Varint.size_eq_one h]

/-- So do those of integers. -/
theorem get_serial_type_of_int_hidden_lt (i : ℤ) : _get_serial_type_of_int_hidden i ff < 128 := by
  unfold _get_serial_type_of_int_hidden
  dsimp only
  split_ifs <;> omega

/-- The entry of a text or blob. -/
theorem sized_text (serial_type length : ℕ) : RecordField.Sized
    ⟨serial_type, length, if serial_type ≤ 127 then 1 else sqlite3VarintLen serial_type⟩ := by
  show (if serial_type ≤ 127 then 1 else sqlite3VarintLen serial_type) = sqlite3VarintLen serial_type
  split_ifs with hle
  · rw [sqlite3VarintLen_eq, Varint.size_eq_one (Nat.lt_succ_of_le hle)]
  · rfl

/-- Each field is sized. -/
theorem triple_serialType (self : ℕ) :
    Triple (machine ρ) (fun _ => True) (sqlite3VdbeSerialType_Len_and_HdrLen self ff)
      fun field _ => field.Sized := by
  unfold sqlite3VdbeSerialType_Len_and_HdrLen
  refine (triple_true _).bind fun flags => ?_
  refine Triple.ite (fun _ => Triple.ret fun _ _ => sized_small (by decide)) fun _ => ?_
  refine Triple.ite (fun _ => ?_) fun _ => ?_
  · exact (triple_true _).bind fun i => Triple.ret fun _ _ =>
      sized_small (get_serial_type_of_int_hidden_lt i)
  refine Triple.ite (fun _ => Triple.ret fun _ _ => sized_small (by decide)) fun _ => ?_
  refine (triple_true _).bind fun n => (triple_true _).bind fun _ => Triple.ret fun _ _ => ?_
  exact sized_text _ _

/-- What the first pass has added up after `k` registers. -/
structure SizedFields (k : ℕ) (size : RecordSize) : Prop where
  /-- There is an entry for each register. -/
  length : size.fields.length = k
  /-- The entries are as long as they say. -/
  sized : ∀ field ∈ size.fields, field.Sized
  /-- The header space is that of the entries. -/
  nHdr : size.nHdr = (size.fields.map RecordField.hdrlen).sum

/-- One field more. -/
theorem SizedFields.add {k : ℕ} {size : RecordSize} (h : SizedFields k size) {field : RecordField}
    (hf : field.Sized) (nData nZero : ℤ) : SizedFields (k + 1)
      ⟨size.fields ++ [field], nData, size.nHdr + field.hdrlen, nZero⟩ := by
  refine ⟨?_, fun f hmem => ?_, ?_⟩
  · show (size.fields ++ [field]).length = k + 1
    rw [List.length_append, h.length, List.length_singleton]
  · rcases List.mem_append.mp hmem with hmem | hmem
    · exact h.sized f hmem
    · rw [List.mem_singleton.mp hmem]
      exact hf
  · show size.nHdr + field.hdrlen = ((size.fields ++ [field]).map RecordField.hdrlen).sum
    rw [List.map_append, List.sum_append, ← h.nHdr, List.map_singleton, List.sum_singleton]

/-- A step of the first loop adds a sized field. -/
theorem triple_recordSizeStep (memindex : ℤ) {k : ℕ} (size : RecordSize) :
    Triple (machine ρ) (fun _ => SizedFields k size) (recordSizeStep L ff memindex size)
      fun size' _ => SizedFields (k + 1) size' := by
  refine triple_of_pure fun hsized => ?_
  unfold recordSizeStep
  refine (triple_true _).bind fun pRec => (triple_true _).bind fun valid => ?_
  refine (triple_true _).bind fun _ => (triple_serialType pRec).bind fun field => ?_
  refine triple_of_pure fun hfield => (triple_true _).bind fun flags => ?_
  refine Triple.ite (fun _ => ?_) fun _ => Triple.ret fun _ _ => hsized.add hfield _ _
  refine Triple.ite (fun _ => ?_) fun _ => ?_
  · exact (triple_true _).bind fun _ => Triple.ret fun _ _ => hsized.add hfield _ _
  · exact (triple_true _).bind fun _ => Triple.ret fun _ _ => hsized.add hfield _ _

/-- The first pass says how long the header entries are. -/
theorem triple_firstPass (data0 : ℤ) (nField : ℕ) :
    Triple (machine ρ) (fun _ => True) (Prog.forRange data0 nField {} (recordSizeStep L ff))
      fun size _ => SizedFields nField size :=
  (Triple.forRange (fun k size _ => SizedFields k size)
    fun k size => triple_recordSizeStep (data0 + k) size).conseq
    (fun _ _ => ⟨rfl, fun _ hf => absurd hf List.not_mem_nil, rfl⟩) fun _ _ h => h

/-! ## The second pass -/

/-- Writing a varint returns its length. -/
theorem triple_putVarint32 (buf index : ℕ) {val : ℕ} (hval : val < 2^63) :
    Triple (machine ρ) (fun _ => True) (putVarint32 buf val index)
      fun n _ => n = sqlite3VarintLen val := by
  unfold putVarint32
  refine Triple.ite (fun hlt => ?_) fun _ => ?_
  · exact (triple_true _).bind fun _ => Triple.ret fun _ _ => by
      rw [sqlite3VarintLen_eq, Varint.size_eq_one hlt]
  · exact (triple_true _).bind fun _ => Triple.ret fun _ _ => length_encode_eq hval

/-- The header entry of a field is as long as the first pass says. -/
theorem triple_putSerialType (pOut i : ℕ) {field : RecordField} (hsized : field.Sized)
    (htype : field.serial_type < 2^63) :
    Triple (machine ρ) (fun _ => True) (putSerialType pOut i field) fun n _ => n = field.hdrlen := by
  unfold putSerialType
  refine Triple.ite (fun hone => ?_) fun _ => ?_
  · exact (triple_true _).bind fun _ => Triple.ret fun _ _ => hone.symm
  · exact (triple_putVarint32 pOut i htype).conseq (fun _ h => h) fun n _ hn => hn.trans hsized.symm

/-- After `k` registers of the second pass, which starts at `start`. -/
structure WroteFields (start : RecordWrite) (k : ℕ) (pass : RecordWrite) : Prop where
  /-- The fields that are left. -/
  fields : pass.fields = start.fields.drop k
  /-- The space in the header that the entries of the others take. -/
  i : pass.i = start.i + ((start.fields.take k).map RecordField.hdrlen).sum
  /-- The space that their contents take. -/
  content : pass.content = start.content + ((start.fields.take k).map RecordField.length).sum

/-- A sum with one summand more. -/
theorem sum_take_succ {α : Type} {xs : List α} {k : ℕ} (hk : k < xs.length) (f : α → ℕ) :
    ((xs.take (k + 1)).map f).sum = ((xs.take k).map f).sum + f xs[k] := by
  rw [← List.take_append_getElem hk, List.map_append, List.sum_append, List.map_singleton,
    List.sum_singleton]

/-- A step of the second loop writes one serial type more. -/
theorem triple_recordWriteStep (pOut : ℕ) (memindex : ℤ) {start : RecordWrite} {k : ℕ}
    (hsized : ∀ field ∈ start.fields, field.Sized)
    (htype : ∀ field ∈ start.fields, field.serial_type < 2^63) (pass : RecordWrite) :
    Triple (machine ρ) (fun _ => WroteFields start k pass) (recordWriteStep pOut memindex pass)
      fun pass' _ => WroteFields start (k + 1) pass' := by
  refine triple_of_pure fun hpass => ?_
  unfold recordWriteStep
  refine (triple_true _).bind fun pRec => ?_
  have hfields := hpass.fields
  cases hleft : pass.fields with
  | nil => exact Triple.perform fun _ _ _ _ hr => by cases hr
  | cons field rest =>
    rw [hleft] at hfields
    have hk : k < start.fields.length := by
      by_contra hge
      rw [List.drop_eq_nil_of_le (by omega)] at hfields
      cases hfields
    rw [List.drop_eq_getElem_cons hk] at hfields
    obtain ⟨rfl, rfl⟩ := List.cons.inj hfields
    have hmem := List.getElem_mem hk
    refine (triple_putSerialType pOut pass.i (hsized _ hmem) (htype _ hmem)).bind fun hdrlen => ?_
    refine triple_of_pure fun hlen => ?_
    refine (triple_true _).bind fun addj => (triple_true _).bind fun _ => Triple.ret fun _ _ => ?_
    refine ⟨rfl, ?_, ?_⟩
    · show pass.i + hdrlen = _
      rw [sum_take_succ hk, hpass.i, hlen, Nat.add_assoc]
    · show pass.content + start.fields[k].length = _
      rw [sum_take_succ hk, hpass.content, Nat.add_assoc]

/-- The header and the contents, as `OP_MakeRecord` writes them before its last assertion. -/
def writeFields (pOut : ℕ) (data0 : ℤ) (nField : ℕ) (size : RecordSize) : MemM ρ RecordWrite := do
  let i ← putVarint32 pOut (headerSize size.nHdr) 0
  Prog.forRange data0 nField ⟨i, headerSize size.nHdr, size.fields⟩ (recordWriteStep pOut)

/-- The second pass fills the header, and the contents come right after it. -/
theorem triple_writeFields (pOut : ℕ) (data0 : ℤ) {nField : ℕ} {size : RecordSize}
    (hsize : SizedFields nField size) (htype : ∀ field ∈ size.fields, field.serial_type < 2^63)
    (h63 : headerSize size.nHdr < 2^63) :
    Triple (machine ρ) (fun _ => True) (writeFields pOut data0 nField size) fun pass _ =>
      pass.i = headerSize size.nHdr ∧
        pass.content = headerSize size.nHdr + (size.fields.map RecordField.length).sum := by
  unfold writeFields
  refine (triple_putVarint32 pOut 0 h63).bind fun i => triple_of_pure fun hi => ?_
  refine (Triple.forRange
    (fun k pass _ => WroteFields ⟨i, headerSize size.nHdr, size.fields⟩ k pass)
    fun k pass => triple_recordWriteStep pOut (data0 + k) hsize.sized htype pass).conseq
    (fun _ _ => ⟨rfl, rfl, rfl⟩) fun pass _ h => ?_
  have hall : size.fields.take nField = size.fields := by rw [← hsize.length, List.take_length]
  have hend := h.i
  have hcontent := h.content
  dsimp only at hend hcontent
  rw [hall] at hend hcontent
  refine ⟨?_, hcontent⟩
  calc pass.i = sqlite3VarintLen (headerSize size.nHdr) + size.nHdr := by
        rw [hend, hi, ← hsize.nHdr]
    _ = size.nHdr + sqlite3VarintLen (headerSize size.nHdr) := Nat.add_comm _ _
    _ = headerSize size.nHdr := (headerSize_isLeast size.nHdr).1.symm

/-- The assertion at the end of the header. -/
theorem run_pyAssert_true {α : Type} {cond : Bool} (hcond : cond = true) (p : MemM ρ α)
    (m : Machine ρ) : run (machine ρ) (pyAssert cond >>= fun _ => p) m = run (machine ρ) p m := by
  subst hcond
  exact run_bind_ok (run_pure (machine ρ) () m) _

/-- The opcode goes on as if the assertion at the end of the header were not there. -/
theorem run_writeRecord_closes (pOut : ℕ) (data0 : ℤ) {nField : ℕ} {size : RecordSize}
    (hsize : SizedFields nField size) (htype : ∀ field ∈ size.fields, field.serial_type < 2^63)
    (h63 : headerSize size.nHdr < 2^63) :
    ∃ rest : MemM ρ RecordEnd,
      writeRecord pOut data0 nField size = (do
        let pass ← writeFields pOut data0 nField size
        pyAssert (pass.i == headerSize size.nHdr)
        rest) ∧
      ∀ m, run (machine ρ) (writeRecord pOut data0 nField size) m = run (machine ρ) (do
        let _ ← writeFields pOut data0 nField size
        rest) m := by
  obtain ⟨rest, heq⟩ : ∃ rest : MemM ρ RecordEnd,
      writeRecord pOut data0 nField size = (do
        let pass ← writeFields pOut data0 nField size
        pyAssert (pass.i == headerSize size.nHdr)
        rest) := ⟨_, (Prog.andThen_assoc ..).symm⟩
  refine ⟨rest, heq, fun m => ?_⟩
  rw [heq]
  cases hrun : run (machine ρ) (writeFields pOut data0 nField size) m with
  | error e => rw [run_bind_error hrun, run_bind_error hrun]
  | ok x =>
    obtain ⟨pass, m'⟩ := x
    obtain ⟨hi, -⟩ := triple_writeFields pOut data0 hsize htype h63 m trivial pass m' hrun
    rw [run_bind_ok hrun, run_bind_ok hrun, run_pyAssert_true (by rw [hi, beq_self_eq_true])]

/-- The header of a record is as long as it says, and no longer than it has to be. -/
structure HeaderSized (L : CLib ρ) (ff : ℕ) : Prop where
  /-- For any serial types, the size of the header is the least that counts its own varint. -/
  least : ∀ types : List ℕ, IsLeast
    {nHdr | nHdr = (types.map sqlite3VarintLen).sum + sqlite3VarintLen nHdr}
    (headerSize (types.map sqlite3VarintLen).sum)
  /-- The first pass adds up the varints of the serial types. If these and the size of the header
  are 64-bit numbers with a sign, the second pass fills the header, the contents come right after
  it, and the opcode goes on as if the assertion after them were not there. -/
  closes : ∀ (data0 : ℤ) (nField : ℕ) (m : Machine ρ) (size : RecordSize) (m₁ : Machine ρ),
    run (machine ρ) (Prog.forRange data0 nField {} (recordSizeStep L ff)) m = .ok (size, m₁) →
      size.nHdr = ((size.fields.map RecordField.serial_type).map sqlite3VarintLen).sum ∧
      ((∀ field ∈ size.fields, field.serial_type < 2^63) → headerSize size.nHdr < 2^63 →
        ∀ pOut : ℕ,
          (∀ (m₂ : Machine ρ) (pass : RecordWrite) (m₃ : Machine ρ),
            run (machine ρ) (writeFields pOut data0 nField size) m₂ = .ok (pass, m₃) →
              pass.i = headerSize size.nHdr ∧
              pass.content = headerSize size.nHdr + (size.fields.map RecordField.length).sum) ∧
          ∃ rest : MemM ρ RecordEnd,
            writeRecord pOut data0 nField size = (do
              let pass ← writeFields pOut data0 nField size
              pyAssert (pass.i == headerSize size.nHdr)
              rest) ∧
            ∀ m₂, run (machine ρ) (writeRecord pOut data0 nField size) m₂ = run (machine ρ) (do
              let _ ← writeFields pOut data0 nField size
              rest) m₂)
  /-- The loop of `sqlite3VarintLen` ends, with the number of bytes that are written. -/
  varintLen : ∀ v : ℤ, 0 ≤ v → v < 2^63 → ∃ n, sqlite3VarintLenLoop 9 0 v = some n ∧
    (sqlite3PutVarint v.toNat).length = n ∧
    ∀ (buf index : ℕ) (m : Machine ρ) (k : ℕ) (m' : Machine ρ),
      run (machine ρ) (putVarint32 buf v.toNat index) m = .ok (k, m') → k = n

/-- The header of every record is. -/
theorem makeRecord_headerSized (L : CLib ρ) (ff : ℕ) : HeaderSized L ff := by
  refine ⟨fun types => headerSize_isLeast _, fun data0 nField m size m₁ hfirst => ?_,
    fun v h0 hv => ?_⟩
  · have hsize := triple_firstPass data0 nField m trivial size m₁ hfirst
    refine ⟨?_, fun htype h63 pOut => ⟨fun m₂ pass m₃ hsecond =>
      triple_writeFields pOut data0 hsize htype h63 m₂ trivial pass m₃ hsecond,
      run_writeRecord_closes pOut data0 hsize htype h63⟩⟩
    rw [hsize.nHdr, List.map_map]
    exact congrArg List.sum (List.map_congr_left hsize.sized)
  · obtain ⟨n, rfl⟩ := Int.eq_ofNat_of_zero_le h0
    have hn : n < 2^63 := by exact_mod_cast hv
    have hsize : Varint.size n ≤ 9 := (Varint.size_le_iff (by decide)).mpr (by omega)
    refine ⟨sqlite3VarintLen n, ?_, ?_, fun buf index m k m' hrun => ?_⟩
    · rw [sqlite3VarintLenLoop_eq n 9 0 hsize, Nat.zero_add]
    · rw [Int.toNat_natCast, sqlite3PutVarint_eq (by omega), length_encode_eq hn]
    · rw [Int.toNat_natCast] at hrun
      exact triple_putVarint32 buf index hn m trivial k m' hrun

/-- Above 126 bytes the size of the header takes two bytes. -/
example : headerSize 126 = 127 ∧ headerSize 127 = 129 := by simp [headerSize, sqlite3VarintLen]

end runs

end SQPyte
