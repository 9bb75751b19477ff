import SQPyte.Record.MakeRecord
import SQPyte.Mem.Value

/-!
# What `OP_MakeRecord` writes

The values of the input registers are their `Mem.value`, with implied zeros as bytes. The first pass
is followed cell by cell (`run_recordSizeStep`), and leaves cells of the same values without implied
zeros, as long as each zero blob comes after data. The second pass fills the buffer from two ends: the
header entries from its start, the contents from the end of the header on (`Filled`). The two meet in
`run_makeRecord`: the output register holds the `record` of the values.
-/

namespace SQPyte

open Commands

/-! ## Values of registers -/

namespace Mem

/-- The bytes of a text or blob with the implied zeros. -/
def fullBytes (c : Mem) : List Byte :=
  c.bytes ++ if c.flags.has MEM_Zero then List.replicate c.u_nZero.toNat 0 else []

/-- The SQL value of a register. -/
def value (c : Mem) : Value :=
  if c.flags.has MEM_Null then .null
  else if c.flags.has MEM_Int then .int c.u_i
  else if c.flags.has MEM_Real then .real c.u_r
  else if c.flags.has MEM_Str then .text c.fullBytes
  else .blob c.fullBytes

variable {enc ff : ℕ} {c : Mem}

/-- What is neither NULL nor a number is a text or a blob. -/
theorem IsValue.str_or_blob (hc : c.IsValue enc) (hn : c.flags.has MEM_Null = false)
    (hi : c.flags.has MEM_Int = false) (hr : c.flags.has MEM_Real = false) :
    (c.flags.has MEM_Str || c.flags.has MEM_Blob) = true := by
  have := hc.nonempty
  rw [hn, hi, hr] at this
  simpa only [Bool.false_or] using this

/-- The length of a text or blob, with its implied zeros. -/
theorem IsValue.length_fullBytes (hc : c.IsValue enc) (hn : c.flags.has MEM_Null = false)
    (hi : c.flags.has MEM_Int = false) (hr : c.flags.has MEM_Real = false) :
    (c.fullBytes.length : ℤ) = if c.flags.has MEM_Zero then c.n + c.u_nZero else c.n := by
  have hlen := hc.length_bytes (hc.str_or_blob hn hi hr)
  have hz := hc.zero
  unfold fullBytes
  rw [List.length_append]
  split_ifs with h
  · rw [List.length_replicate]
    have := (hz h).2
    omega
  · rw [List.length_nil]
    omega

/-- The value of a register fits if it is not too long. -/
theorem IsValue.value_fits (hc : c.IsValue enc)
    (hlen : (c.value.content ff).length ≤ SQLITE_MAX_LENGTH) : c.value.Fits := by
  unfold value at hlen ⊢
  split_ifs at hlen ⊢ with hn hi hr hs
  · trivial
  · exact ⟨BitVec.le_toInt c.u, BitVec.toInt_lt⟩
  · exact hc.real hr
  · exact hlen
  · exact hlen

/-- Storing the implied zeros leaves a register with the same value. -/
theorem Expanded.isValue {c' : Mem} (h : Expanded c c') (hc : c.IsValue enc)
    (hz : c.flags.has MEM_Zero = true) : c'.IsValue enc := by
  obtain ⟨hblob, hpos⟩ := hc.zero hz
  have hno := hc.blob hblob
  have hn := hc.length_bytes (by rw [hblob, Bool.or_true])
  have hlen := congrArg List.length h.bytes
  have hnull : c.flags.has MEM_Null = false := by
    by_contra hnull
    have := hc.null (by simpa using hnull)
    rw [hblob] at this
    simp at this
  have hplain := hc.plain
  have hstored : 0 ≤ c'.n ∧ c'.n.toNat ≤ c'.buffer.length := by
    have hneq := h.n_eq
    rw [List.length_append, List.length_replicate] at hlen
    unfold Mem.bytes at hlen hn
    simp only [List.length_take] at hlen hn
    omega
  have hflags : c'.flags.has MEM_Null = false ∧ c'.flags.has MEM_Int = false ∧
      c'.flags.has MEM_Real = false ∧ c'.flags.has MEM_Str = false ∧
      c'.flags.has MEM_Blob = true ∧ c'.flags.has MEM_RowSet = false ∧
      c'.flags.has MEM_Frame = false ∧ c'.flags.has MEM_Agg = false ∧
      c'.flags.has MEM_Undefined = false ∧ c'.flags.has MEM_Zero = false := by
    rw [h.flags]
    simp at hnull hno hblob hplain ⊢
    simp [hnull, hno, hblob, hplain]
  obtain ⟨f0, f2, f3, f1, f4, f5, f6, f13, f7, f14⟩ := hflags
  constructor
  · rw [f0]; simp
  · rw [f4]; simp
  · rw [f2]; simp
  · exact fun _ => ⟨f2, f3, f1⟩
  · rw [f3]; simp
  · exact ⟨f5, f6, f13, f7⟩
  · rw [f14]; simp
  · exact fun _ => hstored
  · rw [f1]; simp
  · exact h.alloc

/-- Expanding a blob keeps its value. -/
theorem Expanded.value_eq {c' : Mem} (h : Expanded c c') (hc : c.IsValue enc)
    (hz : c.flags.has MEM_Zero = true) : c'.value = c.value ∧ c'.flags.has MEM_Zero = false := by
  obtain ⟨hblob, -⟩ := hc.zero hz
  have hno := hc.blob hblob
  have hflags : c'.flags.has MEM_Null = c.flags.has MEM_Null ∧
      c'.flags.has MEM_Int = c.flags.has MEM_Int ∧
      c'.flags.has MEM_Real = c.flags.has MEM_Real ∧
      c'.flags.has MEM_Str = c.flags.has MEM_Str ∧ c'.flags.has MEM_Zero = false := by
    rw [h.flags]
    simp
  obtain ⟨f0, f2, f3, f1, f14⟩ := hflags
  have hfull : c'.fullBytes = c.fullBytes := by
    unfold fullBytes
    rw [h.bytes, f14, hz]
    simp
  refine ⟨?_, f14⟩
  unfold value
  rw [f0, f2, f3, f1, hfull, hno.1, hno.2.1]
  simp only [Bool.false_eq_true, ↓reduceIte]

end Mem

/-- The entry of `types_lengths_and_hdrlens` for a value. -/
def Value.field (ff : ℕ) (v : Value) : RecordField :=
  ⟨v.serialType ff, (v.content ff).length, (Varint.encode (v.serialType ff)).length⟩

/-- The table of sizes below the serial type 12. -/
theorem type_size_and_hdrsize_eq {ff : ℕ} {v : Value} {t : ℕ} (h : v.serialType ff = t)
    (ht : t < 12) : _type_size_and_hdrsize t = v.field ff := by
  unfold _type_size_and_hdrsize Value.field
  rw [length_content, h, Varint.encode_of_lt (by omega)]
  unfold sqlite3VdbeSerialTypeLen
  rw [if_neg (by omega)]
  rfl

/-- The length of the varint of a serial type. -/
theorem hdrlen_eq {t : ℕ} (h : t < 2^32) :
    (if t ≤ 127 then 1 else sqlite3VarintLen t) = (Varint.encode t).length := by
  rw [Varint.length_encode (by omega), sqlite3VarintLen_eq]
  split_ifs with hle
  · exact (Varint.size_eq_one (by omega)).symm
  · rfl

/-! ## The first pass -/

namespace Strict

variable {ρ : Type} {s : Strict ρ} {i : ℕ} {c : Mem} {w : Member} {enc ff : ℕ}

/-- The serial type and the lengths of a register are those of its value. -/
theorem At.run_serialType (hi : s.At i c w) (hc : c.IsValue enc) (ha : Announces c w)
    (hfits : c.value.Fits) :
    run (strictMachine ρ) (sqlite3VdbeSerialType_Len_and_HdrLen i ff) s =
      .ok (c.value.field ff, s) := by
  have htype : c.value.serialType ff < 2^32 := serialType_lt hfits
  unfold sqlite3VdbeSerialType_Len_and_HdrLen
  rw [run_bind_ok hi.run_get_flags]
  -- The cases follow the routine's tests of the flags: NULL, integer, real, then bytes.
  cases hn : c.flags.has MEM_Null with
  | true =>
    have hv : c.value = .null := by unfold Mem.value; rw [if_pos hn]
    rw [if_pos rfl, run_pure, type_size_and_hdrsize_eq (v := c.value) (by rw [hv]; rfl) (by omega)]
  | false =>
  cases hint : c.flags.has MEM_Int with
  | true =>
    have hv : c.value = .int c.u_i := by unfold Mem.value; rw [hn, hint]; rfl
    -- The types below 12 have a table of lengths and one byte in the header.
    have hlt : c.value.serialType ff < 12 := by
      rw [hv] at hfits ⊢
      obtain ⟨ht, -⟩ | ⟨ht, -⟩ | ⟨t, hmem, ht, -⟩ := serial_type_of_int_spec c.u_i ff hfits.1 hfits.2
      · simp only [Value.serialType, ht]; omega
      · simp only [Value.serialType, ht]; omega
      · simp only [List.mem_cons, List.not_mem_nil, or_false] at hmem
        simp only [Value.serialType, ht]
        omega
    simp only [Bool.false_eq_true, ↓reduceIte]
    rw [run_bind_ok (hi.run_get_u_i hint (ha.1 hint)), run_pure,
      ← type_size_and_hdrsize_eq rfl hlt, hv]
    rfl
  | false =>
  cases hr : c.flags.has MEM_Real with
  | true =>
    have hv : c.value = .real c.u_r := by unfold Mem.value; rw [hn, hint, hr]; rfl
    simp only [Bool.false_eq_true, ↓reduceIte]
    rw [run_pure, type_size_and_hdrsize_eq (v := c.value) (by rw [hv]; rfl) (by omega)]
  | false =>
    -- A text or a blob has a type that its length determines, zeros included.
    have hlen := hc.length_fullBytes hn hint hr
    have hnonneg : (0 : ℤ) ≤ if c.flags.has MEM_Zero then c.n + c.u_nZero else c.n := by omega
    have htoNat : (if c.flags.has MEM_Zero then c.n + c.u_nZero else c.n).toNat =
        c.fullBytes.length := by omega
    simp only [Bool.false_eq_true, ↓reduceIte]
    rw [run_bind_ok (hi.run_peek _)]
    rw [run_bind_ok (run_pyAssert s (by rw [decide_eq_true_eq]; exact hnonneg)), run_pure, htoNat]
    have hv : c.value = if c.flags.has MEM_Str then .text c.fullBytes else .blob c.fullBytes := by
      unfold Mem.value; rw [hn, hint, hr]; rfl
    have hst : c.fullBytes.length * 2 + (12 + if c.flags.has MEM_Str = true then 1 else 0) =
        c.value.serialType ff := by
      rw [hv]
      split_ifs <;> simp only [Value.serialType] <;> omega
    have hct : c.fullBytes.length = (c.value.content ff).length := by
      rw [hv]
      split_ifs <;> rfl
    rw [hst, hdrlen_eq htype, hct]
    rfl

end Strict

/-- What the second pass may assume of an input register: it holds the value `v`, and no zeros are
implied. -/
structure Holds (enc : ℕ) (c : Mem) (w : Member) (v : Value) : Prop where
  /-- The register holds a value. -/
  isValue : c.IsValue enc
  /-- The member written last is announced. -/
  announces : Announces c w
  /-- The value is `v`. -/
  value : c.value = v
  /-- All bytes are stored. -/
  explicit : c.flags.has MEM_Zero = true → c.u_nZero = 0

/-- A zero blob comes after data, if zeros are implied at all. -/
def Preceded (c : Mem) (nData : ℤ) : Prop :=
  c.flags.has MEM_Zero = true → 0 < c.u_nZero → nData ≠ 0

/-- Each of the first `k` cells that is a zero blob comes after data. -/
def AllPreceded (ff : ℕ) (cs : List Mem) (k : ℕ) : Prop :=
  ∀ j (hj : j < cs.length), j < k →
    Preceded cs[j] (contentBytes ff ((cs.take j).map Mem.value)).length

/-- What holds of all values holds of the first ones. -/
theorem AllPreceded.mono {ff j k : ℕ} {cs : List Mem} (h : AllPreceded ff cs k) (hjk : j ≤ k) :
    AllPreceded ff cs j :=
  fun i hi hij => h i hi (lt_of_lt_of_le hij hjk)

section firstPass

variable {ρ : Type} {L : CLib ρ} {mallocFailed : ρ → Bool} {s : Strict ρ} {c : Mem} {w : Member}
  {enc ff : ℕ}

/-- What the first pass does with the cell `c`: it leaves `c'`. -/
structure SizeStep (enc ff : ℕ) (size size' : RecordSize) (c c' : Mem) (w' : Member) : Prop where
  /-- The entry of the value is added. -/
  fields : size'.fields = size.fields ++ [c.value.field ff]
  /-- The header entry is counted. -/
  nHdr : size'.nHdr = size.nHdr + (Varint.encode (c.value.serialType ff)).length
  /-- The register holds a value. -/
  isValue : c'.IsValue enc
  /-- The member written last is announced. -/
  announces : Announces c' w'
  /-- It is the same value. -/
  value : c'.value = c.value
  /-- Without data before, the register is as it was. -/
  kept : size.nData = 0 → c' = c
  /-- The content is counted. -/
  nData : Preceded c size.nData → size'.nData = size.nData + (c.value.content ff).length
  /-- No zeros are implied at the end of the record. -/
  nZero : Preceded c size.nData → size.nZero = 0 → size'.nZero = 0
  /-- No zeros are implied any more. -/
  explicit : Preceded c size.nData → c'.flags.has MEM_Zero = true → c'.u_nZero = 0

/-- The first pass goes through one register. -/
theorem run_recordSizeStep (hL : L.Lawful mallocFailed) {memindex : ℤ} {i : ℕ}
    (hidx : Machine.memIndex s.mems.length s.nMem memindex = .ok i) (hi : s.At i c w)
    (hc : c.IsValue enc) (ha : Announces c w) (hfits : c.value.Fits) (size : RecordSize) :
    ∃ size' c' w' r', run (strictMachine ρ) (recordSizeStep L ff memindex size) s =
        .ok (size', { s.setMem i c' w' with rest := r' }) ∧ SizeStep enc ff size size' c c' w' := by
  have hself : ({ s.setMem i c w with rest := s.rest } : Strict ρ) = s := hi.setMem_self
  have hvalid : run (strictMachine ρ) (memIsValid i) s = .ok (true, s) := by
    unfold memIsValid
    rw [run_bind_ok hi.run_get_flags, run_pure, hc.plain.2.2.2]
    rfl
  unfold recordSizeStep
  rw [run_bind_ok (Strict.run_mem_with_index s hidx), run_bind_ok hvalid,
    run_bind_ok (Strict.run_pyAssert s rfl), run_bind_ok (hi.run_serialType hc ha hfits),
    run_bind_ok hi.run_get_flags]
  cases hz : c.flags.has MEM_Zero with
  | false =>
    refine ⟨⟨size.fields ++ [c.value.field ff], size.nData + (c.value.content ff).length,
      size.nHdr + (Varint.encode (c.value.serialType ff)).length, size.nZero⟩, c, w, s.rest,
      by rw [hself]; rfl, ⟨rfl, rfl, hc, ha, rfl, fun _ => rfl, fun _ => rfl, fun _ h => h,
      fun _ h => absurd h (by rw [hz]; simp)⟩⟩
  | true =>
    simp only [↓reduceIte]
    by_cases hdata : size.nData ≠ 0
    · -- There is data before, so the zeros are stored.
      obtain ⟨c', r', hexp, hE, -⟩ := Mem.sqlite3VdbeMemExpandBlob_spec hL hc hz s.rest
      have hval := hE.value_eq hc hz
      have hrun : run (strictMachine ρ) (ExpandBlob L i) s =
          .ok (SQLITE_OK, { s.setMem i c' .foreign with rest := r' }) := by
        unfold ExpandBlob
        rw [run_bind_ok hi.run_get_flags, hz, if_pos rfl]
        exact hi.run_c_mem hexp
      rw [if_pos hdata, run_bind_ok hrun]
      refine ⟨_, c', .foreign, r', rfl, ⟨rfl, rfl, hE.isValue hc hz,
        ⟨fun _ => Or.inr rfl, fun _ => Or.inr rfl⟩, hval.1, fun h => absurd h hdata, fun _ => rfl,
        fun _ h => h, fun _ h => absurd h (by rw [hval.2]; simp)⟩⟩
    · -- Without data before, the zeros are to be implied at the end of the record.
      have hnone : Preceded c size.nData → c.u_nZero = 0 := by
        intro hprec
        by_contra hne
        exact hdata (hprec hz (lt_of_le_of_ne (hc.zero hz).2 (Ne.symm hne)))
      rw [if_neg hdata, run_bind_ok (hi.run_peek _)]
      refine ⟨_, c, w, s.rest, by rw [hself]; rfl, ⟨rfl, rfl, hc, ha, rfl, fun _ => rfl,
        fun h => ?_, fun h _ => ?_, fun h _ => hnone h⟩⟩
      · rw [hnone h, add_zero, sub_zero]
        rfl
      · rw [hnone h, add_zero]

/-- The registers `data0`, … are the cells `cs`. Those before `k` have been through the first pass. -/
def InputsAt (enc ff : ℕ) (data0 : ℤ) (cs : List Mem) (k : ℕ) (t : Strict ρ) : Prop :=
  ∀ j (hj : j < cs.length), ∃ c w, t.At (data0 + j).toNat c w ∧ Announces c w ∧
    if j < k then c.IsValue enc ∧ c.value = cs[j].value ∧
      (AllPreceded ff cs j → (contentBytes ff ((cs.take j).map Mem.value)).length = 0 →
        c = cs[j]) ∧
      (AllPreceded ff cs k → c.flags.has MEM_Zero = true → c.u_nZero = 0)
    else c = cs[j]

/-- After `k` registers of the first pass, from the state `s`. -/
structure Sized (enc ff : ℕ) (data0 : ℤ) (cs : List Mem) (s : Strict ρ) (k : ℕ) (size : RecordSize)
    (t : Strict ρ) : Prop where
  /-- The entries are those of the values. -/
  fields : size.fields = ((cs.take k).map Mem.value).map (Value.field ff)
  /-- The header space is that of the serial types. -/
  nHdr : size.nHdr = (serialTypeBytes ff ((cs.take k).map Mem.value)).length
  /-- The data space is that of the contents. -/
  nData : AllPreceded ff cs k →
    size.nData = (contentBytes ff ((cs.take k).map Mem.value)).length
  /-- No zeros are implied at the end. -/
  nZero : AllPreceded ff cs k → size.nZero = 0
  /-- The registers still hold the values. -/
  inputs : InputsAt enc ff data0 cs k t
  /-- There are as many cells. -/
  length : t.mems.length = s.mems.length
  /-- There are as many registers. -/
  nMem : t.nMem = s.nMem
  /-- The other cells are unchanged. -/
  others : ∀ i, (∀ j < cs.length, i ≠ (data0 + j).toNat) → t.mems[i]? = s.mems[i]?

/-- The serial types with one more value. -/
theorem serialTypeBytes_append (ff : ℕ) (vs : List Value) (v : Value) :
    serialTypeBytes ff (vs ++ [v]) = serialTypeBytes ff vs ++ Varint.encode (v.serialType ff) := by
  unfold serialTypeBytes
  rw [List.flatMap_append, List.flatMap_singleton]

/-- The contents with one more value. -/
theorem contentBytes_append (ff : ℕ) (vs : List Value) (v : Value) :
    contentBytes ff (vs ++ [v]) = contentBytes ff vs ++ v.content ff := by
  unfold contentBytes
  rw [List.flatMap_append, List.flatMap_singleton]

/-- The first pass goes through all registers. -/
theorem run_firstPass (hL : L.Lawful mallocFailed) {data0 : ℤ} {cs : List Mem}
    (hreg : ∀ j < cs.length, IsRegister s.mems.length s.nMem (data0 + j))
    (hin : InputsAt enc ff data0 cs 0 s) (hval : ∀ c ∈ cs, c.IsValue enc)
    (hfits : ∀ c ∈ cs, c.value.Fits) :
    ∃ size t, run (strictMachine ρ)
        (Prog.forRange data0 cs.length {} (recordSizeStep L ff)) s = .ok (size, t) ∧
      Sized enc ff data0 cs s cs.length size t := by
  -- The invariant: the sizes count the first `k` values, whose cells are expanded.
  refine run_forRange (Sized enc ff data0 cs s) ?_
    ⟨rfl, rfl, fun _ => rfl, fun _ => rfl, hin, rfl, rfl, fun _ _ => rfl⟩
  intro k hk size t h
  obtain ⟨c, w, hat, hann, hcell⟩ := h.inputs k hk
  -- The `k`-th cell has not been touched yet.
  rw [if_neg (lt_irrefl k)] at hcell
  subst hcell
  have hmem : cs[k] ∈ cs := List.getElem_mem hk
  have hidx : Machine.memIndex t.mems.length t.nMem (data0 + k) = .ok (data0 + k).toNat := by
    rw [h.length, h.nMem]; exact (hreg k hk).memIndex_eq
  obtain ⟨size', c', w', r', hrun, hstep⟩ := run_recordSizeStep hL hidx hat
    (hval _ hmem) hann (hfits _ hmem) size
  have htake : (cs.take (k + 1)).map Mem.value = (cs.take k).map Mem.value ++ [cs[k].value] := by
    rw [← List.take_append_getElem hk, List.map_append, List.map_singleton]
  -- Zeros before it would have to be written out.
  have hprec : AllPreceded ff cs (k + 1) → Preceded cs[k] size.nData := by
    intro hall
    rw [h.nData (hall.mono (Nat.le_succ k))]
    exact hall k hk (Nat.lt_succ_self k)
  refine ⟨size', _, hrun, ?_, ?_, fun hall => ?_, fun hall => ?_, ?_, ?_, h.nMem, ?_⟩
  · rw [htake, List.map_append, ← h.fields]
    exact hstep.fields
  · rw [htake, serialTypeBytes_append, List.length_append, ← h.nHdr]
    exact hstep.nHdr
  · rw [htake, contentBytes_append, List.length_append, hstep.nData (hprec hall),
      h.nData (hall.mono (Nat.le_succ k)), Nat.cast_add]
  · exact hstep.nZero (hprec hall) (h.nZero (hall.mono (Nat.le_succ k)))
  · intro j hj
    have h0 := (hreg j hj).1
    have hk0 := (hreg k hk).1
    -- The turn changes its own register only.
    by_cases hjk : j = k
    · subst hjk
      refine ⟨c', w', hat.setMem c' w', hstep.announces, ?_⟩
      rw [if_pos (Nat.lt_succ_self j)]
      refine ⟨hstep.isValue, hstep.value, fun hall hzero => hstep.kept ?_,
        fun hall => hstep.explicit (hprec hall)⟩
      rw [h.nData hall, hzero]
      rfl
    · obtain ⟨d, v, hd, hdann, hcell⟩ := h.inputs j hj
      refine ⟨d, v, hd.setMem_ne (by omega) c' w', hdann, ?_⟩
      rw [if_congr (show j < k + 1 ↔ j < k by omega) rfl rfl]
      split_ifs at hcell ⊢ with hlt
      · exact ⟨hcell.1, hcell.2.1, hcell.2.2.1,
          fun hall => hcell.2.2.2 (hall.mono (Nat.le_succ k))⟩
      · exact hcell
  · exact (List.length_set ..).trans h.length
  · intro i hi
    exact (List.getElem?_set_ne (hi k hk).symm).trans (h.others i hi)

end firstPass

/-! ## The second pass -/

/-- The buffer `z` holds `H` at its start and `D` from offset `nHdr` on. -/
def Filled (z H D : List Byte) (nHdr : ℕ) : Prop :=
  ∃ G T, z = H ++ G ++ (D ++ T) ∧ H.length + G.length = nHdr

namespace Filled

variable {z H D bs : List Byte} {nHdr : ℕ}

/-- What is overwritten lies between what is not. -/
theorem overwrite_append {A x B bs : List Byte} (h : x.length = bs.length) :
    overwrite A.length bs (A ++ x ++ B) = A ++ bs ++ B := by
  have htake : (A ++ x ++ B).take A.length = A := by rw [List.append_assoc, List.take_left]
  have hdrop : (A ++ x ++ B).drop (A.length + bs.length) = B :=
    List.drop_left' (by rw [List.length_append, h])
  unfold overwrite
  rw [htake, hdrop]

/-- Overwriting keeps the length. -/
theorem length_overwrite {at_ : ℕ} (h : at_ + bs.length ≤ z.length) :
    (overwrite at_ bs z).length = z.length := by
  unfold overwrite
  simp only [List.length_append, List.length_take, List.length_drop]
  omega

/-- At the start nothing is filled. -/
theorem start (h : nHdr ≤ z.length) : Filled z [] [] nHdr :=
  ⟨z.take nHdr, z.drop nHdr, (List.take_append_drop nHdr z).symm, by
    rw [List.length_nil, List.length_take]; omega⟩

/-- A header entry is added. -/
theorem header (h : Filled z H D nHdr) (hfit : H.length + bs.length ≤ nHdr) :
    Filled (overwrite H.length bs z) (H ++ bs) D nHdr := by
  obtain ⟨G, T, rfl, hlen⟩ := h
  refine ⟨G.drop bs.length, T, ?_, ?_⟩
  · have hsplit : H ++ G ++ (D ++ T) =
        H ++ G.take bs.length ++ (G.drop bs.length ++ (D ++ T)) := by
      rw [List.append_assoc H (G.take _), ← List.append_assoc (G.take _), List.take_append_drop,
        List.append_assoc]
    rw [hsplit, overwrite_append (by rw [List.length_take]; omega), ← List.append_assoc]
  · rw [List.length_append, List.length_drop]
    omega

/-- A content is added. -/
theorem content (h : Filled z H D nHdr) (hfit : nHdr + D.length + bs.length ≤ z.length) :
    Filled (overwrite (nHdr + D.length) bs z) H (D ++ bs) nHdr := by
  obtain ⟨G, T, rfl, hlen⟩ := h
  simp only [List.length_append] at hfit
  refine ⟨G, T.drop bs.length, ?_, hlen⟩
  have hsplit : H ++ G ++ (D ++ T) = (H ++ G ++ D) ++ T.take bs.length ++ T.drop bs.length := by
    rw [List.append_assoc (H ++ G ++ D), List.take_append_drop, List.append_assoc (H ++ G)]
  have hat : nHdr + D.length = (H ++ G ++ D).length := by
    simp only [List.length_append]
    omega
  rw [hsplit, hat, overwrite_append (by rw [List.length_take]; omega)]
  simp only [List.append_assoc]

/-- A full header and the contents are the first bytes. -/
theorem take (h : Filled z H D nHdr) (hH : H.length = nHdr) :
    z.take (nHdr + D.length) = H ++ D := by
  obtain ⟨G, T, rfl, hlen⟩ := h
  have hG : G = [] := List.eq_nil_of_length_eq_zero (by omega)
  rw [hG, List.append_nil, ← List.append_assoc, List.take_left' (by rw [List.length_append, hH])]

end Filled

section secondPass

variable {ρ : Type} {s : Strict ρ} {p i : ℕ} {out c : Mem} {v w : Member} {enc ff : ℕ}

/-- Bytes are written to the output register. -/
theorem run_putBytes (ho : s.At p out v) {at_ : ℕ} {bs : List Byte}
    (hfit : at_ + bs.length ≤ out.zMalloc.length) :
    run (strictMachine ρ) (putBytes p at_ bs) s =
      .ok ((), s.setMem p { out with zMalloc := overwrite at_ bs out.zMalloc } v) := by
  unfold putBytes
  rw [run_bind_ok (ho.run_peek _), if_pos hfit, ho.run_poke]
  rfl

/-- A varint is written to the output register. -/
theorem run_putVarint32 (ho : s.At p out v) {val index : ℕ}
    (hfit : index + (Varint.encode val).length ≤ out.zMalloc.length) :
    run (strictMachine ρ) (putVarint32 p val index) s = .ok ((Varint.encode val).length,
      s.setMem p { out with zMalloc := overwrite index (Varint.encode val) out.zMalloc } v) := by
  unfold putVarint32
  split_ifs with h
  · rw [Varint.encode_of_lt h] at hfit ⊢
    rw [run_bind_ok (run_putBytes ho hfit)]
    rfl
  · rw [run_bind_ok (run_putBytes ho hfit)]
    rfl

/-- The content of a register is that of its value. -/
theorem run_serialPut (hi : s.At i c w) {x : Value} (hh : Holds enc c w x) (ho : s.At p out v)
    {buf : ℕ} (hfit : buf + (x.content ff).length ≤ out.zMalloc.length) :
    run (strictMachine ρ) (_sqlite3VdbeSerialPut_with_length i p buf (x.content ff).length) s =
      .ok ((x.content ff).length,
        s.setMem p { out with zMalloc := overwrite buf (x.content ff) out.zMalloc } v) := by
  have hx := hh.value
  unfold Mem.value at hx
  unfold _sqlite3VdbeSerialPut_with_length
  rw [run_bind_ok hi.run_get_flags]
  -- The cases follow the routine's tests of the flags: NULL, integer, real, then bytes.
  cases hn : c.flags.has MEM_Null with
  | true =>
    rw [hn, if_pos rfl] at hx
    subst hx
    -- A NULL has no content, so nothing is written.
    have hsame : overwrite buf ((Value.null).content ff) out.zMalloc = out.zMalloc := by
      simp [overwrite, Value.content]
    rw [if_pos rfl, run_pure, hsame, ho.setMem_self]
    rfl
  | false =>
  cases hint : c.flags.has MEM_Int with
  | true =>
    rw [hn, hint] at hx
    simp only [Bool.false_eq_true, ↓reduceIte] at hx ⊢
    subst hx
    -- The low bytes of the integer, as many as its type says.
    have hword : BigEndian.toBytes ((Value.int c.u_i).content ff).length
        (BitVec.ofInt 64 c.u_i).toNat = (Value.int c.u_i).content ff := by
      rw [length_content, BitVec.toNat_ofInt]
      rfl
    rw [Flags.has_or_right, hint, Bool.true_or, if_pos rfl,
      run_bind_ok (hi.run_get_u_i hint (hh.announces.1 hint))]
    unfold _write_int_to_buf
    rw [hword, run_bind_ok (run_putBytes ho hfit), run_pure]
  | false =>
  cases hr : c.flags.has MEM_Real with
  | true =>
    rw [hn, hint, hr] at hx
    simp only [Bool.false_eq_true, ↓reduceIte] at hx ⊢
    subst hx
    -- The eight bytes of the double.
    have hword : BigEndian.toBytes ((Value.real c.u_r).content ff).length c.u_r.toNat =
        (Value.real c.u_r).content ff := by
      rw [length_content]
      rfl
    rw [Flags.has_or_right, hint, hr, Bool.false_or, if_pos rfl,
      run_bind_ok (hi.run_get_u_r hr (hh.announces.2 hr))]
    unfold _write_int_to_buf
    rw [hword, run_bind_ok (run_putBytes ho hfit), run_pure]
  | false =>
    rw [hn, hint, hr] at hx
    simp only [Bool.false_eq_true, ↓reduceIte] at hx ⊢
    -- A zero blob has been expanded, so the bytes stored are the whole content.
    have hfull : c.fullBytes = c.bytes := by
      unfold Mem.fullBytes
      cases hz : c.flags.has MEM_Zero with
      | true => simp [hh.explicit hz]
      | false => simp
    have hcontent : x.content ff = c.bytes := by
      rw [← hx, ← hfull]
      split_ifs <;> rfl
    have hlen := hh.isValue.length_bytes (hh.isValue.str_or_blob hn hint hr)
    obtain ⟨-, hstored⟩ := hh.isValue.stored (hh.isValue.str_or_blob hn hint hr)
    have htake : c.buffer.take c.bytes.length = c.bytes := by
      rw [show c.bytes.length = c.n.toNat by omega]
      rfl
    rw [Flags.has_or_right, hint, hr, Bool.false_or, if_neg Bool.false_ne_true, hcontent,
      run_bind_ok (hi.run_peek _), if_pos (by omega), htake,
      run_bind_ok (run_putBytes ho (by rw [← hcontent]; exact hfit)), run_pure]

/-- The header entry of a value is the varint of its serial type. -/
theorem run_putSerialType (ho : s.At p out v) {x : Value} (hx : x.serialType ff < 2^32) {index : ℕ}
    (hfit : index + (Varint.encode (x.serialType ff)).length ≤ out.zMalloc.length) :
    run (strictMachine ρ) (putSerialType p index (x.field ff)) s =
      .ok ((Varint.encode (x.serialType ff)).length, s.setMem p
        { out with zMalloc := overwrite index (Varint.encode (x.serialType ff)) out.zMalloc } v) := by
  have hlen := Varint.length_encode (v := x.serialType ff) (by omega)
  unfold putSerialType
  by_cases h1 : (x.field ff).hdrlen = 1
  · have h128 : x.serialType ff < 128 := by
      have h1 : (Varint.encode (x.serialType ff)).length = 1 := h1
      have := (Varint.size_le_iff (v := x.serialType ff) (n := 1) (by decide)).mp (by omega)
      omega
    rw [Varint.encode_of_lt h128] at hfit ⊢
    rw [if_pos h1]
    exact run_bind_ok (run_putBytes ho hfit) _
  · rw [if_neg h1]
    exact run_putVarint32 ho hfit

/-- The second pass writes one register. -/
theorem run_recordWriteStep {memindex : ℤ}
    (hidx : Machine.memIndex s.mems.length s.nMem memindex = .ok i) (hip : i ≠ p)
    (hi : s.At i c w) {x : Value} (hh : Holds enc c w x) (hx : x.Fits) (ho : s.At p out v)
    {H D : List Byte} {nHdr : ℕ} (hfill : Filled out.zMalloc H D nHdr)
    (hH : H.length + (Varint.encode (x.serialType ff)).length ≤ nHdr)
    (hD : nHdr + D.length + (x.content ff).length ≤ out.zMalloc.length) (fields : List RecordField) :
    ∃ z, run (strictMachine ρ) (recordWriteStep p memindex
          ⟨H.length, nHdr + D.length, x.field ff :: fields⟩) s =
        .ok (⟨H.length + (Varint.encode (x.serialType ff)).length,
          nHdr + D.length + (x.content ff).length, fields⟩,
          s.setMem p { out with zMalloc := z } v) ∧
      Filled z (H ++ Varint.encode (x.serialType ff)) (D ++ x.content ff) nHdr ∧
      z.length = out.zMalloc.length := by
  have hfit : H.length + (Varint.encode (x.serialType ff)).length ≤ out.zMalloc.length := by omega
  have hhdr := run_putSerialType ho (serialType_lt hx) hfit
  have hlen₁ := Filled.length_overwrite hfit
  have hfill₁ := hfill.header hH
  have ho₁ := ho.setMem
    { out with zMalloc := overwrite H.length (Varint.encode (x.serialType ff)) out.zMalloc } v
  have hput := run_serialPut (hi.setMem_ne hip.symm _ _) hh ho₁
    (show nHdr + D.length + (x.content ff).length ≤ _ by rw [hlen₁]; exact hD)
  refine ⟨_, ?_, hfill₁.content (by rw [hlen₁]; exact hD), ?_⟩
  · unfold recordWriteStep
    rw [run_bind_ok (Strict.run_mem_with_index s hidx)]
    dsimp only
    rw [run_bind_ok hhdr]
    simp only [Value.field]
    rw [run_bind_ok hput, run_bind_ok (Strict.run_pyAssert _ (beq_self_eq_true _)), run_pure,
      Strict.setMem_setMem]
  · rw [Filled.length_overwrite (by rw [hlen₁]; exact hD), hlen₁]

/-- After `k` registers of the second pass, from the state `s`. -/
structure Written (enc ff : ℕ) (data0 : ℤ) (vs : List Value) (p : ℕ) (out : Mem) (v : Member)
    (s : Strict ρ) (k : ℕ) (pass : RecordWrite) (t : Strict ρ) : Prop where
  /-- The header is written up to `i`. -/
  i : pass.i = (Varint.encode (headerSize (serialTypeBytes ff vs).length) ++
    serialTypeBytes ff (vs.take k)).length
  /-- The contents are written up to `content`. -/
  content : pass.content = headerSize (serialTypeBytes ff vs).length +
    (contentBytes ff (vs.take k)).length
  /-- The entries of the other registers are left. -/
  fields : pass.fields = (vs.drop k).map (Value.field ff)
  /-- Nothing but the buffer has changed. -/
  buffer : ∃ z, t = s.setMem p { out with zMalloc := z } v ∧ z.length = out.zMalloc.length ∧
    Filled z (Varint.encode (headerSize (serialTypeBytes ff vs).length) ++
      serialTypeBytes ff (vs.take k)) (contentBytes ff (vs.take k))
      (headerSize (serialTypeBytes ff vs).length)

/-- One more element. -/
theorem take_succ_eq {α : Type} {xs : List α} {k : ℕ} (hk : k < xs.length) :
    xs.take (k + 1) = xs.take k ++ [xs[k]] := (List.take_append_getElem hk).symm

/-- The serial types up to and with that of a register are no longer than all of them, and so for
the contents. -/
theorem length_take_le (ff : ℕ) {vs : List Value} {k : ℕ} (hk : k < vs.length) :
    (serialTypeBytes ff (vs.take k)).length + (Varint.encode (vs[k].serialType ff)).length ≤
      (serialTypeBytes ff vs).length ∧
    (contentBytes ff (vs.take k)).length + (vs[k].content ff).length ≤
      (contentBytes ff vs).length := by
  have hsplit := List.take_append_drop (k + 1) vs
  constructor
  · rw [← List.length_append, ← serialTypeBytes_append, ← take_succ_eq hk]
    calc (serialTypeBytes ff (vs.take (k + 1))).length
        ≤ (serialTypeBytes ff (vs.take (k + 1) ++ vs.drop (k + 1))).length := by
          unfold serialTypeBytes
          rw [List.flatMap_append, List.length_append]
          exact Nat.le_add_right _ _
      _ = (serialTypeBytes ff vs).length := by rw [hsplit]
  · rw [← List.length_append, ← contentBytes_append, ← take_succ_eq hk]
    calc (contentBytes ff (vs.take (k + 1))).length
        ≤ (contentBytes ff (vs.take (k + 1) ++ vs.drop (k + 1))).length := by
          unfold contentBytes
          rw [List.flatMap_append, List.length_append]
          exact Nat.le_add_right _ _
      _ = (contentBytes ff vs).length := by rw [hsplit]

/-- The second pass writes the header and the contents. -/
theorem run_secondPass {data0 : ℤ} {vs : List Value} (hlen : (record ff vs).length < 2^32)
    (hreg : ∀ j < vs.length, IsRegister s.mems.length s.nMem (data0 + j) ∧ (data0 + j).toNat ≠ p)
    (hin : ∀ j (hj : j < vs.length), ∃ c w, s.At (data0 + j).toNat c w ∧ Holds enc c w vs[j])
    (hfits : ∀ x ∈ vs, x.Fits) (ho : s.At p out v)
    (hsize : (record ff vs).length ≤ out.zMalloc.length)
    (hfill : Filled out.zMalloc (Varint.encode (headerSize (serialTypeBytes ff vs).length)) []
      (headerSize (serialTypeBytes ff vs).length)) :
    ∃ pass t, run (strictMachine ρ) (Prog.forRange data0 vs.length
          ⟨(Varint.encode (headerSize (serialTypeBytes ff vs).length)).length,
            headerSize (serialTypeBytes ff vs).length, vs.map (Value.field ff)⟩
          (recordWriteStep p)) s = .ok (pass, t) ∧
      Written enc ff data0 vs p out v s vs.length pass t := by
  have hhdr := (headerSize_record hlen).1
  have htotal : (record ff vs).length =
      headerSize (serialTypeBytes ff vs).length + (contentBytes ff vs).length := by
    rw [hhdr]; unfold record; simp only [List.length_append]
  have hstart : serialTypeBytes ff (vs.take 0) = [] ∧ contentBytes ff (vs.take 0) = [] :=
    ⟨rfl, rfl⟩
  -- The invariant: the header and the content of the first `k` values are in the buffer.
  refine run_forRange (Written enc ff data0 vs p out v s) ?_ ⟨?_, ?_, rfl, out.zMalloc, ?_, rfl, ?_⟩
  · intro k hk pass t h
    obtain ⟨hi, hcontent, hfields, z, rfl, hz, hfilled⟩ := h
    obtain ⟨c, w, hat, hholds⟩ := hin k hk
    obtain ⟨hle₁, hle₂⟩ := length_take_le ff hk
    have hidx := (hreg k hk).1.memIndex_eq
    have hidx' : Machine.memIndex (s.setMem p { out with zMalloc := z } v).mems.length
        (s.setMem p { out with zMalloc := z } v).nMem (data0 + k) = .ok (data0 + k).toNat := by
      rw [← hidx]
      exact congrArg (Machine.memIndex · _ _) (List.length_set ..)
    -- One turn writes a serial type and a content, where the first pass left room for them.
    obtain ⟨z', hrun, hfilled', hz'⟩ := run_recordWriteStep hidx' (hreg k hk).2
      (hat.setMem_ne (hreg k hk).2.symm _ _) hholds (hfits _ (List.getElem_mem hk)) (ho.setMem _ _)
      hfilled
      (show _ + (Varint.encode (vs[k].serialType ff)).length ≤ _ by rw [List.length_append]; omega)
      (by simp only [hz]; omega)
      ((vs.drop (k + 1)).map (Value.field ff))
    -- The turn finds its position and the field that the first pass has computed.
    have hpass : pass = ⟨(Varint.encode (headerSize (serialTypeBytes ff vs).length) ++
          serialTypeBytes ff (vs.take k)).length,
        headerSize (serialTypeBytes ff vs).length + (contentBytes ff (vs.take k)).length,
        vs[k].field ff :: (vs.drop (k + 1)).map (Value.field ff)⟩ := by
      obtain ⟨pi, pc, pf⟩ := pass
      simp only at hi hcontent hfields
      rw [hi, hcontent, hfields, List.drop_eq_getElem_cons hk, List.map_cons]
    refine ⟨_, _, by rw [hpass]; exact hrun, ?_, ?_, rfl, z', ?_, hz'.trans hz, ?_⟩
    · rw [take_succ_eq hk, serialTypeBytes_append, ← List.append_assoc]
      exact List.length_append.symm
    · show headerSize (serialTypeBytes ff vs).length + (contentBytes ff (vs.take k)).length +
        (vs[k].content ff).length = _
      rw [take_succ_eq hk, contentBytes_append, List.length_append, ← Nat.add_assoc]
    · rw [Strict.setMem_setMem]
    · rw [take_succ_eq hk, serialTypeBytes_append, contentBytes_append, ← List.append_assoc]
      exact hfilled'
  · rw [hstart.1, List.append_nil]
  · rw [hstart.2]; rfl
  · exact ho.setMem_self.symm
  · rw [hstart.1, hstart.2, List.append_nil]; exact hfill

end secondPass

/-! ## The record -/

/-- A value of a record that is not too long fits. -/
theorem fits_of_length_record {ff enc : ℕ} {cs : List Mem} (hval : ∀ c ∈ cs, c.IsValue enc)
    (hlen : (record ff (cs.map Mem.value)).length ≤ SQLITE_MAX_LENGTH) :
    ∀ c ∈ cs, c.value.Fits := by
  intro c hc
  refine (hval c hc).value_fits (le_trans (show (c.value.content ff).length ≤ _ from ?_) hlen)
  have hsub : (c.value.content ff).length ≤ (contentBytes ff (cs.map Mem.value)).length := by
    unfold contentBytes
    rw [List.length_flatMap]
    exact List.le_sum_of_mem (List.mem_map.mpr ⟨c.value, List.mem_map_of_mem hc, rfl⟩)
  unfold record
  simp only [List.length_append]
  omega

/-- The output register holds a record. -/
structure IsRecord (ff : ℕ) (vs : List Value) (c : Mem) : Prop where
  /-- It is a blob without implied zeros. -/
  flags : c.flags = MEM_Blob
  /-- Its length is that of the record. -/
  n : c.n = (record ff vs).length
  /-- Its bytes are those of the record. -/
  bytes : c.bytes = record ff vs

section makeRecord

variable {ρ : Type} {L : CLib ρ} {mallocFailed : ρ → Bool} {s : Strict ρ} {p : ℕ} {out : Mem}
  {v : Member} {enc ff : ℕ}

/-- The length of a record. -/
theorem length_record_eq {vs : List Value} (hlen : (record ff vs).length < 2^32) :
    (record ff vs).length =
      headerSize (serialTypeBytes ff vs).length + (contentBytes ff vs).length := by
  rw [(headerSize_record hlen).1]
  unfold record
  simp only [List.length_append]

/-- The second pass, into a buffer that is large enough, leaves the record. -/
theorem run_writeRecord {data0 : ℤ} {vs : List Value} (hlen : (record ff vs).length < 2^32)
    (hreg : ∀ j < vs.length, IsRegister s.mems.length s.nMem (data0 + j) ∧ (data0 + j).toNat ≠ p)
    (hin : ∀ j (hj : j < vs.length), ∃ c w, s.At (data0 + j).toNat c w ∧ Holds enc c w vs[j])
    (hfits : ∀ x ∈ vs, x.Fits) (ho : s.At p out v) (hown : out.z = .own)
    (hsize : (record ff vs).length ≤ out.zMalloc.length) {size : RecordSize}
    (hfields : size.fields = vs.map (Value.field ff))
    (hnHdr : size.nHdr = (serialTypeBytes ff vs).length)
    (hnData : size.nData = (contentBytes ff vs).length) (hnZero : size.nZero = 0) :
    ∃ c, run (strictMachine ρ) (writeRecord p data0 vs.length size) s =
        .ok (.done, s.setMem p c v) ∧ IsRecord ff vs c := by
  have htotal := length_record_eq hlen
  have hhdr := (headerSize_record hlen).1
  set nHdr := headerSize (serialTypeBytes ff vs).length with hn
  -- The header starts with its size.
  have hfit : 0 + (Varint.encode nHdr).length ≤ out.zMalloc.length := by omega
  have hrun₁ := run_putVarint32 ho hfit
  have hlen₁ := Filled.length_overwrite hfit
  have hfill₁ : Filled (overwrite 0 (Varint.encode nHdr) out.zMalloc) (Varint.encode nHdr) [] nHdr :=
    (Filled.start (by omega)).header (by rw [List.length_nil]; omega)
  have ho₁ := ho.setMem { out with zMalloc := overwrite 0 (Varint.encode nHdr) out.zMalloc } v
  -- The registers are written.
  obtain ⟨pass, t, hrun₂, hi, -, -, z, rfl, hz, hfill⟩ := run_secondPass hlen
    (fun j hj => ⟨((List.length_set ..).symm ▸ (hreg j hj).1 :), (hreg j hj).2⟩)
    (fun j hj => by
      obtain ⟨c, w, hat, hholds⟩ := hin j hj
      exact ⟨c, w, hat.setMem_ne (hreg j hj).2.symm _ _, hholds⟩)
    hfits ho₁ (by rw [hlen₁]; exact hsize) hfill₁
  rw [List.take_length] at hi hfill
  have hfull : (Varint.encode nHdr ++ serialTypeBytes ff vs).length = nHdr := by
    rw [List.length_append]; exact hhdr.symm
  have ho₂ := ho₁.setMem { out with zMalloc := z } v
  refine ⟨{ out with
    zMalloc := z, n := nHdr + size.nData, flags := MEM_Blob, xDel := false, enc := SQLITE_UTF8 }, ?_,
    rfl, ?_, ?_⟩
  · unfold writeRecord
    rw [hnHdr, hfields, ← hn, run_bind_ok hrun₁, run_bind_ok hrun₂,
      run_bind_ok (Strict.run_pyAssert _ (by rw [hi, hfull]; exact beq_self_eq_true _)),
      run_bind_ok (ho₂.run_poke _), run_bind_ok ((ho₂.setMem _ _).run_set_flags _)]
    simp only [Strict.setMem_setMem]
    rw [run_bind_ok ((ho.setMem _ _).run_poke _), hnZero]
    simp only [ne_eq, not_true_eq_false, ↓reduceIte, Strict.setMem_setMem]
    rw [run_bind_ok ((ho.setMem _ _).run_poke _), run_pure]
    simp only [Strict.setMem_setMem]
    rfl
  · rw [htotal, hnData, Nat.cast_add]
  · have hbytes := hfill.take hfull
    unfold Mem.bytes Mem.buffer
    dsimp only
    rw [hown]
    dsimp only
    rw [hnData, show ((nHdr : ℤ) + (contentBytes ff vs).length).toNat =
      nHdr + (contentBytes ff vs).length by omega, hbytes]
    rfl

/-- The output register holds the record of the values of the registers, if that is within the limit
and each zero blob comes after data. -/
theorem run_makeRecord (hL : L.Lawful mallocFailed) {data0 : ℤ} {cs : List Mem}
    (hreg : ∀ j < cs.length, IsRegister s.mems.length s.nMem (data0 + j) ∧ (data0 + j).toNat ≠ p)
    (hin : InputsAt enc ff data0 cs 0 s) (hval : ∀ c ∈ cs, c.IsValue enc)
    (hprec : AllPreceded ff cs cs.length)
    (ho : s.At p out v) (ha : out.szMalloc = out.zMalloc.length) {limit : ℤ}
    (hlimit : ((record ff (cs.map Mem.value)).length : ℤ) ≤ limit)
    (hmax : limit ≤ SQLITE_MAX_LENGTH) :
    ∃ t c, run (strictMachine ρ) (makeRecord L ff limit p data0 cs.length) s = .ok (.done, t) ∧
      t.mems[p]? = some c ∧ IsRecord ff (cs.map Mem.value) c := by
  have hlen : (record ff (cs.map Mem.value)).length ≤ SQLITE_MAX_LENGTH := by omega
  have hlen' : (record ff (cs.map Mem.value)).length < 2^32 := by
    unfold SQLITE_MAX_LENGTH at hlen; omega
  have hfits := fits_of_length_record hval hlen
  -- The first pass counts header and content, and finds the serial types.
  obtain ⟨size, t₁, hrun₁, hsized⟩ := run_firstPass hL (fun j hj => (hreg j hj).1) hin hval
    hfits
  have hnZero := hsized.nZero hprec
  have hnData := hsized.nData hprec
  obtain ⟨hfields, hnHdr, -, -, hin₁, hlen₁, hnMem₁, hothers⟩ := hsized
  rw [List.take_length] at hfields hnData hnHdr
  have htotal := length_record_eq hlen'
  have hnByte : (headerSize size.nHdr : ℤ) + size.nData =
      (record ff (cs.map Mem.value)).length := by
    rw [hnHdr, hnData, htotal, Nat.cast_add]
  -- The output register gets a buffer.
  have ho₁ : t₁.At p out (t₁.written p) :=
    ⟨(hothers p fun j hj => (hreg j hj).2.symm).trans ho.1, rfl⟩
  obtain ⟨out₂, r₂, hgrow, hg, -⟩ := Mem.sqlite3VdbeMemGrow_spec hL ha
    (headerSize size.nHdr + size.nData) false (by simp) t₁.rest
  have hrun₂ : run (strictMachine ρ) (sqlite3VdbeMemGrow L p (headerSize size.nHdr + size.nData)
    false) t₁ = _ := ho₁.run_c_mem hgrow
  set t₂ : Strict ρ := { t₁.setMem p out₂ .foreign with rest := r₂ } with ht₂
  have hlen₂ : t₂.mems.length = s.mems.length := (List.length_set ..).trans hlen₁
  have hvs : (cs.map Mem.value).length = cs.length := List.length_map _
  -- The second pass fills it, from inputs that the buffer's growth has left alone.
  obtain ⟨c, hrun₃, hrecord⟩ := run_writeRecord (s := t₂) (p := p) (v := .foreign) hlen'
    (fun j hj => by
      rw [hlen₂, show t₂.nMem = s.nMem from hnMem₁]
      exact hreg j (hvs ▸ hj))
    (fun j hj => by
      obtain ⟨c, w, hat, hann, hcell⟩ := hin₁ j (hvs ▸ hj)
      rw [if_pos (hvs ▸ hj)] at hcell
      refine ⟨c, w, hat.setMem_ne (hreg j (hvs ▸ hj)).2.symm out₂ .foreign, ?_⟩
      rw [List.getElem_map]
      exact ⟨hcell.1, hann, hcell.2.1, hcell.2.2.2 hprec⟩)
    (fun x hx => by
      obtain ⟨c, hc, rfl⟩ := List.mem_map.mp hx
      exact hfits c hc)
    (ho₁.setMem out₂ .foreign) hg.z
    (by
      have := hg.size
      rw [hg.alloc, hnByte] at this
      omega)
    hfields hnHdr hnData hnZero
  refine ⟨t₂.setMem p c .foreign, c, ?_,
    ((ho₁.setMem out₂ .foreign : t₂.At p _ _).setMem c .foreign).1, hrecord⟩
  unfold makeRecord
  rw [run_bind_ok hrun₁, if_neg (by omega), run_bind_ok hrun₂, if_neg (by simp), ← hvs]
  exact hrun₃

end makeRecord

end SQPyte
