import SQPyte.Record.Encoding

/-!
# Records are read back

`OP_MakeRecord` without an affinity string leaves the `record` of its inputs in the output register
(`execute_makeRecord`), and with it the code of `vdbeaux.c` gets the values back. So two lists of
values with the same record are the same, whatever the file formats they were written for.
-/

namespace SQPyte

open Commands

variable {ρ : Type} {L : CLib ρ} {mallocFailed : ρ → Bool}

/-- The registers of `OP_MakeRecord`: the `P2` cells `cs` from `P1` on hold values, and `P3` is
another register. -/
structure RecordInputs (enc : ℕ) (m : Machine ρ) (op : Op) (cs : List Mem) : Prop where
  /-- There are `P2` cells. -/
  p2 : op.p2 = cs.length
  /-- The cells are the registers from `P1` on. -/
  cells : ∀ j (hj : j < cs.length), IsRegister m.mems.length m.nMem (op.p1 + j) ∧
    m.mems[(op.p1 + j).toNat]? = some cs[j]
  /-- They hold values. -/
  values : ∀ c ∈ cs, c.IsValue enc
  /-- `P3` is a register. -/
  p3 : IsRegister m.mems.length m.nMem op.p3
  /-- It is none of the inputs. -/
  p3_ne : ∀ j < cs.length, op.p3 ≠ op.p1 + j
  /-- The size of its allocation is recorded. -/
  output : ∀ c, m.mems[op.p3.toNat]? = some c → c.szMalloc = c.zMalloc.length

/-- The record of the cells is within a limit the database can have. -/
def WithinLimit (ff : ℕ) (limit : ℤ) (cs : List Mem) : Prop :=
  ((record ff (cs.map Mem.value)).length : ℤ) ≤ limit ∧ limit ≤ SQLITE_MAX_LENGTH

/-- The cells are the inputs of the first pass. -/
theorem RecordInputs.inputsAt {enc : ℕ} (ff : ℕ) {m : Machine ρ} {op : Op} {cs : List Mem}
    (h : RecordInputs enc m op cs) {written : ℕ → Member}
    (hann : ∀ i pMem, m.mems[i]? = some pMem → Announces pMem (written i)) :
    InputsAt enc ff op.p1 cs 0 (m.strict written) := by
  intro j hj
  obtain ⟨hreg, hcell⟩ := h.cells j hj
  refine ⟨cs[j], written (op.p1 + j).toNat, ⟨hcell, rfl⟩, hann _ _ hcell, ?_⟩
  rw [if_neg (Nat.not_lt_zero j)]

/-- Without an affinity string, and if each zero blob comes after data, the record of the values is
left in the output register. -/
theorem execute_makeRecord (hL : L.Lawful mallocFailed) (V : CVdbe ρ) (rc : ℕ) {enc ff : ℕ}
    {limit : ℤ} {m : Machine ρ} {op : Op} {cs : List Mem} (hs : m.Sound)
    (h : RecordInputs enc m op cs) (hp4 : op.p4_z = [])
    (hprec : AllPreceded ff cs cs.length)
    (hlimit : WithinLimit ff limit cs) :
    ∃ mems rest c, execute (OP_MakeRecord L V enc ff limit rc op) m = .ok (rc, mems, rest) ∧
      mems[op.p3.toNat]? = some c ∧ IsRecord ff (cs.map Mem.value) c := by
  obtain ⟨written, hR, hann⟩ := hs
  obtain ⟨out, hout⟩ : ∃ out, m.mems[op.p3.toNat]? = some out :=
    ⟨_, List.getElem?_eq_getElem h.p3.lt⟩
  have hp2 : op.p2.toNat = cs.length := by rw [h.p2]; rfl
  have hne : ∀ j < cs.length, (op.p1 + j).toNat ≠ op.p3.toNat := by
    intro j hj heq
    have h1 := (h.cells j hj).1.1
    have h3 := h.p3.1
    exact h.p3_ne j hj (by omega)
  obtain ⟨t, c, hrun, hc, hrecord⟩ := run_makeRecord (s := m.strict written) hL
    (fun j hj => ⟨(h.cells j hj).1, hne j hj⟩) (h.inputsAt ff hann) h.values hprec ⟨hout, rfl⟩
    (h.output out hout) hlimit.1 hlimit.2
  refine ⟨t.mems, t.rest, c, execute_of_strict hR ?_, hc, hrecord⟩
  unfold OP_MakeRecord recordAffinity
  rw [hp4, show (op.mem_of_p3 : MemM ρ ℕ) = mem_with_index op.p3 from rfl,
    run_bind_ok (Strict.run_mem_with_index _ h.p3.memIndex_eq)]
  dsimp only
  rw [pure_bind, hp2, run_bind_ok hrun]
  rfl

/-- `OP_MakeRecord` on values without implied zeros and without an affinity string. -/
structure EncodesInputs (enc ff : ℕ) (limit : ℤ) (m : Machine ρ) (op : Op) (cs : List Mem) :
    Prop extends RecordInputs enc m op cs where
  /-- The cache is sound. -/
  sound : m.Sound
  /-- There is no affinity string. -/
  p4 : op.p4_z = []
  /-- No zeros are implied. -/
  zero : ∀ c ∈ cs, c.flags.has MEM_Zero = false
  /-- The record is within the limit. -/
  within : WithinLimit ff limit cs

/-- The bytes are a record that `vdbeaux.c` reads as the values `vs`. -/
structure RecordOf (bs : List Byte) (vs : List Value) : Prop where
  /-- Reading gives the values. -/
  decode : decodeRecord bs = some vs
  /-- The first varint is the size of the header, itself included, and with the lengths of the fields
  it adds up to the length of the record. -/
  header : ∃ szHdr rest types, getVarint32 bs = some (szHdr, rest) ∧
    serialTypes ((bs.take szHdr).drop (bs.length - rest.length)) = some types ∧
    szHdr = bs.length - rest.length + (types.map fun t => (Varint.encode t).length).sum ∧
    bs.length = szHdr + (types.map sqlite3VdbeSerialTypeLen).sum

/-- The record of some values is read as these values. -/
theorem recordOf_record {ff : ℕ} {vs : List Value} (hfits : ∀ v ∈ vs, v.Fits)
    (hlen : (record ff vs).length < 2^32) : RecordOf (record ff vs) vs := by
  obtain ⟨hskip, htypes⟩ := serialTypes_record hfits hlen
  refine ⟨decodeRecord_record hfits hlen, _, _, _, getVarint32_record hlen, htypes, ?_, ?_⟩
  · rw [hskip, List.map_map]
    have hsum : (serialTypeBytes ff vs).length =
        (vs.map ((fun t => (Varint.encode t).length) ∘ Value.serialType ff)).sum := by
      unfold serialTypeBytes
      rw [List.length_flatMap]
      rfl
    rw [← hsum]
    exact (headerSize_record hlen).1
  · rw [List.map_map]
    exact length_record hlen

/-- Without implied zeros the record is left in the output register. -/
theorem EncodesInputs.execute (hL : L.Lawful mallocFailed) (V : CVdbe ρ) (rc : ℕ) {enc ff : ℕ}
    {limit : ℤ} {m : Machine ρ} {op : Op} {cs : List Mem} (h : EncodesInputs enc ff limit m op cs) :
    (∀ v ∈ cs.map Mem.value, v.Fits) ∧ (record ff (cs.map Mem.value)).length < 2^32 ∧
      ∃ mems rest c, execute (OP_MakeRecord L V enc ff limit rc op) m = .ok (rc, mems, rest) ∧
        mems[op.p3.toNat]? = some c ∧ IsRecord ff (cs.map Mem.value) c := by
  obtain ⟨hle, hmax⟩ := h.within
  have hlen : (record ff (cs.map Mem.value)).length ≤ SQLITE_MAX_LENGTH := by omega
  refine ⟨?_, ?_, execute_makeRecord hL V rc h.sound h.toRecordInputs h.p4 ?_ h.within⟩
  · intro v hv
    obtain ⟨c, hc, rfl⟩ := List.mem_map.mp hv
    exact fits_of_length_record h.values hlen c hc
  · unfold SQLITE_MAX_LENGTH at hlen; omega
  · intro k hk _ hz
    rw [h.zero _ (List.getElem_mem hk)] at hz
    exact absurd hz Bool.false_ne_true

/-- The record `OP_MakeRecord` leaves is read back as the values of the registers, its header counts
itself, and no other list of values has the same record, in any file format. -/
theorem makeRecord_roundTrip (hL : L.Lawful mallocFailed) (V : CVdbe ρ) (rc enc ff : ℕ)
    (limit : ℤ) (m : Machine ρ) (op : Op) (cs : List Mem)
    (h : EncodesInputs enc ff limit m op cs) :
    ∃ mems rest c, execute (OP_MakeRecord L V enc ff limit rc op) m = .ok (rc, mems, rest) ∧
      mems[op.p3.toNat]? = some c ∧ c.flags = MEM_Blob ∧ c.n = c.bytes.length ∧
      RecordOf c.bytes (cs.map Mem.value) ∧
      ∀ ff' limit' m' op' cs', EncodesInputs enc ff' limit' m' op' cs' →
        ∀ mems' rest' c', execute (OP_MakeRecord L V enc ff' limit' rc op') m' =
            .ok (rc, mems', rest') → mems'[op'.p3.toNat]? = some c' → c'.bytes = c.bytes →
          cs'.map Mem.value = cs.map Mem.value := by
  obtain ⟨hfits, hlen, mems, rest, c, hexec, hc, hrecord⟩ := h.execute hL V rc
  refine ⟨mems, rest, c, hexec, hc, hrecord.flags, by rw [hrecord.n, hrecord.bytes], ?_, ?_⟩
  · rw [hrecord.bytes]; exact recordOf_record hfits hlen
  · intro ff' limit' m' op' cs' h' mems' rest' c' hexec' hc' heq
    obtain ⟨hfits', hlen', mems₁, rest₁, c₁, hexec₁, hc₁, hrecord₁⟩ := h'.execute hL V rc
    have hsame := hexec'.symm.trans hexec₁
    simp only [Except.ok.injEq, Prod.mk.injEq, true_and] at hsame
    obtain ⟨rfl, rfl⟩ := hsame
    obtain rfl := Option.some.inj (hc'.symm.trans hc₁)
    rw [hrecord.bytes, hrecord₁.bytes] at heq
    have hdec := decodeRecord_record hfits' hlen'
    rw [heq, decodeRecord_record hfits hlen, Option.some.injEq] at hdec
    exact hdec.symm

/-- The record of `300`, `'ab'` and `NULL`. -/
theorem makeRecord_roundTrip_three :
    let cs := [Mem.ofInt 300, Mem.ofText [97, 98], Mem.ofNull]
    let op : Op := ⟨.MakeRecord, 0, 3, 3, .NOTUSED, 0⟩
    ∃ mems rest c, execute (OP_MakeRecord CLib.decimal CVdbe.never SQLITE_UTF8 4 1000 SQLITE_OK op)
        (Machine.fresh (cs ++ [Mem.ofNull]) 3 ()) = .ok (SQLITE_OK, mems, rest) ∧
      mems[3]? = some c ∧
      decodeRecord c.bytes = some [.int 300, .text [97, 98], .null] := by
  obtain ⟨mems, rest, c, hrun, hc, -, -, hrecord, -⟩ := makeRecord_roundTrip CLib.lawful_decimal
    CVdbe.never SQLITE_OK SQLITE_UTF8 4 1000
    (Machine.fresh [Mem.ofInt 300, Mem.ofText [97, 98], Mem.ofNull, Mem.ofNull] 3 ())
    ⟨.MakeRecord, 0, 3, 3, .NOTUSED, 0⟩ [Mem.ofInt 300, Mem.ofText [97, 98], Mem.ofNull]
    { p2 := rfl
      cells := by decide
      values := by
        intro c hc
        simp only [List.mem_cons, List.not_mem_nil, or_false] at hc
        rcases hc with rfl | rfl | rfl
        · exact Mem.isValue_ofInt 300
        · exact Mem.isValue_ofText _
        · exact Mem.isValue_ofNull
      p3 := by decide
      p3_ne := by decide
      output := by
        intro c hc
        obtain rfl := Option.some.inj hc
        rfl
      sound := Machine.Sound.fresh _ _ _
      p4 := rfl
      zero := by decide
      within := by constructor <;> decide +kernel }
  exact ⟨mems, rest, c, hrun, hc, hrecord.decode⟩

end SQPyte
