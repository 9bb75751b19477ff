import SQPyte.Vdbe.TableRuns

/-!
# Records that are stored and read column by column

What `OP_MakeRecord` leaves in its register is stored as a row, and `OP_Column` takes single columns
out of it. The reader accepts headers of at most `MAX_HEADER` bytes. A record of at most
`SQLITE_MAX_COLUMN` values has a shorter one, since a serial type takes no more than five bytes, so
the row is what `Row.IsRecordOf` says of the values. With the runs of `Vdbe/TableRuns` each
column is then read as the value of the register that it was made of, and a column that the record
lacks as its default.
-/

namespace SQPyte

open Commands

/-- The number of columns that a table can have. -/
def SQLITE_MAX_COLUMN : ℕ := 2000

section header

variable {ff : ℕ} {vs : List Value}

/-- A serial type takes five bytes at most. -/
theorem length_serialTypeBytes_le (h : ∀ v ∈ vs, v.Fits) :
    (serialTypeBytes ff vs).length ≤ 5 * vs.length := by
  induction vs with
  | nil => exact Nat.zero_le _
  | cons v vs ih =>
    have htail := ih fun u hu => h u (List.mem_cons_of_mem v hu)
    have hlt : v.serialType ff < 2^32 := serialType_lt (h v List.mem_cons_self)
    have hhead : (Varint.encode (v.serialType ff)).length ≤ 5 := by
      rw [Varint.length_encode (by omega)]
      apply (Varint.size_le_iff (by decide)).mpr
      omega
    calc (serialTypeBytes ff (v :: vs)).length
        = (Varint.encode (v.serialType ff)).length + (serialTypeBytes ff vs).length := by
          unfold serialTypeBytes
          rw [List.flatMap_cons, List.length_append]
      _ ≤ 5 + 5 * vs.length := Nat.add_le_add hhead htail
      _ = 5 * (v :: vs).length := by
          rw [List.length_cons]
          omega

/-- The header of a record that is not too wide is accepted. -/
theorem headerSize_le_MAX_HEADER (h : ∀ v ∈ vs, v.Fits) (hn : vs.length ≤ SQLITE_MAX_COLUMN)
    (hlen : (record ff vs).length < 2^32) :
    headerSize (serialTypeBytes ff vs).length ≤ MAX_HEADER := by
  obtain ⟨heq, hlt⟩ := headerSize_record hlen
  have htypes : (serialTypeBytes ff vs).length ≤ 5 * vs.length := length_serialTypeBytes_le h
  have hsize : (Varint.encode (headerSize (serialTypeBytes ff vs).length)).length ≤ 5 := by
    rw [Varint.length_encode (by omega)]
    apply (Varint.size_le_iff (by decide)).mpr
    omega
  unfold SQLITE_MAX_COLUMN at hn
  unfold MAX_HEADER
  omega

/-- A row that holds the record of some values. -/
theorem Row.isRecordOf_record {r : Row} (hr : r.payload = record ff vs) (h : ∀ v ∈ vs, v.Fits)
    (hn : vs.length ≤ SQLITE_MAX_COLUMN) : r.IsRecordOf vs := by
  have hlen : (record ff vs).length < 2^32 := hr ▸ r.length_lt
  refine ⟨hr ▸ recordOf_record h hlen, ?_⟩
  have hstart := Row.headerStart_eq (hr ▸ getVarint32_record hlen)
  have hsz : r.szHdr = headerSize (serialTypeBytes ff vs).length := congrArg Prod.fst hstart
  rw [hsz]
  exact headerSize_le_MAX_HEADER h hn hlen

end header

/-- A state that some run reaches, and in which the opcode reads a column. -/
structure ReadsNext {β κ : Type} (B : RowBtree β κ) (L : CLib κ) (stand : β → κ → Stand) (enc : ℕ)
    (limit : ℤ) (s : CursorState β κ) (op : Op) (p4 : Option Mem) (payloadSize64 : List Byte) :
    Prop where
  /-- The cursors are those of tables. -/
  isTable : B.IsTable L stand
  /-- Blocks of memory have the size that is asked for. -/
  sized : L.Sized
  /-- Neither the b-tree nor the allocator fails. -/
  reliable : B.Reliable L
  /-- The state is reached. -/
  reached : ∃ s₀ es, s₀.WellFormed B stand ∧
    Runs.Each (CursorState.step L B enc limit) (fun s e => e.Allowed stand enc s) es s₀ ∧
    Runs.after (CursorState.step L B enc limit) es s₀ = some s
  /-- The program has not ended. -/
  running : s.running = true
  /-- The cursor has the column. -/
  allowed : (CursorEvent.Column op p4 payloadSize64).Allowed stand enc s
  /-- `P3` is a register. -/
  p3 : op.p3.toNat < s.aMem.length

/-- A row is read as some values: column by column, and the default where the row has no more
values. -/
def ReadAs (enc : ℕ) (limit : ℤ) (bytes : List Byte) (vs : List Value) : Prop :=
  ∀ (β κ : Type) (B : RowBtree β κ) (L : CLib κ) (stand : β → κ → Stand) (s : CursorState β κ)
    (op : Op) (p4 : Option Mem) (payloadSize64 : List Byte),
    ReadsNext B L stand enc limit s op p4 payloadSize64 →
    ∀ x p k, s.sight stand op.p1.toNat = some x → x.place.arrive x.rows = some p →
      p.null = false → p.spot = .on k → (x.entry k).payload = bytes →
      ∃ s' c, CursorState.step L B enc limit s (.Column op p4 payloadSize64) = some s' ∧
        s'.running = true ∧ s'.aMem[op.p3.toNat]? = some c ∧ ColumnIs enc p4 vs[op.p2.toNat]? c

/-- The record of some values is read as these values. -/
theorem readAs_record {ff enc : ℕ} {limit : ℤ} {vs : List Value} (h : ∀ v ∈ vs, v.Fits)
    (hn : vs.length ≤ SQLITE_MAX_COLUMN) (hlimit : ((record ff vs).length : ℤ) ≤ limit) :
    ReadAs enc limit (record ff vs) vs := by
  intro β κ B L stand s op p4 payloadSize64 hnext x p k hx harrive hnull hspot hpayload
  have hcolumn := (Row.isRecordOf_record hpayload h hn).column_eq op.p2.toNat
  have hread : x.Readable limit op.p2.toNat := by
    refine ⟨p, harrive, fun k' _ hspot' => ?_⟩
    obtain rfl : k = k' := Spot.on.inj (hspot.symm.trans hspot')
    rw [hpayload, hcolumn]
    exact ⟨hlimit, Option.some_ne_none _⟩
  obtain ⟨s₀, es, hs₀, hes, hreached⟩ := hnext.reached
  have hs := (wellFormed_of_each hnext.isTable hnext.sized hs₀ hes).after hreached hnext.running
  obtain ⟨s', hstep, hrun⟩ := hs.column_step hnext.isTable hnext.sized hnext.reliable hnext.running
    hnext.allowed hnext.p3 hx hread
  have hfollows := (hs.step hnext.isTable hnext.sized hnext.allowed hstep hrun).2
  obtain ⟨y, x', hy, -, p', c, harrive', -, hregister, -, hvalue⟩ := hfollows.does _ rfl
  obtain rfl : x = y := Option.some.inj (hx.symm.trans hy)
  obtain rfl : p = p' := Option.some.inj (harrive.symm.trans harrive')
  have hget : s'.aMem[op.p3.toNat]? = some c := by
    rw [hregister, List.getElem?_set_self hnext.p3]
  refine ⟨s', c, hstep, hrun, hget, ?_⟩
  rcases hvalue with ⟨hnull', -⟩ | ⟨k', v, -, hspot', -, hv, hc⟩
  · rw [hnull] at hnull'
    cases hnull'
  · obtain rfl : k = k' := Spot.on.inj (hspot.symm.trans hspot')
    rw [hcolumn] at hv
    exact Option.some.inj hv ▸ hc

section stored

variable {ρ : Type} {L : CLib ρ} {mallocFailed : ρ → Bool}

/-- The record that `OP_MakeRecord` makes of some registers is read, wherever it is stored as a row,
as the values of the registers, whatever was read of the row before. -/
theorem makeRecord_readAs (hL : L.Lawful mallocFailed) (V : CVdbe ρ) (rc : ℕ) {enc ff : ℕ}
    {limit : ℤ} {m : Machine ρ} {op : Op} {cs : List Mem} (h : EncodesInputs enc ff limit m op cs)
    (hn : cs.length ≤ SQLITE_MAX_COLUMN) :
    ∃ mems rest c, execute (OP_MakeRecord L V enc ff limit rc op) m = .ok (rc, mems, rest) ∧
      mems[op.p3.toNat]? = some c ∧ ReadAs enc limit c.bytes (cs.map Mem.value) := by
  obtain ⟨hfits, -, mems, rest, c, hexec, hc, hrecord⟩ := h.execute hL V rc
  refine ⟨mems, rest, c, hexec, hc, ?_⟩
  rw [hrecord.bytes]
  exact readAs_record hfits (by rwa [List.length_map]) h.within.1

end stored

/-- Registers of an integer, NULL and a text, and the output. -/
def threeInputs : List Mem := [Mem.ofInt 7, Mem.ofNull, Mem.ofText [97, 98]]

/-- A record can be made of them. -/
theorem encodesInputs_three : EncodesInputs SQLITE_UTF8 4 1000
    (Machine.fresh (threeInputs ++ [Mem.ofNull]) 3 ()) ⟨.MakeRecord, 0, 3, 3, .NOTUSED, 0⟩
    threeInputs where
  p2 := rfl
  cells := by decide
  values c hc := by
    have hcases : c = Mem.ofInt 7 ∨ c = Mem.ofNull ∨ c = Mem.ofText [97, 98] := by
      simpa [threeInputs] using hc
    rcases hcases with rfl | rfl | rfl
    · exact Mem.isValue_ofInt 7
    · exact Mem.isValue_ofNull
    · exact Mem.isValue_ofText _
  p3 := by decide
  p3_ne := by decide
  output c hc := by
    obtain rfl := Option.some.inj hc
    rfl
  sound := Machine.Sound.fresh _ _ _
  p4 := rfl
  zero := by decide
  within := by constructor <;> decide +kernel

/-- The record of three registers is stored in the rows of `inserted`, and the columns are read with
5 as the default of a fourth one. -/
theorem makeRecord_readAs_three : ∃ mems rest c,
    execute (OP_MakeRecord CLib.decimal CVdbe.never SQLITE_UTF8 4 1000 SQLITE_OK
      ⟨.MakeRecord, 0, 3, 3, .NOTUSED, 0⟩) (Machine.fresh (threeInputs ++ [Mem.ofNull]) 3 ()) =
        .ok (SQLITE_OK, mems, rest) ∧ mems[3]? = some c ∧
    ∀ i < 4, ∃ s' d, CursorState.step (CLib.decimalOver MemoryTable) MemoryTable.btree SQLITE_UTF8
        1000 inserted (.Column (cursorOp .Column 0 (i : ℕ) 0) (some (Mem.ofInt 5)) []) = some s' ∧
      s'.running = true ∧ s'.aMem[0]? = some d ∧
      ColumnIs SQLITE_UTF8 (some (Mem.ofInt 5)) [.int 7, .null, .text [97, 98]][i]? d := by
  obtain ⟨mems, rest, c, hexec, hc, hread⟩ := makeRecord_readAs CLib.lawful_decimal CVdbe.never
    SQLITE_OK encodesInputs_three (by decide)
  refine ⟨mems, rest, c, hexec, hc, fun i hi => ?_⟩
  have hbytes : (threeColumns 7).payload = c.bytes := by
    obtain ⟨-, -, mems', rest', c', hexec', hc', hrecord⟩ :=
      encodesInputs_three.execute CLib.lawful_decimal CVdbe.never SQLITE_OK
    obtain ⟨rfl, -⟩ := Prod.mk.inj (Prod.mk.inj (Except.ok.inj (hexec.symm.trans hexec'))).2
    rw [Option.some.inj (hc.symm.trans hc'), hrecord.bytes]
    decide +kernel
  have hrun : Runs.Each (CursorState.step (CLib.decimalOver MemoryTable) MemoryTable.btree
      SQLITE_UTF8 1000) (fun s e => e.Allowed MemoryTable.stand SQLITE_UTF8 s) inserting
      twoCursors :=
    each_allowed_of_heeds (by decide +kernel)
  have hp5 : (cursorOp .Column 0 0 0).p5_has (OPFLAG_LENGTHARG ||| OPFLAG_TYPEOFARG) = false := by
    decide
  have hdefault : DefaultOk SQLITE_UTF8 (some (Mem.ofInt 5)) := by
    intro d hd
    obtain rfl := Option.some.inj hd
    exact ⟨Mem.isValue_ofInt 5, by decide⟩
  apply hread TableCursor MemoryTable MemoryTable.btree (CLib.decimalOver MemoryTable)
    MemoryTable.stand inserted (cursorOp .Column 0 i 0) (some (Mem.ofInt 5)) [] _ _
    ⟨.on 1, false, none⟩ 1 rfl (by decide +kernel) rfl rfl hbytes
  refine ⟨MemoryTable.btree_isTable, decimalOver_sized MemoryTable, btree_reliable,
    ⟨twoCursors, _, twoCursors_wellFormed, hrun, rfl⟩, rfl, ⟨hp5, hdefault, fun pC hpC => ?_⟩,
    Nat.succ_pos _⟩
  obtain rfl := Option.some.inj hpC
  exact hi

end SQPyte
