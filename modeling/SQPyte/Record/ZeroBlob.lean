import SQPyte.Record.RoundTrip

/-!
# Records with implied zeros

A blob with implied zeros is to be recorded as if its zeros were stored. Zeros with data before them
are stored by the first pass. For zeros without data before them the code means to imply them at the
end of the record, but it keeps the full length for the second pass and counts the zeros twice.
`recordsZeroBlobs_iff` says that the record is right exactly if there are no such zeros: each zero
blob with zeros comes after a field that is not empty.
-/

namespace SQPyte

open Commands

variable {ρ : Type} {L : CLib ρ} {mallocFailed : ρ → Bool}

/-- What `OP_MakeRecord` is to do with implied zeros. -/
structure RecordsZeroBlobs (L : CLib ρ) (V : CVdbe ρ) (enc ff : ℕ) (limit : ℤ) (rc : ℕ) (op : Op)
    (m : Machine ρ) (cs : List Mem) : Prop where
  /-- With its implied zeros, the output register is the record of the expanded registers. -/
  result : ∃ mems rest c, execute (OP_MakeRecord L V enc ff limit rc op) m = .ok (rc, mems, rest) ∧
    mems[op.p3.toNat]? = some c ∧ c.fullBytes = record ff (cs.map Mem.value)
  /-- The lengths that the second pass copies are no more than the registers store. -/
  copies : ∃ size mems rest,
    execute (Prog.forRange op.p1 op.p2.toNat {} (recordSizeStep L ff)) m = .ok (size, mems, rest) ∧
    ∀ (j : ℕ) (c : Mem) (field : RecordField),
      mems[(op.p1 + j).toNat]? = some c → size.fields[j]? = some field →
      c.flags.has MEM_Null = false → c.flags.has (MEM_Int ||| MEM_Real) = false →
      (field.length : ℤ) ≤ c.n

/-- The first pass, through the cache. -/
theorem execute_firstPass (hL : L.Lawful mallocFailed) {enc ff : ℕ} {limit : ℤ} {m : Machine ρ}
    {op : Op} {cs : List Mem} (hs : m.Sound) (h : RecordInputs enc m op cs)
    (hlimit : WithinLimit ff limit cs) :
    ∃ size t s, execute (Prog.forRange op.p1 op.p2.toNat {} (recordSizeStep L ff)) m =
        .ok (size, t.mems, t.rest) ∧ Sized enc ff op.p1 cs s cs.length size t := by
  obtain ⟨written, hR, hann⟩ := hs
  have hlen : (record ff (cs.map Mem.value)).length ≤ SQLITE_MAX_LENGTH := by
    have := hlimit.1
    have := hlimit.2
    omega
  obtain ⟨size, t, hrun, hsized⟩ := run_firstPass (s := m.strict written) hL
    (fun j hj => (h.cells j hj).1) (h.inputsAt ff hann) h.values
    (fits_of_length_record h.values hlen)
  refine ⟨size, t, _, execute_of_strict hR ?_, hsized⟩
  rw [show op.p2.toNat = cs.length by rw [h.p2]; rfl]
  exact hrun

/-- The entry of register `j` after the first pass. -/
theorem Sized.getElem_fields {enc ff : ℕ} {data0 : ℤ} {cs : List Mem} {s t : Strict ρ}
    {size : RecordSize} (h : Sized enc ff data0 cs s cs.length size t) {j : ℕ} (hj : j < cs.length) :
    size.fields[j]? = some (cs[j].value.field ff) := by
  rw [h.fields, List.take_length, List.getElem?_map, List.getElem?_map,
    List.getElem?_eq_getElem hj]
  rfl

/-- If each zero blob comes after data, no more is copied than the registers store. -/
theorem copies_of_allPreceded {enc ff : ℕ} {data0 : ℤ} {cs : List Mem} {s t : Strict ρ}
    {size : RecordSize} (h : Sized enc ff data0 cs s cs.length size t)
    (hprec : AllPreceded ff cs cs.length) (j : ℕ) (c : Mem) (field : RecordField)
    (hc : t.mems[(data0 + j).toNat]? = some c) (hfield : size.fields[j]? = some field)
    (hn : c.flags.has MEM_Null = false) (hnum : c.flags.has (MEM_Int ||| MEM_Real) = false) :
    (field.length : ℤ) ≤ c.n := by
  have hj : j < cs.length := by
    have := (List.getElem?_eq_some_iff.mp hfield).1
    rw [h.fields, List.take_length, List.length_map, List.length_map] at this
    exact this
  rw [h.getElem_fields hj, Option.some.injEq] at hfield
  obtain ⟨c', w, hat, hann, hcell⟩ := h.inputs j hj
  obtain rfl := Option.some.inj (hat.1.symm.trans hc)
  rw [if_pos hj] at hcell
  obtain ⟨hval, hvalue, -, hexplicit⟩ := hcell
  rw [Flags.has_or_right, Bool.or_eq_false_iff] at hnum
  have hlen := hval.length_fullBytes hn hnum.1 hnum.2
  have hcontent : (c'.value.content ff).length = c'.fullBytes.length := by
    unfold Mem.value
    rw [hn, hnum.1, hnum.2]
    simp only [Bool.false_eq_true, ↓reduceIte]
    split_ifs <;> rfl
  rw [← hfield, ← hvalue]
  show ((c'.value.content ff).length : ℤ) ≤ c'.n
  rw [hcontent, hlen]
  split_ifs with hz
  · rw [hexplicit hprec hz, add_zero]
  · exact le_refl _

/-- Zeros without data before them are copied from where nothing is stored. -/
theorem not_copies_of_not_preceded {enc ff : ℕ} {data0 : ℤ} {cs : List Mem} {s t : Strict ρ}
    {size : RecordSize} (h : Sized enc ff data0 cs s cs.length size t)
    (hvals : ∀ c ∈ cs, c.IsValue enc) {k : ℕ} (hk : k < cs.length)
    (hz : cs[k].flags.has MEM_Zero = true) (hpos : 0 < cs[k].u_nZero)
    (hdata : (contentBytes ff ((cs.take k).map Mem.value)).length = 0) :
    ∃ c field, t.mems[(data0 + k).toNat]? = some c ∧ size.fields[k]? = some field ∧
      c.flags.has MEM_Null = false ∧ c.flags.has (MEM_Int ||| MEM_Real) = false ∧
      c.n < field.length := by
  have hlenZero : ∀ j (hj : j < cs.length), cs[j].flags.has MEM_Zero = true →
      cs[j].flags.has MEM_Null = false ∧ cs[j].flags.has (MEM_Int ||| MEM_Real) = false ∧
        ((cs[j].value.content ff).length : ℤ) = cs[j].n + cs[j].u_nZero ∧ 0 ≤ cs[j].n := by
    intro j hj hz
    have hval := hvals _ (List.getElem_mem hj)
    obtain ⟨hblob, -⟩ := hval.zero hz
    obtain ⟨hi, hr, -⟩ := hval.blob hblob
    have hn : cs[j].flags.has MEM_Null = false := by
      by_contra hn
      have := (hval.null (by simpa using hn)).2.2.2
      rw [hblob] at this
      exact absurd this (by simp)
    have hlen := hval.length_fullBytes hn hi hr
    rw [hz, if_pos rfl] at hlen
    refine ⟨hn, by rw [Flags.has_or_right, hi, hr]; rfl, ?_,
      (hval.stored (by rw [hblob, Bool.or_true])).1⟩
    rw [← hlen]
    unfold Mem.value
    rw [hn, hi, hr]
    simp only [Bool.false_eq_true, ↓reduceIte]
    split_ifs <;> rfl
  -- The registers before `k` have no content, so none of them is a blob with implied zeros.
  have hall : AllPreceded ff cs k := by
    intro j hj hjk hzj hposj
    obtain ⟨-, -, hlen, hnonneg⟩ := hlenZero j hj hzj
    have hle := (length_take_le ff (show j < ((cs.take k).map Mem.value).length by
      rw [List.length_map, List.length_take]; omega)).2
    rw [List.getElem_map, List.getElem_take, hdata] at hle
    omega
  obtain ⟨c, w, hat, -, hcell⟩ := h.inputs k hk
  rw [if_pos hk] at hcell
  obtain ⟨-, -, hkept, -⟩ := hcell
  obtain ⟨hn, hnum, hlen, -⟩ := hlenZero k hk hz
  rw [hkept hall hdata] at hat
  refine ⟨cs[k], _, hat.1, h.getElem_fields hk, hn, hnum, ?_⟩
  show cs[k].n < ((cs[k].value.content ff).length : ℤ)
  omega

/-- The record is right exactly if each blob with implied zeros comes after a field that is not
empty. -/
theorem recordsZeroBlobs_iff (hL : L.Lawful mallocFailed) (V : CVdbe ρ) (rc enc ff : ℕ) (limit : ℤ)
    (m : Machine ρ) (op : Op) (cs : List Mem) (hs : m.Sound) (h : RecordInputs enc m op cs)
    (hp4 : op.p4_z = []) (hlimit : WithinLimit ff limit cs) :
    RecordsZeroBlobs L V enc ff limit rc op m cs ↔
      ∀ k (hk : k < cs.length), cs[k].flags.has MEM_Zero = true → 0 < cs[k].u_nZero →
        ∃ j < k, ∃ hj : j < cs.length, (cs[j].value.content ff) ≠ [] := by
  have hdata : ∀ k, (contentBytes ff ((cs.take k).map Mem.value)).length ≠ 0 ↔
      ∃ j < k, ∃ hj : j < cs.length, (cs[j].value.content ff) ≠ [] := by
    intro k
    unfold contentBytes
    rw [ne_eq, List.length_eq_zero_iff, List.flatMap_eq_nil_iff]
    constructor
    · intro hne
      by_contra hno
      push Not at hno
      refine hne fun v hv => ?_
      obtain ⟨c, hc, rfl⟩ := List.mem_map.mp hv
      obtain ⟨j, hj, rfl⟩ := List.mem_take_iff_getElem.mp hc
      exact hno j (by omega) (by omega)
    · rintro ⟨j, hjk, hj, hne⟩ hall
      exact hne (hall _ (List.mem_map_of_mem (List.mem_take_iff_getElem.mpr ⟨j, by omega, rfl⟩)))
  obtain ⟨size, t, s, hpass, hsized⟩ := execute_firstPass (L := L) hL hs h hlimit
  constructor
  · rintro ⟨-, size', mems, rest, hpass', hcopies⟩ k hk hz hpos
    have hsame := hpass'.symm.trans hpass
    simp only [Except.ok.injEq, Prod.mk.injEq] at hsame
    obtain ⟨rfl, rfl, -⟩ := hsame
    refine (hdata k).mp fun hzero => ?_
    obtain ⟨c, field, hc, hfield, hn, hnum, hlt⟩ :=
      not_copies_of_not_preceded hsized h.values hk hz hpos hzero
    exact absurd (hcopies k c field hc hfield hn hnum) (by omega)
  · intro hcond
    have hprec : AllPreceded ff cs cs.length := by
      intro k hk _ hz hpos
      exact_mod_cast (hdata k).mpr (hcond k hk hz hpos)
    obtain ⟨mems, rest, c, hexec, hc, hrecord⟩ := execute_makeRecord hL V rc hs h hp4 hprec hlimit
    refine ⟨⟨mems, rest, c, hexec, hc, ?_⟩, size, t.mems, t.rest, hpass,
      copies_of_allPreceded hsized hprec⟩
    unfold Mem.fullBytes
    rw [hrecord.flags, hrecord.bytes]
    exact List.append_nil _

/-- A blob of `n` implied zeros, as `zeroblob(n)` makes it. -/
def Mem.ofZeroBlob (n : ℤ) : Mem :=
  ⟨MEM_Blob ||| MEM_Zero, Mem.nZeroWord 0 n, 0, .null, [], 0, SQLITE_UTF8, false⟩

/-- A blob of two zeros is a value. -/
theorem Mem.isValue_ofZeroBlob : (Mem.ofZeroBlob 2).IsValue SQLITE_UTF8 := by
  constructor <;> simp [ofZeroBlob, buffer, u_nZero, nZeroWord]

/-- A record of the integer `7` and a blob of two implied zeros. -/
theorem recordsZeroBlobs_after_integer :
    let cs := [Mem.ofInt 7, Mem.ofZeroBlob 2]
    RecordsZeroBlobs CLib.decimal CVdbe.never SQLITE_UTF8 4 1000 SQLITE_OK
      ⟨.MakeRecord, 0, 2, 2, .NOTUSED, 0⟩ (Machine.fresh (cs ++ [Mem.ofNull]) 2 ()) cs := by
  refine (recordsZeroBlobs_iff CLib.lawful_decimal CVdbe.never SQLITE_OK SQLITE_UTF8 4 1000
    (Machine.fresh ([Mem.ofInt 7, Mem.ofZeroBlob 2] ++ [Mem.ofNull]) 2 ())
    ⟨.MakeRecord, 0, 2, 2, .NOTUSED, 0⟩ [Mem.ofInt 7, Mem.ofZeroBlob 2]
    (Machine.Sound.fresh _ _ _)
    { p2 := rfl
      cells := by decide
      values := by
        intro c hc
        simp only [List.mem_cons, List.not_mem_nil, or_false] at hc
        rcases hc with rfl | rfl
        · exact Mem.isValue_ofInt 7
        · exact Mem.isValue_ofZeroBlob
      p3 := by decide
      p3_ne := by decide
      output := by
        intro c hc
        obtain rfl := Option.some.inj hc
        rfl } rfl (by constructor <;> decide +kernel)).mpr ?_
  intro k hk hz _
  match k, hk with
  | 0, _ => exact absurd (show (Mem.ofInt 7).flags.has MEM_Zero = true from hz) (by decide)
  | 1, _ => exact ⟨0, by decide, by decide, by decide⟩

/-- The record of a blob of two implied zeros alone is read from where nothing is stored. -/
theorem makeRecord_zeroblob :
    let cs := [Mem.ofZeroBlob 2]
    let op : Op := ⟨.MakeRecord, 0, 1, 1, .NOTUSED, 0⟩
    let m := Machine.fresh (cs ++ [Mem.ofNull]) 1 ()
    m.Sound ∧ RecordInputs SQLITE_UTF8 m op cs ∧ op.p4_z = [] ∧ WithinLimit 4 1000 cs ∧
      execute (OP_MakeRecord CLib.decimal CVdbe.never SQLITE_UTF8 4 1000 SQLITE_OK op) m =
        .error .memory ∧
      ¬ RecordsZeroBlobs CLib.decimal CVdbe.never SQLITE_UTF8 4 1000 SQLITE_OK op m cs := by
  have hrun : execute (OP_MakeRecord CLib.decimal CVdbe.never SQLITE_UTF8 4 1000 SQLITE_OK
      ⟨.MakeRecord, 0, 1, 1, .NOTUSED, 0⟩) (Machine.fresh [Mem.ofZeroBlob 2, Mem.ofNull] 1 ()) =
      .error .memory := rfl
  refine ⟨Machine.Sound.fresh _ _ _, ⟨rfl, by decide, ?_, by decide, by decide, ?_⟩, rfl,
    by constructor <;> decide +kernel, hrun, ?_⟩
  · intro c hc
    obtain rfl := List.mem_singleton.mp hc
    exact Mem.isValue_ofZeroBlob
  · intro c hc
    obtain rfl := Option.some.inj hc
    rfl
  · rintro ⟨⟨mems, rest, c, hexec, -⟩, -⟩
    have := hrun.symm.trans hexec
    simp at this

end SQPyte
