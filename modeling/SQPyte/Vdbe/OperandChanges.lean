import SQPyte.Record.Encoding
import SQPyte.Vdbe.ValueComparison

/-!
# What a comparison does to an operand

A comparison converts its operands in place and stores their implied zeros, and afterwards puts the
flags back. A conversion leaves what the old flags announce: a text is not touched when it is read as
a number, and a number is still in the union when it is printed (`Converted`). So the old flags again
announce the old value (`Converted.undisturbed`). Implied zeros become bytes, if the allocator has
room for them; if not, the value is lost (`undisturbed_refused_iff`).
-/

namespace SQPyte

variable {ρ : Type} {L : CLib ρ} {mallocFailed : ρ → Bool} {enc affinity : ℕ} {c a e : Mem}
  {r r' : ρ}

/-- What a translation of a text leaves alone, whether or not memory lasts. -/
structure CLib.Translates (L : CLib ρ) : Prop where
  /-- The union is not touched. -/
  u : ∀ enc p r, (L.translate enc p r).1.u = p.u
  /-- No zeros come to be implied. -/
  zero : ∀ enc p r, p.flags.has MEM_Zero = false →
    (L.translate enc p r).1.flags.has MEM_Zero = false
  /-- The size of the allocation is recorded. -/
  alloc : ∀ enc p r, p.szMalloc = p.zMalloc.length →
    (L.translate enc p r).1.szMalloc = (L.translate enc p r).1.zMalloc.length

/-- Numbers that are printed are texts. -/
theorem CLib.translates_decimal : CLib.decimal.Translates :=
  ⟨fun _ _ _ => rfl, fun _ _ _ h => h, fun _ _ _ h => h⟩

/-- The value is the one before, and so are the flags, unless implied zeros have been stored. -/
structure Undisturbed (c g : Mem) : Prop where
  /-- The SQL value. -/
  value : g.value = c.value
  /-- The flags. -/
  flags : g.flags = c.flags ∨ c.flags.has MEM_Zero = true ∧ g.flags = c.flags &&& ~~~MEM_Zero
  /-- The text, also next to a number. -/
  text : c.flags.has MEM_Str = true → g.bytes = c.bytes ∧ g.n = c.n ∧ g.enc = c.enc

/-- A cell that was not touched. -/
theorem Undisturbed.refl (c : Mem) : Undisturbed c c := ⟨rfl, Or.inl rfl, fun _ => ⟨rfl, rfl, rfl⟩⟩

/-- No flag has changed by which a comparison takes its path. -/
theorem Undisturbed.has {g : Mem} (h : Undisturbed c g) :
    g.flags.has MEM_Null = c.flags.has MEM_Null ∧ g.flags.has MEM_Int = c.flags.has MEM_Int ∧
      g.flags.has MEM_Real = c.flags.has MEM_Real ∧
      g.flags.has MEM_Cleared = c.flags.has MEM_Cleared := by
  rcases h.flags with hf | ⟨-, hf⟩
  · rw [hf]
    exact ⟨rfl, rfl, rfl, rfl⟩
  · rw [hf]
    simp

/-! ## Conversion -/

/-- What conversions decided by `flags` make of a cell. -/
inductive Converted (flags : Flags) (c : Mem) : Mem → Prop
  /-- Nothing. -/
  | same : Converted flags c c
  /-- A text is read as a number. -/
  | numeric (ht : textOnly flags = true) (u : BitVec 64) (f : Flags)
      (hz : f.has MEM_Zero = c.flags.has MEM_Zero) : Converted flags c { c with u := u, flags := f }
  /-- A number is printed. -/
  | text {a : Mem} (hn : numberOnly flags = true) (hu : a.u = c.u)
      (hz : a.flags.has MEM_Zero = false) (ha : a.szMalloc = a.zMalloc.length) :
      Converted flags c a

/-- One conversion after the other. -/
theorem Converted.trans {flags : Flags} {a' : Mem} (h : Converted flags c a)
    (h' : Converted flags a a') : Converted flags c a' := by
  have hexcl : ¬ (textOnly flags = true ∧ numberOnly flags = true) := by
    rw [textOnly_iff, numberOnly_iff]
    rintro ⟨⟨hs, -⟩, hs', -⟩
    rw [hs] at hs'
    cases hs'
  cases h with
  | same => exact h'
  | numeric ht u f hz =>
    cases h' with
    | same => exact .numeric ht u f hz
    | numeric _ u' f' hz' => exact .numeric ht u' f' (hz'.trans hz)
    | text hn => exact absurd ⟨ht, hn⟩ hexcl
  | text hn hu hz ha =>
    cases h' with
    | same => exact .text hn hu hz ha
    | numeric ht => exact absurd ⟨ht, hn⟩ hexcl
    | text _ hu' hz' ha' => exact .text hn (hu'.trans hu) hz' ha'

/-- A numeric affinity sets the number and the flags at most. -/
theorem applyNumericAffinity_eq (L : CLib ρ) (c : Mem) : ∃ u f,
    c.applyNumericAffinity L false = { c with u := u, flags := f } ∧
      f.has MEM_Zero = c.flags.has MEM_Zero := by
  unfold Mem.applyNumericAffinity
  cases h : L.AtoF c.buffer c.n c.enc with
  | mk isNumber rValue =>
    cases isNumber with
    | false => exact ⟨c.u, c.flags, rfl, rfl⟩
    | true =>
      simp only [Bool.not_true, Bool.false_eq_true, ↓reduceIte]
      split_ifs
      · exact ⟨_, _, rfl, by simp⟩
      · exact ⟨_, _, rfl, by simp⟩

/-- Printing a number leaves it in the union, whether or not memory lasts. -/
theorem stringify_keeps (hS : L.Sized) (hT : L.Translates) (enc : ℕ)
    (ha : c.szMalloc = c.zMalloc.length) (hz : c.flags.has MEM_Zero = false) (r : ρ) :
    ∃ rc a r', c.sqlite3VdbeMemStringify L enc true r = .ok (rc, a, r') ∧ a.u = c.u ∧
      a.flags.has MEM_Zero = false ∧ a.szMalloc = a.zMalloc.length := by
  cases hs : c.served L 32 r with
  | true =>
    obtain ⟨q, r', heq, hq, -⟩ := Mem.sqlite3VdbeMemStringify_served hS enc ha hs
    have hqz : q.flags.has MEM_Zero = false := by
      obtain ⟨kept, hkept, hf⟩ := hq.flags
      rw [hf]
      rcases hkept with rfl | rfl <;> simp at hz ⊢
      exact hz
    refine ⟨SQLITE_OK, (q.sqlite3VdbeChangeEncoding L enc r').1,
      (q.sqlite3VdbeChangeEncoding L enc r').2, heq, ?_⟩
    unfold Mem.sqlite3VdbeChangeEncoding
    split_ifs
    · exact ⟨hq.u, hqz, hq.alloc⟩
    · exact ⟨(hT.u enc q r').trans hq.u, hT.zero enc q r' hqz, hT.alloc enc q r' hq.alloc⟩
  | false =>
    obtain ⟨r', heq⟩ := Mem.sqlite3VdbeMemStringify_refused enc hs
    exact ⟨_, _, _, heq, rfl, show MEM_Null.has MEM_Zero = false by decide, rfl⟩

/-- An operand that needs no conversion. -/
theorem c_convertOperand_none {flags : Flags} (h : converts affinity flags = false) (c : Mem)
    (r : ρ) : c_convertOperand L affinity enc flags c r = .ok (c, r) := by
  unfold converts at h
  unfold c_convertOperand
  by_cases hn : affinity ≥ SQLITE_AFF_NUMERIC
  · rw [if_pos hn] at h ⊢
    rw [h, if_neg Bool.false_ne_true]
  · rw [if_neg hn] at h ⊢
    by_cases ht : affinity = SQLITE_AFF_TEXT
    · rw [ht, beq_self_eq_true, Bool.true_and] at h
      rw [if_pos ht, h, if_neg Bool.false_ne_true]
    · rw [if_neg ht]

/-- The conversion of an operand always returns. -/
theorem convert_returns (hS : L.Sized) (hT : L.Translates) {flags : Flags} (affinity enc : ℕ)
    (ha : c.szMalloc = c.zMalloc.length)
    (hz : converts affinity flags = true → c.flags.has MEM_Zero = false) (r : ρ) :
    ∃ a r', c_convertOperand L affinity enc flags c r = .ok (a, r') ∧ Converted flags c a ∧
      a.szMalloc = a.zMalloc.length ∧ a.flags.has MEM_Zero = c.flags.has MEM_Zero := by
  cases hconv : converts affinity flags with
  | false => exact ⟨c, r, c_convertOperand_none hconv c r, .same, ha, rfl⟩
  | true =>
    have hz := hz hconv
    unfold converts at hconv
    unfold c_convertOperand
    by_cases hn : affinity ≥ SQLITE_AFF_NUMERIC
    · rw [if_pos hn] at hconv ⊢
      obtain ⟨u, f, heq, hf⟩ := applyNumericAffinity_eq L c
      refine ⟨_, r, rfl, ?_, ?_, ?_⟩ <;> rw [if_pos hconv, heq]
      · exact .numeric hconv u f hf
      · exact ha
      · exact hf
    · rw [if_neg hn] at hconv ⊢
      obtain ⟨ht, hnum⟩ := Bool.and_eq_true_iff.mp hconv
      rw [if_pos (beq_iff_eq.mp ht), if_pos hnum]
      obtain ⟨rc, a, r', heq, hu, haz, haa⟩ := stringify_keeps hS hT enc ha hz r
      refine ⟨a, r', by rw [heq]; rfl, .text hnum hu haz haa, haa, haz.trans hz.symm⟩

/-- The value of a number is its word. -/
theorem Mem.value_of_number {g : Mem} (hf : g.flags = c.flags) (hu : g.u = c.u)
    (hn : c.isNumber = true) : g.value = c.value := by
  unfold Mem.isNumber at hn
  unfold Mem.value Mem.u_i Mem.u_r
  rw [hf, hu]
  rw [Bool.or_eq_true] at hn
  split_ifs <;> first | rfl | (exfalso; tauto)

/-- With the old flags, a converted operand without implied zeros is what it was. -/
theorem Converted.undisturbed (h : Converted c.flags c a) (hz : c.flags.has MEM_Zero = false) :
    Undisturbed c { a with flags := c.flags } := by
  cases h with
  | same => exact Undisturbed.refl c
  | numeric ht u f _ =>
    obtain ⟨-, hi, hr⟩ := (textOnly_iff _).mp ht
    refine ⟨?_, Or.inl rfl, fun _ => ⟨rfl, rfl, rfl⟩⟩
    unfold Mem.value Mem.fullBytes
    simp only [hi, hr, hz, Bool.false_eq_true, ↓reduceIte]
    rfl
  | text hn hu _ _ =>
    obtain ⟨hs, hnum⟩ := (numberOnly_iff _).mp hn
    refine ⟨Mem.value_of_number rfl hu ?_, Or.inl rfl, fun h => by rw [hs] at h; cases h⟩
    unfold Mem.isNumber
    rw [Bool.or_eq_true]
    exact hnum

/-! ## Expansion -/

/-- The allocator has room for the implied zeros of an operand, if there are any. -/
def Mem.ZerosServed (L : CLib ρ) (c : Mem) (r : ρ) : Prop :=
  c.flags.has MEM_Zero = true → c.served L c.expandedSize r = true ∨ c.fullBytes = []

/-- An operand without implied zeros. -/
theorem c_expandOperand_none {flags : Flags} (h : flags.has MEM_Zero = false) (c : Mem) (r : ρ) :
    c_expandOperand L flags c r = .ok (c, r) := by
  unfold c_expandOperand
  rw [h, if_neg Bool.false_ne_true]

/-- A cell without implied zeros is not expanded, whatever the flags say that were read before. -/
theorem c_expandOperand_stored (flags : Flags) (h : c.flags.has MEM_Zero = false) (r : ρ) :
    c_expandOperand L flags c r = .ok (c, r) := by
  unfold c_expandOperand Mem.sqlite3VdbeMemExpandBlob
  rw [h, if_neg Bool.false_ne_true]
  split_ifs
  · rfl
  · rfl

/-- What is left in a cell to which an allocation was refused. -/
def Mem.refused (c : Mem) : Mem :=
  { c with flags := MEM_Null, z := .null, zMalloc := [], szMalloc := 0 }

/-- The expansion of a blob with implied zeros: they are stored, or the cell is NULL. -/
theorem expand_returns (hS : L.Sized) (hc : c.IsValue enc) (hz : c.flags.has MEM_Zero = true)
    (r : ρ) :
    ∃ e r', c_expandOperand L c.flags c r = .ok (e, r') ∧ e.flags.has MEM_Zero = false ∧
      (c.served L c.expandedSize r = true → Mem.Expanded c e) ∧
      (c.served L c.expandedSize r = false → e = c.refused) := by
  unfold c_expandOperand
  rw [if_pos hz]
  cases hs : c.served L c.expandedSize r with
  | true =>
    obtain ⟨e, r', heq, he, -⟩ := Mem.sqlite3VdbeMemExpandBlob_served hS hc hz hs
    refine ⟨e, r', by rw [heq]; rfl, ?_, fun _ => he, fun h => by cases h⟩
    rw [he.flags]
    simp
  | false =>
    obtain ⟨r', heq⟩ := Mem.sqlite3VdbeMemExpandBlob_refused hz hs
    refine ⟨c.refused, r', by rw [heq]; rfl, show MEM_Null.has MEM_Zero = false by decide, ?_,
      fun _ => rfl⟩
    simp

section zero

variable (hc : c.IsValue enc) (hz : c.flags.has MEM_Zero = true)
include hc hz

/-- A cell with implied zeros is a blob. -/
theorem isBlob_of_zero : c.flags.has MEM_Null = false ∧ c.flags.has MEM_Int = false ∧
    c.flags.has MEM_Real = false ∧ c.flags.has MEM_Str = false ∧ c.flags.has MEM_Blob = true := by
  obtain ⟨hblob, -⟩ := hc.zero hz
  obtain ⟨hi, hr, hs⟩ := hc.blob hblob
  refine ⟨?_, hi, hr, hs, hblob⟩
  by_contra hnull
  have := (hc.null (by simpa using hnull)).2.2.2
  rw [hblob] at this
  cases this

/-- A blob with implied zeros is not converted. -/
theorem converts_of_zero (affinity : ℕ) : converts affinity c.flags = false := by
  by_contra h
  rw [zero_of_converts affinity hc (by simpa using h)] at hz
  cases hz

/-- The value of a blob with implied zeros is a blob, with the flag or without it. -/
theorem value_of_zero {g : Mem} (hf : g.flags = c.flags &&& ~~~MEM_Zero) :
    g.value = .blob g.bytes ∧ c.value = .blob c.fullBytes := by
  obtain ⟨hn, hi, hr, hs, -⟩ := isBlob_of_zero hc hz
  constructor
  · unfold Mem.value Mem.fullBytes
    rw [hf]
    simp at hn hi hr hs
    simp [hn, hi, hr, hs]
  · unfold Mem.value
    rw [hn, hi, hr, hs]
    rfl

/-- With the old flags, an expanded blob is what it was. -/
theorem undisturbed_expanded (h : Mem.Expanded c e) :
    Undisturbed c { e with flags := c.flags &&& ~~~MEM_Zero } := by
  obtain ⟨hg, hv⟩ := value_of_zero hc hz (g := { e with flags := c.flags &&& ~~~MEM_Zero }) rfl
  refine ⟨?_, Or.inr ⟨hz, rfl⟩, fun hs => ?_⟩
  · rw [hg, hv]
    show Value.blob e.bytes = Value.blob (c.bytes ++ _)
    rw [h.bytes, if_pos hz]
  · rw [(isBlob_of_zero hc hz).2.2.2.1] at hs
    cases hs

/-- A blob to which the room for its zeros was refused is lost, unless it was empty. -/
theorem undisturbed_refused_iff :
    Undisturbed c { c.refused with flags := c.flags &&& ~~~MEM_Zero } ↔ c.fullBytes = [] := by
  obtain ⟨hg, hv⟩ := value_of_zero hc hz
    (g := { c.refused with flags := c.flags &&& ~~~MEM_Zero }) rfl
  have hempty : ({ c.refused with flags := c.flags &&& ~~~MEM_Zero } : Mem).bytes = [] :=
    List.take_nil
  rw [hempty] at hg
  constructor
  · intro h
    have hval := h.value
    rw [hg, hv] at hval
    exact (Value.blob.inj hval).symm
  · intro h
    refine ⟨by rw [hg, hv, h], Or.inr ⟨hz, rfl⟩, fun hs => ?_⟩
    rw [(isBlob_of_zero hc hz).2.2.2.1] at hs
    cases hs

end zero

/-! ## What is left -/

section left

variable {new : Flags} {r₂ r₃ : ρ}

/-- An operand without implied zeros is not expanded. -/
theorem expand_converted (hz : c.flags.has MEM_Zero = false)
    (hnew : new.has MEM_Zero = c.flags.has MEM_Zero)
    (hexp : c_expandOperand L new a r₂ = .ok (e, r₃)) :
    e = a ∧ r₃ = r₂ ∧ clearZero new c.flags = c.flags := by
  rw [hz] at hnew
  rw [c_expandOperand_none hnew] at hexp
  obtain ⟨rfl, rfl⟩ := Prod.mk.inj (Except.ok.inj hexp)
  exact ⟨rfl, rfl, if_neg (by rw [hnew]; exact Bool.false_ne_true)⟩

/-- A blob with implied zeros is expanded, if the allocator has room for them. -/
theorem expand_zero (hS : L.Sized) (hc : c.IsValue enc) (hz : c.flags.has MEM_Zero = true)
    (hnew : new.has MEM_Zero = c.flags.has MEM_Zero)
    (hexp : c_expandOperand L new c r₂ = .ok (e, r₃)) :
    e.flags.has MEM_Zero = false ∧ clearZero new c.flags = c.flags &&& ~~~MEM_Zero ∧
      (c.served L c.expandedSize r₂ = true → Mem.Expanded c e) ∧
      (c.served L c.expandedSize r₂ = false → e = c.refused) := by
  obtain ⟨e', r', heq, he⟩ := expand_returns (L := L) hS hc hz r₂
  rw [hz] at hnew
  have hsame : c_expandOperand L new c r₂ = c_expandOperand L c.flags c r₂ := by
    unfold c_expandOperand
    rw [hnew, hz]
  rw [hsame, heq] at hexp
  obtain ⟨rfl, -⟩ := Prod.mk.inj (Except.ok.inj hexp)
  exact ⟨he.1, if_pos hnew, he.2⟩

/-- The expansion of a converted operand always returns. -/
theorem expand_converted_returns (hS : L.Sized) (hc : c.IsValue enc)
    (ha : a.flags.has MEM_Zero = c.flags.has MEM_Zero)
    (hzero : c.flags.has MEM_Zero = true → a = c) (hnew : new.has MEM_Zero = c.flags.has MEM_Zero)
    (r₂ : ρ) :
    ∃ e r₃, c_expandOperand L new a r₂ = .ok (e, r₃) ∧ e.flags.has MEM_Zero = false := by
  cases hz : c.flags.has MEM_Zero with
  | false => exact ⟨a, r₂, c_expandOperand_none (hnew.trans hz) a r₂, ha.trans hz⟩
  | true =>
    obtain rfl := hzero hz
    obtain ⟨e, r₃, heq, he, -⟩ := expand_returns (L := L) hS hc hz r₂
    refine ⟨e, r₃, ?_, he⟩
    unfold c_expandOperand at heq ⊢
    rw [hnew]
    exact heq

/-- With the flags put back, a converted and expanded operand is what it was, exactly if the
allocator had room for its implied zeros. -/
theorem undisturbed_left_iff (hS : L.Sized) (hc : c.IsValue enc) (hconv : Converted c.flags c a)
    (hzero : c.flags.has MEM_Zero = true → a = c) (hnew : new.has MEM_Zero = c.flags.has MEM_Zero)
    (hexp : c_expandOperand L new a r₂ = .ok (e, r₃)) :
    Undisturbed c { e with flags := clearZero new c.flags } ↔ c.ZerosServed L r₂ := by
  unfold Mem.ZerosServed
  cases hz : c.flags.has MEM_Zero with
  | false =>
    obtain ⟨rfl, -, hf⟩ := expand_converted hz hnew hexp
    rw [hf]
    exact ⟨fun _ h => absurd h Bool.false_ne_true, fun _ => hconv.undisturbed hz⟩
  | true =>
    obtain rfl := hzero hz
    obtain ⟨-, hf, hyes, hno⟩ := expand_zero hS hc hz hnew hexp
    rw [hf]
    cases hs : a.served L a.expandedSize r₂ with
    | true => exact ⟨fun _ _ => Or.inl rfl, fun _ => undisturbed_expanded hc hz (hyes hs)⟩
    | false =>
      rw [hno hs, undisturbed_refused_iff hc hz]
      exact ⟨fun h _ => Or.inr h, fun h => (h rfl).resolve_left Bool.false_ne_true⟩

/-- A value stays one if the flags that tell it stay, and what they announce. -/
theorem isValue_of_bits {g : Mem} (hc : c.IsValue enc)
    (hbit : ∀ k, k ∈ [0, 1, 2, 3, 4, 5, 6, 7, 13] → g.flags.getLsbD k = c.flags.getLsbD k)
    (hz : g.flags.has MEM_Zero = false) (ha : g.szMalloc = g.zMalloc.length)
    (hu : c.flags.has MEM_Real = true → g.u = c.u)
    (hstored : (c.flags.has MEM_Str || c.flags.has MEM_Blob) = true →
      0 ≤ g.n ∧ g.n.toNat ≤ g.buffer.length ∧ g.enc = c.enc) : g.IsValue enc := by
  have h0 : g.flags.has MEM_Null = c.flags.has MEM_Null := by simpa using hbit 0 (by decide)
  have h1 : g.flags.has MEM_Str = c.flags.has MEM_Str := by simpa using hbit 1 (by decide)
  have h2 : g.flags.has MEM_Int = c.flags.has MEM_Int := by simpa using hbit 2 (by decide)
  have h3 : g.flags.has MEM_Real = c.flags.has MEM_Real := by simpa using hbit 3 (by decide)
  have h4 : g.flags.has MEM_Blob = c.flags.has MEM_Blob := by simpa using hbit 4 (by decide)
  have h5 : g.flags.has MEM_RowSet = c.flags.has MEM_RowSet := by simpa using hbit 5 (by decide)
  have h6 : g.flags.has MEM_Frame = c.flags.has MEM_Frame := by simpa using hbit 6 (by decide)
  have h7 : g.flags.has MEM_Undefined = c.flags.has MEM_Undefined := by
    simpa using hbit 7 (by decide)
  have h13 : g.flags.has MEM_Agg = c.flags.has MEM_Agg := by simpa using hbit 13 (by decide)
  constructor
  · rw [h0, h1, h2, h3, h4]; exact hc.null
  · rw [h0, h1, h2, h3, h4]; exact hc.nonempty
  · rw [h2, h3]; exact hc.int_real
  · rw [h1, h2, h3, h4]; exact hc.blob
  · rw [h3]
    intro hr
    unfold Mem.u_r
    rw [hu hr]
    exact hc.real hr
  · rw [h5, h6, h7, h13]; exact hc.plain
  · rw [hz]; simp
  · rw [h1, h4]
    exact fun h => ⟨(hstored h).1, (hstored h).2.1⟩
  · rw [h1]
    intro h
    rw [(hstored (by rw [h, Bool.true_or])).2.2]
    exact hc.enc_eq h
  · exact ha

/-- What is left is a value again, where the allocator had room. -/
theorem isValue_left (hS : L.Sized) (hc : c.IsValue enc) (hconv : Converted c.flags c a)
    (hzero : c.flags.has MEM_Zero = true → a = c) (hnew : new.has MEM_Zero = c.flags.has MEM_Zero)
    (hexp : c_expandOperand L new a r₂ = .ok (e, r₃))
    (hs : c.served L c.expandedSize r₂ = true) :
    ({ e with flags := clearZero new c.flags } : Mem).IsValue enc := by
  cases hz : c.flags.has MEM_Zero with
  | false =>
    obtain ⟨rfl, -, hf⟩ := expand_converted hz hnew hexp
    rw [hf]
    cases hconv with
    | same => exact hc
    | numeric ht u f _ =>
      obtain ⟨-, -, hr⟩ := (textOnly_iff _).mp ht
      refine isValue_of_bits hc (fun _ _ => rfl) hz hc.alloc (fun h => ?_) fun h => ?_
      · rw [hr] at h; cases h
      · exact ⟨(hc.stored h).1, (hc.stored h).2, rfl⟩
    | text hn hu _ ha =>
      obtain ⟨hstr, hnum⟩ := (numberOnly_iff _).mp hn
      refine isValue_of_bits hc (fun _ _ => rfl) hz ha (fun _ => hu) fun h => ?_
      -- A number is no blob.
      rw [hstr, Bool.false_or] at h
      have hblob := hc.blob h
      rw [hblob.1, hblob.2.1] at hnum
      simp at hnum
  | true =>
    obtain rfl := hzero hz
    obtain ⟨-, hf, hyes, -⟩ := expand_zero hS hc hz hnew hexp
    have he := hyes hs
    have hev := he.isValue hc hz
    rw [hf]
    refine isValue_of_bits hc (fun k hk => ?_) ?_ he.alloc (fun h => ?_) fun _ => ?_
    · simp only [List.mem_cons, List.not_mem_nil, or_false] at hk
      rcases hk with rfl | rfl | rfl | rfl | rfl | rfl | rfl | rfl | rfl <;> simp
    · simp
    · rw [(isBlob_of_zero hc hz).2.2.1] at h; cases h
    · have hblob : e.flags.has MEM_Blob = true := by
        rw [he.flags]
        simpa using (isBlob_of_zero hc hz).2.2.2.2
      have hst := hev.stored (by rw [hblob, Bool.or_true])
      exact ⟨hst.1, hst.2, he.enc⟩

end left

/-! ## A second time -/

/-- The comparison cannot tell the cells apart. -/
structure Alike (a b : Mem) : Prop where
  /-- The type. -/
  bits : b.flags.has MEM_Null = a.flags.has MEM_Null ∧ b.flags.has MEM_Str = a.flags.has MEM_Str ∧
    b.flags.has MEM_Int = a.flags.has MEM_Int ∧ b.flags.has MEM_Real = a.flags.has MEM_Real
  /-- The number. -/
  u : a.isNumber = true → b.u = a.u
  /-- The text or blob. -/
  stored : a.isNumber = false → b.n = a.n ∧ b.bytes = a.bytes
  /-- The encoding of the text. -/
  enc : a.isNumber = false → a.flags.has MEM_Str = true → b.enc = a.enc

/-- A cell is like itself. -/
theorem Alike.refl (a : Mem) : Alike a a :=
  ⟨⟨rfl, rfl, rfl, rfl⟩, fun _ => rfl, fun _ => ⟨rfl, rfl⟩, fun _ _ => rfl⟩

/-- A collation converts a text by what the text is. -/
def CollSeq.OfText (coll : CollSeq) : Prop :=
  ∀ a b : Mem, a.n = b.n → a.bytes = b.bytes → a.enc = b.enc → coll.convert a = coll.convert b

/-- A text is translated by what the text is. -/
structure CLib.Recodes (L : CLib ρ) : Prop where
  /-- The translated text. -/
  translate : ∀ enc p q r r', p.flags.has MEM_Str = true → q.flags.has MEM_Str = true →
    p.n = q.n → p.bytes = q.bytes → p.enc = q.enc →
      (L.translate enc p r).1.n = (L.translate enc q r').1.n ∧
      (L.translate enc p r).1.bytes = (L.translate enc q r').1.bytes ∧
      (L.translate enc p r).1.enc = (L.translate enc q r').1.enc

/-- The library translates nothing. -/
theorem CLib.recodes_decimal : CLib.decimal.Recodes :=
  ⟨fun _ _ _ _ _ _ _ hn hb he => ⟨hn, hb, he⟩⟩

/-- Cells that are alike compare alike. -/
theorem methodCompare_congr {coll : Option CollSeq} (hcoll : ∀ x ∈ coll, x.OfText)
    {a a' b b' : Mem} (ha : Alike a a') (hb : Alike b b') :
    methodCompare coll a' b' = methodCompare coll a b := by
  have hclass : ∀ {x y : Mem}, Alike x y → y.storageClass = x.storageClass := by
    intro x y h
    obtain ⟨h0, h1, h2, h3⟩ := h.bits
    unfold Mem.storageClass
    rw [h0, h1, h2, h3]
  -- Two alike cells share what a comparison reads of them: a number's value, another value's bytes.
  have hreal : ∀ {x y : Mem}, Alike x y → x.isNumber = true → y.asReal = x.asReal ∧
      y.u_i = x.u_i := by
    intro x y h hx
    unfold Mem.asReal Mem.u_r Mem.u_i
    rw [h.u hx, h.bits.2.2.2]
    exact ⟨rfl, rfl⟩
  have hnumber : ∀ {x : Mem}, x.storageClass = .number → x.isNumber = true := by
    intro x hx
    unfold Mem.isNumber
    rw [Bool.or_eq_true]
    exact (Mem.storageClass_eq_number.mp hx).2
  have htext : ∀ {x : Mem}, x.storageClass = .text → x.isNumber = false ∧
      x.flags.has MEM_Str = true := by
    intro x hx
    obtain ⟨-, hi, hr, hs⟩ := Mem.storageClass_eq_text.mp hx
    exact ⟨by unfold Mem.isNumber; rw [hi, hr]; rfl, hs⟩
  have hblob : ∀ {x : Mem}, x.storageClass = .blob → x.isNumber = false := by
    intro x hx
    obtain ⟨-, hi, hr, -⟩ := Mem.storageClass_eq_blob.mp hx
    unfold Mem.isNumber
    rw [hi, hr]
    rfl
  -- Texts without a collation and blobs are compared by their bytes.
  have hbytes : ∀ {x y z w : Mem}, Alike x z → Alike y w → x.isNumber = false →
      y.isNumber = false → sqlite3BlobCompare z w = sqlite3BlobCompare x y := by
    intro x y z w hx hy hxn hyn
    unfold sqlite3BlobCompare
    rw [(hx.stored hxn).1, (hx.stored hxn).2, (hy.stored hyn).1, (hy.stored hyn).2]
  unfold methodCompare classCompare
  rw [hclass ha, hclass hb]
  -- Operands of two classes compare by the classes alone.
  cases hca : a.storageClass with
  | null => cases hcb : b.storageClass <;> simp
  | number =>
    cases hcb : b.storageClass with
    | number =>
      have hra := hreal ha (hnumber hca)
      have hrb := hreal hb (hnumber hcb)
      simp only [reduceCtorEq, or_self, and_false, ↓reduceIte]
      unfold numberCompare
      rw [hra.1, hra.2, hrb.1, hrb.2, ha.bits.2.2.1, hb.bits.2.2.1]
    | null => simp
    | text => simp
    | blob => simp
  | text =>
    cases hcb : b.storageClass with
    | text =>
      obtain ⟨hna, hsa⟩ := htext hca
      obtain ⟨hnb, hsb⟩ := htext hcb
      simp only [reduceCtorEq, false_and, ↓reduceIte]
      unfold textCompare
      cases coll with
      | none => exact hbytes ha hb hna hnb
      | some coll =>
        show vdbeCompareMemString a' b' coll = vdbeCompareMemString a b coll
        unfold vdbeCompareMemString
        rw [ha.enc hna hsa, (ha.stored hna).2, (hb.stored hnb).2,
          hcoll coll rfl a' a (ha.stored hna).1 (ha.stored hna).2 (ha.enc hna hsa),
          hcoll coll rfl b' b (hb.stored hnb).1 (hb.stored hnb).2 (hb.enc hnb hsb)]
    | null => simp
    | number => simp
    | blob => simp
  | blob =>
    cases hcb : b.storageClass with
    | blob =>
      simp only [reduceCtorEq, false_and, ↓reduceIte]
      exact hbytes ha hb (hblob hca) (hblob hcb)
    | null => simp
    | number => simp
    | text => simp

/-- The cells are printed alike: they hold the same word, with the same type. -/
structure PrintedAlike (c d : Mem) : Prop where
  /-- The number. -/
  u : d.u = c.u
  /-- Its type. -/
  int : d.flags.has MEM_Int = c.flags.has MEM_Int
  /-- The size of the allocation is recorded. -/
  alloc : c.szMalloc = c.zMalloc.length ∧ d.szMalloc = d.zMalloc.length
  /-- No zeros are implied. -/
  zero : c.flags.has MEM_Zero = false ∧ d.flags.has MEM_Zero = false
  /-- Neither is NULL. -/
  null : c.flags.has MEM_Null = false ∧ d.flags.has MEM_Null = false

/-- While memory lasts, cells that are printed alike become texts that are alike. -/
theorem stringify_alike (hL : L.Lawful mallocFailed) (hT : L.Translates) (hR : L.Recodes)
    {d b : Mem} {s s' : ρ} {rc rc' : ℕ} (h : PrintedAlike c d)
    (ha : c.sqlite3VdbeMemStringify L enc true r = .ok (rc, a, r'))
    (hb : d.sqlite3VdbeMemStringify L enc true s = .ok (rc', b, s')) :
    Alike a b ∧ PrintedAlike a b ∧ a.u = c.u := by
  obtain ⟨p, r₁, hp, -, hpc⟩ := Mem.sqlite3VdbeMemStringify_eq hL enc h.alloc.1 r
  obtain ⟨q, s₁, hq, -, hqd⟩ := Mem.sqlite3VdbeMemStringify_eq hL enc h.alloc.2 s
  obtain ⟨a₁, ra, hra, haa, -, has, han, hai, har, haz⟩ :=
    Mem.sqlite3VdbeMemStringify_spec hL enc h.alloc.1 h.zero.1 h.null.1 r
  obtain ⟨b₁, sb, hsb, hba, -, hbs, hbn, hbi, hbr, hbz⟩ :=
    Mem.sqlite3VdbeMemStringify_spec hL enc h.alloc.2 h.zero.2 h.null.2 s
  -- Both print the same number.
  have htext : d.printed L = c.printed L := by
    unfold Mem.printed Mem.u_i Mem.u_r
    rw [h.u, h.int]
  have hpf : p.flags.has MEM_Str = true := by
    obtain ⟨kept, hkept, hf⟩ := hpc.flags
    rw [hf]
    rcases hkept with rfl | rfl <;> simp
  have hqf : q.flags.has MEM_Str = true := by
    obtain ⟨kept, hkept, hf⟩ := hqd.flags
    rw [hf]
    rcases hkept with rfl | rfl <;> simp
  have hn : p.n = q.n := by rw [hpc.n_eq, hqd.n_eq, htext]
  have hbytes : p.bytes = q.bytes := by rw [hpc.bytes, hqd.bytes, htext]
  have henc : p.enc = q.enc := hpc.enc.trans hqd.enc.symm
  -- All four descriptions are of the same two results.
  rw [hra] at ha hp
  rw [hsb] at hb hq
  obtain ⟨-, ha⟩ := Prod.mk.inj (Except.ok.inj ha)
  obtain ⟨-, hb⟩ := Prod.mk.inj (Except.ok.inj hb)
  obtain ⟨rfl, -⟩ := Prod.mk.inj ha
  obtain ⟨rfl, -⟩ := Prod.mk.inj hb
  have hp := (Prod.mk.inj (Except.ok.inj hp)).2
  have hq := (Prod.mk.inj (Except.ok.inj hq)).2
  -- The text is then translated to the database's encoding, alike in both.
  have hres : b₁.n = a₁.n ∧ b₁.bytes = a₁.bytes ∧ b₁.enc = a₁.enc ∧ a₁.u = p.u ∧ b₁.u = q.u := by
    have hp1 : a₁ = (p.sqlite3VdbeChangeEncoding L enc r₁).1 := by rw [← hp]
    have hq1 : b₁ = (q.sqlite3VdbeChangeEncoding L enc s₁).1 := by rw [← hq]
    rw [hp1, hq1]
    unfold Mem.sqlite3VdbeChangeEncoding
    rw [hpf, hqf, henc]
    split_ifs
    · exact ⟨hn.symm, hbytes.symm, henc.symm, rfl, rfl⟩
    · obtain ⟨h1, h2, h3⟩ := hR.translate enc p q r₁ s₁ hpf hqf hn hbytes henc
      exact ⟨h1.symm, h2.symm, h3.symm, hT.u enc p r₁, hT.u enc q s₁⟩
  have hau : a₁.u = c.u := hres.2.2.2.1.trans hpc.u
  have hbu : b₁.u = d.u := hres.2.2.2.2.trans hqd.u
  refine ⟨⟨⟨hbn.trans han.symm, hbs.trans has.symm, hbi.trans hai.symm, hbr.trans har.symm⟩,
    fun hnum => ?_, fun _ => ⟨hres.1, hres.2.1⟩, fun _ _ => hres.2.2.1⟩,
    ⟨hbu.trans (h.u.trans hau.symm), hbi.trans hai.symm, ⟨haa, hba⟩, ⟨haz, hbz⟩, han, hbn⟩, hau⟩
  unfold Mem.isNumber at hnum
  rw [hai, har] at hnum
  cases hnum

/-- When an operand is converted: a text to a number, or a number to a text. -/
theorem converts_iff {flags : Flags} : converts affinity flags = true ↔
    (affinity ≥ SQLITE_AFF_NUMERIC ∧ textOnly flags = true) ∨
      (¬ affinity ≥ SQLITE_AFF_NUMERIC ∧ affinity = SQLITE_AFF_TEXT ∧ numberOnly flags = true) := by
  unfold converts
  by_cases hn : affinity ≥ SQLITE_AFF_NUMERIC
  · simp [hn]
  · simp [hn]

/-- A text under a numeric affinity. -/
theorem c_convertOperand_numeric {flags : Flags} (hn : affinity ≥ SQLITE_AFF_NUMERIC)
    (ht : textOnly flags = true) (c : Mem) (r : ρ) :
    c_convertOperand L affinity enc flags c r = .ok (c.applyNumericAffinity L false, r) := by
  unfold c_convertOperand
  rw [if_pos hn, if_pos ht]

/-- A number under the affinity of texts. -/
theorem c_convertOperand_text {flags : Flags} (hn : ¬ affinity ≥ SQLITE_AFF_NUMERIC)
    (ht : affinity = SQLITE_AFF_TEXT) (hnum : numberOnly flags = true)
    (h : c_convertOperand L affinity enc flags c r = .ok (a, r')) :
    ∃ rc, c.sqlite3VdbeMemStringify L enc true r = .ok (rc, a, r') := by
  unfold c_convertOperand at h
  rw [if_neg hn, if_pos ht, if_pos hnum] at h
  cases hs : c.sqlite3VdbeMemStringify L enc true r with
  | error e => rw [hs] at h; cases h
  | ok x =>
    rw [hs] at h
    obtain ⟨rc, y⟩ := x
    exact ⟨rc, congrArg Except.ok (Prod.ext rfl (Except.ok.inj h))⟩

/-- A text is read as a number by what the text is. -/
theorem applyNumericAffinity_reads (L : CLib ρ) (c : Mem) :
    (∀ d : Mem, d.buffer = c.buffer → d.n = c.n → d.enc = c.enc →
      d.applyNumericAffinity L false = d) ∨
    ∃ u t, ∀ d : Mem, d.buffer = c.buffer → d.n = c.n → d.enc = c.enc →
      d.applyNumericAffinity L false = { d with u := u, flags := d.flags ||| t } := by
  cases h : L.AtoF c.buffer c.n c.enc with
  | mk isNumber rValue =>
    cases isNumber with
    | false =>
      refine Or.inl fun d hb hn he => ?_
      unfold Mem.applyNumericAffinity
      rw [hb, hn, he, h]
      rfl
    | true =>
      by_cases hi : (L.Atoi64 c.buffer c.n c.enc).1 = 0
      · refine Or.inr ⟨BitVec.ofInt 64 (L.Atoi64 c.buffer c.n c.enc).2, MEM_Int,
          fun d hb hn he => ?_⟩
        unfold Mem.applyNumericAffinity
        rw [hb, hn, he, h]
        exact if_pos hi
      · refine Or.inr ⟨rValue, MEM_Real, fun d hb hn he => ?_⟩
        unfold Mem.applyNumericAffinity
        rw [hb, hn, he, h]
        exact if_neg hi

/-- A text that has been read as a number is read as the same number. -/
theorem applyNumericAffinity_again (L : CLib ρ) (c : Mem) (f : Flags)
    (hf : f = c.flags ∨ f = (c.applyNumericAffinity L false).flags) :
    ({ c.applyNumericAffinity L false with flags := f } : Mem).applyNumericAffinity L false =
      c.applyNumericAffinity L false := by
  rcases applyNumericAffinity_reads L c with hsame | ⟨u, t, hread⟩
  · rw [hsame c rfl rfl rfl] at hf ⊢
    obtain rfl : f = c.flags := hf.elim id id
    exact hsame c rfl rfl rfl
  · rw [hread c rfl rfl rfl] at hf ⊢
    have hagain := hread { c with u := u, flags := f } rfl rfl rfl
    have hflags : f ||| t = c.flags ||| t := by
      rcases hf with rfl | rfl
      · rfl
      · exact (BitVec.or_assoc ..).trans (by rw [BitVec.or_self])
    rw [hflags] at hagain
    exact hagain

/-- An operand is converted, twice if `again`, and expanded to `e`; `g` is `e` with the flags put
back. `new` are the flags by which it is expanded, and `r₂` the state outside in which it is. -/
structure Prepares (L : CLib ρ) (affinity enc : ℕ) (again : Bool) (c e g : Mem) (r₂ : ρ) : Prop where
  /-- The steps. -/
  steps : ∃ a b new r r₁ s s₁ r₃, c_convertOperand L affinity enc c.flags c r = .ok (a, r₁) ∧
    (if again then c_convertOperand L affinity enc c.flags a s = .ok (b, s₁) else b = a) ∧
    new.has MEM_Zero = c.flags.has MEM_Zero ∧ c_expandOperand L new b r₂ = .ok (e, r₃) ∧
    g = { e with flags := clearZero new c.flags }

/-- What the conversions of a prepared operand have left. -/
theorem Prepares.converted (hS : L.Sized) (hT : L.Translates) {again : Bool} {g : Mem} {r₂ : ρ}
    (hc : c.IsValue enc) (h : Prepares L affinity enc again c e g r₂) :
    ∃ b new r₃, Converted c.flags c b ∧ (c.flags.has MEM_Zero = true → b = c) ∧
      new.has MEM_Zero = c.flags.has MEM_Zero ∧ c_expandOperand L new b r₂ = .ok (e, r₃) ∧
      g = { e with flags := clearZero new c.flags } := by
  obtain ⟨a, b, new, r, r₁, s, s₁, r₃, hconv, hagain, hnew, hexp, hg⟩ := h.steps
  obtain ⟨a', r', heq, hca, haa, haz⟩ := convert_returns (L := L) hS hT affinity enc hc.alloc
    (zero_of_converts affinity hc) r
  rw [heq] at hconv
  obtain ⟨rfl, -⟩ := Prod.mk.inj (Except.ok.inj hconv)
  have hnone : c.flags.has MEM_Zero = true → a' = c := fun hz => by
    rw [c_convertOperand_none (converts_of_zero hc hz affinity)] at heq
    exact (Prod.mk.inj (Except.ok.inj heq)).1.symm
  refine ⟨b, new, r₃, ?_, ?_, hnew, hexp, hg⟩
  · cases again with
    | false =>
      rw [if_neg Bool.false_ne_true] at hagain
      exact hagain ▸ hca
    | true =>
      rw [if_pos rfl] at hagain
      obtain ⟨b', s', hbeq, hcb, -⟩ := convert_returns (L := L) hS hT affinity enc haa
        (fun hcv => haz.trans (zero_of_converts affinity hc hcv)) s
      rw [hbeq] at hagain
      obtain ⟨rfl, -⟩ := Prod.mk.inj (Except.ok.inj hagain)
      exact hca.trans hcb
  · intro hz
    cases again with
    | false =>
      rw [if_neg Bool.false_ne_true] at hagain
      exact hagain.trans (hnone hz)
    | true =>
      rw [if_pos rfl, hnone hz, c_convertOperand_none (converts_of_zero hc hz affinity)] at hagain
      exact (Prod.mk.inj (Except.ok.inj hagain)).1.symm

/-- Whether it is converted depends on three flags. -/
theorem converts_congr {f g : Flags} (hs : f.has MEM_Str = g.has MEM_Str)
    (hi : f.has MEM_Int = g.has MEM_Int) (hr : f.has MEM_Real = g.has MEM_Real) :
    converts affinity f = converts affinity g := by
  rw [Bool.eq_iff_iff, converts_iff, converts_iff, textOnly_iff, textOnly_iff, numberOnly_iff,
    numberOnly_iff, hs, hi, hr]

/-- An operand that no conversion and no expansion changes. -/
theorem Prepares.unchanged {again : Bool} {g : Mem} {r₂ : ρ}
    (hconv : converts affinity c.flags = false) (hz : c.flags.has MEM_Zero = false)
    (h : Prepares L affinity enc again c e g r₂) : e = c ∧ g = c := by
  obtain ⟨a, b, new, r, r₁, s, s₁, r₃, hca, hagain, hnew, hexp, hg⟩ := h.steps
  rw [c_convertOperand_none hconv] at hca
  obtain ⟨rfl, -⟩ := Prod.mk.inj (Except.ok.inj hca)
  have hb : b = c := by
    cases again with
    | false => exact hagain
    | true =>
      rw [if_pos rfl, c_convertOperand_none hconv] at hagain
      exact (Prod.mk.inj (Except.ok.inj hagain)).1.symm
  obtain ⟨rfl, -, hf⟩ := expand_converted hz hnew hexp
  subst hb
  rw [hf] at hg
  exact ⟨rfl, hg⟩

/-- Prepared again as it has been left, an operand is alike. -/
theorem Prepares.again (hL : L.Lawful mallocFailed) (hT : L.Translates) (hR : L.Recodes)
    {again : Bool} {g e' g' : Mem} {r₂ s₂ : ρ} (hc : c.IsValue enc)
    (hnull : c.flags.has MEM_Null = false) (h : Prepares L affinity enc again c e g r₂)
    (h' : Prepares L affinity enc again g e' g' s₂) : Alike e e' := by
  have hS := hL.sized
  obtain ⟨b, new, r₃, hcb, hzero, hnew, hexp, hg⟩ := h.converted hS hT hc
  cases hz : c.flags.has MEM_Zero with
  | true =>
    -- A blob with implied zeros has been stored, and stays as it is.
    obtain rfl := hzero hz
    obtain ⟨-, hf, hyes, -⟩ := expand_zero hS hc hz hnew hexp
    have he := hyes (Mem.served_of_lawful hL _ _ _)
    obtain ⟨hn, hi, hr, hs, -⟩ := isBlob_of_zero hc hz
    rw [hf] at hg
    have hgf : g.flags = b.flags &&& ~~~MEM_Zero := by rw [hg]
    have hgz : g.flags.has MEM_Zero = false := by rw [hgf]; simp
    have hgconv : converts affinity g.flags = false := by
      rw [← converts_of_zero hc hz affinity]
      apply converts_congr <;> rw [hgf] <;> simp
    obtain ⟨rfl, -⟩ := h'.unchanged hgconv hgz
    have hbits : e.flags.has MEM_Null = b.flags.has MEM_Null ∧
        e.flags.has MEM_Str = b.flags.has MEM_Str ∧ e.flags.has MEM_Int = b.flags.has MEM_Int ∧
        e.flags.has MEM_Real = b.flags.has MEM_Real := by
      rw [he.flags]
      simp
    rw [hg]
    refine ⟨?_, fun _ => rfl, fun _ => ⟨rfl, rfl⟩, fun _ _ => rfl⟩
    rw [hbits.1, hbits.2.1, hbits.2.2.1, hbits.2.2.2]
    simp
  | false =>
    obtain ⟨rfl, -, hf⟩ := expand_converted hz hnew hexp
    rw [hf] at hg
    have hgf : g.flags = c.flags := by rw [hg]
    have hgz : g.flags.has MEM_Zero = false := by rw [hgf, hz]
    cases hconv : converts affinity c.flags with
    | false =>
      obtain ⟨rfl, rfl⟩ := h.unchanged hconv hz
      obtain ⟨rfl, -⟩ := h'.unchanged hconv hz
      exact Alike.refl _
    | true =>
      obtain ⟨a, b, new, r, r₁, s, s₁, r₃, ha, hagain, hnew, hexp, -⟩ := h.steps
      obtain ⟨a', b', new', r', r₁', s', s₁', r₃', ha', hagain', hnew', hexp', -⟩ := h'.steps
      obtain ⟨rfl, -, -⟩ := expand_converted hz hnew hexp
      obtain ⟨rfl, -, -⟩ := expand_converted hgz hnew' hexp'
      rw [hgf] at ha' hagain'
      rcases converts_iff.mp hconv with ⟨hn, ht⟩ | ⟨hn, ht, hnum⟩
      · -- The text is read as the same number.
        have hread : ∀ {x y : Mem} {t t₁ : ρ},
            c_convertOperand L affinity enc c.flags x t = .ok (y, t₁) →
              y = x.applyNumericAffinity L false := fun hx => by
          rw [c_convertOperand_numeric hn ht] at hx
          exact (Prod.mk.inj (Except.ok.inj hx)).1.symm
        have hsame : (c.applyNumericAffinity L false).applyNumericAffinity L false =
            c.applyNumericAffinity L false := applyNumericAffinity_again L c _ (Or.inr rfl)
        have hb : e = c.applyNumericAffinity L false := by
          cases again with
          | false => exact hagain.trans (hread ha)
          | true => rw [hread hagain, hread ha, hsame]
        have hga : g.applyNumericAffinity L false = c.applyNumericAffinity L false := by
          rw [hg, hb]
          exact applyNumericAffinity_again L c _ (Or.inl rfl)
        have hb' : e' = c.applyNumericAffinity L false := by
          cases again with
          | false => exact hagain'.trans ((hread ha').trans hga)
          | true => rw [hread hagain', hread ha', hga, hsame]
        rw [hb, hb']
        exact Alike.refl _
      · -- The number is printed as the same text.
        have hu : e.u = c.u ∧ e.szMalloc = e.zMalloc.length := by
          cases hcb with
          | same => exact ⟨rfl, hc.alloc⟩
          | numeric ht' =>
            rw [textOnly_iff] at ht'
            rw [numberOnly_iff, ht'.1] at hnum
            cases hnum.1
          | text _ hu _ halloc => exact ⟨hu, halloc⟩
        have hcg : PrintedAlike c g := by
          refine ⟨?_, by rw [hgf], ⟨hc.alloc, ?_⟩, ⟨hz, hgz⟩, ⟨hnull, by rw [hgf, hnull]⟩⟩
          · rw [hg]; exact hu.1
          · rw [hg]; exact hu.2
        obtain ⟨rc, hsa⟩ := c_convertOperand_text hn ht hnum ha
        obtain ⟨rc', hsa'⟩ := c_convertOperand_text hn ht hnum ha'
        obtain ⟨halike, hprinted, -⟩ := stringify_alike hL hT hR hcg hsa hsa'
        cases again with
        | false =>
          obtain rfl : e = a := hagain
          obtain rfl : e' = a' := hagain'
          exact halike
        | true =>
          obtain ⟨rcb, hsb⟩ := c_convertOperand_text hn ht hnum hagain
          obtain ⟨rcb', hsb'⟩ := c_convertOperand_text hn ht hnum hagain'
          exact (stringify_alike hL hT hR hprinted hsb hsb').1

end SQPyte
