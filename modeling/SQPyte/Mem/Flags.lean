import Mathlib.Data.Nat.Notation
import Mathlib.Tactic.Common

/-!
# The type flags of a memory cell

`Mem.flags` is a 16-bit word. Its low nine bits say which representations the cell holds, the
others how its text or blob is stored. The masks are those of `vdbeInt.h`.

Tests of a flag word are written with `Flags.has`. The simp set of this module brings every test to
the bits of the word: a single-bit mask to its bit (`has_MEM_Null` and the others), a union of masks
to a disjunction (`has_or_right`), and the words the code builds with `&`, `|` and `~` to the bits
of their parts.
-/

namespace SQPyte

/-- The `u16 flags` of a `Mem`. -/
abbrev Flags := BitVec 16

/-- Value is NULL. -/
@[simp] def MEM_Null : Flags := 0x0001#16
/-- Value is a string. -/
@[simp] def MEM_Str : Flags := 0x0002#16
/-- Value is an integer. -/
@[simp] def MEM_Int : Flags := 0x0004#16
/-- Value is a real number. -/
@[simp] def MEM_Real : Flags := 0x0008#16
/-- Value is a BLOB. -/
@[simp] def MEM_Blob : Flags := 0x0010#16
/-- Mask of affinity bits. -/
@[simp] def MEM_AffMask : Flags := 0x001f#16
/-- Value is a RowSet object. -/
@[simp] def MEM_RowSet : Flags := 0x0020#16
/-- Value is a VdbeFrame object. -/
@[simp] def MEM_Frame : Flags := 0x0040#16
/-- Value is undefined. -/
@[simp] def MEM_Undefined : Flags := 0x0080#16
/-- NULL set by OP_Null, not from data. -/
@[simp] def MEM_Cleared : Flags := 0x0100#16
/-- Mask of type bits. -/
@[simp] def MEM_TypeMask : Flags := 0x01ff#16
/-- String rep is nul terminated. -/
@[simp] def MEM_Term : Flags := 0x0200#16
/-- Need to call xDel() on the text or blob. -/
@[simp] def MEM_Dyn : Flags := 0x0400#16
/-- Text or blob points to a static string. -/
@[simp] def MEM_Static : Flags := 0x0800#16
/-- Text or blob points to an ephemeral string. -/
@[simp] def MEM_Ephem : Flags := 0x1000#16
/-- `z` points to an aggregate function context. -/
@[simp] def MEM_Agg : Flags := 0x2000#16
/-- `u.nZero` zero bytes are implied at the end of the blob. -/
@[simp] def MEM_Zero : Flags := 0x4000#16

/-- Some bit of the mask `m` is set: the truth value of `flags & m` in the code. -/
def Flags.has (f m : Flags) : Bool := f &&& m != 0#16

namespace Flags

/-- The word with one bit set tests that bit. -/
theorem has_twoPow (f : Flags) (k : ℕ) (hk : k < 16) :
    f.has (BitVec.twoPow 16 k) = f.getLsbD k := by
  unfold has
  rw [BitVec.and_twoPow]
  cases f.getLsbD k with
  | false => simp
  | true =>
    simp only [↓reduceIte, bne_iff_ne, ne_eq]
    intro h
    have := congrArg (fun b => b.getLsbD k) h
    simp [hk] at this

/-- A test against a union of masks is the disjunction of the tests. -/
theorem has_or_right (f m m' : Flags) : f.has (m ||| m') = (f.has m || f.has m') := by
  unfold has
  rw [Bool.eq_iff_iff]
  simp only [bne_iff_ne, ne_eq, Bool.or_eq_true]
  have : f &&& (m ||| m') = 0#16 ↔ f &&& m = 0#16 ∧ f &&& m' = 0#16 := by
    rw [← BitVec.or_eq_zero_iff]
    constructor
    · intro h; rw [← h]; ext i; simp; grind
    · intro h; rw [← h]; ext i; simp; grind
  tauto

/-- A test of a union of words is the disjunction of the tests. -/
theorem has_or_left (f g m : Flags) : Flags.has (f ||| g) m = (f.has m || g.has m) := by
  have hcomm : ∀ a b : Flags, a.has b = b.has a := fun a b => by unfold has; rw [BitVec.and_comm]
  rw [hcomm, has_or_right, hcomm m f, hcomm m g]

/-- A bit common to two words is set in both. -/
theorem has_and_twoPow (f g : Flags) (k : ℕ) (hk : k < 16) :
    Flags.has (f &&& g) (BitVec.twoPow 16 k) =
      (f.has (BitVec.twoPow 16 k) && g.has (BitVec.twoPow 16 k)) := by
  simp only [has_twoPow _ k hk, BitVec.getLsbD_and]

/-- The bit of `MEM_Null`. -/
@[simp] theorem has_MEM_Null (f : Flags) : f.has 0x0001#16 = f.getLsbD 0 :=
  has_twoPow f 0 (by decide)

/-- The bit of `MEM_Str`. -/
@[simp] theorem has_MEM_Str (f : Flags) : f.has 0x0002#16 = f.getLsbD 1 :=
  has_twoPow f 1 (by decide)

/-- The bit of `MEM_Int`. -/
@[simp] theorem has_MEM_Int (f : Flags) : f.has 0x0004#16 = f.getLsbD 2 :=
  has_twoPow f 2 (by decide)

/-- The bit of `MEM_Real`. -/
@[simp] theorem has_MEM_Real (f : Flags) : f.has 0x0008#16 = f.getLsbD 3 :=
  has_twoPow f 3 (by decide)

/-- The bit of `MEM_Blob`. -/
@[simp] theorem has_MEM_Blob (f : Flags) : f.has 0x0010#16 = f.getLsbD 4 :=
  has_twoPow f 4 (by decide)

/-- The bit of `MEM_RowSet`. -/
@[simp] theorem has_MEM_RowSet (f : Flags) : f.has 0x0020#16 = f.getLsbD 5 :=
  has_twoPow f 5 (by decide)

/-- The bit of `MEM_Frame`. -/
@[simp] theorem has_MEM_Frame (f : Flags) : f.has 0x0040#16 = f.getLsbD 6 :=
  has_twoPow f 6 (by decide)

/-- The bit of `MEM_Undefined`. -/
@[simp] theorem has_MEM_Undefined (f : Flags) : f.has 0x0080#16 = f.getLsbD 7 :=
  has_twoPow f 7 (by decide)

/-- The bit of `MEM_Cleared`. -/
@[simp] theorem has_MEM_Cleared (f : Flags) : f.has 0x0100#16 = f.getLsbD 8 :=
  has_twoPow f 8 (by decide)

/-- The bit of `MEM_Dyn`. -/
@[simp] theorem has_MEM_Dyn (f : Flags) : f.has 0x0400#16 = f.getLsbD 10 :=
  has_twoPow f 10 (by decide)

/-- The bit of `MEM_Static`. -/
@[simp] theorem has_MEM_Static (f : Flags) : f.has 0x0800#16 = f.getLsbD 11 :=
  has_twoPow f 11 (by decide)

/-- The bit of `MEM_Ephem`. -/
@[simp] theorem has_MEM_Ephem (f : Flags) : f.has 0x1000#16 = f.getLsbD 12 :=
  has_twoPow f 12 (by decide)

/-- The bit of `MEM_Agg`. -/
@[simp] theorem has_MEM_Agg (f : Flags) : f.has 0x2000#16 = f.getLsbD 13 :=
  has_twoPow f 13 (by decide)

/-- The bit of `MEM_Zero`. -/
@[simp] theorem has_MEM_Zero (f : Flags) : f.has 0x4000#16 = f.getLsbD 14 :=
  has_twoPow f 14 (by decide)

/-- `flags & (MEM_Int|MEM_Real)`. -/
@[simp] theorem has_MEM_Int_Real (f : Flags) :
    f.has 0x000c#16 = (f.getLsbD 2 || f.getLsbD 3) := by
  rw [show (0x000c#16 : Flags) = 0x0004#16 ||| 0x0008#16 from rfl, has_or_right, has_MEM_Int,
    has_MEM_Real]

/-- `flags & (MEM_Str|MEM_Blob)`. -/
@[simp] theorem has_MEM_Str_Blob (f : Flags) :
    f.has 0x0012#16 = (f.getLsbD 1 || f.getLsbD 4) := by
  rw [show (0x0012#16 : Flags) = 0x0002#16 ||| 0x0010#16 from rfl, has_or_right, has_MEM_Str,
    has_MEM_Blob]

/-- `flags & (MEM_Agg|MEM_Dyn|MEM_RowSet|MEM_Frame)`. -/
@[simp] theorem has_dynamic (f : Flags) :
    f.has 0x2460#16 = (f.getLsbD 5 || f.getLsbD 6 || f.getLsbD 10 || f.getLsbD 13) := by
  rw [show (0x2460#16 : Flags) = 0x0020#16 ||| 0x0040#16 ||| 0x0400#16 ||| 0x2000#16 from rfl,
    has_or_right, has_or_right, has_or_right, has_MEM_RowSet, has_MEM_Frame, has_MEM_Dyn,
    has_MEM_Agg]

end Flags

/-- The test of `VdbeMemDynamic`: the cell owns something outside its own buffer. -/
def VdbeMemDynamic (f : Flags) : Bool := f.has (MEM_Agg ||| MEM_Dyn ||| MEM_RowSet ||| MEM_Frame)

/-- The word `MemSetTypeFlag` writes: the type bits and `MEM_Zero` replaced by `f`. -/
def withTypeFlag (old f : Flags) : Flags := (old &&& ~~~(MEM_TypeMask ||| MEM_Zero)) ||| f

/-- Of two type flags set one after the other, the second is left. -/
theorem withTypeFlag_withTypeFlag (old : Flags) {f : Flags} (g : Flags)
    (hf : f &&& ~~~(MEM_TypeMask ||| MEM_Zero) = 0#16) :
    withTypeFlag (withTypeFlag old f) g = withTypeFlag old g := by
  unfold withTypeFlag
  rw [BitVec.and_or_distrib_right, hf, BitVec.and_assoc, BitVec.and_self, BitVec.or_zero]

/-- The bits of a dynamic cell. -/
@[simp] theorem VdbeMemDynamic_eq (f : Flags) :
    VdbeMemDynamic f = (f.getLsbD 5 || f.getLsbD 6 || f.getLsbD 10 || f.getLsbD 13) := by
  unfold VdbeMemDynamic
  rw [show (MEM_Agg ||| MEM_Dyn ||| MEM_RowSet ||| MEM_Frame : Flags) = 0x2460#16 from rfl]
  exact Flags.has_dynamic f

end SQPyte
