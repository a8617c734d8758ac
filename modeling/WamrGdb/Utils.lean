import WamrGdb.Target

/-!
# Bit fields and heap-unit header accessors

`utils.py` extracts bit fields with `get_bits(val, size, offset)`, which masks `val` with
`((1 << size) - 1) << offset` and shifts the result back down. Python's `&` and `>>` act on an
infinite two's complement, and `getBits_eq` shows that the mask-and-shift is
`val / 2^offset mod 2^size` for every integer, negative ones included; `getBits_exact` adds that
the field is unsigned and below `2^size`, and that `get_bit` is the bit itself.
`getBits_of_fieldHolds` reads a field back: a word whose bits from `offset` on spell `v` yields `v`.

The heap-unit accessors decode the allocator header with these. The size and usage-type fields
read their own bits (`hmuGetSize_of_fieldHolds`, `hmuGetUt_of_fieldHolds`). The pin and mark
accessors pass the bit offset to `get_bit` in place of the header word, so they decode a constant
of `constants` and never the header: `hmuGetPinuse_hmuGetVoMarked_ignore_header` sets the pin bit
and the mark bit of a word and finds both flags unchanged.
-/

set_option autoImplicit false
set_option relaxedAutoImplicit false

namespace WamrGdb

/-! ### `get_bits` and `get_bit` -/

/-- `get_bits(val, size, offset)`. -/
def getBits (val : ℤ) (size offset : ℕ) : ℤ :=
  Int.land val (((1 <<< (size : ℤ)) - 1) <<< (offset : ℤ)) >>> offset

/-- `get_bit(val, offset)`. -/
def getBit (val : ℤ) (offset : ℕ) : ℤ :=
  getBits val 1 offset

/-- The mask of `get_bits` is the natural number `(2^size - 1) << offset`. -/
theorem getBits_mask (size offset : ℕ) :
    (((1 : ℤ) <<< (size : ℤ)) - 1) <<< (offset : ℤ) = (((2 ^ size - 1) <<< offset : ℕ) : ℤ) := by
  rw [Int.one_shiftLeft, ← Int.shiftLeft_coe_nat]
  have : 1 ≤ 2 ^ size := Nat.one_le_two_pow
  congr 1
  omega

/-- On a natural number `get_bits` is the natural field. -/
theorem getBits_natCast (n size offset : ℕ) :
    getBits n size offset = ((n >>> offset % 2 ^ size : ℕ) : ℤ) := by
  rw [getBits, getBits_mask]
  change ((n &&& (2 ^ size - 1) <<< offset : ℕ) : ℤ) >>> offset = _
  rw [Int.natCast_shiftRight]
  congr 1
  apply Nat.eq_of_testBit_eq
  intro i
  simp [Nat.testBit_mod_two_pow, Bool.and_comm]

/-- On `-(n + 1)` the mask keeps the complemented bits of `n`. -/
theorem getBits_negSucc (n size offset : ℕ) :
    getBits (Int.negSucc n) size offset =
      ((2 ^ size - (n >>> offset % 2 ^ size + 1) : ℕ) : ℤ) := by
  rw [getBits, getBits_mask]
  change ((Nat.ldiff ((2 ^ size - 1) <<< offset) n : ℕ) : ℤ) >>> offset = _
  rw [Int.natCast_shiftRight]
  congr 1
  apply Nat.eq_of_testBit_eq
  intro i
  rw [Nat.testBit_two_pow_sub_succ (Nat.mod_lt _ (Nat.two_pow_pos size))]
  by_cases hi : i < size <;> simp [Nat.testBit_ldiff, hi]

theorem natCast_ediv_emod (n size offset : ℕ) :
    (n : ℤ) / 2 ^ offset % 2 ^ size = ((n >>> offset % 2 ^ size : ℕ) : ℤ) := by
  rw [Nat.shiftRight_eq_div_pow]
  push_cast
  rfl

theorem negSucc_ediv_emod (n size offset : ℕ) :
    Int.negSucc n / 2 ^ offset % 2 ^ size =
      ((2 ^ size - (n >>> offset % 2 ^ size + 1) : ℕ) : ℤ) := by
  have hoffset : (0 : ℤ) < 2 ^ offset := by exact_mod_cast Nat.two_pow_pos offset
  have hsize : (0 : ℤ) < 2 ^ size := by exact_mod_cast Nat.two_pow_pos size
  have hquot : -((n : ℤ).ediv (2 ^ offset) + 1) = Int.negSucc (n >>> offset) := by
    rw [Nat.shiftRight_eq_div_pow, Int.negSucc_eq]
    push_cast
    rfl
  have hlt : n >>> offset % 2 ^ size < 2 ^ size := Nat.mod_lt _ (Nat.two_pow_pos size)
  rw [Int.negSucc_ediv _ hoffset, hquot, Int.negSucc_emod _ hsize]
  push_cast [Nat.cast_sub (Nat.succ_le_of_lt hlt)]
  rw [Int.sub_sub, Int.add_comm 1]

/-- `get_bits` is the floor quotient by `2^offset` reduced mod `2^size`, for every integer. -/
theorem getBits_eq (val : ℤ) (size offset : ℕ) :
    getBits val size offset = val / 2 ^ offset % 2 ^ size := by
  cases val with
  | ofNat n => rw [Int.ofNat_eq_coe, getBits_natCast, natCast_ediv_emod]
  | negSucc n => rw [getBits_negSucc, negSucc_ediv_emod]

/-- The bits of `h` from `offset` on, `width` of them, spell the natural number `v`. -/
def FieldHolds (h : ℤ) (offset width v : ℕ) : Prop :=
  ∀ i < width, h.testBit (offset + i) = v.testBit i

/-- Assumes: `v` fits in `width` bits and `h` holds it at `offset`. Then `get_bits` reads `v`
back, whatever the other bits of `h` are. -/
theorem getBits_of_fieldHolds {h : ℤ} {offset width v : ℕ} (hv : v < 2 ^ width)
    (hfield : FieldHolds h offset width v) : getBits h width offset = v := by
  have hhigh : ∀ i, width ≤ i → v.testBit i = false := fun i hi ↦
    Nat.testBit_lt_two_pow (Nat.lt_of_lt_of_le hv (Nat.pow_le_pow_right (by decide) hi))
  cases h with
  | ofNat n =>
    rw [Int.ofNat_eq_coe, getBits_natCast]
    congr 1
    apply Nat.eq_of_testBit_eq
    intro i
    by_cases hi : i < width
    · simpa [Nat.testBit_mod_two_pow, hi] using hfield i hi
    · simp [Nat.testBit_mod_two_pow, hi, hhigh i (Nat.le_of_not_lt hi)]
  | negSucc n =>
    rw [getBits_negSucc]
    congr 1
    apply Nat.eq_of_testBit_eq
    intro i
    rw [Nat.testBit_two_pow_sub_succ (Nat.mod_lt _ (Nat.two_pow_pos width))]
    by_cases hi : i < width
    · have hbit : (!n.testBit (offset + i)) = v.testBit i := hfield i hi
      simpa [Nat.testBit_mod_two_pow, hi] using hbit
    · simp [hi, hhigh i (Nat.le_of_not_lt hi)]

/-- `get_bit(val, k)` is bit `k` of `val`, as `0` or `1`. -/
theorem getBit_eq_testBit (val : ℤ) (k : ℕ) : getBit val k = if val.testBit k then 1 else 0 := by
  have hfield : FieldHolds val k 1 (if val.testBit k then 1 else 0) := by
    intro i hi
    obtain rfl : i = 0 := by omega
    by_cases hb : val.testBit k <;> simp [hb]
  have hv : (if val.testBit k then 1 else 0) < 2 ^ 1 := by split <;> decide
  rw [getBit, getBits_of_fieldHolds hv hfield]
  split <;> rfl

theorem getBits_exact (val : ℤ) (size offset : ℕ) :
    getBits val size offset = val / 2 ^ offset % 2 ^ size ∧ 0 ≤ getBits val size offset ∧
      getBits val size offset < 2 ^ size ∧
      getBit val offset = if val.testBit offset then 1 else 0 := by
  have hsize : (0 : ℤ) < 2 ^ size := by exact_mod_cast Nat.two_pow_pos size
  rw [getBits_eq]
  exact ⟨rfl, Int.emod_nonneg _ (Int.ne_of_gt hsize), Int.emod_lt_of_pos _ hsize, getBit_eq_testBit val offset⟩

/-- Masking with `2^k - 1` keeps the low `k` bits: the `get_bits` field at offset `0`. -/
theorem land_two_pow_sub_one (val : ℤ) (k : ℕ) : Int.land val (2 ^ k - 1) = val % 2 ^ k := by
  have h := getBits_eq val k 0
  have hmask : (((2 ^ k - 1) <<< 0 : ℕ) : ℤ) = 2 ^ k - 1 := by
    rw [Nat.shiftLeft_zero, Nat.cast_sub Nat.one_le_two_pow]
    push_cast
    rfl
  rw [getBits, getBits_mask, hmask, Int.shiftRight_eq_div_pow] at h
  simpa using h

/-- A multiple of `2^k` has none of the low `k` bits set: its `&` with a value below `2^k` is
`0`. -/
theorem land_two_pow_mul_of_lt (m : ℕ) {k : ℕ} {f : ℤ} (hf0 : 0 ≤ f) (hf : f < 2 ^ k) :
    Int.land ((2 ^ k * m : ℕ) : ℤ) f = 0 := by
  obtain ⟨n, rfl⟩ := Int.eq_ofNat_of_zero_le hf0
  have hn : n < 2 ^ k := by exact_mod_cast hf
  have hbits : 2 ^ k * m &&& n = 0 := Nat.eq_of_testBit_eq fun i ↦ by
    rw [Nat.testBit_and, Nat.testBit_mul_pow_two, Nat.zero_testBit]
    by_cases hi : k ≤ i
    · rw [Nat.testBit_lt_two_pow (lt_of_lt_of_le hn (Nat.pow_le_pow_right (Nat.succ_pos 1) hi)),
        Bool.and_false]
    · simp [hi]
  show ((2 ^ k * m &&& n : ℕ) : ℤ) = 0
  rw [hbits, Nat.cast_zero]

/-! ### Heap-unit header accessors -/

section Hmu

variable (c : Constants)

/-- `obj_to_hmu(obj)`: the header sits `HMU_HEADER_SIZE` bytes before the object. -/
def objToHmu (obj : ℤ) : ℤ :=
  obj - c.HMU_HEADER_SIZE

/-- `hmu_get_size(hmu)`: the size field, in units of eight bytes. -/
def hmuGetSize (hmu : ℤ) : ℤ :=
  getBits hmu c.HMU_SIZE_SIZE c.HMU_SIZE_OFFSET <<< (3 : ℤ)

/-- `hmu_get_ut(hmu)`: the usage-type field, looked up in `HMU_UT_MAP`. -/
def hmuGetUt (hmu : ℤ) : Except PyExc String :=
  pyIndex c.HMU_UT_MAP (getBits hmu c.HMU_UT_SIZE c.HMU_UT_OFFSET)

/-- `hmu_get_pinuse(hmu)`, which returns `get_bit(HMU_P_OFFSET)`: bit `0` of the offset. -/
def hmuGetPinuse (_hmu : ℤ) : ℤ :=
  getBit c.HMU_P_OFFSET 0

/-- `hmu_get_vo_marked(hmu)`, which returns `get_bit(HMU_WO_MB_OFFSET)`. -/
def hmuGetVoMarked (_hmu : ℤ) : ℤ :=
  getBit c.HMU_WO_MB_OFFSET 0

/-- `obj_get_rtt_ref(obj)`, fetched: the `header` field of the object. -/
def objGetRttRef (t : Target) (obj : ℤ) : Except PyExc ℤ :=
  t.get "wasm_obj_t" obj [.field "header"]

/-- `rtt_get_defined_type_ref(rtt)`, fetched: the `defined_type` field of the runtime type at
`rtt`. -/
def rttGetDefinedTypeRef (t : Target) (rtt : ℤ) : Except PyExc ℤ :=
  t.get "WASMRttTypeRef" rtt [.field "defined_type"]

variable {c}

/-- Assumes: the size field of `hmu` holds `s`, within its width. The decoded size is `8 * s`. -/
theorem hmuGetSize_of_fieldHolds {hmu : ℤ} {s : ℕ} (hs : s < 2 ^ c.HMU_SIZE_SIZE)
    (hfield : FieldHolds hmu c.HMU_SIZE_OFFSET c.HMU_SIZE_SIZE s) : hmuGetSize c hmu = 8 * s := by
  rw [hmuGetSize, getBits_of_fieldHolds hs hfield, show (3 : ℤ) = ((3 : ℕ) : ℤ) from rfl,
    Int.shiftLeft_eq_mul_pow]
  push_cast
  exact Int.mul_comm _ _

/-- Assumes: the usage-type field of `hmu` holds `u`, within its width. The decoded usage type is
`HMU_UT_MAP[u]`. -/
theorem hmuGetUt_of_fieldHolds {hmu : ℤ} {u : ℕ} (hu : u < 2 ^ c.HMU_UT_SIZE)
    (hfield : FieldHolds hmu c.HMU_UT_OFFSET c.HMU_UT_SIZE u) :
    hmuGetUt c hmu = pyIndex c.HMU_UT_MAP u := by
  rw [hmuGetUt, getBits_of_fieldHolds hu hfield]

/-- Adding `2^k` to a word whose bit `k` is clear sets that bit. -/
theorem getBit_add_two_pow {h : ℤ} {k : ℕ} (hclear : getBit h k = 0) : getBit (h + 2 ^ k) k = 1 := by
  have hpos : (0 : ℤ) < 2 ^ k := by exact_mod_cast Nat.two_pow_pos k
  rw [getBit, getBits_eq] at hclear ⊢
  rw [Int.add_ediv_of_dvd_right (Int.dvd_refl _), Int.ediv_self (Int.ne_of_gt hpos)]
  omega

theorem hmuGetPinuse_hmuGetVoMarked_ignore_header (hmu : ℤ)
    (hpin : getBit hmu c.HMU_P_OFFSET = 0) (hmark : getBit hmu c.HMU_WO_MB_OFFSET = 0) :
    getBit (hmu + 2 ^ c.HMU_P_OFFSET) c.HMU_P_OFFSET = 1 ∧
      hmuGetPinuse c (hmu + 2 ^ c.HMU_P_OFFSET) = hmuGetPinuse c hmu ∧
      getBit (hmu + 2 ^ c.HMU_WO_MB_OFFSET) c.HMU_WO_MB_OFFSET = 1 ∧
      hmuGetVoMarked c (hmu + 2 ^ c.HMU_WO_MB_OFFSET) = hmuGetVoMarked c hmu :=
  ⟨getBit_add_two_pow hpin, rfl, getBit_add_two_pow hmark, rfl⟩

theorem hmuGetPinuse_hmuGetVoMarked_ignore_header_sample :
    getBit (0 + 2 ^ sampleConstants.HMU_P_OFFSET) sampleConstants.HMU_P_OFFSET = 1 ∧
      hmuGetPinuse sampleConstants (0 + 2 ^ sampleConstants.HMU_P_OFFSET) =
        hmuGetPinuse sampleConstants 0 ∧
      getBit (0 + 2 ^ sampleConstants.HMU_WO_MB_OFFSET) sampleConstants.HMU_WO_MB_OFFSET = 1 ∧
      hmuGetVoMarked sampleConstants (0 + 2 ^ sampleConstants.HMU_WO_MB_OFFSET) =
        hmuGetVoMarked sampleConstants 0 :=
  hmuGetPinuse_hmuGetVoMarked_ignore_header 0 (by decide) (by decide)

end Hmu

end WamrGdb
