import WamrGdb.Objects

/-!
# Printing types and objects

The commands `wamr_type_dump` and `wamr_gc_obj_dump` print what `WASMType.create_type` and
`WASMObj.create_obj` return, through the `__str__` methods of the decoded classes. These read
further fields of the target, outside any `try`: the element type of an array type, the parent
type, fields and signature of a struct or function type, the header words of the objects and the
`inherit_depth` of a dereferenced runtime type. A printed type or object is the record of the
values its text shows (`TypeDump`, `ObjDump`).

The length word of an array object holds its length above `WASM_ARRAY_LENGTH_SHIFT` bits and the
base-2 logarithm of its element size below them; the dump decodes both from every such word
(`WASMObj.str_array_of_length`). A reference with bit `0` set is printed as the small integer
`r >> 1`, Python's arithmetic shift, without any read (`wamrGcObjDump_of_odd`).

Printing a type or an object reads memory and looks up `WASM_TYPE_MAP`, and raises nothing else
(`WASMType.str_raisesOnly`, `WASMObj.str_raisesOnly`).

Scope. `HMU.__str__` prints values `HMU(hmu)` has already decoded and reads nothing; the text, the
colours and the `mut` flag computed from a field's flags are not modelled.
-/

set_option autoImplicit false
set_option relaxedAutoImplicit false

namespace WamrGdb

/-! ### Types -/

/-- What `str(wasm_type)` shows: the element type of an array type; the parent type, the field
count and the fields of a struct type; the counts, parameter types and result types of a function
type. -/
inductive TypeDump where
  | array (ref : ℤ) (elemType : String)
  | struct (ref parentTypeIdx fieldCount : ℤ) (fieldsInfo : List FieldInfo)
  | func (ref paramCount resultCount : ℤ) (parameters results : List String)

/-- `WASMArrayType.__str__`, `WASMStructType.__str__` and `WASMFuncType.__str__`. -/
def WASMType.str (c : Constants) (t : Target) : WASMType → Except PyExc TypeDump
  | .array ref => do
    let elemType ← pyLookup c.WASM_TYPE_MAP (← t.get "WASMArrayType" ref [.field "elem_type"])
    pure (.array ref elemType)
  | .struct ref => do
    let parentTypeIdx ←
      t.get "WASMStructType" ref [.field "base_type", .field "parent_type_idx"]
    let fieldCount ← t.get "WASMStructType" ref [.field "field_count"]
    let fieldsInfo ← WASMStructType.getFieldsInfo c t ref
    pure (.struct ref parentTypeIdx fieldCount fieldsInfo)
  | .func funcType => do
    let paramCount ← t.get "WASMFuncType" funcType.ref [.field "param_count"]
    let resultCount ← t.get "WASMFuncType" funcType.ref [.field "result_count"]
    let parameters ← funcType.getParameterTypes c t
    let results ← funcType.getResultTypes c t
    pure (.func funcType.ref paramCount resultCount parameters results)

/-- `str(x)` of a type or `None`: nothing is read for `None`. -/
def WASMType.strOpt (c : Constants) (t : Target) : Option WASMType → Except PyExc (Option TypeDump)
  | none => pure none
  | some type => some <$> type.str c t

/-! ### Runtime types and objects -/

/-- What `str(rtt)` shows: the reference, its kind and, for a runtime type the scripts
dereferenced, its `inherit_depth`. -/
structure RttDump where
  rttRef : ℤ
  typeFlag : String
  inheritDepth : Option ℤ

/-- `WASMRtt.__str__`: `inherit_depth`, which `WASMRtt(rtt_ref)` did not fetch, is read here
unless the kind is `WASM_TYPE_EXTERNREF` or `WASM_TYPE_ANYREF`. -/
def WASMRtt.str (t : Target) (rtt : WASMRtt) : Except PyExc RttDump :=
  if rtt.typeFlag = "WASM_TYPE_EXTERNREF" ∨ rtt.typeFlag = "WASM_TYPE_ANYREF" then
    pure ⟨rtt.rttRef, rtt.typeFlag, none⟩
  else do
    let inheritDepth ← t.get "WASMRttTypeRef" rtt.rttRef [.field "inherit_depth"]
    pure ⟨rtt.rttRef, rtt.typeFlag, some inheritDepth⟩

/-- `array_obj['length'] >> WASM_ARRAY_LENGTH_SHIFT`: the length of an array. -/
def arrayLength (c : Constants) (length : ℤ) : ℤ :=
  length >>> c.WASM_ARRAY_LENGTH_SHIFT

/-- `1 << (array_obj['length'] & WASM_ARRAY_ELEM_SIZE_MASK)`: the element size of an array. -/
def elemSize (c : Constants) (length : ℤ) : ℤ :=
  1 <<< Int.land length c.WASM_ARRAY_ELEM_SIZE_MASK

/-- What `str(wasm_obj)` shows: the value of a small integer, and for a heap object the fields
its `__str__` reads, its defined type, its heap unit and its runtime type. -/
inductive ObjDump where
  | i31 (value : ℤ)
  | externRef (ref internalObj : ℤ) (hmu : HMU) (rtt : RttDump)
  | anyRef (ref hostObj : ℤ) (hmu : HMU) (rtt : RttDump)
  | array (ref arrayLength elemSize : ℤ) (arrayType : Option TypeDump) (hmu : HMU)
      (rtt : RttDump)
  | struct (ref : ℤ) (structType : Option TypeDump) (hmu : HMU) (rtt : RttDump)
  | func (ref funcIdxBound : ℤ) (funcType : Option TypeDump) (hmu : HMU) (rtt : RttDump)

/-- The `__str__` methods of the object classes. The two f-strings of `WASMArrayObj.__str__` read
the length word twice; reads are deterministic, so it is read once here. -/
def WASMObj.str (c : Constants) (t : Target) : WASMObj → Except PyExc ObjDump
  | .i31 value => pure (.i31 value)
  | .externRef obj hmu rtt => do
    let internalObj ← t.get "wasm_externref_obj_t" obj [.field "internal_obj"]
    pure (.externRef obj internalObj hmu (← rtt.str t))
  | .anyRef obj hmu rtt => do
    let hostObj ← t.get "wasm_anyref_obj_t" obj [.field "host_obj"]
    pure (.anyRef obj hostObj hmu (← rtt.str t))
  | .array obj hmu rtt arrayType => do
    let length ← t.get "wasm_array_obj_t" obj [.field "length"]
    let arrayType ← WASMType.strOpt c t arrayType
    pure (.array obj (arrayLength c length) (elemSize c length) arrayType hmu (← rtt.str t))
  | .struct obj hmu rtt structType => do
    let structType ← WASMType.strOpt c t structType
    pure (.struct obj structType hmu (← rtt.str t))
  | .func obj hmu rtt funcType => do
    let funcIdxBound ← t.get "wasm_func_obj_t" obj [.field "func_idx_bound"]
    let funcType ← WASMType.strOpt c t funcType
    pure (.func obj funcIdxBound funcType hmu (← rtt.str t))

/-! ### The two commands -/

/-- `wamr_type_dump(arg)`: the type `wamr_get_type` returns, printed when it is not `None`. -/
def wamrTypeDump (c : Constants) (t : Target) (arg : ℤ) : Except PyExc (Option TypeDump) := do
  WASMType.strOpt c t (← WASMType.createType c t arg)

/-- `wamr_gc_obj_dump(arg)`: the object `wamr_get_gc_obj` returns, printed when it is not
`None`. -/
def wamrGcObjDump (c : Constants) (t : Target) (arg : ℤ) : Except PyExc (Option ObjDump) := do
  match ← WASMObj.createObj c t arg with
  | some obj => some <$> obj.str c t
  | none => pure none

/-! ### The array length word -/

section ArrayWord

variable {c : Constants}

/-- Assumes: the mask covers exactly the `WASM_ARRAY_LENGTH_SHIFT` low bits and `lg` fits in
them. A length word with `len` above the shift and `lg` below it decodes to the length `len` and
the element size `2^lg`, for every integer `len`. -/
theorem arrayLength_elemSize
    (hmask : c.WASM_ARRAY_ELEM_SIZE_MASK = 2 ^ c.WASM_ARRAY_LENGTH_SHIFT - 1) (len : ℤ)
    {lg : ℕ} (hlg : lg < 2 ^ c.WASM_ARRAY_LENGTH_SHIFT) :
    arrayLength c (len * 2 ^ c.WASM_ARRAY_LENGTH_SHIFT + lg) = len ∧
      elemSize c (len * 2 ^ c.WASM_ARRAY_LENGTH_SHIFT + lg) = 2 ^ lg := by
  have hpos : (0 : ℤ) < 2 ^ c.WASM_ARRAY_LENGTH_SHIFT := by exact_mod_cast Nat.two_pow_pos _
  have hlg' : (lg : ℤ) < 2 ^ c.WASM_ARRAY_LENGTH_SHIFT := by exact_mod_cast hlg
  constructor
  · rw [arrayLength, Int.shiftRight_eq_div_pow]
    push_cast
    rw [Int.add_comm, Int.add_mul_ediv_right _ _ (Int.ne_of_gt hpos),
      Int.ediv_eq_zero_of_lt (Int.natCast_nonneg lg) hlg', Int.zero_add]
  · rw [elemSize, hmask, land_two_pow_sub_one, Int.add_comm, Int.add_mul_emod_self,
      Int.emod_eq_of_lt (Int.natCast_nonneg lg) hlg', Int.one_shiftLeft]
    push_cast
    rfl

/-- Assumes: the mask covers exactly the `WASM_ARRAY_LENGTH_SHIFT` low bits, `lg` fits in them,
and the length word of the array object at `obj` holds `len` above them and `lg` below. Printing
the object shows the length `len` and the element size `2^lg`. -/
theorem WASMObj.str_array_of_length {t : Target} {obj len : ℤ} {lg : ℕ} {hmu : HMU}
    {rtt : WASMRtt} {arrayType : Option WASMType} {dump : ObjDump}
    (hmask : c.WASM_ARRAY_ELEM_SIZE_MASK = 2 ^ c.WASM_ARRAY_LENGTH_SHIFT - 1)
    (hlg : lg < 2 ^ c.WASM_ARRAY_LENGTH_SHIFT)
    (hlength : t.read "wasm_array_obj_t" obj [.field "length"] =
      some (len * 2 ^ c.WASM_ARRAY_LENGTH_SHIFT + lg))
    (hstr : WASMObj.str c t (.array obj hmu rtt arrayType) = .ok dump) :
    ∃ arrayTypeDump rttDump, dump = .array obj len (2 ^ lg) arrayTypeDump hmu rttDump := by
  obtain ⟨hlen, hsize⟩ := arrayLength_elemSize hmask len hlg
  obtain ⟨length, hget, hstr⟩ := bind_eq_ok.mp hstr
  rw [Target.get_eq_ok hlength, Except.ok.injEq] at hget
  subst hget
  obtain ⟨arrayTypeDump, -, hstr⟩ := bind_eq_ok.mp hstr
  obtain ⟨rttDump, -, hstr⟩ := bind_eq_ok.mp hstr
  cases hstr
  exact ⟨arrayTypeDump, rttDump, by rw [hlen, hsize]⟩

/-- An array object at `16` whose length word is `4 * 5 + 3`: five elements of `2^3` bytes. -/
def sampleArrayObj : Target where
  read _ _ path := if path = [.field "length"] then some (5 * 2 ^ 2 + 3) else some 0
  fields _ := []
  getFrameRef := none

theorem WASMObj.str_array_of_length_sample :
    ∃ dump, WASMObj.str sampleConstants sampleArrayObj
        (.array 16 ⟨12, 0, 0, "HMU_FC", 0, 0⟩ ⟨64, "WASM_TYPE_ARRAY"⟩ none) = .ok dump ∧
      ∃ arrayTypeDump rttDump,
        dump = .array 16 5 (2 ^ 3) arrayTypeDump ⟨12, 0, 0, "HMU_FC", 0, 0⟩ rttDump :=
  ⟨_, rfl, @WASMObj.str_array_of_length sampleConstants sampleArrayObj 16 5 3
    ⟨12, 0, 0, "HMU_FC", 0, 0⟩ ⟨64, "WASM_TYPE_ARRAY"⟩ none _ (by decide) (by decide) rfl rfl⟩

end ArrayWord

/-! ### Small integers -/

/-- A reference with bit `0` set is printed as the small integer `r >> 1`, the floor of `r / 2`,
on every target: nothing is read. -/
theorem wamrGcObjDump_of_odd (c : Constants) (t : Target) {arg : ℤ} (hbit : getBit arg 0 ≠ 0) :
    wamrGcObjDump c t arg = .ok (some (.i31 (arg / 2))) := by
  have hshift : arg >>> (1 : ℤ) = arg / 2 := by
    rw [show arg >>> (1 : ℤ) = arg >>> (1 : ℕ) by cases arg <;> rfl, Int.shiftRight_eq_div_pow]
    rfl
  rw [wamrGcObjDump, WASMObj.createObj, if_pos hbit, hshift]
  rfl

/-! ### What printing raises -/

section Raises

variable {allowed : List PyExc}

/-- Printing a type reads memory and looks up `WASM_TYPE_MAP`, and nothing else. -/
theorem WASMType.str_raisesOnly (hmem : PyExc.memoryError ∈ allowed)
    (hkey : PyExc.keyError ∈ allowed) (c : Constants) (t : Target) :
    ∀ type : WASMType, RaisesOnly allowed (type.str c t)
  | .array _ => (RaisesOnly.get _ _ _ _ hmem).bind fun _ ↦
      (RaisesOnly.pyLookup _ _ hkey).bind fun _ ↦ RaisesOnly.pure _
  | .struct _ => (RaisesOnly.get _ _ _ _ hmem).bind fun _ ↦ (RaisesOnly.get _ _ _ _ hmem).bind
      fun _ ↦ (WASMStructType.getFieldsInfo_raisesOnly hmem hkey c t _).bind fun _ ↦
        RaisesOnly.pure _
  | .func _ => (RaisesOnly.get _ _ _ _ hmem).bind fun _ ↦ (RaisesOnly.get _ _ _ _ hmem).bind
      fun _ ↦ (WASMFuncType.typesIn_raisesOnly hmem hkey c t _ _ _).bind fun _ ↦
        (WASMFuncType.typesIn_raisesOnly hmem hkey c t _ _ _).bind fun _ ↦ RaisesOnly.pure _

theorem WASMType.strOpt_raisesOnly (hmem : PyExc.memoryError ∈ allowed)
    (hkey : PyExc.keyError ∈ allowed) (c : Constants) (t : Target) :
    ∀ type : Option WASMType, RaisesOnly allowed (WASMType.strOpt c t type)
  | none => RaisesOnly.pure _
  | some type => (WASMType.str_raisesOnly hmem hkey c t type).map _

/-- Printing an object reads memory and looks up `WASM_TYPE_MAP`, and nothing else. -/
theorem WASMObj.str_raisesOnly (hmem : PyExc.memoryError ∈ allowed)
    (hkey : PyExc.keyError ∈ allowed) (c : Constants) (t : Target) (obj : WASMObj) :
    RaisesOnly allowed (obj.str c t) := by
  have hrtt : ∀ rtt : WASMRtt, RaisesOnly allowed (rtt.str t) := fun _ ↦ RaisesOnly.ite
    (RaisesOnly.pure _) ((RaisesOnly.get _ _ _ _ hmem).bind fun _ ↦ RaisesOnly.pure _)
  have htype := WASMType.strOpt_raisesOnly hmem hkey c t
  cases obj with
  | i31 => exact RaisesOnly.pure _
  | externRef | anyRef =>
    exact (RaisesOnly.get _ _ _ _ hmem).bind fun _ ↦ (hrtt _).bind fun _ ↦ RaisesOnly.pure _
  | array | func =>
    exact (RaisesOnly.get _ _ _ _ hmem).bind fun _ ↦ (htype _).bind fun _ ↦
      (hrtt _).bind fun _ ↦ RaisesOnly.pure _
  | struct => exact (htype _).bind fun _ ↦ (hrtt _).bind fun _ ↦ RaisesOnly.pure _

end Raises

end WamrGdb
