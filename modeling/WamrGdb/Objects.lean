import WamrGdb.Utils
import WamrGdb.Types

/-!
# Heap objects

`wamr_objects.py` classifies a reference into a GC object. `WASMObj.create_obj` decodes a tagged
small integer when bit `0` is set, and otherwise reads the heap-unit header (`HMU`), the runtime
type of the object (`WASMRtt`, which recognises the two sentinel encodings before it dereferences
anything) and dispatches on the kind, all inside a `try` that catches `gdb.MemoryError` only.

`HMU.decode_of_fieldHolds` is the header round trip for the fields the decoder really reads: the
size and the usage type. `WASMObj.createObjBody_raisesOnly` bounds what the body of the `try` can
raise to `gdb.MemoryError` and `IndexError`, so `WASMObj.createObj_raisesOnly` shows that only an
`IndexError` can leave `create_obj`, and `WASMObj.createObj_eq_error` says where it comes from: a
usage-type code outside `HMU_UT_MAP` or a `type_flag` outside `TYPE_KIND`. The second happens on
every corrupted runtime type whose `type_flag` is past the end of `TYPE_KIND`
(`WASMObj.createObj_of_type_flag_out_of_range`), where `WASMType.create_type`, whose `try` also
names `IndexError`, returns `None`. The two sentinel encodings of a runtime type live in bits that a
pointer aligned past them never has, so `WASMRtt` dereferences every such pointer
(`WASMRtt.init_of_aligned`).

The reference is taken as the integer gdb has already fetched. `create_obj` computes
`int(obj_ref)` of a `gdb.Value` that may be lazy before its `try`, so the exception results are for
a fetched argument: a `gdb.MemoryError` of that first fetch would leave `create_obj` uncaught, and
it is not modelled.
-/

set_option autoImplicit false
set_option relaxedAutoImplicit false

namespace WamrGdb

/-! ### Heap-unit headers -/

/-- A heap management unit as `HMU(hmu)` decodes it. -/
structure HMU where
  hmu : ℤ
  hmuHeaderVal : ℤ
  hmuSize : ℤ
  hmuUt : String
  hmuPinuse : ℤ
  hmuVoMarked : ℤ

/-- What `HMU(hmu)` does with the header word `hmuHeaderVal` once it has read it. -/
def HMU.decode (c : Constants) (hmu hmuHeaderVal : ℤ) : Except PyExc HMU := do
  let hmuUt ← hmuGetUt c hmuHeaderVal
  pure ⟨hmu, hmuHeaderVal, hmuGetSize c hmuHeaderVal, hmuUt, hmuGetPinuse c hmuHeaderVal,
    hmuGetVoMarked c hmuHeaderVal⟩

/-- `HMU(hmu)`: the header word is read as `HMU_HEADER_TYPE` at `hmu`. -/
def HMU.init (c : Constants) (t : Target) (hmu : ℤ) : Except PyExc HMU := do
  HMU.decode c hmu (← t.get c.HMU_HEADER_TYPE hmu [])

theorem HMU.decode_raisesOnly (c : Constants) (hmu h : ℤ) :
    RaisesOnly [.indexError] (HMU.decode c hmu h) :=
  (RaisesOnly.pyIndex _ _ (by simp)).bind fun _ ↦ RaisesOnly.pure _

/-- Assumes: the header word `h` holds `s` in its size field and `u` in its usage-type field, each
within its width, and `HMU_UT_MAP` has an entry `u`. The decoded size is `8 * s` and the decoded
usage type `HMU_UT_MAP[u]`, whatever the other bits of `h` are. -/
theorem HMU.decode_of_fieldHolds {c : Constants} {hmu h : ℤ} {s u : ℕ}
    (hs : s < 2 ^ c.HMU_SIZE_SIZE) (hsize : FieldHolds h c.HMU_SIZE_OFFSET c.HMU_SIZE_SIZE s)
    (hu : u < 2 ^ c.HMU_UT_SIZE) (hut : FieldHolds h c.HMU_UT_OFFSET c.HMU_UT_SIZE u)
    (hmap : u < c.HMU_UT_MAP.length) :
    HMU.decode c hmu h =
      .ok ⟨hmu, h, 8 * s, c.HMU_UT_MAP[u], hmuGetPinuse c h, hmuGetVoMarked c h⟩ := by
  simp [HMU.decode, hmuGetUt_of_fieldHolds hu hut, pyIndex_of_lt _ hmap,
    hmuGetSize_of_fieldHolds hs hsize, bind, Except.bind, pure, Except.pure]

theorem HMU.decode_of_fieldHolds_sample :
    HMU.decode sampleConstants 0 (2 ^ 31 + 5) =
      .ok ⟨0, 2 ^ 31 + 5, 8 * (5 : ℕ), sampleConstants.HMU_UT_MAP[2],
        hmuGetPinuse sampleConstants (2 ^ 31 + 5), hmuGetVoMarked sampleConstants (2 ^ 31 + 5)⟩ :=
  HMU.decode_of_fieldHolds (by decide) (by unfold FieldHolds; decide) (by decide)
    (by unfold FieldHolds; decide) (by decide)

/-! ### Runtime types -/

/-- A runtime type as `WASMRtt(rtt_ref)` decodes it: the reference and its kind. -/
structure WASMRtt where
  rttRef : ℤ
  typeFlag : String

/-- `WASMRtt(rtt_ref)`: the two sentinel encodings are tested on the reference itself; any other
reference is dereferenced and its `type_flag` looked up in `TYPE_KIND`. -/
def WASMRtt.init (c : Constants) (t : Target) (rttRef : ℤ) : Except PyExc WASMRtt :=
  if Int.land rttRef c.WASM_OBJ_EXTERNREF_OBJ_FLAG = c.WASM_OBJ_EXTERNREF_OBJ_FLAG then
    pure ⟨rttRef, "WASM_TYPE_EXTERNREF"⟩
  else if Int.land rttRef c.WASM_OBJ_ANYREF_OBJ_FLAG = c.WASM_OBJ_ANYREF_OBJ_FLAG then
    pure ⟨rttRef, "WASM_TYPE_ANYREF"⟩
  else do
    let typeFlag ← pyIndex c.TYPE_KIND (← t.get "WASMRttTypeRef" rttRef [.field "type_flag"])
    pure ⟨rttRef, typeFlag⟩

theorem HMU.init_raisesOnly (c : Constants) (t : Target) (hmu : ℤ) :
    RaisesOnly [.memoryError, .indexError] (HMU.init c t hmu) :=
  (RaisesOnly.get _ _ _ _ (by simp)).bind fun h ↦ (HMU.decode_raisesOnly c hmu h).mono (by simp)

theorem WASMRtt.init_raisesOnly (c : Constants) (t : Target) (rttRef : ℤ) :
    RaisesOnly [.memoryError, .indexError] (WASMRtt.init c t rttRef) := by
  unfold WASMRtt.init
  split_ifs
  · exact RaisesOnly.pure _
  · exact RaisesOnly.pure _
  · exact (RaisesOnly.get _ _ _ _ (by simp)).bind fun _ ↦
      (RaisesOnly.pyIndex _ _ (by simp)).bind fun _ ↦ RaisesOnly.pure _

/-! ### Objects -/

/-- The objects `create_obj` builds. Every one but the small integer carries its heap unit and its
runtime type; an array, struct or function object also carries its defined type, decoded by
`WASMType.create_type`. -/
inductive WASMObj where
  | i31 (value : ℤ)
  | externRef (obj : ℤ) (hmu : HMU) (rtt : WASMRtt)
  | anyRef (obj : ℤ) (hmu : HMU) (rtt : WASMRtt)
  | array (obj : ℤ) (hmu : HMU) (rtt : WASMRtt) (arrayType : Option WASMType)
  | struct (obj : ℤ) (hmu : HMU) (rtt : WASMRtt) (structType : Option WASMType)
  | func (obj : ℤ) (hmu : HMU) (rtt : WASMRtt) (funcType : Option WASMType)

/-- The constructors of the three objects with a defined type: each decodes the `defined_type` of
its runtime type with `WASMType.create_type`. -/
def WASMObj.withDefinedType (mk : ℤ → HMU → WASMRtt → Option WASMType → WASMObj) (c : Constants)
    (t : Target) (obj : ℤ) (hmu : HMU) (rtt : WASMRtt) : Except PyExc WASMObj := do
  let definedType ← WASMType.createType c t (← rttGetDefinedTypeRef t rtt.rttRef)
  pure (mk obj hmu rtt definedType)

/-- `WASMArrayObj(obj, hmu, rtt)`. -/
def WASMArrayObj.init : Constants → Target → ℤ → HMU → WASMRtt → Except PyExc WASMObj :=
  WASMObj.withDefinedType .array

/-- `WASMStructObj(obj, hmu, rtt)`. -/
def WASMStructObj.init : Constants → Target → ℤ → HMU → WASMRtt → Except PyExc WASMObj :=
  WASMObj.withDefinedType .struct

/-- `WASMFuncObj(obj, hmu, rtt)`. -/
def WASMFuncObj.init : Constants → Target → ℤ → HMU → WASMRtt → Except PyExc WASMObj :=
  WASMObj.withDefinedType .func

/-- The dispatch of `WASMObj.create_obj` on the kind of the runtime type. -/
def WASMObj.ofKind (c : Constants) (t : Target) (objRef : ℤ) (hmu : HMU) (rtt : WASMRtt) :
    Except PyExc (Option WASMObj) :=
  let typeFlag := rtt.typeFlag
  if typeFlag = "WASM_TYPE_ARRAY" then some <$> WASMArrayObj.init c t objRef hmu rtt
  else if typeFlag = "WASM_TYPE_STRUCT" then some <$> WASMStructObj.init c t objRef hmu rtt
  else if typeFlag = "WASM_TYPE_FUNC" then some <$> WASMFuncObj.init c t objRef hmu rtt
  else if typeFlag = "WASM_TYPE_EXTERNREF" then pure (some (.externRef objRef hmu rtt))
  else if typeFlag = "WASM_TYPE_ANYREF" then pure (some (.anyRef objRef hmu rtt))
  else pure none

/-- The body of the `try` of `WASMObj.create_obj(obj_ref)`. -/
def WASMObj.createObjBody (c : Constants) (t : Target) (objRef : ℤ) :
    Except PyExc (Option WASMObj) := do
  let hmu ← HMU.init c t (objToHmu c objRef)
  let rtt ← WASMRtt.init c t (← objGetRttRef t objRef)
  WASMObj.ofKind c t objRef hmu rtt

/-- `WASMObj.create_obj(obj_ref)`. -/
def WASMObj.createObj (c : Constants) (t : Target) (objRef : ℤ) : Except PyExc (Option WASMObj) :=
  if getBit objRef 0 ≠ 0 then pure (some (.i31 (objRef >>> 1)))
  else catchNone [.memoryError] (WASMObj.createObjBody c t objRef)

theorem WASMObj.withDefinedType_raisesOnly (mk : ℤ → HMU → WASMRtt → Option WASMType → WASMObj)
    (c : Constants) (t : Target) (obj : ℤ) (hmu : HMU) (rtt : WASMRtt) :
    RaisesOnly [.memoryError] (WASMObj.withDefinedType mk c t obj hmu rtt) :=
  (RaisesOnly.get _ _ _ _ (by simp)).bind fun ref ↦
    (WASMType.createType_raisesOnly c t ref _).bind fun _ ↦ RaisesOnly.pure _

theorem WASMObj.ofKind_raisesOnly (c : Constants) (t : Target) (objRef : ℤ) (hmu : HMU)
    (rtt : WASMRtt) : RaisesOnly [.memoryError] (WASMObj.ofKind c t objRef hmu rtt) := by
  unfold WASMObj.ofKind
  dsimp only
  split_ifs
  iterate 3 exact (WASMObj.withDefinedType_raisesOnly _ c t objRef hmu rtt).map _
  all_goals exact RaisesOnly.pure _

theorem WASMObj.createObjBody_raisesOnly (c : Constants) (t : Target) (objRef : ℤ) :
    RaisesOnly [.memoryError, .indexError] (WASMObj.createObjBody c t objRef) :=
  (HMU.init_raisesOnly c t _).bind fun hmu ↦ (RaisesOnly.get _ _ _ _ (by simp)).bind fun rttRef ↦
    (WASMRtt.init_raisesOnly c t rttRef).bind fun rtt ↦
      (WASMObj.ofKind_raisesOnly c t objRef hmu rtt).mono (by simp)

/-- Nothing but an `IndexError` leaves `create_obj`: every `gdb.MemoryError` is caught. -/
theorem WASMObj.createObj_raisesOnly (c : Constants) (t : Target) (objRef : ℤ) :
    RaisesOnly [.indexError] (WASMObj.createObj c t objRef) := by
  unfold WASMObj.createObj
  split_ifs
  · exact RaisesOnly.pure _
  · exact RaisesOnly.catchNone (WASMObj.createObjBody_raisesOnly c t objRef)

/-- `HMU(hmu)` raises on an unreadable header word, or on a usage-type code outside
`HMU_UT_MAP`. -/
theorem HMU.init_eq_error {c : Constants} {t : Target} {hmu : ℤ} {e : PyExc}
    (h : HMU.init c t hmu = .error e) :
    e = .memoryError ∨ e = .indexError ∧ ∃ header, t.read c.HMU_HEADER_TYPE hmu [] = some header ∧
      pyGet? c.HMU_UT_MAP (getBits header c.HMU_UT_SIZE c.HMU_UT_OFFSET) = none := by
  rcases bind_eq_error h with hget | ⟨header, hget, hdecode⟩
  · exact .inl (by simpa using RaisesOnly.get t _ _ _ (List.mem_singleton_self _) e hget)
  · refine .inr ⟨?_, header, Target.get_eq_ok_iff.mp hget, ?_⟩ <;>
    · rcases bind_eq_error hdecode with hut | ⟨_, _, hpure⟩
      · simp only [hmuGetUt, pyIndex] at hut
        split at hut <;> simp_all
      · cases hpure

/-- `WASMRtt(rtt_ref)` raises on a reference that is no sentinel and whose `type_flag` cannot be
read, or is outside `TYPE_KIND`. -/
theorem WASMRtt.init_eq_error {c : Constants} {t : Target} {rttRef : ℤ} {e : PyExc}
    (h : WASMRtt.init c t rttRef = .error e) :
    e = .memoryError ∨ e = .indexError ∧
      Int.land rttRef c.WASM_OBJ_EXTERNREF_OBJ_FLAG ≠ c.WASM_OBJ_EXTERNREF_OBJ_FLAG ∧
      Int.land rttRef c.WASM_OBJ_ANYREF_OBJ_FLAG ≠ c.WASM_OBJ_ANYREF_OBJ_FLAG ∧
      ∃ flag, t.read "WASMRttTypeRef" rttRef [.field "type_flag"] = some flag ∧
        pyGet? c.TYPE_KIND flag = none := by
  unfold WASMRtt.init at h
  split_ifs at h with hexternRef hany
  · cases h
  · cases h
  rcases bind_eq_error h with hget | ⟨flag, hget, hkind⟩
  · exact .inl (by simpa using RaisesOnly.get t _ _ _ (List.mem_singleton_self _) e hget)
  · refine .inr ⟨?_, hexternRef, hany, flag, Target.get_eq_ok_iff.mp hget, ?_⟩ <;>
    · rcases bind_eq_error hkind with hidx | ⟨_, _, hpure⟩
      · simp only [pyIndex] at hidx
        split at hidx <;> simp_all
      · cases hpure

/-- A target holding, for the object at `16`, a readable header and the runtime type pointer `64`,
whose `type_flag` is `3`. -/
def sampleCorruptRtt : Target where
  read _ _ path :=
    if path = [.field "type_flag"] then some 3
    else if path = [.field "header"] then some 64
    else some 0
  fields _ := []
  getFrameRef := none

/-- Assumes: both sentinel flags are positive and below `2^k`. A runtime-type pointer that is a
multiple of `2^k`, as the address of a runtime type aligned to `2^k` bytes is, is never taken for a
sentinel: `WASMRtt` dereferences it and takes its kind from `TYPE_KIND[type_flag]`. -/
theorem WASMRtt.init_of_aligned {c : Constants} {t : Target} {k : ℕ}
    (hexternRef : 0 < c.WASM_OBJ_EXTERNREF_OBJ_FLAG ∧ c.WASM_OBJ_EXTERNREF_OBJ_FLAG < 2 ^ k)
    (hanyRef : 0 < c.WASM_OBJ_ANYREF_OBJ_FLAG ∧ c.WASM_OBJ_ANYREF_OBJ_FLAG < 2 ^ k) (m : ℕ) :
    WASMRtt.init c t (2 ^ k * m : ℕ) = (do
      let typeFlag ←
        pyIndex c.TYPE_KIND (← t.get "WASMRttTypeRef" (2 ^ k * m : ℕ) [.field "type_flag"])
      pure ⟨(2 ^ k * m : ℕ), typeFlag⟩) := by
  have hflag : ∀ {flag : ℤ}, 0 < flag ∧ flag < 2 ^ k → Int.land ((2 ^ k * m : ℕ) : ℤ) flag ≠ flag :=
    fun hflag ↦ by rw [land_two_pow_mul_of_lt m (Int.le_of_lt hflag.1) hflag.2]; exact Int.ne_of_lt hflag.1
  rw [WASMRtt.init, if_neg (hflag hexternRef), if_neg (hflag hanyRef)]

theorem WASMRtt.init_of_aligned_sample :
    (0 < sampleConstants.WASM_OBJ_EXTERNREF_OBJ_FLAG ∧
        sampleConstants.WASM_OBJ_EXTERNREF_OBJ_FLAG < 2 ^ 3) ∧
      (0 < sampleConstants.WASM_OBJ_ANYREF_OBJ_FLAG ∧
        sampleConstants.WASM_OBJ_ANYREF_OBJ_FLAG < 2 ^ 3) ∧
      WASMRtt.init sampleConstants sampleCorruptRtt (2 ^ 3 * 8 : ℕ) = (do
        let typeFlag ← pyIndex sampleConstants.TYPE_KIND
          (← sampleCorruptRtt.get "WASMRttTypeRef" (2 ^ 3 * 8 : ℕ) [.field "type_flag"])
        pure ⟨(2 ^ 3 * 8 : ℕ), typeFlag⟩) :=
  ⟨by decide, by decide, WASMRtt.init_of_aligned (by decide) (by decide) 8⟩

/-- `create_obj` raises only `IndexError`, and only on a reference with bit `0` clear whose header
word has a usage-type code outside `HMU_UT_MAP`, or whose runtime type is no sentinel and has a
`type_flag` outside `TYPE_KIND`. -/
theorem WASMObj.createObj_eq_error {c : Constants} {t : Target} {objRef : ℤ} {e : PyExc}
    (h : WASMObj.createObj c t objRef = .error e) :
    e = .indexError ∧ getBit objRef 0 = 0 ∧
      ((∃ header, t.read c.HMU_HEADER_TYPE (objToHmu c objRef) [] = some header ∧
          pyGet? c.HMU_UT_MAP (getBits header c.HMU_UT_SIZE c.HMU_UT_OFFSET) = none) ∨
        ∃ rttRef flag, t.read "wasm_obj_t" objRef [.field "header"] = some rttRef ∧
          Int.land rttRef c.WASM_OBJ_EXTERNREF_OBJ_FLAG ≠ c.WASM_OBJ_EXTERNREF_OBJ_FLAG ∧
          Int.land rttRef c.WASM_OBJ_ANYREF_OBJ_FLAG ≠ c.WASM_OBJ_ANYREF_OBJ_FLAG ∧
          t.read "WASMRttTypeRef" rttRef [.field "type_flag"] = some flag ∧
          pyGet? c.TYPE_KIND flag = none) := by
  have he : e = .indexError := by simpa using WASMObj.createObj_raisesOnly c t objRef e h
  subst he
  unfold WASMObj.createObj at h
  split_ifs at h with hbit
  · cases h
  obtain ⟨hbody, -⟩ := catchNone_eq_error h
  refine ⟨rfl, not_not.mp hbit, ?_⟩
  rcases bind_eq_error hbody with hhmu | ⟨hmu, -, hrest⟩
  · rcases HMU.init_eq_error hhmu with hmem | ⟨-, hut⟩
    · cases hmem
    · exact .inl hut
  rcases bind_eq_error hrest with hget | ⟨rttRef, hget, hrtt⟩
  · exact absurd (RaisesOnly.get t _ _ _ (List.mem_singleton_self _) _ hget) (by simp)
  rcases bind_eq_error hrtt with hinit | ⟨rtt, -, hkind⟩
  · rcases WASMRtt.init_eq_error hinit with hmem | ⟨-, hexternRef, hany, flag, hflag, hnone⟩
    · cases hmem
    · exact .inr ⟨rttRef, flag, Target.get_eq_ok_iff.mp hget, hexternRef, hany,
        hflag, hnone⟩
  · exact absurd (WASMObj.ofKind_raisesOnly c t objRef hmu rtt _ hkind) (by simp)

theorem WASMObj.createObj_eq_error_sample :
    WASMObj.createObj sampleConstants sampleCorruptRtt 16 = .error .indexError ∧
      getBit 16 0 = 0 ∧
      ((∃ header, sampleCorruptRtt.read sampleConstants.HMU_HEADER_TYPE
            (objToHmu sampleConstants 16) [] = some header ∧
          pyGet? sampleConstants.HMU_UT_MAP
            (getBits header sampleConstants.HMU_UT_SIZE sampleConstants.HMU_UT_OFFSET) = none) ∨
        ∃ rttRef flag, sampleCorruptRtt.read "wasm_obj_t" 16 [.field "header"] = some rttRef ∧
          Int.land rttRef sampleConstants.WASM_OBJ_EXTERNREF_OBJ_FLAG ≠
            sampleConstants.WASM_OBJ_EXTERNREF_OBJ_FLAG ∧
          Int.land rttRef sampleConstants.WASM_OBJ_ANYREF_OBJ_FLAG ≠
            sampleConstants.WASM_OBJ_ANYREF_OBJ_FLAG ∧
          sampleCorruptRtt.read "WASMRttTypeRef" rttRef [.field "type_flag"] = some flag ∧
          pyGet? sampleConstants.TYPE_KIND flag = none) :=
  have h : WASMObj.createObj sampleConstants sampleCorruptRtt 16 = .error .indexError := rfl
  ⟨h, (WASMObj.createObj_eq_error h).2⟩

theorem WASMObj.createObj_of_type_flag_out_of_range {c : Constants} {t : Target}
    {objRef header rttRef flag : ℤ} (hbit : getBit objRef 0 = 0)
    (hheader : t.read c.HMU_HEADER_TYPE (objToHmu c objRef) [] = some header)
    (hrtt : t.read "wasm_obj_t" objRef [.field "header"] = some rttRef)
    (hexternRef : Int.land rttRef c.WASM_OBJ_EXTERNREF_OBJ_FLAG ≠ c.WASM_OBJ_EXTERNREF_OBJ_FLAG)
    (hany : Int.land rttRef c.WASM_OBJ_ANYREF_OBJ_FLAG ≠ c.WASM_OBJ_ANYREF_OBJ_FLAG)
    (hflag : t.read "WASMRttTypeRef" rttRef [.field "type_flag"] = some flag)
    (hrange : (c.TYPE_KIND.length : ℤ) ≤ flag) :
    WASMObj.createObj c t objRef = .error .indexError := by
  have hrtt' : WASMRtt.init c t rttRef = .error .indexError := by
    simp [WASMRtt.init, hexternRef, hany, Target.get_eq_ok hflag, pyIndex_of_length_le _ hrange,
      bind, Except.bind]
  have hbody : WASMObj.createObjBody c t objRef = .error .indexError := by
    cases hdecode : HMU.decode c (objToHmu c objRef) header with
    | error e =>
      obtain rfl : e = .indexError := by simpa using HMU.decode_raisesOnly c _ header e hdecode
      simp [WASMObj.createObjBody, HMU.init, Target.get_eq_ok hheader, hdecode, bind, Except.bind]
    | ok hmu =>
      simp [WASMObj.createObjBody, HMU.init, objGetRttRef, Target.get_eq_ok hheader, hdecode,
        Target.get_eq_ok hrtt, hrtt', bind, Except.bind]
  simp [WASMObj.createObj, hbit, hbody, catchNone]

theorem WASMObj.createObj_of_type_flag_out_of_range_sample :
    WASMObj.createObj sampleConstants sampleCorruptRtt 16 = .error .indexError :=
  WASMObj.createObj_of_type_flag_out_of_range (by decide) rfl rfl (by decide) (by decide) rfl
    (by decide)

end WamrGdb
