import WamrGdb.Target

/-!
# Defined-type descriptors

`wamr_types.py` decodes the defined types of a module: `WASMType.create_type` reads the kind code of
the descriptor, looks it up in `TYPE_KIND` and builds a `WASMArrayType`, `WASMStructType` or
`WASMFuncType`, all inside a `try` that turns `gdb.MemoryError` and `IndexError` into `None`.
Every exception its body can raise is one of those two, so `createType_ne_error` shows it never
raises, whatever the memory image and the tables. The descriptor's address is taken as the integer
gdb has already fetched: the first line of `create_type` casts and dereferences its argument, a
`gdb.Value` that may be lazy, outside the `try`, and what that fetch raises is not modelled.

A field or a signature position of a reference type `REF_TYPE_HT_NON_NULLABLE` or
`REF_TYPE_HT_NULLABLE` is completed with the type index of its entry in the sparse
`ref_type_maps` of the descriptor. The two lookups are written apart. The struct one scans every
entry and appends ` (typeid=N)` for each entry whose index matches (`appendMatches`); the function
one returns the first match, or `None` (`WASMFuncType.getReftypeId`). Over readable maps
(`RefTypeMapsAre`) the first is `matchSuffix` and the second `firstMatch`
(`appendMatches_eq`, `findRef_eq`). With pairwise distinct indices they agree on a position that
has an entry (`fieldInfo_typeAt_of_entry`). On a position with no entry they do not: the function
type prints ` (typeid=None)` and the struct field prints the bare type
(`fieldInfo_typeAt_of_no_entry`).
-/

set_option autoImplicit false
set_option relaxedAutoImplicit false

namespace WamrGdb

/-! ### The factory -/

/-- A function type as `WASMFuncType(ref)` builds it, which reads both counts. -/
structure WASMFuncType where
  ref : ℤ
  paramCount : ℤ
  resultCount : ℤ

/-- `WASMFuncType(ref)`. -/
def WASMFuncType.init (t : Target) (ref : ℤ) : Except PyExc WASMFuncType := do
  let paramCount ← t.get "WASMFuncType" ref [.field "param_count"]
  let resultCount ← t.get "WASMFuncType" ref [.field "result_count"]
  pure ⟨ref, paramCount, resultCount⟩

/-- The decoded defined types. `WASMArrayType(ref)` and `WASMStructType(ref)` read nothing when
they are built. -/
inductive WASMType where
  | array (ref : ℤ)
  | struct (ref : ℤ)
  | func (type : WASMFuncType)

/-- The body of `WASMType.create_type(ref)` inside its `try`. -/
def WASMType.createTypeBody (c : Constants) (t : Target) (ref : ℤ) :
    Except PyExc (Option WASMType) := do
  let typeFlag ← pyIndex c.TYPE_KIND (← t.get "WASMType" ref [.field "type_flag"])
  if typeFlag = "WASM_TYPE_ARRAY" then pure (some (.array ref))
  else if typeFlag = "WASM_TYPE_STRUCT" then pure (some (.struct ref))
  else if typeFlag = "WASM_TYPE_FUNC" then (fun type ↦ some (.func type)) <$> WASMFuncType.init t ref
  else pure none

/-- `WASMType.create_type(ref)`, for the descriptor whose address is `ref`. -/
def WASMType.createType (c : Constants) (t : Target) (ref : ℤ) : Except PyExc (Option WASMType) :=
  catchNone [.memoryError, .indexError] (WASMType.createTypeBody c t ref)

theorem WASMFuncType.init_raisesOnly (t : Target) (ref : ℤ) :
    RaisesOnly [.memoryError] (WASMFuncType.init t ref) :=
  (RaisesOnly.get _ _ _ _ (by simp)).bind fun _ ↦ (RaisesOnly.get _ _ _ _ (by simp)).bind
    fun _ ↦ RaisesOnly.pure _

theorem WASMType.createTypeBody_raisesOnly (c : Constants) (t : Target) (ref : ℤ) :
    RaisesOnly [.memoryError, .indexError] (WASMType.createTypeBody c t ref) := by
  refine (RaisesOnly.get _ _ _ _ (by simp)).bind fun flag ↦
    (RaisesOnly.pyIndex _ _ (by simp)).bind fun typeFlag ↦ ?_
  split_ifs
  · exact RaisesOnly.pure _
  · exact RaisesOnly.pure _
  · exact ((WASMFuncType.init_raisesOnly t ref).map _).mono (by simp)
  · exact RaisesOnly.pure _

/-- `WASMType.create_type` never raises. -/
theorem WASMType.createType_ne_error (c : Constants) (t : Target) (ref : ℤ) (e : PyExc) :
    WASMType.createType c t ref ≠ .error e :=
  catchNone_ne_error (WASMType.createTypeBody_raisesOnly c t ref) e

theorem WASMType.createType_raisesOnly (c : Constants) (t : Target) (ref : ℤ) (allowed : List PyExc) :
    RaisesOnly allowed (WASMType.createType c t ref) :=
  fun e h ↦ absurd h (WASMType.createType_ne_error c t ref e)

/-! ### Reference types and their entries in `ref_type_maps` -/

/-- The two names of `WASM_TYPE_MAP` the scripts complete with a type index. -/
def isRefHt (type : String) : Bool :=
  type = "REF_TYPE_HT_NON_NULLABLE" || type = "REF_TYPE_HT_NULLABLE"

/-- The text `f" (typeid={id})"`. -/
def typeidSuffix (id : String) : String :=
  " (typeid=" ++ id ++ ")"

/-- Python's `str` of an optional integer. -/
def pyStr : Option ℤ → String
  | some v => toString v
  | none => "None"

/-- The path of field `name` of entry `j` of `ref_type_maps`. -/
def refTypeMapPath (j : ℤ) (name : String) : List Sel :=
  [.field "ref_type_maps", .index j, .field name]

/-- The path of `ref_type_maps[j]['ref_type']['ref_ht_typeidx']['type_idx']`. -/
def typeIdxPath (j : ℤ) : List Sel :=
  [.field "ref_type_maps", .index j, .field "ref_type", .field "ref_ht_typeidx", .field "type_idx"]

/-- The descriptor at `ref`, viewed as `ty`, has `entries.length` entries in `ref_type_maps`, entry
`j` reading the index `entries[j].1` and the type index `entries[j].2`. -/
def RefTypeMapsAre (t : Target) (ty : String) (ref : ℤ) (entries : List (ℤ × ℤ)) : Prop :=
  t.read ty ref [.field "ref_type_map_count"] = some entries.length ∧
    List.Forall₂ (fun j entry ↦ t.read ty ref (refTypeMapPath j "index") = some entry.1 ∧
      t.read ty ref (typeIdxPath j) = some entry.2) (pyRange 0 entries.length) entries

/-- What the struct lookup appends for position `i`: one suffix per matching entry. -/
def matchSuffix : List (ℤ × ℤ) → ℤ → String
  | [], _ => ""
  | entry :: entries, i =>
    (if entry.1 = i then typeidSuffix (toString entry.2) else "") ++ matchSuffix entries i

/-- What the function lookup returns for position `i`: the type index of the first match. -/
def firstMatch : List (ℤ × ℤ) → ℤ → Option ℤ
  | [], _ => none
  | entry :: entries, i => if entry.1 = i then some entry.2 else firstMatch entries i

theorem matchSuffix_of_forall_ne {entries : List (ℤ × ℤ)} {i : ℤ}
    (hnone : ∀ entry ∈ entries, entry.1 ≠ i) : matchSuffix entries i = "" := by
  induction entries with
  | nil => rfl
  | cons head tail ih =>
    simp [matchSuffix, hnone head (List.mem_cons_self _ _),
      ih fun e he ↦ hnone e (List.mem_cons_of_mem _ he)]

theorem firstMatch_of_forall_ne {entries : List (ℤ × ℤ)} {i : ℤ}
    (hnone : ∀ entry ∈ entries, entry.1 ≠ i) : firstMatch entries i = none := by
  induction entries with
  | nil => rfl
  | cons head tail ih =>
    simp [firstMatch, hnone head (List.mem_cons_self _ _),
      ih fun e he ↦ hnone e (List.mem_cons_of_mem _ he)]

/-- Assumes: the indices of the entries are pairwise distinct. The entry of a position is its only
match. -/
theorem matchSuffix_of_mem {entries : List (ℤ × ℤ)} (hnodup : (entries.map Prod.fst).Nodup)
    {entry : ℤ × ℤ} (hmem : entry ∈ entries) :
    matchSuffix entries entry.1 = typeidSuffix (toString entry.2) := by
  induction entries with
  | nil => cases hmem
  | cons head tail ih =>
    rw [List.map_cons, List.nodup_cons] at hnodup
    rcases List.mem_cons.mp hmem with rfl | htail
    · have hnone : ∀ e ∈ tail, e.1 ≠ entry.1 := fun e he heq ↦
        hnodup.1 (heq ▸ List.mem_map_of_mem _ he)
      simp [matchSuffix, matchSuffix_of_forall_ne hnone]
    · have hne : head.1 ≠ entry.1 := fun heq ↦ hnodup.1 (heq ▸ List.mem_map_of_mem _ htail)
      simp [matchSuffix, hne, ih hnodup.2 htail]

theorem firstMatch_of_mem {entries : List (ℤ × ℤ)} (hnodup : (entries.map Prod.fst).Nodup)
    {entry : ℤ × ℤ} (hmem : entry ∈ entries) : firstMatch entries entry.1 = some entry.2 := by
  induction entries with
  | nil => cases hmem
  | cons head tail ih =>
    rw [List.map_cons, List.nodup_cons] at hnodup
    rcases List.mem_cons.mp hmem with rfl | htail
    · simp [firstMatch]
    · have hne : head.1 ≠ entry.1 := fun heq ↦ hnodup.1 (heq ▸ List.mem_map_of_mem _ htail)
      simp [firstMatch, hne, ih hnodup.2 htail]

/-! ### Struct fields -/

/-- One entry of the list `WASMStructType._get_fields_info` returns. -/
structure FieldInfo where
  flag : ℤ
  type : String
  size : ℤ
  offset : ℤ
  deriving DecidableEq, Repr

/-- The path of field `name` of `fields[i]`. -/
def fieldPath (i : ℤ) (name : String) : List Sel :=
  [.field "fields", .index i, .field name]

namespace WASMStructType

/-- The inner loop of `_get_fields_info`: every entry `j` of `ref_type_maps` whose index is `i`
appends ` (typeid=...)` to the type. -/
def appendMatches (t : Target) (ref i : ℤ) : List ℤ → String → Except PyExc String
  | [], type => pure type
  | j :: js, type => do
    let index ← t.get "WASMStructType" ref (refTypeMapPath j "index")
    if index = i then
      let typeIdx ← t.get "WASMStructType" ref (typeIdxPath j)
      appendMatches t ref i js (type ++ typeidSuffix (toString typeIdx))
    else appendMatches t ref i js type

/-- Field `i` of `_get_fields_info`. -/
def fieldInfo (c : Constants) (t : Target) (ref i : ℤ) : Except PyExc FieldInfo := do
  let flag ← t.get "WASMStructType" ref (fieldPath i "field_flags")
  let type ← pyLookup c.WASM_TYPE_MAP (← t.get "WASMStructType" ref (fieldPath i "field_type"))
  let size ← t.get "WASMStructType" ref (fieldPath i "field_size")
  let offset ← t.get "WASMStructType" ref (fieldPath i "field_offset")
  let type ← if isRefHt type then do
      let retTypeCount ← t.get "WASMStructType" ref [.field "ref_type_map_count"]
      appendMatches t ref i (pyRange 0 retTypeCount) type
    else pure type
  pure ⟨flag, type, size, offset⟩

/-- `WASMStructType._get_fields_info()` on the struct type at `ref`. -/
def getFieldsInfo (c : Constants) (t : Target) (ref : ℤ) : Except PyExc (List FieldInfo) := do
  let fieldCount ← t.get "WASMStructType" ref [.field "field_count"]
  (pyRange 0 fieldCount).mapM (fieldInfo c t ref)

/-- Over readable entries the loop appends `matchSuffix`. -/
theorem appendMatches_eq {t : Target} {ref i : ℤ} {js : List ℤ} {entries : List (ℤ × ℤ)}
    (hreads : List.Forall₂ (fun j entry ↦
      t.read "WASMStructType" ref (refTypeMapPath j "index") = some entry.1 ∧
        t.read "WASMStructType" ref (typeIdxPath j) = some entry.2) js entries)
    (type : String) : appendMatches t ref i js type = .ok (type ++ matchSuffix entries i) := by
  induction hreads generalizing type with
  | nil => simp [appendMatches, matchSuffix, pure, Except.pure]
  | @cons j entry js entries hread _ ih =>
    by_cases hi : entry.1 = i <;>
      simp [appendMatches, matchSuffix, Target.get_eq_ok hread.1, Target.get_eq_ok hread.2, hi, ih,
        bind, Except.bind, String.append_assoc]

section Raises

variable {allowed : List PyExc}

theorem appendMatches_raisesOnly (hmem : PyExc.memoryError ∈ allowed) (t : Target) (ref i : ℤ) :
    ∀ js type, RaisesOnly allowed (appendMatches t ref i js type)
  | [], _ => RaisesOnly.pure _
  | _ :: js, _ => (RaisesOnly.get _ _ _ _ hmem).bind fun _ ↦ RaisesOnly.ite
      ((RaisesOnly.get _ _ _ _ hmem).bind fun _ ↦ appendMatches_raisesOnly hmem t ref i js _)
      (appendMatches_raisesOnly hmem t ref i js _)

/-- The fields of a struct type are read from memory and their types looked up in
`WASM_TYPE_MAP`. -/
theorem getFieldsInfo_raisesOnly (hmem : PyExc.memoryError ∈ allowed)
    (hkey : PyExc.keyError ∈ allowed) (c : Constants) (t : Target) (ref : ℤ) :
    RaisesOnly allowed (getFieldsInfo c t ref) := by
  refine (RaisesOnly.get _ _ _ _ hmem).bind fun _ ↦ RaisesOnly.mapM (fun i ↦ ?_) _
  refine (RaisesOnly.get _ _ _ _ hmem).bind fun _ ↦ (RaisesOnly.get _ _ _ _ hmem).bind fun _ ↦
    (RaisesOnly.pyLookup _ _ hkey).bind fun _ ↦ (RaisesOnly.get _ _ _ _ hmem).bind fun _ ↦
      (RaisesOnly.get _ _ _ _ hmem).bind fun _ ↦ ?_
  dsimp only
  split
  · exact (RaisesOnly.get _ _ _ _ hmem).bind fun _ ↦
      (appendMatches_raisesOnly hmem t ref i _ _).bind fun _ ↦ RaisesOnly.pure _
  · exact RaisesOnly.pure _

end Raises

end WASMStructType

/-! ### Function signatures -/

namespace WASMFuncType

/-- The loop of `_get_reftype_id(i)`: the type index of the first entry whose index is `i`. -/
def findRef (t : Target) (ref i : ℤ) : List ℤ → Except PyExc (Option ℤ)
  | [] => pure none
  | j :: js => do
    let index ← t.get "WASMFuncType" ref (refTypeMapPath j "index")
    if index = i then some <$> t.get "WASMFuncType" ref (typeIdxPath j)
    else findRef t ref i js

/-- `WASMFuncType._get_reftype_id(i)`. -/
def getReftypeId (t : Target) (funcType : WASMFuncType) (i : ℤ) : Except PyExc (Option ℤ) := do
  let retTypeCount ← t.get "WASMFuncType" funcType.ref [.field "ref_type_map_count"]
  findRef t funcType.ref i (pyRange 0 retTypeCount)

/-- The loop body `_get_parameter_types` and `_get_result_types` share, at position `i`. -/
def typeAt (c : Constants) (t : Target) (funcType : WASMFuncType) (i : ℤ) : Except PyExc String := do
  let type ← pyLookup c.WASM_TYPE_MAP (← t.get "WASMFuncType" funcType.ref [.field "types", .index i])
  if isRefHt type then
    let typeId ← funcType.getReftypeId t i
    pure (type ++ typeidSuffix (pyStr typeId))
  else pure type

/-- The types of the positions `range(start, stop)`. -/
def typesIn (c : Constants) (t : Target) (funcType : WASMFuncType) (start stop : ℤ) :
    Except PyExc (List String) :=
  (pyRange start stop).mapM (typeAt c t funcType)

/-- `WASMFuncType._get_parameter_types()`. -/
def getParameterTypes (c : Constants) (t : Target) (funcType : WASMFuncType) :
    Except PyExc (List String) :=
  typesIn c t funcType 0 funcType.paramCount

/-- `WASMFuncType._get_result_types()`. -/
def getResultTypes (c : Constants) (t : Target) (funcType : WASMFuncType) :
    Except PyExc (List String) :=
  typesIn c t funcType funcType.paramCount (funcType.paramCount + funcType.resultCount)

/-- Over readable entries the loop returns `firstMatch`. -/
theorem findRef_eq {t : Target} {ref i : ℤ} {js : List ℤ} {entries : List (ℤ × ℤ)}
    (hreads : List.Forall₂ (fun j entry ↦
      t.read "WASMFuncType" ref (refTypeMapPath j "index") = some entry.1 ∧
        t.read "WASMFuncType" ref (typeIdxPath j) = some entry.2) js entries) :
    findRef t ref i js = .ok (firstMatch entries i) := by
  induction hreads with
  | nil => rfl
  | @cons j entry js entries hread _ ih =>
    by_cases hi : entry.1 = i <;>
      simp [findRef, firstMatch, Target.get_eq_ok hread.1, Target.get_eq_ok hread.2, hi, ih,
        bind, Except.bind]

section Raises

variable {allowed : List PyExc}

theorem findRef_raisesOnly (hmem : PyExc.memoryError ∈ allowed) (t : Target) (ref i : ℤ) :
    ∀ js, RaisesOnly allowed (findRef t ref i js)
  | [] => RaisesOnly.pure _
  | _ :: js => (RaisesOnly.get _ _ _ _ hmem).bind fun _ ↦
      RaisesOnly.ite ((RaisesOnly.get _ _ _ _ hmem).map _) (findRef_raisesOnly hmem t ref i js)

/-- The types of a signature are read from memory and looked up in `WASM_TYPE_MAP`. -/
theorem typesIn_raisesOnly (hmem : PyExc.memoryError ∈ allowed) (hkey : PyExc.keyError ∈ allowed)
    (c : Constants) (t : Target) (funcType : WASMFuncType) (start stop : ℤ) :
    RaisesOnly allowed (typesIn c t funcType start stop) :=
  RaisesOnly.mapM (fun _ ↦ (RaisesOnly.get _ _ _ _ hmem).bind fun _ ↦
    (RaisesOnly.pyLookup _ _ hkey).bind fun _ ↦ RaisesOnly.ite
      (((RaisesOnly.get _ _ _ _ hmem).bind fun _ ↦ findRef_raisesOnly hmem t _ _ _).bind
        fun _ ↦ RaisesOnly.pure _)
      (RaisesOnly.pure _)) _

end Raises

end WASMFuncType

/-! ### The two lookups side by side -/

/-- `fields[i]` of the struct type at `ref` reads the flags `flag`, the type code `code`, the size
`size` and the offset `offset`. -/
def FieldEntryIs (t : Target) (ref i flag code size offset : ℤ) : Prop :=
  t.read "WASMStructType" ref (fieldPath i "field_flags") = some flag ∧
    t.read "WASMStructType" ref (fieldPath i "field_type") = some code ∧
    t.read "WASMStructType" ref (fieldPath i "field_size") = some size ∧
    t.read "WASMStructType" ref (fieldPath i "field_offset") = some offset

section Lookups

variable {c : Constants} {t : Target} {code : ℤ} {type : String} {entries : List (ℤ × ℤ)}

/-- Assumes: field `i` is readable with a reference type and the maps are readable. The field's
type is completed with `matchSuffix`. -/
theorem WASMStructType.fieldInfo_of_isRefHt {ref i flag size offset : ℤ}
    (hentry : FieldEntryIs t ref i flag code size offset) (hcode : c.WASM_TYPE_MAP code = some type)
    (href : isRefHt type) (hmaps : RefTypeMapsAre t "WASMStructType" ref entries) :
    WASMStructType.fieldInfo c t ref i = .ok ⟨flag, type ++ matchSuffix entries i, size, offset⟩ := by
  obtain ⟨hflag, htype, hsize, hoffset⟩ := hentry
  simp [fieldInfo, Target.get_eq_ok hflag, Target.get_eq_ok htype, Target.get_eq_ok hsize,
    Target.get_eq_ok hoffset, Target.get_eq_ok hmaps.1, pyLookup, hcode, href,
    WASMStructType.appendMatches_eq hmaps.2, bind, Except.bind, pure, Except.pure]

/-- Assumes: position `i` of the signature is readable with a reference type and the maps are
readable. The type is completed with `firstMatch`, printed by Python's `str`. -/
theorem WASMFuncType.typeAt_of_isRefHt {funcType : WASMFuncType} {i : ℤ}
    (htypes : t.read "WASMFuncType" funcType.ref [.field "types", .index i] = some code)
    (hcode : c.WASM_TYPE_MAP code = some type) (href : isRefHt type)
    (hmaps : RefTypeMapsAre t "WASMFuncType" funcType.ref entries) :
    WASMFuncType.typeAt c t funcType i = .ok (type ++ typeidSuffix (pyStr (firstMatch entries i))) := by
  simp [typeAt, getReftypeId, Target.get_eq_ok htypes, Target.get_eq_ok hmaps.1, pyLookup, hcode,
    href, WASMFuncType.findRef_eq hmaps.2, bind, Except.bind, pure, Except.pure]

/-- On a position with no entry in its map, the struct field prints its bare type and the
signature position its type followed by ` (typeid=None)`. The field and the position are read
apart, each with its own type code and reference type.

Assumes: field `i` of the struct type at `structRef` is readable with the reference type
`fieldType`, position `i` of the signature of `funcType` is readable with the reference type
`sigType`, both maps are readable, and neither has an entry with index `i`. -/
theorem fieldInfo_typeAt_of_no_entry {structRef i flag structCode size offset : ℤ}
    {fieldType sigType : String} {funcType : WASMFuncType} {funcCode : ℤ}
    {structEntries funcEntries : List (ℤ × ℤ)}
    (hentry : FieldEntryIs t structRef i flag structCode size offset)
    (hstructCode : c.WASM_TYPE_MAP structCode = some fieldType) (hfieldRef : isRefHt fieldType)
    (htypes : t.read "WASMFuncType" funcType.ref [.field "types", .index i] = some funcCode)
    (hfuncCode : c.WASM_TYPE_MAP funcCode = some sigType) (hsigRef : isRefHt sigType)
    (hstructMaps : RefTypeMapsAre t "WASMStructType" structRef structEntries)
    (hfuncMaps : RefTypeMapsAre t "WASMFuncType" funcType.ref funcEntries)
    (hstructNone : ∀ entry ∈ structEntries, entry.1 ≠ i)
    (hfuncNone : ∀ entry ∈ funcEntries, entry.1 ≠ i) :
    WASMStructType.fieldInfo c t structRef i = .ok ⟨flag, fieldType, size, offset⟩ ∧
      WASMFuncType.typeAt c t funcType i = .ok (sigType ++ " (typeid=None)") := by
  rw [WASMStructType.fieldInfo_of_isRefHt hentry hstructCode hfieldRef hstructMaps,
    WASMFuncType.typeAt_of_isRefHt htypes hfuncCode hsigRef hfuncMaps,
    matchSuffix_of_forall_ne hstructNone, firstMatch_of_forall_ne hfuncNone]
  exact ⟨by rw [String.append_empty], rfl⟩

/-- A struct type at `16` whose field `0` has the type code `0x63`, and a function type at `32`
whose position `0` has it too; each has `count` entries in `ref_type_maps`, entry `j` with index
`j` and type index `5`. -/
def sampleTypes (count : ℤ) : Target where
  read _ _ path := match path with
    | [.field "fields", .index _, .field "field_type"] => some 0x63
    | [.field "types", .index _] => some 0x63
    | [.field "ref_type_map_count"] => some count
    | [.field "ref_type_maps", .index j, .field "index"] => some j
    | _ => some 5
  fields _ := []
  getFrameRef := none

theorem fieldInfo_typeAt_of_no_entry_sample :
    WASMStructType.fieldInfo sampleConstants (sampleTypes 0) 16 0 =
        .ok ⟨5, "REF_TYPE_HT_NULLABLE", 5, 5⟩ ∧
      WASMFuncType.typeAt sampleConstants (sampleTypes 0) ⟨32, 1, 0⟩ 0 =
        .ok ("REF_TYPE_HT_NULLABLE" ++ " (typeid=None)") :=
  fieldInfo_typeAt_of_no_entry ⟨rfl, rfl, rfl, rfl⟩ rfl rfl rfl rfl rfl
    (show RefTypeMapsAre (sampleTypes 0) "WASMStructType" 16 [] from ⟨rfl, .nil⟩)
    (show RefTypeMapsAre (sampleTypes 0) "WASMFuncType" 32 [] from ⟨rfl, .nil⟩)
    (fun _ h ↦ nomatch h) (fun _ h ↦ nomatch h)

/-- The struct field and the signature position are both completed with ` (typeid=N)`, `N` the
type index of the entry of its own map for position `i`; the field and the position are read
apart, each with its own type code and reference type.

Assumes: field `i` of the struct type at `structRef` is readable with the reference type
`fieldType`, position `i` of the signature of `funcType` is readable with the reference type
`sigType`, both maps are readable with pairwise distinct indices, and each has an entry for
position `i`. -/
theorem fieldInfo_typeAt_of_entry {structRef i flag structCode size offset : ℤ}
    {fieldType sigType : String} {funcType : WASMFuncType} {funcCode : ℤ}
    {structEntries funcEntries : List (ℤ × ℤ)} {structEntry funcEntry : ℤ × ℤ}
    (hentry : FieldEntryIs t structRef i flag structCode size offset)
    (hstructCode : c.WASM_TYPE_MAP structCode = some fieldType) (hfieldRef : isRefHt fieldType)
    (htypes : t.read "WASMFuncType" funcType.ref [.field "types", .index i] = some funcCode)
    (hfuncCode : c.WASM_TYPE_MAP funcCode = some sigType) (hsigRef : isRefHt sigType)
    (hstructMaps : RefTypeMapsAre t "WASMStructType" structRef structEntries)
    (hfuncMaps : RefTypeMapsAre t "WASMFuncType" funcType.ref funcEntries)
    (hstructNodup : (structEntries.map Prod.fst).Nodup) (hfuncNodup : (funcEntries.map Prod.fst).Nodup)
    (hstructMem : structEntry ∈ structEntries) (hfuncMem : funcEntry ∈ funcEntries)
    (hstructIndex : structEntry.1 = i) (hfuncIndex : funcEntry.1 = i) :
    WASMStructType.fieldInfo c t structRef i =
        .ok ⟨flag, fieldType ++ typeidSuffix (toString structEntry.2), size, offset⟩ ∧
      WASMFuncType.typeAt c t funcType i = .ok (sigType ++ typeidSuffix (toString funcEntry.2)) := by
  subst hstructIndex
  rw [WASMStructType.fieldInfo_of_isRefHt hentry hstructCode hfieldRef hstructMaps,
    WASMFuncType.typeAt_of_isRefHt htypes hfuncCode hsigRef hfuncMaps,
    matchSuffix_of_mem hstructNodup hstructMem, ← hfuncIndex, firstMatch_of_mem hfuncNodup hfuncMem]
  exact ⟨rfl, rfl⟩

theorem fieldInfo_typeAt_of_entry_sample :
    WASMStructType.fieldInfo sampleConstants (sampleTypes 1) 16 0 =
        .ok ⟨5, "REF_TYPE_HT_NULLABLE" ++ typeidSuffix "5", 5, 5⟩ ∧
      WASMFuncType.typeAt sampleConstants (sampleTypes 1) ⟨32, 1, 0⟩ 0 =
        .ok ("REF_TYPE_HT_NULLABLE" ++ typeidSuffix "5") :=
  @fieldInfo_typeAt_of_entry sampleConstants (sampleTypes 1) 16 0 5 0x63 5 5
    "REF_TYPE_HT_NULLABLE" "REF_TYPE_HT_NULLABLE" ⟨32, 1, 0⟩ 0x63 [(0, 5)] [(0, 5)] (0, 5) (0, 5)
    ⟨rfl, rfl, rfl, rfl⟩ rfl (by decide) rfl rfl (by decide) ⟨rfl, .cons ⟨rfl, rfl⟩ .nil⟩ ⟨rfl, .cons ⟨rfl, rfl⟩ .nil⟩ (by decide) (by decide)
    (List.mem_singleton_self _) (List.mem_singleton_self _) rfl rfl

end Lookups

end WamrGdb
