import WamrGdb.Types

/-!
# Function instances and interpreter frames

`wamr_exec_env.py` reads a function instance (`WASMFunction`) and an interpreter frame
(`WASMInterpFrame`). A frame is built without reading memory: its layout is known from the field
names of `WASMInterpFrame` in the debug information, and `ret_offset` marks the fast interpreter.
`get_prev_frame` reads `prev_frame` and stops at a null pointer.

`_get_conditional_info` prints the optional fields of the frame and, when the frame has a function,
an operand-stack table of `max_cell_num = param_cell_num + local_cell_num (+ max_stack_cell_num)`
rows. Row `i` shows cell `i` of `lp` and, when the frame has a reference-shadow array
(`frame_ref`, or the result of the inferior function `get_frame_ref`), byte `i` of it; it is
marked `param end`, `local end`, `dynamic space start`, `sp` or `ret_offset` by comparing `i` with
a value of the frame. `operandStack_rows` says the rows are the slots `0, ..., max_cell_num - 1` in
order, each built from its own cells, and `markers_spec` where each marker goes. The `sp` marker
compares the row index with `int(frame['sp'])`, which is a pointer into `lp`: for every frame whose
`lp` area lies above address `0`, the row of the cell `sp` points at carries no `sp` marker
(`getConditionalInfo_sp_marker_misses_row`). The table reads no cell past its last row: a target
that differs only along access paths ending with an index outside `[0, max_cell_num)` gives the
same information (`getConditionalInfo_of_agreeOff`). The frame code reads memory and nothing else,
so its only failure is `gdb.MemoryError` (`getConditionalInfo_raisesOnly`).

In the classic interpreter `lp` and `operand` are arrays of the frame, which gdb prints element by
element in the `lp` and `operand` lines; the model reads each of them as the scalar path
`[.field "lp"]` (or `[.field "operand"]`), which stands for the printed array as a whole.
-/

set_option autoImplicit false
set_option relaxedAutoImplicit false

namespace WamrGdb

/-! ### Function instances -/

/-- A function instance as `WASMFunction(ref)` reads it. -/
structure WASMFunction where
  ref : ℤ
  isImportFunc : Bool
  paramCount : ℤ
  localCount : ℤ
  paramCellNum : ℤ
  retCellNum : ℤ
  localCellNum : ℤ
  funcType : WASMFuncType

/-- `WASMFunction(ref)`. An import dereferences `u.func_import` for its module and field names
and takes its function type there; a defined function takes it from `u.func`. -/
def WASMFunction.init (t : Target) (ref : ℤ) : Except PyExc WASMFunction := do
  let get := fun (path : List Sel) ↦ t.get "WASMFunctionInstance" ref path
  let isImportFunc := (← get [.field "is_import_func"]) ≠ 0
  let paramCount ← get [.field "param_count"]
  let localCount ← get [.field "local_count"]
  let paramCellNum ← get [.field "param_cell_num"]
  let retCellNum ← get [.field "ret_cell_num"]
  let localCellNum ← get [.field "local_cell_num"]
  let funcType ← if isImportFunc then do
      let _ ← get [.field "u", .field "func_import"]
      WASMFuncType.init t (← get [.field "u", .field "func_import", .field "func_type"])
    else WASMFuncType.init t (← get [.field "u", .field "func", .field "func_type"])
  pure ⟨ref, isImportFunc, paramCount, localCount, paramCellNum, retCellNum, localCellNum, funcType⟩

/-- `WASMFunction.get_max_stack_cell_num()`. -/
def WASMFunction.getMaxStackCellNum (t : Target) (func : WASMFunction) : Except PyExc ℤ :=
  let maxLocalSlot := func.paramCellNum + func.localCellNum
  if func.isImportFunc then pure maxLocalSlot
  else do
    let maxStackCellNum ←
      t.get "WASMFunctionInstance" func.ref [.field "u", .field "func", .field "max_stack_cell_num"]
    pure (maxLocalSlot + maxStackCellNum)

/-! ### Interpreter frames -/

/-- An interpreter frame as `WASMInterpFrame(ref)` builds it: the field names of its layout, and
the fast interpreter when they include `ret_offset`. -/
structure WASMInterpFrame where
  ref : ℤ
  fastInterp : Bool
  interpFrameFields : List String

/-- `WASMInterpFrame(ref)`, which reads no memory. -/
def WASMInterpFrame.init (t : Target) (ref : ℤ) : WASMInterpFrame :=
  ⟨ref, "ret_offset" ∈ t.fields "WASMInterpFrame", t.fields "WASMInterpFrame"⟩

/-- `WASMInterpFrame(ref) if ref != 0 else None`, as `get_prev_frame` and `WASMExecEnv.__init__`
write it. -/
def WASMInterpFrame.ofNonNull (t : Target) (ref : ℤ) : Option WASMInterpFrame :=
  if ref ≠ 0 then some (WASMInterpFrame.init t ref) else none

/-- `WASMInterpFrame.get_prev_frame()`: `None` at a null `prev_frame`. -/
def WASMInterpFrame.getPrevFrame (t : Target) (frame : WASMInterpFrame) :
    Except PyExc (Option WASMInterpFrame) := do
  let ref ← t.get "WASMInterpFrame" frame.ref [.field "prev_frame"]
  pure (WASMInterpFrame.ofNonNull t ref)

/-! ### The operand-stack table -/

/-- Where the reference-shadow bytes come from: the `frame_ref` field of a fast-interpreter frame,
or the pointer the inferior function `get_frame_ref` returned. -/
inductive FrameRefArray where
  | field
  | result (ptr : ℤ)

/-- `frame_ref_array`: `None` when the frame has no `frame_ref` field and `get_frame_ref` is missing
or its call raises `gdb.error`. -/
def WASMInterpFrame.frameRefArray (t : Target) (frame : WASMInterpFrame) : Option FrameRefArray :=
  if "frame_ref" ∈ frame.interpFrameFields then some .field
  else match t.getFrameRef with
    | some getFrameRef => (getFrameRef frame.ref).map .result
    | none => none

/-- Python's truth value of `frame_ref_array`: a pointer is true when it is not null. -/
def FrameRefArray.truthy (t : Target) (frame : WASMInterpFrame) :
    Option FrameRefArray → Except PyExc Bool
  | none => pure false
  | some .field => do pure ((← t.get "WASMInterpFrame" frame.ref [.field "frame_ref"]) ≠ 0)
  | some (.result ptr) => pure (ptr ≠ 0)

/-- `int(frame_ref_array[i])`. -/
def FrameRefArray.byte (t : Target) (frame : WASMInterpFrame) : FrameRefArray → ℤ → Except PyExc ℤ
  | .field, i => t.get "WASMInterpFrame" frame.ref [.field "frame_ref", .index i]
  | .result ptr, i => t.get "uint8_t" ptr [.index i]

/-- Python's truth value of `lp_array`: the `lp` pointer of a fast-interpreter frame (one with an
`operand` field) is true when it is not null; the `lp` array of a classic frame is always true. -/
def WASMInterpFrame.lpTruthy (t : Target) (frame : WASMInterpFrame) : Except PyExc Bool :=
  if "operand" ∈ frame.interpFrameFields then do
    pure ((← t.get "WASMInterpFrame" frame.ref [.field "lp"]) ≠ 0)
  else pure true

/-- `int(lp_array[i])` when `lp_array` is true. -/
def WASMInterpFrame.lpCell (t : Target) (frame : WASMInterpFrame) (i : ℤ) :
    Except PyExc (Option ℤ) := do
  if (← frame.lpTruthy t) then some <$> t.get "WASMInterpFrame" frame.ref [.field "lp", .index i]
  else pure none

/-- `int(frame_ref_array[i])` when `frame_ref_array` is true. -/
def WASMInterpFrame.refCell (t : Target) (frame : WASMInterpFrame) :
    Option FrameRefArray → ℤ → Except PyExc (Option ℤ)
  | none, _ => pure none
  | some array, i => do
    if (← FrameRefArray.truthy t frame (some array)) then some <$> array.byte t frame i
    else pure none

/-- The cells of row `i`, as the first loop appends them. -/
def WASMInterpFrame.cells (t : Target) (frame : WASMInterpFrame)
    (frameRef : Option FrameRefArray) (i : ℤ) : Except PyExc (Option ℤ × Option ℤ) := do
  let value ← frame.lpCell t i
  let ref ← frame.refCell t frameRef i
  pure (value, ref)

/-- The annotations of a row of the table. -/
inductive Marker where
  | paramEnd
  | localEnd
  | dynamicSpaceStart
  | sp
  | retOffset
  deriving DecidableEq, Repr

/-- The test `name in fields and i == int(frame[name])` of the second loop, for `sp` and
`ret_offset`. -/
def WASMInterpFrame.atField (t : Target) (frame : WASMInterpFrame) (name : String) (i : ℤ) :
    Except PyExc Bool :=
  if name ∈ frame.interpFrameFields then
    (fun v ↦ decide (i = v)) <$> t.get "WASMInterpFrame" frame.ref [.field name]
  else pure false

/-- The markers of row `i`, in the order the second loop appends them. -/
def WASMInterpFrame.markers (t : Target) (frame : WASMInterpFrame)
    (paramCellNum localCellNum i : ℤ) : Except PyExc (List Marker) := do
  let atSp ← frame.atField t "sp" i
  let atRetOffset ← frame.atField t "ret_offset" i
  pure ((if i = paramCellNum - 1 then [.paramEnd] else []) ++
    (if i = paramCellNum + localCellNum - 1 then [.localEnd] else []) ++
    (if i = paramCellNum + localCellNum then [.dynamicSpaceStart] else []) ++
    (if atSp then [.sp] else []) ++ (if atRetOffset then [.retOffset] else []))

/-- A row of the operand-stack table: the slot, the `lp` cell and the reference byte it shows, and
its markers. -/
structure OperandRow where
  slot : ℤ
  value : Option ℤ
  ref : Option ℤ
  markers : List Marker

/-- Python's `frame_ref_array or lp_array`: the second is only tested when the first is false. -/
def WASMInterpFrame.tablePresent (t : Target) (frame : WASMInterpFrame)
    (frameRef : Option FrameRefArray) : Except PyExc Bool := do
  if (← FrameRefArray.truthy t frame frameRef) then pure true else frame.lpTruthy t

/-- The operand-stack part of `_get_conditional_info`: `None` when `max_cell_num` is not positive
or neither array is true. -/
def WASMInterpFrame.operandStack (t : Target) (frame : WASMInterpFrame)
    (paramCellNum localCellNum maxCellNum : ℤ) : Except PyExc (Option (List OperandRow)) :=
  if 0 < maxCellNum then do
    let frameRef := frame.frameRefArray t
    let present ← frame.tablePresent t frameRef
    if present then
      let data ← (pyRange 0 maxCellNum).mapM fun i ↦ Prod.mk i <$> frame.cells t frameRef i
      let rows ← data.mapM fun row ↦ (fun markers ↦ ⟨row.1, row.2.1, row.2.2, markers⟩) <$>
        frame.markers t paramCellNum localCellNum row.1
      pure (some rows)
    else pure none
  else pure none

/-- The optional fields `_get_conditional_info` prints when the frame has them, in its order. -/
def conditionalFields : List String :=
  ["ret_offset", "lp", "operand", "sp_bottom", "sp_boundary", "sp", "csp_bottom", "csp_boundary",
    "csp", "frame_ref"]

/-- What `_get_conditional_info` shows: the optional fields with their values, and the
operand-stack table. -/
structure ConditionalInfo where
  fields : List (String × ℤ)
  operandStack : Option (List OperandRow)

/-- `WASMInterpFrame._get_conditional_info()`. -/
def WASMInterpFrame.getConditionalInfo (t : Target) (frame : WASMInterpFrame) :
    Except PyExc ConditionalInfo := do
  let fields ← (conditionalFields.filter (· ∈ frame.interpFrameFields)).mapM fun name ↦ do
    pure (name, ← t.get "WASMInterpFrame" frame.ref [.field name])
  let function ← t.get "WASMInterpFrame" frame.ref [.field "function"]
  if function ≠ 0 then
    let func ← WASMFunction.init t function
    let maxCellNum ← func.getMaxStackCellNum t
    let operandStack ← frame.operandStack t func.paramCellNum func.localCellNum maxCellNum
    pure ⟨fields, operandStack⟩
  else pure ⟨fields, none⟩

/-- `WASMInterpFrame.get_stack_i32(index)`: element `index` of `_get_operand_stack()`, the `lp` of
the frame, for any index. -/
def WASMInterpFrame.getStackI32 (t : Target) (frame : WASMInterpFrame) (index : ℤ) :
    Except PyExc ℤ :=
  t.get "WASMInterpFrame" frame.ref [.field "lp", .index index]

/-! ### Where the rows and the markers go -/

section Table

variable {t : Target} {frame : WASMInterpFrame}

theorem WASMInterpFrame.atField_eq_ok {name : String} {i : ℤ} {b : Bool}
    (h : frame.atField t name i = .ok b) :
    b = true ↔ name ∈ frame.interpFrameFields ∧
      t.read "WASMInterpFrame" frame.ref [.field name] = some i := by
  unfold WASMInterpFrame.atField at h
  split_ifs at h with hname
  · obtain ⟨v, hv, rfl⟩ := map_eq_ok.mp h
    simp [hname, Target.get_eq_ok_iff.mp hv, eq_comm]
  · cases h
    simp [hname]

/-- Each marker is on the row its test names: `param end` on `param_cell_num - 1`, `local end` on
`param_cell_num + local_cell_num - 1`, `dynamic space start` on `param_cell_num + local_cell_num`,
and `sp` and `ret_offset` on the row equal to the value of that field. -/
theorem WASMInterpFrame.markers_spec {paramCellNum localCellNum i : ℤ} {markers : List Marker}
    (h : frame.markers t paramCellNum localCellNum i = .ok markers) :
    (Marker.paramEnd ∈ markers ↔ i = paramCellNum - 1) ∧
      (Marker.localEnd ∈ markers ↔ i = paramCellNum + localCellNum - 1) ∧
      (Marker.dynamicSpaceStart ∈ markers ↔ i = paramCellNum + localCellNum) ∧
      (Marker.sp ∈ markers ↔ "sp" ∈ frame.interpFrameFields ∧
        t.read "WASMInterpFrame" frame.ref [.field "sp"] = some i) ∧
      (Marker.retOffset ∈ markers ↔ "ret_offset" ∈ frame.interpFrameFields ∧
        t.read "WASMInterpFrame" frame.ref [.field "ret_offset"] = some i) := by
  obtain ⟨atSp, hsp, h⟩ := bind_eq_ok.mp h
  obtain ⟨atRetOffset, hret, h⟩ := bind_eq_ok.mp h
  cases h
  rw [← WASMInterpFrame.atField_eq_ok hsp, ← WASMInterpFrame.atField_eq_ok hret]
  simp only [List.mem_append, List.mem_ite_nil_right, List.mem_singleton, reduceCtorEq, and_false,
    or_false, false_or, and_true]

/-- The two loops over the slots `slots`: every row is its slot with that slot's cells and markers. -/
theorem WASMInterpFrame.rows_of_loops {frameRef : Option FrameRefArray}
    {paramCellNum localCellNum : ℤ} {slots : List ℤ} {data : List (ℤ × Option ℤ × Option ℤ)}
    {rows : List OperandRow}
    (hdata : List.Forall₂ (fun i row ↦ Prod.mk i <$> frame.cells t frameRef i = .ok row) slots data)
    (hrows : List.Forall₂ (fun (row : ℤ × Option ℤ × Option ℤ) (full : OperandRow) ↦
      (fun markers ↦ (⟨row.1, row.2.1, row.2.2, markers⟩ : OperandRow)) <$>
        frame.markers t paramCellNum localCellNum row.1 = .ok full) data rows) :
    rows.map (·.slot) = slots ∧
      ∀ row ∈ rows, frame.cells t frameRef row.slot = .ok (row.value, row.ref) ∧
        frame.markers t paramCellNum localCellNum row.slot = .ok row.markers := by
  induction hdata generalizing rows with
  | nil =>
    cases hrows
    simp
  | cons hcell _ ih =>
    cases hrows with
    | cons hrow hrest =>
      obtain ⟨cells, hcells, rfl⟩ := map_eq_ok.mp hcell
      obtain ⟨markers, hmarkers, rfl⟩ := map_eq_ok.mp hrow
      obtain ⟨hslots, hall⟩ := ih hrest
      exact ⟨by simp [hslots], by simpa [hcells, hmarkers] using hall⟩

/-- A table that is shown has one row per slot `0, ..., max_cell_num - 1`, in order, each built
from the cells and the markers of its own slot. -/
theorem WASMInterpFrame.operandStack_rows {paramCellNum localCellNum maxCellNum : ℤ}
    {rows : List OperandRow}
    (h : frame.operandStack t paramCellNum localCellNum maxCellNum = .ok (some rows)) :
    rows.map (·.slot) = pyRange 0 maxCellNum ∧
      ∀ row ∈ rows, frame.cells t (frame.frameRefArray t) row.slot = .ok (row.value, row.ref) ∧
        frame.markers t paramCellNum localCellNum row.slot = .ok row.markers := by
  unfold WASMInterpFrame.operandStack at h
  split_ifs at h
  · obtain ⟨present, -, h⟩ := bind_eq_ok.mp h
    split_ifs at h
    · obtain ⟨data, hdata, h⟩ := bind_eq_ok.mp h
      obtain ⟨rows', hrows, h⟩ := bind_eq_ok.mp h
      cases h
      exact WASMInterpFrame.rows_of_loops (mapM_eq_ok hdata) (mapM_eq_ok hrows)
    · cases h
  · cases h

/-- A row shows cell `i` of `lp` exactly when `lp_array` is true, and only byte `i` of the
reference-shadow array. -/
theorem WASMInterpFrame.cells_spec {frameRef : Option FrameRefArray} {i : ℤ}
    {value ref : Option ℤ} (h : frame.cells t frameRef i = .ok (value, ref)) :
    (∀ v, value = some v ↔ frame.lpTruthy t = .ok true ∧
      t.read "WASMInterpFrame" frame.ref [.field "lp", .index i] = some v) ∧
      ∀ r, ref = some r → ∃ array, frameRef = some array ∧ array.byte t frame i = .ok r := by
  obtain ⟨value', hvalue, h⟩ := bind_eq_ok.mp h
  obtain ⟨ref', href, h⟩ := bind_eq_ok.mp h
  cases h
  refine ⟨fun v ↦ ?_, fun r hr ↦ ?_⟩
  · obtain ⟨lp, hlp, hvalue⟩ := bind_eq_ok.mp hvalue
    cases lp with
    | false => cases hvalue; simp [hlp]
    | true =>
      obtain ⟨v', hv', rfl⟩ := map_eq_ok.mp hvalue
      simp [hlp, Target.get_eq_ok_iff.mp hv']
  · cases frameRef with
    | none => cases href; cases hr
    | some array =>
      obtain ⟨present, -, href⟩ := bind_eq_ok.mp href
      split_ifs at href
      · obtain ⟨r', hr', rfl⟩ := map_eq_ok.mp href
        cases hr
        exact ⟨array, rfl, hr'⟩
      · cases href
        cases hr

/-- `WASMFunction(ref)` keeps `ref`. -/
theorem WASMFunction.init_ref {function : ℤ} {func : WASMFunction}
    (h : WASMFunction.init t function = .ok func) : func.ref = function := by
  iterate 6 obtain ⟨_, -, h⟩ := bind_eq_ok.mp h
  dsimp only at h
  split_ifs at h <;>
  · repeat obtain ⟨_, -, h⟩ := bind_eq_ok.mp h
    cases h
    rfl

/-- `get_max_stack_cell_num` is `param_cell_num + local_cell_num`, plus `max_stack_cell_num` for a
function that is not an import. -/
theorem WASMFunction.getMaxStackCellNum_eq_ok {func : WASMFunction} {maxCellNum : ℤ}
    (h : func.getMaxStackCellNum t = .ok maxCellNum) :
    (func.isImportFunc = true → maxCellNum = func.paramCellNum + func.localCellNum) ∧
      (func.isImportFunc = false → ∃ maxStackCellNum, t.read "WASMFunctionInstance" func.ref
        [.field "u", .field "func", .field "max_stack_cell_num"] = some maxStackCellNum ∧
        maxCellNum = func.paramCellNum + func.localCellNum + maxStackCellNum) := by
  unfold WASMFunction.getMaxStackCellNum at h
  cases himport : func.isImportFunc
  · simp only [himport] at h
    obtain ⟨maxStackCellNum, hread, h⟩ := bind_eq_ok.mp h
    cases h
    exact ⟨nofun, fun _ ↦ ⟨_, Target.get_eq_ok_iff.mp hread, rfl⟩⟩
  · simp only [himport, if_true] at h
    cases h
    exact ⟨fun _ ↦ rfl, nofun⟩

/-- A table in the output of `_get_conditional_info` comes from the function of the frame. -/
theorem WASMInterpFrame.getConditionalInfo_operandStack {info : ConditionalInfo}
    {rows : List OperandRow} (hinfo : frame.getConditionalInfo t = .ok info)
    (hrows : info.operandStack = some rows) :
    ∃ function func maxCellNum,
      t.read "WASMInterpFrame" frame.ref [.field "function"] = some function ∧ function ≠ 0 ∧
      WASMFunction.init t function = .ok func ∧ func.getMaxStackCellNum t = .ok maxCellNum ∧
      frame.operandStack t func.paramCellNum func.localCellNum maxCellNum = .ok (some rows) := by
  obtain ⟨fields, -, hinfo⟩ := bind_eq_ok.mp hinfo
  obtain ⟨function, hfunction, hinfo⟩ := bind_eq_ok.mp hinfo
  split_ifs at hinfo with hnonzero
  · obtain ⟨func, hfunc, hinfo⟩ := bind_eq_ok.mp hinfo
    obtain ⟨maxCellNum, hmax, hinfo⟩ := bind_eq_ok.mp hinfo
    obtain ⟨table, htable, hinfo⟩ := bind_eq_ok.mp hinfo
    cases hinfo
    cases hrows
    exact ⟨function, func, maxCellNum, Target.get_eq_ok_iff.mp hfunction, hnonzero, hfunc, hmax,
      htable⟩
  · cases hinfo
    cases hrows

/-- A classic frame at `4096` whose function at `8192` is defined, with one parameter cell, one
local cell and two stack cells; its `sp` is `4164`, cell `1` of an `lp` area at `4160`. Every other
read gives `1`. -/
def sampleClassicFrame : Target where
  read _ _ path := match path with
    | [.field "function"] => some 8192
    | [.field "is_import_func"] => some 0
    | [.field "sp"] => some 4164
    | [.field "u", .field "func", .field "max_stack_cell_num"] => some 2
    | _ => some 1
  fields _ := ["prev_frame", "function", "ip", "sp", "lp"]
  getFrameRef := none

/-- The operand-stack table of `_get_conditional_info`: one row per slot `0, ..., max_cell_num - 1`
of the frame's function, in order; a row shows the `lp` cell of its slot exactly when `lp_array` is
true and only the reference byte of its slot; `param end`, `local end` and `dynamic space start`
are on the rows `param_cell_num - 1`, `param_cell_num + local_cell_num - 1` and
`param_cell_num + local_cell_num`, and `ret_offset` on the row equal to the frame's `ret_offset`. -/
theorem WASMInterpFrame.getConditionalInfo_table {info : ConditionalInfo} {rows : List OperandRow}
    (hinfo : frame.getConditionalInfo t = .ok info) (hrows : info.operandStack = some rows) :
    ∃ function func maxCellNum,
      t.read "WASMInterpFrame" frame.ref [.field "function"] = some function ∧
      WASMFunction.init t function = .ok func ∧
      (func.isImportFunc = true → maxCellNum = func.paramCellNum + func.localCellNum) ∧
      (func.isImportFunc = false → ∃ maxStackCellNum, t.read "WASMFunctionInstance" function
        [.field "u", .field "func", .field "max_stack_cell_num"] = some maxStackCellNum ∧
        maxCellNum = func.paramCellNum + func.localCellNum + maxStackCellNum) ∧
      rows.map (·.slot) = pyRange 0 maxCellNum ∧
      ∀ row ∈ rows,
        (∀ v, row.value = some v ↔ frame.lpTruthy t = .ok true ∧
          t.read "WASMInterpFrame" frame.ref [.field "lp", .index row.slot] = some v) ∧
        (∀ r, row.ref = some r →
          ∃ array, frame.frameRefArray t = some array ∧ array.byte t frame row.slot = .ok r) ∧
        (Marker.paramEnd ∈ row.markers ↔ row.slot = func.paramCellNum - 1) ∧
        (Marker.localEnd ∈ row.markers ↔ row.slot = func.paramCellNum + func.localCellNum - 1) ∧
        (Marker.dynamicSpaceStart ∈ row.markers ↔
          row.slot = func.paramCellNum + func.localCellNum) ∧
        (Marker.retOffset ∈ row.markers ↔ "ret_offset" ∈ frame.interpFrameFields ∧
          t.read "WASMInterpFrame" frame.ref [.field "ret_offset"] = some row.slot) := by
  obtain ⟨function, func, maxCellNum, hfunction, -, hfunc, hmax, htable⟩ :=
    WASMInterpFrame.getConditionalInfo_operandStack hinfo hrows
  obtain ⟨hslots, hall⟩ := WASMInterpFrame.operandStack_rows htable
  obtain rfl : func.ref = function := WASMFunction.init_ref hfunc
  obtain ⟨himport, hdefined⟩ := WASMFunction.getMaxStackCellNum_eq_ok hmax
  refine ⟨func.ref, func, maxCellNum, hfunction, hfunc, himport, hdefined, hslots,
    fun row hrow ↦ ?_⟩
  obtain ⟨hcells, hmarkers⟩ := hall row hrow
  obtain ⟨hvalue, href⟩ := WASMInterpFrame.cells_spec hcells
  obtain ⟨hparam, hlocal, hdynamic, -, hret⟩ := WASMInterpFrame.markers_spec hmarkers
  exact ⟨hvalue, href, hparam, hlocal, hdynamic, hret⟩

theorem WASMInterpFrame.getConditionalInfo_sp_marker_misses_row {info : ConditionalInfo}
    {rows : List OperandRow} (lpAddr k : ℤ) (hinfo : frame.getConditionalInfo t = .ok info)
    (hrows : info.operandStack = some rows) (hlp : 0 < lpAddr) (hk : 0 ≤ k)
    (hsp : t.read "WASMInterpFrame" frame.ref [.field "sp"] = some (lpAddr + 4 * k)) :
    ∀ row ∈ rows, row.slot = k → Marker.sp ∉ row.markers := by
  obtain ⟨-, func, maxCellNum, -, -, -, -, htable⟩ :=
    WASMInterpFrame.getConditionalInfo_operandStack hinfo hrows
  intro row hrow hslot hmarker
  have hat := ((WASMInterpFrame.markers_spec
    ((WASMInterpFrame.operandStack_rows htable).2 row hrow).2).2.2.2.1.mp hmarker).2
  rw [hsp, hslot, Option.some.injEq] at hat
  omega

theorem WASMInterpFrame.getConditionalInfo_sp_marker_misses_row_sample :
    ∃ info rows, (WASMInterpFrame.init sampleClassicFrame 4096).getConditionalInfo
        sampleClassicFrame = .ok info ∧ info.operandStack = some rows ∧
      rows.map (·.slot) = [0, 1, 2, 3] ∧ ∀ row ∈ rows, row.slot = 1 → Marker.sp ∉ row.markers :=
  ⟨_, _, rfl, rfl, rfl,
    @WASMInterpFrame.getConditionalInfo_sp_marker_misses_row sampleClassicFrame
      (WASMInterpFrame.init sampleClassicFrame 4096) _ _ 4160 1 rfl rfl (by decide) (by decide)
      rfl⟩

end Table

/-! ### What the table reads -/

/-- The access paths that end with an index outside `[0, maxCellNum)`, among them the `lp` cells
and the reference bytes past an operand-stack table of `maxCellNum` rows. -/
def IndexOutside (maxCellNum : ℤ) (_ty : String) (_addr : ℤ) (path : List Sel) : Prop :=
  ∃ i, (i < 0 ∨ maxCellNum ≤ i) ∧ path.getLast? = some (.index i)

section Reads

variable {t t' : Target} {maxCellNum : ℤ}

/-- A read along a path that ends with a field, or with an index inside the table, is the same in
both targets. -/
theorem get_eq_of_agreeOff (hagree : t.AgreeOff (IndexOutside maxCellNum) t') {ty : String}
    {addr : ℤ} {path : List Sel}
    (hpath : ∀ i, path.getLast? = some (.index i) → 0 ≤ i ∧ i < maxCellNum) :
    t'.get ty addr path = t.get ty addr path :=
  hagree.get_eq fun ⟨i, hout, hlast⟩ ↦ by have := hpath i hlast; omega

theorem WASMFuncType.init_of_agreeOff (hagree : t.AgreeOff (IndexOutside maxCellNum) t') (ref : ℤ) :
    WASMFuncType.init t' ref = WASMFuncType.init t ref := by
  simp (disch := simp) only [WASMFuncType.init, get_eq_of_agreeOff hagree]

theorem WASMFunction.init_of_agreeOff (hagree : t.AgreeOff (IndexOutside maxCellNum) t') (ref : ℤ) :
    WASMFunction.init t' ref = WASMFunction.init t ref := by
  simp (disch := simp) only [WASMFunction.init, get_eq_of_agreeOff hagree,
    WASMFuncType.init_of_agreeOff hagree]

theorem WASMFunction.getMaxStackCellNum_of_agreeOff
    (hagree : t.AgreeOff (IndexOutside maxCellNum) t') (func : WASMFunction) :
    func.getMaxStackCellNum t' = func.getMaxStackCellNum t := by
  simp (disch := simp) only [WASMFunction.getMaxStackCellNum, get_eq_of_agreeOff hagree]

variable {frame : WASMInterpFrame}

theorem WASMInterpFrame.tablePresent_of_agreeOff
    (hagree : t.AgreeOff (IndexOutside maxCellNum) t') (frameRef : Option FrameRefArray) :
    frame.tablePresent t' frameRef = frame.tablePresent t frameRef := by
  rcases frameRef with _ | _ | ptr <;>
  simp (disch := simp) only [WASMInterpFrame.tablePresent, FrameRefArray.truthy,
    WASMInterpFrame.lpTruthy, get_eq_of_agreeOff hagree]

theorem WASMInterpFrame.cells_of_agreeOff (hagree : t.AgreeOff (IndexOutside maxCellNum) t')
    (frameRef : Option FrameRefArray) {i : ℤ} (hi : i ∈ pyRange 0 maxCellNum) :
    frame.cells t' frameRef i = frame.cells t frameRef i := by
  have hi := mem_pyRange.mp hi
  rcases frameRef with _ | _ | ptr <;>
  simp (disch := simp [hi]) only [WASMInterpFrame.cells, WASMInterpFrame.lpCell,
    WASMInterpFrame.refCell, WASMInterpFrame.lpTruthy, FrameRefArray.truthy, FrameRefArray.byte,
    get_eq_of_agreeOff hagree]

theorem WASMInterpFrame.markers_of_agreeOff (hagree : t.AgreeOff (IndexOutside maxCellNum) t')
    (paramCellNum localCellNum i : ℤ) :
    frame.markers t' paramCellNum localCellNum i = frame.markers t paramCellNum localCellNum i := by
  simp (disch := simp) only [WASMInterpFrame.markers, WASMInterpFrame.atField,
    get_eq_of_agreeOff hagree]

theorem WASMInterpFrame.operandStack_of_agreeOff
    (hagree : t.AgreeOff (IndexOutside maxCellNum) t') (paramCellNum localCellNum : ℤ) :
    frame.operandStack t' paramCellNum localCellNum maxCellNum =
      frame.operandStack t paramCellNum localCellNum maxCellNum := by
  have hframeRef : frame.frameRefArray t' = frame.frameRefArray t := by
    simp only [WASMInterpFrame.frameRefArray, hagree.getFrameRef_eq]
  have hdata : (pyRange 0 maxCellNum).mapM (fun i ↦ Prod.mk i <$> frame.cells t' (frame.frameRefArray t) i) =
      (pyRange 0 maxCellNum).mapM (fun i ↦ Prod.mk i <$> frame.cells t (frame.frameRefArray t) i) :=
    mapM_congr_of_mem fun i hi ↦ by rw [WASMInterpFrame.cells_of_agreeOff hagree _ hi]
  simp only [WASMInterpFrame.operandStack, hframeRef, WASMInterpFrame.tablePresent_of_agreeOff hagree,
    hdata, WASMInterpFrame.markers_of_agreeOff hagree]

/-- `_get_conditional_info` reads no array element outside the table: a target that differs from
`t` only along access paths that end with an index outside `[0, max_cell_num)`, such as the `lp`
cells and the reference bytes past the last row, gives the same information. The `lp` and
`operand` lines of a classic frame print whole arrays from element `0` on, read here as scalar
paths: the agreement covers the table, not those lines, and when `max_cell_num = 0` it allows a
change to the printed element `0`.

Assumes: the frame's function `function` is `func`, with `max_cell_num` cells. -/
theorem WASMInterpFrame.getConditionalInfo_of_agreeOff {function : ℤ} {func : WASMFunction}
    (hfunction : t.read "WASMInterpFrame" frame.ref [.field "function"] = some function)
    (hfunc : WASMFunction.init t function = .ok func)
    (hmax : func.getMaxStackCellNum t = .ok maxCellNum)
    (hagree : t.AgreeOff (IndexOutside maxCellNum) t') :
    frame.getConditionalInfo t' = frame.getConditionalInfo t := by
  simp (disch := simp) only [WASMInterpFrame.getConditionalInfo, get_eq_of_agreeOff hagree,
    Target.get_eq_ok hfunction, WASMFunction.init_of_agreeOff hagree, hfunc,
    WASMFunction.getMaxStackCellNum_of_agreeOff hagree, hmax,
    WASMInterpFrame.operandStack_of_agreeOff hagree, bind, Except.bind]

/-- `sampleClassicFrame` with every element past the fourth of every array read as `99`. -/
def samplePastTable : Target where
  read ty addr path := match path.getLast? with
    | some (.index i) => if 4 ≤ i then some 99 else sampleClassicFrame.read ty addr path
    | _ => sampleClassicFrame.read ty addr path
  fields := sampleClassicFrame.fields
  getFrameRef := sampleClassicFrame.getFrameRef

theorem WASMInterpFrame.getConditionalInfo_of_agreeOff_sample :
    samplePastTable.read "WASMInterpFrame" 4096 [.field "lp", .index 4] ≠
        sampleClassicFrame.read "WASMInterpFrame" 4096 [.field "lp", .index 4] ∧
      (WASMInterpFrame.init sampleClassicFrame 4096).getConditionalInfo samplePastTable =
        (WASMInterpFrame.init sampleClassicFrame 4096).getConditionalInfo sampleClassicFrame :=
  ⟨by decide, @WASMInterpFrame.getConditionalInfo_of_agreeOff sampleClassicFrame samplePastTable 4
    (WASMInterpFrame.init sampleClassicFrame 4096) 8192 _ rfl rfl rfl
    ⟨rfl, rfl, fun ty addr path hpath ↦ by
      simp only [samplePastTable]
      split
      · next i hlast => exact if_neg fun hi ↦ hpath ⟨i, .inr hi, hlast⟩
      · rfl⟩⟩

end Reads

/-! ### What the frame code raises -/

section Raises

variable (t : Target)

/-- A read of the target raises `gdb.MemoryError` only. -/
theorem Target.get_raisesOnly (ty : String) (addr : ℤ) (path : List Sel) :
    RaisesOnly [.memoryError] (t.get ty addr path) :=
  RaisesOnly.get t ty addr path (List.mem_singleton_self _)

theorem WASMFunction.init_raisesOnly (ref : ℤ) :
    RaisesOnly [.memoryError] (WASMFunction.init t ref) := by
  refine (Target.get_raisesOnly t _ _ _).bind fun _ ↦ ?_
  iterate 5 refine (Target.get_raisesOnly t _ _ _).bind fun _ ↦ ?_
  dsimp only
  split
  · exact (Target.get_raisesOnly t _ _ _).bind fun _ ↦ (Target.get_raisesOnly t _ _ _).bind
      fun _ ↦ (WASMFuncType.init_raisesOnly t _).bind fun _ ↦ RaisesOnly.pure _
  · exact (Target.get_raisesOnly t _ _ _).bind fun _ ↦
      (WASMFuncType.init_raisesOnly t _).bind fun _ ↦ RaisesOnly.pure _

theorem WASMFunction.getMaxStackCellNum_raisesOnly (func : WASMFunction) :
    RaisesOnly [.memoryError] (func.getMaxStackCellNum t) :=
  RaisesOnly.ite (RaisesOnly.pure _)
    ((Target.get_raisesOnly t _ _ _).bind fun _ ↦ RaisesOnly.pure _)

variable (frame : WASMInterpFrame)

theorem FrameRefArray.truthy_raisesOnly :
    ∀ frameRef, RaisesOnly [.memoryError] (FrameRefArray.truthy t frame frameRef)
  | none => RaisesOnly.pure _
  | some .field => (Target.get_raisesOnly t _ _ _).bind fun _ ↦ RaisesOnly.pure _
  | some (.result _) => RaisesOnly.pure _

theorem WASMInterpFrame.lpTruthy_raisesOnly : RaisesOnly [.memoryError] (frame.lpTruthy t) :=
  RaisesOnly.ite ((Target.get_raisesOnly t _ _ _).bind fun _ ↦ RaisesOnly.pure _)
    (RaisesOnly.pure _)

theorem WASMInterpFrame.cells_raisesOnly (frameRef : Option FrameRefArray) (i : ℤ) :
    RaisesOnly [.memoryError] (frame.cells t frameRef i) := by
  refine RaisesOnly.bind ?_ fun _ ↦ RaisesOnly.bind ?_ fun _ ↦ RaisesOnly.pure _
  · exact (frame.lpTruthy_raisesOnly t).bind fun _ ↦
      RaisesOnly.ite ((Target.get_raisesOnly t _ _ _).map _) (RaisesOnly.pure _)
  · cases frameRef with
    | none => exact RaisesOnly.pure _
    | some array =>
      exact (FrameRefArray.truthy_raisesOnly t frame _).bind fun _ ↦ RaisesOnly.ite
        (by cases array <;> exact (Target.get_raisesOnly t _ _ _).map _) (RaisesOnly.pure _)

theorem WASMInterpFrame.markers_raisesOnly (paramCellNum localCellNum i : ℤ) :
    RaisesOnly [.memoryError] (frame.markers t paramCellNum localCellNum i) :=
  have hat : ∀ name, RaisesOnly [.memoryError] (frame.atField t name i) :=
    fun _ ↦ RaisesOnly.ite ((Target.get_raisesOnly t _ _ _).map _) (RaisesOnly.pure _)
  (hat _).bind fun _ ↦ (hat _).bind fun _ ↦ RaisesOnly.pure _

theorem WASMInterpFrame.operandStack_raisesOnly (paramCellNum localCellNum maxCellNum : ℤ) :
    RaisesOnly [.memoryError] (frame.operandStack t paramCellNum localCellNum maxCellNum) := by
  refine RaisesOnly.ite ?_ (RaisesOnly.pure _)
  refine RaisesOnly.bind ?_ fun _ ↦ RaisesOnly.ite ?_ (RaisesOnly.pure _)
  · exact (FrameRefArray.truthy_raisesOnly t frame _).bind fun _ ↦
      RaisesOnly.ite (RaisesOnly.pure _) (frame.lpTruthy_raisesOnly t)
  · exact (RaisesOnly.mapM (fun _ ↦ (frame.cells_raisesOnly t _ _).map _) _).bind fun _ ↦
      (RaisesOnly.mapM (fun _ ↦ (frame.markers_raisesOnly t _ _ _).map _) _).bind fun _ ↦
        RaisesOnly.pure _

theorem WASMInterpFrame.getConditionalInfo_raisesOnly :
    RaisesOnly [.memoryError] (frame.getConditionalInfo t) :=
  (RaisesOnly.mapM (fun _ ↦ (Target.get_raisesOnly t _ _ _).bind fun _ ↦ RaisesOnly.pure _)
      _).bind fun _ ↦ (Target.get_raisesOnly t _ _ _).bind fun _ ↦ RaisesOnly.ite
    ((WASMFunction.init_raisesOnly t _).bind fun func ↦
      (func.getMaxStackCellNum_raisesOnly t).bind fun _ ↦
        (frame.operandStack_raisesOnly t _ _ _).bind fun _ ↦ RaisesOnly.pure _)
    (RaisesOnly.pure _)

theorem WASMInterpFrame.getPrevFrame_raisesOnly :
    RaisesOnly [.memoryError] (frame.getPrevFrame t) :=
  (Target.get_raisesOnly t _ _ _).bind fun _ ↦ RaisesOnly.pure _

end Raises

end WamrGdb
