import Mathlib.Data.List.Chain
import WamrGdb.Frame
import WamrGdb.Print

/-!
# Execution environments and the walk over the frame chain

`WASMExecEnv(ref)` reads four fields of an execution environment and its current frame, and probes
the layout of `wasm_exec_env_t` for the features of the build. Three loops of the scripts follow
the `prev_frame` pointers of interpreter frames: `_get_dynamic_info` counts the frames, and the
commands `wamr_interp_frame_dump_all` and `wamr_exec_env_dump_all_interp_frame` print them. They
are one loop, `walkFrames`, which differs only in what it does with each frame; it is run for a
number of iterations (`fuel`) and says how it ended; more iterations only extend what it has
printed, and change nothing once it has ended (`walkFrames_add_mono`). The features of an
environment are probed from the layout alone, never from memory (`WASMExecEnv.features_of_fields`).

A walk along a path of frames first visits the frames of the path, in order
(`walkFrames_of_prevPath`). On a chain that reaches a null pointer it visits the frames of the
chain, stopping at the first visit that raises, and otherwise finishes (`walkFrames_of_frameChain`);
these frames are pairwise distinct (`FrameChain.nodup`). Nothing in the loop bounds it: when every
frame the chain reaches is not null and can be read, as on a cycle, the walk is still running after
any number of iterations (`walkFrames_of_prevClosed`), and a walk ends exactly when its chain reaches
a null pointer, an unreadable `prev_frame` or a frame whose visit raises (`PrevStops`,
`walkFrames_stops_iff`; from a first frame that may be null, `FrameStops`,
`walkFrames_some_stops_iff`). A walk whose visits raise only exceptions of a set that holds
`gdb.MemoryError` ends raising only one of them (`walkFrames_raised`).

Whatever a walk does with its frames, it follows those of the bare traversal, the walk that returns
each frame itself, up to the first visit that raises (`walkFrames_eq_visitThen`). So the frame
count is the traversal's length (`WASMExecEnv.getDynamicInfo_eq_traversal`), and the frames a dump
prints are linked by the `prev_frame` each of them shows (`walkFrames_str_linked`).
`WASMExecEnv.__str__` prints the frame count after reading `prev` and `next`
(`WASMExecEnv.str_frameCount`), and `WASMFunction.__str__` prints a function with the function type
it was built with.

Scope. The text of the dumps is not modelled: a printed frame, function or environment is the
record of what it shows (`FrameDump`, `FunctionDump`, `ExecEnvDump`).
-/

set_option autoImplicit false
set_option relaxedAutoImplicit false

namespace WamrGdb

/-! ### Printing a frame -/

/-- What `str(frame)` shows, without its text and colours: the frame, its interpreter, the three
pointers of its header and its conditional information. -/
structure FrameDump where
  ref : ℤ
  fastInterp : Bool
  prevFrame : ℤ
  function : ℤ
  ip : ℤ
  info : ConditionalInfo

/-- `WASMInterpFrame.__str__`, which reads `prev_frame`, `function` and `ip` before the
conditional information. -/
def WASMInterpFrame.str (t : Target) (frame : WASMInterpFrame) : Except PyExc FrameDump := do
  let get := fun (name : String) ↦ t.get "WASMInterpFrame" frame.ref [.field name]
  let prevFrame ← get "prev_frame"
  let function ← get "function"
  let ip ← get "ip"
  let info ← frame.getConditionalInfo t
  pure ⟨frame.ref, frame.fastInterp, prevFrame, function, ip, info⟩

/-- A printed frame is the frame at its `ref`, and shows the `prev_frame` it read there. -/
theorem WASMInterpFrame.str_prevFrame {t : Target} {frame : WASMInterpFrame} {dump : FrameDump}
    (h : frame.str t = .ok dump) :
    dump.ref = frame.ref ∧
      t.read "WASMInterpFrame" frame.ref [.field "prev_frame"] = some dump.prevFrame := by
  obtain ⟨prevFrame, hprev, h⟩ := bind_eq_ok.mp h
  iterate 3 obtain ⟨_, -, h⟩ := bind_eq_ok.mp h
  cases h
  exact ⟨rfl, Target.get_eq_ok_iff.mp hprev⟩

theorem WASMInterpFrame.str_raisesOnly (t : Target) (frame : WASMInterpFrame) :
    RaisesOnly [.memoryError] (frame.str t) :=
  (Target.get_raisesOnly t _ _ _).bind fun _ ↦ (Target.get_raisesOnly t _ _ _).bind fun _ ↦
    (Target.get_raisesOnly t _ _ _).bind fun _ ↦
      (frame.getConditionalInfo_raisesOnly t).bind fun _ ↦ RaisesOnly.pure _

/-! ### Printing a function -/

/-- What `str(function)` shows, without its text: `null` for the function instance at address
`0`; otherwise the function, the pointers to the module and field names of an import, its local
count and result cells, and its function type. -/
inductive FunctionDump where
  | null
  | function (ref : ℤ) (importName : Option (ℤ × ℤ)) (localCount retCellNum : ℤ)
      (funcType : TypeDump)

/-- `import_name` of `WASMFunction.__str__`: the module and field names of an import, which
`WASMFunction(ref)` did not fetch, and `"no"` for a function that is not an import. -/
def WASMFunction.importName (t : Target) (func : WASMFunction) : Except PyExc (Option (ℤ × ℤ)) :=
  if func.isImportFunc then do
    let get := fun (name : String) ↦
      t.get "WASMFunctionInstance" func.ref [.field "u", .field "func_import", .field name]
    let importModule ← get "module_name"
    let importField ← get "field_name"
    pure (some (importModule, importField))
  else pure none

/-- `WASMFunction.__str__`: the function type is printed by `WASMFuncType.__str__`. -/
def WASMFunction.str (c : Constants) (t : Target) (func : WASMFunction) :
    Except PyExc FunctionDump :=
  if func.ref = 0 then pure .null
  else do
    let importName ← func.importName t
    let funcType ← WASMType.str c t (.func func.funcType)
    pure (.function func.ref importName func.localCount func.retCellNum funcType)

/-- Printing a function reads memory and looks up `WASM_TYPE_MAP`, and nothing else. -/
theorem WASMFunction.str_raisesOnly {allowed : List PyExc} (hmem : PyExc.memoryError ∈ allowed)
    (hkey : PyExc.keyError ∈ allowed) (c : Constants) (t : Target) (func : WASMFunction) :
    RaisesOnly allowed (func.str c t) :=
  RaisesOnly.ite (RaisesOnly.pure _)
    ((RaisesOnly.ite ((RaisesOnly.get _ _ _ _ hmem).bind fun _ ↦
        (RaisesOnly.get _ _ _ _ hmem).bind fun _ ↦ RaisesOnly.pure _) (RaisesOnly.pure _)).bind
      fun _ ↦ (WASMType.str_raisesOnly hmem hkey c t _).bind fun _ ↦ RaisesOnly.pure _)

/-! ### Execution environments -/

/-- An execution environment as `WASMExecEnv(ref)` reads it: the features probed from the layout,
three fields, and the current frame. -/
structure WASMExecEnv where
  ref : ℤ
  interpMode : String
  hwBoundCheck : Bool
  gcEnabled : Bool
  fastjitEnabled : Bool
  threadMgr : Bool
  aotEnabled : Bool
  sourceDebugger : Bool
  wasmStackSize : ℤ
  thread : ℤ
  suspendFlags : ℤ
  currentFrame : Option WASMInterpFrame

/-- `WASMExecEnv(ref)`. The features depend on the field names of `wasm_exec_env_t` alone. -/
def WASMExecEnv.init (t : Target) (ref : ℤ) : Except PyExc WASMExecEnv := do
  let get := fun (path : List Sel) ↦ t.get "wasm_exec_env_t" ref path
  let wasmStackSize ← get [.field "wasm_stack_size"]
  let thread ← get [.field "handle"]
  let suspendFlags ← get [.field "suspend_flags", .field "flags"]
  let curFrameVal ← get [.field "cur_frame"]
  let execEnvFields := t.fields "wasm_exec_env_t"
  pure ⟨ref, if "block_addr_cache" ∉ execEnvFields then "fast" else "classic",
    "jmpbuf_stack_top" ∈ execEnvFields, "cur_local_object_ref" ∈ execEnvFields,
    "jit_cache" ∈ execEnvFields, "cluster" ∈ execEnvFields, "argv_buf" ∈ execEnvFields,
    "current_status" ∈ execEnvFields, wasmStackSize, thread, suspendFlags,
    WASMInterpFrame.ofNonNull t curFrameVal⟩

/-- `WASMExecEnv.get_cur_frame()`. -/
def WASMExecEnv.getCurFrame (execEnv : WASMExecEnv) : Option WASMInterpFrame :=
  execEnv.currentFrame

/-- The features of an environment, in the order `_get_feature_description` prints them. -/
def WASMExecEnv.features (execEnv : WASMExecEnv) : String × List Bool :=
  (execEnv.interpMode, [execEnv.hwBoundCheck, execEnv.gcEnabled, execEnv.fastjitEnabled,
    execEnv.threadMgr, execEnv.aotEnabled, execEnv.sourceDebugger])

/-! ### The walk over the frame chain -/

/-- How a walk ended: the frame became `None`, an exception escaped, or the iterations ran out
while the loop was still running. -/
inductive WalkEnd where
  | finished
  | raised (e : PyExc)
  | stillRunning
  deriving DecidableEq, Repr

/-- `while frame: visit(frame); frame = frame.get_prev_frame()` for at most `fuel` iterations:
what the visits returned, in order, and how the loop ended. A visit that raises leaves no result,
and what the earlier visits printed stays printed. -/
def walkFrames {α : Type} (t : Target) (visit : WASMInterpFrame → Except PyExc α) :
    ℕ → Option WASMInterpFrame → List α × WalkEnd
  | _, none => ([], .finished)
  | 0, some _ => ([], .stillRunning)
  | fuel + 1, some frame =>
    match visit frame with
    | .error e => ([], .raised e)
    | .ok a =>
      match frame.getPrevFrame t with
      | .error e => ([a], .raised e)
      | .ok prev =>
        let rest := walkFrames t visit fuel prev
        (a :: rest.1, rest.2)

/-- `WASMExecEnv._get_dynamic_info()`: the number of frames on the chain of the current frame, or
`None` when the iterations run out. -/
def WASMExecEnv.getDynamicInfo (t : Target) (execEnv : WASMExecEnv) (fuel : ℕ) :
    Except PyExc (Option ℕ) :=
  let run := walkFrames t (fun _ ↦ pure ()) fuel execEnv.currentFrame
  match run.2 with
  | .finished => pure (some run.1.length)
  | .raised e => .error e
  | .stillRunning => pure none

/-- What `str(exec_env)` shows, without its text: the environment, its `prev` and `next` pointers,
the fields `WASMExecEnv(ref)` read, its current frame, the number of frames on the chain and the
features. -/
structure ExecEnvDump where
  ref : ℤ
  prev : ℤ
  next : ℤ
  wasmStackSize : ℤ
  thread : ℤ
  suspendFlags : ℤ
  currentFrame : Option ℤ
  frameCount : ℕ
  features : String × List Bool

/-- `WASMExecEnv.__str__`, with at most `fuel` iterations of the loop of `_get_dynamic_info`:
`none` while that loop is still running, when nothing is printed. `prev` and `next`, which
`WASMExecEnv(ref)` did not fetch, are read first. -/
def WASMExecEnv.str (t : Target) (execEnv : WASMExecEnv) (fuel : ℕ) :
    Except PyExc (Option ExecEnvDump) := do
  let prev ← t.get "wasm_exec_env_t" execEnv.ref [.field "prev"]
  let next ← t.get "wasm_exec_env_t" execEnv.ref [.field "next"]
  let frameCount ← execEnv.getDynamicInfo t fuel
  pure (frameCount.map fun frameCount ↦ ⟨execEnv.ref, prev, next, execEnv.wasmStackSize,
    execEnv.thread, execEnv.suspendFlags, execEnv.currentFrame.map (·.ref), frameCount,
    execEnv.features⟩)

/-- What a walk should do with a list of frames: visit each of them once, in order, stopping at
the first visit that raises, and then end as `rest` does. -/
def visitThen {α : Type} (visit : WASMInterpFrame → Except PyExc α) :
    List WASMInterpFrame → List α × WalkEnd → List α × WalkEnd
  | [], rest => rest
  | frame :: frames, rest =>
    match visit frame with
    | .error e => ([], .raised e)
    | .ok a =>
      let r := visitThen visit frames rest
      (a :: r.1, r.2)

/-- Visiting each of `frames` once, in order, and finishing, or stopping at the first visit that
raises. -/
def visitAll {α : Type} (visit : WASMInterpFrame → Except PyExc α) (frames : List WASMInterpFrame) :
    List α × WalkEnd :=
  visitThen visit frames ([], .finished)

/-- `PrevPath t ref refs last`: following `prev_frame` from `ref` passes the frames `refs`, in
order, none of them null and each with a readable `prev_frame`, and arrives at `last`. -/
inductive PrevPath (t : Target) : ℤ → List ℤ → ℤ → Prop
  | nil (ref : ℤ) : PrevPath t ref [] ref
  | cons {ref prev last : ℤ} {refs : List ℤ} (hne : ref ≠ 0)
      (hprev : t.read "WASMInterpFrame" ref [.field "prev_frame"] = some prev)
      (hpath : PrevPath t prev refs last) : PrevPath t ref (ref :: refs) last

/-- A chain of frames from `ref` that reaches a null `prev_frame` after the frames `refs`. -/
def FrameChain (t : Target) (ref : ℤ) (refs : List ℤ) : Prop :=
  PrevPath t ref refs 0

/-- Following `prev_frame` from `ref` reaches a null pointer, a frame whose `prev_frame` cannot be
read or a frame whose visit raises. -/
def PrevStops {α : Type} (t : Target) (visit : WASMInterpFrame → Except PyExc α) (ref : ℤ) : Prop :=
  ∃ refs last, PrevPath t ref refs last ∧ (last = 0 ∨
    t.read "WASMInterpFrame" last [.field "prev_frame"] = none ∨
    ∃ e, visit (WASMInterpFrame.init t last) = .error e)

/-- A walk that visits the frame at `ref` first, null or not, meets a frame to stop at: that frame,
when its visit raises or its `prev_frame` cannot be read, or one where following `prev_frame` from
its `prev_frame` stops. -/
def FrameStops {α : Type} (t : Target) (visit : WASMInterpFrame → Except PyExc α) (ref : ℤ) :
    Prop :=
  (∃ e, visit (WASMInterpFrame.init t ref) = .error e) ∨
    t.read "WASMInterpFrame" ref [.field "prev_frame"] = none ∨
    ∃ prev, t.read "WASMInterpFrame" ref [.field "prev_frame"] = some prev ∧ PrevStops t visit prev

section Walk

variable {α : Type} {t : Target} {visit : WASMInterpFrame → Except PyExc α}

@[simp] theorem walkFrames_none (fuel : ℕ) : walkFrames t visit fuel none = ([], .finished) := by
  cases fuel <;> rfl

theorem WASMInterpFrame.ofNonNull_of_ne {ref : ℤ} (hne : ref ≠ 0) :
    WASMInterpFrame.ofNonNull t ref = some (WASMInterpFrame.init t ref) :=
  if_pos hne

@[simp] theorem WASMInterpFrame.ofNonNull_zero : WASMInterpFrame.ofNonNull t 0 = none :=
  if_neg (not_not.mpr rfl)

theorem WASMInterpFrame.ofNonNull_map_ref {p r : ℤ} :
    (WASMInterpFrame.ofNonNull t p).map (·.ref) = some r ↔ p ≠ 0 ∧ r = p := by
  unfold WASMInterpFrame.ofNonNull
  split_ifs with hp <;> simp [hp, WASMInterpFrame.init, eq_comm]

/-- The address of the frame `ofNonNull` gives: none for a null pointer. -/
theorem WASMInterpFrame.ofNonNull_map_ref_eq (p : ℤ) :
    (WASMInterpFrame.ofNonNull t p).map (·.ref) = if p = 0 then none else some p := by
  by_cases hp : p = 0 <;> simp [WASMInterpFrame.ofNonNull, WASMInterpFrame.init, hp]

theorem WASMInterpFrame.getPrevFrame_eq_ok {frame : WASMInterpFrame}
    {prev : Option WASMInterpFrame} (h : frame.getPrevFrame t = .ok prev) :
    ∃ p, t.read "WASMInterpFrame" frame.ref [.field "prev_frame"] = some p ∧
      prev = WASMInterpFrame.ofNonNull t p := by
  obtain ⟨p, hp, h⟩ := bind_eq_ok.mp h
  cases h
  exact ⟨p, Target.get_eq_ok_iff.mp hp, rfl⟩

theorem WASMInterpFrame.getPrevFrame_of_read {ref prev : ℤ}
    (hprev : t.read "WASMInterpFrame" ref [.field "prev_frame"] = some prev) :
    (WASMInterpFrame.init t ref).getPrevFrame t = .ok (WASMInterpFrame.ofNonNull t prev) := by
  simp only [WASMInterpFrame.getPrevFrame, WASMInterpFrame.init, Target.get, hprev]
  rfl

theorem WASMInterpFrame.getPrevFrame_of_read_none {ref : ℤ}
    (hprev : t.read "WASMInterpFrame" ref [.field "prev_frame"] = none) :
    (WASMInterpFrame.init t ref).getPrevFrame t = .error .memoryError := by
  simp only [WASMInterpFrame.getPrevFrame, WASMInterpFrame.init, Target.get, hprev]
  rfl

/-- One iteration at a frame: visit it, then go on from its `prev_frame`. -/
theorem walkFrames_succ_init_of_read {ref prev : ℤ} (fuel : ℕ)
    (hprev : t.read "WASMInterpFrame" ref [.field "prev_frame"] = some prev) :
    walkFrames t visit (fuel + 1) (some (WASMInterpFrame.init t ref)) =
      visitThen visit [WASMInterpFrame.init t ref]
        (walkFrames t visit fuel (WASMInterpFrame.ofNonNull t prev)) := by
  rw [walkFrames, visitThen, WASMInterpFrame.getPrevFrame_of_read hprev]
  rfl

theorem walkFrames_succ_of_read {ref prev : ℤ} (fuel : ℕ) (hne : ref ≠ 0)
    (hprev : t.read "WASMInterpFrame" ref [.field "prev_frame"] = some prev) :
    walkFrames t visit (fuel + 1) (WASMInterpFrame.ofNonNull t ref) =
      visitThen visit [WASMInterpFrame.init t ref]
        (walkFrames t visit fuel (WASMInterpFrame.ofNonNull t prev)) := by
  rw [WASMInterpFrame.ofNonNull_of_ne hne, walkFrames_succ_init_of_read fuel hprev]

theorem visitThen_append (frames frames' : List WASMInterpFrame) (rest : List α × WalkEnd) :
    visitThen visit (frames ++ frames') rest =
      visitThen visit frames (visitThen visit frames' rest) := by
  induction frames with
  | nil => rfl
  | cons frame frames ih =>
    rw [List.cons_append, visitThen, visitThen, ih]

/-- The run lemma: along a path of `n` frames, `n` more iterations first visit the frames of the
path, in order, and then go on as the walk from the end of the path. -/
theorem walkFrames_of_prevPath {ref last : ℤ} {refs : List ℤ} (hpath : PrevPath t ref refs last)
    (fuel : ℕ) :
    walkFrames t visit (refs.length + fuel) (WASMInterpFrame.ofNonNull t ref) =
      visitThen visit (refs.map (WASMInterpFrame.init t))
        (walkFrames t visit fuel (WASMInterpFrame.ofNonNull t last)) := by
  induction hpath with
  | nil => rw [List.length_nil, Nat.zero_add]; rfl
  | @cons ref prev last refs hne hprev _ ih =>
    rw [List.length_cons, Nat.add_right_comm, walkFrames_succ_of_read _ hne hprev, ih,
      List.map_cons, ← visitThen_append]
    rfl

/-- A walk over a chain that reaches a null pointer, once it has as many iterations as the chain has
frames, visits the frames of the chain in order, stops at the first visit that raises, and
otherwise finishes.

Assumes: the chain from `ref` has the frames `refs`, and `fuel` is at least their number. -/
theorem walkFrames_of_frameChain {ref : ℤ} {refs : List ℤ} (hchain : FrameChain t ref refs)
    {fuel : ℕ} (hfuel : refs.length ≤ fuel) :
    walkFrames t visit fuel (WASMInterpFrame.ofNonNull t ref) =
      visitAll visit (refs.map (WASMInterpFrame.init t)) := by
  obtain ⟨extra, rfl⟩ := Nat.exists_eq_add_of_le hfuel
  rw [walkFrames_of_prevPath hchain, WASMInterpFrame.ofNonNull_zero, walkFrames_none]
  rfl

/-- Visits that cannot raise leave one result per frame, and the walk ends as the rest does. -/
theorem visitThen_pure (f : WASMInterpFrame → α) (frames : List WASMInterpFrame) (e : WalkEnd) :
    visitThen (fun frame ↦ pure (f frame)) frames ([], e) = (frames.map f, e) := by
  induction frames with
  | nil => rfl
  | cons frame frames ih =>
    rw [visitThen]
    simp only [ih]
    rfl

/-- Visits that cannot raise all return, and the walk finishes. -/
theorem visitAll_of_forall_ok (f : WASMInterpFrame → α) (frames : List WASMInterpFrame) :
    visitAll (fun frame ↦ pure (f frame)) frames = (frames.map f, .finished) :=
  visitThen_pure f frames .finished

/-- Where every visit returns, the walk leaves the result of each frame, in order, and ends as the
rest does. -/
theorem visitThen_of_forall_ok {frames : List WASMInterpFrame}
    (hok : ∀ frame ∈ frames, ∃ a, visit frame = .ok a) (e : WalkEnd) :
    ∃ as, visitThen visit frames ([], e) = (as, e) ∧
      List.Forall₂ (fun frame a ↦ visit frame = .ok a) frames as := by
  induction frames with
  | nil => exact ⟨[], rfl, .nil⟩
  | cons frame frames ih =>
    obtain ⟨a, ha⟩ := hok frame (List.mem_cons_self _ _)
    obtain ⟨as, has, hall⟩ := ih fun frame' h ↦ hok frame' (List.mem_cons_of_mem _ h)
    refine ⟨a :: as, ?_, .cons ha hall⟩
    rw [visitThen, ha]
    dsimp only
    rw [has]

/-- The loop streams its output: what it has visited after `fuel` iterations is a prefix of what it
visits after `fuel + k`, and once it has ended, more iterations change nothing. So `fuel` only cuts
a run short, and a walk that has ended gives the result of the unbounded loop. -/
theorem walkFrames_add_mono (fuel k : ℕ) (frame : Option WASMInterpFrame) :
    (walkFrames t visit fuel frame).1 <+: (walkFrames t visit (fuel + k) frame).1 ∧
      ((walkFrames t visit fuel frame).2 ≠ .stillRunning →
        walkFrames t visit (fuel + k) frame = walkFrames t visit fuel frame) := by
  induction fuel generalizing frame with
  | zero =>
    cases frame with
    | none => simp
    | some frame => exact ⟨List.nil_prefix, fun h ↦ absurd rfl h⟩
  | succ fuel ih =>
    cases frame with
    | none => simp
    | some frame =>
      rw [Nat.add_right_comm, walkFrames, walkFrames]
      cases visit frame with
      | error e => exact ⟨List.prefix_refl _, fun _ ↦ rfl⟩
      | ok a =>
        cases frame.getPrevFrame t with
        | error e => exact ⟨List.prefix_refl _, fun _ ↦ rfl⟩
        | ok prev =>
          obtain ⟨hpre, hend⟩ := ih prev
          exact ⟨List.cons_prefix_cons.mpr ⟨rfl, hpre⟩,
            fun h ↦ by dsimp only at h ⊢; rw [hend h]⟩

/-- The visits of a list of frames either all return, leaving one result per frame and the end of
the rest, or one of them raises, leaving fewer results. -/
theorem visitThen_cases (frames : List WASMInterpFrame) (e : WalkEnd) :
    ((visitThen visit frames ([], e)).1.length = frames.length ∧
        (visitThen visit frames ([], e)).2 = e) ∨
      ((visitThen visit frames ([], e)).1.length < frames.length ∧
        ∃ e', (visitThen visit frames ([], e)).2 = .raised e') := by
  induction frames with
  | nil => exact .inl ⟨rfl, rfl⟩
  | cons frame frames ih =>
    rw [visitThen]
    cases visit frame with
    | error e' => exact .inr ⟨Nat.succ_pos _, e', rfl⟩
    | ok a =>
      rcases ih with ⟨hlen, hend⟩ | ⟨hlen, e', hend⟩
      · exact .inl ⟨congrArg Nat.succ hlen, hend⟩
      · exact .inr ⟨Nat.succ_lt_succ hlen, e', hend⟩

/-- Every walk follows the frames of the bare traversal, the walk whose visit returns the frame
itself, whatever it does with them: it visits them in order, up to the first visit that raises,
and otherwise ends as the traversal does. -/
theorem walkFrames_eq_visitThen (fuel : ℕ) (frame : Option WASMInterpFrame) :
    walkFrames t visit fuel frame =
      visitThen visit (walkFrames t Except.ok fuel frame).1
        ([], (walkFrames t Except.ok fuel frame).2) := by
  induction fuel generalizing frame with
  | zero => cases frame <;> rfl
  | succ fuel ih =>
    cases frame with
    | none => rfl
    | some frame =>
      rw [walkFrames, walkFrames]
      cases frame.getPrevFrame t with
      | error e =>
        dsimp only
        rw [visitThen]
        cases visit frame <;> rfl
      | ok prev =>
        dsimp only
        rw [visitThen, ← ih]

/-- No path from the first frame of a chain that reaches a null pointer is longer than the
chain. -/
theorem FrameChain.length_le {ref last : ℤ} {refs refs' : List ℤ} (hchain : FrameChain t ref refs)
    (hpath : PrevPath t ref refs' last) : refs'.length ≤ refs.length := by
  unfold FrameChain at hchain
  generalize hnull : (0 : ℤ) = null at hchain
  induction hchain generalizing refs' with
  | nil => cases hpath with
    | nil => exact le_rfl
    | cons hne _ _ => exact absurd hnull.symm hne
  | @cons ref prev _ refs _ hprev _ ih =>
    cases hpath with
    | nil => exact Nat.zero_le _
    | cons _ hprev' hpath =>
      rw [hprev, Option.some.injEq] at hprev'
      subst hprev'
      exact Nat.succ_le_succ (ih hpath hnull)

/-- From a frame on a path, the rest of the path is a path. -/
theorem PrevPath.drop {ref last r : ℤ} {refs : List ℤ} (hpath : PrevPath t ref refs last)
    (hr : r ∈ refs) : ∃ refs', refs' <:+ refs ∧ PrevPath t r refs' last := by
  induction hpath with
  | nil => cases hr
  | @cons ref prev last refs hne hprev hpath ih =>
    rcases List.mem_cons.mp hr with rfl | hr
    · exact ⟨_, List.suffix_refl _, .cons hne hprev hpath⟩
    · obtain ⟨refs', hsuffix, hpath'⟩ := ih hr
      exact ⟨refs', hsuffix.trans (List.suffix_cons _ _), hpath'⟩

/-- The frames of a chain that reaches a null pointer are pairwise distinct: a frame met twice
would start a chain shorter than a path from it. -/
theorem FrameChain.nodup {ref : ℤ} {refs : List ℤ} (hchain : FrameChain t ref refs) :
    refs.Nodup := by
  unfold FrameChain at hchain
  generalize hnull : (0 : ℤ) = null at hchain
  induction hchain with
  | nil => exact List.nodup_nil
  | @cons ref prev _ refs hne hprev hpath ih =>
    refine List.nodup_cons.mpr ⟨fun hmem ↦ ?_, ih hnull⟩
    subst hnull
    obtain ⟨refs', hsuffix, hchain'⟩ := hpath.drop hmem
    have hlong : (ref :: refs).length ≤ refs'.length :=
      FrameChain.length_le hchain' (.cons hne hprev hpath)
    have hshort := hsuffix.length_le
    simp only [List.length_cons] at hlong
    omega

/-- A walk that has ended stays ended after the visits of more frames. -/
theorem visitThen_ne_stillRunning (frames : List WASMInterpFrame) {rest : List α × WalkEnd}
    (hrest : rest.2 ≠ .stillRunning) : (visitThen visit frames rest).2 ≠ .stillRunning := by
  induction frames with
  | nil => exact hrest
  | cons frame frames ih =>
    rw [visitThen]
    cases visit frame with
    | error e => exact WalkEnd.noConfusion
    | ok a => exact ih

/-- Nothing bounds the walk: from a set of frames that are not null, whose `prev_frame` can be
read and is again in the set, and whose visits return, the walk is still running after any number
of iterations. The frames of a cycle form such a set.

Assumes: every frame of `S` is not null, its `prev_frame` can be read and lies in `S`, and its
visit returns. -/
theorem walkFrames_of_prevClosed (S : ℤ → Prop)
    (hS : ∀ r, S r → r ≠ 0 ∧
      (∃ p, t.read "WASMInterpFrame" r [.field "prev_frame"] = some p ∧ S p) ∧
      ∃ a, visit (WASMInterpFrame.init t r) = .ok a)
    (fuel : ℕ) {ref : ℤ} (href : S ref) :
    (walkFrames t visit fuel (WASMInterpFrame.ofNonNull t ref)).2 = .stillRunning := by
  induction fuel generalizing ref with
  | zero => rw [WASMInterpFrame.ofNonNull_of_ne (hS ref href).1]; rfl
  | succ fuel ih =>
    obtain ⟨hne, ⟨p, hprev, hp⟩, a, hvisit⟩ := hS ref href
    rw [walkFrames_succ_of_read fuel hne hprev, visitThen, hvisit]
    exact ih hp

/-- One iteration ends the walk at a null frame, at a frame whose `prev_frame` cannot be read and
at a frame whose visit raises. -/
theorem walkFrames_one_ne_stillRunning {last : ℤ}
    (hlast : last = 0 ∨ t.read "WASMInterpFrame" last [.field "prev_frame"] = none ∨
      ∃ e, visit (WASMInterpFrame.init t last) = .error e) :
    (walkFrames t visit 1 (WASMInterpFrame.ofNonNull t last)).2 ≠ .stillRunning := by
  rcases eq_or_ne last 0 with rfl | hne
  · simp
  rw [WASMInterpFrame.ofNonNull_of_ne hne, walkFrames]
  rcases hlast with hnull | hprev | ⟨e, hvisit⟩
  · exact absurd hnull hne
  · cases visit (WASMInterpFrame.init t last) with
    | error e => exact WalkEnd.noConfusion
    | ok a => simp [WASMInterpFrame.getPrevFrame_of_read_none hprev]
  · simp [hvisit]

/-- A walk from a frame that may be null ends, given enough iterations, exactly where following
`prev_frame` from it stops. -/
theorem walkFrames_stops_iff (ref : ℤ) :
    (∃ fuel, (walkFrames t visit fuel (WASMInterpFrame.ofNonNull t ref)).2 ≠ .stillRunning) ↔
      PrevStops t visit ref := by
  constructor
  · rintro ⟨fuel, hend⟩
    induction fuel generalizing ref with
    | zero =>
      refine ⟨[], ref, .nil ref, .inl (not_not.mp fun hne ↦ hend ?_)⟩
      rw [WASMInterpFrame.ofNonNull_of_ne hne]
      rfl
    | succ fuel ih =>
      rcases eq_or_ne ref 0 with hnull | hne
      · exact ⟨[], ref, .nil ref, .inl hnull⟩
      cases hvisit : visit (WASMInterpFrame.init t ref) with
      | error e => exact ⟨[], ref, .nil ref, .inr (.inr ⟨e, hvisit⟩)⟩
      | ok a =>
        cases hprev : t.read "WASMInterpFrame" ref [.field "prev_frame"] with
        | none => exact ⟨[], ref, .nil ref, .inr (.inl hprev)⟩
        | some p =>
          rw [walkFrames_succ_of_read fuel hne hprev, visitThen, hvisit] at hend
          obtain ⟨refs, last, hpath, hlast⟩ := ih p hend
          exact ⟨ref :: refs, last, .cons hne hprev hpath, hlast⟩
  · rintro ⟨refs, last, hpath, hlast⟩
    refine ⟨refs.length + 1, ?_⟩
    rw [walkFrames_of_prevPath hpath]
    exact visitThen_ne_stillRunning _ (walkFrames_one_ne_stillRunning hlast)

/-- A walk ends, given enough iterations, exactly when following `prev_frame` from its first frame
reaches a null pointer, a frame whose `prev_frame` cannot be read, or a frame whose visit raises;
once ended it is the result of the unbounded loop (`walkFrames_add_mono`). The walk starts from
`ofNonNull t ref`, a frame only when `ref` is not null; `walkFrames_some_stops_iff` starts from
the frame at `ref` whatever `ref` is. -/
theorem walkFrames_ends_iff (ref : ℤ) :
    (∃ fuel, (walkFrames t visit fuel (WASMInterpFrame.ofNonNull t ref)).2 ≠ .stillRunning) ↔
      ∃ refs last, PrevPath t ref refs last ∧ (last = 0 ∨
        t.read "WASMInterpFrame" last [.field "prev_frame"] = none ∨
        ∃ e, visit (WASMInterpFrame.init t last) = .error e) :=
  walkFrames_stops_iff ref

/-- A walk whose first frame is the one at `ref`, null or not, ends, given enough iterations,
exactly where it meets a frame to stop at. -/
theorem walkFrames_some_stops_iff (ref : ℤ) :
    (∃ fuel, (walkFrames t visit fuel (some (WASMInterpFrame.init t ref))).2 ≠ .stillRunning) ↔
      FrameStops t visit ref := by
  cases hvisit : visit (WASMInterpFrame.init t ref) with
  | error e =>
    refine iff_of_true ⟨1, ?_⟩ (.inl ⟨e, hvisit⟩)
    rw [walkFrames, hvisit]
    exact WalkEnd.noConfusion
  | ok a =>
    cases hprev : t.read "WASMInterpFrame" ref [.field "prev_frame"] with
    | none =>
      refine iff_of_true ⟨1, ?_⟩ (.inr (.inl hprev))
      rw [walkFrames, hvisit, WASMInterpFrame.getPrevFrame_of_read_none hprev]
      exact WalkEnd.noConfusion
    | some p =>
      have hstep (fuel : ℕ) := @walkFrames_succ_init_of_read _ t visit ref p fuel hprev
      simp only [visitThen, hvisit] at hstep
      simp only [FrameStops, hvisit, hprev, reduceCtorEq, exists_false, Option.some.injEq,
        exists_eq_left', false_or, ← walkFrames_stops_iff]
      constructor
      · rintro ⟨_ | fuel, hend⟩
        · exact absurd rfl hend
        · exact ⟨fuel, by rwa [hstep] at hend⟩
      · rintro ⟨fuel, hend⟩
        exact ⟨fuel + 1, by rwa [hstep]⟩

/-- The frames a dump prints are linked by the `prev_frame` they show: the first is the frame the
walk starts from, each shows as its `prev_frame` the address of the next one printed, which is not
null, and when the walk finishes the last one shows a null `prev_frame` (and nothing is printed
only from no frame at all). -/
theorem walkFrames_str_linked (fuel : ℕ) (frame : Option WASMInterpFrame) :
    (∀ d ∈ (walkFrames t (WASMInterpFrame.str t) fuel frame).1.head?,
        some d.ref = frame.map (·.ref)) ∧
      (walkFrames t (WASMInterpFrame.str t) fuel frame).1.Chain'
        (fun d d' ↦ d.prevFrame = d'.ref ∧ d'.ref ≠ 0) ∧
      ((walkFrames t (WASMInterpFrame.str t) fuel frame).2 = .finished →
        (∀ d ∈ (walkFrames t (WASMInterpFrame.str t) fuel frame).1.getLast?, d.prevFrame = 0) ∧
        ((walkFrames t (WASMInterpFrame.str t) fuel frame).1 = [] → frame = none)) := by
  induction fuel generalizing frame with
  | zero =>
    cases frame with
    | none =>
      rw [walkFrames_none]
      exact ⟨fun d hd ↦ (Option.not_mem_none d hd).elim, trivial,
        fun _ ↦ ⟨fun d hd ↦ (Option.not_mem_none d hd).elim, fun _ ↦ rfl⟩⟩
    | some frame =>
      rw [walkFrames]
      exact ⟨fun d hd ↦ (Option.not_mem_none d hd).elim, trivial, WalkEnd.noConfusion⟩
  | succ fuel ih =>
    cases frame with
    | none =>
      rw [walkFrames_none]
      exact ⟨fun d hd ↦ (Option.not_mem_none d hd).elim, trivial,
        fun _ ↦ ⟨fun d hd ↦ (Option.not_mem_none d hd).elim, fun _ ↦ rfl⟩⟩
    | some frame =>
      rw [walkFrames]
      cases hstr : frame.str t with
      | error e =>
        exact ⟨fun d hd ↦ (Option.not_mem_none d hd).elim, trivial, WalkEnd.noConfusion⟩
      | ok d =>
        obtain ⟨href, hprev⟩ := WASMInterpFrame.str_prevFrame hstr
        cases hnext : frame.getPrevFrame t with
        | error e => exact ⟨by simp [href], List.chain'_singleton d, WalkEnd.noConfusion⟩
        | ok prev =>
          obtain ⟨p, hp, rfl⟩ := WASMInterpFrame.getPrevFrame_eq_ok hnext
          rw [hprev, Option.some.injEq] at hp
          dsimp only
          obtain ⟨hhead, hchain, hlast⟩ := ih (WASMInterpFrame.ofNonNull t p)
          refine ⟨by simp [href], hchain.cons' fun d' hd' ↦ ?_,
            fun hend ↦ ⟨fun d' hd' ↦ ?_, fun h ↦ (List.cons_ne_nil _ _ h).elim⟩⟩
          · obtain ⟨hne, rfl⟩ := WASMInterpFrame.ofNonNull_map_ref.mp (hhead d' hd').symm
            exact ⟨hp, hne⟩
          · cases hrest : (walkFrames t (WASMInterpFrame.str t) fuel
                (WASMInterpFrame.ofNonNull t p)).1 with
            | nil =>
              rw [hrest] at hd'
              cases hd'
              have hnull := (hlast hend).2 hrest
              unfold WASMInterpFrame.ofNonNull at hnull
              split_ifs at hnull with hp0
              exact hp.trans (not_not.mp hp0)
            | cons x xs =>
              rw [hrest, List.getLast?_cons_cons, ← hrest] at hd'
              exact (hlast hend).1 d' hd'

/-! ### The frame count of an environment -/

/-- `WASMExecEnv(ref)` takes its current frame from the `cur_frame` field it reads. -/
theorem WASMExecEnv.init_currentFrame {ref : ℤ} {execEnv : WASMExecEnv}
    (h : WASMExecEnv.init t ref = .ok execEnv) :
    ∃ curFrame, t.read "wasm_exec_env_t" ref [.field "cur_frame"] = some curFrame ∧
      execEnv.currentFrame = WASMInterpFrame.ofNonNull t curFrame := by
  obtain ⟨_, -, h⟩ := bind_eq_ok.mp h
  obtain ⟨_, -, h⟩ := bind_eq_ok.mp h
  obtain ⟨_, -, h⟩ := bind_eq_ok.mp h
  obtain ⟨curFrame, hcur, h⟩ := bind_eq_ok.mp h
  cases h
  exact ⟨curFrame, Target.get_eq_ok_iff.mp hcur, rfl⟩

/-- `WASMExecEnv(ref)` keeps `ref`. -/
theorem WASMExecEnv.init_ref {ref : ℤ} {execEnv : WASMExecEnv}
    (h : WASMExecEnv.init t ref = .ok execEnv) : execEnv.ref = ref := by
  iterate 4 obtain ⟨_, -, h⟩ := bind_eq_ok.mp h
  cases h
  rfl

/-- Assumes: the two targets have the same layout of `wasm_exec_env_t`. The features are probed
from the layout alone: every environment either target reads has the same features, whatever the
memory holds and wherever the environment is. -/
theorem WASMExecEnv.features_of_fields {t' : Target} {ref ref' : ℤ}
    {execEnv execEnv' : WASMExecEnv}
    (hfields : t'.fields "wasm_exec_env_t" = t.fields "wasm_exec_env_t")
    (h : WASMExecEnv.init t ref = .ok execEnv) (h' : WASMExecEnv.init t' ref' = .ok execEnv') :
    execEnv'.features = execEnv.features := by
  iterate 4 obtain ⟨_, -, h⟩ := bind_eq_ok.mp h
  iterate 4 obtain ⟨_, -, h'⟩ := bind_eq_ok.mp h'
  cases h
  cases h'
  simp only [WASMExecEnv.features, hfields]

/-- `_get_dynamic_info` counts the frames of a chain that reaches a null pointer.

Assumes: the current frame is the one at `ref`, the chain from `ref` has the frames `refs`, and
`fuel` is at least their number. -/
theorem WASMExecEnv.getDynamicInfo_of_frameChain {execEnv : WASMExecEnv} {ref : ℤ}
    {refs : List ℤ} (hcur : execEnv.currentFrame = WASMInterpFrame.ofNonNull t ref)
    (hchain : FrameChain t ref refs) {fuel : ℕ} (hfuel : refs.length ≤ fuel) :
    execEnv.getDynamicInfo t fuel = .ok (some refs.length) := by
  rw [WASMExecEnv.getDynamicInfo, hcur, walkFrames_of_frameChain hchain hfuel,
    visitAll_of_forall_ok (fun _ ↦ ())]
  simp only [List.length_map]
  rfl

/-- `_get_dynamic_info` counts the frames of the bare traversal from the current frame: their
number when it finishes, its exception when it raises, and nothing while it is still running. -/
theorem WASMExecEnv.getDynamicInfo_eq_traversal (execEnv : WASMExecEnv) (fuel : ℕ) :
    execEnv.getDynamicInfo t fuel = match walkFrames t Except.ok fuel execEnv.currentFrame with
      | (frames, .finished) => .ok (some frames.length)
      | (_, .raised e) => .error e
      | (_, .stillRunning) => .ok none := by
  rw [WASMExecEnv.getDynamicInfo, walkFrames_eq_visitThen]
  rcases walkFrames t Except.ok fuel execEnv.currentFrame with ⟨frames, _ | e | _⟩ <;>
    simp only [visitThen_pure, List.length_map] <;> rfl

/-- `_get_dynamic_info` gives nothing exactly while its loop is still running. -/
theorem WASMExecEnv.getDynamicInfo_eq_none_iff (execEnv : WASMExecEnv) (fuel : ℕ) :
    execEnv.getDynamicInfo t fuel = .ok none ↔
      (walkFrames t (fun _ ↦ pure ()) fuel execEnv.currentFrame).2 = .stillRunning := by
  unfold WASMExecEnv.getDynamicInfo
  dsimp only
  split <;> rename_i hend <;> simp only [hend]
  · exact iff_of_false (fun h ↦ Option.noConfusion (Except.ok.inj h)) WalkEnd.noConfusion
  · exact iff_of_false Except.noConfusion WalkEnd.noConfusion
  · exact iff_of_true rfl trivial

/-- Once `_get_dynamic_info` has a result, more iterations change nothing. -/
theorem WASMExecEnv.getDynamicInfo_add (execEnv : WASMExecEnv) {fuel : ℕ} (k : ℕ)
    (h : execEnv.getDynamicInfo t fuel ≠ .ok none) :
    execEnv.getDynamicInfo t (fuel + k) = execEnv.getDynamicInfo t fuel := by
  have hend := (walkFrames_add_mono fuel k execEnv.currentFrame).2
    (mt (execEnv.getDynamicInfo_eq_none_iff fuel).mpr h)
  unfold WASMExecEnv.getDynamicInfo
  rw [hend]

/-- Assumes: `prev` and `next` of the environment can be read. The environment is printed with the
frame count of `_get_dynamic_info`, and not while that count is still running. -/
theorem WASMExecEnv.str_frameCount {execEnv : WASMExecEnv} {prev next : ℤ}
    (hprev : t.read "wasm_exec_env_t" execEnv.ref [.field "prev"] = some prev)
    (hnext : t.read "wasm_exec_env_t" execEnv.ref [.field "next"] = some next) (fuel : ℕ) :
    Option.map ExecEnvDump.frameCount <$> execEnv.str t fuel = execEnv.getDynamicInfo t fuel := by
  rw [WASMExecEnv.str, Target.get_eq_ok hprev, Target.get_eq_ok hnext]
  cases execEnv.getDynamicInfo t fuel with
  | error e => rfl
  | ok count => cases count <;> rfl

/-- Assumes: `prev` and `next` of the environment can be read. The environment is printed exactly
when the bare traversal from its current frame finishes, with the traversal's number of frames,
and nothing is printed while the traversal is still running. -/
theorem WASMExecEnv.str_of_traversal {execEnv : WASMExecEnv} {prev next : ℤ}
    (hprev : t.read "wasm_exec_env_t" execEnv.ref [.field "prev"] = some prev)
    (hnext : t.read "wasm_exec_env_t" execEnv.ref [.field "next"] = some next) {fuel : ℕ}
    {frames : List WASMInterpFrame} {e : WalkEnd}
    (htrav : walkFrames t Except.ok fuel execEnv.currentFrame = (frames, e)) :
    (∀ d, execEnv.str t fuel = .ok (some d) → e = .finished ∧ d.frameCount = frames.length) ∧
      (e = .finished → ∃ d, execEnv.str t fuel = .ok (some d) ∧ d.frameCount = frames.length) ∧
      (e = .stillRunning → execEnv.str t fuel = .ok none) := by
  have hcount := WASMExecEnv.str_frameCount hprev hnext fuel
  rw [WASMExecEnv.getDynamicInfo_eq_traversal, htrav] at hcount
  cases e with
  | finished =>
    obtain ⟨o, hs, ho⟩ := map_eq_ok.mp hcount
    obtain ⟨d, rfl, hd⟩ := Option.map_eq_some'.mp ho
    exact ⟨fun d' hd' ↦ (by rw [hs] at hd'; cases hd'; exact ⟨rfl, hd⟩), fun _ ↦ ⟨d, hs, hd⟩,
      WalkEnd.noConfusion⟩
  | raised e =>
    exact ⟨fun d hd ↦ (by rw [hd] at hcount; cases hcount), WalkEnd.noConfusion,
      WalkEnd.noConfusion⟩
  | stillRunning =>
    obtain ⟨o, hs, ho⟩ := map_eq_ok.mp hcount
    obtain rfl := Option.map_eq_none'.mp ho
    exact ⟨fun d hd ↦ (by rw [hs] at hd; cases hd), WalkEnd.noConfusion, fun _ ↦ hs⟩

/-- The run lemma for failures: a walk whose visits raise only exceptions of `allowed`, among them
`gdb.MemoryError`, the failure of `get_prev_frame`, ends raising only one of `allowed`. -/
theorem walkFrames_raised {allowed : List PyExc} (hvisit : ∀ frame, RaisesOnly allowed (visit frame))
    (hmem : PyExc.memoryError ∈ allowed) (fuel : ℕ) (frame : Option WASMInterpFrame) {e : PyExc}
    (h : (walkFrames t visit fuel frame).2 = .raised e) : e ∈ allowed := by
  induction fuel generalizing frame with
  | zero => cases frame <;> exact WalkEnd.noConfusion h
  | succ fuel ih =>
    cases frame with
    | none => exact WalkEnd.noConfusion h
    | some frame =>
      rw [walkFrames] at h
      revert h
      cases hv : visit frame with
      | error e' => exact fun h ↦ WalkEnd.raised.inj h ▸ hvisit frame e' hv
      | ok a =>
        cases hp : frame.getPrevFrame t with
        | error e' => exact fun h ↦ WalkEnd.raised.inj h ▸
            List.eq_of_mem_singleton (frame.getPrevFrame_raisesOnly t e' hp) ▸ hmem
        | ok prev => exact ih prev

theorem WASMExecEnv.init_raisesOnly (ref : ℤ) : RaisesOnly [.memoryError] (WASMExecEnv.init t ref) :=
  (Target.get_raisesOnly t _ _ _).bind fun _ ↦ (Target.get_raisesOnly t _ _ _).bind fun _ ↦
    (Target.get_raisesOnly t _ _ _).bind fun _ ↦ (Target.get_raisesOnly t _ _ _).bind fun _ ↦
      RaisesOnly.pure _

theorem WASMExecEnv.getDynamicInfo_raisesOnly (execEnv : WASMExecEnv) (fuel : ℕ) :
    RaisesOnly [.memoryError] (execEnv.getDynamicInfo t fuel) := by
  intro e h
  unfold WASMExecEnv.getDynamicInfo at h
  dsimp only at h
  split at h
  · cases h
  · rename_i hend
    cases h
    exact walkFrames_raised (fun _ ↦ RaisesOnly.pure _) (List.mem_singleton_self _) fuel _ hend
  · cases h

theorem WASMExecEnv.str_raisesOnly (execEnv : WASMExecEnv) (fuel : ℕ) :
    RaisesOnly [.memoryError] (execEnv.str t fuel) :=
  (Target.get_raisesOnly t _ _ _).bind fun _ ↦ (Target.get_raisesOnly t _ _ _).bind fun _ ↦
    (execEnv.getDynamicInfo_raisesOnly fuel).bind fun _ ↦ RaisesOnly.pure _

end Walk

end WamrGdb
