import WamrGdb.ExecEnv

/-!
# The gdb commands over the frame chain

`wamr_dbg.py` defines the gdb commands of the scripts. Two of them print a whole chain of frames:
`wamr_interp_frame_dump_all` from a frame given as argument, and
`wamr_exec_env_dump_all_interp_frame` from the current frame of an execution environment.

On a chain of frames that reaches a null pointer, `_get_dynamic_info` counts the frames, the dump
from an environment prints them, in order, up to the first that fails to print, and so does the
dump from a frame that is not null; when every frame prints, both print exactly the frames of the
chain and finish (`frameWalks_of_frameChain`). The dump from a frame tests nothing before it prints
the first frame, so from a null argument it never ends having printed nothing
(`wamrInterpFrameDumpAll_null`). None of the three bounds its iterations or signals a corruption:
each ends exactly where following `prev_frame` from its first frame meets a null pointer, an
unreadable `prev_frame` or a frame that fails to print, and then stays ended
(`frameWalks_end_iff`); where the chain runs into a cycle of readable frames they run forever
(`frameWalks_of_prevClosed`).

On every target, what the two dumps print is a linked list from their starting frame
(`frameDumps_linked`), and the frame count `wamr_exec_env_dump` prints agrees with the frames
`wamr_exec_env_dump_all_interp_frame` prints (`wamrExecEnvDump_frameCount`).

Every failure of the commands over frames and environments is a `gdb.MemoryError`
(`frameCommands_raiseOnly_memoryError`). `wamr_type_dump` and `wamr_function_dump` never raise
`IndexError`, and `wamr_gc_obj_dump` raises it only where `create_obj` does
(`typeDumps_raiseOnly`).

Scope. A command's argument is the value gdb evaluates it to (`_get_ref`), taken here as the
integer gdb has already fetched: `_get_ref` can return a lazy `gdb.Value`, and the first reads of
it (the `cast` and `dereference` on the first line of `create_type`, `int(obj_ref)` in
`create_obj`) stand outside the `try` of those functions. What the results say about exceptions
is said of a fetched argument. The operand-stack accessors other than `wamr_operand_stack_get_i32`
read other C types at the byte address of a cell, which the typed access paths of `Target` do not
express; they are not modelled.
-/

set_option autoImplicit false
set_option relaxedAutoImplicit false

namespace WamrGdb

/-- `wamr_get_interp_frame(arg)`. -/
def wamrGetInterpFrame (t : Target) (arg : ℤ) : WASMInterpFrame :=
  WASMInterpFrame.init t arg

/-- `wamr_get_exec_env(arg)`. -/
def wamrGetExecEnv (t : Target) (arg : ℤ) : Except PyExc WASMExecEnv :=
  WASMExecEnv.init t arg

/-- `wamr_interp_frame_dump_all(arg)`, for at most `fuel` iterations. The frame object that
`wamr_get_interp_frame` returns is always true in Python, so the loop prints the frame at `arg`
whatever `arg` is. -/
def wamrInterpFrameDumpAll (t : Target) (fuel : ℕ) (arg : ℤ) : List FrameDump × WalkEnd :=
  walkFrames t (WASMInterpFrame.str t) fuel (some (wamrGetInterpFrame t arg))

/-- `wamr_exec_env_dump_all_interp_frame(arg)`, for at most `fuel` iterations. The environment
object is always true in Python; its current frame is `None` at a null `cur_frame`. -/
def wamrExecEnvDumpAllInterpFrame (t : Target) (fuel : ℕ) (arg : ℤ) :
    List FrameDump × WalkEnd :=
  match wamrGetExecEnv t arg with
  | .error e => ([], .raised e)
  | .ok execEnv => walkFrames t (WASMInterpFrame.str t) fuel execEnv.getCurFrame

/-- `wamr_exec_env_dump(arg)`, with at most `fuel` iterations of its frame count. The environment
object is always true in Python, so it is printed. -/
def wamrExecEnvDump (t : Target) (fuel : ℕ) (arg : ℤ) : Except PyExc (Option ExecEnvDump) := do
  (← wamrGetExecEnv t arg).str t fuel

/-- `wamr_interp_frame_dump(arg)`: the frame object is always true in Python, so it is printed. -/
def wamrInterpFrameDump (t : Target) (arg : ℤ) : Except PyExc FrameDump :=
  (wamrGetInterpFrame t arg).str t

/-- `wamr_operand_stack_get_i32(arg1, arg2)`: cell `arg2` of the operand stack of the frame at
`arg1`, which the command prints. -/
def wamrOperandStackGetI32 (t : Target) (arg1 arg2 : ℤ) : Except PyExc ℤ :=
  (wamrGetInterpFrame t arg1).getStackI32 t arg2

/-- `wamr_get_function(arg)`. -/
def wamrGetFunction (t : Target) (arg : ℤ) : Except PyExc WASMFunction :=
  WASMFunction.init t arg

/-- `wamr_function_dump(arg)`: the function object is always true in Python, so it is printed. -/
def wamrFunctionDump (c : Constants) (t : Target) (arg : ℤ) : Except PyExc FunctionDump := do
  (← wamrGetFunction t arg).str c t

section Commands

variable {t : Target}

theorem wamrInterpFrameDumpAll_of_ne {ref : ℤ} (hne : ref ≠ 0) (fuel : ℕ) :
    wamrInterpFrameDumpAll t fuel ref =
      walkFrames t (WASMInterpFrame.str t) fuel (WASMInterpFrame.ofNonNull t ref) := by
  rw [WASMInterpFrame.ofNonNull_of_ne hne]
  rfl

theorem wamrExecEnvDumpAllInterpFrame_of_init {arg : ℤ} {execEnv : WASMExecEnv}
    (henv : WASMExecEnv.init t arg = .ok execEnv) (fuel : ℕ) :
    wamrExecEnvDumpAllInterpFrame t fuel arg =
      walkFrames t (WASMInterpFrame.str t) fuel execEnv.currentFrame := by
  rw [wamrExecEnvDumpAllInterpFrame, wamrGetExecEnv, henv]
  rfl

theorem wamrInterpFrameDumpAll_null (t : Target) (fuel : ℕ) :
    wamrInterpFrameDumpAll t fuel 0 ≠ ([], .finished) := by
  cases fuel with
  | zero => exact fun h ↦ WalkEnd.noConfusion (congrArg Prod.snd h)
  | succ fuel =>
    rw [wamrInterpFrameDumpAll, walkFrames]
    cases WASMInterpFrame.str t (wamrGetInterpFrame t 0) with
    | error e => exact fun h ↦ WalkEnd.noConfusion (congrArg Prod.snd h)
    | ok dump =>
      dsimp only
      split <;> exact fun h ↦ List.noConfusion (congrArg Prod.fst h)

/-- Where no memory can be read, the dump from a null frame raises `gdb.MemoryError` on the
frame at `0`. -/
example : wamrInterpFrameDumpAll ⟨fun _ _ _ ↦ none, fun _ ↦ [], none⟩ 1 0 =
    ([], .raised .memoryError) := rfl

/-- On a chain of frames from the current frame of an environment that reaches a null pointer,
given as many iterations as the chain has frames: the frames are pairwise distinct,
`_get_dynamic_info` counts them, `wamr_exec_env_dump_all_interp_frame` prints them in order up to
the first that fails to print, and so does `wamr_interp_frame_dump_all` from the first of them;
when every frame of the chain prints, the dumps print exactly these frames, in order, and finish.

Assumes: the environment at `arg` reads as `execEnv`, its `cur_frame` is `ref`, the chain from `ref`
has the frames `refs`, and `fuel` is at least their number. -/
theorem frameWalks_of_frameChain {arg ref : ℤ} {execEnv : WASMExecEnv} {refs : List ℤ}
    (henv : WASMExecEnv.init t arg = .ok execEnv)
    (hcur : t.read "wasm_exec_env_t" arg [.field "cur_frame"] = some ref)
    (hchain : FrameChain t ref refs) {fuel : ℕ} (hfuel : refs.length ≤ fuel) :
    refs.Nodup ∧ execEnv.getDynamicInfo t fuel = .ok (some refs.length) ∧
      wamrExecEnvDumpAllInterpFrame t fuel arg =
        visitAll (WASMInterpFrame.str t) (refs.map (WASMInterpFrame.init t)) ∧
      (refs ≠ [] → wamrInterpFrameDumpAll t fuel ref =
        visitAll (WASMInterpFrame.str t) (refs.map (WASMInterpFrame.init t))) ∧
      ((∀ r ∈ refs, ∃ dump, (WASMInterpFrame.init t r).str t = .ok dump) →
        ∃ dumps, visitAll (WASMInterpFrame.str t) (refs.map (WASMInterpFrame.init t)) =
            (dumps, .finished) ∧
          List.Forall₂ (fun r dump ↦ (WASMInterpFrame.init t r).str t = .ok dump) refs dumps) := by
  obtain ⟨curFrame, hcur', hframe⟩ := WASMExecEnv.init_currentFrame henv
  rw [hcur, Option.some.injEq] at hcur'
  subst hcur'
  refine ⟨hchain.nodup, WASMExecEnv.getDynamicInfo_of_frameChain hframe hchain hfuel, ?_, ?_, ?_⟩
  · rw [wamrExecEnvDumpAllInterpFrame_of_init henv, hframe, walkFrames_of_frameChain hchain hfuel]
  · intro hrefs
    have hne : ref ≠ 0 := by
      cases hchain with
      | nil => exact absurd rfl hrefs
      | cons hne _ _ => exact hne
    rw [wamrInterpFrameDumpAll_of_ne hne, walkFrames_of_frameChain hchain hfuel]
  · intro hprint
    have hok : ∀ frame ∈ refs.map (WASMInterpFrame.init t),
        ∃ dump, WASMInterpFrame.str t frame = .ok dump := fun frame hframe ↦ by
      obtain ⟨r, hr, rfl⟩ := List.mem_map.mp hframe
      exact hprint r hr
    obtain ⟨dumps, hdumps, hall⟩ := visitThen_of_forall_ok hok .finished
    exact ⟨dumps, hdumps, List.forall₂_map_left_iff.mp hall⟩

/-- An environment at `64` whose current frame `4096` has the frame `8192` before it, the root of
the chain. Frames have no function; every other read gives `1`. -/
def sampleFrameChain : Target where
  read ty addr path := match ty, path with
    | "wasm_exec_env_t", [.field "cur_frame"] => some 4096
    | "WASMInterpFrame", [.field "prev_frame"] => some (if addr = 4096 then 8192 else 0)
    | "WASMInterpFrame", [.field "function"] => some 0
    | _, _ => some 1
  fields _ := []
  getFrameRef := none

theorem frameWalks_of_frameChain_sample :
    ∃ execEnv, WASMExecEnv.init sampleFrameChain 64 = .ok execEnv ∧
      ([4096, 8192] : List ℤ).Nodup ∧ execEnv.getDynamicInfo sampleFrameChain 2 = .ok (some 2) ∧
      wamrExecEnvDumpAllInterpFrame sampleFrameChain 2 64 =
        visitAll (WASMInterpFrame.str sampleFrameChain)
          ([4096, 8192].map (WASMInterpFrame.init sampleFrameChain)) ∧
      (([4096, 8192] : List ℤ) ≠ [] → wamrInterpFrameDumpAll sampleFrameChain 2 4096 =
        visitAll (WASMInterpFrame.str sampleFrameChain)
          ([4096, 8192].map (WASMInterpFrame.init sampleFrameChain))) ∧
      ((∀ r ∈ ([4096, 8192] : List ℤ), ∃ dump,
          (WASMInterpFrame.init sampleFrameChain r).str sampleFrameChain = .ok dump) →
        ∃ dumps, visitAll (WASMInterpFrame.str sampleFrameChain)
            ([4096, 8192].map (WASMInterpFrame.init sampleFrameChain)) = (dumps, .finished) ∧
          List.Forall₂ (fun r dump ↦
            (WASMInterpFrame.init sampleFrameChain r).str sampleFrameChain = .ok dump)
            [4096, 8192] dumps) :=
  ⟨_, rfl, @frameWalks_of_frameChain sampleFrameChain 64 4096 _ [4096, 8192] rfl rfl
    (.cons (by decide) rfl (.cons (by decide) rfl (.nil 0))) 2 le_rfl⟩

/-- Nothing bounds the three walks: from a set of frames that are not null, whose `prev_frame` can
be read and is again in the set, and which print, the count and both dumps are still running after
any number of iterations.

Assumes: every frame of `S` is not null, its `prev_frame` can be read and lies in `S`, and it
prints; the environment at `arg` reads as `execEnv`, and its `cur_frame` `ref` is in `S`. -/
theorem frameWalks_of_prevClosed (S : ℤ → Prop)
    (hS : ∀ r, S r → r ≠ 0 ∧
      (∃ p, t.read "WASMInterpFrame" r [.field "prev_frame"] = some p ∧ S p) ∧
      ∃ dump, WASMInterpFrame.str t (WASMInterpFrame.init t r) = .ok dump)
    {arg ref : ℤ} {execEnv : WASMExecEnv} (henv : WASMExecEnv.init t arg = .ok execEnv)
    (hcur : t.read "wasm_exec_env_t" arg [.field "cur_frame"] = some ref) (href : S ref)
    (fuel : ℕ) :
    execEnv.getDynamicInfo t fuel = .ok none ∧
      (wamrExecEnvDumpAllInterpFrame t fuel arg).2 = .stillRunning ∧
      (wamrInterpFrameDumpAll t fuel ref).2 = .stillRunning := by
  obtain ⟨curFrame, hcur', hframe⟩ := WASMExecEnv.init_currentFrame henv
  rw [hcur, Option.some.injEq] at hcur'
  subst hcur'
  have hcount := @walkFrames_of_prevClosed Unit t (fun _ ↦ pure ()) S
    (fun r hr ↦ ⟨(hS r hr).1, (hS r hr).2.1, (), rfl⟩) fuel ref href
  refine ⟨?_, ?_, ?_⟩
  · rw [WASMExecEnv.getDynamicInfo, hframe, hcount]
    rfl
  · rw [wamrExecEnvDumpAllInterpFrame_of_init henv, hframe]
    exact walkFrames_of_prevClosed S hS fuel href
  · rw [wamrInterpFrameDumpAll_of_ne (hS ref href).1]
    exact walkFrames_of_prevClosed S hS fuel href

/-- An environment at `64` whose current frame `8` is its own `prev_frame`. Frames have no
function; every other read gives `1`. -/
def sampleFrameCycle : Target where
  read ty _ path := match ty, path with
    | "wasm_exec_env_t", [.field "cur_frame"] => some 8
    | "WASMInterpFrame", [.field "prev_frame"] => some 8
    | "WASMInterpFrame", [.field "function"] => some 0
    | _, _ => some 1
  fields _ := []
  getFrameRef := none

/-- On the one-frame cycle at `8`, the count and both dumps are still running after any number of
iterations: none of them ends, and none reports the cycle. -/
theorem frameWalks_stillRunning_on_cycle :
    ∃ execEnv, WASMExecEnv.init sampleFrameCycle 64 = .ok execEnv ∧
      ∀ fuel, execEnv.getDynamicInfo sampleFrameCycle fuel = .ok none ∧
        (wamrExecEnvDumpAllInterpFrame sampleFrameCycle fuel 64).2 = .stillRunning ∧
        (wamrInterpFrameDumpAll sampleFrameCycle fuel 8).2 = .stillRunning :=
  ⟨_, rfl, @frameWalks_of_prevClosed sampleFrameCycle (· = 8)
    (by rintro r rfl; exact ⟨by decide, ⟨8, rfl, rfl⟩, _, rfl⟩) 64 8 _ rfl rfl rfl⟩

/-! ### When the walks end -/

/-- None of the three walks over the frame chain bounds its iterations or signals a corruption.
Each ends, for some number of iterations, exactly where following `prev_frame` from its first
frame stops: at a null pointer, at a frame whose `prev_frame` cannot be read, or, for the dumps, at
a frame that fails to print. Once it has ended, more iterations change nothing, so it then gives
the result of the unbounded loop. The first frame of the count and of the environment dump is the
frame at `cur_frame`, none when that is null; the first frame of `wamr_interp_frame_dump_all` is
the frame at its argument `ref`, null or not.

Assumes: the environment at `arg` reads as `execEnv`, with `cur_frame` `start`. -/
theorem frameWalks_end_iff {arg start : ℤ} {execEnv : WASMExecEnv}
    (henv : WASMExecEnv.init t arg = .ok execEnv)
    (hcur : t.read "wasm_exec_env_t" arg [.field "cur_frame"] = some start) (ref : ℤ) :
    ((∃ fuel, execEnv.getDynamicInfo t fuel ≠ .ok none) ↔
        PrevStops t (fun _ ↦ pure ()) start) ∧
      ((∃ fuel, (wamrExecEnvDumpAllInterpFrame t fuel arg).2 ≠ .stillRunning) ↔
        PrevStops t (WASMInterpFrame.str t) start) ∧
      ((∃ fuel, (wamrInterpFrameDumpAll t fuel ref).2 ≠ .stillRunning) ↔
        FrameStops t (WASMInterpFrame.str t) ref) ∧
      ∀ fuel k,
        (execEnv.getDynamicInfo t fuel ≠ .ok none →
          execEnv.getDynamicInfo t (fuel + k) = execEnv.getDynamicInfo t fuel) ∧
        ((wamrExecEnvDumpAllInterpFrame t fuel arg).2 ≠ .stillRunning →
          wamrExecEnvDumpAllInterpFrame t (fuel + k) arg =
            wamrExecEnvDumpAllInterpFrame t fuel arg) ∧
        ((wamrInterpFrameDumpAll t fuel ref).2 ≠ .stillRunning →
          wamrInterpFrameDumpAll t (fuel + k) ref = wamrInterpFrameDumpAll t fuel ref) := by
  obtain ⟨curFrame, hcur', hframe⟩ := WASMExecEnv.init_currentFrame henv
  rw [hcur, Option.some.injEq] at hcur'
  subst hcur'
  have hdump (fuel : ℕ) : wamrExecEnvDumpAllInterpFrame t fuel arg =
      walkFrames t (WASMInterpFrame.str t) fuel (WASMInterpFrame.ofNonNull t start) := by
    rw [wamrExecEnvDumpAllInterpFrame_of_init henv, hframe]
  refine ⟨?_, ?_, walkFrames_some_stops_iff ref, fun fuel k ↦
    ⟨execEnv.getDynamicInfo_add k, ?_, (walkFrames_add_mono fuel k _).2⟩⟩
  · simp only [ne_eq, WASMExecEnv.getDynamicInfo_eq_none_iff, hframe]
    exact walkFrames_stops_iff start
  · simp only [hdump]
    exact walkFrames_stops_iff start
  · rw [hdump, hdump]
    exact (walkFrames_add_mono fuel k _).2

theorem frameWalks_end_iff_sample :
    ∃ execEnv, WASMExecEnv.init sampleFrameChain 64 = .ok execEnv ∧
      sampleFrameChain.read "wasm_exec_env_t" 64 [.field "cur_frame"] = some 4096 ∧
      ((∃ fuel, execEnv.getDynamicInfo sampleFrameChain fuel ≠ .ok none) ↔
          PrevStops sampleFrameChain (fun _ ↦ pure ()) 4096) ∧
        ((∃ fuel, (wamrExecEnvDumpAllInterpFrame sampleFrameChain fuel 64).2 ≠ .stillRunning) ↔
          PrevStops sampleFrameChain (WASMInterpFrame.str sampleFrameChain) 4096) ∧
        ((∃ fuel, (wamrInterpFrameDumpAll sampleFrameChain fuel 0).2 ≠ .stillRunning) ↔
          FrameStops sampleFrameChain (WASMInterpFrame.str sampleFrameChain) 0) ∧
        ∀ fuel k,
          (execEnv.getDynamicInfo sampleFrameChain fuel ≠ .ok none →
            execEnv.getDynamicInfo sampleFrameChain (fuel + k) =
              execEnv.getDynamicInfo sampleFrameChain fuel) ∧
          ((wamrExecEnvDumpAllInterpFrame sampleFrameChain fuel 64).2 ≠ .stillRunning →
            wamrExecEnvDumpAllInterpFrame sampleFrameChain (fuel + k) 64 =
              wamrExecEnvDumpAllInterpFrame sampleFrameChain fuel 64) ∧
          ((wamrInterpFrameDumpAll sampleFrameChain fuel 0).2 ≠ .stillRunning →
            wamrInterpFrameDumpAll sampleFrameChain (fuel + k) 0 =
              wamrInterpFrameDumpAll sampleFrameChain fuel 0) :=
  ⟨_, rfl, rfl, @frameWalks_end_iff sampleFrameChain 64 4096 _ rfl rfl 0⟩

/-! ### The frame count against the frame dump -/

/-- The number of frames `wamr_exec_env_dump` prints agrees with the frames
`wamr_exec_env_dump_all_interp_frame` prints for the same environment: when the frame dump
finishes, the environment dump shows its number of frames; when the frame dump is still running, so
is the frame count and nothing is printed; and the frame dump never prints more frames than the
count. A dump that has finished is the output of the unbounded command, since more iterations
change nothing once it has ended (`walkFrames_add_mono`).

Assumes: `prev` and `next` of the environment can be read. -/
theorem wamrExecEnvDump_frameCount {arg prev next : ℤ}
    (hprev : t.read "wasm_exec_env_t" arg [.field "prev"] = some prev)
    (hnext : t.read "wasm_exec_env_t" arg [.field "next"] = some next) (fuel : ℕ) :
    (∀ dumps, wamrExecEnvDumpAllInterpFrame t fuel arg = (dumps, .finished) →
      ∃ envDump, wamrExecEnvDump t fuel arg = .ok (some envDump) ∧
        envDump.frameCount = dumps.length) ∧
      ((wamrExecEnvDumpAllInterpFrame t fuel arg).2 = .stillRunning →
        wamrExecEnvDump t fuel arg = .ok none) ∧
      ∀ envDump, wamrExecEnvDump t fuel arg = .ok (some envDump) →
        (wamrExecEnvDumpAllInterpFrame t fuel arg).1.length ≤ envDump.frameCount := by
  cases henv : WASMExecEnv.init t arg with
  | error e =>
    rw [wamrExecEnvDump, wamrExecEnvDumpAllInterpFrame, wamrGetExecEnv, henv]
    exact ⟨fun _ h ↦ WalkEnd.noConfusion (congrArg Prod.snd h), WalkEnd.noConfusion,
      fun _ h ↦ Except.noConfusion h⟩
  | ok execEnv =>
    obtain rfl := WASMExecEnv.init_ref henv
    have hdump : wamrExecEnvDump t fuel execEnv.ref = execEnv.str t fuel := by
      rw [wamrExecEnvDump, wamrGetExecEnv, henv]
      rfl
    rw [wamrExecEnvDumpAllInterpFrame_of_init henv, walkFrames_eq_visitThen, hdump]
    generalize htrav : walkFrames t Except.ok fuel execEnv.currentFrame = trav
    obtain ⟨frames, e⟩ := trav
    obtain ⟨hsome, hfinished, hrunning⟩ := WASMExecEnv.str_of_traversal hprev hnext htrav
    -- the frame dump prints the traversal's frames, stopping at the first print that raises
    have hcases := @visitThen_cases _ (WASMInterpFrame.str t) frames e
    generalize visitThen (WASMInterpFrame.str t) frames ([], e) = printed at hcases ⊢
    obtain ⟨printed, ending⟩ := printed
    refine ⟨fun dumps h ↦ ?_, fun h ↦ ?_, fun d hd ↦ ?_⟩
    · obtain ⟨rfl, rfl⟩ := Prod.mk.inj h
      rcases hcases with ⟨hlen, rfl⟩ | ⟨-, e', he'⟩
      · obtain ⟨d, hd, hcount⟩ := hfinished rfl
        exact ⟨d, hd, hcount.trans hlen.symm⟩
      · cases he'
    · rcases hcases with ⟨-, rfl⟩ | ⟨-, e', he'⟩
      · exact hrunning h
      · cases h.symm.trans he'
    · obtain ⟨-, hcount⟩ := hsome d hd
      rcases hcases with ⟨hlen, -⟩ | ⟨hlen, -⟩ <;> dsimp only at hlen ⊢ <;> omega

theorem wamrExecEnvDump_frameCount_sample :
    sampleFrameChain.read "wasm_exec_env_t" 64 [.field "prev"] = some 1 ∧
      sampleFrameChain.read "wasm_exec_env_t" 64 [.field "next"] = some 1 ∧
      (∀ dumps, wamrExecEnvDumpAllInterpFrame sampleFrameChain 2 64 = (dumps, .finished) →
        ∃ envDump, wamrExecEnvDump sampleFrameChain 2 64 = .ok (some envDump) ∧
          envDump.frameCount = dumps.length) ∧
      ((wamrExecEnvDumpAllInterpFrame sampleFrameChain 2 64).2 = .stillRunning →
        wamrExecEnvDump sampleFrameChain 2 64 = .ok none) ∧
      ∀ envDump, wamrExecEnvDump sampleFrameChain 2 64 = .ok (some envDump) →
        (wamrExecEnvDumpAllInterpFrame sampleFrameChain 2 64).1.length ≤ envDump.frameCount :=
  ⟨rfl, rfl, @wamrExecEnvDump_frameCount sampleFrameChain 64 1 1 rfl rfl 2⟩

/-! ### What the frame dumps print -/

/-- What a dump of the frame chain prints is a linked list from `start`, the frame it starts from
(`none` for no frame): the first frame printed is the one at `start`, every frame shows as its
`prev_frame` the address of the next frame printed, which is not null, and a dump that finishes
ends with a frame whose `prev_frame` is null, and has printed nothing only from no frame. -/
structure DumpLinked (start : Option ℤ) (dump : List FrameDump × WalkEnd) : Prop where
  head : ∀ d ∈ dump.1.head?, some d.ref = start
  chain : dump.1.Chain' fun d d' ↦ d.prevFrame = d'.ref ∧ d'.ref ≠ 0
  last : dump.2 = .finished → ∀ d ∈ dump.1.getLast?, d.prevFrame = 0
  empty : dump.2 = .finished → dump.1 = [] → start = none

/-- Both dumps of the frame chain print a linked list, on every target and for every number of
iterations: `wamr_interp_frame_dump_all` from the frame at its argument, and
`wamr_exec_env_dump_all_interp_frame` from the frame at the `cur_frame` of the environment, no
frame when that is null. -/
theorem frameDumps_linked (t : Target) (fuel : ℕ) (arg : ℤ) :
    DumpLinked (some arg) (wamrInterpFrameDumpAll t fuel arg) ∧
      ∀ curFrame, t.read "wasm_exec_env_t" arg [.field "cur_frame"] = some curFrame →
        DumpLinked (if curFrame = 0 then none else some curFrame)
          (wamrExecEnvDumpAllInterpFrame t fuel arg) := by
  refine ⟨?_, fun curFrame hcur ↦ ?_⟩
  · obtain ⟨hhead, hchain, hlast⟩ := walkFrames_str_linked fuel (some (wamrGetInterpFrame t arg))
    exact ⟨hhead, hchain, fun hend ↦ (hlast hend).1,
      fun hend hnil ↦ Option.noConfusion ((hlast hend).2 hnil)⟩
  · cases henv : WASMExecEnv.init t arg with
    | error e =>
      rw [wamrExecEnvDumpAllInterpFrame, wamrGetExecEnv, henv]
      exact ⟨fun d hd ↦ (Option.not_mem_none d hd).elim, trivial, WalkEnd.noConfusion,
        WalkEnd.noConfusion⟩
    | ok execEnv =>
      obtain ⟨curFrame', hcur', hframe⟩ := WASMExecEnv.init_currentFrame henv
      rw [hcur, Option.some.injEq] at hcur'
      subst hcur'
      rw [wamrExecEnvDumpAllInterpFrame_of_init henv, hframe,
        ← WASMInterpFrame.ofNonNull_map_ref_eq]
      obtain ⟨hhead, hchain, hlast⟩ := walkFrames_str_linked fuel (WASMInterpFrame.ofNonNull t curFrame)
      exact ⟨hhead, hchain, fun hend ↦ (hlast hend).1,
        fun hend hnil ↦ by rw [(hlast hend).2 hnil, Option.map_none']⟩

theorem frameDumps_linked_sample :
    DumpLinked (some 4096) (wamrInterpFrameDumpAll sampleFrameChain 2 4096) ∧
      ∀ curFrame, sampleFrameChain.read "wasm_exec_env_t" 64 [.field "cur_frame"] = some curFrame →
        DumpLinked (if curFrame = 0 then none else some curFrame)
          (wamrExecEnvDumpAllInterpFrame sampleFrameChain 2 64) :=
  ⟨(frameDumps_linked sampleFrameChain 2 4096).1, (frameDumps_linked sampleFrameChain 2 64).2⟩

/-! ### What the frame commands raise -/

/-- Every failure of the commands over frames and environments is a `gdb.MemoryError`, on every
target and for every number of iterations: they read memory and consult no table of `constants`.
A dump of the frame chain that stops on an exception stops on a `gdb.MemoryError`. -/
theorem frameCommands_raiseOnly_memoryError (t : Target) (fuel : ℕ) (arg index : ℤ) :
    RaisesOnly [.memoryError] (wamrInterpFrameDump t arg) ∧
      RaisesOnly [.memoryError] (wamrExecEnvDump t fuel arg) ∧
      RaisesOnly [.memoryError] (wamrOperandStackGetI32 t arg index) ∧
      (∀ e, (wamrInterpFrameDumpAll t fuel arg).2 = .raised e → e = .memoryError) ∧
      ∀ e, (wamrExecEnvDumpAllInterpFrame t fuel arg).2 = .raised e → e = .memoryError := by
  have hwalk : ∀ frame e, (walkFrames t (WASMInterpFrame.str t) fuel frame).2 = .raised e →
      e = .memoryError := fun frame _ h ↦ List.eq_of_mem_singleton
    (walkFrames_raised (WASMInterpFrame.str_raisesOnly t) (List.mem_singleton_self _) fuel frame h)
  refine ⟨WASMInterpFrame.str_raisesOnly t _,
    (WASMExecEnv.init_raisesOnly arg).bind fun execEnv ↦ execEnv.str_raisesOnly fuel,
    Target.get_raisesOnly t _ _ _, fun e ↦ hwalk _ e, fun e h ↦ ?_⟩
  cases henv : WASMExecEnv.init t arg with
  | error e' =>
    rw [wamrExecEnvDumpAllInterpFrame, wamrGetExecEnv, henv] at h
    exact WalkEnd.raised.inj h ▸ List.eq_of_mem_singleton (WASMExecEnv.init_raisesOnly arg e' henv)
  | ok execEnv =>
    rw [wamrExecEnvDumpAllInterpFrame_of_init henv] at h
    exact hwalk _ e h

/-- Where no memory can be read, the dump from the frame at `4096` stops on the read of that
frame. -/
theorem frameCommands_raiseOnly_memoryError_sample :
    ∃ e, (wamrInterpFrameDumpAll ⟨fun _ _ _ ↦ none, fun _ ↦ [], none⟩ 1 4096).2 = .raised e ∧
      e = .memoryError :=
  ⟨_, rfl, (frameCommands_raiseOnly_memoryError ⟨fun _ _ _ ↦ none, fun _ ↦ [], none⟩ 1 4096 0).2.2.2.1
    _ rfl⟩

/-! ### What the type and object commands raise -/

/-- `wamr_type_dump` and `wamr_function_dump` never raise `IndexError`, on every target: the
`IndexError` of `TYPE_KIND` is caught inside `create_type`, and what follows raises only
`gdb.MemoryError` or a `KeyError` of `WASM_TYPE_MAP`. `wamr_gc_obj_dump` raises `IndexError` only
where `create_obj` does: printing the object raises none. -/
theorem typeDumps_raiseOnly (c : Constants) (t : Target) (arg : ℤ) :
    RaisesOnly [.memoryError, .keyError] (wamrTypeDump c t arg) ∧
      RaisesOnly [.memoryError, .keyError] (wamrFunctionDump c t arg) ∧
      (wamrGcObjDump c t arg = .error .indexError →
        WASMObj.createObj c t arg = .error .indexError) := by
  have hmem : PyExc.memoryError ∈ [PyExc.memoryError, .keyError] := List.mem_cons_self _ _
  have hkey : PyExc.keyError ∈ [PyExc.memoryError, .keyError] :=
    List.mem_cons_of_mem _ (List.mem_singleton_self _)
  refine ⟨(WASMType.createType_raisesOnly c t arg _).bind fun _ ↦
      WASMType.strOpt_raisesOnly hmem hkey c t _,
    ((WASMFunction.init_raisesOnly t arg).mono (List.cons_subset.mpr ⟨hmem, List.nil_subset _⟩)).bind fun _ ↦
      WASMFunction.str_raisesOnly hmem hkey c t _,
    fun h ↦ ?_⟩
  rcases bind_eq_error h with hobj | ⟨obj, -, hstr⟩
  · exact hobj
  cases obj with
  | none => cases hstr
  | some obj =>
    dsimp only at hstr
    cases hs : obj.str c t with
    | ok d =>
      rw [hs] at hstr
      cases hstr
    | error e =>
      rw [hs] at hstr
      cases hstr
      exact absurd (WASMObj.str_raisesOnly hmem hkey c t obj _ hs) (by decide)

/-- Where no memory can be read, `wamr_function_dump` raises on the read of the function. -/
theorem typeDumps_raiseOnly_sample :
    ∃ e, wamrFunctionDump sampleConstants ⟨fun _ _ _ ↦ none, fun _ ↦ [], none⟩ 512 = .error e ∧
      e ∈ [PyExc.memoryError, .keyError] :=
  ⟨_, rfl, (typeDumps_raiseOnly sampleConstants ⟨fun _ _ _ ↦ none, fun _ ↦ [], none⟩ 512).2.1 _ rfl⟩

end Commands

end WamrGdb
