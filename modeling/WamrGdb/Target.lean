import Mathlib.Data.Int.Bitwise
import Mathlib.Data.Nat.Bitwise

/-!
# The target as the scripts see it

The gdb scripts under `scripts/gdb` decode a halted WAMR process. Everything they learn about it
comes through gdb, and `Target` collects what they use: the memory image, read along typed access
paths (`Target.read`), the field names of each structure in the debug information
(`Target.fields`, what `value.type.fields()` lists), and the inferior function `get_frame_ref`
when the binary has one. A failed read raises `gdb.MemoryError`; the constant tables raise
`IndexError` or `KeyError` on a missing entry (`PyExc`).

The module `constants`, which every script imports, is not among the sources. Its names are the
fields of `Constants`, and every result of the development is stated for all values of them.

Python's list indexing, dictionary lookup, `range` and `try`/`except ... return None` are
`pyIndex`, `pyLookup`, `pyRange` and `catchNone`. `RaisesOnly` records which exceptions a
computation can raise; `RaisesOnly.bind` and its companions let the containment results of the
object and type factories be read off the shape of their code. `Target.AgreeOff` says that two
targets differ at most along a set of reads, the form in which frame conditions (what a
computation does not read) are stated.
-/

set_option autoImplicit false
set_option relaxedAutoImplicit false

namespace WamrGdb

/-! ### Exceptions and the target -/

/-- The Python exceptions the decoding code can raise: `gdb.MemoryError` from a read, `IndexError`
from a list of `constants` and `KeyError` from a dictionary of `constants`. -/
inductive PyExc where
  | memoryError
  | indexError
  | keyError
  deriving DecidableEq, Repr

/-- One step of a gdb access path: `value['name']` or `value[index]`. A subscript through a pointer
reads the pointer first; both reads fail alike, so the path stands for the whole access. -/
inductive Sel where
  | field (name : String)
  | index (i : ℤ)
  deriving DecidableEq, Repr

/-- A halted target process. `read ty addr path` is the scalar reached from the object at `addr`
viewed through the type `ty` (the name the scripts pass to `gdb.lookup_type`), along `path`, and
`none` when gdb raises `gdb.MemoryError` on it. `fields ty` is the list of field names of `ty` in the
debug information. `getFrameRef` is the inferior function `get_frame_ref` if the binary defines
one; a call returns a pointer or raises `gdb.error` (`none`). -/
structure Target where
  read : String → ℤ → List Sel → Option ℤ
  fields : String → List String
  getFrameRef : Option (ℤ → Option ℤ)

/-- Fetching a value from the target, as `int(value)` does. -/
def Target.get (t : Target) (ty : String) (addr : ℤ) (path : List Sel) : Except PyExc ℤ :=
  match t.read ty addr path with
  | some v => .ok v
  | none => .error .memoryError

theorem Target.get_eq_ok {t : Target} {ty : String} {addr v : ℤ} {path : List Sel}
    (h : t.read ty addr path = some v) : t.get ty addr path = .ok v := by
  simp [Target.get, h]

theorem Target.get_eq_ok_iff {t : Target} {ty : String} {addr v : ℤ} {path : List Sel} :
    t.get ty addr path = .ok v ↔ t.read ty addr path = some v := by
  unfold Target.get
  split <;> simp_all

/-- `t'` differs from `t` at most along the reads `outside` names: the same layouts, the same
inferior function, and the same value along every other access path. -/
structure Target.AgreeOff (outside : String → ℤ → List Sel → Prop) (t t' : Target) : Prop where
  fields_eq : t'.fields = t.fields
  getFrameRef_eq : t'.getFrameRef = t.getFrameRef
  read_eq : ∀ ty addr path, ¬ outside ty addr path → t'.read ty addr path = t.read ty addr path

theorem Target.AgreeOff.get_eq {outside : String → ℤ → List Sel → Prop} {t t' : Target}
    (h : t.AgreeOff outside t') {ty : String} {addr : ℤ} {path : List Sel}
    (hpath : ¬ outside ty addr path) : t'.get ty addr path = t.get ty addr path := by
  rw [Target.get, Target.get, h.read_eq ty addr path hpath]

/-- The names the scripts import from the module `constants`, which is not among the sources. -/
structure Constants where
  HMU_HEADER_SIZE : ℤ
  HMU_HEADER_TYPE : String
  HMU_SIZE_SIZE : ℕ
  HMU_SIZE_OFFSET : ℕ
  HMU_UT_SIZE : ℕ
  HMU_UT_OFFSET : ℕ
  HMU_P_OFFSET : ℕ
  HMU_WO_MB_OFFSET : ℕ
  HMU_UT_MAP : List String
  WASM_OBJ_EXTERNREF_OBJ_FLAG : ℤ
  WASM_OBJ_ANYREF_OBJ_FLAG : ℤ
  TYPE_KIND : List String
  WASM_TYPE_MAP : ℤ → Option String
  WASM_ARRAY_LENGTH_SHIFT : ℕ
  WASM_ARRAY_ELEM_SIZE_MASK : ℤ

/-- One choice of the constants, used to check the hypotheses of theorems at concrete inputs. -/
def sampleConstants : Constants where
  HMU_HEADER_SIZE := 4
  HMU_HEADER_TYPE := "gc_uint32"
  HMU_SIZE_SIZE := 27
  HMU_SIZE_OFFSET := 0
  HMU_UT_SIZE := 2
  HMU_UT_OFFSET := 30
  HMU_P_OFFSET := 29
  HMU_WO_MB_OFFSET := 28
  HMU_UT_MAP := ["HMU_FC", "HMU_FM", "HMU_VO", "HMU_WO"]
  WASM_OBJ_EXTERNREF_OBJ_FLAG := 2
  WASM_OBJ_ANYREF_OBJ_FLAG := 4
  TYPE_KIND := ["WASM_TYPE_FUNC", "WASM_TYPE_STRUCT", "WASM_TYPE_ARRAY"]
  WASM_TYPE_MAP := fun code ↦
    if code = 0x7F then some "VALUE_TYPE_I32"
    else if code = 0x63 then some "REF_TYPE_HT_NULLABLE"
    else if code = 0x64 then some "REF_TYPE_HT_NON_NULLABLE"
    else none
  WASM_ARRAY_LENGTH_SHIFT := 2
  WASM_ARRAY_ELEM_SIZE_MASK := 3

/-! ### Python's indexing, `range` and `try` -/

/-- The entry Python's `xs[i]` reads, if there is one: a negative index counts from the end. -/
def pyGet? {α : Type} (xs : List α) (i : ℤ) : Option α :=
  if i < 0 then (if 0 ≤ i + xs.length then xs[(i + xs.length).toNat]? else none)
  else xs[i.toNat]?

/-- Python's `xs[i]` on a list: an index outside the list raises `IndexError`. -/
def pyIndex {α : Type} (xs : List α) (i : ℤ) : Except PyExc α :=
  match pyGet? xs i with
  | some a => .ok a
  | none => .error .indexError

/-- An index at or past the end of the list raises `IndexError`. -/
theorem pyIndex_of_length_le {α : Type} (xs : List α) {i : ℤ} (h : (xs.length : ℤ) ≤ i) :
    pyIndex xs i = .error .indexError := by
  have hnot : ¬ i < 0 := by omega
  have hnone : xs[i.toNat]? = none := List.getElem?_eq_none (by omega)
  simp [pyIndex, pyGet?, hnot, hnone]

/-- A natural index inside the list reads its entry. -/
theorem pyIndex_of_lt {α : Type} (xs : List α) {i : ℕ} (h : i < xs.length) :
    pyIndex xs i = .ok xs[i] := by
  have hnot : ¬ (i : ℤ) < 0 := by omega
  simp [pyIndex, pyGet?, hnot, List.getElem?_eq_getElem h]

/-- Python's `d[k]` on a dictionary: a missing key raises `KeyError`. -/
def pyLookup {α : Type} (d : ℤ → Option α) (k : ℤ) : Except PyExc α :=
  match d k with
  | some a => .ok a
  | none => .error .keyError

/-- Python's `range(start, stop)`. -/
def pyRange (start stop : ℤ) : List ℤ :=
  (List.range (stop - start).toNat).map fun (k : ℕ) ↦ start + (k : ℤ)

theorem mem_pyRange {start stop i : ℤ} : i ∈ pyRange start stop ↔ start ≤ i ∧ i < stop := by
  simp only [pyRange, List.mem_map, List.mem_range]
  constructor
  · rintro ⟨k, hk, rfl⟩
    omega
  · intro h
    exact ⟨(i - start).toNat, by omega, by omega⟩

/-- Python's `try: ... except (E₁, ..., Eₙ): return None` around a computation with an optional
result. -/
def catchNone {α : Type} (caught : List PyExc) : Except PyExc (Option α) → Except PyExc (Option α)
  | .error e => if e ∈ caught then .ok none else .error e
  | .ok a => .ok a

/-! ### Which exceptions a computation raises -/

/-- Every exception `x` can raise is one of `allowed`. -/
def RaisesOnly {α : Type} (allowed : List PyExc) (x : Except PyExc α) : Prop :=
  ∀ e, x = .error e → e ∈ allowed

section RaisesOnly

variable {α β : Type} {allowed : List PyExc}

theorem RaisesOnly.ok (a : α) : RaisesOnly allowed (.ok a) := by
  simp [RaisesOnly]

theorem RaisesOnly.pure (a : α) : RaisesOnly allowed (Pure.pure a : Except PyExc α) :=
  RaisesOnly.ok a

theorem RaisesOnly.bind {x : Except PyExc α} {f : α → Except PyExc β} (hx : RaisesOnly allowed x)
    (hf : ∀ a, RaisesOnly allowed (f a)) : RaisesOnly allowed (x >>= f) := by
  cases x with
  | error e =>
    intro e' h
    change Except.error e = Except.error e' at h
    cases h
    exact hx e rfl
  | ok a => exact hf a

theorem RaisesOnly.map {x : Except PyExc α} (f : α → β) (hx : RaisesOnly allowed x) :
    RaisesOnly allowed (f <$> x) := by
  cases x with
  | error e =>
    intro e' h
    change Except.error e = Except.error e' at h
    cases h
    exact hx e rfl
  | ok a => exact RaisesOnly.ok _

theorem RaisesOnly.ite {p : Prop} [Decidable p] {x y : Except PyExc α} (hx : RaisesOnly allowed x)
    (hy : RaisesOnly allowed y) : RaisesOnly allowed (if p then x else y) := by
  split
  · exact hx
  · exact hy

theorem RaisesOnly.mono {allowed' : List PyExc} {x : Except PyExc α} (hx : RaisesOnly allowed x)
    (hsub : allowed ⊆ allowed') : RaisesOnly allowed' x :=
  fun e h ↦ hsub (hx e h)

theorem RaisesOnly.mapM {γ : Type} {f : γ → Except PyExc α} (hf : ∀ a, RaisesOnly allowed (f a)) :
    ∀ xs : List γ, RaisesOnly allowed (xs.mapM f)
  | [] => RaisesOnly.pure _
  | a :: xs => by
    rw [List.mapM_cons]
    exact (hf a).bind fun _ ↦ (RaisesOnly.mapM hf xs).bind fun _ ↦ RaisesOnly.pure _

theorem RaisesOnly.get (t : Target) (ty : String) (addr : ℤ) (path : List Sel)
    (h : PyExc.memoryError ∈ allowed) : RaisesOnly allowed (t.get ty addr path) := by
  intro e he
  unfold Target.get at he
  split at he <;> cases he
  exact h

theorem RaisesOnly.pyIndex (xs : List α) (i : ℤ) (h : PyExc.indexError ∈ allowed) :
    RaisesOnly allowed (WamrGdb.pyIndex xs i) := by
  intro e he
  unfold WamrGdb.pyIndex at he
  split at he <;> cases he
  exact h

theorem RaisesOnly.pyLookup (d : ℤ → Option α) (k : ℤ) (h : PyExc.keyError ∈ allowed) :
    RaisesOnly allowed (WamrGdb.pyLookup d k) := by
  intro e he
  unfold WamrGdb.pyLookup at he
  split at he <;> cases he
  exact h

/-- What leaves a `try`: the exceptions of its body that it does not catch. -/
theorem RaisesOnly.catchNone {caught : List PyExc} {x : Except PyExc (Option α)}
    (hx : RaisesOnly (caught ++ allowed) x) : RaisesOnly allowed (WamrGdb.catchNone caught x) := by
  intro e he
  cases x with
  | error e' =>
    simp only [WamrGdb.catchNone] at he
    split_ifs at he with hcaught
    cases he
    simpa [hcaught] using hx _ rfl
  | ok a => cases he

theorem catchNone_eq_error {caught : List PyExc} {x : Except PyExc (Option α)} {e : PyExc}
    (h : WamrGdb.catchNone caught x = .error e) : x = .error e ∧ e ∉ caught := by
  cases x with
  | error e' =>
    simp only [WamrGdb.catchNone] at h
    split_ifs at h with hcaught
    cases h
    exact ⟨rfl, hcaught⟩
  | ok a => cases h

theorem bind_eq_error {x : Except PyExc α} {f : α → Except PyExc β} {e : PyExc}
    (h : x >>= f = .error e) : x = .error e ∨ ∃ a, x = .ok a ∧ f a = .error e := by
  cases x with
  | error e' => exact .inl (by cases h; rfl)
  | ok a => exact .inr ⟨a, rfl, h⟩

theorem bind_eq_ok {x : Except PyExc α} {f : α → Except PyExc β} {b : β} :
    x >>= f = .ok b ↔ ∃ a, x = .ok a ∧ f a = .ok b := by
  cases x with
  | error e => exact ⟨fun h ↦ (by cases h), fun ⟨a, ha, _⟩ ↦ (by cases ha)⟩
  | ok a => exact ⟨fun h ↦ ⟨a, rfl, h⟩, fun ⟨a', ha, hb⟩ ↦ (by cases ha; exact hb)⟩

theorem map_eq_ok {x : Except PyExc α} {f : α → β} {b : β} :
    f <$> x = .ok b ↔ ∃ a, x = .ok a ∧ f a = b := by
  cases x with
  | error e => exact ⟨fun h ↦ (by cases h), fun ⟨a, ha, _⟩ ↦ (by cases ha)⟩
  | ok a => exact ⟨fun h ↦ ⟨a, rfl, (by cases h; rfl)⟩, fun ⟨a', ha, hb⟩ ↦ (by cases ha; subst hb; rfl)⟩

/-- A `mapM` that returns has run its function on every element, in order. -/
theorem mapM_eq_ok {γ : Type} {f : γ → Except PyExc α} :
    ∀ {xs : List γ} {ys : List α}, xs.mapM f = .ok ys → List.Forall₂ (fun x y ↦ f x = .ok y) xs ys
  | [], ys, h => by cases h; exact .nil
  | x :: xs, ys, h => by
    rw [List.mapM_cons] at h
    obtain ⟨y, hy, h⟩ := bind_eq_ok.mp h
    obtain ⟨ys', hys, h⟩ := bind_eq_ok.mp h
    cases h
    exact .cons hy (mapM_eq_ok hys)

/-- `mapM` runs its function on the elements only. -/
theorem mapM_congr_of_mem {γ : Type} {f g : γ → Except PyExc α} :
    ∀ {xs : List γ}, (∀ x ∈ xs, f x = g x) → xs.mapM f = xs.mapM g
  | [], _ => rfl
  | x :: xs, h => by
    rw [List.mapM_cons, List.mapM_cons, h x (List.mem_cons_self x xs),
      mapM_congr_of_mem fun y hy ↦ h y (List.mem_cons_of_mem x hy)]

/-- A `try` that catches everything its body can raise never raises. -/
theorem catchNone_ne_error {caught : List PyExc} {x : Except PyExc (Option α)}
    (hx : RaisesOnly caught x) (e : PyExc) : catchNone caught x ≠ .error e := by
  cases x with
  | error e' => simp [catchNone, hx e' rfl]
  | ok a => simp [catchNone]

end RaisesOnly

end WamrGdb
