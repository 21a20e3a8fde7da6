import XGBoostData.Data.Adapter

/-!
# `SparsePage::Push(batch, missing, nthread)` (spec §4.3, §7)

WHAT THIS FILE IS FOR.  The append of an adapter batch is the one operation of the
page with real error paths and real concurrency.  It is modelled in the order of the
source:

1. `nthread` is forced to 1 for a column-major batch, the builder's base is `Size()`,
   and the expected number of rows is estimated from the last element;
2. an empty batch returns `0` at once; otherwise each thread's slice is
   `batch_size / nthread` lines, a division by zero for a row-major batch with
   `nthread = 0`, which is undefined behaviour and returned as `divisionByZero`;
3. pass 1 walks every thread's slice: it clears `valid` on an infinite value under a
   finite `missing`, raises on a row key below `Size()` (`CHECK_GE`), keeps each
   thread's column maximum, and calls `AddBudget` for every valid element;
4. `exec.Rethrow()`, then `CHECK(valid)`;
5. `InitStorage()`, and pass 2 places `Entry(column_idx, value)` for every element the
   Validity Filter keeps.

The threads are run one after another.  That is one of their interleavings, and by
`GroupBuilder.placeInv_placePass` every interleaving of pass 2 leaves the same page;
pass 1 touches only the thread's own row of the table and its own column maximum.

Errors carry no state of their own: the page the call leaves behind is returned with
the error, as `EStateM.Result` does, so "a failed push leaves the page unchanged" is a
statement about the model and not an assumption of it.
-/

set_option autoImplicit false

namespace XGBoostData

namespace SparsePage

open GroupBuilder

/-- Why `Push(batch, …)` raises. -/
inductive PushError
  /-- `CHECK_GE(key, builder_base_row_offset)`: an element's row key lies below `Size()`. -/
  | rowCheck
  /-- `CHECK(valid) << error::InfInData()`: an infinite value under a finite `missing`. -/
  | infInData
  /-- Not a checked error: `batch_size / nthread` of a row-major batch with `nthread = 0`,
  a division by zero, which is undefined behaviour in C++. -/
  | divisionByZero
  deriving DecidableEq, Repr

/-- `element.row_idx - base_rowid`, in 64-bit unsigned arithmetic. -/
def rowKey (baseRowid : UInt64) (e : COOTuple) : Nat := (e.rowIdx - baseRowid).toNat

/-- Every element both passes visit, with the thread that visits it: thread by thread,
line by line, element by element. -/
def traversal (batch : AdapterBatch) (nthread : Nat) : List (Nat × COOTuple) :=
  (List.range nthread).flatMap fun tid =>
    (threadLines batch.size nthread tid).flatMap fun i => (batch.getLine i).map (tid, ·)

/-- What pass 1 carries: the budget table, `max_columns_vector` and `valid`. -/
structure CountState where
  budget : List (List Nat)
  maxColumns : List Nat
  valid : Bool

/-- Pass 1 on one element, in the source's order: the infinity test, the row check,
the thread's column maximum, and `AddBudget` for a valid element. -/
def countElement (missing : F32) (baseRowid : UInt64) (builderBase : Nat) (st : CountState)
    (te : Nat × COOTuple) : Except PushError CountState :=
  let valid := if !missing.isInf && te.2.value.isInf then false else st.valid
  let key := rowKey baseRowid te.2
  if key < builderBase then .error .rowCheck
  else .ok
    { budget := if !checkNAN te.2.value && !te.2.value.feq missing then
          addBudget builderBase st.budget key te.1 else st.budget
      maxColumns := st.maxColumns.modify (max · (te.2.columnIdx + 1).toNat) te.1
      valid := valid }

/-- The placements of pass 2: `Push(key, Entry(column_idx, value), tid)` for every
element that `IsValidFunctor{missing}` keeps. -/
def placements (missing : F32) (baseRowid : UInt64) (l : List (Nat × COOTuple)) :
    List (Placement Entry) :=
  l.filterMap fun te =>
    if isValidFunctor missing te.2 then some ⟨te.1, rowKey baseRowid te.2, te.2.toEntry⟩ else none

/-- The row estimate handed to `InitBudget`: the batch size for a row-major batch, and
otherwise the key of the last element of the last line (0 when there is none). -/
def expectedRows (baseRowid : UInt64) (batch : AdapterBatch) : Nat :=
  if batch.isRowMajor then batch.size
  else match batch.lines.getLast? with
    | some line => match line.getLast? with
      | some e => rowKey baseRowid e
      | none => 0
    | none => 0

/-- The thread count `Push` runs with: `nthread` for a row-major batch, and 1 for a
column-major one, which would otherwise need `O(nthread * batch_size)` memory. -/
def pushThreads (batch : AdapterBatch) (nthread : Nat) : Nat :=
  if batch.isRowMajor then nthread else 1

/-- The state pass 1 starts from: `InitBudget(expected_rows, nthread)`, one zero column
maximum per thread, and `valid = true`. -/
def countInit (page : SparsePage) (batch : AdapterBatch) (nthread : Nat) : CountState :=
  ⟨initBudget (budgetExtent batch.isRowMajor page.size (expectedRows page.baseRowid batch)) nthread,
    List.replicate nthread 0, true⟩

/-- Pass 1 of `Push`, with the builder's base `Size()`. -/
def firstPass (page : SparsePage) (batch : AdapterBatch) (missing : F32) (nthread : Nat) :
    Except PushError CountState :=
  (traversal batch nthread).foldlM (countElement missing page.baseRowid page.size)
    (countInit page batch nthread)

/-- What follows pass 1: `CHECK(valid)`, the reduction of the column maxima,
`InitStorage()` and pass 2. -/
def finishPush (page : SparsePage) (batch : AdapterBatch) (missing : F32) (nthread : Nat)
    (st : CountState) : EStateM.Result PushError SparsePage Nat :=
  if !st.valid then .error .infInData page
  else
    let storage := initStorage page.offset page.data st.budget
    let data := (placePass page.size storage.2
      (placements missing page.baseRowid (traversal batch nthread))).1
    .ok (st.maxColumns.foldl max 0) { page with offset := storage.1, data := data }

/-- `SparsePage::Push(AdapterBatchT const& batch, float missing, int32_t nthread)`: the
value returned (the column count seen) or the error, with the page the call leaves. -/
def pushBatch (page : SparsePage) (batch : AdapterBatch) (missing : F32) (nthread : Nat) :
    EStateM.Result PushError SparsePage Nat :=
  if batch.size = 0 then .ok 0 page
  else if pushThreads batch nthread = 0 then .error .divisionByZero page
  else match firstPass page batch missing (pushThreads batch nthread) with
    | .error e => .error e page
    | .ok st => finishPush page batch missing (pushThreads batch nthread) st

/-- A push that raises leaves `offset`, `data` and `base_rowid` as they were: every
check fires in pass 1 or right after it, before `InitStorage` writes the page. -/
theorem pushBatch_error_state {page : SparsePage} {batch : AdapterBatch} {missing : F32}
    {nthread : Nat} {e : PushError} {page' : SparsePage}
    (h : pushBatch page batch missing nthread = .error e page') : page' = page := by
  unfold pushBatch at h
  split at h
  · cases h
  split at h
  · cases h; rfl
  · rcases hp : firstPass page batch missing (pushThreads batch nthread) with e' | st <;>
      simp only [hp] at h
    · cases h; rfl
    · unfold finishPush at h
      split at h
      · cases h; rfl
      · cases h

/-- A push into a one-row page of an element of row 0 fails the row check, and the page
is the one passed in. -/
theorem pushBatch_error_state_rowCheck :
    pushBatch ⟨[0, 0], [], 0⟩ ⟨[[⟨0, 0, F32.one⟩]], true⟩ F32.nan 1 = .error .rowCheck ⟨[0, 0], [], 0⟩ ∧
      (⟨[0, 0], [], 0⟩ : SparsePage) = ⟨[0, 0], [], 0⟩ :=
  by
    have h : pushBatch ⟨[0, 0], [], 0⟩ ⟨[[⟨0, 0, F32.one⟩]], true⟩ F32.nan 1 =
      .error .rowCheck ⟨[0, 0], [], 0⟩ := rfl
    exact ⟨h, pushBatch_error_state h⟩

/-! ## The traversal -/

/-- Every visit is made by one of the `nthread` threads. -/
theorem tid_lt_of_mem_traversal {batch : AdapterBatch} {nthread : Nat} {te : Nat × COOTuple}
    (h : te ∈ traversal batch nthread) : te.1 < nthread := by
  simp only [traversal, List.mem_flatMap, List.mem_range, List.mem_map] at h
  obtain ⟨tid, htid, i, -, e, -, rfl⟩ := h
  exact htid

/-- Pass 1 on an element that passes the row check. -/
def countStep (missing : F32) (baseRowid : UInt64) (builderBase : Nat) (st : CountState)
    (te : Nat × COOTuple) : CountState :=
  { budget := if !checkNAN te.2.value && !te.2.value.feq missing then
        addBudget builderBase st.budget (rowKey baseRowid te.2) te.1 else st.budget
    maxColumns := st.maxColumns.modify (max · (te.2.columnIdx + 1).toNat) te.1
    valid := if !missing.isInf && te.2.value.isInf then false else st.valid }

theorem countElement_eq (missing : F32) (baseRowid : UInt64) (builderBase : Nat) (st : CountState)
    (te : Nat × COOTuple) :
    countElement missing baseRowid builderBase st te =
      if rowKey baseRowid te.2 < builderBase then .error .rowCheck
      else .ok (countStep missing baseRowid builderBase st te) := rfl

/-- A fold in `Except` whose step fails exactly on the elements `bad` picks out fails
iff one of them occurs; otherwise it is the plain fold. -/
theorem foldlM_except {σ β ε : Type} (step : σ → β → Except ε σ) (bad : β → Bool) (f : σ → β → σ)
    (e : ε) (h : ∀ s x, step s x = if bad x then .error e else .ok (f s x)) :
    ∀ (l : List β) (s : σ), l.foldlM step s = if l.any bad then .error e else .ok (l.foldl f s)
  | [], _ => rfl
  | x :: l, s => by
    rw [List.foldlM_cons, h]
    by_cases hx : bad x
    · simp [hx]; rfl
    · simp only [hx, if_false, List.any_cons, Bool.false_or, List.foldl_cons]
      exact foldlM_except step bad f e h l (f s x)

theorem isValidFunctor_eq (missing : F32) (e : COOTuple) :
    isValidFunctor missing e = (!checkNAN e.value && !e.value.feq missing) := by
  simp [isValidFunctor]

/-- Pass 1 raises exactly when some element's row key lies below the builder's base;
otherwise it is the plain fold of `countStep`. -/
theorem firstPass_eq (page : SparsePage) (batch : AdapterBatch) (missing : F32) (nthread : Nat) :
    firstPass page batch missing nthread =
      if (traversal batch nthread).any fun te => decide (rowKey page.baseRowid te.2 < page.size) then
        .error .rowCheck
      else .ok ((traversal batch nthread).foldl (countStep missing page.baseRowid page.size)
        (countInit page batch nthread)) :=
  foldlM_except _ _ _ _ (fun s te => by simp only [countElement_eq, decide_eq_true_eq]) _ _

theorem placements_eq_map_filter (missing : F32) (baseRowid : UInt64) (l : List (Nat × COOTuple)) :
    placements missing baseRowid l =
      (l.filter fun te => isValidFunctor missing te.2).map
        fun te => ⟨te.1, rowKey baseRowid te.2, te.2.toEntry⟩ := by
  induction l with
  | nil => rfl
  | cons te l ih =>
    simp only [placements, List.filterMap_cons, List.filter_cons] at ih ⊢
    split <;> simp_all

theorem placements_tid_lt {batch : AdapterBatch} {n : Nat} {missing : F32} {baseRowid : UInt64}
    {w : Placement Entry} (hw : w ∈ placements missing baseRowid (traversal batch n)) : w.tid < n := by
  simp only [placements_eq_map_filter, List.mem_map, List.mem_filter] at hw
  obtain ⟨te, ⟨hte, -⟩, rfl⟩ := hw
  exact tid_lt_of_mem_traversal hte

/-- Two lines on two threads: the NaN is dropped, each line is one row, and the column
count is `2 + 1`. -/
example : pushBatch SparsePage.empty ⟨[[⟨0, 2, F32.one⟩, ⟨0, 0, F32.nan⟩], [⟨1, 1, F32.two⟩]], true⟩
    F32.nan 2 = .ok 3 (ofRows [[⟨2, F32.one⟩], [⟨1, F32.two⟩]] 0) := rfl

/-! ## How many rows a push appends -/

/-- The row check compares `row_idx - base_rowid` after the 64-bit subtraction, so a row
below `base_rowid` wraps to a key far past `Size()` and is let through: row 0 pushed into
an empty page whose base row is 1 does not raise, and an empty row is appended. -/
theorem pushBatch_row_below_base_rowid :
    (0 : UInt64).toNat < (1 : UInt64).toNat + (⟨[0], [], 1⟩ : SparsePage).size ∧
      pushBatch ⟨[0], [], 1⟩ ⟨[[⟨0, 0, F32.nan⟩]], true⟩ F32.nan 1 = .ok 1 ⟨[0, 0], [], 1⟩ :=
  ⟨by decide, rfl⟩

end SparsePage

end XGBoostData
