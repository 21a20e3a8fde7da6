import XGBoostData.Common.GroupBuilder

/-!
# Adapter batches and the validity filter (spec §4.3, §5, §6)

The adapters (`data/adapter.h`) are external collaborators: `SparsePage::Push` sees a
batch only through `Size()`, `GetLine(i)`, `line.Size()`, `line.GetElement(j)` and the
compile-time flag `kIsRowMajor`.  A batch is modelled from spec §6 as its list of
lines, each a list of `COOTuple`s.  The tuple's indices are 64 bits wide: `Push` stores
`row_idx - base_rowid` in a `size_t` and widens `column_idx + 1` to `uint64_t`.

This file also fixes the slices `Push` gives its threads (spec §5: `batch_size /
nthread` lines each, the remainder to the last thread) and proves that, walked thread
by thread, they visit every line exactly once and in order.
-/

set_option autoImplicit false

namespace XGBoostData

/-- Modelled from the spec: `data::COOTuple` (`data/adapter.h` is not in the excerpt),
the `(row_idx, column_idx, value)` an adapter line yields (spec §6). -/
structure COOTuple where
  rowIdx : UInt64
  columnIdx : UInt64
  value : F32
  deriving DecidableEq, Repr

/-- Modelled from the spec: an adapter batch (spec §6, §9): its lines, and `kIsRowMajor`. -/
structure AdapterBatch where
  lines : List (List COOTuple)
  isRowMajor : Bool
  deriving DecidableEq, Repr

namespace AdapterBatch

/-- `Size()`: the number of lines. -/
def size (batch : AdapterBatch) : Nat := batch.lines.length

/-- `GetLine(i)`. -/
def getLine (batch : AdapterBatch) (i : Nat) : List COOTuple := batch.lines.getD i []

/-- Every tuple of the batch, line by line, element by element. -/
def tuples (batch : AdapterBatch) : List COOTuple := batch.lines.flatten

end AdapterBatch

/-- Modelled from the spec: `data::IsValidFunctor` (`data/adapter.h`), the Validity
Filter of spec §4.3: the value is not NaN and not equal to `missing`. -/
def isValidFunctor (missing : F32) (e : COOTuple) : Bool :=
  !(checkNAN e.value || e.value.feq missing)

/-- `Entry(element.column_idx, element.value)`: the index narrows to 32 bits. -/
def COOTuple.toEntry (e : COOTuple) : Entry := ⟨UInt32.ofNat e.columnIdx.toNat, e.value⟩

/-! ## The thread slices of `Push` -/

/-- The lines thread `tid` walks, in both passes of `Push`: from `tid * thread_size` to
`(tid + 1) * thread_size`, and to `batch_size` for the last thread. -/
def threadLines (batchSize nthread tid : Nat) : List Nat :=
  let threadSize := batchSize / nthread
  let begin := tid * threadSize
  let end_ := if tid ≠ nthread - 1 then (tid + 1) * threadSize else batchSize
  List.range' begin (end_ - begin)

theorem range'_zero_append (m n : Nat) : List.range' 0 m ++ List.range' m n = List.range' 0 (m + n) := by
  simpa [Nat.add_comm] using List.range'_append_1 0 m n

/-- The slices of the first `k < nthread` threads cover the first `k * thread_size` lines. -/
theorem flatMap_threadLines_of_lt (batchSize nthread : Nat) :
    ∀ k, k < nthread →
      (List.range k).flatMap (threadLines batchSize nthread) = List.range' 0 (k * (batchSize / nthread))
  | 0, _ => by simp
  | k + 1, hk => by
    rw [List.range_succ, List.flatMap_append, flatMap_threadLines_of_lt batchSize nthread k (by omega)]
    simp only [List.flatMap_cons, List.flatMap_nil, List.append_nil, threadLines,
      if_pos (show k ≠ nthread - 1 by omega)]
    rw [range'_zero_append, Nat.succ_mul, Nat.add_sub_cancel_left]

/-- Walked thread by thread, the slices visit every line once, in order. -/
theorem flatMap_threadLines (batchSize : Nat) {nthread : Nat} (hn : 0 < nthread) :
    (List.range nthread).flatMap (threadLines batchSize nthread) = List.range batchSize := by
  obtain ⟨k, rfl⟩ : ∃ k, nthread = k + 1 := ⟨nthread - 1, by omega⟩
  rw [List.range_succ, List.flatMap_append, flatMap_threadLines_of_lt batchSize (k + 1) k (by omega)]
  have hle : k * (batchSize / (k + 1)) ≤ batchSize :=
    calc k * (batchSize / (k + 1)) ≤ (k + 1) * (batchSize / (k + 1)) :=
          Nat.mul_le_mul_right _ (Nat.le_succ k)
      _ = batchSize / (k + 1) * (k + 1) := Nat.mul_comm _ _
      _ ≤ batchSize := Nat.div_mul_le_self batchSize (k + 1)
  simp only [List.flatMap_cons, List.flatMap_nil, List.append_nil, threadLines, Nat.add_sub_cancel,
    ne_eq, not_true_eq_false, if_false]
  rw [range'_zero_append, Nat.add_sub_cancel' hle, List.range_eq_range']

end XGBoostData
