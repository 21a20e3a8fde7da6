import XGBoostData.Data.MetaInfoQuery

/-!
# Column counts and feature names across workers (data.cc)

WHAT THIS FILE IS FOR.  In distributed training every worker holds its own `MetaInfo`.
`SynchronizeNumberOfColumns` makes the workers agree on the column count with one
`collective::Allreduce`: the sum of their counts when the data is split by column, the
largest count when it is split by row.  Under a column split `SetFeatureInfo` then
gathers every worker's feature names, each prefixed with the worker's rank, and checks
the result against that count.  This file runs both calls on a whole cluster and proves
what they achieve together (`synchronize_featureNames_agree`): every worker ends with the
same column count, and when each worker names its own columns every worker's
`SetFeatureInfo` returns, all of them with the same names in rank order, as many as the
synchronized count.

THE COLLECTIVES.  `collective::Allreduce` and `collective::AllgatherStrings` are in
`collective/`, which is not in the excerpt.  Both are modelled by what they give a worker
when all the workers take part: the reduction of the values the workers contribute, and
the lists they contribute end to end in rank order, the caller's contribution being the
one it passes.

THE SPLIT MODE.  `data_split_mode` is a member of `MetaInfo` that the record of
`MetaInfo.lean` leaves out, since the operations there take `IsColumnSplit()` as an
argument; a worker's state here carries it beside the record.
-/

set_option autoImplicit false

namespace XGBoostData

/-- `DataSplitMode`. -/
inductive DataSplitMode
  | kRow
  | kCol
  deriving DecidableEq, Repr

/-- `collective::Op`: the two reductions `SynchronizeNumberOfColumns` uses. -/
inductive ReduceOp
  | kMax
  | kSum
  deriving DecidableEq, Repr

/-- What an all-reduce of one `uint64_t` per worker gives: the sum of the values, wrapping
around, or the largest of them. -/
def reduce : ReduceOp → List UInt64 → UInt64
  | .kSum, vs => vs.foldr (· + ·) 0
  | .kMax, vs => vs.foldr max 0

/-- A worker's `MetaInfo` together with its member `data_split_mode`. -/
structure SplitInfo (Cats : Type) where
  meta : MetaInfo Cats
  dataSplitMode : DataSplitMode

namespace SplitInfo

variable {Cats : Type}

/-- `IsColumnSplit()`. -/
def isColumnSplit (w : SplitInfo Cats) : Bool := w.dataSplitMode == .kCol

/-- `SynchronizeNumberOfColumns(ctx, split_mode)`: the mode is stored, then the column
count is all-reduced in place, summed under a column split and maximised otherwise.
`allreduce op v` is `collective::Allreduce` of the worker's value `v` followed by
`SafeColl`. -/
def synchronizeNumberOfColumns (allreduce : ReduceOp → UInt64 → Except MetaError UInt64)
    (splitMode : DataSplitMode) : EStateM MetaError (SplitInfo Cats) Unit := do
  modify fun w => { w with dataSplitMode := splitMode }
  let op := if (← get).isColumnSplit then ReduceOp.kSum else ReduceOp.kMax
  let numCol ← liftExcept (allreduce op (← get).meta.numCol)
  modify fun w => { w with meta := { w.meta with numCol := numCol } }

/-- `IsVerticalFederated()`: a federated communicator (`collective::IsFederated()`) and a
column split. -/
def isVerticalFederated (isFederated : Bool) (w : SplitInfo Cats) : Bool := isFederated && w.isColumnSplit

/-- `ShouldHaveLabels()`: under vertical federated learning only worker `0` has labels. -/
def shouldHaveLabels (isFederated : Bool) (rank : Nat) (w : SplitInfo Cats) : Bool :=
  !w.isVerticalFederated isFederated || rank == 0

/-- The reduction a mode's synchronization uses. -/
def syncOp (splitMode : DataSplitMode) : ReduceOp := if splitMode = .kCol then .kSum else .kMax

/-- What `SynchronizeNumberOfColumns` leaves when the all-reduce returns `n`: the mode,
and the count `n`. -/
theorem synchronizeNumberOfColumns_apply (allreduce : ReduceOp → UInt64 → Except MetaError UInt64)
    (splitMode : DataSplitMode) (w : SplitInfo Cats) {n : UInt64}
    (h : allreduce (syncOp splitMode) w.meta.numCol = .ok n) :
    synchronizeNumberOfColumns allreduce splitMode w =
      .ok () { meta := { w.meta with numCol := n }, dataSplitMode := splitMode } := by
  have hop : (if ({ w with dataSplitMode := splitMode } : SplitInfo Cats).isColumnSplit = true then ReduceOp.kSum
      else ReduceOp.kMax) = syncOp splitMode := by
    cases splitMode <;> rfl
  simp only [synchronizeNumberOfColumns, EStateM.bind_apply, EStateM.modify_apply, EStateM.get_apply, hop, h,
    liftExcept_apply]

end SplitInfo

/-- `n` workers, by rank. -/
abbrev Cluster (Cats : Type) (n : Nat) := Fin n → SplitInfo Cats

namespace Cluster

variable {Cats : Type} {n : Nat}

/-- `collective::Allreduce` on worker `r` when all the workers take part, each `q`
contributing its column count, worker `r` the value it passes. -/
def allreduceAt (c : Cluster Cats n) (r : Fin n) (op : ReduceOp) (v : UInt64) : Except MetaError UInt64 :=
  .ok (reduce op (List.ofFn (Function.update (fun q => (c q).meta.numCol) r v)))

/-- Every worker calls `SynchronizeNumberOfColumns(ctx, split_mode)` with the same mode. -/
def synchronizeNumberOfColumns (splitMode : DataSplitMode) (c : Cluster Cats n) : Cluster Cats n := fun r =>
  resultState (SplitInfo.synchronizeNumberOfColumns (c.allreduceAt r) splitMode (c r))

/-- `collective::AllgatherStrings` on worker `r` when every worker `q` contributes
`contrib q`: the lists of all the workers end to end in rank order, the caller's being
the one it passes. -/
def allgatherStrings (contrib : Fin n → List Bytes) (r : Fin n) (inputs : List Bytes) :
    Except MetaError (List Bytes) :=
  .ok (List.ofFn (Function.update contrib r inputs)).flatten

/-- After the synchronization every worker holds the mode and the reduction of all the
workers' column counts. -/
theorem synchronizeNumberOfColumns_eq (splitMode : DataSplitMode) (c : Cluster Cats n) (r : Fin n) :
    c.synchronizeNumberOfColumns splitMode r =
      { meta := { (c r).meta with
                  numCol := reduce (SplitInfo.syncOp splitMode) (List.ofFn fun q => (c q).meta.numCol) },
        dataSplitMode := splitMode } := by
  have h : c.allreduceAt r (SplitInfo.syncOp splitMode) (c r).meta.numCol =
      .ok (reduce (SplitInfo.syncOp splitMode) (List.ofFn fun q => (c q).meta.numCol)) := by
    rw [allreduceAt, Function.update_eq_self r fun q => (c q).meta.numCol]
  simp only [synchronizeNumberOfColumns, SplitInfo.synchronizeNumberOfColumns_apply _ _ _ h]
  rfl

/-- A sum of `uint64_t` values, read as a number, is the sum of the numbers modulo
`2^64`. -/
theorem toNat_foldr_add (l : List UInt64) : (l.foldr (· + ·) 0).toNat = (l.map UInt64.toNat).sum % 2 ^ 64 := by
  induction l with
  | nil => rfl
  | cons a l ih =>
    rw [List.foldr_cons, UInt64.toNat_add, ih, List.map_cons, List.sum_cons]
    exact (Nat.add_mod_mod _ _ _)

/-- Ranked names are as many as the names. -/
theorem length_rankedNames (colSplit : Bool) (rank : Nat) (info : List Bytes) :
    (MetaInfo.rankedNames colSplit rank info).length = info.length := by
  unfold MetaInfo.rankedNames
  split <;> simp

/-- `SynchronizeNumberOfColumns` and then `SetFeatureInfo("feature_name", …)` on every
worker of a cluster.  Under either mode every worker ends with the same column count:
the sum of the workers' counts under a column split, their maximum under a row split.
Under a column split, when every worker names as many features as it holds columns and
the total fits in `uint64_t`, every worker's `SetFeatureInfo` returns and leaves the same
feature names on every worker: each worker's names, prefixed with its rank, end to end
in rank order, as many as the synchronized column count. -/
theorem synchronize_featureNames_agree (c : Cluster Cats n) :
    (∀ splitMode r, (c.synchronizeNumberOfColumns splitMode r).meta.numCol =
      reduce (SplitInfo.syncOp splitMode) (List.ofFn fun q => (c q).meta.numCol)) ∧
    ∀ info : Fin n → List Bytes, (∀ r, (info r).length = (c r).meta.numCol.toNat) →
      (List.ofFn fun r => (c r).meta.numCol.toNat).sum < 2 ^ 64 → ∀ r,
      let c' := c.synchronizeNumberOfColumns .kCol
      let names := (List.ofFn fun q => MetaInfo.rankedNames true q.val (info q)).flatten
      (c' r).meta.numCol.toNat = names.length ∧
      MetaInfo.setFeatureInfo (c' r).isColumnSplit r.val
          (allgatherStrings (fun q => MetaInfo.rankedNames true q.val (info q)) r)
          (ascii "feature_name") (info r) (c' r).meta =
        .ok () { (c' r).meta with featureNames := names } := by
  refine ⟨fun splitMode r => by rw [synchronizeNumberOfColumns_eq], fun info hinfo hfit r => ?_⟩
  have hcount : (c.synchronizeNumberOfColumns .kCol r).meta.numCol.toNat =
      ((List.ofFn fun q => MetaInfo.rankedNames true q.val (info q)).flatten).length := by
    rw [synchronizeNumberOfColumns_eq]
    show (List.foldr (· + ·) 0 (List.ofFn fun q => (c q).meta.numCol)).toNat = _
    rw [toNat_foldr_add, List.map_ofFn, Function.comp_def, Nat.mod_eq_of_lt hfit, List.length_flatten, List.map_ofFn]
    exact congrArg List.sum (List.ofFn_inj.mpr (funext fun q => ((length_rankedNames _ _ _).trans (hinfo q)).symm))
  refine ⟨hcount, ?_⟩
  have hcol : (c.synchronizeNumberOfColumns .kCol r).isColumnSplit = true := by
    rw [synchronizeNumberOfColumns_eq]
    rfl
  have hsize : (info r).length ≠ 0 ∧ (c.synchronizeNumberOfColumns .kCol r).meta.numCol ≠ 0 ∧ true = false →
      (info r).length = (c.synchronizeNumberOfColumns .kCol r).meta.numCol.toNat := fun h => nomatch h.2.2
  rw [hcol, MetaInfo.setFeatureInfo_featureName hsize]
  simp only [MetaInfo.gatherColumns, allgatherStrings, if_true]
  rw [Function.update_eq_self r fun q => MetaInfo.rankedNames true q.val (info q)]
  rw [hcount]
  simp [bind, Except.bind]

/-- Two workers of one column each, split by column, each naming its column `f`. -/
theorem synchronize_featureNames_agree_twoWorkers :
    (∀ _ : Fin 2, ([ascii "f"] : List Bytes).length =
      ({ MetaInfo.fresh () with numCol := 1 } : MetaInfo Unit).numCol.toNat) ∧
    (List.ofFn fun _ : Fin 2 => ({ MetaInfo.fresh () with numCol := 1 } : MetaInfo Unit).numCol.toNat).sum < 2 ^ 64 ∧
    ((synchronizeNumberOfColumns .kCol fun _ : Fin 2 =>
      (⟨{ MetaInfo.fresh () with numCol := 1 }, .kRow⟩ : SplitInfo Unit)) 1).meta.numCol = 2 ∧
    MetaInfo.setFeatureInfo true 1 (allgatherStrings (fun q : Fin 2 => MetaInfo.rankedNames true q.val [ascii "f"]) 1)
        (ascii "feature_name") [ascii "f"] { MetaInfo.fresh () with numCol := 2 } =
      .ok () { MetaInfo.fresh () with numCol := 2, featureNames := [ascii "0.f", ascii "1.f"] } :=
  have h := (synchronize_featureNames_agree (n := 2) fun _ =>
    (⟨{ MetaInfo.fresh () with numCol := 1 }, .kRow⟩ : SplitInfo Unit)).2 (fun _ => [ascii "f"]) (fun _ => rfl)
    (by decide) 1
  ⟨fun _ => rfl, by decide, rfl, h.2⟩

end Cluster

end XGBoostData
