import XGBoostData.Data.PageOps

/-!
# `MetaInfo`: what a matrix knows besides its entries (data.cc)

WHAT THIS FILE IS FOR.  `MetaInfo` holds the shape of a `DMatrix`, its labels, weights,
query groups, base margin and label bounds, its feature names, types and weights, and
its category container.  This file declares the record and the operations of `data.cc`
that change it in memory: `Clear`, `SetInfoFromHost`, `Extend`, `LoadFeatureType`, and
`LabelAbsSort` with its cache.  The binary format is in `MetaInfoBinary.lean`, runs of
operations in `MetaInfoRun.lean`.

EXCEPTIONS.  A failed `CHECK` throws, and the object keeps whatever the operation wrote
before it.  Every operation is therefore an `EStateM` program on the record: an error
comes back with the record as it stood when the check failed.

THE LABEL ORDER CACHE.  `label_order_cache_` is read and written by `LabelAbsSort` and
nowhere else in `data.cc`.  It is kept beside the record rather than in it, so that the
other operations cannot reach it, as in the source.

OUTSIDE THE EXCERPT.  `xgboost/data.h` declares the record, and `linalg::Stack`,
`data/validation.h`, `common::RunLengthEncode`, `common::StableSort`, the array
interface and the category container live in files that are not in the excerpt.  The
record is declared from the fields `data.cc` uses; the helpers are parameters
(`MetaHelpers`, `StableSortContract`), and the container is a type parameter.
-/

set_option autoImplicit false

namespace XGBoostData

/-- A `std::string`, as its bytes. -/
abbrev Bytes := List UInt8

/-- The bytes of an ASCII literal such as `u8"num_row"`. -/
def ascii (s : String) : Bytes := s.toList.map fun c => c.toNat.toUInt8

/-- `FeatureType`. -/
inductive FeatureType
  | numerical
  | categorical
  deriving DecidableEq, Repr

/-- `linalg::Tensor<float, 2>`: the shape and the elements, row-major.  `Size()` is the
number of elements held. -/
structure Tensor where
  shape : UInt64 × UInt64
  data : List F32
  deriving DecidableEq, Repr

/-- A value-initialised tensor. -/
def Tensor.empty : Tensor := ⟨(0, 0), []⟩

/-- `MetaInfo`, with the fields `data.cc` reads and writes, the label order cache apart.
The category container `cats_` is of type `Cats`. -/
structure MetaInfo (Cats : Type) where
  numRow : UInt64
  numCol : UInt64
  numNonzero : UInt64
  labels : Tensor
  groupPtr : List UInt32
  weights : List F32
  baseMargin : Tensor
  labelsLowerBound : List F32
  labelsUpperBound : List F32
  featureTypeNames : List Bytes
  featureNames : List Bytes
  featureTypes : List FeatureType
  featureWeights : List F32
  hasCategorical : Bool
  cats : Cats

/-- Why an operation on `MetaInfo` raises. -/
inductive MetaError
  /-- `MetaInfo: Invalid format for <name>`: a read of the field failed, or its name, type
  tag, scalar flag or column count is not the expected one. -/
  | invalidFormat (name : Bytes)
  /-- `Binary DMatrix generated by XGBoost: <version> is no longer supported.` -/
  | version
  /-- `MetaInfo: invalid format`, or `insufficient number of fields`. -/
  | numField
  /-- `All feature_types must be one of {int, float, i, q, c}.` -/
  | featureType
  /-- `Meta info like label or weight can not have missing value.` -/
  | missingValue
  /-- `Incorrect size for base margin.` -/
  | marginSize
  /-- `Incorrect size for labels`. -/
  | labelSize
  /-- `Label contains NaN, infinity or a value too large.` -/
  | invalidLabel
  /-- `Invalid group structure.`, from `data::ValidateQueryGroup`. -/
  | groupStructure
  /-- `qid must be sorted in non-decreasing order along with data.` -/
  | qidOrder
  /-- `Weights must be positive values.` -/
  | weights
  /-- `Feature weight must be greater than 0.` -/
  | featureWeights
  /-- `Unknown key for MetaInfo: <key>`. -/
  | unknownKey (key : Bytes)
  /-- `Number of columns must be consistent across batches.` -/
  | columns
  /-- `CHECK_NE(that.group_ptr_.size(), 0)` in `Extend`. -/
  | groupPtrEmpty
  /-- A check of `linalg::Stack` or of `data::CheckFeatureTypes`. -/
  | helper
  /-- `Json::Load` or `CatContainer::Load` rejected the saved categories. -/
  | cats
  /-- `Length of <key> must be equal to number of columns.` -/
  | featureInfoLength (key : Bytes)
  /-- `Unknown feature info name: <key>`. -/
  | unknownFeatureInfo (key : Bytes)
  /-- `collective::SafeColl` on a failed collective call. -/
  | collective
  /-- `error::GroupWeight()`: `CHECK_EQ(group_ptr_.size(), weights_.Size() + 1)` in `Validate`. -/
  | groupWeight
  /-- `error::GroupSize()` `the actual number of rows given by data.` -/
  | groupSize
  /-- `Size of <field> must equal to number of rows.` -/
  | rowCount (field : Bytes)
  /-- `Size of feature_weights must equal to number of columns.` -/
  | featureWeightsCount
  /-- `CHECK_LE(num_nonzero_, num_col_ * num_row_)`. -/
  | nonzeroCount
  /-- `Size of base margin must be a multiple of number of rows.` -/
  | marginMultiple
  /-- `Incorrect size of base margin vector.`, in `Slice`. -/
  | sliceMarginSize
  /-- `Invalid device ordinal. Data is associated with a different device ordinal than the
  booster.`, from `CheckDevice`. -/
  | device
  /-- `common::AssertGPUSupport()`: a CUDA path taken in a build without CUDA. -/
  | gpuSupport
  /-- `Invalid cast`: `get<Object const>` of a JSON value that is not an object. -/
  | jsonCast
  /-- Not a checked error: a remainder by zero, which is undefined behaviour in C++. -/
  | divisionByZero
  /-- Not a checked error: a read past the end of a vector, which is undefined behaviour
  in C++. -/
  | outOfRange
  deriving DecidableEq, Repr

/-- The outcomes that are not errors the code raises but undefined behaviour. -/
def MetaError.isUndefined : MetaError → Bool
  | .divisionByZero | .outOfRange => true
  | _ => false

/-- `CHECK(c) << e`: raise `e` unless `c` holds. -/
def check {σ : Type} (c : Prop) [Decidable c] (e : MetaError) : EStateM MetaError σ Unit :=
  if c then pure () else throw e

theorem check_of_pos {σ : Type} {c : Prop} [Decidable c] (h : c) (e : MetaError) :
    (check c e : EStateM MetaError σ Unit) = pure () := if_pos h

/-- Raise the error of an `Except`, or go on with its value. -/
def liftExcept {σ α : Type} : Except MetaError α → EStateM MetaError σ α
  | .ok a => pure a
  | .error e => throw e

theorem liftExcept_ok {σ α : Type} (a : α) : (liftExcept (.ok a) : EStateM MetaError σ α) = pure a := rfl

/-! ## Feature types -/

/-- The type `LoadFeatureType` gives a name of `feature_types`, if it knows the name. -/
def featureTypeOf (elem : Bytes) : Option FeatureType :=
  if elem = ascii "int" then some .numerical
  else if elem = ascii "float" then some .numerical
  else if elem = ascii "i" then some .numerical
  else if elem = ascii "q" then some .numerical
  else if elem = ascii "c" then some .categorical
  else none

/-- `LoadFeatureType(type_names, types)`: what it leaves in `*types` (cleared, then one
type per name up to the first name it does not know), and whether some name is `c`, or
the `LOG(FATAL)` at the first name it does not know. -/
def loadFeatureType : List Bytes → List FeatureType × Except MetaError Bool
  | [] => ([], .ok false)
  | elem :: rest =>
    match featureTypeOf elem with
    | none => ([], .error .featureType)
    | some t => (t :: (loadFeatureType rest).1, (loadFeatureType rest).2.map (· || t == .categorical))

/-- When every name is known, `LoadFeatureType` returns whether some type it produced is
categorical. -/
theorem loadFeatureType_of_known :
    ∀ {names : List Bytes}, (∀ n ∈ names, (featureTypeOf n).isSome) →
      (loadFeatureType names).2 = .ok ((loadFeatureType names).1.any (· == .categorical))
  | [], _ => rfl
  | elem :: rest, h => by
    obtain ⟨t, ht⟩ := Option.isSome_iff_exists.mp (h elem (List.mem_cons_self _ _))
    simp only [loadFeatureType, ht, loadFeatureType_of_known fun n hn => h n (List.mem_cons_of_mem _ hn),
      Except.map, List.any_cons, Bool.or_comm]

/-! ## The helpers outside the excerpt -/

/-- The helpers `data.cc` calls from headers that are not in the excerpt. -/
structure MetaHelpers where
  /-- `data::LabelsCheck`: whether it rejects a label. -/
  labelsCheck : F32 → Bool
  /-- `data::WeightsCheck`: whether it rejects a feature weight. -/
  weightsCheck : F32 → Bool
  /-- `data::ValidateQueryGroup`: whether group boundaries pass it. -/
  validQueryGroup : List UInt32 → Bool
  /-- `common::RunLengthEncode`: the boundaries of the runs of equal query ids. -/
  runLengthEncode : List UInt32 → List UInt32
  /-- `linalg::Stack(l, r)`: `l` with the rows of `r` appended, or the check it fails. -/
  stack : Tensor → Tensor → Except MetaError Tensor
  /-- `data::CheckFeatureTypes(lhs, rhs)`: whether the two agree. -/
  checkFeatureTypes : List FeatureType → List FeatureType → Bool

/-- The array `SetInfo` is given, as `CopyTensorInfoImpl` reads it through
`ArrayInterface<D>`: its shape read as two and as one dimension, whether it has a
validity mask, and its elements in row-major order converted by `DispatchDType` to
`float` and to `uint32`. -/
structure ArrayInterface where
  shape2 : UInt64 × UInt64
  shape1 : UInt64
  hasMask : Bool
  floats : List F32
  uints : List UInt32

/-- `CopyTensorInfoImpl<2>` into a `float` tensor: the tensor it leaves, or the check on
missing values. -/
def copyTensorInfo2 (arr : ArrayInterface) : Except MetaError Tensor :=
  if arr.shape2.1.toNat * arr.shape2.2.toNat = 0 then .ok ⟨arr.shape2, []⟩
  else if arr.hasMask then .error .missingValue
  else .ok ⟨arr.shape2, arr.floats⟩

/-- `CopyTensorInfoImpl<1>` into a fresh vector, read as elements of type `α`. -/
def copyTensorInfo1 {α : Type} (arr : ArrayInterface) (values : List α) : Except MetaError (List α) :=
  if arr.shape1.toNat = 0 then .ok []
  else if arr.hasMask then .error .missingValue
  else .ok values

namespace MetaInfo

variable {Cats : Type}

/-- `MetaInfo()`: everything empty or zero, with the empty category container given. -/
def fresh (emptyCats : Cats) : MetaInfo Cats where
  numRow := 0
  numCol := 0
  numNonzero := 0
  labels := Tensor.empty
  groupPtr := []
  weights := []
  baseMargin := Tensor.empty
  labelsLowerBound := []
  labelsUpperBound := []
  featureTypeNames := []
  featureNames := []
  featureTypes := []
  featureWeights := []
  hasCategorical := false
  cats := emptyCats

/-- `Clear()`: the shape, the labels, the groups, the weights and the base margin. -/
def clear (m : MetaInfo Cats) : MetaInfo Cats :=
  { m with numRow := 0, numCol := 0, numNonzero := 0, labels := Tensor.empty, groupPtr := [], weights := [],
           baseMargin := Tensor.empty }

/-- The reshape `SetInfoFromHost` applies to a label or margin tensor whose first
dimension is not `num_row_`: `Size() % num_row_ == 0` is checked, then the shape becomes
`(num_row_, Size() / num_row_)`. -/
def reshapeToRows (numRow : UInt64) (err : MetaError) (t : Tensor) : Except MetaError Tensor :=
  if numRow ≠ 0 ∧ t.shape.1 ≠ numRow then
    if t.data.length % numRow.toNat = 0 then .ok { t with shape := (numRow, UInt64.ofNat (t.data.length / numRow.toNat)) }
    else .error err
  else .ok t

/-- `SetInfoFromHost(ctx, key, arr)`: `base_margin` and `label` are copied as tensors and
reshaped to `num_row_` rows, labels then checked; `group` becomes the prefix sums of the
group sizes and `qid` the boundaries of its runs, both then validated; the `float`
vectors are copied, weights and feature weights then checked.  Each value is stored
before it is checked. -/
def setInfoFromHost (H : MetaHelpers) (key : Bytes) (arr : ArrayInterface) :
    EStateM MetaError (MetaInfo Cats) Unit :=
  if key = ascii "base_margin" then do
    let t ← liftExcept (copyTensorInfo2 arr)
    modify fun m => { m with baseMargin := t }
    let t ← liftExcept (reshapeToRows (← get).numRow .marginSize t)
    modify fun m => { m with baseMargin := t }
  else if key = ascii "label" then do
    let t ← liftExcept (copyTensorInfo2 arr)
    modify fun m => { m with labels := t }
    let t ← liftExcept (reshapeToRows (← get).numRow .labelSize t)
    modify fun m => { m with labels := t }
    check (t.data.any H.labelsCheck = false) .invalidLabel
  else if key = ascii "group" then do
    let groups ← liftExcept (copyTensorInfo1 arr arr.uints)
    modify fun m => { m with groupPtr := groups.scanl (· + ·) 0 }
    check (H.validQueryGroup (groups.scanl (· + ·) 0) = true) .groupStructure
  else if key = ascii "qid" then do
    let queryIds ← liftExcept (copyTensorInfo1 arr arr.uints)
    check ((queryIds.zip queryIds.tail).all (fun p => p.1 ≤ p.2) = true) .qidOrder
    modify fun m => { m with groupPtr := H.runLengthEncode queryIds }
    check (H.validQueryGroup (H.runLengthEncode queryIds) = true) .groupStructure
  else do
    let t ← liftExcept (copyTensorInfo1 arr arr.floats)
    if key = ascii "weight" then do
      modify fun m => { m with weights := t }
      check ((t.any fun w => F32.flt w F32.zero || w.isInf || w.isNaN) = false) .weights
    else if key = ascii "label_lower_bound" then
      modify fun m => { m with labelsLowerBound := t }
    else if key = ascii "label_upper_bound" then
      modify fun m => { m with labelsUpperBound := t }
    else if key = ascii "feature_weights" then do
      modify fun m => { m with featureWeights := t }
      check (t.any H.weightsCheck = false) .featureWeights
    else throw (.unknownKey key)

/-- An element of the JSON that an array interface string holds, as `SetInfo` looks at
it: an object, with whether it has a `stream` key and whether
`ArrayInterfaceHandler::IsCudaPtr` holds of its data pointer, or any other JSON value. -/
inductive InterfaceValue
  | object (hasStream cudaPtr : Bool)
  | other

/-- What `Json::Load(interface_str)` gives, as `SetInfo` branches on it: an array of
values, or a single value. -/
inductive InterfaceJson
  | array (elems : List InterfaceValue)
  | value (v : InterfaceValue)

/-- `get<Object const>(v)`, then whether the object is on a CUDA device (a `stream` key,
or a CUDA data pointer); a value that is not an object fails the cast. -/
def InterfaceValue.isCuda : InterfaceValue → Except MetaError Bool
  | .object hasStream cudaPtr => .ok (hasStream || cudaPtr)
  | .other => .error .jsonCast

/-- `SetInfo(ctx, key, interface_str)`.  `load` is `Json::Load` together with the reading
`CopyTensorInfoImpl` does through `ArrayInterface<D>` (`json.h` and `array_interface.h`
are not in the excerpt).  Of an array, the first element is read with `array.front()`
after a `CHECK_GE(array.size(), 0)` that always holds, so an empty array is read past its
end.  A CUDA array goes to `SetInfoFromCUDA`, which in a build without CUDA is
`common::AssertGPUSupport()`. -/
def setInfo (H : MetaHelpers) (load : Bytes → Except MetaError (InterfaceJson × ArrayInterface))
    (key interfaceStr : Bytes) : EStateM MetaError (MetaInfo Cats) Unit := do
  let (j, arr) ← liftExcept (load interfaceStr)
  let isCuda ← liftExcept <| match j with
    | .array [] => .error .outOfRange
    | .array (first :: _) => first.isCuda
    | .value first => first.isCuda
  if isCuda then throw .gpuSupport else setInfoFromHost H key arr

/-- The lambda `gather_columns` of `SetFeatureInfo`: under a column split, the strings of
every worker gathered by `allgather` (`collective::AllgatherStrings`, then `SafeColl`) and
checked against the column count; otherwise the strings as they are. -/
def gatherColumns (colSplit : Bool) (allgather : List Bytes → Except MetaError (List Bytes)) (key : Bytes)
    (nColumns : UInt64) (inputs : List Bytes) : Except MetaError (List Bytes) :=
  if colSplit then do
    let result ← allgather inputs
    if result.length = nColumns.toNat then .ok result else .error (.featureInfoLength key)
  else .ok inputs

/-- `SetFeatureInfo(key, info, size)`, `info` holding the `size` strings.  `colSplit` is
`IsColumnSplit()` and `rank` is `collective::GetRank()`. -/
def setFeatureInfo (colSplit : Bool) (rank : Nat) (allgather : List Bytes → Except MetaError (List Bytes))
    (key : Bytes) (info : List Bytes) : EStateM MetaError (MetaInfo Cats) Unit := do
  let nColumns := (← get).numCol
  (if info.length ≠ 0 ∧ nColumns ≠ 0 ∧ colSplit = false then
    check (info.length = nColumns.toNat) (.featureInfoLength key)
  else pure ())
  if key = ascii "feature_type" then do
    modify fun m => { m with featureTypeNames := info }
    let names ← liftExcept (gatherColumns colSplit allgather key nColumns info)
    modify fun m => { m with featureTypeNames := names }
    let m ← get
    modify fun m => { m with featureTypes := (loadFeatureType m.featureTypeNames).1 }
    let hasCategorical ← liftExcept (loadFeatureType m.featureTypeNames).2
    modify fun m => { m with hasCategorical := hasCategorical }
  else if key = ascii "feature_name" then do
    let names := if colSplit then info.map (fun elem => ascii (toString rank) ++ ascii "." ++ elem) else info
    modify fun m => { m with featureNames := names }
    let names ← liftExcept (gatherColumns colSplit allgather key nColumns names)
    modify fun m => { m with featureNames := names }
  else throw (.unknownFeatureInfo key)

/-- `Extend(that, accumulate_rows, check_column)`: rows added up, columns taken from
`that`, the per-row vectors appended (labels and margin through `linalg::Stack`), the
group boundaries of `that` shifted and appended, and the feature information of `that`
taken where it has any. -/
def extend (H : MetaHelpers) (that : MetaInfo Cats) (accumulateRows checkColumn : Bool) :
    EStateM MetaError (MetaInfo Cats) Unit := do
  (if accumulateRows then modify fun m => { m with numRow := m.numRow + that.numRow } else pure ())
  let m ← get
  (if m.numCol ≠ 0 then
    if checkColumn then check (m.numCol = that.numCol) .columns
    else modify fun m => { m with numCol := max m.numCol that.numCol }
  else pure ())
  modify fun m => { m with numCol := that.numCol }
  let labels ← liftExcept (H.stack (← get).labels that.labels)
  modify fun m => { m with labels := labels }
  modify fun m => { m with weights := m.weights ++ that.weights,
                           labelsLowerBound := m.labelsLowerBound ++ that.labelsLowerBound,
                           labelsUpperBound := m.labelsUpperBound ++ that.labelsUpperBound }
  let margin ← liftExcept (H.stack (← get).baseMargin that.baseMargin)
  modify fun m => { m with baseMargin := margin }
  let m ← get
  (if m.groupPtr.length = 0 then modify fun m => { m with groupPtr := that.groupPtr }
  else do
    check (that.groupPtr.length ≠ 0) .groupPtrEmpty
    modify fun m => { m with groupPtr := m.groupPtr ++ (that.groupPtr.drop 1).map (· + m.groupPtr.getLast?.getD 0) })
  (if !that.featureNames.isEmpty then modify fun m => { m with featureNames := that.featureNames } else pure ())
  let m ← get
  (if !m.featureTypes.isEmpty then
    check (H.checkFeatureTypes m.featureTypes that.featureTypes = true) .helper
  else pure ())
  (if !that.featureTypeNames.isEmpty then do
    modify fun m => { m with featureTypeNames := that.featureTypeNames,
                             featureTypes := (loadFeatureType that.featureTypeNames).1 }
    let hasCat ← liftExcept (loadFeatureType that.featureTypeNames).2
    modify fun m => { m with hasCategorical := hasCat }
  else if !that.featureTypes.isEmpty then
    modify fun m => { m with featureTypes := that.featureTypes,
                             hasCategorical := that.featureTypes.any (· == .categorical) }
  else pure ())
  (if !that.featureWeights.isEmpty then modify fun m => { m with featureWeights := that.featureWeights }
  else pure ())

/-- `Copy()`: `Extend(*this, /*accumulate_rows=*/true, /*check_column=*/false)` into a
fresh `MetaInfo`. -/
def copy (H : MetaHelpers) (emptyCats : Cats) (m : MetaInfo Cats) : Except MetaError (MetaInfo Cats) :=
  match extend H m true false (fresh emptyCats) with
  | .ok _ out => .ok out
  | .error e _ => .error e

end MetaInfo

/-! ## `LabelAbsSort` -/

/-- `std::abs` on a `float`: the sign bit cleared. -/
def F32.abs (x : F32) : F32 := ⟨x.bits % 0x80000000⟩

/-- The comparator of `LabelAbsSort`: `std::abs(l[i1]) < std::abs(l[i2])`. -/
def absLess (l : List F32) (i1 i2 : Nat) : Bool := F32.flt (l.getD i1 F32.zero).abs (l.getD i2 F32.zero).abs

/-- `common::StableSort(ctx, first, last, comp)` on indices: it permutes the range and,
when `comp` is a strict weak ordering, leaves no element before one that compares less,
and keeps two elements in their order unless the second compares less. -/
structure StableSortContract where
  sort : (Nat → Nat → Bool) → List Nat → List Nat
  perm : ∀ lt l, (sort lt l).Perm l
  sorted : ∀ lt l, StrictWeakOrder lt → (sort lt l).Pairwise fun a b => lt b a = false
  stable : ∀ lt l a b, StrictWeakOrder lt → lt b a = false → List.Sublist [a, b] l → List.Sublist [a, b] (sort lt l)

/-- `List.mergeSort` on the order `!comp b a` keeps the contract. -/
def StableSortContract.mergeSort : StableSortContract where
  sort lt l := l.mergeSort fun a b => !lt b a
  perm lt l := List.mergeSort_perm l _
  sorted lt l h := by simpa using List.sorted_mergeSort h.not_lt_trans h.not_lt_total l
  stable lt l a b h hba hab := List.pair_sublist_mergeSort h.not_lt_trans h.not_lt_total (by simp [hba]) hab

/-- `LabelAbsSort(ctx)` on the labels `l` and the cache: the cache when it holds one
index per label; otherwise `0, 1, …` stably sorted by absolute label, which also becomes
the cache. -/
def labelAbsSort (S : StableSortContract) (l : List F32) (cache : List Nat) : List Nat × List Nat :=
  if cache.length = l.length then (cache, cache)
  else (S.sort (absLess l) (List.range l.length), S.sort (absLess l) (List.range l.length))

end XGBoostData
