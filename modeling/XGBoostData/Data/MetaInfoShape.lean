import XGBoostData.Data.MetaInfo

/-!
# The per-row shapes of a `MetaInfo`: `Validate` and `Slice` (data.cc)

WHAT THIS FILE IS FOR.  `Validate(device)` checks that the per-row and per-column fields
of a `MetaInfo` agree with its shape, and `Slice(ctx, ridxs, nnz)` builds the `MetaInfo`
of a subset of the rows through the strided `Gather`.  Both are written here as the
source computes them, checks and early `return`s in their order, and each gets one
lemma that says what it does on every record.

UNDEFINED BEHAVIOUR.  Both compute `base_margin_.Size() % num_row_`, and `Gather` reads
`in[ridx * stride + j]` without a bound check.  A remainder by zero and a read past the
end of a vector are not errors the code raises: the model stops there with
`MetaError.divisionByZero` or `MetaError.outOfRange`, which `MetaError.isUndefined`
tells apart from the checked errors.

OUTSIDE THE EXCERPT.  `CheckDevice` compares the device of a field's data with the
booster's.  The record does not hold devices, so whether the check passes is a
parameter, `deviceOk`, by field name.
-/

set_option autoImplicit false

namespace XGBoostData

namespace MetaInfo

variable {Cats : Type}

/-! ## `Validate` -/

/-- `CHECK(c) << e` in a function that only reads the record. -/
def ensure (c : Prop) [Decidable c] (e : MetaError) : Except MetaError Unit :=
  if c then .ok () else .error e

/-- The C++ remainder `a % b` of unsigned values: undefined for `b = 0`. -/
def cMod (a b : Nat) : Except MetaError Nat :=
  if b = 0 then .error .divisionByZero else .ok (a % b)

/-- `CHECK_EQ(actual, expected) << e` on the field `name`, then
`CheckDevice(device, field)`. -/
def checkField (deviceOk : Bytes → Bool) (name : Bytes) (actual expected : Nat) (e : MetaError) :
    Except MetaError Unit := do
  ensure (actual = expected) e
  ensure (deviceOk name = true) .device

/-- `Validate(device)`: group weights, and nothing else, when there are groups and
weights; otherwise the last group boundary, then the first present field among row
weights, labels and lower bounds, each ending the checks; failing those, the feature
weights, then the upper bounds (ending the checks), then the non-zero count and the base
margin. -/
def validate (deviceOk : Bytes → Bool) (m : MetaInfo Cats) : Except MetaError Unit :=
  if m.groupPtr.length ≠ 0 ∧ m.weights.length ≠ 0 then
    ensure (m.groupPtr.length = m.weights.length + 1) .groupWeight
  else do
    (if m.groupPtr.length ≠ 0 then ensure ((m.groupPtr.getLast?.getD 0).toNat = m.numRow.toNat) .groupSize
    else pure ())
    if m.weights.length ≠ 0 then
      checkField deviceOk (ascii "weights") m.weights.length m.numRow.toNat (.rowCount (ascii "weights"))
    else if m.labels.data.length ≠ 0 then
      checkField deviceOk (ascii "labels") m.labels.shape.1.toNat m.numRow.toNat (.rowCount (ascii "labels"))
    else if m.labelsLowerBound.length ≠ 0 then
      checkField deviceOk (ascii "label_lower_bound") m.labelsLowerBound.length m.numRow.toNat
        (.rowCount (ascii "label_lower_bound"))
    else do
      (if m.featureWeights.length ≠ 0 then
        checkField deviceOk (ascii "feature_weights") m.featureWeights.length m.numCol.toNat .featureWeightsCount
      else pure ())
      if m.labelsUpperBound.length ≠ 0 then
        checkField deviceOk (ascii "label_upper_bound") m.labelsUpperBound.length m.numRow.toNat
          (.rowCount (ascii "label_upper_bound"))
      else do
        ensure (m.numNonzero ≤ m.numCol * m.numRow) .nonzeroCount
        if m.baseMargin.data.length ≠ 0 then do
          let r ← cMod m.baseMargin.data.length m.numRow.toNat
          ensure (r = 0) .marginMultiple
          ensure (deviceOk (ascii "base_margin") = true) .device
        else pure ()

/-- What a `Validate` that returns has established, item by item: each check holds unless
an earlier present field ended the checks before it. -/
structure Validated (m : MetaInfo Cats) : Prop where
  groupWeights : m.groupPtr ≠ [] → m.weights ≠ [] → m.groupPtr.length = m.weights.length + 1
  groupRows : m.groupPtr ≠ [] → m.weights = [] → (m.groupPtr.getLast?.getD 0).toNat = m.numRow.toNat
  weightRows : m.groupPtr = [] → m.weights ≠ [] → m.weights.length = m.numRow.toNat
  labelRows : m.weights = [] → m.labels.data ≠ [] → m.labels.shape.1 = m.numRow
  lowerBoundRows : m.weights = [] → m.labels.data = [] → m.labelsLowerBound ≠ [] →
    m.labelsLowerBound.length = m.numRow.toNat
  featureWeightColumns : m.weights = [] → m.labels.data = [] → m.labelsLowerBound = [] →
    m.featureWeights ≠ [] → m.featureWeights.length = m.numCol.toNat
  upperBoundRows : m.weights = [] → m.labels.data = [] → m.labelsLowerBound = [] →
    m.labelsUpperBound ≠ [] → m.labelsUpperBound.length = m.numRow.toNat
  nonzero : m.weights = [] → m.labels.data = [] → m.labelsLowerBound = [] → m.labelsUpperBound = [] →
    m.numNonzero.toNat ≤ m.numRow.toNat * m.numCol.toNat
  marginRows : m.weights = [] → m.labels.data = [] → m.labelsLowerBound = [] → m.labelsUpperBound = [] →
    m.baseMargin.data ≠ [] → m.numRow ≠ 0 ∧ m.baseMargin.data.length % m.numRow.toNat = 0

theorem ensure_ok {c : Prop} [Decidable c] {e : MetaError} {u : Unit} (h : ensure c e = .ok u) : c := by
  unfold ensure at h
  split at h
  · assumption
  · cases h

theorem bind_ok {α β : Type} {x : Except MetaError α} {f : α → Except MetaError β} {b : β}
    (h : x >>= f = .ok b) : ∃ a, x = .ok a ∧ f a = .ok b := by
  cases x with
  | error e => cases h
  | ok a => exact ⟨a, rfl, h⟩

theorem checkField_ok {deviceOk : Bytes → Bool} {name : Bytes} {actual expected : Nat} {e : MetaError} {u : Unit}
    (h : checkField deviceOk name actual expected e = .ok u) : actual = expected := by
  obtain ⟨_, h1, -⟩ := bind_ok h
  exact ensure_ok h1

theorem ne_nil_of_length_ne_zero {α : Type} {l : List α} (h : l.length ≠ 0) : l ≠ [] :=
  fun h' => h (List.length_eq_zero.mpr h')

theorem validate_checks {deviceOk : Bytes → Bool} {m : MetaInfo Cats} (h : validate deviceOk m = .ok ()) :
    Validated m := by
  unfold validate at h
  by_cases hgw : m.groupPtr.length ≠ 0 ∧ m.weights.length ≠ 0
  · rw [if_pos hgw] at h
    have hg0 := ne_nil_of_length_ne_zero hgw.1
    have hw0 := ne_nil_of_length_ne_zero hgw.2
    refine ⟨fun _ _ => ensure_ok h, ?_, ?_, ?_, ?_, ?_, ?_, ?_, ?_⟩ <;> intros <;> contradiction
  rw [if_neg hgw] at h
  obtain ⟨_, hg, h⟩ := bind_ok h
  have hgroup : m.groupPtr ≠ [] → (m.groupPtr.getLast?.getD 0).toNat = m.numRow.toNat := fun hne => by
    rw [if_pos (mt List.length_eq_zero.mp hne)] at hg
    exact ensure_ok hg
  by_cases hw0 : m.weights.length ≠ 0
  · rw [if_pos hw0] at h
    have hg0 : m.groupPtr = [] := List.length_eq_zero.mp (by omega)
    have hw0 := ne_nil_of_length_ne_zero hw0
    refine ⟨?_, ?_, fun _ _ => checkField_ok h, ?_, ?_, ?_, ?_, ?_, ?_⟩ <;> intros <;> contradiction
  rw [if_neg hw0] at h
  have hw0 : m.weights = [] := List.length_eq_zero.mp (Decidable.of_not_not hw0)
  by_cases hl0 : m.labels.data.length ≠ 0
  · rw [if_pos hl0] at h
    have hl0 := ne_nil_of_length_ne_zero hl0
    refine ⟨?_, fun h _ => hgroup h, ?_, fun _ _ => UInt64.toNat.inj (checkField_ok h), ?_, ?_, ?_, ?_, ?_⟩ <;>
      intros <;> contradiction
  rw [if_neg hl0] at h
  have hl0 : m.labels.data = [] := List.length_eq_zero.mp (Decidable.of_not_not hl0)
  by_cases hlo0 : m.labelsLowerBound.length ≠ 0
  · rw [if_pos hlo0] at h
    have hlo0 := ne_nil_of_length_ne_zero hlo0
    refine ⟨?_, fun h _ => hgroup h, ?_, ?_, fun _ _ _ => checkField_ok h, ?_, ?_, ?_, ?_⟩ <;>
      intros <;> contradiction
  rw [if_neg hlo0] at h
  have hlo0 : m.labelsLowerBound = [] := List.length_eq_zero.mp (Decidable.of_not_not hlo0)
  obtain ⟨_, hf, h⟩ := bind_ok h
  have hfw : m.featureWeights ≠ [] → m.featureWeights.length = m.numCol.toNat := fun hne => by
    rw [if_pos (mt List.length_eq_zero.mp hne)] at hf
    exact checkField_ok hf
  by_cases hu0 : m.labelsUpperBound.length ≠ 0
  · rw [if_pos hu0] at h
    have hu0 := ne_nil_of_length_ne_zero hu0
    refine ⟨?_, fun h _ => hgroup h, ?_, ?_, ?_, fun _ _ _ => hfw, fun _ _ _ _ => checkField_ok h, ?_, ?_⟩ <;>
      intros <;> contradiction
  rw [if_neg hu0] at h
  have hu0 : m.labelsUpperBound = [] := List.length_eq_zero.mp (Decidable.of_not_not hu0)
  obtain ⟨_, hnz, h⟩ := bind_ok h
  have hnz : m.numNonzero.toNat ≤ m.numRow.toNat * m.numCol.toNat := by
    have : (m.numCol * m.numRow).toNat ≤ m.numRow.toNat * m.numCol.toNat := by
      rw [UInt64.toNat_mul, Nat.mul_comm]
      exact Nat.mod_le _ _
    exact Nat.le_trans (ensure_ok hnz) this
  have hmargin : m.baseMargin.data ≠ [] → m.numRow ≠ 0 ∧ m.baseMargin.data.length % m.numRow.toNat = 0 :=
    fun hne => by
      rw [if_pos (mt List.length_eq_zero.mp hne)] at h
      obtain ⟨r, hr, h⟩ := bind_ok h
      obtain ⟨_, hr0, -⟩ := bind_ok h
      unfold cMod at hr
      split at hr
      · cases hr
      · next hb =>
        cases hr
        exact ⟨fun h0 => hb (by rw [h0]; rfl), ensure_ok hr0⟩
  refine ⟨?_, fun h _ => hgroup h, ?_, ?_, ?_, fun _ _ _ => hfw, ?_, fun _ _ _ _ => hnz, fun _ _ _ _ => hmargin⟩ <;>
    intros <;> contradiction

/-- One row with a weight, and labels of two rows: `Validate` returns after the weights
and never looks at the labels. -/
theorem validate_weights_skip_labels :
    validate (fun _ => true)
        { fresh () with numRow := 1, weights := [F32.one], labels := ⟨(2, 1), [F32.one, F32.one]⟩ } = .ok () ∧
      ({ fresh () with numRow := 1, weights := [F32.one], labels := ⟨(2, 1), [F32.one, F32.one]⟩ } :
        MetaInfo Unit).labels.shape.1 ≠ 1 :=
  ⟨rfl, by decide⟩

/-- The record of `validate_weights_skip_labels` passes `Validate`, and what that
establishes holds of it. -/
theorem validate_checks_weights :
    validate (fun _ => true)
        { fresh () with numRow := 1, weights := [F32.one], labels := ⟨(2, 1), [F32.one, F32.one]⟩ } = .ok () ∧
      Validated ({ fresh () with numRow := 1, weights := [F32.one], labels := ⟨(2, 1), [F32.one, F32.one]⟩ } :
        MetaInfo Unit) :=
  ⟨rfl, @validate_checks Unit (fun _ => true) _ rfl⟩

/-! ## `Gather` and `Slice` -/

/-- `in[i]` of a C++ vector: undefined past the end. -/
def readAt {α : Type} (input : List α) (i : Nat) : Except MetaError α :=
  match input[i]? with
  | some a => .ok a
  | none => .error .outOfRange

/-- `Gather(in, ridxs, stride)`: nothing from an empty input; otherwise, for each row index
in turn, the `stride` elements `in[ridx * stride + j]`, the index computed in 64 bits. -/
def gather {α : Type} (input : List α) (ridxs : List UInt64) (stride : Nat) : Except MetaError (List α) :=
  if input.isEmpty then .ok []
  else do
    let rows ← ridxs.mapM fun ridx =>
      (List.range stride).mapM fun j => readAt input ((ridx.toNat * stride + j) % 2 ^ 64)
    pure rows.flatten

/-- The part of `Slice` for a label or margin tensor: when its size is not `num_row_`, the
rows gathered with the tensor's row stride, under the shape `(ridxs.size(), Shape(1))`;
otherwise the elements gathered one by one, as one column. -/
def sliceTensor (t : Tensor) (numRow : UInt64) (ridxs : List UInt64) : Except MetaError Tensor :=
  if t.data.length ≠ numRow.toNat then do
    let data ← gather t.data ridxs t.shape.2.toNat
    pure ⟨(UInt64.ofNat ridxs.length, t.shape.2), data⟩
  else do
    let data ← gather t.data ridxs 1
    pure ⟨(UInt64.ofNat data.length, 1), data⟩

/-- `Slice(ctx, ridxs, nnz)`: the shape and the feature information copied into a fresh
`MetaInfo` (not `has_categorical_`, the groups or the categories); a CUDA context goes to
`cuda_impl::SliceMetaInfo`, which in a build without CUDA is `common::AssertGPUSupport()`.
On the CPU the labels, the label bounds and the weights are gathered, except that
per-group weights (`weights_.Size() + 1 == group_ptr_.size()`) are assigned the output's
own, empty, weights; the base margin is gathered after `CHECK_EQ(base_margin_.Size() %
num_row_, 0)` when its size is not `num_row_`. -/
def slice (emptyCats : Cats) (isCuda : Bool) (m : MetaInfo Cats) (ridxs : List UInt64) (nnz : UInt64) :
    Except MetaError (MetaInfo Cats) :=
  let out : MetaInfo Cats := { fresh emptyCats with
    numRow := UInt64.ofNat ridxs.length, numCol := m.numCol, numNonzero := nnz,
    featureWeights := m.featureWeights, featureNames := m.featureNames, featureTypes := m.featureTypes,
    featureTypeNames := m.featureTypeNames }
  if isCuda then .error .gpuSupport
  else do
    let labels ← sliceTensor m.labels m.numRow ridxs
    let upper ← gather m.labelsUpperBound ridxs 1
    let lower ← gather m.labelsLowerBound ridxs 1
    let weights ← (if m.weights.length + 1 = m.groupPtr.length then pure out.weights
      else gather m.weights ridxs 1)
    (if m.baseMargin.data.length ≠ m.numRow.toNat then do
      let r ← cMod m.baseMargin.data.length m.numRow.toNat
      ensure (r = 0) .sliceMarginSize
    else pure ())
    let margin ← sliceTensor m.baseMargin m.numRow ridxs
    pure { out with labels := labels, labelsUpperBound := upper, labelsLowerBound := lower, weights := weights,
                    baseMargin := margin }

/-- Rows `ridxs` of a row-major vector whose rows hold `stride` elements, end to end. -/
def rowsAt {α : Type} (input : List α) (ridxs : List UInt64) (stride : Nat) : List α :=
  ridxs.flatMap fun r => (input.drop (r.toNat * stride)).take stride

theorem mapM_ok {α β : Type} {f : α → Except MetaError β} (g : α → β) :
    ∀ {l : List α}, (∀ x ∈ l, f x = .ok (g x)) → l.mapM f = .ok (l.map g)
  | [], _ => rfl
  | x :: l, h => by
    rw [List.mapM_cons, h x (List.mem_cons_self _ _), mapM_ok g fun y hy => h y (List.mem_cons_of_mem _ hy)]
    rfl

/-- The `stride` reads of one row inside the input give the row. -/
theorem mapM_readAt {α : Type} (l : List α) (b : Nat) (hlen : l.length < 2 ^ 64) :
    ∀ n, b + n ≤ l.length → (List.range n).mapM (fun j => readAt l ((b + j) % 2 ^ 64)) = .ok ((l.drop b).take n)
  | 0, _ => rfl
  | n + 1, h => by
    have hread : readAt l ((b + n) % 2 ^ 64) = .ok l[b + n] := by
      rw [Nat.mod_eq_of_lt (by omega), readAt, List.getElem?_eq_getElem (by omega)]
    rw [List.range_succ, List.mapM_append, mapM_readAt l b hlen n (by omega), List.take_succ, List.getElem?_drop,
      List.getElem?_eq_getElem (by omega), List.mapM_cons, hread]
    rfl

/-- `Gather` of rows that lie inside the input reads them, whatever the stride. -/
theorem gather_eq {α : Type} {input : List α} {ridxs : List UInt64} {stride : Nat} (hlen : input.length < 2 ^ 64)
    (hr : ∀ r ∈ ridxs, input = [] ∨ (r.toNat + 1) * stride ≤ input.length) :
    gather input ridxs stride = .ok (rowsAt input ridxs stride) := by
  unfold gather
  split
  case isTrue h =>
    rw [List.isEmpty_iff.mp h]
    simp [rowsAt]
  case isFalse h =>
  have hne : input ≠ [] := fun h' => h (List.isEmpty_iff.mpr h')
  have hrow : ∀ r ∈ ridxs, (List.range stride).mapM (fun j => readAt input ((r.toNat * stride + j) % 2 ^ 64)) =
      .ok ((input.drop (r.toNat * stride)).take stride) := fun r hmem => by
    have hb : (r.toNat + 1) * stride ≤ input.length := (hr r hmem).resolve_left hne
    exact mapM_readAt input _ hlen stride (by rw [Nat.succ_mul] at hb; exact hb)
  rw [mapM_ok _ hrow]
  rfl

theorem rowsAt_one_of_length {α : Type} {input : List α} {ridxs : List UInt64} {n c : Nat}
    (hr : ∀ r ∈ ridxs, r.toNat < n) (h1 : input.length = n) (h2 : input.length = n * c) :
    rowsAt input ridxs 1 = rowsAt input ridxs c := by
  rcases Nat.eq_zero_or_pos n with rfl | hn
  · obtain rfl : ridxs = [] := List.eq_nil_iff_forall_not_mem.mpr fun r hmem => by have := hr r hmem; omega
    rfl
  · obtain rfl : c = 1 := by
      have : n * c = n * 1 := by omega
      exact Nat.eq_of_mul_eq_mul_left hn this
    rfl

/-- The label or margin part of `Slice`, on a tensor of `num_row_` rows: its rows at
`ridxs`, end to end. -/
theorem sliceTensor_data {t : Tensor} {numRow : UInt64} {ridxs : List UInt64}
    (hr : ∀ r ∈ ridxs, r.toNat < numRow.toNat) (ht : t.data.length = numRow.toNat * t.shape.2.toNat)
    (hfit : t.data.length < 2 ^ 64) :
    ∃ t', sliceTensor t numRow ridxs = .ok t' ∧ t'.data = rowsAt t.data ridxs t.shape.2.toNat := by
  have hrow : ∀ c, t.data.length = numRow.toNat * c → ∀ r ∈ ridxs, t.data = [] ∨ (r.toNat + 1) * c ≤ t.data.length :=
    fun c hc r hmem => .inr (hc ▸ Nat.mul_le_mul_right c (hr r hmem))
  unfold sliceTensor
  split
  · rw [gather_eq hfit (hrow _ ht)]
    exact ⟨_, rfl, rfl⟩
  · rename_i h
    have h1 : t.data.length = numRow.toNat := Decidable.of_not_not h
    rw [gather_eq hfit (hrow 1 (by omega))]
    exact ⟨_, rfl, rowsAt_one_of_length hr h1 ht⟩

theorem gather_rows {input : List F32} {n : UInt64} {ridxs : List UInt64} (hr : ∀ r ∈ ridxs, r.toNat < n.toNat)
    (h : input = [] ∨ input.length = n.toNat) : gather input ridxs 1 = .ok (rowsAt input ridxs 1) := by
  have hn := UInt64.toNat_lt n
  refine gather_eq (h.elim (fun h => by simp [h]) fun h => by omega) fun r hmem => h.imp id fun h => ?_
  have := hr r hmem
  omega

/-- `Slice` on the CPU of a record whose per-row fields each are empty or hold `num_row_`
rows, at row indices below `num_row_`: the shape and the feature information carried
over, the labels, the margin and the label bounds gathered row by row, the row weights
gathered, and per-group weights replaced by the output's own, empty, weights. -/
theorem slice_rows (emptyCats : Cats) {m : MetaInfo Cats} {ridxs : List UInt64} (nnz : UInt64)
    (hr : ∀ r ∈ ridxs, r.toNat < m.numRow.toNat)
    (hlabels : m.labels.data.length = m.numRow.toNat * m.labels.shape.2.toNat)
    (hmargin : m.baseMargin.data.length = m.numRow.toNat * m.baseMargin.shape.2.toNat)
    (hlower : m.labelsLowerBound = [] ∨ m.labelsLowerBound.length = m.numRow.toNat)
    (hupper : m.labelsUpperBound = [] ∨ m.labelsUpperBound.length = m.numRow.toNat)
    (hweights : m.weights = [] ∨ m.weights.length = m.numRow.toNat ∨ m.weights.length + 1 = m.groupPtr.length)
    (hfit : m.labels.data.length < 2 ^ 64) (hfit' : m.baseMargin.data.length < 2 ^ 64) :
    ∃ out, slice emptyCats false m ridxs nnz = .ok out ∧
      out.numRow = UInt64.ofNat ridxs.length ∧ out.numCol = m.numCol ∧ out.numNonzero = nnz ∧
      out.featureNames = m.featureNames ∧ out.featureTypeNames = m.featureTypeNames ∧
      out.featureTypes = m.featureTypes ∧ out.featureWeights = m.featureWeights ∧
      out.labels.data = rowsAt m.labels.data ridxs m.labels.shape.2.toNat ∧
      out.baseMargin.data = rowsAt m.baseMargin.data ridxs m.baseMargin.shape.2.toNat ∧
      out.labelsLowerBound = rowsAt m.labelsLowerBound ridxs 1 ∧
      out.labelsUpperBound = rowsAt m.labelsUpperBound ridxs 1 ∧
      out.weights = if m.weights.length + 1 = m.groupPtr.length then [] else rowsAt m.weights ridxs 1 := by
  obtain ⟨tl, hl, hld⟩ := sliceTensor_data hr hlabels hfit
  obtain ⟨tm, hm, hmd⟩ := sliceTensor_data hr hmargin hfit'
  have hw : (if m.weights.length + 1 = m.groupPtr.length then pure (fresh emptyCats).weights
      else gather m.weights ridxs 1) =
      .ok (if m.weights.length + 1 = m.groupPtr.length then [] else rowsAt m.weights ridxs 1) := by
    split
    · rfl
    · exact gather_rows hr (hweights.imp_right (Or.resolve_right · ‹_›))
  have hcheck : (if m.baseMargin.data.length ≠ m.numRow.toNat then do
      let r ← cMod m.baseMargin.data.length m.numRow.toNat
      ensure (r = 0) .sliceMarginSize
    else pure ()) = .ok () := by
    split
    · rename_i hne
      have h0 : m.numRow.toNat ≠ 0 := fun h0 => hne (by rw [hmargin, h0, Nat.zero_mul])
      simp only [cMod, if_neg h0, hmargin, Nat.mul_mod_right]
      rfl
    · rfl
  simp only [slice, Bool.false_eq_true, if_false, hl, gather_rows hr hupper, gather_rows hr hlower, hw, hcheck, hm]
  exact ⟨_, rfl, rfl, rfl, rfl, rfl, rfl, rfl, rfl, hld, hmd, rfl, rfl, rfl⟩

/-- The second of two rows, with labels and row weights. -/
theorem slice_rows_secondRow :
    let m : MetaInfo Unit := { fresh () with numRow := 2, labels := ⟨(2, 1), [F32.one, F32.two]⟩,
                                             weights := [F32.two, F32.one] }
    (∀ r ∈ [(1 : UInt64)], r.toNat < m.numRow.toNat) ∧
    ∃ out, slice () false m [1] 5 = .ok out ∧
      out.numRow = UInt64.ofNat [(1 : UInt64)].length ∧ out.numCol = m.numCol ∧ out.numNonzero = 5 ∧
      out.featureNames = m.featureNames ∧ out.featureTypeNames = m.featureTypeNames ∧
      out.featureTypes = m.featureTypes ∧ out.featureWeights = m.featureWeights ∧
      out.labels.data = rowsAt m.labels.data [1] m.labels.shape.2.toNat ∧
      out.baseMargin.data = rowsAt m.baseMargin.data [1] m.baseMargin.shape.2.toNat ∧
      out.labelsLowerBound = rowsAt m.labelsLowerBound [1] 1 ∧
      out.labelsUpperBound = rowsAt m.labelsUpperBound [1] 1 ∧
      out.weights = if m.weights.length + 1 = m.groupPtr.length then [] else rowsAt m.weights [1] 1 :=
  ⟨by decide, slice_rows () 5 (by decide) rfl rfl (.inl rfl) (.inl rfl) (.inr (.inl rfl)) (by decide) (by decide)⟩

/-- Three rows in two query groups with one weight per group: the slice of row `0` has
no weights at all. -/
theorem slice_drops_group_weights :
    ({ fresh () with numRow := 3, groupPtr := [0, 1, 3], weights := [F32.one, F32.two] } : MetaInfo Unit).weights.length
        + 1 = ({ fresh () with numRow := 3, groupPtr := [0, 1, 3], weights := [F32.one, F32.two] } :
          MetaInfo Unit).groupPtr.length ∧
      ∃ out, slice () false { fresh () with numRow := 3, groupPtr := [0, 1, 3], weights := [F32.one, F32.two] }
        [0] 0 = .ok out ∧ out.weights = [] :=
  ⟨rfl, _, rfl, rfl⟩

/-! ## Reads the code leaves undefined -/

/-- A record without rows but with a base margin makes `Validate` and `Slice` take a
remainder by zero; labels with fewer elements than rows make `Slice` read past their
end; and an interface string that loads as an empty JSON array makes `SetInfo` read its
first element. -/
theorem metaInfo_undefined_reads :
    validate (fun _ => true) ({ fresh () with baseMargin := ⟨(1, 1), [F32.one]⟩ } : MetaInfo Unit) =
        .error .divisionByZero ∧
      slice () false { fresh () with baseMargin := ⟨(1, 1), [F32.one]⟩ } [] 0 = .error .divisionByZero ∧
      slice () false { fresh () with numRow := 2, labels := ⟨(1, 1), [F32.one]⟩ } [1] 0 = .error .outOfRange ∧
      ∀ (H : MetaHelpers) (arr : ArrayInterface) (key s : Bytes) (m : MetaInfo Unit),
        setInfo H (fun _ => .ok (.array [], arr)) key s m = .error .outOfRange m :=
  ⟨rfl, rfl, rfl, fun _ _ _ _ _ => rfl⟩

/-! ## `Clear` -/

theorem checkField_zero_ne_ok {deviceOk : Bytes → Bool} {name : Bytes} {n : Nat} {e : MetaError} (hn : n ≠ 0) :
    checkField deviceOk name n 0 e ≠ .ok () := fun h => hn (checkField_ok h)

/-- `Clear()` leaves the label bounds and the feature weights, under a row and a column
count of 0: `Validate` of a cleared record passes, on every device, exactly when it had no
label bounds and no feature weights. -/
theorem validate_clear (deviceOk : Bytes → Bool) (m : MetaInfo Cats) :
    validate deviceOk (clear m) = .ok () ↔
      m.labelsLowerBound = [] ∧ m.featureWeights = [] ∧ m.labelsUpperBound = [] := by
  simp only [validate, clear, List.length_nil, ne_eq, not_true_eq_false, and_false, if_false, false_and,
    Tensor.empty, pure_bind]
  by_cases hlo : m.labelsLowerBound = []
  · rw [if_neg (by simp [hlo])]
    by_cases hfw : m.featureWeights = []
    · rw [if_neg (by simp [hfw]), pure_bind]
      by_cases hup : m.labelsUpperBound = []
      · rw [if_neg (by simp [hup])]
        exact iff_of_true rfl ⟨hlo, hfw, hup⟩
      · rw [if_pos (mt List.length_eq_zero.mp hup)]
        exact iff_of_false (checkField_zero_ne_ok (mt List.length_eq_zero.mp hup)) fun h => hup h.2.2
    · rw [if_pos (mt List.length_eq_zero.mp hfw)]
      refine iff_of_false (fun h => ?_) fun h => hfw h.2.1
      obtain ⟨_, h1, -⟩ := bind_ok h
      exact checkField_zero_ne_ok (mt List.length_eq_zero.mp hfw) h1
  · rw [if_pos (mt List.length_eq_zero.mp hlo)]
    exact iff_of_false (checkField_zero_ne_ok (mt List.length_eq_zero.mp hlo)) fun h => hlo h.1

end MetaInfo

end XGBoostData
