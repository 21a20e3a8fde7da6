import XGBoostData.Data.MetaInfoShape

/-!
# Slicing a slice (data.cc, `MetaInfo::Slice`)

WHAT THIS FILE IS FOR.  `Slice(ctx, ridxs, nnz)` keeps the rows `ridxs` of a record.
`MetaInfoShape.lean` writes it as the source computes it, through `Gather`; this file
says what it is for.  On a record whose per-row fields hold `num_row_` rows
(`RowShaped`), slicing is row selection (`selectRows`): every per-row field read at the
indices, the shape and the feature information carried over, and per-group weights
dropped.  `slice_eq_selectRows` proves that the CPU path of `slice` refines that
selection, `rowShaped_selectRows` that a selection is row-shaped again, and from the two
`slice_slice` follows: a slice of a slice is one slice, at the composed indices.

THE EMPTY RECORD.  On a record of no rows `Slice` gives the labels and the margin the
shape `(0, 1)`, whatever their width (the `Size() == num_row_` branch).  The refinement
therefore asks for at least one row, and the composition for a first slice that keeps
one.
-/

set_option autoImplicit false

namespace XGBoostData

/-- Rows `ridxs` of a tensor whose rows are `Shape(1)` elements wide, under the shape
`(ridxs.size(), Shape(1))`. -/
def Tensor.selectRows (t : Tensor) (ridxs : List UInt64) : Tensor :=
  ⟨(UInt64.ofNat ridxs.length, t.shape.2), MetaInfo.rowsAt t.data ridxs t.shape.2.toNat⟩

namespace MetaInfo

variable {Cats : Type}

/-- The per-row fields of a record hold `num_row_` rows each, and the two tensors fit in
a 64-bit index: the labels and the margin rows of their own width, the label bounds empty
or one per row, the weights empty, one per row or one per group. -/
structure RowShaped (m : MetaInfo Cats) : Prop where
  labels : m.labels.data.length = m.numRow.toNat * m.labels.shape.2.toNat
  margin : m.baseMargin.data.length = m.numRow.toNat * m.baseMargin.shape.2.toNat
  lower : m.labelsLowerBound = [] ∨ m.labelsLowerBound.length = m.numRow.toNat
  upper : m.labelsUpperBound = [] ∨ m.labelsUpperBound.length = m.numRow.toNat
  weights : m.weights = [] ∨ m.weights.length = m.numRow.toNat ∨ m.weights.length + 1 = m.groupPtr.length
  labelsFit : m.labels.data.length < 2 ^ 64
  marginFit : m.baseMargin.data.length < 2 ^ 64

/-- What `Slice` is for: the record of rows `ridxs`.  The shape, the non-zero count given
and the feature information as `Slice` sets them; every per-row field read at the
indices; per-group weights dropped; the groups, the categories and `has_categorical_`
those of a fresh record. -/
def selectRows (emptyCats : Cats) (m : MetaInfo Cats) (ridxs : List UInt64) (nnz : UInt64) : MetaInfo Cats :=
  { fresh emptyCats with
    numRow := UInt64.ofNat ridxs.length, numCol := m.numCol, numNonzero := nnz,
    featureWeights := m.featureWeights, featureNames := m.featureNames, featureTypes := m.featureTypes,
    featureTypeNames := m.featureTypeNames,
    labels := m.labels.selectRows ridxs,
    labelsUpperBound := rowsAt m.labelsUpperBound ridxs 1,
    labelsLowerBound := rowsAt m.labelsLowerBound ridxs 1,
    weights := if m.weights.length + 1 = m.groupPtr.length then [] else rowsAt m.weights ridxs 1,
    baseMargin := m.baseMargin.selectRows ridxs }

/-! ## Rows of rows -/

section Rows

variable {α : Type} {l : List α} {n s : Nat}

@[simp] theorem rowsAt_nil (ridxs : List UInt64) (s : Nat) : rowsAt ([] : List α) ridxs s = [] := by
  simp [rowsAt]

/-- A row below `n` of a list of `n` rows of `s` elements holds `s` elements. -/
theorem length_row (hl : l.length = n * s) {r : Nat} (hr : r < n) : ((l.drop (r * s)).take s).length = s := by
  have : (r + 1) * s ≤ n * s := Nat.mul_le_mul_right s hr
  rw [List.length_take, List.length_drop, hl, Nat.succ_mul] at *
  omega

theorem length_rowsAt (hl : l.length = n * s) {ridxs : List UInt64} (hr : ∀ r ∈ ridxs, r.toNat < n) :
    (rowsAt l ridxs s).length = ridxs.length * s := by
  induction ridxs with
  | nil => simp [rowsAt]
  | cons r rs ih =>
    rw [rowsAt, List.flatMap_cons, List.length_append, ← rowsAt,
      length_row hl (hr r (List.mem_cons_self _ _)), ih fun r' h => hr r' (List.mem_cons_of_mem _ h),
      List.length_cons, Nat.succ_mul, Nat.add_comm]

/-- Row `k` of the rows `ridxs` is row `ridxs[k]`. -/
theorem row_rowsAt (hl : l.length = n * s) {ridxs : List UInt64} (hr : ∀ r ∈ ridxs, r.toNat < n) {k : Nat}
    (hk : k < ridxs.length) :
    ((rowsAt l ridxs s).drop (k * s)).take s = (l.drop ((ridxs.getD k 0).toNat * s)).take s := by
  have hrow : ∀ g ∈ ridxs.map fun r => (l.drop (r.toNat * s)).take s, g.length = s := by
    simp only [List.mem_map]
    rintro _ ⟨r, hmem, rfl⟩
    exact length_row hl (hr r hmem)
  have hlen : ((ridxs.map fun r => (l.drop (r.toNat * s)).take s).take k).flatten.length = k * s := by
    rw [← List.map_take]
    show (rowsAt l (ridxs.take k) s).length = k * s
    rw [length_rowsAt hl fun r h => hr r (List.mem_of_mem_take h), List.length_take, Nat.min_eq_left hk.le]
  have h := take_drop_flatten (ridxs.map fun r => (l.drop (r.toNat * s)).take s) (k := k) (by simpa using hk)
  rw [hlen, hrow _ (List.getElem_mem _)] at h
  show (((ridxs.map fun r => (l.drop (r.toNat * s)).take s).flatten.drop (k * s)).take s) = _
  rw [h, List.getElem_map, List.getD_eq_getElem _ _ hk]

/-- Selecting rows `r2` of the rows `r1` is selecting the rows `r1[r2[k]]`. -/
theorem rowsAt_rowsAt (hl : l.length = n * s) {r1 r2 : List UInt64} (hr1 : ∀ r ∈ r1, r.toNat < n)
    (hr2 : ∀ r ∈ r2, r.toNat < r1.length) :
    rowsAt (rowsAt l r1 s) r2 s = rowsAt l (r2.map fun i => r1.getD i.toNat 0) s := by
  show (r2.flatMap fun i => ((rowsAt l r1 s).drop (i.toNat * s)).take s) =
    (r2.map fun i => r1.getD i.toNat 0).flatMap fun r => (l.drop (r.toNat * s)).take s
  rw [List.flatMap_map]
  exact List.flatMap_congr fun i hi => row_rowsAt hl hr1 (hr2 i hi)

/-- Rows of a vector that is empty or holds one element per row. -/
theorem rowsAt_rowsAt_one {v : List α} {m : Nat} (hv : v = [] ∨ v.length = m) {r1 r2 : List UInt64}
    (hr1 : ∀ r ∈ r1, r.toNat < m) (hr2 : ∀ r ∈ r2, r.toNat < r1.length) :
    rowsAt (rowsAt v r1 1) r2 1 = rowsAt v (r2.map fun i => r1.getD i.toNat 0) 1 := by
  rcases hv with rfl | hv
  · simp
  · exact rowsAt_rowsAt (by rw [hv, Nat.mul_one]) hr1 hr2

/-- The rows of a vector that is empty or holds one element per row: empty, or one
element per row selected. -/
theorem rowsAt_one_shape {v : List α} {m : Nat} (hv : v = [] ∨ v.length = m) {ridxs : List UInt64}
    (hr : ∀ r ∈ ridxs, r.toNat < m) : rowsAt v ridxs 1 = [] ∨ (rowsAt v ridxs 1).length = ridxs.length := by
  rcases hv with rfl | hv
  · exact .inl (rowsAt_nil _ _)
  · exact .inr ((length_rowsAt (by rw [hv, Nat.mul_one]) hr).trans (Nat.mul_one _))

end Rows

/-! ## `Slice` refines the selection -/

/-- The label or margin part of `Slice`, on a tensor of `num_row_ > 0` rows: its rows. -/
theorem sliceTensor_eq_selectRows {t : Tensor} {numRow : UInt64} {ridxs : List UInt64}
    (ht : t.data.length = numRow.toNat * t.shape.2.toNat) (hfit : t.data.length < 2 ^ 64) (hn : 0 < numRow.toNat)
    (hr : ∀ r ∈ ridxs, r.toNat < numRow.toNat) : sliceTensor t numRow ridxs = .ok (t.selectRows ridxs) := by
  have hrow : ∀ c, t.data.length = numRow.toNat * c → ∀ r ∈ ridxs, t.data = [] ∨ (r.toNat + 1) * c ≤ t.data.length :=
    fun c hc r hmem => .inr (hc ▸ Nat.mul_le_mul_right c (hr r hmem))
  unfold sliceTensor
  split
  · rw [gather_eq hfit (hrow _ ht)]
    rfl
  · next h =>
    have h1 : t.data.length = numRow.toNat := Decidable.of_not_not h
    have hw : t.shape.2 = 1 := UInt64.toNat.inj (Nat.eq_of_mul_eq_mul_left hn (by rw [← ht, h1]; exact (Nat.mul_one _).symm))
    rw [gather_eq hfit (hrow 1 (by omega))]
    show Except.ok (⟨(UInt64.ofNat (rowsAt t.data ridxs 1).length, 1), rowsAt t.data ridxs 1⟩ : Tensor) = _
    rw [length_rowsAt (n := numRow.toNat) (by rw [h1, Nat.mul_one]) hr, Nat.mul_one, Tensor.selectRows, hw]
    rfl

/-- On the CPU, `Slice` of a row-shaped record of at least one row, at rows it holds, is
the selection of those rows. -/
theorem slice_eq_selectRows (emptyCats : Cats) {m : MetaInfo Cats} (hm : RowShaped m) (hn : 0 < m.numRow.toNat)
    {ridxs : List UInt64} (hr : ∀ r ∈ ridxs, r.toNat < m.numRow.toNat) (nnz : UInt64) :
    slice emptyCats false m ridxs nnz = .ok (selectRows emptyCats m ridxs nnz) := by
  have hw : (if m.weights.length + 1 = m.groupPtr.length then pure (fresh emptyCats).weights
      else gather m.weights ridxs 1) =
      .ok (if m.weights.length + 1 = m.groupPtr.length then [] else rowsAt m.weights ridxs 1) := by
    split
    · rfl
    · exact gather_rows hr (hm.weights.imp_right (Or.resolve_right · ‹_›))
  have hcheck : (if m.baseMargin.data.length ≠ m.numRow.toNat then do
      let r ← cMod m.baseMargin.data.length m.numRow.toNat
      ensure (r = 0) .sliceMarginSize
    else pure ()) = .ok () := by
    split
    · simp only [cMod, if_neg hn.ne', hm.margin, Nat.mul_mod_right]
      rfl
    · rfl
  simp only [slice, Bool.false_eq_true, if_false, sliceTensor_eq_selectRows hm.labels hm.labelsFit hn hr,
    gather_rows hr hm.upper, gather_rows hr hm.lower, hw, hcheck,
    sliceTensor_eq_selectRows hm.margin hm.marginFit hn hr]
  rfl

theorem gather_nil {α : Type} (input : List α) (stride : Nat) : gather input [] stride = .ok [] := by
  unfold gather
  split <;> rfl

/-- On the CPU, `Slice` of a row-shaped record without rows, at no rows: the shape and the
feature information, and every per-row field empty. -/
theorem slice_of_numRow_zero (emptyCats : Cats) {m : MetaInfo Cats} (hm : RowShaped m) (h0 : m.numRow.toNat = 0)
    (nnz : UInt64) :
    slice emptyCats false m [] nnz = .ok { fresh emptyCats with
      numCol := m.numCol, numNonzero := nnz, featureWeights := m.featureWeights, featureNames := m.featureNames,
      featureTypes := m.featureTypes, featureTypeNames := m.featureTypeNames,
      labels := ⟨(0, 1), []⟩, baseMargin := ⟨(0, 1), []⟩ } := by
  have hl : m.labels.data.length = m.numRow.toNat := by rw [hm.labels, h0, Nat.zero_mul]
  have hmg : m.baseMargin.data.length = m.numRow.toNat := by rw [hm.margin, h0, Nat.zero_mul]
  simp only [slice, sliceTensor, hl, hmg, ne_eq, not_true_eq_false, if_false, Bool.false_eq_true, gather_nil]
  split <;> rfl

/-- A selection of rows a record holds is row-shaped, when the indices and the two
tensors it selects fit in a 64-bit index. -/
theorem rowShaped_selectRows (emptyCats : Cats) {m : MetaInfo Cats} (hm : RowShaped m) {ridxs : List UInt64}
    (hr : ∀ r ∈ ridxs, r.toNat < m.numRow.toNat) (nnz : UInt64) (hlen : ridxs.length < 2 ^ 64)
    (hfit : ridxs.length * m.labels.shape.2.toNat < 2 ^ 64 ∧ ridxs.length * m.baseMargin.shape.2.toNat < 2 ^ 64) :
    RowShaped (selectRows emptyCats m ridxs nnz) := by
  have hrow : (UInt64.ofNat ridxs.length).toNat = ridxs.length := UInt64.toNat_ofNat_of_lt hlen
  have hl := length_rowsAt hm.labels hr
  have hmg := length_rowsAt hm.margin hr
  refine ⟨?_, ?_, ?_, ?_, ?_, ?_, ?_⟩ <;>
    simp only [selectRows, Tensor.selectRows, hrow]
  · exact hl
  · exact hmg
  · exact rowsAt_one_shape hm.lower hr
  · exact rowsAt_one_shape hm.upper hr
  · split
    · exact .inl rfl
    · next hg => exact (rowsAt_one_shape (hm.weights.imp_right (Or.resolve_right · hg)) hr).imp_right .inl
  · exact hl ▸ hfit.1
  · exact hmg ▸ hfit.2

/-- The selection composes: rows `r2` of the selection of rows `r1` are the rows
`r1[r2[k]]`, with the non-zero count of the second. -/
theorem selectRows_selectRows (emptyCats : Cats) {m : MetaInfo Cats} (hm : RowShaped m) {r1 r2 : List UInt64}
    (hr1 : ∀ r ∈ r1, r.toNat < m.numRow.toNat) (hr2 : ∀ r ∈ r2, r.toNat < r1.length) (nnz1 nnz2 : UInt64) :
    selectRows emptyCats (selectRows emptyCats m r1 nnz1) r2 nnz2 =
      selectRows emptyCats m (r2.map fun i => r1.getD i.toNat 0) nnz2 := by
  have hweights : (if (selectRows emptyCats m r1 nnz1).weights.length + 1 =
      (selectRows emptyCats m r1 nnz1).groupPtr.length then []
      else rowsAt (selectRows emptyCats m r1 nnz1).weights r2 1) =
      if m.weights.length + 1 = m.groupPtr.length then [] else rowsAt m.weights (r2.map fun i => r1.getD i.toNat 0) 1 := by
    simp only [selectRows, fresh, List.length_nil, Nat.add_one_ne_zero, if_false]
    split
    · exact rowsAt_nil _ _
    · next hg => exact rowsAt_rowsAt_one (hm.weights.imp_right (Or.resolve_right · hg)) hr1 hr2
  simp only [selectRows, Tensor.selectRows, List.length_map] at hweights ⊢
  rw [hweights, rowsAt_rowsAt hm.labels hr1 hr2, rowsAt_rowsAt hm.margin hr1 hr2, rowsAt_rowsAt_one hm.upper hr1 hr2,
    rowsAt_rowsAt_one hm.lower hr1 hr2]

/-- `Slice` composes on the CPU.  On a row-shaped record, a slice at rows `r1` the record
holds, keeping at least one, then a slice at positions `r2` of that slice, is one slice
at the rows `r1[r2[k]]`: the same record, tensor shapes included, with the second
non-zero count.  The indices and the two tensors of the first slice fit in a 64-bit
index. -/
theorem slice_slice (emptyCats : Cats) {m : MetaInfo Cats} (hm : RowShaped m) {r1 r2 : List UInt64}
    (h1 : r1 ≠ []) (hr1 : ∀ r ∈ r1, r.toNat < m.numRow.toNat) (hr2 : ∀ r ∈ r2, r.toNat < r1.length)
    (hlen : r1.length < 2 ^ 64)
    (hfit : r1.length * m.labels.shape.2.toNat < 2 ^ 64 ∧ r1.length * m.baseMargin.shape.2.toNat < 2 ^ 64)
    (nnz1 nnz2 : UInt64) :
    (slice emptyCats false m r1 nnz1 >>= fun out => slice emptyCats false out r2 nnz2) =
      slice emptyCats false m (r2.map fun i => r1.getD i.toNat 0) nnz2 := by
  obtain ⟨r, hr⟩ := List.exists_mem_of_ne_nil r1 h1
  have hn : 0 < m.numRow.toNat := Nat.lt_of_le_of_lt (Nat.zero_le _) (hr1 r hr)
  have hrow : (selectRows emptyCats m r1 nnz1).numRow.toNat = r1.length := UInt64.toNat_ofNat_of_lt hlen
  have hr3 : ∀ r ∈ r2.map fun i => r1.getD i.toNat 0, r.toNat < m.numRow.toNat := by
    simp only [List.mem_map]
    rintro _ ⟨i, hi, rfl⟩
    exact hr1 _ (List.getD_eq_getElem _ _ (hr2 i hi) ▸ List.getElem_mem _)
  rw [slice_eq_selectRows emptyCats hm hn hr1, slice_eq_selectRows emptyCats hm hn hr3,
    ← selectRows_selectRows emptyCats hm hr1 hr2 nnz1 nnz2]
  exact slice_eq_selectRows emptyCats (rowShaped_selectRows emptyCats hm hr1 nnz1 hlen hfit)
    (hrow ▸ List.length_pos.mpr h1) (hrow ▸ hr2) nnz2

/-- Rows `2, 0` of three labelled rows, then the second of those: row `0`. -/
theorem slice_slice_threeRows :
    let m : MetaInfo Unit := { fresh () with numRow := 3, labels := ⟨(3, 1), [F32.zero, F32.one, F32.two]⟩ }
    RowShaped m ∧ ([2, 0] : List UInt64) ≠ [] ∧ (∀ r ∈ ([2, 0] : List UInt64), r.toNat < m.numRow.toNat) ∧
      (∀ r ∈ ([1] : List UInt64), r.toNat < ([2, 0] : List UInt64).length) ∧
      ([2, 0] : List UInt64).length < 2 ^ 64 ∧
      (([2, 0] : List UInt64).length * m.labels.shape.2.toNat < 2 ^ 64 ∧
        ([2, 0] : List UInt64).length * m.baseMargin.shape.2.toNat < 2 ^ 64) ∧
      (slice () false m [2, 0] 2 >>= fun out => slice () false out [1] 1) = slice () false m [0] 1 :=
  have hm : RowShaped ({ fresh () with numRow := 3, labels := ⟨(3, 1), [F32.zero, F32.one, F32.two]⟩ } :
      MetaInfo Unit) := ⟨by decide, by decide, .inl rfl, .inl rfl, .inl rfl, by decide, by decide⟩
  ⟨hm, by decide, by decide, by decide, by decide, by decide,
    slice_slice () hm (by decide) (by decide) (by decide) (by decide) (by decide) 2 1⟩

/-! ## A slice passes `Validate` -/

theorem checkField_of_eq (name : Bytes) {a b : Nat} (e : MetaError) (h : a = b) :
    checkField (fun _ => true) name a b e = .ok () := by
  simp [checkField, ensure, h]
  rfl

theorem ok_bind_ok (f : Unit → Except MetaError Unit) : (Except.ok () >>= f) = f () := rfl

/-- `Validate` passes, on every device, on a record without groups whose per-row fields
are empty or hold `num_row_` rows (the labels by their first dimension), whose feature
weights are empty or one per column, whose non-zero count is at most `num_col_ *
num_row_`, and whose margin is empty or a multiple of `num_row_ > 0`. -/
theorem validate_of_rowCounts {m : MetaInfo Cats} (hg : m.groupPtr = [])
    (hw : m.weights = [] ∨ m.weights.length = m.numRow.toNat)
    (hl : m.labels.data = [] ∨ m.labels.shape.1 = m.numRow)
    (hlo : m.labelsLowerBound = [] ∨ m.labelsLowerBound.length = m.numRow.toNat)
    (hfw : m.featureWeights = [] ∨ m.featureWeights.length = m.numCol.toNat)
    (hup : m.labelsUpperBound = [] ∨ m.labelsUpperBound.length = m.numRow.toNat)
    (hnz : m.numNonzero ≤ m.numCol * m.numRow)
    (hmg : m.baseMargin.data = [] ∨ (m.numRow.toNat ≠ 0 ∧ m.baseMargin.data.length % m.numRow.toNat = 0)) :
    validate (fun _ => true) m = .ok () := by
  have row : ∀ {α : Type} (l : List α) (n : Nat) (name : Bytes) (e : MetaError), l = [] ∨ l.length = n →
      ¬l.length = 0 → checkField (fun _ => true) name l.length n e = .ok () := fun l n name e h hne =>
    checkField_of_eq name e (h.resolve_left (ne_nil_of_length_ne_zero hne))
  have hlabels : ¬m.labels.data.length = 0 → checkField (fun _ => true) (ascii "labels") m.labels.shape.1.toNat
      m.numRow.toNat (.rowCount (ascii "labels")) = .ok () := fun hne =>
    checkField_of_eq _ _ (congrArg UInt64.toNat (hl.resolve_left (ne_nil_of_length_ne_zero hne)))
  have hmargin : ¬m.baseMargin.data.length = 0 → (do
      let r ← cMod m.baseMargin.data.length m.numRow.toNat
      ensure (r = 0) .marginMultiple
      ensure ((fun _ => true) (ascii "base_margin") = true) .device : Except MetaError Unit) = .ok () := fun hne => by
    obtain ⟨h0, hmod⟩ := hmg.resolve_left (ne_nil_of_length_ne_zero hne)
    simp only [cMod, if_neg h0, hmod]
    rfl
  simp only [validate, hg, List.length_nil, ne_eq, not_true_eq_false, false_and, if_false, pure_bind]
  by_cases h1 : m.weights.length = 0
  case neg => rw [if_pos h1]; exact row _ _ _ _ hw h1
  rw [if_neg (not_not_intro h1)]
  by_cases h2 : m.labels.data.length = 0
  case neg => rw [if_pos h2]; exact hlabels h2
  rw [if_neg (not_not_intro h2)]
  by_cases h3 : m.labelsLowerBound.length = 0
  case neg => rw [if_pos h3]; exact row _ _ _ _ hlo h3
  rw [if_neg (not_not_intro h3)]
  have hF : (if ¬m.featureWeights.length = 0 then checkField (fun _ => true) (ascii "feature_weights")
      m.featureWeights.length m.numCol.toNat .featureWeightsCount else pure ()) = .ok () := by
    split_ifs with h4
    exacts [rfl, row _ _ _ _ hfw h4]
  rw [hF, ok_bind_ok]
  by_cases h5 : m.labelsUpperBound.length = 0
  case neg => rw [if_pos h5]; exact row _ _ _ _ hup h5
  rw [if_neg (not_not_intro h5), show ensure _ _ = .ok () from if_pos hnz, ok_bind_ok]
  split_ifs with h6
  exacts [rfl, hmargin h6]

/-- On the CPU, a slice of a row-shaped record, at rows it holds, passes `Validate` on
every device when the record's feature weights are empty or one per column and the
non-zero count the caller passes is at most `num_col_` times the number of rows kept, in
`uint64_t` arithmetic: the groups and per-group weights are dropped, and every per-row
field keeps one row per index.  A record without rows has no rows to slice, and its empty
slice passes as well. -/
theorem validate_slice (emptyCats : Cats) {m : MetaInfo Cats} (hm : RowShaped m) {ridxs : List UInt64}
    (hr : ∀ r ∈ ridxs, r.toNat < m.numRow.toNat) (hlen : ridxs.length < 2 ^ 64)
    (hfw : m.featureWeights = [] ∨ m.featureWeights.length = m.numCol.toNat) {nnz : UInt64}
    (hnnz : nnz ≤ m.numCol * UInt64.ofNat ridxs.length) :
    ∃ out, slice emptyCats false m ridxs nnz = .ok out ∧ validate (fun _ => true) out = .ok () := by
  rcases Nat.eq_zero_or_pos m.numRow.toNat with h0 | hn
  · obtain rfl : ridxs = [] := List.eq_nil_iff_forall_not_mem.mpr fun r h => by have := hr r h; omega
    exact ⟨_, slice_of_numRow_zero emptyCats hm h0 nnz,
      validate_of_rowCounts rfl (.inl rfl) (.inl rfl) (.inl rfl) hfw (.inl rfl) hnnz (.inl rfl)⟩
  have hrow : (UInt64.ofNat ridxs.length).toNat = ridxs.length := UInt64.toNat_ofNat_of_lt hlen
  have hone : ∀ v : List F32, v = [] ∨ v.length = m.numRow.toNat →
      rowsAt v ridxs 1 = [] ∨ (rowsAt v ridxs 1).length = (UInt64.ofNat ridxs.length).toNat := fun v hv => by
    rw [hrow]
    exact rowsAt_one_shape hv hr
  have hw : (if m.weights.length + 1 = m.groupPtr.length then [] else rowsAt m.weights ridxs 1) = [] ∨
      (if m.weights.length + 1 = m.groupPtr.length then [] else rowsAt m.weights ridxs 1).length =
        (UInt64.ofNat ridxs.length).toNat := by
    split
    · exact .inl rfl
    · next hg => exact hone _ (hm.weights.imp_right (Or.resolve_right · hg))
  have hmg : rowsAt m.baseMargin.data ridxs m.baseMargin.shape.2.toNat = [] ∨
      ((UInt64.ofNat ridxs.length).toNat ≠ 0 ∧
        (rowsAt m.baseMargin.data ridxs m.baseMargin.shape.2.toNat).length % (UInt64.ofNat ridxs.length).toNat = 0) := by
    by_cases hne : ridxs = []
    · exact .inl (by rw [hne]; rfl)
    · rw [hrow, length_rowsAt hm.margin hr, Nat.mul_mod_right]
      exact .inr ⟨(List.length_pos.mpr hne).ne', rfl⟩
  exact ⟨_, slice_eq_selectRows emptyCats hm hn hr nnz,
    validate_of_rowCounts rfl hw (.inr rfl) (hone _ hm.lower) hfw (hone _ hm.upper) hnnz hmg⟩

/-- Rows `2, 0` of the record of `slice_slice_threeRows`, with no non-zero entries. -/
theorem validate_slice_threeRows :
    let m : MetaInfo Unit := { fresh () with numRow := 3, labels := ⟨(3, 1), [F32.zero, F32.one, F32.two]⟩ }
    RowShaped m ∧ (∀ r ∈ ([2, 0] : List UInt64), r.toNat < m.numRow.toNat) ∧
      ([2, 0] : List UInt64).length < 2 ^ 64 ∧
      (m.featureWeights = [] ∨ m.featureWeights.length = m.numCol.toNat) ∧
      (0 : UInt64) ≤ m.numCol * UInt64.ofNat ([2, 0] : List UInt64).length ∧
      ∃ out, slice () false m [2, 0] 0 = .ok out ∧ validate (fun _ => true) out = .ok () :=
  have hm : RowShaped ({ fresh () with numRow := 3, labels := ⟨(3, 1), [F32.zero, F32.one, F32.two]⟩ } :
      MetaInfo Unit) := ⟨by decide, by decide, .inl rfl, .inl rfl, .inl rfl, by decide, by decide⟩
  ⟨hm, by decide, by decide, .inl rfl, by decide, validate_slice () hm (by decide) (by decide) (.inl rfl) (by decide)⟩

end MetaInfo

end XGBoostData
