import XGBoostData.Data.PageOps

/-!
# `SparsePage::GetTranspose(num_columns, n_threads)` (spec §4.5)

WHAT THIS FILE IS FOR.  The transpose runs the group builder once more, now with the
page's columns as groups: pass 1 calls `AddBudget(entry.index, tid)` for every entry,
pass 2 calls `Push(entry.index, Entry(base_rowid + i, entry.fvalue), tid)`, and both walk
the rows through `common::ParallelFor`.  A page without entries then gets
`num_columns + 1` zero offsets, and `CHECK_EQ` compares the offset count with
`num_columns + 1`.

MACHINE INTEGERS.  `num_columns` is an `int`.  It reaches `InitBudget` as a
`std::size_t`, and `num_columns + 1` is `int` arithmetic, converted to `std::size_t` for
`Resize` and for the comparison (`intToSize`, `intAdd` of `Common.Threading`); a caller's
`std::size_t` row count passed as `num_columns` goes through `sizeToInt`.  The row id
stored in an entry is cast to the 32-bit index.  Below `num_columns = 2^31 - 1` and
`2^32` rows none of this wraps, and `getTranspose_eq_ok` gives the transpose; at
`num_columns = INT_MAX` the `CHECK_EQ` compares with a wrapped count and fails
(`getTranspose_eq_error`).  A negative `num_columns` converts to at least `2^64 - 2^31`
counters per thread, past `std::vector::max_size()`: `InitBudget` throws
`std::length_error` (`getTranspose_of_neg`), and so does `offset.Resize` of the wrapped
count on a page without entries.  An allocation below `max_size()` that the machine
cannot serve (`std::bad_alloc`) is not modelled.

THE SCHEDULE.  Both passes walk the rows through a `StaticSchedule`.  The result does not
depend on it, nor on the thread count: a column receives its entries row after row.
-/

set_option autoImplicit false

namespace XGBoostData

open GroupBuilder

namespace SparsePage

/-! ## The transpose -/

/-- Why `GetTranspose` raises. -/
inductive TransposeError
  /-- `CHECK_EQ(transpose.offset.Size(), num_columns + 1)`, with both sides as `std::size_t`. -/
  | offsetSize (size expected : Nat)
  /-- `std::length_error`: `InitBudget` or `transpose.offset.Resize` asks a vector for
  `size` elements, past `std::vector::max_size()`. -/
  | lengthError (size : Nat)
  deriving DecidableEq, Repr

/-- The calls `builder.Push(entry.index, Entry(base_rowid + i, entry.fvalue), tid)` of
pass 2: thread `tid` takes its rows in order and each row's entries in order.  Pass 1
calls `AddBudget(entry.index, tid)` on the same entries.  The row id `base_rowid + i` is
cast to the 32-bit index (`static_cast<bst_uint>`). -/
def transposePlacements (sched : StaticSchedule) (page : SparsePage) (nThreads : Nat) : List (Placement Entry) :=
  (List.range nThreads).flatMap fun tid =>
    (sched.iterations page.size nThreads tid).flatMap fun i =>
      (page.inst i).map fun e => ⟨tid, e.index.toNat, ⟨UInt32.ofNat (page.baseRowid.toNat + i), e.fvalue⟩⟩

/-- The calls `builder.AddBudget(entry.index, tid)` of pass 1: the rows walked as in
pass 2, every entry counted. -/
def transposeBudgetCalls (sched : StaticSchedule) (page : SparsePage) (nThreads : Nat) : List (Placement Unit) :=
  (List.range nThreads).flatMap fun tid =>
    (sched.iterations page.size nThreads tid).flatMap fun i =>
      (page.inst i).map fun e => ⟨tid, e.index.toNat, ()⟩

/-- `GetTranspose(num_columns, n_threads)`: the builder on a fresh page, with
`InitBudget(num_columns, n_threads)` and the builder's defaults (base 0, not row-major);
then `num_columns + 1` zero offsets for a page without entries, and the `CHECK_EQ`.
`InitBudget` raises when a thread's row of counters would pass `max_size()`, as
`offset.Resize` does for the offsets. -/
def getTranspose (sched : StaticSchedule) (page : SparsePage) (numColumns : Int) (nThreads : Nat) :
    Except TransposeError SparsePage :=
  if vectorMaxSize < budgetExtent false 0 (intToSize numColumns) then
    .error (.lengthError (budgetExtent false 0 (intToSize numColumns)))
  else
  let budget := countPass 0 (initBudget (budgetExtent false 0 (intToSize numColumns)) nThreads)
    (transposeBudgetCalls sched page nThreads)
  let storage := initStorage empty.offset empty.data budget
  let data := (placePass 0 storage.2 (transposePlacements sched page nThreads)).1
  let offset := if page.data.isEmpty then List.replicate (intToSize (intAdd numColumns 1)) 0 else storage.1
  if vectorMaxSize < offset.length then .error (.lengthError offset.length)
  else if offset.length = intToSize (intAdd numColumns 1) then .ok ⟨offset, data, 0⟩
  else .error (.offsetSize offset.length (intToSize (intAdd numColumns 1)))

/-- Column `c` of the transpose of the rows `rs`, the first of which is global row
`base`: `Entry(base + i, v)` for every entry `(c, v)` of row `i`, row after row and, in a
row, in the row's order. -/
def transposeColumn (rs : List (List Entry)) (base c : Nat) : List Entry :=
  (List.range rs.length).flatMap fun i =>
    ((rs.getD i []).filter (·.index.toNat == c)).map fun e => ⟨UInt32.ofNat (base + i), e.fvalue⟩

/-- The rows of the transpose of `page` with `C` columns: row `c` is column `c`. -/
def transposeRows (page : SparsePage) (C : Nat) : List (List Entry) :=
  (List.range C).map (transposeColumn page.rows page.baseRowid.toNat)

/-- The entries of the rows `rs` in row-major order, each with the number of its row. -/
def rowEntries (rs : List (List Entry)) : List (Nat × Entry) :=
  (List.range rs.length).flatMap fun i => (rs.getD i []).map (i, ·)

@[simp] theorem length_transposeRows (page : SparsePage) (C : Nat) : (transposeRows page C).length = C := by
  simp [transposeRows]

/-! ## The builder session of the transpose -/

/-- Pass 1 budgets for exactly the calls of pass 2: it walks the same rows with the same
schedule and counts every entry that pass 2 places. -/
theorem transposeBudgetCalls_eq (sched : StaticSchedule) (page : SparsePage) (n : Nat) :
    transposeBudgetCalls sched page n = (transposePlacements sched page n).map Placement.budgetCall := by
  simp only [transposeBudgetCalls, transposePlacements, List.map_flatMap, List.map_map]
  rfl

theorem countPass_transposeBudgetCalls (sched : StaticSchedule) (page : SparsePage) (n : Nat)
    (tbl : List (List Nat)) :
    countPass 0 tbl (transposeBudgetCalls sched page n) = countPass 0 tbl (transposePlacements sched page n) := by
  rw [transposeBudgetCalls_eq, countPass_map_budgetCall]

theorem mem_data_of_mem_inst {page : SparsePage} {i : Nat} {e : Entry} (h : e ∈ page.inst i) : e ∈ page.data :=
  List.mem_of_mem_drop (List.mem_of_mem_take h)

theorem mem_transposePlacements {sched : StaticSchedule} {page : SparsePage} {n : Nat} {w : Placement Entry}
    (h : w ∈ transposePlacements sched page n) : w.tid < n ∧ ∃ e ∈ page.data, w.key = e.index.toNat := by
  simp only [transposePlacements, List.mem_flatMap, List.mem_range, List.mem_map] at h
  obtain ⟨tid, ht, i, -, e, he, rfl⟩ := h
  exact ⟨ht, e, mem_data_of_mem_inst he, rfl⟩

/-- The group the builder fills for column `g` is column `g` of the transpose, whatever
the schedule and the thread count. -/
theorem groupValues_transposePlacements (sched : StaticSchedule) {page : SparsePage} (hp : page.Valid) {n : Nat}
    (hn : 0 < n) (g : Nat) :
    groupValues 0 n g (transposePlacements sched page n) = transposeColumn page.rows page.baseRowid.toNat g := by
  rw [transposePlacements, groupValues_flatMap 0 n g _ fun t w hw => by
    simp only [List.mem_flatMap, List.mem_map] at hw
    obtain ⟨i, -, e, -, rfl⟩ := hw
    rfl]
  simp only [List.filter_flatMap, List.map_flatMap, List.filter_map, List.map_map, Function.comp_def,
    Nat.sub_zero]
  rw [← List.flatMap_assoc, sched.flatMap_iterations page.size hn, transposeColumn, hp.length_rows]
  simp only [hp.inst_eq]

theorem numGroups_transpose (sched : StaticSchedule) {page : SparsePage} {n : Nat} (hn : 0 < n) {C : Nat}
    (hidx : ∀ e ∈ page.data, e.index.toNat < C) :
    numGroups (countPass 0 (initBudget C n) (transposePlacements sched page n)) = C := by
  rw [numGroups_countPass 0 C hn _ fun w hw => (mem_transposePlacements hw).1]
  refine Nat.le_antisymm (groupsNeeded_le (Nat.le_refl _) fun w hw => ?_) (le_groupsNeeded _ _ _)
  obtain ⟨-, e, he, hk⟩ := mem_transposePlacements hw
  rw [hk, Nat.sub_zero]
  exact hidx e he

/-- What the two passes leave on the fresh page: the offsets and the entries of the
page whose rows are the columns of `page`. -/
theorem transpose_session (sched : StaticSchedule) {page : SparsePage} (hp : page.Valid) {n : Nat} (hn : 0 < n)
    {C : Nat} (hidx : ∀ e ∈ page.data, e.index.toNat < C) :
    (initStorage empty.offset empty.data (countPass 0 (initBudget C n) (transposePlacements sched page n))).1 =
        offsetsFrom 0 (transposeRows page C) ∧
      (placePass 0 (initStorage empty.offset empty.data (countPass 0 (initBudget C n)
        (transposePlacements sched page n))).2 (transposePlacements sched page n)).1 =
        (transposeRows page C).flatten := by
  have hs := session_ofRows [] 0 0 C n (transposePlacements sched page n) fun w hw => (mem_transposePlacements hw).1
  rw [numGroups_transpose sched hn hidx] at hs
  simp only [groupValues_transposePlacements sched hp hn, List.nil_append] at hs
  exact ⟨congrArg SparsePage.offset hs, congrArg SparsePage.data hs⟩

/-! ## The columns -/

theorem map_snd_rowEntries (rs : List (List Entry)) : (rowEntries rs).map Prod.snd = rs.flatten := by
  simp only [rowEntries, List.map_flatMap, List.map_map, Function.comp_def, List.map_id']
  rw [List.flatMap_def, map_getD_range]

theorem transposeColumn_eq_filter (rs : List (List Entry)) (base c : Nat) :
    transposeColumn rs base c = ((rowEntries rs).filter (·.2.index.toNat == c)).map
      fun p => ⟨UInt32.ofNat (base + p.1), p.2.fvalue⟩ := by
  simp only [transposeColumn, rowEntries, List.filter_flatMap, List.map_flatMap, List.filter_map, List.map_map,
    Function.comp_def]

/-- Every entry of the page lands in exactly one column: the columns, end to end, are
the page's entries in another order, each as `Entry(base_rowid + i, value)`. -/
theorem flatten_transposeRows_perm {page : SparsePage} (hp : page.Valid) {C : Nat}
    (hidx : ∀ e ∈ page.data, e.index.toNat < C) :
    (transposeRows page C).flatten.Perm
      ((rowEntries page.rows).map fun p => ⟨UInt32.ofNat (page.baseRowid.toNat + p.1), p.2.fvalue⟩) := by
  have hk : ∀ p ∈ rowEntries page.rows, p.2.index.toNat < C := fun p hmem => hidx _ (by
    rw [hp.data_eq, ← map_snd_rowEntries]
    exact List.mem_map_of_mem _ hmem)
  rw [transposeRows, ← List.flatMap_def, funext (transposeColumn_eq_filter page.rows page.baseRowid.toNat),
    ← List.map_flatMap]
  exact (flatMap_filter_key_perm_of_lt (fun p : Nat × Entry => p.2.index.toNat) hk).map _

theorem length_flatten_transposeRows {page : SparsePage} (hp : page.Valid) {C : Nat}
    (hidx : ∀ e ∈ page.data, e.index.toNat < C) : (transposeRows page C).flatten.length = page.data.length := by
  rw [(flatten_transposeRows_perm hp hidx).length_eq, List.length_map, hp.data_eq, ← map_snd_rowEntries,
    List.length_map]

/-- The row number is cast to the 32-bit index: column `c` holds `((base + i) mod 2^32, v)`
for every entry `(c, v)` of row `i`, in row order. -/
theorem map_transposeColumn_mod (rs : List (List Entry)) (base c : Nat) :
    (transposeColumn rs base c).map (fun e => (e.index.toNat, e.fvalue)) =
      (List.range rs.length).flatMap fun i =>
        ((rs.getD i []).filter (·.index.toNat == c)).map fun e => ((base + i) % 2 ^ 32, e.fvalue) := by
  simp only [transposeColumn, List.map_flatMap, List.map_map]
  rfl

/-- Below `2^32` the row number survives the cast to the 32-bit index: column `c` holds
`(base + i, v)` for every entry `(c, v)` of row `i`, in row order. -/
theorem map_transposeColumn {rs : List (List Entry)} {base : Nat} (hb : base + rs.length ≤ 2 ^ 32) (c : Nat) :
    (transposeColumn rs base c).map (fun e => (e.index.toNat, e.fvalue)) =
      (List.range rs.length).flatMap fun i =>
        ((rs.getD i []).filter (·.index.toNat == c)).map fun e => (base + i, e.fvalue) := by
  rw [map_transposeColumn_mod]
  refine List.flatMap_congr fun i hi => List.map_congr_left fun e _ => ?_
  rw [Nat.mod_eq_of_lt (by have := List.mem_range.mp hi; omega)]

theorem pairwise_transposeColumn {rs : List (List Entry)} {base : Nat} (hb : base + rs.length ≤ 2 ^ 32) (c : Nat) :
    (transposeColumn rs base c).Pairwise fun a b => a.index.toNat ≤ b.index.toNat := by
  have h : ((transposeColumn rs base c).map fun e => (e.index.toNat, e.fvalue)).Pairwise fun a b => a.1 ≤ b.1 := by
    rw [map_transposeColumn hb c]
    refine List.pairwise_flatMap.mpr ⟨fun i _ => List.pairwise_of_forall_mem_list fun a ha b hb => ?_,
      (List.pairwise_lt_range _).imp fun hij a ha b hb => ?_⟩
    · obtain ⟨_, -, rfl⟩ := List.mem_map.mp ha
      obtain ⟨_, -, rfl⟩ := List.mem_map.mp hb
      exact le_rfl
    · obtain ⟨_, -, rfl⟩ := List.mem_map.mp ha
      obtain ⟨_, -, rfl⟩ := List.mem_map.mp hb
      exact Nat.add_le_add_left hij.le _
  exact (List.pairwise_map.mp h :)

theorem transposeRows_of_data_nil {page : SparsePage} (hp : page.Valid) (h : page.data = []) (C : Nat) :
    transposeRows page C = List.replicate C [] := by
  have hrows : ∀ r ∈ page.rows, r = [] := List.flatten_eq_nil_iff.mp (by rw [← hp.data_eq, h])
  have hcol : transposeColumn page.rows page.baseRowid.toNat = fun _ => [] := funext fun c =>
    List.flatMap_eq_nil_iff.mpr fun i hi => by
      rw [List.getD_eq_getElem _ _ (List.mem_range.mp hi), hrows _ (List.getElem_mem _)]
      rfl
  simp [transposeRows, hcol]

theorem offsetsFrom_replicate_nil (s m : Nat) :
    offsetsFrom s (List.replicate m ([] : List Entry)) = List.replicate (m + 1) s := by
  induction m with
  | zero => rfl
  | succ m ih => simp [List.replicate_succ, ih]

/-! ## What `GetTranspose` returns -/

/-- An `int` `num_columns` of `0 ≤ C < 2^31` fits a vector. -/
theorem intToSize_lt_vectorMaxSize {C : Int} (h0 : 0 ≤ C) (h : C < 2 ^ 31) : intToSize C < vectorMaxSize := by
  unfold intToSize vectorMaxSize
  omega

/-- While `num_columns + 1` does not wrap and every index is below `num_columns`, the
transpose succeeds, and row `c` of the result is column `c` of the page. -/
theorem getTranspose_eq_ok (sched : StaticSchedule) {page : SparsePage} (hp : page.Valid) {n : Nat} (hn : 0 < n)
    {C : Int} (hidx : ∀ e ∈ page.data, e.index.toNat < intToSize C) (hfit : intToSize C < vectorMaxSize)
    (hE : intToSize (intAdd C 1) = intToSize C + 1) :
    getTranspose sched page C n = .ok (ofRows (transposeRows page (intToSize C)) 0) := by
  obtain ⟨hoff, hdata⟩ := transpose_session sched hp hn hidx
  have hoffset : (if page.data.isEmpty then List.replicate (intToSize C + 1) 0
      else (initStorage empty.offset empty.data (countPass 0 (initBudget (intToSize C) n)
        (transposePlacements sched page n))).1) = offsetsFrom 0 (transposeRows page (intToSize C)) := by
    split
    · rename_i h
      rw [transposeRows_of_data_nil hp (List.isEmpty_iff.mp h), offsetsFrom_replicate_nil]
    · exact hoff
  simp only [getTranspose, countPass_transposeBudgetCalls, budgetExtent, Bool.false_eq_true, if_false,
    Nat.sub_zero, if_neg (Nat.not_lt.mpr hfit.le), hoffset, hdata, length_offsetsFrom, length_transposeRows, hE,
    if_neg (Nat.not_lt.mpr hfit), if_true]
  rfl

/-- On a page with entries, when `num_columns + 1` wraps, the `CHECK_EQ` compares the
`num_columns + 1` offsets the builder laid out with the wrapped count, and raises. -/
theorem getTranspose_eq_error (sched : StaticSchedule) {page : SparsePage} (hp : page.Valid) {n : Nat}
    (hn : 0 < n) {C : Int} (hidx : ∀ e ∈ page.data, e.index.toNat < intToSize C) (hfit : intToSize C < vectorMaxSize)
    (hne : page.data ≠ []) (hE : intToSize (intAdd C 1) ≠ intToSize C + 1) :
    getTranspose sched page C n = .error (.offsetSize (intToSize C + 1) (intToSize (intAdd C 1))) := by
  obtain ⟨hoff, -⟩ := transpose_session sched hp hn hidx
  have hE' : intToSize C + 1 ≠ intToSize (intAdd C 1) := Ne.symm hE
  simp only [getTranspose, countPass_transposeBudgetCalls, budgetExtent, Bool.false_eq_true, if_false,
    Nat.sub_zero, if_neg (Nat.not_lt.mpr hfit.le), hoff, List.isEmpty_iff, hne, length_offsetsFrom,
    length_transposeRows, if_neg (Nat.not_lt.mpr hfit), hE', if_false]

theorem exists_mem_inst {page : SparsePage} (hp : page.Valid) {e : Entry} (he : e ∈ page.data) :
    ∃ i < page.size, e ∈ page.inst i := by
  rw [hp.data_eq] at he
  obtain ⟨r, hr, her⟩ := List.mem_flatten.mp he
  obtain ⟨i, hi, rfl⟩ := List.getElem_of_mem hr
  exact ⟨i, hp.length_rows ▸ hi, by rwa [hp.inst_eq, List.getD_eq_getElem _ _ hi]⟩

/-- An index at or past the wrapped `num_columns + 1` makes the builder lay out at least
that many groups: on such a page the `CHECK_EQ` raises. -/
theorem getTranspose_error_of_le_index (sched : StaticSchedule) {page : SparsePage} (hp : page.Valid) {n : Nat}
    (hn : 0 < n) {C : Int} (hfit : intToSize C < vectorMaxSize) {e : Entry} (he : e ∈ page.data)
    (hE : intToSize (intAdd C 1) ≤ e.index.toNat + 1) :
    ∃ k, getTranspose sched page C n = .error (.offsetSize k (intToSize (intAdd C 1))) := by
  obtain ⟨i, hi, hei⟩ := exists_mem_inst hp he
  obtain ⟨tid, htid, hit⟩ : ∃ tid < n, i ∈ sched.iterations page.size n tid := by
    have : i ∈ (List.range n).flatMap (sched.iterations page.size n) := by
      rw [sched.flatMap_iterations _ hn]
      exact List.mem_range.mpr hi
    simpa using this
  have hw : (⟨tid, e.index.toNat, ⟨UInt32.ofNat (page.baseRowid.toNat + i), e.fvalue⟩⟩ : Placement Entry) ∈
      transposePlacements sched page n := by
    simp only [transposePlacements, List.mem_flatMap, List.mem_range, List.mem_map]
    exact ⟨tid, htid, i, hit, e, hei, rfl⟩
  have hgroups : e.index.toNat < numGroups (countPass 0 (initBudget (intToSize C) n) (transposePlacements sched page n)) := by
    rw [numGroups_countPass 0 _ hn _ fun w hw => (mem_transposePlacements hw).1]
    simpa using (lt_groupsNeeded hw : _ - 0 < groupsNeeded 0 (intToSize C) _)
  have hne : page.data.isEmpty = false := List.isEmpty_eq_false.mpr (List.ne_nil_of_mem he)
  have hlen : (initStorage empty.offset empty.data
      (countPass 0 (initBudget (intToSize C) n) (transposePlacements sched page n))).1.length ≠
        intToSize (intAdd C 1) := by
    simp only [initStorage, empty, List.length_append, List.length_map, List.length_range, List.length_singleton]
    omega
  have hbound : numGroups (countPass 0 (initBudget (intToSize C) n) (transposePlacements sched page n)) ≤
      max (intToSize C) UInt32.size := by
    rw [numGroups_countPass 0 _ hn _ fun w hw => (mem_transposePlacements hw).1]
    refine groupsNeeded_le (Nat.le_max_left _ _) fun w hw => ?_
    obtain ⟨-, e, -, hk⟩ := mem_transposePlacements hw
    rw [hk, Nat.sub_zero]
    exact e.index.toNat_lt_size.trans_le (Nat.le_max_right _ _)
  have hmax : ¬vectorMaxSize < (initStorage empty.offset empty.data
      (countPass 0 (initBudget (intToSize C) n) (transposePlacements sched page n))).1.length := by
    simp only [initStorage, empty, List.length_append, List.length_map, List.length_range, List.length_singleton]
    simp only [vectorMaxSize, UInt32.size] at hbound hfit ⊢
    omega
  simp only [getTranspose, countPass_transposeBudgetCalls, budgetExtent, Nat.sub_zero, Bool.false_eq_true,
    if_false, if_neg (Nat.not_lt.mpr hfit.le), hne, if_neg hmax, if_neg hlen]
  exact ⟨_, rfl⟩

theorem getD_transposeRows (page : SparsePage) {C c : Nat} (hc : c < C) :
    (transposeRows page C).getD c [] = transposeColumn page.rows page.baseRowid.toNat c := by
  simp [transposeRows, List.getD_eq_getElem?_getD, hc]

/-! ## The transpose of a page -/

/-- `GetTranspose(C, n_threads)` for `0 ≤ C < INT_MAX`, on a page whose indices are below
`C` and whose row ids fit the 32-bit index: a valid page of `C` rows, row `c` holding
`(base_rowid + i, v)` for every entry `(c, v)` of row `i`, row after row, so sorted by
index; as many entries as the page; all offsets zero when the page has no entries. -/
theorem getTranspose_columns (sched : StaticSchedule) {page : SparsePage} (hp : page.Valid) {n : Nat} (hn : 0 < n)
    {C : Int} (hC0 : 0 ≤ C) (hC : C < 2 ^ 31 - 1) (hidx : ∀ e ∈ page.data, e.index.toNat < C.toNat)
    (hbase : page.baseRowid.toNat + page.size ≤ 2 ^ 32) :
    ∃ T, getTranspose sched page C n = .ok T ∧ T.Valid ∧ T.offset.length = C.toNat + 1 ∧
      (∀ c < C.toNat, (T.inst c).map (fun e => (e.index.toNat, e.fvalue)) =
        (List.range page.size).flatMap fun i =>
          ((page.inst i).filter (·.index.toNat == c)).map fun e => (page.baseRowid.toNat + i, e.fvalue)) ∧
      T.data.length = page.data.length ∧ (page.data = [] → T.offset = List.replicate (C.toNat + 1) 0) ∧
      ∀ c < C.toNat, isSorted Entry.cmpIndex (T.inst c) = true := by
  have hS : intToSize C = C.toNat := intToSize_of_nonneg hC0 (by omega)
  have hok := getTranspose_eq_ok sched hp hn (hS ▸ hidx) (intToSize_lt_vectorMaxSize hC0 (by omega))
    (by rw [intAdd_one hC0 hC, hS])
  rw [hS] at hok
  have hb : page.baseRowid.toNat + page.rows.length ≤ 2 ^ 32 := hp.length_rows ▸ hbase
  refine ⟨_, hok, valid_ofRows _ _, by simp, fun c hc => ?_, length_flatten_transposeRows hp hidx,
    fun h => by simp [transposeRows_of_data_nil hp h, offsetsFrom_replicate_nil], fun c hc => ?_⟩
  · rw [inst_ofRows, getD_transposeRows page hc, map_transposeColumn hb, hp.length_rows]
    simp only [← hp.inst_eq]
  · rw [inst_ofRows, getD_transposeRows page hc, isSorted_cmpIndex_iff]
    exact pairwise_transposeColumn hb c

/-- A one-entry page transposed into one column. -/
theorem getTranspose_columns_oneEntry :
    (⟨[0, 1], [⟨0, F32.one⟩], 0⟩ : SparsePage).Valid ∧ ((0 : UInt64).toNat + 1 ≤ 2 ^ 32) ∧
      ∃ T, getTranspose StaticSchedule.even ⟨[0, 1], [⟨0, F32.one⟩], 0⟩ 1 1 = .ok T ∧ T.Valid ∧
        T.offset.length = (1 : Int).toNat + 1 ∧
        (∀ c < (1 : Int).toNat, (T.inst c).map (fun e => (e.index.toNat, e.fvalue)) =
          (List.range 1).flatMap fun i =>
            (((⟨[0, 1], [⟨0, F32.one⟩], 0⟩ : SparsePage).inst i).filter (·.index.toNat == c)).map
              fun e => ((0 : UInt64).toNat + i, e.fvalue)) ∧
        T.data.length = 1 ∧ ([⟨0, F32.one⟩] = ([] : List Entry) → T.offset = List.replicate ((1 : Int).toNat + 1) 0) ∧
        ∀ c < (1 : Int).toNat, isSorted Entry.cmpIndex (T.inst c) = true := by
  have hv : (⟨[0, 1], [⟨0, F32.one⟩], 0⟩ : SparsePage).Valid := by decide
  exact ⟨hv, by decide, getTranspose_columns StaticSchedule.even hv Nat.one_pos (by decide) (by decide)
    (by decide) (by decide)⟩

/-- At `num_columns = INT_MAX`, `num_columns + 1` wraps to `INT_MIN`, which converts to
`2^64 - 2^31` as a `std::size_t`: on a page with one entry the `CHECK_EQ` fails. -/
theorem getTranspose_intMax_raises :
    (⟨[0, 1], [⟨0, F32.one⟩], 0⟩ : SparsePage).Valid ∧ (∀ e ∈ [(⟨0, F32.one⟩ : Entry)], e.index.toNat < 2 ^ 31 - 1) ∧
      getTranspose StaticSchedule.even ⟨[0, 1], [⟨0, F32.one⟩], 0⟩ (2 ^ 31 - 1) 1 =
        .error (.offsetSize (2 ^ 31) (2 ^ 64 - 2 ^ 31)) := by
  have hv : (⟨[0, 1], [⟨0, F32.one⟩], 0⟩ : SparsePage).Valid := by decide
  have hidx : ∀ e ∈ [(⟨0, F32.one⟩ : Entry)], e.index.toNat < intToSize (2 ^ 31 - 1) := by decide
  refine ⟨hv, by decide, ?_⟩
  rw [getTranspose_eq_error StaticSchedule.even hv Nat.one_pos hidx (by decide) (List.cons_ne_nil _ _) (by decide)]
  rfl

/-! ## The row number in the entry index -/

/-- On a page without entries, once `InitBudget` has its counters: `num_columns + 1`
zero offsets and no entries, or the `length_error` of `Resize` when that count is past
`max_size()`. -/
theorem getTranspose_of_data_nil (sched : StaticSchedule) {page : SparsePage} (hp : page.Valid) {n : Nat}
    (hn : 0 < n) (h : page.data = []) {C : Int} (hfit : intToSize C ≤ vectorMaxSize) :
    getTranspose sched page C n = if vectorMaxSize < intToSize (intAdd C 1)
      then .error (.lengthError (intToSize (intAdd C 1))) else .ok ⟨List.replicate (intToSize (intAdd C 1)) 0, [], 0⟩ := by
  obtain ⟨-, hdata⟩ := transpose_session sched hp hn (C := intToSize C) fun e he => absurd (h ▸ he) (List.not_mem_nil e)
  rw [transposeRows_of_data_nil hp h, List.flatten_replicate_nil] at hdata
  simp only [getTranspose, countPass_transposeBudgetCalls, budgetExtent, Bool.false_eq_true, if_false,
    Nat.sub_zero, if_neg (Nat.not_lt.mpr hfit), h, List.isEmpty_nil, if_true, hdata, List.length_replicate]

/-- A negative `int` `num_columns` converts to at least `2^64 - 2^31` counters per
thread: `InitBudget` throws `std::length_error`, whatever the page. -/
theorem getTranspose_of_neg (sched : StaticSchedule) (page : SparsePage) (n : Nat) {C : Int} (hlo : -2 ^ 31 ≤ C)
    (h : C < 0) : getTranspose sched page C n = .error (.lengthError (intToSize C)) := by
  have hbig : vectorMaxSize < intToSize C := by
    unfold intToSize vectorMaxSize
    omega
  simp only [getTranspose, budgetExtent, Bool.false_eq_true, if_false, Nat.sub_zero, if_pos hbig]

theorem inst_of_data_nil {page : SparsePage} (h : page.data = []) (i : Nat) : page.inst i = [] := by
  simp [inst, h]

/-- No entry reaches a column at or past every index. -/
theorem filter_inst_of_le {page : SparsePage} {c : Nat} (h : ∀ e ∈ page.data, e.index.toNat < c) (i : Nat) :
    (page.inst i).filter (·.index.toNat == c) = [] :=
  List.filter_eq_nil_iff.mpr fun e he => by
    have := h e (mem_data_of_mem_inst he)
    simp only [beq_iff_eq]
    omega

/-- A page of one entry at global row `2^32`: the transpose stores that row number as
index `0`. -/
theorem getTranspose_rowid_truncated :
    (⟨[0, 1], [⟨0, F32.one⟩], 4294967296⟩ : SparsePage).Valid ∧
      (∀ e ∈ [(⟨0, F32.one⟩ : Entry)], (e.index.toNat : Int) < 1) ∧
      getTranspose StaticSchedule.even ⟨[0, 1], [⟨0, F32.one⟩], 4294967296⟩ 1 1 = .ok ⟨[0, 1], [⟨0, F32.one⟩], 0⟩ := by
  have hv : (⟨[0, 1], [⟨0, F32.one⟩], 4294967296⟩ : SparsePage).Valid := by decide
  refine ⟨hv, by decide, ?_⟩
  rw [getTranspose_eq_ok StaticSchedule.even hv Nat.one_pos (by decide) (by decide) (by decide)]
  rfl

/-- `GetTranspose(C, n_threads)`, for every `int` `C` above every index, returns normally
exactly when `0 ≤ C < INT_MAX`, and then returns rows whose entries carry the source row
number cast to the 32-bit index, `(base_rowid + i) mod 2^32`, row after row. -/
theorem getTranspose_index_mod (sched : StaticSchedule) {page : SparsePage} (hp : page.Valid) {n : Nat} (hn : 0 < n)
    {C : Int} (hC : -2 ^ 31 ≤ C ∧ C < 2 ^ 31) (hidx : ∀ e ∈ page.data, (e.index.toNat : Int) < C) :
    ((∃ T, getTranspose sched page C n = .ok T) ↔ 0 ≤ C ∧ C < 2 ^ 31 - 1) ∧
    ∀ T, getTranspose sched page C n = .ok T → ∀ c, (T.inst c).map (fun e => (e.index.toNat, e.fvalue)) =
      (List.range page.size).flatMap fun i =>
        ((page.inst i).filter (·.index.toNat == c)).map fun e => ((page.baseRowid.toNat + i) % 2 ^ 32, e.fvalue) := by
  rcases Int.lt_or_le C 0 with hneg | hC0
  · rw [getTranspose_of_neg sched page n hC.1 hneg]
    exact ⟨iff_of_false (fun ⟨_, h⟩ => nomatch h) fun h => absurd h.1 (Int.not_le.mpr hneg), fun T hT => nomatch hT⟩
  have hfit := intToSize_lt_vectorMaxSize hC0 hC.2
  by_cases hd : page.data = []
  · rw [getTranspose_of_data_nil sched hp hn hd hfit.le]
    by_cases hlt : C < 2 ^ 31 - 1
    case neg =>
      obtain rfl : C = 2 ^ 31 - 1 := by omega
      rw [if_pos (by decide)]
      exact ⟨iff_of_false (fun ⟨_, h⟩ => nomatch h) fun h => hlt h.2, fun T hT => nomatch hT⟩
    rw [if_neg (by rw [intAdd_one hC0 hlt]; unfold vectorMaxSize; omega)]
    refine ⟨iff_of_true ⟨_, rfl⟩ ⟨hC0, hlt⟩, fun T hT c => ?_⟩
    obtain rfl := Except.ok.inj hT
    have hrow : ∀ i, (page.inst i).filter (·.index.toNat == c) = [] := fun i => by rw [inst_of_data_nil hd]; rfl
    simp only [hrow, List.map_nil]
    simp [inst]
  have hidx' : ∀ e ∈ page.data, e.index.toNat < intToSize C := fun e he => by
    have := hidx e he
    rw [intToSize_of_nonneg hC0 (by omega)]
    omega
  by_cases hlt : C < 2 ^ 31 - 1
  case pos =>
    have hok := getTranspose_eq_ok sched hp hn hidx' hfit
      (by rw [intAdd_one hC0 hlt, intToSize_of_nonneg hC0 (by omega)])
    refine ⟨iff_of_true ⟨_, hok⟩ ⟨hC0, hlt⟩, fun T hT c => ?_⟩
    obtain rfl := Except.ok.inj (hT.symm.trans hok)
    rw [inst_ofRows]
    by_cases hc : c < intToSize C
    · rw [getD_transposeRows page hc, map_transposeColumn_mod, hp.length_rows]
      simp only [← hp.inst_eq]
    · rw [List.getD_eq_getElem?_getD, List.getElem?_eq_none (by simpa using hc)]
      simp [filter_inst_of_le fun e he => (hidx' e he).trans_le (Nat.le_of_not_lt hc)]
  case neg =>
    have hE : intToSize (intAdd C 1) ≠ intToSize C + 1 := by
      obtain rfl : C = 2 ^ 31 - 1 := by omega
      decide
    rw [getTranspose_eq_error sched hp hn hidx' hfit hd hE]
    exact ⟨iff_of_false (fun ⟨_, h⟩ => nomatch h) fun h => hlt h.2, fun T hT => nomatch hT⟩

/-- The page of one entry at global row `2^32`, transposed into one column. -/
theorem getTranspose_index_mod_rowid :
    (⟨[0, 1], [⟨0, F32.one⟩], 4294967296⟩ : SparsePage).Valid ∧ (-2 ^ 31 ≤ (1 : Int) ∧ (1 : Int) < 2 ^ 31) ∧
      (∀ e ∈ [(⟨0, F32.one⟩ : Entry)], (e.index.toNat : Int) < 1) ∧
      ((∃ T, getTranspose StaticSchedule.even ⟨[0, 1], [⟨0, F32.one⟩], 4294967296⟩ 1 1 = .ok T) ↔
        0 ≤ (1 : Int) ∧ (1 : Int) < 2 ^ 31 - 1) ∧
      ∀ T, getTranspose StaticSchedule.even ⟨[0, 1], [⟨0, F32.one⟩], 4294967296⟩ 1 1 = .ok T →
        ∀ c, (T.inst c).map (fun e => (e.index.toNat, e.fvalue)) =
          (List.range 1).flatMap fun i =>
            (((⟨[0, 1], [⟨0, F32.one⟩], 4294967296⟩ : SparsePage).inst i).filter (·.index.toNat == c)).map
              fun e => ((4294967296 + i) % 2 ^ 32, e.fvalue) := by
  have hv : (⟨[0, 1], [⟨0, F32.one⟩], 4294967296⟩ : SparsePage).Valid := by decide
  exact ⟨hv, by decide, by decide, getTranspose_index_mod StaticSchedule.even hv Nat.one_pos (by decide) (by decide)⟩

end SparsePage

end XGBoostData
