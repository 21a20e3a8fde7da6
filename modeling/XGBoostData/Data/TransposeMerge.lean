import XGBoostData.Data.Transpose
import XGBoostData.Data.PushCSC

/-!
# Transposing page by page (data.cc, `GetTranspose`, `Push`, `PushCSC`)

WHAT THIS FILE IS FOR.  A column page can be built in two ways: push the row pages into
one (`SparsePage::Push`) and transpose it (`GetTranspose`), or transpose each row page
and merge the column pages with `PushCSC`, which appends each column of the second after
the same column of the first.  `getTranspose_foldl_pushPage` proves the two agree, over
any sequence of pages that hold consecutive rows.  Either way the column page needs no
`SortIndices`: `IsIndicesSorted` accepts what `GetTranspose` returns
(`isIndicesSorted_getTranspose`).

THE EMPTY PAGE.  `PushCSC` of a page without entries onto one with entries keeps the
entries under the other page's offsets (`pushCSC_empty_other_keeps_data`), so the
agreement asks that no page without entries follow one with entries.
-/

set_option autoImplicit false

namespace XGBoostData

namespace SparsePage

/-- Column `c` of rows `rs` then `qs`: column `c` of `rs`, then column `c` of `qs` with
its row ids counted on from the end of `rs`. -/
theorem transposeColumn_append (rs qs : List (List Entry)) (base c : Nat) :
    transposeColumn (rs ++ qs) base c = transposeColumn rs base c ++ transposeColumn qs (base + rs.length) c := by
  unfold transposeColumn
  rw [List.length_append, List.range_add, List.flatMap_append, List.flatMap_map]
  congr 1
  · refine List.flatMap_congr fun i hi => ?_
    rw [List.getD_append _ _ _ _ (List.mem_range.mp hi)]
  · refine List.flatMap_congr fun j _ => ?_
    rw [List.getD_append_right _ _ _ _ (Nat.le_add_right _ _), Nat.add_sub_cancel_left, Nat.add_assoc]

/-- The transpose of `B` pushed onto `A`, when `B`'s rows follow `A`'s: row by row of the
transpose, `A`'s column then `B`'s. -/
theorem transposeRows_pushPage {A B : SparsePage} (hA : A.Valid) (hB : B.Valid)
    (hbase : B.baseRowid.toNat = A.baseRowid.toNat + A.size) (C : Nat) :
    transposeRows (pushPage A B) C = List.zipWith (· ++ ·) (transposeRows A C) (transposeRows B C) := by
  rw [pushPage_eq_ofRows hA hB]
  unfold transposeRows
  rw [List.zipWith_map, List.zipWith_same, rows_ofRows, ofRows_baseRowid]
  refine List.map_congr_left fun c _ => ?_
  rw [transposeColumn_append, hbase, hA.length_rows]

/-- The entries of `A.Push(B)`: `A`'s, then `B`'s. -/
theorem data_pushPage {A B : SparsePage} (hA : A.Valid) (hB : B.Valid) :
    (pushPage A B).data = A.data ++ B.data := by
  rw [pushPage_eq_ofRows hA hB, ofRows_data, List.flatten_append, ← hA.data_eq, ← hB.data_eq]

/-- The row after the last of `A.Push(B)`. -/
theorem next_pushPage {A B : SparsePage} (hA : A.Valid) (hB : B.Valid) :
    (pushPage A B).baseRowid.toNat + (pushPage A B).size = A.baseRowid.toNat + A.size + B.size := by
  rw [pushPage_eq_ofRows hA hB, ofRows_baseRowid, size_ofRows, List.length_append, hA.length_rows,
    hB.length_rows, Nat.add_assoc]

/-- `GetTranspose(C)` for `0 ≤ C < INT_MAX`, on a valid page whose indices are below
`C`: the page of the columns. -/
theorem getTranspose_ok (sched : StaticSchedule) {p : SparsePage} (hp : p.Valid) {n : Nat} (hn : 0 < n)
    {C : Int} (hC0 : 0 ≤ C) (hC : C < 2 ^ 31 - 1) (hidx : ∀ e ∈ p.data, e.index.toNat < C.toNat) :
    getTranspose sched p C n = .ok (ofRows (transposeRows p C.toNat) 0) := by
  have hS : intToSize C = C.toNat := intToSize_of_nonneg hC0 (by omega)
  rw [← hS]
  exact getTranspose_eq_ok sched hp hn (hS ▸ hidx) (intToSize_lt_vectorMaxSize hC0 (by omega))
    (by rw [intAdd_one hC0 hC, hS])

/-- A column page needs no `SortIndices`: on a page with fewer than `2^31 - 1` columns,
whose indices are below `num_columns` and whose row ids fit the 32-bit index,
`GetTranspose` returns a page that `IsIndicesSorted` accepts for every thread count. -/
theorem isIndicesSorted_getTranspose (sched : StaticSchedule) {page : SparsePage} (hp : page.Valid) {n : Nat}
    (hn : 0 < n) {C : Int} (hC0 : 0 ≤ C) (hC : C < 2 ^ 31 - 1) (hidx : ∀ e ∈ page.data, e.index.toNat < C.toNat)
    (hbase : page.baseRowid.toNat + page.size ≤ 2 ^ 32) (m : Nat) :
    ∃ T, getTranspose sched page C n = .ok T ∧ isIndicesSorted sched T m = true := by
  refine ⟨_, getTranspose_ok sched hp hn hC0 hC hidx,
    (isIndicesSorted_iff_of_lt sched _ m (by rw [size_ofRows, length_transposeRows]; omega)).mpr fun c hc => ?_⟩
  rw [size_ofRows, length_transposeRows] at hc
  rw [inst_ofRows, getD_transposeRows page hc, isSorted_cmpIndex_iff]
  exact pairwise_transposeColumn (hp.length_rows ▸ hbase) c

/-- Two rows with an entry in column 0 each, transposed and checked by four threads. -/
theorem isIndicesSorted_getTranspose_twoRows :
    ∃ T, getTranspose StaticSchedule.even ⟨[0, 1, 2], [⟨0, F32.one⟩, ⟨0, F32.two⟩], 0⟩ 1 1 = .ok T ∧
      isIndicesSorted StaticSchedule.even T 4 = true :=
  isIndicesSorted_getTranspose StaticSchedule.even (by decide) Nat.one_pos (by decide) (by decide) (by decide)
    (by decide) 4

/-- One merge step: `PushCSC` of the transposes of `A` and `B`, when `B`'s rows follow
`A`'s and `B` has entries whenever `A` has, is the transpose of `A.Push(B)`. -/
theorem pushCSC_transpose_pushPage {A B : SparsePage} (hA : A.Valid) (hB : B.Valid) {C : Int}
    (hidxA : ∀ e ∈ A.data, e.index.toNat < C.toNat) (hidxB : ∀ e ∈ B.data, e.index.toNat < C.toNat)
    (hbase : B.baseRowid.toNat = A.baseRowid.toNat + A.size) (hsafe : B.data = [] → A.data = []) :
    pushCSC (ofRows (transposeRows A C.toNat) 0) (ofRows (transposeRows B C.toNat) 0) =
      .ok (ofRows (transposeRows (pushPage A B) C.toNat) 0) := by
  have hnil : ∀ {p : SparsePage}, p.Valid → (∀ e ∈ p.data, e.index.toNat < C.toNat) →
      ((ofRows (transposeRows p C.toNat) 0).data = [] ↔ p.data = []) := fun hp hidx => by
    rw [ofRows_data, ← List.length_eq_zero, length_flatten_transposeRows hp hidx, List.length_eq_zero]
  rw [transposeRows_pushPage hA hB hbase, pushCSC_eq_ofRows (valid_ofRows _ _) (valid_ofRows _ _) (by simp)
    fun h => (hnil hA hidxA).mpr (hsafe ((hnil hB hidxB).mp h)), rows_ofRows, rows_ofRows, ofRows_baseRowid]

/-- Pushing the second page onto the first keeps every page without entries before every
page with entries. -/
theorem pairwise_pushPage {A p : SparsePage} (hA : A.Valid) (hp : p.Valid) {ps : List SparsePage}
    (h : (A :: p :: ps).Pairwise fun p q => p.data ≠ [] → q.data ≠ []) :
    (pushPage A p :: ps).Pairwise fun p q => p.data ≠ [] → q.data ≠ [] := by
  obtain ⟨hA_later, hpair⟩ := List.pairwise_cons.mp h
  obtain ⟨hp_later, hps⟩ := List.pairwise_cons.mp hpair
  refine List.pairwise_cons.mpr ⟨fun q hq hne => ?_, hps⟩
  rw [data_pushPage hA hp] at hne
  by_cases hAd : A.data = []
  · exact hp_later q hq (by simpa [hAd] using hne)
  · exact hA_later q (List.mem_cons_of_mem p hq) hAd

/-- The pages hold consecutive rows from global row `next` on: each page's `base_rowid`
is the row after the last of the pages before it. -/
def Consecutive : Nat → List SparsePage → Prop
  | _, [] => True
  | next, p :: ps => p.baseRowid.toNat = next ∧ Consecutive (next + p.size) ps

/-- Building the column page batch by batch.  Over row pages that hold consecutive rows,
with indices below `num_columns` (`0 ≤ num_columns < INT_MAX`), in which no page without
entries follows one with entries: `GetTranspose` of each page, merged in order by
`PushCSC`, is `GetTranspose` of the pages pushed one after another with `Push`. -/
theorem getTranspose_foldl_pushPage (sched : StaticSchedule) {n : Nat} (hn : 0 < n) {C : Int} (hC0 : 0 ≤ C)
    (hC : C < 2 ^ 31 - 1) : ∀ (pages : List SparsePage) {A : SparsePage}, A.Valid → (∀ p ∈ pages, p.Valid) →
      (∀ p ∈ A :: pages, ∀ e ∈ p.data, e.index.toNat < C.toNat) →
      Consecutive (A.baseRowid.toNat + A.size) pages →
      (A :: pages).Pairwise (fun p q => p.data ≠ [] → q.data ≠ []) →
      ∃ TA Ts T, getTranspose sched A C n = .ok TA ∧ pages.mapM (fun p => getTranspose sched p C n) = .ok Ts ∧
        getTranspose sched (pages.foldl pushPage A) C n = .ok T ∧ Ts.foldlM pushCSC TA = .ok T
  | [], A, hA, _, hidx, _, _ =>
    have hTA := getTranspose_ok sched hA hn hC0 hC (hidx A (List.mem_singleton_self A))
    ⟨_, [], _, hTA, rfl, hTA, rfl⟩
  | p :: ps, A, hA, hps, hidx, ⟨hbase, hcons⟩, hpair => by
    have hp := hps p (List.mem_cons_self p ps)
    have hidxA := hidx A (List.mem_cons_self _ _)
    have hidxp := hidx p (List.mem_cons_of_mem _ (List.mem_cons_self p ps))
    have hAp : (pushPage A p).Valid := pushPage_eq_ofRows hA hp ▸ valid_ofRows _ _
    have hidxAp : ∀ e ∈ (pushPage A p).data, e.index.toNat < C.toNat := fun e he => by
      rw [data_pushPage hA hp] at he
      exact (List.mem_append.mp he).elim (hidxA e) (hidxp e)
    obtain ⟨TA', Ts, T, hTA', hTs, hT, hfold⟩ := getTranspose_foldl_pushPage sched hn hC0 hC ps hAp
      (fun q hq => hps q (List.mem_cons_of_mem p hq))
      (fun q hq => (List.mem_cons.mp hq).elim (fun h => h ▸ hidxAp)
        fun hq => hidx q (List.mem_cons_of_mem _ (List.mem_cons_of_mem _ hq)))
      (by rwa [next_pushPage hA hp]) (pairwise_pushPage hA hp hpair)
    obtain rfl := Except.ok.inj (hTA'.symm.trans (getTranspose_ok sched hAp hn hC0 hC hidxAp))
    refine ⟨_, ofRows (transposeRows p C.toNat) 0 :: Ts, T, getTranspose_ok sched hA hn hC0 hC hidxA, ?_, hT, ?_⟩
    · rw [List.mapM_cons, getTranspose_ok sched hp hn hC0 hC hidxp, hTs]
      rfl
    · rw [List.foldlM_cons, pushCSC_transpose_pushPage hA hp hidxA hidxp hbase
        (fun h => by_contra fun hAd => (List.pairwise_cons.mp hpair).1 p (List.mem_cons_self p ps) hAd h)]
      exact hfold

/-- A page of one entry in column 0 and, after it, a page of one entry in column 1:
merged column by column they give the transpose of the two rows. -/
theorem getTranspose_foldl_pushPage_twoPages :
    ∃ TA Ts T, getTranspose StaticSchedule.even ⟨[0, 1], [⟨0, F32.one⟩], 0⟩ 2 1 = .ok TA ∧
      [(⟨[0, 1], [⟨1, F32.two⟩], 1⟩ : SparsePage)].mapM (fun p => getTranspose StaticSchedule.even p 2 1) =
        .ok Ts ∧
      getTranspose StaticSchedule.even
        ([(⟨[0, 1], [⟨1, F32.two⟩], 1⟩ : SparsePage)].foldl pushPage ⟨[0, 1], [⟨0, F32.one⟩], 0⟩) 2 1 = .ok T ∧
      Ts.foldlM pushCSC TA = .ok T :=
  getTranspose_foldl_pushPage StaticSchedule.even Nat.one_pos (by decide) (by decide) _ (by decide) (by decide)
    (by decide) ⟨by decide, trivial⟩ (by decide)

end SparsePage

end XGBoostData
