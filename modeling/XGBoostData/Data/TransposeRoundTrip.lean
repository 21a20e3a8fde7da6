import XGBoostData.Data.Transpose

/-!
# Transposing twice (spec §4.5)

WHAT THIS FILE IS FOR.  The spec promises that `GetTranspose(GetTranspose(P, C), Size())`
gives the page back up to the order inside rows.  The order is in fact determined.
Column `c` of the first transpose lists the rows that hold index `c`, in row order, and
the second transpose walks the columns in order.  So row `i` comes back as its entries
of index `0`, then those of index `1`, and so on, each in the order it had: row `i`
stably sorted by index (`bucketByIndex`).  A page whose rows are sorted by index, as
`IsIndicesSorted` reports it, comes back unchanged (`getTranspose_twice`).

THE ROW COUNT.  The second call passes `Size()` as the `int` `num_columns`.  At `2^32`
rows the conversion gives `0`; the builder still lays out one column for the entries of
row 0, and the `CHECK_EQ` raises (`getTranspose_twice_wraps`).
-/

set_option autoImplicit false

namespace XGBoostData

open GroupBuilder

namespace SparsePage

/-! ## Stable sorting by index -/

/-- Row `r` bucketed by index below `C`: its entries of index `0`, then those of index
`1`, and so on, each bucket in the row's order. -/
def bucketByIndex (C : Nat) (r : List Entry) : List Entry :=
  (List.range C).flatMap fun c => r.filter (·.index.toNat == c)

/-- `r'` is `r` stably sorted by index: sorted by index, and the entries of each index in
the order they have in `r`. -/
def StableSortedByIndex (r r' : List Entry) : Prop :=
  r'.Pairwise (fun a b => a.index.toNat ≤ b.index.toNat) ∧
    ∀ c, r'.filter (·.index.toNat == c) = r.filter (·.index.toNat == c)

theorem filter_bucketByIndex (C : Nat) (r : List Entry) {c : Nat} (hc : c < C) :
    (bucketByIndex C r).filter (·.index.toNat == c) = r.filter (·.index.toNat == c) := by
  have hbucket : ∀ c' ∈ List.range C, (r.filter (·.index.toNat == c')).filter (·.index.toNat == c) =
      if c' = c then r.filter (·.index.toNat == c) else [] := fun c' _ => by
    split
    · subst_vars
      exact List.filter_eq_self.mpr fun e he => (List.mem_filter.mp he).2
    · refine List.filter_eq_nil_iff.mpr fun e he => ?_
      have := (List.mem_filter.mp he).2
      simp only [beq_iff_eq] at this ⊢
      omega
  rw [bucketByIndex, List.filter_flatMap, List.flatMap_congr hbucket, flatMap_range_ite _ _ hc]

theorem pairwise_bucketByIndex (C : Nat) (r : List Entry) :
    (bucketByIndex C r).Pairwise fun a b => a.index.toNat ≤ b.index.toNat := by
  refine List.pairwise_flatMap.mpr ⟨fun c _ => List.pairwise_of_forall_mem_list fun a ha b hb => ?_,
    (List.pairwise_lt_range _).imp fun hcc a ha b hb => ?_⟩
  all_goals
    have h1 := (List.mem_filter.mp ha).2
    have h2 := (List.mem_filter.mp hb).2
    simp only [beq_iff_eq] at h1 h2
    omega

/-- With every index below `C`, bucketing is a stable sort by index. -/
theorem stableSortedByIndex_bucketByIndex {C : Nat} {r : List Entry} (hC : ∀ e ∈ r, e.index.toNat < C) :
    StableSortedByIndex r (bucketByIndex C r) := by
  refine ⟨pairwise_bucketByIndex C r, fun c => ?_⟩
  rcases Nat.lt_or_ge c C with hc | hc
  · exact filter_bucketByIndex C r hc
  · have hnone : ∀ l : List Entry, (∀ e ∈ l, e.index.toNat < C) → l.filter (·.index.toNat == c) = [] :=
      fun l hl => List.filter_eq_nil_iff.mpr fun e he => by
        have := hl e he
        simp only [beq_iff_eq]
        omega
    rw [hnone r hC, hnone _ fun e he => ?_]
    obtain ⟨c', hc', he'⟩ := List.mem_flatMap.mp he
    have := (List.mem_filter.mp he').2
    simp only [beq_iff_eq] at this
    exact this ▸ List.mem_range.mp hc'

theorem bucketByIndex_perm {C : Nat} {r : List Entry} (hC : ∀ e ∈ r, e.index.toNat < C) :
    (bucketByIndex C r).Perm r :=
  flatMap_filter_key_perm_of_lt (fun e : Entry => e.index.toNat) hC

theorem filter_lt_append_filter_eq {r : List Entry} (hr : r.Pairwise fun a b => a.index.toNat ≤ b.index.toNat)
    (C : Nat) : r.filter (fun e => decide (e.index.toNat < C)) ++ r.filter (·.index.toNat == C) =
      r.filter fun e => decide (e.index.toNat < C + 1) := by
  induction r with
  | nil => rfl
  | cons a r ih =>
    obtain ⟨ha, hr⟩ := List.pairwise_cons.mp hr
    have ih := ih hr
    rcases Nat.lt_trichotomy a.index.toNat C with h | h | h
    · simp [List.filter_cons, h, Nat.ne_of_lt h, Nat.lt_succ_of_lt h, ih]
    · have hlow : r.filter (fun e => decide (e.index.toNat < C)) = [] :=
        List.filter_eq_nil_iff.mpr fun e he => by have := ha e he; simp only [decide_eq_true_eq]; omega
      rw [hlow, List.nil_append] at ih
      simp [List.filter_cons, h, ih, hlow]
    · simp [List.filter_cons, Nat.not_lt_of_gt h, Nat.ne_of_gt h, show ¬ a.index.toNat < C + 1 by omega, ih]

/-- Bucketing a row that is already sorted by index keeps it as it is. -/
theorem bucketByIndex_of_pairwise {C : Nat} {r : List Entry}
    (hr : r.Pairwise fun a b => a.index.toNat ≤ b.index.toNat) (hC : ∀ e ∈ r, e.index.toNat < C) :
    bucketByIndex C r = r := by
  have hlt : ∀ C, bucketByIndex C r = r.filter fun e => decide (e.index.toNat < C) := fun C => by
    induction C with
    | zero => simp [bucketByIndex]
    | succ C ih => rw [bucketByIndex, List.range_succ, List.flatMap_append, List.flatMap_singleton, ← bucketByIndex,
        ih, filter_lt_append_filter_eq hr]
  rw [hlt, List.filter_eq_self.mpr fun e he => decide_eq_true (hC e he)]

/-! ## The second transpose -/

theorem index_lt_of_mem_transposeColumn {rs : List (List Entry)} {base c : Nat} (hb : base + rs.length ≤ 2 ^ 32)
    {e : Entry} (he : e ∈ transposeColumn rs base c) : e.index.toNat < base + rs.length := by
  simp only [transposeColumn, List.mem_flatMap, List.mem_map, List.mem_range] at he
  obtain ⟨i, hi, e', -, rfl⟩ := he
  rw [UInt32.toNat_ofNat_of_lt (show _ < 4294967296 by omega)]
  omega

/-- Filtering column `c` by row `j` gives back the entries of index `c` of row `j`. -/
theorem filter_transposeColumn {rs : List (List Entry)} {base : Nat} (hb : base + rs.length ≤ 2 ^ 32) (c : Nat)
    {j : Nat} (hj : j < rs.length) :
    (transposeColumn rs base c).filter (·.index.toNat == base + j) =
      ((rs.getD j []).filter (·.index.toNat == c)).map fun e => ⟨UInt32.ofNat (base + j), e.fvalue⟩ := by
  have hrow : ∀ i ∈ List.range rs.length,
      ((((rs.getD i []).filter (·.index.toNat == c)).map fun e => (⟨UInt32.ofNat (base + i), e.fvalue⟩ : Entry)).filter
        (·.index.toNat == base + j)) =
      if i = j then ((rs.getD j []).filter (·.index.toNat == c)).map fun e => ⟨UInt32.ofNat (base + j), e.fvalue⟩
      else [] := fun i hi => by
    have hcast : (UInt32.ofNat (base + i)).toNat = base + i :=
      UInt32.toNat_ofNat_of_lt (show _ < 4294967296 by have := List.mem_range.mp hi; omega)
    split
    · subst_vars
      exact List.filter_eq_self.mpr fun e he => by obtain ⟨_, -, rfl⟩ := List.mem_map.mp he; simp [hcast]
    · exact List.filter_eq_nil_iff.mpr fun e he => by
        obtain ⟨_, -, rfl⟩ := List.mem_map.mp he
        simp only [hcast, beq_iff_eq]
        omega
  rw [transposeColumn, List.filter_flatMap, List.flatMap_congr hrow, flatMap_range_ite _ _ hj]

theorem ofNat_index_eq {c : Nat} {e : Entry} (h : e.index.toNat = c) : (⟨UInt32.ofNat c, e.fvalue⟩ : Entry) = e := by
  obtain ⟨idx, v⟩ := e
  subst h
  rw [UInt32.toNat.inj (UInt32.toNat_ofNat_of_lt idx.toNat_lt_size)]

/-- Row `j` of the transpose of the transpose of a page at row id 0 is row `j` of the
page bucketed by index. -/
theorem transposeColumn_transposeRows {page : SparsePage} (hb : page.baseRowid = 0)
    (hlen : page.rows.length ≤ 2 ^ 32) (C : Nat) {j : Nat} (hj : j < page.rows.length) :
    transposeColumn (transposeRows page C) 0 j = bucketByIndex C (page.rows.getD j []) := by
  have hb0 : page.baseRowid.toNat = 0 := by rw [hb]; rfl
  have hcol : ∀ c ∈ List.range (transposeRows page C).length,
      ((((transposeRows page C).getD c []).filter (·.index.toNat == j)).map
        fun e => (⟨UInt32.ofNat (0 + c), e.fvalue⟩ : Entry)) = (page.rows.getD j []).filter (·.index.toNat == c) :=
    fun c hc => by
      rw [length_transposeRows, List.mem_range] at hc
      have := filter_transposeColumn (by omega : 0 + page.rows.length ≤ 2 ^ 32) c hj
      rw [getD_transposeRows page hc, hb0, Nat.zero_add]
      simp only [Nat.zero_add] at this
      rw [this, List.map_map]
      exact (List.map_congr_left fun e he => show (⟨UInt32.ofNat c, e.fvalue⟩ : Entry) = e from
        ofNat_index_eq (by simpa using (List.mem_filter.mp he).2)).trans (List.map_id _)
  rw [transposeColumn, List.flatMap_congr hcol, length_transposeRows]
  rfl

theorem transposeRows_transposeRows {page : SparsePage} (hp : page.Valid) (hb : page.baseRowid = 0)
    (hsize : page.size ≤ 2 ^ 32) (C : Nat) :
    transposeRows (ofRows (transposeRows page C) 0) page.size = page.rows.map (bucketByIndex C) := by
  have hlen := hp.length_rows
  conv_rhs => rw [← map_getD_range page.rows [], List.map_map]
  rw [transposeRows, rows_ofRows, ofRows_baseRowid, hlen]
  exact List.map_congr_left fun j hj =>
    transposeColumn_transposeRows hb (by omega) C (by rw [hlen]; exact List.mem_range.mp hj)

/-! ## The round trip -/

/-- Every entry of the first transpose holds a row id of the page: its index is below
`base_rowid + Size()`. -/
theorem index_lt_of_mem_transposeRows {page : SparsePage} (hp : page.Valid)
    (hb : page.baseRowid.toNat + page.size ≤ 2 ^ 32) {C : Nat} {e : Entry} (he : e ∈ (transposeRows page C).flatten) :
    e.index.toNat < page.baseRowid.toNat + page.size := by
  obtain ⟨col, hcol, he⟩ := List.mem_flatten.mp he
  obtain ⟨c, -, rfl⟩ := List.mem_map.mp hcol
  rw [← hp.length_rows] at hb ⊢
  exact index_lt_of_mem_transposeColumn hb he

/-- Rows sorted by index, as `IsIndicesSorted` reports them, are their own bucketing. -/
theorem map_bucketByIndex_of_isIndicesSorted {sched : StaticSchedule} {page : SparsePage} (hp : page.Valid)
    {C : Nat} (hrow : ∀ r ∈ page.rows, ∀ e ∈ r, e.index.toNat < C) {t : Nat} (hsize : page.size < 2 ^ 31)
    (ht : isIndicesSorted sched page t = true) : page.rows.map (bucketByIndex C) = page.rows := by
  have hsorted := (isIndicesSorted_iff_of_lt sched page t hsize).mp ht
  refine (List.map_congr_left fun r hr => ?_).trans (List.map_id _)
  obtain ⟨i, hi, rfl⟩ := List.getElem_of_mem hr
  have := hsorted i (hp.length_rows ▸ hi)
  rw [hp.inst_eq, List.getD_eq_getElem _ _ hi, isSorted_cmpIndex_iff] at this
  exact bucketByIndex_of_pairwise this (hrow _ hr)

/-- For `0 ≤ C < INT_MAX` above every index and fewer than `INT_MAX` rows at row id 0,
both transposes succeed; the result has the page's offsets, and each of its rows is the
page's row stably sorted by index.  It is the page itself when `IsIndicesSorted` holds,
for any thread count. -/
theorem getTranspose_twice (sched : StaticSchedule) {page : SparsePage} (hp : page.Valid) (hb : page.baseRowid = 0)
    {C : Int} (hC0 : 0 ≤ C) (hC : C < 2 ^ 31 - 1) (hidx : ∀ e ∈ page.data, e.index.toNat < C.toNat)
    (hsize : page.size < 2 ^ 31 - 1) {t₁ t₂ : Nat} (ht₁ : 0 < t₁) (ht₂ : 0 < t₂) :
    ∃ T Q, getTranspose sched page C t₁ = .ok T ∧ getTranspose sched T (sizeToInt page.size) t₂ = .ok Q ∧
      Q.offset = page.offset ∧ Q.baseRowid = page.baseRowid ∧
      (∀ i < page.size, (Q.inst i).Perm (page.inst i) ∧ StableSortedByIndex (page.inst i) (Q.inst i)) ∧
      ∀ t, isIndicesSorted sched page t = true → Q = page := by
  have hS : intToSize C = C.toNat := intToSize_of_nonneg hC0 (by omega)
  have hT := getTranspose_eq_ok sched hp ht₁ (hS ▸ hidx) (intToSize_lt_vectorMaxSize hC0 (by omega))
    (by rw [intAdd_one hC0 hC, hS])
  rw [hS] at hT
  have hm : intToSize (sizeToInt page.size) = page.size := by
    rw [sizeToInt_of_lt (by omega), intToSize_of_nonneg (by omega) (by omega)]
    rfl
  have hb0 : page.baseRowid.toNat = 0 := by rw [hb]; rfl
  have hTidx : ∀ e ∈ (ofRows (transposeRows page C.toNat) 0).data, e.index.toNat < intToSize (sizeToInt page.size) :=
    fun e he => by
      rw [hm, ← Nat.zero_add page.size, ← hb0]
      exact index_lt_of_mem_transposeRows hp (by omega) (ofRows_data _ _ ▸ he)
  have hQ := getTranspose_eq_ok sched (valid_ofRows _ _) ht₂ hTidx
    (intToSize_lt_vectorMaxSize (by rw [sizeToInt_of_lt (by omega)]; omega) (by rw [sizeToInt_of_lt (by omega)]; omega)) (by
    rw [hm, sizeToInt_of_lt (by omega), intAdd_one (by omega) (by omega)]
    rfl)
  rw [hm, transposeRows_transposeRows hp hb (by omega)] at hQ
  have hrow : ∀ r ∈ page.rows, ∀ e ∈ r, e.index.toNat < C.toNat := fun r hr e he =>
    hidx e (hp.data_eq ▸ List.mem_flatten.mpr ⟨r, hr, he⟩)
  refine ⟨_, _, hT, hQ, ?_, hb.symm, fun i hi => ?_, fun t ht => ?_⟩
  · rw [ofRows_offset, offsetsFrom_map fun r hr => (bucketByIndex_perm (hrow r hr)).length_eq, hp.offset_eq]
  · have hi' : ∀ e ∈ page.inst i, e.index.toNat < C.toNat := fun e he => hidx e (mem_data_of_mem_inst he)
    rw [inst_ofRows, getD_map_rows hp _ hi]
    exact ⟨bucketByIndex_perm hi', stableSortedByIndex_bucketByIndex hi'⟩
  · rw [map_bucketByIndex_of_isIndicesSorted hp hrow (by omega) ht, ← hb]
    exact ofRows_rows hp

/-- A one-entry page transposed to one column and back. -/
theorem getTranspose_twice_oneEntry :
    (⟨[0, 1], [⟨0, F32.one⟩], 0⟩ : SparsePage).Valid ∧
      ∃ T Q, getTranspose StaticSchedule.even ⟨[0, 1], [⟨0, F32.one⟩], 0⟩ 1 1 = .ok T ∧
        getTranspose StaticSchedule.even T (sizeToInt 1) 1 = .ok Q ∧ Q.offset = [0, 1] ∧ Q.baseRowid = 0 ∧
        (∀ i < 1, (Q.inst i).Perm ((⟨[0, 1], [⟨0, F32.one⟩], 0⟩ : SparsePage).inst i) ∧
          StableSortedByIndex ((⟨[0, 1], [⟨0, F32.one⟩], 0⟩ : SparsePage).inst i) (Q.inst i)) ∧
        ∀ t, isIndicesSorted StaticSchedule.even ⟨[0, 1], [⟨0, F32.one⟩], 0⟩ t = true →
          Q = ⟨[0, 1], [⟨0, F32.one⟩], 0⟩ := by
  have hv : (⟨[0, 1], [⟨0, F32.one⟩], 0⟩ : SparsePage).Valid := by decide
  exact ⟨hv, getTranspose_twice StaticSchedule.even hv rfl (by decide) (by decide) (by decide) (by decide)
    Nat.one_pos Nat.one_pos⟩

/-- Two inputs on which the round trip raises.  A page of `2^32` rows at row id 0 with
one entry, in row 0: the first transpose succeeds, and the second, given
`num_columns = (int) 2^32 = 0`, lays out a column for that entry and raises.  And a page
with one entry at `C = INT_MAX`: there the first transpose raises already. -/
theorem getTranspose_twice_wraps :
    ((ofRows ([⟨0, F32.one⟩] :: List.replicate (2 ^ 32 - 1) []) 0).Valid ∧
      (ofRows ([⟨0, F32.one⟩] :: List.replicate (2 ^ 32 - 1) []) 0).size = 2 ^ 32 ∧
      (∀ e ∈ (ofRows ([⟨0, F32.one⟩] :: List.replicate (2 ^ 32 - 1) []) 0).data, e.index.toNat < (1 : Int).toNat) ∧
      ∃ T, getTranspose StaticSchedule.even (ofRows ([⟨0, F32.one⟩] :: List.replicate (2 ^ 32 - 1) []) 0) 1 1 = .ok T ∧
        ∃ k, getTranspose StaticSchedule.even T (sizeToInt (ofRows ([⟨0, F32.one⟩] :: List.replicate (2 ^ 32 - 1) []) 0).size) 1 =
          .error (.offsetSize k 1)) ∧
    getTranspose StaticSchedule.even ⟨[0, 1], [⟨0, F32.one⟩], 0⟩ (2 ^ 31 - 1) 1 =
      .error (.offsetSize (2 ^ 31) (2 ^ 64 - 2 ^ 31)) := by
  refine ⟨?_, ?_⟩
  · set P := (ofRows ([⟨0, F32.one⟩] :: List.replicate (2 ^ 32 - 1) []) 0) with hP
    have hv : P.Valid := valid_ofRows _ _
    have hdata : P.data = [⟨0, F32.one⟩] := by
      rw [hP, ofRows_data, List.flatten_cons, List.flatten_replicate_nil, List.append_nil]
    have hsize : P.size = 2 ^ 32 := by
      rw [hP, size_ofRows, List.length_cons, List.length_replicate]
      rfl
    have hidx : ∀ e ∈ P.data, e.index.toNat < intToSize 1 := by
      rw [hdata]
      decide
    refine ⟨hv, hsize, by rw [hdata]; decide, _, getTranspose_eq_ok StaticSchedule.even hv Nat.one_pos hidx (by decide) (by decide), ?_⟩
    obtain ⟨e, he⟩ := List.exists_mem_of_length_pos
      (show 0 < (ofRows (transposeRows P (intToSize 1)) 0).data.length by
        rw [ofRows_data, length_flatten_transposeRows hv hidx, hdata]
        decide)
    have h1 : intToSize (intAdd 0 1) = 1 := by decide
    rw [hsize, show sizeToInt (2 ^ 32) = 0 by decide, ← h1]
    exact getTranspose_error_of_le_index StaticSchedule.even (valid_ofRows _ _) Nat.one_pos (by decide) he (by omega)
  · have hv : (⟨[0, 1], [⟨0, F32.one⟩], 0⟩ : SparsePage).Valid := by decide
    have hidx : ∀ e ∈ [(⟨0, F32.one⟩ : Entry)], e.index.toNat < intToSize (2 ^ 31 - 1) := by decide
    rw [getTranspose_eq_error StaticSchedule.even hv Nat.one_pos hidx (by decide) (List.cons_ne_nil _ _) (by decide)]
    rfl

end SparsePage

end XGBoostData
