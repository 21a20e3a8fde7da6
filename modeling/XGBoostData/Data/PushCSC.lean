import XGBoostData.Data.PageOps

/-!
# `SparsePage::PushCSC(batch)`: merging column-major pages (spec §4.4)

WHAT THIS FILE IS FOR.  `PushCSC` appends, column by column, the entries of another
column-major page.  The source has three branches before its loop: an `other` page
without entries replaces this page's offsets and returns; this page without entries
adopts `other`'s vectors and returns; otherwise `CHECK_EQ` the offset sizes and merge.
The merge loop reads each column's bounds with `std::vector::at`, checks `beg` against
the new vector before each `memcpy`, and checks `ptr` before it records the running
offset.  All of it is modelled, every check an error of `PushCSCError`.

THE LOOP INVARIANT.  After `k` columns the new `data` holds the first `k` merged columns
followed by value-initialised entries, and the new `offset` holds their running offsets
followed by zeros (`mergeState_run`).  At `k = n_features` this is the merged page.
-/

set_option autoImplicit false

namespace XGBoostData

namespace SparsePage

/-- Why `PushCSC` raises. -/
inductive PushCSCError
  /-- `CHECK_EQ(self_offset.size(), other_offset.size())`; the message prints
  `self_data.size()` and `other_data.size()`. -/
  | offsetSize (selfData otherData : Nat)
  /-- `CHECK_LE(beg, data.size())`. -/
  | begPastEnd
  /-- `CHECK_LT(ptr, offset.size())`. -/
  | ptrPastEnd
  /-- `std::vector::at` past the end of an offset vector (`std::out_of_range`). -/
  | outOfRange
  deriving DecidableEq, Repr

/-- `v.at(i)`. -/
def vectorAt (v : List Nat) (i : Nat) : Except PushCSCError Nat :=
  match v[i]? with
  | some x => .ok x
  | none => .error .outOfRange

/-- What the merge loop carries: the new `data` and `offset`, and `beg` and `ptr`. -/
structure MergeState where
  data : List Entry
  offset : List Nat
  beg : Nat
  ptr : Nat
  deriving DecidableEq, Repr

/-- Column `i` of the merge loop: this page's slice, then `other`'s, each copied in at
`beg` after `CHECK_LE(beg, data.size())`, and the running offset recorded at `ptr`. -/
def mergeColumn (selfOffset otherOffset : List Nat) (selfData otherData : List Entry)
    (st : MergeState) (i : Nat) : Except PushCSCError MergeState := do
  let selfBeg ← vectorAt selfOffset i
  let selfLength := (← vectorAt selfOffset (i + 1)) - selfBeg
  if st.data.length < st.beg then throw .begPastEnd
  let data := copyInto st.data st.beg ((selfData.drop selfBeg).take selfLength)
  let beg := st.beg + selfLength
  let otherBeg ← vectorAt otherOffset i
  let otherLength := (← vectorAt otherOffset (i + 1)) - otherBeg
  if data.length < beg then throw .begPastEnd
  let data := copyInto data beg ((otherData.drop otherBeg).take otherLength)
  let beg := beg + otherLength
  if st.offset.length ≤ st.ptr then throw .ptrPastEnd
  return ⟨data, st.offset.set st.ptr beg, beg, st.ptr + 1⟩

/-- The loop's start: `offset(other_offset.size())` with `offset[0] = 0`, and
`data(self_data.size() + other_data.size())`. -/
def mergeInit (page batch : SparsePage) : MergeState :=
  ⟨List.replicate (page.data.length + batch.data.length) default, List.replicate batch.offset.length 0, 0, 1⟩

/-- `PushCSC(const SparsePage& batch)`. -/
def pushCSC (page batch : SparsePage) : Except PushCSCError SparsePage :=
  if batch.data.isEmpty then .ok { page with offset := batch.offset }
  else if !page.data.isEmpty then
    if page.offset.length ≠ batch.offset.length then
      .error (.offsetSize page.data.length batch.data.length)
    else do
      let st ← (List.range (batch.offset.length - 1)).foldlM
        (mergeColumn page.offset batch.offset page.data batch.data) (mergeInit page batch)
      return { page with data := st.data, offset := st.offset }
  else .ok { page with data := batch.data, offset := batch.offset }

/-! ## One column -/

theorem vectorAt_of_getElem? {v : List Nat} {i x : Nat} (h : v[i]? = some x) : vectorAt v i = pure x := by
  simp [vectorAt, h]; rfl

/-- A column whose bounds are in range and whose checks pass. -/
theorem mergeColumn_ok {selfOffset otherOffset : List Nat} {selfData otherData : List Entry}
    {st : MergeState} {i sb se ob oe : Nat}
    (hsb : selfOffset[i]? = some sb) (hse : selfOffset[i + 1]? = some se)
    (hob : otherOffset[i]? = some ob) (hoe : otherOffset[i + 1]? = some oe)
    (hbeg : st.beg ≤ st.data.length)
    (hbeg' : st.beg + (se - sb) ≤ (copyInto st.data st.beg ((selfData.drop sb).take (se - sb))).length)
    (hptr : st.ptr < st.offset.length) :
    mergeColumn selfOffset otherOffset selfData otherData st i =
      .ok ⟨copyInto (copyInto st.data st.beg ((selfData.drop sb).take (se - sb))) (st.beg + (se - sb))
          ((otherData.drop ob).take (oe - ob)),
        st.offset.set st.ptr (st.beg + (se - sb) + (oe - ob)), st.beg + (se - sb) + (oe - ob), st.ptr + 1⟩ := by
  simp only [mergeColumn, vectorAt_of_getElem? hsb, vectorAt_of_getElem? hse, vectorAt_of_getElem? hob,
    vectorAt_of_getElem? hoe, pure_bind, if_neg (Nat.not_lt.mpr hbeg), if_neg (Nat.not_lt.mpr hbeg'),
    if_neg (Nat.not_le.mpr hptr)]
  rfl

/-! ## The merge loop -/

/-- The loop state after `k` columns of the merged columns `ms`: their concatenation and
then padding up to `total` entries, their running offsets and then zeros up to `n + 1`
offsets, `beg` at the end of the copied entries and `ptr` at offset `k + 1`. -/
def mergedState (total n k : Nat) (ms : List (List Entry)) : MergeState :=
  ⟨(ms.take k).flatten ++ List.replicate (total - (ms.take k).flatten.length) default,
    offsetsFrom 0 (ms.take k) ++ List.replicate (n - k) 0, (ms.take k).flatten.length, k + 1⟩

theorem length_flatten_zipWith_append :
    ∀ (xs ys : List (List Entry)), xs.length = ys.length →
      (List.zipWith (· ++ ·) xs ys).flatten.length = xs.flatten.length + ys.flatten.length
  | [], [], _ => rfl
  | x :: xs, y :: ys, h => by
    simp only [List.zipWith_cons_cons, List.flatten_cons, List.length_append,
      length_flatten_zipWith_append xs ys (by simpa using h)]
    omega

/-- One column on a state of the loop's shape: copied prefix `P` and padding, recorded
offsets `O` and zeros. -/
theorem mergeColumn_append {selfOffset otherOffset : List Nat} {selfData otherData P a b : List Entry}
    {O : List Nat} {i x y m j p : Nat} (hp : p = O.length)
    (hsb : selfOffset[i]? = some x) (hse : selfOffset[i + 1]? = some (x + a.length))
    (ha : (selfData.drop x).take a.length = a)
    (hob : otherOffset[i]? = some y) (hoe : otherOffset[i + 1]? = some (y + b.length))
    (hb : (otherData.drop y).take b.length = b) :
    mergeColumn selfOffset otherOffset selfData otherData
        ⟨P ++ List.replicate m default, O ++ List.replicate (j + 1) 0, P.length, p⟩ i =
      .ok ⟨P ++ a ++ b ++ List.replicate (m - a.length - b.length) default,
        O ++ (P.length + a.length + b.length) :: List.replicate j 0, P.length + a.length + b.length,
        p + 1⟩ := by
  subst hp
  rw [mergeColumn_ok hsb hse hob hoe (by simp) (by rw [Nat.add_sub_cancel_left, ha]; simp [copyInto]) (by simp)]
  simp only [Nat.add_sub_cancel_left, ha, hb, copyInto_append_replicate]
  rw [← List.length_append, copyInto_append_replicate, List.set_append_right _ _ (Nat.le_refl _), Nat.sub_self,
    List.replicate_succ, List.set_cons_zero, List.length_append]

/-- One column takes the loop from the state after `k` columns to the state after `k + 1`. -/
theorem mergeColumn_mergedState (as bs : List (List Entry)) (hlen : as.length = bs.length) {k : Nat}
    (hk : k < as.length) :
    mergeColumn (offsetsFrom 0 as) (offsetsFrom 0 bs) as.flatten bs.flatten
        (mergedState (as.flatten.length + bs.flatten.length) as.length k (List.zipWith (· ++ ·) as bs)) k =
      .ok (mergedState (as.flatten.length + bs.flatten.length) as.length (k + 1) (List.zipWith (· ++ ·) as bs)) := by
  have hk' : k < bs.length := hlen ▸ hk
  have hkm : k < (List.zipWith (· ++ ·) as bs).length := by simpa [hlen] using hk'
  have hm : (List.zipWith (· ++ ·) as bs)[k] = as[k] ++ bs[k] := List.getElem_zipWith
  obtain ⟨j, hj⟩ : ∃ j, as.length - k = j + 1 := ⟨as.length - k - 1, by omega⟩
  have hO : (offsetsFrom 0 ((List.zipWith (· ++ ·) as bs).take k)).length = k + 1 := by
    simp [hk.le, hk'.le]
  have hse : ∀ gs : List (List Entry), ∀ hk : k < gs.length,
      (offsetsFrom 0 gs)[k + 1]? = some ((gs.take k).flatten.length + gs[k].length) := fun gs hk => by
    rw [getElem?_offsetsFrom 0 gs hk, take_succ_flatten gs hk, List.length_append, Nat.zero_add]
  have hsb : ∀ gs : List (List Entry), k ≤ gs.length →
      (offsetsFrom 0 gs)[k]? = some ((gs.take k).flatten.length) := fun gs hk => by
    rw [getElem?_offsetsFrom 0 gs hk, Nat.zero_add]
  unfold mergedState
  rw [hj, mergeColumn_append hO.symm (hsb as hk.le) (hse as hk) (take_drop_flatten as hk)
    (hsb bs hk'.le) (hse bs hk') (take_drop_flatten bs hk'), take_succ_flatten _ hkm, hm,
    ← List.take_concat_get _ _ hkm, List.concat_eq_append, offsetsFrom_append, hm, Nat.sub_sub]
  simp [Nat.add_assoc, show as.length - (k + 1) = j by omega]
  omega

/-- After `k` columns the loop is in `mergedState k`: the run lemma, by induction on `k`. -/
theorem mergeState_run (as bs : List (List Entry)) (hlen : as.length = bs.length) :
    ∀ k ≤ as.length, (List.range k).foldlM (mergeColumn (offsetsFrom 0 as) (offsetsFrom 0 bs) as.flatten bs.flatten)
        (mergedState (as.flatten.length + bs.flatten.length) as.length 0 (List.zipWith (· ++ ·) as bs)) =
      pure (mergedState (as.flatten.length + bs.flatten.length) as.length k (List.zipWith (· ++ ·) as bs))
  | 0, _ => rfl
  | k + 1, hk => by
    rw [List.range_succ, List.foldlM_append, mergeState_run as bs hlen k (by omega), pure_bind, List.foldlM_cons,
      mergeColumn_mergedState as bs hlen (by omega : k < as.length)]
    rfl

/-- `PushCSC` on two pages with entries and as many columns: column by column, this
page's slice followed by the other's. -/
theorem pushCSC_ofRows (as bs : List (List Entry)) (b c : UInt64) (hlen : as.length = bs.length)
    (ha : as.flatten ≠ []) (hb : bs.flatten ≠ []) :
    pushCSC (ofRows as b) (ofRows bs c) = .ok (ofRows (List.zipWith (· ++ ·) as bs) b) := by
  have hinit : mergeInit (ofRows as b) (ofRows bs c) =
      mergedState (as.flatten.length + bs.flatten.length) as.length 0 (List.zipWith (· ++ ·) as bs) := by
    simp [mergeInit, mergedState, hlen, List.replicate_succ]
  have hm : (List.zipWith (· ++ ·) as bs).length = as.length := by simp [hlen]
  have hrun := mergeState_run as bs hlen as.length (Nat.le_refl _)
  rw [← hinit, mergedState, ← hm, List.take_length, hm, Nat.sub_self, List.replicate_zero, List.append_nil,
    length_flatten_zipWith_append as bs hlen, Nat.sub_self, List.replicate_zero, List.append_nil] at hrun
  have h4 : (ofRows bs c).offset.length - 1 = as.length := by simp [hlen]
  rw [pushCSC, if_neg (by simpa using hb), if_pos (by simpa using ha), if_neg (by simp [hlen]), h4]
  simp only [ofRows_offset, ofRows_data]
  rw [hrun, pure_bind]
  rfl

theorem zipWith_append_of_flatten_eq_nil :
    ∀ (xs ys : List (List Entry)), xs.flatten = [] → xs.length = ys.length → List.zipWith (· ++ ·) xs ys = ys
  | [], [], _, _ => rfl
  | x :: xs, y :: ys, h, hl => by
    simp only [List.flatten_cons, List.append_eq_nil] at h
    simp [h.1, zipWith_append_of_flatten_eq_nil xs ys h.2 (by simpa using hl)]

/-- `PushCSC` on valid pages with as many offsets, in every case but the one where the
other page has no entries and this one has: the column-wise concatenation. -/
theorem pushCSC_eq_ofRows {A B : SparsePage} (hA : A.Valid) (hB : B.Valid) (hlen : A.offset.length = B.offset.length)
    (h : B.data = [] → A.data = []) :
    pushCSC A B = .ok (ofRows (List.zipWith (· ++ ·) A.rows B.rows) A.baseRowid) := by
  have hrows : A.rows.length = B.rows.length := by
    rw [hA.length_rows, hB.length_rows, size, size, hlen]
  by_cases hBd : B.data = []
  · have hAr : A.rows.flatten = [] := by rw [← ofRows_data A.rows A.baseRowid, ofRows_rows hA, h hBd]
    rw [zipWith_append_of_flatten_eq_nil _ _ hAr hrows, ofRows_rows_base hB]
    simp [pushCSC, hBd, h hBd]
  · by_cases hAd : A.data = []
    · have hAr : A.rows.flatten = [] := by rw [← ofRows_data A.rows A.baseRowid, ofRows_rows hA, hAd]
      rw [zipWith_append_of_flatten_eq_nil _ _ hAr hrows, ofRows_rows_base hB]
      simp [pushCSC, hBd, hAd]
    · conv_lhs => rw [← ofRows_rows hA, ← ofRows_rows hB]
      exact pushCSC_ofRows _ _ _ _ hrows (by rwa [← ofRows_data A.rows A.baseRowid, ofRows_rows hA])
        (by rwa [← ofRows_data B.rows B.baseRowid, ofRows_rows hB])

/-- An `other` page without entries replaces the offsets of a page that has entries and
keeps those entries: a one-column page holding one entry, merged with an empty
one-column page, is left with offsets `[0, 0]` and one entry, and is no longer valid. -/
theorem pushCSC_empty_other_keeps_data :
    (⟨[0, 1], [⟨0, F32.one⟩], 0⟩ : SparsePage).Valid ∧ (⟨[0, 0], [], 0⟩ : SparsePage).Valid ∧
      pushCSC ⟨[0, 1], [⟨0, F32.one⟩], 0⟩ ⟨[0, 0], [], 0⟩ = .ok ⟨[0, 0], [⟨0, F32.one⟩], 0⟩ ∧
      ¬(⟨[0, 0], [⟨0, F32.one⟩], 0⟩ : SparsePage).Valid :=
  ⟨by decide, by decide, rfl, by decide⟩

end SparsePage

end XGBoostData
