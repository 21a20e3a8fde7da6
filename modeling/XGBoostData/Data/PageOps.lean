import XGBoostData.Common.Threading

/-!
# Page operations: `Push(page)`, the row sorts, `Reindex`, `IsIndicesSorted` (spec §4.4)

WHAT THIS FILE IS FOR.  These are the operations of `data.cc` that rewrite a page in
place without the group builder.  Each is written as the source computes it, on the
two vectors and by position: `Push(const SparsePage&)` resizes, copies behind a null
check and rebases the batch's offsets in a loop; `SortIndices` and `SortRows` sort the
range `[offset[i], offset[i+1])` of every row.  Each then gets its spec lemma over the
row view of `SparsePage.lean`.

THE SORT.  `std::sort` is the standard library's, not this repository's.  It enters as
a `SortContract`: any function that permutes the range and, for a comparator that is a
strict weak ordering, leaves no element behind one that compares less.
`SortContract.mergeSort` shows the contract can be met.

THE SORTED-ROW COUNT.  `IsIndicesSorted` counts sorted rows in one `int32_t` per thread
and compares the sum with `Size()`.  While a page has fewer than `2^31` rows no counter
can overflow, and the result is "every row is sorted", whatever the thread count
(`isIndicesSorted_iff_of_lt`).  From `2^31` rows on, one thread's counter can wrap: on
one thread, a page of `2^31` to `2^32 - 1` rows that are all sorted gives false
(`isIndicesSorted_one_eq_false`).
-/

set_option autoImplicit false

namespace XGBoostData

/-! ## The contract of `std::sort` -/

/-- `comp` is a strict weak ordering, the requirement `std::sort` puts on its
comparator: asymmetric, and negatively transitive. -/
structure StrictWeakOrder {α : Type} (lt : α → α → Bool) : Prop where
  asymm : ∀ a b, lt a b = true → lt b a = false
  negTrans : ∀ a b c, lt a c = true → lt a b = true ∨ lt b c = true

/-- The order `!comp b a` that a strict weak ordering induces is transitive. -/
theorem StrictWeakOrder.not_lt_trans {α : Type} {lt : α → α → Bool} (h : StrictWeakOrder lt) (a b c : α)
    (hab : (!lt b a) = true) (hbc : (!lt c b) = true) : (!lt c a) = true := by
  simp only [Bool.not_eq_true'] at hab hbc ⊢
  rcases Bool.eq_false_or_eq_true (lt c a) with hca | hca
  · rcases h.negTrans c b a hca with h' | h' <;> simp_all
  · exact hca

/-- The order `!comp b a` that a strict weak ordering induces is total. -/
theorem StrictWeakOrder.not_lt_total {α : Type} {lt : α → α → Bool} (h : StrictWeakOrder lt) (a b : α) :
    ((!lt b a) || (!lt a b)) = true := by
  rcases Bool.eq_false_or_eq_true (lt b a) with hba | hba
  · simp [h.asymm b a hba]
  · simp [hba]

/-- `comp` is a strict weak ordering on the values of a range `l`, which is what
`std::sort` asks of its comparator: asymmetric and negatively transitive there. -/
structure StrictWeakOrderOn {α : Type} (lt : α → α → Bool) (l : List α) : Prop where
  asymm : ∀ a ∈ l, ∀ b ∈ l, lt a b = true → lt b a = false
  negTrans : ∀ a ∈ l, ∀ b ∈ l, ∀ c ∈ l, lt a c = true → lt a b = true ∨ lt b c = true

theorem StrictWeakOrder.on {α : Type} {lt : α → α → Bool} (h : StrictWeakOrder lt) (l : List α) :
    StrictWeakOrderOn lt l :=
  ⟨fun a _ b _ => h.asymm a b, fun a _ b _ c _ => h.negTrans a b c⟩

/-- On the values of the range, `List.mergeSort` by `!comp b a` leaves no element before
one that compares less: the range is sorted as a list of its own members. -/
theorem StrictWeakOrderOn.pairwise_mergeSort {α : Type} {lt : α → α → Bool} {l : List α}
    (h : StrictWeakOrderOn lt l) : (l.mergeSort fun a b => !lt b a).Pairwise fun a b => lt b a = false := by
  have trans : ∀ a b c : {x // x ∈ l}, (!lt b.1 a.1) = true → (!lt c.1 b.1) = true → (!lt c.1 a.1) = true :=
    fun a b c hab hbc => by
      simp only [Bool.not_eq_true'] at hab hbc ⊢
      rcases Bool.eq_false_or_eq_true (lt c.1 a.1) with hca | hca
      · rcases h.negTrans c.1 c.2 b.1 b.2 a.1 a.2 hca with h' | h' <;> simp_all
      · exact hca
  have total : ∀ a b : {x // x ∈ l}, ((!lt b.1 a.1) || (!lt a.1 b.1)) = true := fun a b => by
    rcases Bool.eq_false_or_eq_true (lt b.1 a.1) with hba | hba
    · simp [h.asymm b.1 b.2 a.1 a.2 hba]
    · simp [hba]
  have hmap : (l.attach.mergeSort fun a b => !lt b.1 a.1).map Subtype.val = l.mergeSort fun a b => !lt b a := by
    rw [List.map_mergeSort (f := Subtype.val) (s := fun a b => !lt b a) (fun _ _ _ _ => rfl),
      List.attach_map_subtype_val]
  rw [← hmap, List.pairwise_map]
  simpa using List.sorted_mergeSort trans total l.attach

/-- `std::sort(first, last, comp)`: it permutes the range and, when `comp` is a strict
weak ordering on the range's values, leaves no element before one that compares less. -/
structure SortContract where
  sort : (Entry → Entry → Bool) → List Entry → List Entry
  perm : ∀ lt l, (sort lt l).Perm l
  sorted : ∀ lt l, StrictWeakOrderOn lt l → (sort lt l).Pairwise fun a b => lt b a = false

namespace SortContract

/-- `List.mergeSort` on the order `!comp b a` keeps the contract. -/
def mergeSort : SortContract where
  sort lt l := l.mergeSort fun a b => !lt b a
  perm _ l := List.mergeSort_perm l _
  sorted _ _ h := h.pairwise_mergeSort

variable (S : SortContract)

@[simp] theorem length_sort (lt : Entry → Entry → Bool) (l : List Entry) : (S.sort lt l).length = l.length :=
  (S.perm lt l).length_eq

@[simp] theorem sort_nil (lt : Entry → Entry → Bool) : S.sort lt [] = [] :=
  (S.perm lt []).eq_nil

end SortContract

namespace SparsePage

/-! ## `Push(const SparsePage& batch)` -/

/-- `Push(const SparsePage& batch)`: `data` grows to `top + batch.data.Size()` and, when
both vectors have a first element (`dmlc::BeginPtr` is not null), `batch.data` is copied
in at `top = offset.back()`; `offset` grows by `batch.Size()` and slot `begin + i` is
set to `top + batch.offset[i + 1]`. -/
def pushPage (page batch : SparsePage) : SparsePage :=
  let top := page.back
  let dataVec := resize page.data (top + batch.data.length)
  let dataVec := if !dataVec.isEmpty && !batch.data.isEmpty then copyInto dataVec top batch.data else dataVec
  let begin := page.offset.length
  let offsetVec := (List.range batch.size).foldl
    (fun o i => o.set (i + begin) (top + batch.offset.getD (i + 1) 0)) (resize page.offset (begin + batch.size))
  { page with offset := offsetVec, data := dataVec }

theorem resize_append {α : Type} [Inhabited α] (l : List α) (n : Nat) :
    resize l (l.length + n) = l ++ List.replicate n default := by
  simp [resize]

/-- The rebasing loop writes each new slot once, in order. -/
theorem foldl_set_range {α : Type} (pre : List α) (g : Nat → α) (d : α) :
    ∀ (n : Nat) (post : List α), (List.range n).foldl (fun o i => o.set (i + pre.length) (g i))
      (pre ++ List.replicate n d ++ post) = pre ++ (List.range n).map g ++ post
  | 0, post => rfl
  | n + 1, post => by
    rw [List.range_succ, List.foldl_append, List.replicate_succ', List.append_assoc pre,
      List.append_assoc, List.singleton_append, ← List.append_assoc, foldl_set_range pre g d n]
    simp [List.set_append_right, Nat.add_comm]

theorem map_getD_succ_range (l : List Nat) (c : Nat) :
    (List.range (l.length - 1)).map (fun i => c + l.getD (i + 1) 0) = l.tail.map (c + ·) := by
  cases l with
  | nil => rfl
  | cons a l =>
    rw [List.length_cons, Nat.add_sub_cancel, List.tail_cons]
    conv_rhs => rw [← map_getD_range l 0, List.map_map]
    rfl

/-- `Push(page)` appends the batch's rows after the page's own. -/
theorem pushPage_ofRows (rs qs : List (List Entry)) (b c : UInt64) :
    pushPage (ofRows rs b) (ofRows qs c) = ofRows (rs ++ qs) b := by
  have hdata : (if !(resize rs.flatten (rs.flatten.length + qs.flatten.length)).isEmpty && !qs.flatten.isEmpty
      then copyInto (resize rs.flatten (rs.flatten.length + qs.flatten.length)) rs.flatten.length qs.flatten
      else resize rs.flatten (rs.flatten.length + qs.flatten.length)) = rs.flatten ++ qs.flatten := by
    rw [resize_append]
    split
    · simpa using copyInto_append_replicate rs.flatten qs.flatten qs.flatten.length
    · cases h : qs.flatten <;> simp_all
  have hoff := foldl_set_range (offsetsFrom 0 rs) (fun i => rs.flatten.length + (offsetsFrom 0 qs).getD (i + 1) 0)
    default qs.length []
  rw [List.append_nil, List.append_nil, ← resize_append, length_offsetsFrom] at hoff
  simp only [pushPage, back_ofRows, ofRows_data, ofRows_offset, size_ofRows, length_offsetsFrom, hdata]
  rw [hoff, show qs.length = (offsetsFrom 0 qs).length - 1 by simp, map_getD_succ_range, List.map_tail,
    map_offsetsFrom, Nat.add_zero]
  simp [ofRows, offsetsFrom_append]

theorem pushPage_eq_ofRows {A B : SparsePage} (hA : A.Valid) (hB : B.Valid) :
    pushPage A B = ofRows (A.rows ++ B.rows) A.baseRowid := by
  conv_lhs => rw [← ofRows_rows hA, ← ofRows_rows hB]
  exact pushPage_ofRows _ _ _ _

/-- `A.Push(B)` on valid pages: a valid page again, `A`'s rows followed by `B`'s, so
`Size(A) + Size(B)` rows, under `A`'s base row. -/
theorem pushPage_appends {A B : SparsePage} (hA : A.Valid) (hB : B.Valid) :
    (pushPage A B).Valid ∧ (pushPage A B).rows = A.rows ++ B.rows ∧
      (pushPage A B).size = A.size + B.size ∧ (pushPage A B).baseRowid = A.baseRowid := by
  rw [pushPage_eq_ofRows hA hB]
  exact ⟨valid_ofRows _ _, rows_ofRows _ _, by simp [hA.length_rows, hB.length_rows], rfl⟩

/-- A page of one row, pushed onto a page of one empty row. -/
theorem pushPage_appends_oneRow :
    (⟨[0, 0], [], 3⟩ : SparsePage).Valid ∧ (⟨[0, 1], [⟨2, F32.one⟩], 0⟩ : SparsePage).Valid ∧
      (pushPage ⟨[0, 0], [], 3⟩ ⟨[0, 1], [⟨2, F32.one⟩], 0⟩).Valid ∧
      (pushPage ⟨[0, 0], [], 3⟩ ⟨[0, 1], [⟨2, F32.one⟩], 0⟩).rows =
        (⟨[0, 0], [], 3⟩ : SparsePage).rows ++ (⟨[0, 1], [⟨2, F32.one⟩], 0⟩ : SparsePage).rows ∧
      (pushPage ⟨[0, 0], [], 3⟩ ⟨[0, 1], [⟨2, F32.one⟩], 0⟩).size =
        (⟨[0, 0], [], 3⟩ : SparsePage).size + (⟨[0, 1], [⟨2, F32.one⟩], 0⟩ : SparsePage).size ∧
      (pushPage ⟨[0, 0], [], 3⟩ ⟨[0, 1], [⟨2, F32.one⟩], 0⟩).baseRowid = (⟨[0, 0], [], 3⟩ : SparsePage).baseRowid :=
  ⟨by decide, by decide, pushPage_appends (by decide) (by decide)⟩

/-! ## The row sorts -/

/-- Replace the range `[beg, end)` of `data` by its image under `f`. -/
def modifyRange (f : List Entry → List Entry) (data : List Entry) (beg end_ : Nat) : List Entry :=
  data.take beg ++ f ((data.drop beg).take (end_ - beg)) ++ data.drop end_

/-- `SortIndices(n_threads)`: `std::sort` by `Entry::CmpIndex` on the range of every
row, the rows taken in ascending order. -/
def sortIndices (S : SortContract) (page : SparsePage) : SparsePage :=
  let step := fun d i =>
    modifyRange (S.sort Entry.cmpIndex) d (page.offset.getD i 0) (page.offset.getD (i + 1) 0)
  { page with data := (List.range page.size).foldl step page.data }

/-- `SortRows(n_threads)`: `std::sort` by `Entry::CmpValue` on the range of every row
that is not empty. -/
def sortRows (S : SortContract) (page : SparsePage) : SparsePage :=
  let step := fun d i => if page.offset.getD i 0 < page.offset.getD (i + 1) 0 then
    modifyRange (S.sort Entry.cmpValue) d (page.offset.getD i 0) (page.offset.getD (i + 1) 0) else d
  { page with data := (List.range page.size).foldl step page.data }

/-- `Reindex(feature_offset, n_threads)`: `index += feature_offset` on every entry; the
sum is taken in 64 bits and stored back in the 32-bit index. -/
def reindex (featureOffset : UInt64) (page : SparsePage) : SparsePage :=
  { page with data := page.data.map fun e => { e with index := e.index + UInt32.ofNat featureOffset.toNat } }

/-- `std::is_sorted(first, last, comp)`: no element is followed by one that compares less. -/
def isSorted (lt : Entry → Entry → Bool) : List Entry → Bool
  | a :: b :: rest => !lt b a && isSorted lt (b :: rest)
  | _ => true

/-- `IsIndicesSorted(n_threads)`: `n_threads` clamped to `[1, Size()]`; each thread adds
`!!std::is_sorted(row, Entry::CmpIndex)` over its rows to its own `int32_t` counter, and
the counters, summed by `std::accumulate` into a `std::size_t`, are compared with
`Size()`. -/
def isIndicesSorted (sched : StaticSchedule) (page : SparsePage) (nThreads : Nat) : Bool :=
  let t := max (min nThreads page.size) 1
  let count := fun tid => (sched.iterations page.size t tid).foldl
    (fun acc i => intAdd acc (if isSorted Entry.cmpIndex (page.inst i) then 1 else 0)) 0
  ((List.range t).map fun tid => intToSize (count tid)).foldl (fun s c => (s + c) % 2 ^ 64) 0 == page.size

theorem isSorted_iff_chain' (lt : Entry → Entry → Bool) :
    ∀ l : List Entry, isSorted lt l = true ↔ l.Chain' fun a b => lt b a = false
  | [] | [_] => by simp [isSorted]
  | a :: b :: rest => by
    simp only [isSorted, Bool.and_eq_true, Bool.not_eq_true', List.chain'_cons, isSorted_iff_chain' lt (b :: rest)]

theorem modifyRange_append (f : List Entry → List Entry) (pre r post : List Entry) :
    modifyRange f (pre ++ r ++ post) pre.length (pre.length + r.length) = pre ++ f r ++ post := by
  simp [modifyRange, List.take_append_of_le_length, List.drop_append_of_le_length, List.drop_append_eq_append_drop]

theorem offsetsFrom_map {f : List Entry → List Entry} {rs : List (List Entry)}
    (hf : ∀ r ∈ rs, (f r).length = r.length) (s : Nat) : offsetsFrom s (rs.map f) = offsetsFrom s rs := by
  induction rs generalizing s <;> simp_all

theorem getD_zero_offsetsFrom (s : Nat) (gs : List (List Entry)) : (offsetsFrom s gs).getD 0 0 = s := by
  cases gs <;> rfl

/-- A pass over the rows whose step rewrites exactly the row's range, by a
length-preserving `f`, maps `f` over the rows. -/
theorem foldl_rowStep {f : List Entry → List Entry} (hf : ∀ r, (f r).length = r.length)
    (step : List Entry → Nat → Nat → List Entry)
    (hstep : ∀ pre r post, step (pre ++ r ++ post) pre.length (pre.length + r.length) = pre ++ f r ++ post) :
    ∀ (rs : List (List Entry)) (pre post : List Entry),
      (List.range rs.length).foldl (fun d i => step d ((offsetsFrom pre.length rs).getD i 0)
        ((offsetsFrom pre.length rs).getD (i + 1) 0)) (pre ++ rs.flatten ++ post) =
        pre ++ (rs.map f).flatten ++ post
  | [], pre, post => by simp
  | r :: rs, pre, post => by
    have ih := foldl_rowStep hf step hstep rs (pre ++ f r) post
    rw [List.length_append, hf] at ih
    have hsplit : pre ++ (r :: rs).flatten ++ post = pre ++ r ++ (rs.flatten ++ post) := by simp
    rw [List.length_cons, List.range_succ_eq_map, List.foldl_cons, List.foldl_map, offsetsFrom_cons]
    simp only [List.getD_cons_succ, List.getD_cons_zero, getD_zero_offsetsFrom]
    rw [hsplit, hstep, ← List.append_assoc, ih]
    simp

theorem sortIndices_ofRows (S : SortContract) (rs : List (List Entry)) (b : UInt64) :
    sortIndices S (ofRows rs b) = ofRows (rs.map (S.sort Entry.cmpIndex)) b := by
  have := foldl_rowStep (S.length_sort Entry.cmpIndex) _ (modifyRange_append _) rs [] []
  simp only [List.length_nil, List.nil_append, List.append_nil] at this
  simp only [sortIndices, ofRows_offset, ofRows_data, size_ofRows, this]
  simp [ofRows, offsetsFrom_map fun r _ => S.length_sort Entry.cmpIndex r]

theorem sortRows_ofRows (S : SortContract) (rs : List (List Entry)) (b : UInt64) :
    sortRows S (ofRows rs b) = ofRows (rs.map (S.sort Entry.cmpValue)) b := by
  have := foldl_rowStep (S.length_sort Entry.cmpValue)
    (fun d beg end_ => if beg < end_ then modifyRange (S.sort Entry.cmpValue) d beg end_ else d)
    (fun pre r post => by
      dsimp only
      split
      · exact modifyRange_append _ _ _ _
      · obtain rfl : r = [] := List.length_eq_zero.mp (by omega)
        simp) rs [] []
  simp only [List.length_nil, List.nil_append, List.append_nil] at this
  simp only [sortRows, ofRows_offset, ofRows_data, size_ofRows, this]
  simp [ofRows, offsetsFrom_map fun r _ => S.length_sort Entry.cmpValue r]

/-- On a valid page, row `i` of a row-wise map is the map of `page[i]`. -/
theorem getD_map_rows {page : SparsePage} (hp : page.Valid) (f : List Entry → List Entry) {i : Nat}
    (hi : i < page.size) : (page.rows.map f).getD i [] = f (page.inst i) := by
  rw [hp.inst_eq, List.getD_eq_getElem _ _ (by simpa [hp.length_rows] using hi), List.getElem_map,
    List.getD_eq_getElem _ _ (by rwa [hp.length_rows])]

theorem strictWeakOrder_cmpIndex : StrictWeakOrder Entry.cmpIndex where
  asymm a b h := by
    simp only [Entry.cmpIndex, decide_eq_true_eq, decide_eq_false_iff_not] at h ⊢
    omega
  negTrans a b c h := by
    simp only [Entry.cmpIndex, decide_eq_true_eq] at h ⊢
    omega

/-- `Entry::CmpValue` is a strict weak ordering on entries none of which holds a NaN. -/
theorem strictWeakOrderOn_cmpValue {l : List Entry} (h : ∀ e ∈ l, e.fvalue.isNaN = false) :
    StrictWeakOrderOn Entry.cmpValue l where
  asymm a ha b hb hab := by
    simp only [Entry.cmpValue, F32.flt, h a ha, h b hb, Bool.not_false, Bool.true_and, decide_eq_true_eq,
      decide_eq_false_iff_not] at hab ⊢
    omega
  negTrans a ha b hb c hc hac := by
    simp only [Entry.cmpValue, F32.flt, h a ha, h b hb, h c hc, Bool.not_false, Bool.true_and,
      decide_eq_true_eq] at hac ⊢
    omega

theorem pairwise_sort_cmpIndex (S : SortContract) (r : List Entry) :
    (S.sort Entry.cmpIndex r).Pairwise fun a b => a.index.toNat ≤ b.index.toNat :=
  (S.sorted _ r (strictWeakOrder_cmpIndex.on r)).imp fun h => by simpa [Entry.cmpIndex] using h

theorem sortIndices_eq_ofRows (S : SortContract) {page : SparsePage} (hp : page.Valid) :
    sortIndices S page = ofRows (page.rows.map (S.sort Entry.cmpIndex)) page.baseRowid := by
  conv_lhs => rw [← ofRows_rows hp]
  exact sortIndices_ofRows S _ _

theorem sortRows_eq_ofRows (S : SortContract) {page : SparsePage} (hp : page.Valid) :
    sortRows S page = ofRows (page.rows.map (S.sort Entry.cmpValue)) page.baseRowid := by
  conv_lhs => rw [← ofRows_rows hp]
  exact sortRows_ofRows S _ _

/-- `SortIndices` keeps the offsets and the base row, and on a valid page turns every row
into a permutation of itself that is non-decreasing by index. -/
theorem sortIndices_sorts (S : SortContract) {page : SparsePage} (hp : page.Valid) :
    (sortIndices S page).Valid ∧ (sortIndices S page).offset = page.offset ∧
    (sortIndices S page).baseRowid = page.baseRowid ∧
    List.Forall₂ (fun r' r => r'.Perm r ∧ r'.Pairwise fun a b => a.index.toNat ≤ b.index.toNat)
      (sortIndices S page).rows page.rows := by
  refine ⟨sortIndices_eq_ofRows S hp ▸ valid_ofRows _ _, rfl, rfl, ?_⟩
  rw [sortIndices_eq_ofRows S hp, rows_ofRows, List.forall₂_map_left_iff, List.forall₂_same]
  exact fun r _ => ⟨S.perm _ r, pairwise_sort_cmpIndex S r⟩

/-- One row whose two entries are out of index order. -/
theorem sortIndices_sorts_twoEntries :
    (⟨[0, 2], [⟨1, F32.one⟩, ⟨0, F32.two⟩], 0⟩ : SparsePage).Valid ∧
    (sortIndices SortContract.mergeSort ⟨[0, 2], [⟨1, F32.one⟩, ⟨0, F32.two⟩], 0⟩).Valid ∧
    (sortIndices SortContract.mergeSort ⟨[0, 2], [⟨1, F32.one⟩, ⟨0, F32.two⟩], 0⟩).offset = [0, 2] ∧
    (sortIndices SortContract.mergeSort ⟨[0, 2], [⟨1, F32.one⟩, ⟨0, F32.two⟩], 0⟩).baseRowid = 0 ∧
    List.Forall₂ (fun r' r => r'.Perm r ∧ r'.Pairwise fun a b => a.index.toNat ≤ b.index.toNat)
      (sortIndices SortContract.mergeSort ⟨[0, 2], [⟨1, F32.one⟩, ⟨0, F32.two⟩], 0⟩).rows
      (⟨[0, 2], [⟨1, F32.one⟩, ⟨0, F32.two⟩], 0⟩ : SparsePage).rows :=
  have hv : (⟨[0, 2], [⟨1, F32.one⟩, ⟨0, F32.two⟩], 0⟩ : SparsePage).Valid := by decide
  ⟨hv, sortIndices_sorts SortContract.mergeSort hv⟩

/-- `SortRows` keeps the offsets and the base row, and on a valid page without NaN values
turns every row into a permutation of itself that is non-decreasing by value. -/
theorem sortRows_sorts (S : SortContract) {page : SparsePage} (hp : page.Valid)
    (hnan : ∀ e ∈ page.data, e.fvalue.isNaN = false) :
    (sortRows S page).Valid ∧ (sortRows S page).offset = page.offset ∧
    (sortRows S page).baseRowid = page.baseRowid ∧
    List.Forall₂ (fun r' r => r'.Perm r ∧ r'.Pairwise fun a b => a.fvalue.key ≤ b.fvalue.key)
      (sortRows S page).rows page.rows := by
  refine ⟨sortRows_eq_ofRows S hp ▸ valid_ofRows _ _, rfl, rfl, ?_⟩
  rw [sortRows_eq_ofRows S hp, rows_ofRows, List.forall₂_map_left_iff, List.forall₂_same]
  intro r hr
  have hr' : ∀ e ∈ S.sort Entry.cmpValue r, e.fvalue.isNaN = false := fun e he =>
    hnan e (hp.data_eq ▸ List.mem_flatten.mpr ⟨r, hr, (S.perm _ r).mem_iff.mp he⟩)
  refine ⟨S.perm _ r, (S.sorted _ r (strictWeakOrderOn_cmpValue fun e he => ?_)).imp_of_mem fun ha hb h => ?_⟩
  · exact hnan e (hp.data_eq ▸ List.mem_flatten.mpr ⟨r, hr, he⟩)
  · simp only [Entry.cmpValue, F32.flt, hr' _ ha, hr' _ hb, Bool.not_false, Bool.true_and,
      decide_eq_false_iff_not] at h
    omega

/-- One row whose two values are out of order. -/
theorem sortRows_sorts_twoEntries :
    (⟨[0, 2], [⟨0, F32.two⟩, ⟨1, F32.one⟩], 0⟩ : SparsePage).Valid ∧
    (∀ e ∈ ([⟨0, F32.two⟩, ⟨1, F32.one⟩] : List Entry), e.fvalue.isNaN = false) ∧
    (sortRows SortContract.mergeSort ⟨[0, 2], [⟨0, F32.two⟩, ⟨1, F32.one⟩], 0⟩).Valid ∧
    (sortRows SortContract.mergeSort ⟨[0, 2], [⟨0, F32.two⟩, ⟨1, F32.one⟩], 0⟩).offset = [0, 2] ∧
    (sortRows SortContract.mergeSort ⟨[0, 2], [⟨0, F32.two⟩, ⟨1, F32.one⟩], 0⟩).baseRowid = 0 ∧
    List.Forall₂ (fun r' r => r'.Perm r ∧ r'.Pairwise fun a b => a.fvalue.key ≤ b.fvalue.key)
      (sortRows SortContract.mergeSort ⟨[0, 2], [⟨0, F32.two⟩, ⟨1, F32.one⟩], 0⟩).rows
      (⟨[0, 2], [⟨0, F32.two⟩, ⟨1, F32.one⟩], 0⟩ : SparsePage).rows :=
  have hv : (⟨[0, 2], [⟨0, F32.two⟩, ⟨1, F32.one⟩], 0⟩ : SparsePage).Valid := by decide
  have hnan : ∀ e ∈ ([⟨0, F32.two⟩, ⟨1, F32.one⟩] : List Entry), e.fvalue.isNaN = false := by decide
  ⟨hv, hnan, sortRows_sorts SortContract.mergeSort hv hnan⟩

theorem isSorted_cmpIndex_iff (l : List Entry) :
    isSorted Entry.cmpIndex l = true ↔ l.Pairwise fun a b => a.index.toNat ≤ b.index.toNat := by
  have : IsTrans Entry fun a b => a.index.toNat ≤ b.index.toNat := ⟨fun _ _ _ => Nat.le_trans⟩
  rw [isSorted_iff_chain', ← List.chain'_iff_pairwise]
  simp [Entry.cmpIndex]

/-! ## The sorted-row count -/

/-- A thread's `int32_t` counter holds the number of rows it found sorted, wrapped to 32 bits. -/
theorem foldl_intAdd_countP_bmod (p : Nat → Bool) :
    ∀ (l : List Nat) (a : Int),
      l.foldl (fun acc i => intAdd acc (if p i then 1 else 0)) (Int.bmod a (2 ^ 32)) =
        Int.bmod (a + l.countP p) (2 ^ 32)
  | [], a => by simp
  | i :: l, a => by
    rw [List.foldl_cons, intAdd, Int.bmod_add_bmod_congr, foldl_intAdd_countP_bmod p l, List.countP_cons]
    congr 1
    split <;> omega

theorem foldl_intAdd_countP (p : Nat → Bool) (l : List Nat) :
    l.foldl (fun acc i => intAdd acc (if p i then 1 else 0)) 0 = Int.bmod (l.countP p) (2 ^ 32) := by
  simpa using foldl_intAdd_countP_bmod p l 0

theorem foldl_add_mod (m : Nat) : ∀ (l : List Nat) (a : Nat),
    l.foldl (fun s c => (s + c) % m) (a % m) = (a + l.sum) % m
  | [], a => by simp
  | c :: l, a => by
    rw [List.foldl_cons, Nat.mod_add_mod, foldl_add_mod m l, List.sum_cons, Nat.add_assoc]

/-- On a page of fewer than `2^31` rows no counter overflows, and `IsIndicesSorted`
holds exactly when every row is sorted by `Entry::CmpIndex`, whatever the thread count. -/
theorem isIndicesSorted_iff_of_lt (sched : StaticSchedule) (page : SparsePage) (nThreads : Nat)
    (hsize : page.size < 2 ^ 31) :
    isIndicesSorted sched page nThreads = true ↔ ∀ i < page.size, isSorted Entry.cmpIndex (page.inst i) = true := by
  set t := max (min nThreads page.size) 1
  set p := fun i => isSorted Entry.cmpIndex (page.inst i)
  have hblock : ∀ tid ∈ List.range t, (sched.iterations page.size t tid).length ≤ page.size := fun tid ht => by
    have := (List.sublist_flatten_of_mem (List.mem_map_of_mem (sched.iterations page.size t) ht)).length_le
    rwa [← List.flatMap_def, sched.flatMap_iterations page.size (by omega), List.length_range] at this
  have hcount : (List.range t).map (fun tid => intToSize ((sched.iterations page.size t tid).foldl
      (fun acc i => intAdd acc (if p i then 1 else 0)) 0)) =
      (List.range t).map fun tid => (sched.iterations page.size t tid).countP p := List.map_congr_left fun tid ht => by
    have := hblock tid ht
    have := List.countP_le_length p (l := sched.iterations page.size t tid)
    rw [foldl_intAdd_countP, bmod_of_lt (by omega) (by omega), intToSize_of_nonneg (by omega) (by omega)]
    rfl
  have hsum : ((List.range t).map fun tid => (sched.iterations page.size t tid).countP p).sum =
      (List.range page.size).countP p := by
    rw [← sched.flatMap_iterations page.size (by omega : 0 < t), List.flatMap_def, List.countP_flatten, List.map_map]
    rfl
  have hlt : (List.range page.size).countP p < 2 ^ 64 := by
    have := List.countP_le_length p (l := List.range page.size)
    rw [List.length_range] at this
    omega
  simp only [isIndicesSorted, beq_iff_eq]
  rw [hcount, ← Nat.zero_mod (2 ^ 64), foldl_add_mod, Nat.zero_add, hsum, Nat.mod_eq_of_lt hlt]
  have key : (List.range page.size).countP p = (List.range page.size).length ↔ _ := List.countP_eq_length
  rw [List.length_range] at key
  rw [key]
  simp [p]

/-- With one thread there is one counter, over every row. -/
theorem isIndicesSorted_one (sched : StaticSchedule) (page : SparsePage) :
    isIndicesSorted sched page 1 = (intToSize (Int.bmod ((List.range page.size).countP
      fun i => isSorted Entry.cmpIndex (page.inst i)) (2 ^ 32)) % 2 ^ 64 == page.size) := by
  have ht : max (min 1 page.size) 1 = 1 := by omega
  have hit : sched.iterations page.size 1 0 = List.range page.size := by
    have := sched.flatMap_iterations page.size Nat.one_pos
    rwa [show List.range 1 = [0] from rfl, List.flatMap_singleton] at this
  unfold isIndicesSorted
  dsimp only
  rw [ht, show List.range 1 = [0] from rfl, List.map_singleton, List.foldl_cons, List.foldl_nil, hit,
    foldl_intAdd_countP, Nat.zero_add]

/-- From `2^31` rows on, one thread's counter wraps negative when every row is sorted,
and its `std::size_t` image misses `Size()`. -/
theorem isIndicesSorted_one_eq_false (sched : StaticSchedule) (page : SparsePage)
    (hsorted : ∀ i < page.size, isSorted Entry.cmpIndex (page.inst i) = true)
    (h1 : 2 ^ 31 ≤ page.size) (h2 : page.size < 2 ^ 32) : isIndicesSorted sched page 1 = false := by
  have hcount : (List.range page.size).countP (fun i => isSorted Entry.cmpIndex (page.inst i)) = page.size := by
    rw [List.countP_eq_length.mpr (fun i hi => hsorted i (List.mem_range.mp hi)), List.length_range]
  have hwrap : Int.bmod page.size (2 ^ 32) = page.size - 2 ^ 32 := by
    rw [Int.bmod_def]
    split <;> omega
  rw [isIndicesSorted_one, hcount, hwrap, intToSize]
  simp only [beq_eq_false_iff_ne, ne_eq]
  omega

theorem inst_replicate_nil (n : Nat) (b : UInt64) (i : Nat) : (ofRows (List.replicate n []) b).inst i = [] := by
  rw [inst_ofRows, List.getD_eq_getElem?_getD, List.getElem?_replicate]
  split <;> rfl

/-- A page of `2^31` to `2^32 - 1` empty rows: every row is sorted, and on one thread
`IsIndicesSorted` is false. -/
theorem isIndicesSorted_replicate_nil (sched : StaticSchedule) {n : Nat} (b : UInt64)
    (h1 : 2 ^ 31 ≤ n) (h2 : n < 2 ^ 32) :
    (∀ i < (ofRows (List.replicate n []) b).size,
      isSorted Entry.cmpIndex ((ofRows (List.replicate n []) b).inst i) = true) ∧
    isIndicesSorted sched (ofRows (List.replicate n []) b) 1 = false := by
  have hsorted : ∀ i < (ofRows (List.replicate n []) b).size,
      isSorted Entry.cmpIndex ((ofRows (List.replicate n []) b).inst i) = true := fun i _ => by
    rw [inst_replicate_nil]; rfl
  have hsize : (ofRows (List.replicate n []) b).size = n := by rw [size_ofRows, List.length_replicate]
  exact ⟨hsorted, isIndicesSorted_one_eq_false sched _ hsorted (by omega) (by omega)⟩

/-- A valid page of `2^31` empty rows, each of them sorted: on one thread the counter
wraps, and `IsIndicesSorted(1)` is false. -/
theorem isIndicesSorted_emptyRows_wraps (sched : StaticSchedule) :
    (ofRows (List.replicate (2 ^ 31) []) 0).Valid ∧
    (∀ i < (ofRows (List.replicate (2 ^ 31) []) 0).size,
      isSorted Entry.cmpIndex ((ofRows (List.replicate (2 ^ 31) []) 0).inst i) = true) ∧
    isIndicesSorted sched (ofRows (List.replicate (2 ^ 31) []) 0) 1 = false :=
  ⟨valid_ofRows _ _, isIndicesSorted_replicate_nil sched 0 (by norm_num) (by norm_num)⟩

/-- After `SortIndices`, a valid page of fewer than `2^31` rows passes `IsIndicesSorted`
for every thread count. -/
theorem isIndicesSorted_sortIndices (sched : StaticSchedule) (S : SortContract) {page : SparsePage}
    (hp : page.Valid) (hsize : page.size < 2 ^ 31) (m : Nat) : isIndicesSorted sched (sortIndices S page) m = true := by
  refine (isIndicesSorted_iff_of_lt sched (sortIndices S page) m hsize).mpr fun i hi => ?_
  rw [sortIndices_eq_ofRows S hp, inst_ofRows, getD_map_rows hp _ hi, isSorted_cmpIndex_iff]
  exact pairwise_sort_cmpIndex S _

/-- The page of `sortIndices_sorts_twoEntries`, checked by four threads. -/
theorem isIndicesSorted_sortIndices_twoEntries :
    (⟨[0, 2], [⟨1, F32.one⟩, ⟨0, F32.two⟩], 0⟩ : SparsePage).Valid ∧
    (⟨[0, 2], [⟨1, F32.one⟩, ⟨0, F32.two⟩], 0⟩ : SparsePage).size < 2 ^ 31 ∧
    isIndicesSorted StaticSchedule.even
      (sortIndices SortContract.mergeSort ⟨[0, 2], [⟨1, F32.one⟩, ⟨0, F32.two⟩], 0⟩) 4 = true :=
  have hv : (⟨[0, 2], [⟨1, F32.one⟩, ⟨0, F32.two⟩], 0⟩ : SparsePage).Valid := by decide
  have hs : (⟨[0, 2], [⟨1, F32.one⟩, ⟨0, F32.two⟩], 0⟩ : SparsePage).size < 2 ^ 31 := by decide
  ⟨hv, hs, isIndicesSorted_sortIndices StaticSchedule.even SortContract.mergeSort hv hs 4⟩

/-- `SortIndices` on the page of `2^31` empty rows: afterwards every row is sorted, and
`IsIndicesSorted(1)` is false. -/
theorem sortIndices_emptyRows_not_isIndicesSorted (S : SortContract) (sched : StaticSchedule) :
    (∀ i < (sortIndices S (ofRows (List.replicate (2 ^ 31) []) 0)).size,
      isSorted Entry.cmpIndex ((sortIndices S (ofRows (List.replicate (2 ^ 31) []) 0)).inst i) = true) ∧
    isIndicesSorted sched (sortIndices S (ofRows (List.replicate (2 ^ 31) []) 0)) 1 = false := by
  rw [sortIndices_ofRows, List.map_replicate, S.sort_nil]
  exact isIndicesSorted_replicate_nil sched 0 (by norm_num) (by norm_num)

end SparsePage

end XGBoostData
