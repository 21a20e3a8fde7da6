import XGBoostData.Data.SparsePage

/-!
# The parallel group builder (spec §4.2)

WHAT THIS FILE IS FOR.  `common::ParallelGroupBuilder` (`common/group_data.h`) is not
in the excerpt; `SparsePage::Push` and `SparsePage::GetTranspose` drive it, and almost
everything they compute is decided inside it.  It is modelled here from spec §4.2:

* `InitBudget(max_key, nthread)` allocates one zero counter per group for every thread;
* `AddBudget(key, tid)` increments thread `tid`'s counter for group `key - base`, growing
  the thread's row when the key lies past it (the source relies on this: the estimate it
  passes to `InitBudget` "is not required to be exact but prevents unnecessary resizing");
* `InitStorage()` sums each group over the threads, appends the prefix sums to the
  target `offset`, resizes `data` to the new last offset, and turns every counter into a
  write cursor: group `g`'s start, plus the budget of the threads below `t` for `g`;
* `Push(key, value, tid)` writes at the cursor of `(tid, key - base)` and advances it.

THE LOAD-BEARING INVARIANT.  Pass 2 is a list of `Placement`s in *any* order.  As long as
each `(thread, group)` pair places exactly as many values as it budgeted, every write
lands in that pair's own range `[init t g, init t g + budget t g)`, the ranges of
different pairs are disjoint, and the ranges of one group tile the group's slot in
`data` in thread order.  `placeInv_placePass` proves it for every order of the writes, which
is why the result depends only on each thread's own sequence of writes and not on how
the threads interleave.  `writes_initStorage` reads the same invariant off the slots the
writes hit: each lies between its group's offsets, and the new part of `data` is written
exactly once, slot by slot, and pass 2 leaves `data` as those writes make it
(`TwoPassSound` collects the four facts).
-/

set_option autoImplicit false

namespace XGBoostData

/-! ## Buckets by key -/

section Buckets

variable {α : Type} (k : α → Nat)

/-- The elements of key `0`, then those of key `1`, and so on below `C`: a permutation of
the elements whose key is below `C`. -/
theorem flatMap_filter_key_perm (l : List α) :
    ∀ C, ((List.range C).flatMap fun c => l.filter (k · == c)).Perm (l.filter fun a => decide (k a < C))
  | 0 => by simp
  | C + 1 => by
    rw [List.range_succ, List.flatMap_append, List.flatMap_singleton]
    have h1 : (l.filter fun a => decide (k a < C + 1)).filter (fun a => decide (k a < C)) =
        l.filter fun a => decide (k a < C) := by
      rw [List.filter_filter]
      refine List.filter_congr fun a _ => ?_
      rw [Bool.eq_iff_iff]
      simp only [Bool.and_eq_true, decide_eq_true_eq]
      omega
    have h2 : (l.filter fun a => decide (k a < C + 1)).filter (fun a => !decide (k a < C)) =
        l.filter (k · == C) := by
      rw [List.filter_filter]
      refine List.filter_congr fun a _ => ?_
      rw [Bool.eq_iff_iff]
      simp only [Bool.and_eq_true, Bool.not_eq_true', decide_eq_false_iff_not, decide_eq_true_eq, beq_iff_eq]
      omega
    have := List.filter_append_perm (fun a => decide (k a < C)) (l.filter fun a => decide (k a < C + 1))
    rw [h1, h2] at this
    exact ((flatMap_filter_key_perm l C).append_right _).trans this

theorem flatMap_filter_key_perm_of_lt {l : List α} {C : Nat} (h : ∀ a ∈ l, k a < C) :
    ((List.range C).flatMap fun c => l.filter (k · == c)).Perm l := by
  have := flatMap_filter_key_perm k l C
  rwa [List.filter_eq_self.mpr fun a ha => decide_eq_true (h a ha)] at this

/-- Counting the elements key by key below a bound on the keys counts them all. -/
theorem sum_length_filter_key {l : List α} {C : Nat} (h : ∀ a ∈ l, k a < C) :
    ((List.range C).map fun c => (l.filter (k · == c)).length).sum = l.length := by
  rw [← (flatMap_filter_key_perm_of_lt k h).length_eq, List.length_flatMap]
  rfl

end Buckets

namespace GroupBuilder

/-! ## Pass 1: the budget table -/

/-- One call `Push(key, value, tid)` of the placement pass; pass 1 budgets for it with
`AddBudget(key, tid)`. -/
structure Placement (α : Type) where
  tid : Nat
  key : Nat
  value : α
  deriving DecidableEq, Repr

section Budget

variable {α : Type}

/-- `thread_rptr_[t][g]`, and `0` outside the table. -/
def cell (tbl : List (List Nat)) (t g : Nat) : Nat := (tbl.getD t []).getD g 0

/-- The number of groups thread `t`'s row of the table covers. -/
def rowLength (tbl : List (List Nat)) (t : Nat) : Nat := (tbl.getD t []).length

/-- How many counters `InitBudget(max_key, nthread)` gives each thread of a builder whose
first group is `base`.  A row-major builder is handed the number of new groups (the
batch size); a column-major one a bound on the keys in the page's numbering (the last
element's key), of which the keys below `base` are not its own. -/
def budgetExtent (isRowMajor : Bool) (base maxKey : Nat) : Nat :=
  if isRowMajor then maxKey else maxKey - base

/-- `InitBudget(max_key, nthread)`: `maxKey` zero counters for each of `nthread` threads. -/
def initBudget (maxKey nthread : Nat) : List (List Nat) :=
  List.replicate nthread (List.replicate maxKey 0)

/-- `std::vector<T>::max_size()` for an 8-byte `T` (the builder's `std::size_t` counters,
the page's offsets) in libstdc++ on a 64-bit target: `PTRDIFF_MAX / 8`.  `resize` past it
throws `std::length_error`; a caller that asks `InitBudget` or `Resize` for more raises. -/
def vectorMaxSize : Nat := (2 ^ 63 - 1) / 8

/-- One thread's row after `AddBudget` on the relative key `k`: grown to hold `k`, then
incremented there. -/
def addBudgetRow (trptr : List Nat) (k : Nat) : List Nat :=
  (trptr ++ List.replicate (k + 1 - trptr.length) 0).modify (· + 1) k

/-- `AddBudget(key, tid)` on a builder whose first group is `base`.  Spec §4.2 rejects a
key below `base`; no caller passes one.  `Push` raises on it first (`CHECK_GE` in
`countElement`; `firstPass_ok` gives every key at least `Size()` once pass 1 returns),
and `GetTranspose` builds from base 0, so `key - base` is never truncated here. -/
def addBudget (base : Nat) (tbl : List (List Nat)) (key tid : Nat) : List (List Nat) :=
  tbl.modify (addBudgetRow · (key - base)) tid

/-- Pass 1: `AddBudget` once for every placement pass 2 will make. -/
def countPass (base : Nat) (tbl : List (List Nat)) (W : List (Placement α)) : List (List Nat) :=
  W.foldl (fun tbl w => addBudget base tbl w.key w.tid) tbl

/-- The call `AddBudget(key, tid)` that budgets for a placement: the placement without
its value. -/
def Placement.budgetCall (w : Placement α) : Placement Unit := ⟨w.tid, w.key, ()⟩

/-- Pass 1 only reads the thread and the key of each call. -/
theorem countPass_map_budgetCall (base : Nat) (tbl : List (List Nat)) (W : List (Placement α)) :
    countPass base tbl (W.map Placement.budgetCall) = countPass base tbl W := by
  simp only [countPass, List.foldl_map, Placement.budgetCall]

/-- The placements thread `t` makes into group `g`. -/
def ofPair (base t g : Nat) (W : List (Placement α)) : List (Placement α) :=
  W.filter (fun w => w.tid == t && w.key - base == g)

/-- A thread past every placement's thread places nothing. -/
theorem ofPair_eq_nil {base t g n : Nat} {W : List (Placement α)} (hW : ∀ x ∈ W, x.tid < n) (ht : n ≤ t) :
    ofPair base t g W = [] :=
  List.filter_eq_nil_iff.mpr fun x hx => by
    have := hW x hx
    simp only [Bool.and_eq_true, beq_iff_eq, not_and]
    omega

/-- At least `n`, and one past every group that `W` names. -/
def groupsNeeded (base n : Nat) (W : List (Placement α)) : Nat :=
  W.foldl (fun m w => max m (w.key - base + 1)) n

theorem getD_modify_succ (l : List Nat) (k j : Nat) :
    (l.modify (· + 1) k).getD j 0 = l.getD j 0 + if k = j ∧ j < l.length then 1 else 0 := by
  simp only [List.getD_eq_getElem?_getD, List.getElem?_modify]
  by_cases hj : j < l.length
  · by_cases hk : k = j <;> simp [hk, hj, List.getElem?_eq_getElem hj]
  · simp [hj, List.getElem?_eq_none (Nat.le_of_not_lt hj)]

theorem getD_append_replicate_zero (l : List Nat) (n j : Nat) :
    (l ++ List.replicate n 0).getD j 0 = l.getD j 0 := by
  simp only [List.getD_eq_getElem?_getD]
  by_cases hj : j < l.length
  · rw [List.getElem?_append_left hj]
  · rw [List.getElem?_append_right (Nat.le_of_not_lt hj), List.getElem?_eq_none (Nat.le_of_not_lt hj),
      List.getElem?_replicate]
    split <;> rfl

@[simp] theorem length_addBudgetRow (trptr : List Nat) (k : Nat) :
    (addBudgetRow trptr k).length = max trptr.length (k + 1) := by
  simp only [addBudgetRow, List.length_modify, List.length_append, List.length_replicate]
  omega

theorem getD_addBudgetRow (trptr : List Nat) (k j : Nat) :
    (addBudgetRow trptr k).getD j 0 = trptr.getD j 0 + if k = j then 1 else 0 := by
  rw [addBudgetRow, getD_modify_succ, getD_append_replicate_zero, List.length_append, List.length_replicate]
  by_cases hk : k = j
  · rw [if_pos ⟨hk, by omega⟩, if_pos hk]
  · rw [if_neg fun h => hk h.1, if_neg hk]

@[simp] theorem length_addBudget (base : Nat) (tbl : List (List Nat)) (key tid : Nat) :
    (addBudget base tbl key tid).length = tbl.length := by
  simp [addBudget]

theorem getD_modify_of_ne {β : Type} (f : β → β) (l : List β) {i t : Nat} (d : β) (h : i ≠ t) :
    (l.modify f i).getD t d = l.getD t d := by
  simp [List.getElem?_modify_ne _ _ h]

theorem getD_modify_self {β : Type} (f : β → β) (l : List β) {t : Nat} (d : β) (h : t < l.length) :
    (l.modify f t).getD t d = f (l.getD t d) := by
  simp [List.getElem?_eq_getElem h]

theorem cell_addBudget (base : Nat) (tbl : List (List Nat)) (key tid t g : Nat) (ht : t < tbl.length) :
    cell (addBudget base tbl key tid) t g = cell tbl t g + if tid = t ∧ key - base = g then 1 else 0 := by
  unfold cell addBudget
  by_cases h : tid = t
  · subst h
    rw [getD_modify_self _ _ _ ht, getD_addBudgetRow]
    simp
  · rw [getD_modify_of_ne _ _ _ h]
    simp [h]

theorem rowLength_addBudget (base : Nat) (tbl : List (List Nat)) (key tid t : Nat) (ht : t < tbl.length) :
    rowLength (addBudget base tbl key tid) t =
      if tid = t then max (rowLength tbl t) (key - base + 1) else rowLength tbl t := by
  unfold rowLength addBudget
  by_cases h : tid = t
  · subst h
    rw [getD_modify_self _ _ _ ht, length_addBudgetRow, if_pos rfl]
  · rw [getD_modify_of_ne _ _ _ h, if_neg h]

@[simp] theorem length_countPass (base : Nat) (tbl : List (List Nat)) (W : List (Placement α)) :
    (countPass base tbl W).length = tbl.length := by
  induction W generalizing tbl <;> simp_all [countPass]

/-- After pass 1, thread `t`'s counter for group `g` is the number of placements it
makes into `g`. -/
theorem cell_countPass (base : Nat) (tbl : List (List Nat)) (W : List (Placement α)) {t : Nat}
    (ht : t < tbl.length) (g : Nat) :
    cell (countPass base tbl W) t g = cell tbl t g + (ofPair base t g W).length := by
  induction W generalizing tbl with
  | nil => rfl
  | cons w W ih =>
    simp only [countPass, List.foldl_cons] at ih ⊢
    rw [ih _ (by simpa using ht), cell_addBudget _ _ _ _ _ _ ht, ofPair, ofPair, List.filter_cons]
    by_cases h : w.tid = t ∧ w.key - base = g
    · rw [if_pos h, if_pos (by simp [h]), List.length_cons]
      omega
    · rw [if_neg h, if_neg (by simpa using h), Nat.add_zero]

/-- After pass 1, thread `t`'s row covers every group it places into, and no more than
its initial row and those groups. -/
theorem rowLength_countPass (base : Nat) (tbl : List (List Nat)) (W : List (Placement α)) {t : Nat}
    (ht : t < tbl.length) :
    rowLength (countPass base tbl W) t =
      groupsNeeded base (rowLength tbl t) (W.filter (fun w => w.tid == t)) := by
  induction W generalizing tbl with
  | nil => rfl
  | cons w W ih =>
    simp only [countPass, List.foldl_cons] at ih ⊢
    rw [ih _ (by simpa using ht), rowLength_addBudget _ _ _ _ _ ht]
    by_cases h : w.tid = t
    · rw [if_pos h, List.filter_cons_of_pos (by simp [h])]
      rfl
    · rw [if_neg h, List.filter_cons_of_neg (by simpa using h)]

theorem le_groupsNeeded (base n : Nat) (W : List (Placement α)) : n ≤ groupsNeeded base n W := by
  induction W generalizing n with
  | nil => exact Nat.le_refl n
  | cons w W ih => exact Nat.le_trans (Nat.le_max_left _ _) (ih _)

theorem lt_groupsNeeded {base n : Nat} {W : List (Placement α)} {w : Placement α} (hw : w ∈ W) :
    w.key - base < groupsNeeded base n W := by
  induction W generalizing n with
  | nil => simp at hw
  | cons x W ih =>
    rcases List.mem_cons.mp hw with rfl | hw
    · exact Nat.lt_of_lt_of_le (Nat.lt_of_lt_of_le (Nat.lt_succ_self _) (Nat.le_max_right n _))
        (le_groupsNeeded base _ W)
    · exact ih hw

/-- `groupsNeeded` is attained: it is `n`, or one past a group that `W` names. -/
theorem groupsNeeded_cases (base n : Nat) (W : List (Placement α)) :
    groupsNeeded base n W = n ∨ ∃ w ∈ W, groupsNeeded base n W = w.key - base + 1 := by
  induction W generalizing n with
  | nil => exact .inl rfl
  | cons w W ih =>
    rcases ih (max n (w.key - base + 1)) with h | ⟨x, hx, h⟩
    · simp only [groupsNeeded, List.foldl_cons] at h ⊢
      rw [h]
      rcases Nat.le_total n (w.key - base + 1) with hle | hle
      · exact .inr ⟨w, List.mem_cons_self _ _, Nat.max_eq_right hle⟩
      · exact .inl (Nat.max_eq_left hle)
    · exact .inr ⟨x, List.mem_cons_of_mem _ hx, h⟩

end Budget

/-! ## Slices of a list under single writes -/

section Writes

variable {α : Type}

/-- A write at or after position `n` leaves the first `n` elements alone. -/
theorem take_set_of_le (l : List α) {n p : Nat} (v : α) (h : n ≤ p) :
    (l.set p v).take n = l.take n := by
  apply List.ext_getElem?
  intro i
  rw [List.getElem?_take, List.getElem?_take, List.getElem?_set]
  split
  · rw [if_neg (by omega)]
  · rfl

/-- A write outside a slice leaves the slice alone. -/
theorem take_drop_set_of_disjoint (l : List α) {p a n : Nat} (v : α) (h : p < a ∨ a + n ≤ p) :
    ((l.set p v).drop a).take n = (l.drop a).take n := by
  apply List.ext_getElem?
  intro i
  rw [List.getElem?_take, List.getElem?_take, List.getElem?_drop, List.getElem?_drop,
    List.getElem?_set]
  split
  · rw [if_neg (by omega)]
  · rfl

/-- A write just past a slice extends the slice by the written value. -/
theorem take_drop_set_succ (l : List α) {a n : Nat} (v : α) (h : a + n < l.length) :
    ((l.set (a + n) v).drop a).take (n + 1) = (l.drop a).take n ++ [v] := by
  apply List.ext_getElem?
  intro i
  have hlen : ((l.drop a).take n).length = n := by rw [List.length_take, List.length_drop]; omega
  rw [List.getElem?_take, List.getElem?_drop, List.getElem?_set]
  rcases Nat.lt_trichotomy i n with hi | rfl | hi
  · rw [if_pos (by omega), if_neg (by omega), List.getElem?_append_left (by omega),
      List.getElem?_take_of_lt hi, List.getElem?_drop]
  · rw [if_pos (by omega), if_pos rfl, if_pos h, List.getElem?_append_right (by omega), hlen, Nat.sub_self]
    rfl
  · rw [if_neg (by omega), List.getElem?_eq_none (by rw [List.length_append, hlen, List.length_singleton]; omega)]

/-- Slices laid end to end, each holding its group, make up the groups' concatenation. -/
theorem take_drop_eq_flatten (d : List α) (a : Nat) {S c : Nat → Nat} (f : Nat → List α)
    (h0 : S 0 = 0) (hS : ∀ k, S (k + 1) = S k + c k) :
    ∀ n, (∀ k < n, (d.drop (a + S k)).take (c k) = f k) →
      (d.drop a).take (S n) = ((List.range n).map f).flatten := by
  intro n
  induction n with
  | zero => intro _; rw [h0]; rfl
  | succ n ih =>
    intro hf
    rw [hS, List.take_add, ih (fun k hk => hf k (by omega)), List.drop_drop, hf n (by omega),
      List.range_succ, List.map_append, List.flatten_append]
    simp

end Writes

/-! ## `InitStorage`: prefix sums and write cursors -/

section Storage

variable {α : Type}

/-- The number of groups storage is laid out for: the longest row of the table. -/
def numGroups (tbl : List (List Nat)) : Nat := (tbl.map List.length).foldl max 0

/-- Group `g`'s budget summed over the threads. -/
def groupTotal (tbl : List (List Nat)) (g : Nat) : Nat := (tbl.map (·.getD g 0)).sum

/-- The entries of the groups before `g`. -/
def groupStart (tbl : List (List Nat)) (g : Nat) : Nat := ((List.range g).map (groupTotal tbl)).sum

/-- Group `g`'s budget of the threads before `t`. -/
def threadStart (tbl : List (List Nat)) (t g : Nat) : Nat := ((tbl.take t).map (·.getD g 0)).sum

/-- Where thread `t` starts writing group `g`, when the new groups start at `top`. -/
def cursorStart (top : Nat) (tbl : List (List Nat)) (t g : Nat) : Nat :=
  top + groupStart tbl g + threadStart tbl t g

/-- The write cursors `InitStorage` leaves in the table: one per counter. -/
def cursors (top : Nat) (tbl : List (List Nat)) : List (List Nat) :=
  (List.range tbl.length).map fun t => (List.range (rowLength tbl t)).map (cursorStart top tbl t)

/-- `InitStorage()`: the new offsets (the old ones, then the running ends of the new
groups), `data` resized to the new last offset, and the write cursors. -/
def initStorage [Inhabited α] (rptr : List Nat) (data : List α) (tbl : List (List Nat)) :
    List Nat × List α × List (List Nat) :=
  let top := rptr.getLast?.getD 0
  (rptr ++ (List.range (numGroups tbl)).map (fun g => top + groupStart tbl (g + 1)),
    resize data (top + groupStart tbl (numGroups tbl)),
    cursors top tbl)

/-- `Push(key, value, tid)`: write at the cursor of `(tid, key - base)`, advance it. -/
def push (base : Nat) (st : List α × List (List Nat)) (w : Placement α) :
    List α × List (List Nat) :=
  (st.1.set (cell st.2 w.tid (w.key - base)) w.value,
    st.2.modify (·.modify (· + 1) (w.key - base)) w.tid)

/-- Pass 2: the placements, in the order the threads happen to make them. -/
def placePass (base : Nat) (st : List α × List (List Nat)) (W : List (Placement α)) :
    List α × List (List Nat) :=
  W.foldl (push base) st

/-- The slot each `Push` of pass 2 writes: the placement, with the cursor it writes at. -/
def writes (base : Nat) : List α × List (List Nat) → List (Placement α) → List (Placement α × Nat)
  | _, [] => []
  | st, w :: W => (w, cell st.2 w.tid (w.key - base)) :: writes base (push base st w) W

@[simp] theorem map_fst_writes (base : Nat) :
    ∀ (st : List α × List (List Nat)) (W : List (Placement α)), (writes base st W).map Prod.fst = W
  | _, [] => rfl
  | st, w :: W => by rw [writes, List.map_cons, map_fst_writes base (push base st w) W]

/-- Pass 2 on `data` is the writes of `writes`, one after another. -/
theorem placePass_fst_eq_writes (base : Nat) :
    ∀ (st : List α × List (List Nat)) (W : List (Placement α)),
      (placePass base st W).1 = (writes base st W).foldl (fun d x => d.set x.2 x.1.value) st.1
  | _, [] => rfl
  | st, w :: W => placePass_fst_eq_writes base (push base st w) W

theorem threadStart_succ (tbl : List (List Nat)) (t g : Nat) :
    threadStart tbl (t + 1) g = threadStart tbl t g + cell tbl t g := by
  unfold threadStart cell
  rw [List.take_succ, List.map_append, List.sum_append]
  rcases h : tbl[t]? with _ | row <;> simp [h]

theorem threadStart_le_of_le (tbl : List (List Nat)) (g : Nat) {t t' : Nat} (h : t ≤ t') :
    threadStart tbl t g ≤ threadStart tbl t' g := by
  induction h with
  | refl => exact Nat.le_refl _
  | step _ ih => rw [threadStart_succ]; omega

theorem threadStart_length (tbl : List (List Nat)) (g : Nat) :
    threadStart tbl tbl.length g = groupTotal tbl g := by
  simp [threadStart, groupTotal]

theorem threadStart_le_groupTotal (tbl : List (List Nat)) (t g : Nat) :
    threadStart tbl t g ≤ groupTotal tbl g := by
  rcases Nat.le_total t tbl.length with h | h
  · exact threadStart_length tbl g ▸ threadStart_le_of_le tbl g h
  · simp [threadStart, groupTotal, List.take_of_length_le h]

theorem groupStart_succ (tbl : List (List Nat)) (g : Nat) :
    groupStart tbl (g + 1) = groupStart tbl g + groupTotal tbl g := by
  simp [groupStart, List.range_succ]

theorem groupStart_le_of_le (tbl : List (List Nat)) {g g' : Nat} (h : g ≤ g') :
    groupStart tbl g ≤ groupStart tbl g' := by
  induction h with
  | refl => exact Nat.le_refl _
  | step _ ih => rw [groupStart_succ]; omega

/-- The ranges of two different `(thread, group)` pairs do not overlap. -/
theorem cursorStart_disjoint (top : Nat) (tbl : List (List Nat)) {t g t' g' : Nat}
    (hne : ¬ (t = t' ∧ g = g')) :
    cursorStart top tbl t g + cell tbl t g ≤ cursorStart top tbl t' g' ∨
      cursorStart top tbl t' g' + cell tbl t' g' ≤ cursorStart top tbl t g := by
  have key : ∀ {t g t' g'}, g < g' ∨ (g = g' ∧ t < t') →
      cursorStart top tbl t g + cell tbl t g ≤ cursorStart top tbl t' g' := by
    intro t g t' g' h
    unfold cursorStart
    have hs := threadStart_succ tbl t g
    rcases h with h | ⟨rfl, h⟩
    · have h1 := threadStart_le_groupTotal tbl (t + 1) g
      have h2 := groupStart_le_of_le tbl (show g + 1 ≤ g' by omega)
      rw [groupStart_succ] at h2
      omega
    · have := threadStart_le_of_le tbl g (show t + 1 ≤ t' by omega)
      omega
  rcases Nat.lt_trichotomy g g' with h | rfl | h
  · exact .inl (key (.inl h))
  · rcases Nat.lt_trichotomy t t' with h | rfl | h
    · exact .inl (key (.inr ⟨rfl, h⟩))
    · exact absurd ⟨rfl, rfl⟩ hne
    · exact .inr (key (.inr ⟨rfl, h⟩))
  · exact .inr (key (.inl h))

theorem le_foldl_max (l : List Nat) (a : Nat) {x : Nat} (h : x ∈ l ∨ x ≤ a) :
    x ≤ l.foldl max a := by
  induction l generalizing a with
  | nil => simpa using h
  | cons y l ih =>
    rw [List.foldl_cons]
    rcases h with h | h
    · rcases List.mem_cons.mp h with rfl | h
      · exact ih _ (.inr (Nat.le_max_right _ _))
      · exact ih _ (.inl h)
    · exact ih _ (.inr (Nat.le_trans h (Nat.le_max_left _ _)))

theorem foldl_max_le (l : List Nat) {a b : Nat} (ha : a ≤ b) (hl : ∀ x ∈ l, x ≤ b) :
    l.foldl max a ≤ b := by
  induction l generalizing a with
  | nil => exact ha
  | cons y l ih =>
    exact ih (Nat.max_le.mpr ⟨ha, hl y (List.mem_cons_self _ _)⟩)
      (fun x hx => hl x (List.mem_cons_of_mem _ hx))

theorem rowLength_le_numGroups {tbl : List (List Nat)} {t : Nat} (ht : t < tbl.length) :
    rowLength tbl t ≤ numGroups tbl :=
  le_foldl_max _ _ (.inl (List.mem_map.mpr ⟨tbl[t], List.getElem_mem ht, by simp [rowLength, ht]⟩))

theorem groupsNeeded_le {base n b : Nat} {W : List (Placement α)} (hn : n ≤ b)
    (hW : ∀ w ∈ W, w.key - base < b) : groupsNeeded base n W ≤ b :=
  foldl_max_le_aux W hn hW
where
  foldl_max_le_aux : ∀ (W : List (Placement α)) {n : Nat}, n ≤ b → (∀ w ∈ W, w.key - base < b) →
      groupsNeeded base n W ≤ b
    | [], _, hn, _ => hn
    | w :: W, _, hn, hW => foldl_max_le_aux W (Nat.max_le.mpr ⟨hn, hW w (List.mem_cons_self _ _)⟩)
        (fun x hx => hW x (List.mem_cons_of_mem _ hx))

@[simp] theorem length_cursors (top : Nat) (tbl : List (List Nat)) :
    (cursors top tbl).length = tbl.length := by
  simp [cursors]

@[simp] theorem rowLength_cursors (top : Nat) (tbl : List (List Nat)) (t : Nat) :
    rowLength (cursors top tbl) t = rowLength tbl t := by
  by_cases ht : t < tbl.length
  · simp [rowLength, cursors, ht]
  · have : (List.range tbl.length)[t]? = none := List.getElem?_eq_none (by simpa using Nat.le_of_not_lt ht)
    simp [rowLength, cursors, this, List.getElem?_eq_none (Nat.le_of_not_lt ht)]

theorem cell_cursors (top : Nat) (tbl : List (List Nat)) {t g : Nat} (hg : g < rowLength tbl t) :
    cell (cursors top tbl) t g = cursorStart top tbl t g := by
  unfold cell cursors
  by_cases ht : t < tbl.length
  · simp [ht, hg]
  · simp [rowLength, List.getElem?_eq_none (Nat.le_of_not_lt ht)] at hg

@[simp] theorem push_fst (base : Nat) (st : List α × List (List Nat)) (w : Placement α) :
    (push base st w).1 = st.1.set (cell st.2 w.tid (w.key - base)) w.value := rfl

@[simp] theorem length_push_snd (base : Nat) (st : List α × List (List Nat)) (w : Placement α) :
    (push base st w).2.length = st.2.length := by
  simp [push]

@[simp] theorem rowLength_push (base : Nat) (st : List α × List (List Nat)) (w : Placement α) (t : Nat) :
    rowLength (push base st w).2 t = rowLength st.2 t := by
  unfold rowLength push
  by_cases h : w.tid = t
  · subst h
    by_cases ht : w.tid < st.2.length
    · rw [getD_modify_self _ _ _ ht, List.length_modify]
    · rw [List.modify_eq_self (Nat.le_of_not_lt ht)]
  · rw [getD_modify_of_ne _ _ _ h]

theorem cell_push (base : Nat) (st : List α × List (List Nat)) (w : Placement α) {t g : Nat}
    (ht : t < st.2.length) (hg : g < rowLength st.2 t) :
    cell (push base st w).2 t g = cell st.2 t g + if w.tid = t ∧ w.key - base = g then 1 else 0 := by
  unfold cell push
  by_cases h : w.tid = t
  · subst h
    rw [getD_modify_self _ _ _ ht, getD_modify_succ]
    by_cases hk : w.key - base = g <;> simp_all [rowLength]
  · rw [getD_modify_of_ne _ _ _ h]
    simp [h]

theorem ofPair_append_singleton (base t g : Nat) (W : List (Placement α)) (w : Placement α) :
    ofPair base t g (W ++ [w]) = ofPair base t g W ++ if w.tid = t ∧ w.key - base = g then [w] else [] := by
  by_cases h : w.tid = t ∧ w.key - base = g <;> simp [ofPair, h]

end Storage

/-! ## Pass 2: every write lands in its own range -/

section Placement

variable {α : Type} [Inhabited α] (base top : Nat) (tbl : List (List Nat)) (data : List α)

/-- The state of pass 2 after the placements `W₁`, in whatever order they were made:
every pair `(t, g)` has written its values, in order, from the start of its range, its
cursor sits right after them, and nothing below `top` has moved. -/
structure PlaceInv (d : List α) (cur : List (List Nat)) (W₁ : List (Placement α)) : Prop where
  length_eq : d.length = top + groupStart tbl (numGroups tbl)
  take_top : d.take top = resize data top
  cur_length : cur.length = tbl.length
  cur_rowLength : ∀ t, rowLength cur t = rowLength tbl t
  cursor : ∀ t < tbl.length, ∀ g < rowLength tbl t,
    cell cur t g = cursorStart top tbl t g + (ofPair base t g W₁).length
  placed : ∀ t g, (d.drop (cursorStart top tbl t g)).take (ofPair base t g W₁).length =
    (ofPair base t g W₁).map Placement.value

theorem take_resize (l : List α) {m n : Nat} (h : m ≤ n) : (resize l n).take m = resize l m := by
  rw [resize, resize, List.take_append_eq_append_take, List.take_take, List.take_replicate, List.length_take,
    Nat.min_eq_left h]
  congr 2
  omega

/-- `InitStorage` starts pass 2 in the invariant, with nothing placed. -/
theorem placeInv_initStorage :
    PlaceInv base top tbl data (resize data (top + groupStart tbl (numGroups tbl))) (cursors top tbl) [] where
  length_eq := length_resize _ _
  take_top := take_resize _ (Nat.le_add_right _ _)
  cur_length := length_cursors _ _
  cur_rowLength := rowLength_cursors _ _
  cursor t _ g hg := by simp [cell_cursors _ _ hg, ofPair]
  placed t g := by simp [ofPair]

variable {base top tbl data}

omit [Inhabited α] in
/-- When the table counts the placements of `W₁ ++ W₂`, the placements `W₁` made so far
put no more into a pair than it budgeted. -/
theorem length_ofPair_le {W₁ W₂ : List (Placement α)} (hW : ∀ x ∈ W₁ ++ W₂, x.tid < tbl.length)
    (hcnt : ∀ t < tbl.length, ∀ g, cell tbl t g = (ofPair base t g (W₁ ++ W₂)).length) (t g : Nat) :
    (ofPair base t g W₁).length ≤ cell tbl t g := by
  by_cases ht : t < tbl.length
  · rw [hcnt t ht]
    exact (List.Sublist.filter _ (List.sublist_append_left _ _)).length_le
  · simp [ofPair_eq_nil (fun x hx => hW x (List.mem_append_left _ hx)) (Nat.le_of_not_lt ht)]

omit [Inhabited α] in
/-- ... and a pair about to place once more has budget left for it. -/
theorem length_ofPair_lt {W₁ W₂ : List (Placement α)} {w : Placement α} (ht : w.tid < tbl.length)
    (hcnt : ∀ t < tbl.length, ∀ g, cell tbl t g = (ofPair base t g (W₁ ++ w :: W₂)).length) :
    (ofPair base w.tid (w.key - base) W₁).length < cell tbl w.tid (w.key - base) := by
  rw [hcnt _ ht]
  simp [ofPair, List.filter_append]

/-- One placement keeps the invariant, as long as no pair places more than it budgeted. -/
theorem placeInv_push {W₁ W₂ : List (Placement α)} {w : Placement α} {d : List α}
    {cur : List (List Nat)}
    (hW : ∀ x ∈ W₁ ++ w :: W₂, x.tid < tbl.length ∧ x.key - base < rowLength tbl x.tid)
    (hcnt : ∀ t < tbl.length, ∀ g, cell tbl t g = (ofPair base t g (W₁ ++ w :: W₂)).length)
    (inv : PlaceInv base top tbl data d cur W₁) :
    PlaceInv base top tbl data (push base (d, cur) w).1 (push base (d, cur) w).2 (W₁ ++ [w]) := by
  obtain ⟨ht0, hg0⟩ := hW w (by simp)
  have hc := length_ofPair_lt ht0 hcnt
  have hle := length_ofPair_le (fun x hx => (hW x hx).1) hcnt
  have hpos := inv.cursor _ ht0 _ hg0
  have hend : cursorStart top tbl w.tid (w.key - base) + cell tbl w.tid (w.key - base) ≤ d.length := by
    have h1 := threadStart_succ tbl w.tid (w.key - base)
    have h2 := threadStart_le_groupTotal tbl (w.tid + 1) (w.key - base)
    have h3 := groupStart_le_of_le tbl (Nat.lt_of_lt_of_le hg0 (rowLength_le_numGroups ht0))
    rw [groupStart_succ] at h3
    rw [inv.length_eq]
    unfold cursorStart
    omega
  constructor
  · simp [inv.length_eq]
  · rw [push_fst, take_set_of_le _ _ (by rw [hpos]; unfold cursorStart; omega), inv.take_top]
  · simp [inv.cur_length]
  · intro t
    rw [rowLength_push, inv.cur_rowLength]
  · intro t ht g hg
    rw [cell_push _ _ _ (by rw [inv.cur_length]; exact ht) (by rw [inv.cur_rowLength]; exact hg),
      inv.cursor t ht g hg, ofPair_append_singleton]
    split <;> simp [Nat.add_assoc]
  · intro t g
    rw [push_fst, hpos, ofPair_append_singleton]
    by_cases h : w.tid = t ∧ w.key - base = g
    · obtain ⟨rfl, rfl⟩ := h
      simp only [and_self, if_true, List.length_append, List.length_singleton, List.map_append,
        List.map_singleton]
      rw [take_drop_set_succ _ _ (by omega), inv.placed]
    · simp only [h, if_false, List.append_nil]
      have := hle t g
      rw [take_drop_set_of_disjoint _ _ (by rcases cursorStart_disjoint top tbl h with h' | h' <;> omega),
        inv.placed]

/-- The run lemma of pass 2: from any state in the invariant, the remaining placements
lead to the invariant for all of them. -/
theorem placeInv_placePass (W : List (Placement α))
    (hW : ∀ x ∈ W, x.tid < tbl.length ∧ x.key - base < rowLength tbl x.tid)
    (hcnt : ∀ t < tbl.length, ∀ g, cell tbl t g = (ofPair base t g W).length) :
    ∀ (W₂ W₁ : List (Placement α)) (st : List α × List (List Nat)), W₁ ++ W₂ = W →
      PlaceInv base top tbl data st.1 st.2 W₁ →
      PlaceInv base top tbl data (placePass base st W₂).1 (placePass base st W₂).2 W
  | [], W₁, st, hsplit, inv => by simpa [placePass, ← hsplit] using inv
  | w :: W₂, W₁, st, hsplit, inv => by
    subst hsplit
    exact placeInv_placePass _ hW hcnt W₂ (W₁ ++ [w]) (push base st w) (by simp)
      (placeInv_push hW hcnt inv)

/-- The run lemma of the writes: from any state in the invariant, each remaining
placement writes inside its pair's range, past what the pair has written so far, and no
two of them write the same slot. -/
theorem writes_placePass (W : List (Placement α))
    (hW : ∀ x ∈ W, x.tid < tbl.length ∧ x.key - base < rowLength tbl x.tid)
    (hcnt : ∀ t < tbl.length, ∀ g, cell tbl t g = (ofPair base t g W).length) :
    ∀ (W₂ W₁ : List (Placement α)) (st : List α × List (List Nat)), W₁ ++ W₂ = W →
      PlaceInv base top tbl data st.1 st.2 W₁ →
      (∀ x ∈ writes base st W₂,
        cursorStart top tbl x.1.tid (x.1.key - base) + (ofPair base x.1.tid (x.1.key - base) W₁).length ≤ x.2 ∧
        x.2 < cursorStart top tbl x.1.tid (x.1.key - base) + cell tbl x.1.tid (x.1.key - base)) ∧
      ((writes base st W₂).map Prod.snd).Nodup
  | [], _, _, _, _ => by simp [writes]
  | w :: W₂, W₁, st, hsplit, inv => by
    subst hsplit
    obtain ⟨ht0, hg0⟩ := hW w (by simp)
    have hc := length_ofPair_lt ht0 hcnt
    have hpos := inv.cursor _ ht0 _ hg0
    obtain ⟨hrange, hnodup⟩ := writes_placePass _ hW hcnt W₂ (W₁ ++ [w]) (push base st w) (by simp)
      (placeInv_push hW hcnt inv)
    refine ⟨fun x hx => ?_, ?_⟩
    · rcases List.mem_cons.mp hx with rfl | hx
      · exact ⟨Nat.le_of_eq hpos.symm, by dsimp only; rw [hpos]; omega⟩
      · obtain ⟨h1, h2⟩ := hrange x hx
        rw [ofPair_append_singleton, List.length_append] at h1
        exact ⟨by omega, h2⟩
    · rw [writes, List.map_cons, List.nodup_cons]
      refine ⟨fun hmem => ?_, hnodup⟩
      obtain ⟨x, hx, hxpos⟩ := List.mem_map.mp hmem
      obtain ⟨h1, h2⟩ := hrange x hx
      by_cases hp : x.1.tid = w.tid ∧ x.1.key - base = w.key - base
      · rw [hp.1, hp.2, ofPair_append_singleton, if_pos ⟨rfl, rfl⟩, List.length_append] at h1
        simp only [List.length_singleton] at h1
        omega
      · rcases cursorStart_disjoint top tbl hp with h | h <;> omega

end Placement

/-! ## A whole session: `InitBudget`, pass 1, `InitStorage`, pass 2 -/

section Session

variable {α : Type} [Inhabited α]

/-- What group `g` receives, in thread order: thread 0's placements into `g`, then
thread 1's, and so on, each in the order the thread made them. -/
def groupValues (base nthread g : Nat) (W : List (Placement α)) : List α :=
  ((List.range nthread).map fun t => (ofPair base t g W).map Placement.value).flatten

@[simp] theorem length_initBudget (maxKey nthread : Nat) :
    (initBudget maxKey nthread).length = nthread := by
  simp [initBudget]

@[simp] theorem cell_initBudget (maxKey nthread t g : Nat) : cell (initBudget maxKey nthread) t g = 0 := by
  unfold cell initBudget
  by_cases ht : t < nthread <;> by_cases hg : g < maxKey <;> simp [ht, hg, List.getElem?_replicate]

theorem rowLength_initBudget {maxKey nthread t : Nat} (ht : t < nthread) :
    rowLength (initBudget maxKey nthread) t = maxKey := by
  simp [rowLength, initBudget, ht]

theorem threadStart_eq_sum (tbl : List (List Nat)) (g n : Nat) :
    threadStart tbl n g = ((List.range n).map (cell tbl · g)).sum := by
  induction n with
  | zero => rfl
  | succ n ih => rw [threadStart_succ, ih, List.range_succ, List.map_append, List.sum_append]; simp

omit [Inhabited α] in
theorem length_flatten_range {S c : Nat → Nat} (f : Nat → List α) (h0 : S 0 = 0)
    (hS : ∀ k, S (k + 1) = S k + c k) :
    ∀ n, (∀ k < n, (f k).length = c k) → ((List.range n).map f).flatten.length = S n := by
  intro n
  induction n with
  | zero => intro _; simp [h0]
  | succ n ih =>
    intro hf
    rw [List.range_succ, List.map_append, List.flatten_append, List.length_append,
      ih (fun k hk => hf k (by omega)), hS]
    simp [hf n (by omega)]

omit [Inhabited α] in
theorem tail_offsetsFrom_range (s : Nat) {S c : Nat → Nat} (f : Nat → List α) (h0 : S 0 = 0)
    (hS : ∀ k, S (k + 1) = S k + c k) :
    ∀ n, (∀ k < n, (f k).length = c k) →
      (offsetsFrom s ((List.range n).map f)).tail = (List.range n).map fun k => s + S (k + 1) := by
  intro n
  induction n with
  | zero => intro _; rfl
  | succ n ih =>
    intro hf
    have hlen := length_flatten_range f h0 hS n (fun k hk => hf k (by omega))
    rw [List.range_succ, List.map_append, offsetsFrom_append, offsetsFrom_eq_cons s, List.cons_append,
      List.tail_cons, ih (fun k hk => hf k (by omega)), List.map_append, hlen]
    simp [hS, hf n (by omega), Nat.add_assoc]

omit [Inhabited α] in
/-- The table pass 1 leaves: each counter is its pair's number of placements, and each
thread's row reaches past every group the thread places into. -/
theorem countPass_initBudget (base maxKey nthread : Nat) (W : List (Placement α))
    (hT : ∀ w ∈ W, w.tid < nthread) :
    (∀ t < nthread, ∀ g, cell (countPass base (initBudget maxKey nthread) W) t g =
      (ofPair base t g W).length) ∧
    ∀ w ∈ W, w.key - base < rowLength (countPass base (initBudget maxKey nthread) W) w.tid := by
  refine ⟨fun t ht g => ?_, fun w hw => ?_⟩
  · rw [cell_countPass _ _ _ (by simpa using ht), cell_initBudget, Nat.zero_add]
  · rw [rowLength_countPass _ _ _ (by simpa using hT w hw)]
    exact lt_groupsNeeded (List.mem_filter.mpr ⟨hw, by simp⟩)

omit [Inhabited α] in
/-- The number of groups a session lays out: the estimate `maxKey`, or one past the last
group placed into, whichever is larger. -/
theorem numGroups_countPass (base maxKey : Nat) {nthread : Nat} (hn : 0 < nthread)
    (W : List (Placement α)) (hT : ∀ w ∈ W, w.tid < nthread) :
    numGroups (countPass base (initBudget maxKey nthread) W) = groupsNeeded base maxKey W := by
  have hrow : ∀ t < nthread, rowLength (countPass base (initBudget maxKey nthread) W) t =
      groupsNeeded base maxKey (W.filter fun w => w.tid == t) := fun t ht => by
    rw [rowLength_countPass _ _ _ (by simpa using ht), rowLength_initBudget ht]
  apply Nat.le_antisymm
  · apply foldl_max_le _ (Nat.zero_le _)
    intro x hx
    obtain ⟨row, hrowmem, rfl⟩ := List.mem_map.mp hx
    obtain ⟨t, ht, rfl⟩ := List.getElem_of_mem hrowmem
    have ht' : t < nthread := by simpa using ht
    have := hrow t ht'
    simp only [rowLength, List.getD_eq_getElem?_getD, List.getElem?_eq_getElem ht, Option.getD_some] at this
    rw [this]
    exact groupsNeeded_le (le_groupsNeeded _ _ _)
      (fun w hw => lt_groupsNeeded (List.mem_of_mem_filter hw))
  · rcases groupsNeeded_cases base maxKey W with h | ⟨w, hw, h⟩
    · rw [h]
      calc maxKey ≤ groupsNeeded base maxKey (W.filter fun w => w.tid == 0) := le_groupsNeeded _ _ _
        _ = rowLength (countPass base (initBudget maxKey nthread) W) 0 := (hrow 0 hn).symm
        _ ≤ _ := rowLength_le_numGroups (by simpa using hn)
    · rw [h]
      exact Nat.succ_le_of_lt (Nat.lt_of_lt_of_le ((countPass_initBudget base maxKey nthread W hT).2 w hw)
        (rowLength_le_numGroups (by simpa using hT w hw)))

omit [Inhabited α] in
/-- The table pass 1 leaves is the one pass 2 needs: every placement's thread and group
lie inside it, and every counter is its pair's number of placements. -/
theorem countPass_placeHyps (base maxKey nthread : Nat) (W : List (Placement α)) (hT : ∀ w ∈ W, w.tid < nthread) :
    (∀ w ∈ W, w.tid < (countPass base (initBudget maxKey nthread) W).length ∧
      w.key - base < rowLength (countPass base (initBudget maxKey nthread) W) w.tid) ∧
    ∀ t < (countPass base (initBudget maxKey nthread) W).length, ∀ g,
      cell (countPass base (initBudget maxKey nthread) W) t g = (ofPair base t g W).length := by
  obtain ⟨hcnt, hrow⟩ := countPass_initBudget base maxKey nthread W hT
  have hlen : (countPass base (initBudget maxKey nthread) W).length = nthread := by simp
  exact ⟨fun w hw => ⟨by rw [hlen]; exact hT w hw, hrow w hw⟩, fun t ht => hcnt t (by rw [← hlen]; exact ht)⟩

/-- The offsets `InitStorage` appends: group `g` of the builder starts at the old last
offset plus the entries of the groups before it. -/
theorem getD_initStorage_offset (rptr : List Nat) (data : List α) (tbl : List (List Nat))
    (hr : rptr ≠ []) {g : Nat} (hg : g ≤ numGroups tbl) :
    (initStorage rptr data tbl).1.getD (rptr.length - 1 + g) 0 = rptr.getLast?.getD 0 + groupStart tbl g := by
  have hpos := List.length_pos.mpr hr
  cases g with
  | zero =>
    rw [Nat.add_zero, initStorage, List.getD_append _ _ _ _ (by omega), List.getLast?_eq_getElem?]
    simp [groupStart, List.getD_eq_getElem?_getD]
  | succ k =>
    rw [show rptr.length - 1 + (k + 1) = rptr.length + k by omega, initStorage,
      List.getD_append_right _ _ _ _ (by omega), Nat.add_sub_cancel_left]
    simp [List.getD_eq_getElem?_getD, show k < numGroups tbl by omega]

section Counted

variable {base : Nat} {tbl : List (List Nat)} {W : List (Placement α)}
  (hW : ∀ w ∈ W, w.tid < tbl.length ∧ w.key - base < rowLength tbl w.tid)
  (hcnt : ∀ t < tbl.length, ∀ g, cell tbl t g = (ofPair base t g W).length)
include hW hcnt

omit [Inhabited α] in
/-- A table that counts the placements lays out as many slots as there are placements. -/
theorem groupStart_numGroups_of_counts : groupStart tbl (numGroups tbl) = W.length := by
  have htot : ∀ g, groupTotal tbl g = (W.filter fun w => w.key - base == g).length := fun g => by
    rw [← threadStart_length, threadStart_eq_sum,
      ← sum_length_filter_key Placement.tid fun w hw => (hW w (List.mem_of_mem_filter hw)).1]
    refine congrArg List.sum (List.map_congr_left fun t ht => ?_)
    rw [hcnt t (List.mem_range.mp ht), ofPair, List.filter_filter]
  calc groupStart tbl (numGroups tbl)
      = ((List.range (numGroups tbl)).map fun g => (W.filter fun w => w.key - base == g).length).sum :=
        congrArg List.sum (List.map_congr_left fun g _ => htot g)
    _ = W.length := sum_length_filter_key (fun w : Placement α => w.key - base) fun w hw =>
        Nat.lt_of_lt_of_le (hW w hw).2 (rowLength_le_numGroups (hW w hw).1)

/-- From `InitStorage` on a table that counts the placements, every `Push` writes inside
its group's range `[top + groupStart g, top + groupStart (g + 1))`, between the group's
new offsets, and the slots written are the new part of `data`, each exactly once. -/
theorem writes_initStorage (rptr : List Nat) (data : List α) :
    (∀ x ∈ writes base (initStorage rptr data tbl).2 W,
      rptr.getLast?.getD 0 + groupStart tbl (x.1.key - base) ≤ x.2 ∧
      x.2 < rptr.getLast?.getD 0 + groupStart tbl (x.1.key - base + 1)) ∧
    ((writes base (initStorage rptr data tbl).2 W).map Prod.snd).Perm
      (List.range' (rptr.getLast?.getD 0) (groupStart tbl (numGroups tbl))) := by
  obtain ⟨hrange, hnodup⟩ := writes_placePass W hW hcnt W [] (initStorage rptr data tbl).2 rfl
    (placeInv_initStorage base (rptr.getLast?.getD 0) tbl data)
  have hgroup : ∀ x ∈ writes base (initStorage rptr data tbl).2 W,
      rptr.getLast?.getD 0 + groupStart tbl (x.1.key - base) ≤ x.2 ∧
      x.2 < rptr.getLast?.getD 0 + groupStart tbl (x.1.key - base + 1) := by
    intro x hx
    obtain ⟨h1, h2⟩ := hrange x hx
    have := threadStart_succ tbl x.1.tid (x.1.key - base)
    have := threadStart_le_groupTotal tbl (x.1.tid + 1) (x.1.key - base)
    rw [groupStart_succ]
    unfold cursorStart at h1 h2
    omega
  refine ⟨hgroup, (List.subperm_of_subset hnodup fun p hp => ?_).perm_of_length_le ?_⟩
  · obtain ⟨x, hx, rfl⟩ := List.mem_map.mp hp
    have hxW : x.1 ∈ W := by simpa using List.mem_map_of_mem Prod.fst hx
    have := groupStart_le_of_le tbl (show x.1.key - base + 1 ≤ numGroups tbl from
      Nat.lt_of_lt_of_le (hW x.1 hxW).2 (rowLength_le_numGroups (hW x.1 hxW).1))
    have := hgroup x hx
    rw [List.mem_range'_1]
    omega
  · rw [List.length_range', List.length_map, ← List.length_map _ Prod.fst, map_fst_writes,
      groupStart_numGroups_of_counts hW hcnt]

/-- The same, with the group ranges read off the offsets `InitStorage` wrote: a `Push` of
key `k` writes between `offset[k]` and `offset[k + 1]`, when the builder's first group
`base` is the last index of the old offsets. -/
theorem writes_initStorage_offsets (rptr : List Nat) (data : List α) (hr : rptr.length = base + 1)
    (hkey : ∀ w ∈ W, base ≤ w.key) :
    ∀ x ∈ writes base (initStorage rptr data tbl).2 W,
      (initStorage rptr data tbl).1.getD x.1.key 0 ≤ x.2 ∧ x.2 < (initStorage rptr data tbl).1.getD (x.1.key + 1) 0 := by
  intro x hx
  have hxW : x.1 ∈ W := by simpa using List.mem_map_of_mem Prod.fst hx
  have hG : x.1.key - base + 1 ≤ numGroups tbl :=
    Nat.lt_of_lt_of_le (hW x.1 hxW).2 (rowLength_le_numGroups (hW x.1 hxW).1)
  have hne : rptr ≠ [] := List.ne_nil_of_length_pos (by omega)
  have h0 := getD_initStorage_offset rptr data tbl hne (Nat.le_of_succ_le hG)
  have h1 := getD_initStorage_offset rptr data tbl hne hG
  have := hkey x.1 hxW
  rw [show rptr.length - 1 + (x.1.key - base) = x.1.key by omega] at h0
  rw [show rptr.length - 1 + (x.1.key - base + 1) = x.1.key + 1 by omega] at h1
  rw [h0, h1]
  exact (writes_initStorage hW hcnt rptr data).1 x hx

end Counted

/-- The guarantee of the two-pass scheme for one builder session: pass 1 makes the calls
`calls` and leaves the table `tbl`, and pass 2 makes the placements `W` after
`InitStorage` on `rptr` and `data`. -/
structure TwoPassSound (base : Nat) (rptr : List Nat) (data : List α) (calls : List (Placement Unit))
    (tbl : List (List Nat)) (W : List (Placement α)) : Prop where
  /-- Every thread budgets for every group exactly as many entries as it places there. -/
  budget_eq : ∀ t g, (calls.filter fun c => c.tid == t && c.key == g).length =
    (W.filter fun w => w.tid == t && w.key == g).length
  /-- Every write lands between the offsets of its group. -/
  in_group : ∀ x ∈ writes base (initStorage rptr data tbl).2 W,
    (initStorage rptr data tbl).1.getD x.1.key 0 ≤ x.2 ∧ x.2 < (initStorage rptr data tbl).1.getD (x.1.key + 1) 0
  /-- The writes fill the slots `InitStorage` allocated after the old last offset, each
  exactly once. -/
  exactly_once : ((writes base (initStorage rptr data tbl).2 W).map Prod.snd).Perm
    (List.range' (rptr.getLast?.getD 0) (groupStart tbl (numGroups tbl)))
  /-- Pass 2 leaves `data` as those writes, made one after another, leave it. -/
  placed : (placePass base (initStorage rptr data tbl).2 W).1 =
    (writes base (initStorage rptr data tbl).2 W).foldl (fun d x => d.set x.2 x.1.value) (initStorage rptr data tbl).2.1

/-- A session whose pass 1 budgets once for each placement of pass 2, in any order, has
the guarantee, as long as the keys start at the builder's first group `base`, the last
index of the old offsets. -/
theorem twoPassSound_session (base maxKey nthread : Nat) (rptr : List Nat) (data : List α)
    (W : List (Placement α)) (hT : ∀ w ∈ W, w.tid < nthread) (hr : rptr.length = base + 1)
    (hkey : ∀ w ∈ W, base ≤ w.key) :
    TwoPassSound base rptr data (W.map Placement.budgetCall)
      (countPass base (initBudget maxKey nthread) (W.map Placement.budgetCall)) W := by
  rw [countPass_map_budgetCall]
  obtain ⟨hW, hcnt⟩ := countPass_placeHyps base maxKey nthread W hT
  refine ⟨fun t g => ?_, writes_initStorage_offsets hW hcnt rptr data hr hkey,
    (writes_initStorage hW hcnt rptr data).2, placePass_fst_eq_writes base _ W⟩
  rw [List.filter_map, List.length_map]
  rfl

/-- A builder session appends one offset per laid-out group and, to `data` cut at the old
last offset, every group's values in thread order. -/
theorem session_spec (base maxKey nthread : Nat) (rptr : List Nat) (data : List α)
    (W : List (Placement α)) (hT : ∀ w ∈ W, w.tid < nthread) :
    (initStorage rptr data (countPass base (initBudget maxKey nthread) W)).1 =
        rptr ++ (offsetsFrom (rptr.getLast?.getD 0)
          ((List.range (numGroups (countPass base (initBudget maxKey nthread) W))).map
            fun g => groupValues base nthread g W)).tail ∧
      (placePass base (initStorage rptr data (countPass base (initBudget maxKey nthread) W)).2 W).1 =
        resize data (rptr.getLast?.getD 0) ++
          ((List.range (numGroups (countPass base (initBudget maxKey nthread) W))).map
            fun g => groupValues base nthread g W).flatten := by
  set tbl := countPass base (initBudget maxKey nthread) W with htbl
  set top := rptr.getLast?.getD 0
  have hlen : tbl.length = nthread := by simp [htbl]
  obtain ⟨hcnt, -⟩ := countPass_initBudget base maxKey nthread W hT
  obtain ⟨hW, hcnt'⟩ := countPass_placeHyps base maxKey nthread W hT
  have hgv : ∀ g, (groupValues base nthread g W).length = groupTotal tbl g := fun g => by
    rw [← threadStart_length, hlen, threadStart_eq_sum]
    simp only [groupValues, List.length_flatten, List.map_map]
    congr 1
    apply List.map_congr_left
    intro t ht
    simp [hcnt t (List.mem_range.mp ht)]
  refine ⟨?_, ?_⟩
  · simp only [initStorage]
    rw [tail_offsetsFrom_range top _ (by simp [groupStart]) (groupStart_succ tbl) _ (fun g _ => hgv g)]
  · have inv := placeInv_placePass W hW hcnt' W [] (initStorage rptr data tbl).2 (by simp)
      (placeInv_initStorage base top tbl data)
    set d' := (placePass base (initStorage rptr data tbl).2 W).1
    have hslot : ∀ t g, (d'.drop (cursorStart top tbl t g)).take (cell tbl t g) =
        (ofPair base t g W).map Placement.value := fun t g => by
      by_cases ht : t < tbl.length
      · rw [hcnt' t ht g]; exact inv.placed t g
      · simp [ofPair_eq_nil (fun x hx => (hW x hx).1) (Nat.le_of_not_lt ht), cell,
          List.getElem?_eq_none (Nat.le_of_not_lt ht)]
    have hgroup : ∀ g, (d'.drop (top + groupStart tbl g)).take (groupTotal tbl g) =
        groupValues base nthread g W := fun g => by
      rw [← threadStart_length, hlen]
      exact take_drop_eq_flatten d' _ _ (by simp [threadStart]) (fun k => threadStart_succ tbl k g)
        nthread (fun k _ => hslot k g)
    have hall := take_drop_eq_flatten d' top (fun g => groupValues base nthread g W)
      (by simp [groupStart]) (groupStart_succ tbl) (numGroups tbl) (fun g _ => hgroup g)
    calc d' = d'.take top ++ d'.drop top := (List.take_append_drop _ _).symm
      _ = _ := by
        rw [inv.take_top, ← hall, List.take_of_length_le (by simp [inv.length_eq])]

omit [Inhabited α] in
theorem flatMap_range_ite {β : Type} (X : List β) {t : Nat} :
    ∀ n, t < n → ((List.range n).flatMap fun t' => if t' = t then X else []) = X
  | 0, h => absurd h (Nat.not_lt_zero _)
  | n + 1, h => by
    rw [List.range_succ, List.flatMap_append, List.flatMap_singleton]
    rcases Nat.lt_or_ge t n with h' | h'
    · rw [flatMap_range_ite X n h', if_neg (by omega), List.append_nil]
    · rw [if_pos (by omega), List.flatMap_eq_nil_iff.mpr fun t' ht' => if_neg (by
        simp at ht'; omega), List.nil_append]

omit [Inhabited α] in
/-- When each thread's placements come as one block, in thread order, a group receives
its placements in the order of the whole list. -/
theorem groupValues_flatMap (base nthread g : Nat) (P : Nat → List (Placement α))
    (hP : ∀ t, ∀ w ∈ P t, w.tid = t) :
    groupValues base nthread g ((List.range nthread).flatMap P) =
      (((List.range nthread).flatMap P).filter fun w => w.key - base == g).map Placement.value := by
  have hpair : ∀ t ∈ List.range nthread,
      ofPair base t g ((List.range nthread).flatMap P) = (P t).filter fun w => w.key - base == g := by
    intro t ht
    have : ∀ t' ∈ List.range nthread, ((P t').filter fun w => w.tid == t && w.key - base == g) =
        if t' = t then (P t).filter fun w => w.key - base == g else [] := by
      intro t' _
      split
      · subst_vars
        exact List.filter_congr fun w hw => by simp [hP _ w hw]
      · exact List.filter_eq_nil_iff.mpr fun w hw => by simp [hP _ w hw]; omega
    rw [ofPair, List.filter_flatMap, List.flatMap_congr this,
      flatMap_range_ite _ _ (List.mem_range.mp ht)]
  rw [groupValues, List.filter_flatMap, List.map_flatMap, ← List.flatMap_def]
  exact List.flatMap_congr fun t ht => by rw [hpair t ht]

end Session

/-- On a page that satisfies the CSR invariant, a builder session appends one row per
laid-out group, holding the group's values. -/
theorem session_ofRows (rs : List (List Entry)) (b : UInt64) (base maxKey nthread : Nat)
    (W : List (Placement Entry)) (hT : ∀ w ∈ W, w.tid < nthread) :
    ({ offset := (initStorage (SparsePage.ofRows rs b).offset (SparsePage.ofRows rs b).data
          (countPass base (initBudget maxKey nthread) W)).1
       data := (placePass base (initStorage (SparsePage.ofRows rs b).offset (SparsePage.ofRows rs b).data
          (countPass base (initBudget maxKey nthread) W)).2 W).1
       baseRowid := b } : SparsePage) =
      SparsePage.ofRows (rs ++ (List.range (numGroups (countPass base (initBudget maxKey nthread) W))).map
        fun g => groupValues base nthread g W) b := by
  obtain ⟨hoff, hdata⟩ := session_spec base maxKey nthread (SparsePage.ofRows rs b).offset
    (SparsePage.ofRows rs b).data W hT
  rw [hoff, hdata]
  simp only [SparsePage.ofRows, getLast?_offsetsFrom, Option.getD_some, Nat.zero_add,
    resize_length_self, offsetsFrom_append, List.flatten_append]

end GroupBuilder

end XGBoostData
