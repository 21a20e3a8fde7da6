import XGBoostData.Data.PushBatch
import XGBoostData.Data.Transpose

/-!
# The two passes of the group builder, in `Push` and in `GetTranspose` (spec §4.2)

WHAT THIS FILE IS FOR.  Both `SparsePage::Push(batch, …)` and `SparsePage::GetTranspose`
drive `ParallelGroupBuilder` in two passes over the same input: pass 1 calls
`AddBudget(g, t)`, pass 2 calls `Push(g, value, t)`, and no lock guards the writes.  The
scheme is sound when every thread `t` pushes into every group `g` exactly as often as it
budgeted.  This file reads pass 1's calls off the model of each operation, shows that
they match pass 2's pair by pair, and derives from `GroupBuilder.writes_initStorage`
what the threads' writes then do: each lands between the offsets of its own group, and
together they fill the newly allocated part of `data`, every slot exactly once.

In `Push` pass 1 filters with `!CheckNAN(v) && v != missing` and pass 2 with
`IsValidFunctor{missing}`; `isValidFunctor_eq` says they are the same test, and both
passes give each thread the slice `traversal` walks.  In `GetTranspose` both passes walk
the rows with the same `ParallelFor` schedule and visit every entry.
-/

set_option autoImplicit false

namespace XGBoostData

namespace SparsePage

open GroupBuilder

/-! ## The calls of pass 1 -/

/-- The calls `AddBudget(key, tid)` pass 1 of `Push` makes, in order: one for every
element whose value is neither NaN nor `missing`. -/
def budgetCalls (missing : F32) (baseRowid : UInt64) (l : List (Nat × COOTuple)) : List (Placement Unit) :=
  l.filterMap fun te =>
    if !checkNAN te.2.value && !te.2.value.feq missing then some ⟨te.1, rowKey baseRowid te.2, ()⟩ else none

/-- The table pass 1 leaves is the table of its calls `budgetCalls`. -/
theorem budget_foldl_countStep_calls (missing : F32) (baseRowid : UInt64) (builderBase : Nat)
    (l : List (Nat × COOTuple)) (st : CountState) :
    (l.foldl (countStep missing baseRowid builderBase) st).budget =
      countPass builderBase st.budget (budgetCalls missing baseRowid l) := by
  induction l generalizing st with
  | nil => rfl
  | cons te l ih =>
    rw [List.foldl_cons, ih]
    simp only [countStep, budgetCalls, List.filterMap_cons]
    split <;> rfl

/-- The two filters select the same elements: pass 1 calls `AddBudget` for exactly the
placements of pass 2, in the same order. -/
theorem budgetCalls_eq (missing : F32) (baseRowid : UInt64) (l : List (Nat × COOTuple)) :
    budgetCalls missing baseRowid l = (placements missing baseRowid l).map Placement.budgetCall := by
  induction l with
  | nil => rfl
  | cons te l ih =>
    simp only [budgetCalls, placements, isValidFunctor_eq] at ih ⊢
    by_cases hv : (!checkNAN te.2.value && !te.2.value.feq missing) = true
    · simp only [List.filterMap_cons, hv, if_true, List.map_cons, ih]
      rfl
    · simp only [List.filterMap_cons, hv, Bool.false_eq_true, if_false, ih]

/-- Pass 1 of `Push` succeeds only when every row key is at least `Size()`, and then
leaves the table of its calls. -/
theorem firstPass_ok {page : SparsePage} {batch : AdapterBatch} {missing : F32} {n : Nat} {st : CountState}
    (h : firstPass page batch missing n = .ok st) :
    (∀ te ∈ traversal batch n, page.size ≤ rowKey page.baseRowid te.2) ∧
    st.budget = countPass page.size
      (initBudget (budgetExtent batch.isRowMajor page.size (expectedRows page.baseRowid batch)) n)
      (budgetCalls missing page.baseRowid (traversal batch n)) := by
  rw [firstPass_eq] at h
  split at h
  · cases h
  · next hany =>
    cases h
    refine ⟨fun te hte => Nat.le_of_not_lt fun hlt => hany ?_, budget_foldl_countStep_calls _ _ _ _ _⟩
    exact List.any_eq_true.mpr ⟨te, hte, decide_eq_true hlt⟩

/-! ## Both callers -/

/-- The two-pass scheme is sound in both of its callers.  In `Push` on a valid page,
once pass 1 returns its table: every thread budgets for every row exactly as many
entries as it places, every write of pass 2 lands between the new offsets of its row, and
the writes fill the slots `InitStorage` allocated after `offset.back()`, each exactly
once.  In `GetTranspose`, for every page, column count, schedule and thread count, the
same holds of the columns. -/
theorem builder_passes_sound (sched : StaticSchedule) :
    (∀ (page : SparsePage) (batch : AdapterBatch) (missing : F32) (nthread : Nat) (st : CountState),
      page.Valid → firstPass page batch missing (pushThreads batch nthread) = .ok st →
      TwoPassSound page.size page.offset page.data
        (budgetCalls missing page.baseRowid (traversal batch (pushThreads batch nthread))) st.budget
        (placements missing page.baseRowid (traversal batch (pushThreads batch nthread)))) ∧
    ∀ (page : SparsePage) (C : Int) (n : Nat),
      TwoPassSound 0 empty.offset empty.data (transposeBudgetCalls sched page n)
        (countPass 0 (initBudget (budgetExtent false 0 (intToSize C)) n) (transposeBudgetCalls sched page n))
        (transposePlacements sched page n) := by
  refine ⟨fun page batch missing nthread st hp h => ?_, fun page C n => ?_⟩
  · obtain ⟨hrow, hst⟩ := firstPass_ok h
    have hlen : page.offset.length = page.size + 1 := by
      have := List.length_pos.mpr hp.offset_ne_nil
      unfold size
      omega
    have hkey : ∀ w ∈ placements missing page.baseRowid (traversal batch (pushThreads batch nthread)),
        page.size ≤ w.key := fun w hw => by
      simp only [placements_eq_map_filter, List.mem_map, List.mem_filter] at hw
      obtain ⟨te, ⟨hte, -⟩, rfl⟩ := hw
      exact hrow te hte
    rw [hst, budgetCalls_eq]
    exact twoPassSound_session page.size _ _ page.offset page.data _ (fun _ hw => placements_tid_lt hw) hlen hkey
  · rw [transposeBudgetCalls_eq]
    exact twoPassSound_session 0 _ n empty.offset empty.data _ (fun _ hw => (mem_transposePlacements hw).1) rfl
      fun _ _ => Nat.zero_le _

/-- One entry pushed onto the empty page by one thread, and the transpose of a one-entry
page: pass 1 returns the table `[[1]]`, and both sessions have the guarantee. -/
theorem builder_passes_sound_oneEntry :
    TwoPassSound empty.size empty.offset empty.data
        (budgetCalls F32.nan empty.baseRowid
          (traversal ⟨[[⟨0, 0, F32.one⟩]], true⟩ (pushThreads ⟨[[⟨0, 0, F32.one⟩]], true⟩ 1)))
        (⟨[[1]], [1], true⟩ : CountState).budget
        (placements F32.nan empty.baseRowid
          (traversal ⟨[[⟨0, 0, F32.one⟩]], true⟩ (pushThreads ⟨[[⟨0, 0, F32.one⟩]], true⟩ 1))) ∧
    TwoPassSound 0 empty.offset empty.data
      (transposeBudgetCalls StaticSchedule.even ⟨[0, 1], [⟨0, F32.one⟩], 0⟩ 1)
      (countPass 0 (initBudget (budgetExtent false 0 (intToSize 1)) 1)
        (transposeBudgetCalls StaticSchedule.even ⟨[0, 1], [⟨0, F32.one⟩], 0⟩ 1))
      (transposePlacements StaticSchedule.even ⟨[0, 1], [⟨0, F32.one⟩], 0⟩ 1) :=
  ⟨(builder_passes_sound StaticSchedule.even).1 empty ⟨[[⟨0, 0, F32.one⟩]], true⟩ F32.nan 1
      ⟨[[1]], [1], true⟩ (valid_ofRows [] 0) rfl,
    (builder_passes_sound StaticSchedule.even).2 ⟨[0, 1], [⟨0, F32.one⟩], 0⟩ 1 1⟩

end SparsePage

end XGBoostData
