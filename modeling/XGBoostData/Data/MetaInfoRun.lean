import XGBoostData.Data.MetaInfoBinary

/-!
# A `MetaInfo` over a run of calls, and the label order cache (data.cc)

WHAT THIS FILE IS FOR.  `LabelAbsSort` keeps its answer in the `mutable` member
`label_order_cache_` and returns the cache whenever it holds one index per label.  No
other member function of the excerpt touches the cache: `SetInfo`, `Extend`,
`LoadBinary` and `Clear` change the labels and leave it as it was.  This file runs a
`MetaInfo` through any sequence of those calls and says what every `LabelAbsSort`
returns: a permutation of `0 … n-1`, and the stable order by absolute value of the
labels of the call that last filled the cache.  `cache_run` finds that call in the run,
`ops = pre ++ LabelAbsSort :: post` with the call refilling after `pre` and no call of
`post` refilling, and the order is that of the labels after `pre`.  That call is the
current one exactly when the cache does not already have `n` entries; otherwise a
relabelling with the same count is answered with the order of the old labels, as
`labelAbsSort_stale_after_relabel` shows.

THE RUN.  A call that raises (a failed `CHECK` is a `dmlc::Error`) leaves the record as
it had written it when it raised, and the caller may catch the error and go on: the run
continues from that record.  `LoadBinary` reads its own stream; what it leaves unread is
dropped.
-/

set_option autoImplicit false

namespace XGBoostData

/-- The member functions of `MetaInfo` a run can call. -/
inductive MetaOp (Cats : Type)
  /-- `SetInfoFromHost(ctx, key, arr)`, any key. -/
  | setInfo (key : Bytes) (arr : ArrayInterface)
  /-- `Extend(that, accumulate_rows, check_column)`. -/
  | extend (that : MetaInfo Cats) (accumulateRows checkColumn : Bool)
  /-- `LoadBinary(fi)` on a stream holding `bytes`. -/
  | loadBinary (bytes : Bytes)
  /-- `Clear()`. -/
  | clear
  /-- `LabelAbsSort(ctx)`. -/
  | labelAbsSort

/-- A `MetaInfo` together with its `mutable` member `label_order_cache_`. -/
structure Session (Cats : Type) where
  meta : MetaInfo Cats
  cache : List Nat

/-- The state a call of `EStateM` leaves, whether it returned or raised. -/
def resultState {ε σ α : Type} : EStateM.Result ε σ α → σ
  | .ok _ s => s
  | .error _ s => s

namespace Session

variable {Cats : Type}

/-- `MetaInfo()`: the empty record, and an empty cache. -/
def fresh (emptyCats : Cats) : Session Cats := ⟨MetaInfo.fresh emptyCats, []⟩

section Calls

variable (H : MetaHelpers) (V : VersionIO) (C : CatIO Cats) (S : StableSortContract)

/-- `LabelAbsSort(ctx)` on the session: the order it returns, and the session with the
cache it leaves. -/
def labelAbsSort (s : Session Cats) : List Nat × Session Cats :=
  let r := XGBoostData.labelAbsSort S s.meta.labels.data s.cache
  (r.1, { s with cache := r.2 })

/-- One call on the session. -/
def step : MetaOp Cats → Session Cats → Session Cats
  | .setInfo key arr, s => { s with meta := resultState (MetaInfo.setInfoFromHost H key arr s.meta) }
  | .extend that acc chk, s => { s with meta := resultState (MetaInfo.extend H that acc chk s.meta) }
  | .loadBinary bytes, s => { s with meta := (resultState (XGBoostData.loadBinary V C (s.meta, bytes))).1 }
  | .clear, s => { s with meta := s.meta.clear }
  | .labelAbsSort, s => (labelAbsSort S s).2

/-- The calls one after another. -/
def run : List (MetaOp Cats) → Session Cats → Session Cats
  | [], s => s
  | op :: ops, s => run ops (step H V C S op s)

/-! ## The last refill -/

/-- `LabelAbsSort` refills the cache in the state `s`: `label_order_cache_.size() !=
labels.Size()`. -/
def Refills (s : Session Cats) : Prop := s.cache.length ≠ s.meta.labels.data.length

instance (s : Session Cats) : Decidable (Refills s) := inferInstanceAs (Decidable (_ ≠ _))

/-- No `LabelAbsSort` among the calls `ops`, made from `s`, refills the cache. -/
def NoRefill : List (MetaOp Cats) → Session Cats → Prop
  | [], _ => True
  | .labelAbsSort :: ops, s => ¬Refills s ∧ NoRefill ops (step H V C S .labelAbsSort s)
  | op :: ops, s => NoRefill ops (step H V C S op s)

/-- `LabelAbsSort` returns the cache it leaves. -/
theorem labelAbsSort_fst (s : Session Cats) : (labelAbsSort S s).1 = (labelAbsSort S s).2.cache := by
  simp only [labelAbsSort, XGBoostData.labelAbsSort]
  split <;> rfl

/-- A call that refills sorts the current labels. -/
theorem labelAbsSort_of_refills {s : Session Cats} (h : Refills s) :
    (labelAbsSort S s).2.cache = S.sort (absLess s.meta.labels.data) (List.range s.meta.labels.data.length) := by
  simp only [labelAbsSort, XGBoostData.labelAbsSort, if_neg h]

/-- A cache with one index per label is kept, and so returned (`labelAbsSort_fst`). -/
theorem labelAbsSort_of_full {s : Session Cats} (h : ¬Refills s) : (labelAbsSort S s).2.cache = s.cache := by
  simp only [labelAbsSort, XGBoostData.labelAbsSort, if_pos (Decidable.of_not_not h)]

/-- The cache after a run from any state: the cache it started with when no `LabelAbsSort`
of the run refilled it, and otherwise the order computed by the last call that did, on the
labels as they stood at that call. -/
theorem cache_run (ops : List (MetaOp Cats)) (s : Session Cats) :
    (NoRefill H V C S ops s ∧ (run H V C S ops s).cache = s.cache) ∨
    ∃ pre post, ops = pre ++ .labelAbsSort :: post ∧ Refills (run H V C S pre s) ∧
      NoRefill H V C S post (step H V C S .labelAbsSort (run H V C S pre s)) ∧
      (run H V C S ops s).cache =
        S.sort (absLess (run H V C S pre s).meta.labels.data) (List.range (run H V C S pre s).meta.labels.data.length) := by
  induction ops generalizing s with
  | nil => exact .inl ⟨trivial, rfl⟩
  | cons op ops ih =>
    rcases ih (step H V C S op s) with ⟨hno, hc⟩ | ⟨pre, post, rfl, hr, hno, hc⟩
    · cases op with
      | labelAbsSort =>
        by_cases hr : Refills s
        · exact .inr ⟨[], ops, rfl, hr, hno, hc.trans (labelAbsSort_of_refills S hr)⟩
        · exact .inl ⟨⟨hr, hno⟩, hc.trans (labelAbsSort_of_full S hr)⟩
      | setInfo | extend | loadBinary | clear => exact .inl ⟨hno, hc⟩
    · exact .inr ⟨op :: pre, post, rfl, hr, hno, hc⟩

/-- Every `LabelAbsSort` of a run from a fresh `MetaInfo`, whatever calls came before it,
returns a permutation of `0 … n-1`.  When the cache does not hold `n` indices it is the
stable order by absolute value of the current labels.  Otherwise it is the cache: empty
when no earlier call refilled it, and else the stable order of the labels as they stood at
the last call that refilled it, however they were replaced since. -/
theorem labelAbsSort_run (ops : List (MetaOp Cats)) (e : Cats) :
    let s := run H V C S ops (fresh e)
    (labelAbsSort S s).1.Perm (List.range s.meta.labels.data.length) ∧
    (Refills s → (labelAbsSort S s).1 = S.sort (absLess s.meta.labels.data) (List.range s.meta.labels.data.length)) ∧
    (¬Refills s →
      (NoRefill H V C S ops (fresh e) ∧ (labelAbsSort S s).1 = []) ∨
      ∃ pre post, ops = pre ++ .labelAbsSort :: post ∧ Refills (run H V C S pre (fresh e)) ∧
        NoRefill H V C S post (step H V C S .labelAbsSort (run H V C S pre (fresh e))) ∧
        (labelAbsSort S s).1 = S.sort (absLess (run H V C S pre (fresh e)).meta.labels.data)
          (List.range (run H V C S pre (fresh e)).meta.labels.data.length)) := by
  intro s
  rw [labelAbsSort_fst]
  by_cases hr : Refills s
  · rw [labelAbsSort_of_refills S hr]
    exact ⟨S.perm _ _, fun _ => rfl, fun h => absurd hr h⟩
  · have hfull : s.cache.length = s.meta.labels.data.length := Decidable.of_not_not hr
    rw [labelAbsSort_of_full S hr]
    refine ⟨?_, fun h => absurd h hr, fun _ => cache_run H V C S ops (fresh e)⟩
    rcases cache_run H V C S ops (fresh e) with ⟨-, hc⟩ | ⟨pre, -, -, -, -, hc⟩ <;>
      rw [show s.cache = _ from hc] at hfull ⊢ <;> rw [← hfull]
    · exact List.Perm.refl []
    · rw [(S.perm _ _).length_eq, List.length_range]
      exact S.perm _ _

end Calls

/-- Labels `1, 2` set and sorted, then relabelled `2, 1`: `LabelAbsSort` answers with the
cached `0, 1`, while the stable order of the current labels by absolute value is `1, 0`. -/
theorem labelAbsSort_stale_after_relabel :
    (run (⟨fun y => y.isNaN || y.isInf, fun _ => false, fun _ => true, id, fun l _ => .ok l, fun _ _ => true⟩ :
          MetaHelpers)
        ⟨(3, 1, 0), [], fun bs => .ok (3, 1, 0) bs, fun _ => rfl⟩ (⟨fun _ => [], fun _ => .ok ()⟩ : CatIO Unit)
        .mergeSort
        [.setInfo (ascii "label") ⟨(2, 1), 2, false, [F32.one, F32.two], []⟩, .labelAbsSort,
         .setInfo (ascii "label") ⟨(2, 1), 2, false, [F32.two, F32.one], []⟩] (fresh ())).meta.labels.data =
      [F32.two, F32.one] ∧
    (labelAbsSort .mergeSort
      (run (⟨fun y => y.isNaN || y.isInf, fun _ => false, fun _ => true, id, fun l _ => .ok l, fun _ _ => true⟩ :
          MetaHelpers)
        ⟨(3, 1, 0), [], fun bs => .ok (3, 1, 0) bs, fun _ => rfl⟩ (⟨fun _ => [], fun _ => .ok ()⟩ : CatIO Unit)
        .mergeSort
        [.setInfo (ascii "label") ⟨(2, 1), 2, false, [F32.one, F32.two], []⟩, .labelAbsSort,
         .setInfo (ascii "label") ⟨(2, 1), 2, false, [F32.two, F32.one], []⟩] (fresh ()))).1 = [0, 1] ∧
    StableSortContract.mergeSort.sort (absLess [F32.two, F32.one]) (List.range 2) = [1, 0] := by
  refine ⟨rfl, (labelAbsSort_fst _ _).trans ((labelAbsSort_of_full _ fun h => h ?_).trans ?_), ?_⟩
  · show (StableSortContract.mergeSort.sort (absLess [F32.one, F32.two]) (List.range 2)).length = 2
    simp [StableSortContract.mergeSort]
  · show StableSortContract.mergeSort.sort (absLess [F32.one, F32.two]) (List.range 2) = [0, 1]
    simp [StableSortContract.mergeSort, List.mergeSort, List.range_succ, List.cons_merge_cons]
    decide
  · simp [StableSortContract.mergeSort, List.mergeSort, List.range_succ, List.cons_merge_cons]
    decide

end Session

end XGBoostData
