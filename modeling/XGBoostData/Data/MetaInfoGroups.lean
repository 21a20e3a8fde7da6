import XGBoostData.Data.MetaInfoUpdate
import XGBoostData.Data.MetaInfoShape

/-!
# Query groups across batches (data.cc, `MetaInfo::Extend`, `MetaInfo::Validate`)

WHAT THIS FILE IS FOR.  A ranking matrix built from batches gets its query groups from
`Extend`: the `group` block appends the boundaries of each batch after the last one it
holds, shifted by it, in the `uint32_t` of `bst_group_t`.  This file says what that
computes over a whole sequence of batches, and what `Validate` then makes of it.

* `extendAll_groupPtr`: when every batch holds the prefix sums of its group sizes (what
  `SetInfo("group", …)` stores, `groupPtr_setInfoFromHost_group`), the record holds the
  prefix sums of all the group sizes in order, as one `SetInfo("group", …)` of the
  concatenated sizes would store them.
* `validate_extendAll_groupSize`: when every batch's boundaries start at 0 and end at its
  row count, the last boundary of the record is `num_row_` modulo 2^32
  (`GroupsEndAtRows`, kept by every `Extend`), so without weights `Validate` raises
  `error::GroupSize()` exactly when the matrix has 2^32 rows or more.
-/

set_option autoImplicit false

namespace XGBoostData

namespace MetaInfo

variable {Cats : Type}

/-! ## Prefix sums in `uint32_t` -/

/-- Prefix sums from `c` are the prefix sums from 0 moved up by `c`, in `uint32_t`. -/
theorem scanl_add_eq_map : ∀ (c : UInt32) (l : List UInt32),
    l.scanl (· + ·) c = (l.scanl (· + ·) 0).map (· + c)
  | c, [] => by simp
  | c, x :: l => by
    rw [List.scanl_cons, List.scanl_cons, scanl_add_eq_map (c + x) l, zero_add, scanl_add_eq_map x l,
      List.map_append, List.map_map]
    simp only [List.map_cons, List.map_nil, zero_add, List.singleton_append, Function.comp_def, add_assoc,
      add_comm x c]

/-- The last prefix sum is the fold. -/
theorem getLast?_scanl {α β : Type} (f : β → α → β) : ∀ (b : β) (l : List α),
    (l.scanl f b).getLast? = some (l.foldl f b)
  | b, [] => rfl
  | b, x :: l => by
    rw [List.scanl_cons, List.foldl_cons, ← getLast?_scanl f (f b x) l]
    obtain ⟨t, ht⟩ : ∃ t, l.scanl f (f b x) = f b x :: t := by cases l <;> exact ⟨_, rfl⟩
    rw [ht, List.singleton_append, List.getLast?_cons_cons]

/-- Prefix sums over `s ++ t`: those over `s`, then those over `t` from the sum of `s`. -/
theorem scanl_append {α β : Type} (f : β → α → β) : ∀ (b : β) (s t : List α),
    (s ++ t).scanl f b = s.scanl f b ++ (t.scanl f (s.foldl f b)).tail
  | b, [], t => by cases t <;> rfl
  | b, x :: s, t => by
    rw [List.cons_append, List.scanl_cons, List.scanl_cons, scanl_append f (f b x) s t, List.foldl_cons,
      List.append_assoc]

/-- The `group` block of `Extend` on two lists of prefix sums from 0: the prefix sums of
the group sizes of both, in order. -/
theorem scanl_rebase (s t : List UInt32) :
    s.scanl (· + ·) 0 ++ ((t.scanl (· + ·) 0).drop 1).map (· + (s.scanl (· + ·) 0).getLast?.getD 0) =
      (s ++ t).scanl (· + ·) 0 := by
  rw [getLast?_scanl, Option.getD_some, scanl_append, List.drop_one, scanl_add_eq_map (s.foldl _ 0) t, List.map_tail]

/-- The last boundary after the `group` block rebases `b`, which starts at 0, onto `a`: the
two last boundaries added in `uint32_t`. -/
theorem getLast_rebase (a : List UInt32) {b : List UInt32} (hb0 : b.head? = some 0) :
    (a ++ (b.drop 1).map (· + a.getLast?.getD 0)).getLast?.getD 0 = b.getLast?.getD 0 + a.getLast?.getD 0 := by
  obtain ⟨t, rfl⟩ : ∃ t, b = 0 :: t := by
    cases b with
    | nil => cases hb0
    | cons z t => exact ⟨t, by rw [Option.some.inj hb0]⟩
  cases t with
  | nil => simp
  | cons c r =>
    simp only [List.drop_one, List.tail_cons, List.getLast?_append, List.getLast?_map,
      List.getLast?_cons_cons, List.getLast?_eq_getLast (c :: r) (List.cons_ne_nil c r), Option.map_some',
      Option.or_some, Option.getD_some]

/-! ## The `group` block over a sequence of batches -/

/-- What an `Extend` that returns leaves in the row count, the weights and the group
boundaries. -/
theorem extend_rows_groups {H : MetaHelpers} {that m m' : MetaInfo Cats} {checkColumn : Bool}
    (h : extend H that true checkColumn m = .ok () m') :
    m'.numRow = m.numRow + that.numRow ∧ m'.weights = m.weights ++ that.weights ∧
      m'.groupPtr = if m.groupPtr.length = 0 then that.groupPtr
        else m.groupPtr ++ (that.groupPtr.drop 1).map (· + m.groupPtr.getLast?.getD 0) := by
  obtain ⟨_, _, -, -, hm'⟩ := extend_ok h
  exact ⟨congrArg MetaInfo.numRow hm', congrArg MetaInfo.weights hm', congrArg MetaInfo.groupPtr hm'⟩

/-- `Extend` folded onto a record holding the prefix sums of `sizes`, over batches each
holding the prefix sums of its group sizes: the prefix sums of `sizes` and then of all the
batches' group sizes. -/
theorem extendAll_groupPtr_scanl (H : MetaHelpers) (checkColumn : Bool) :
    ∀ {bs : List (MetaInfo Cats)} {groups : List (List UInt32)} {m m' : MetaInfo Cats} (sizes : List UInt32),
      bs.map (·.groupPtr) = groups.map (·.scanl (· + ·) 0) → m.groupPtr = sizes.scanl (· + ·) 0 →
      extendAll H checkColumn bs m = .ok () m' → m'.groupPtr = (sizes ++ groups.flatten).scanl (· + ·) 0
  | [], [], _, _, sizes, _, hm, h => by
    obtain ⟨-, rfl⟩ := EStateM.Result.ok.inj h
    rw [hm, List.flatten_nil, List.append_nil]
  | b :: bs, g :: groups, m, m', sizes, hbs, hm, h => by
    obtain ⟨hb, hbs⟩ := List.cons.inj hbs
    have hb : b.groupPtr = g.scanl (· + ·) 0 := hb
    obtain ⟨_, m1, h1, k1⟩ := EStateM.bind_ok_inv h
    have hm1 : m1.groupPtr = (sizes ++ g).scanl (· + ·) 0 := by
      rw [(extend_rows_groups h1).2.2, hm, if_neg (by cases sizes <;> simp), hb, scanl_rebase]
    rw [extendAll_groupPtr_scanl H checkColumn (sizes ++ g) hbs hm1 k1, List.flatten_cons, List.append_assoc]
  | [], _ :: _, _, _, _, hbs, _, _ => nomatch hbs
  | _ :: _, [], _, _, _, hbs, _, _ => nomatch hbs

/-- Query groups concatenate.  Folding `Extend(batch, true, check_column)` into a record
without groups, over one or more batches each holding the prefix sums of its group sizes
(what `SetInfo("group", …)` stores), leaves the prefix sums of all the group sizes in
order: the boundaries one `SetInfo("group", …)` of the concatenated sizes would store,
in `uint32_t`, whatever wraps around. -/
theorem extendAll_groupPtr (H : MetaHelpers) (checkColumn : Bool) {bs : List (MetaInfo Cats)}
    {groups : List (List UInt32)} {m m' : MetaInfo Cats} (hm : m.groupPtr = []) (hne : bs ≠ [])
    (hbs : bs.map (·.groupPtr) = groups.map (·.scanl (· + ·) 0)) (h : extendAll H checkColumn bs m = .ok () m') :
    m'.groupPtr = groups.flatten.scanl (· + ·) 0 := by
  obtain ⟨b, bs, rfl⟩ := List.exists_cons_of_ne_nil hne
  obtain ⟨g, groups, rfl⟩ : ∃ g gs, groups = g :: gs := by
    cases groups with
    | nil => exact nomatch hbs
    | cons g gs => exact ⟨g, gs, rfl⟩
  obtain ⟨hb, hbs⟩ := List.cons.inj hbs
  obtain ⟨_, m1, h1, k1⟩ := EStateM.bind_ok_inv h
  have hm1 : m1.groupPtr = g.scanl (· + ·) 0 := by
    rw [(extend_rows_groups h1).2.2, hm, List.length_nil, if_pos rfl]
    exact hb
  rw [extendAll_groupPtr_scanl H checkColumn g hbs hm1 k1, List.flatten_cons]

/-- Batches of the groups `[2]` and `[1, 2]` folded into a fresh record: the boundaries
`[0, 2, 3, 5]` of the groups `[2, 1, 2]`. -/
theorem extendAll_groupPtr_twoBatches :
    extendAll (⟨fun y => y.isNaN || y.isInf, fun _ => false, fun _ => true, id, fun l _ => .ok l,
        fun _ _ => true⟩ : MetaHelpers) false
        [{ fresh () with numRow := 2, groupPtr := [0, 2] }, { fresh () with numRow := 3, groupPtr := [0, 1, 3] }]
        (fresh ()) = .ok () { fresh () with numRow := 5, groupPtr := [0, 2, 3, 5] } ∧
    ({ fresh () with numRow := 5, groupPtr := [0, 2, 3, 5] } : MetaInfo Unit).groupPtr =
      [[2], [1, 2]].flatten.scanl (· + ·) (0 : UInt32) :=
  have h : extendAll (⟨fun y => y.isNaN || y.isInf, fun _ => false, fun _ => true, id, fun l _ => .ok l,
        fun _ _ => true⟩ : MetaHelpers) false
        [{ fresh () with numRow := 2, groupPtr := [0, 2] }, { fresh () with numRow := 3, groupPtr := [0, 1, 3] }]
        (fresh ()) = .ok () { fresh () with numRow := 5, groupPtr := [0, 2, 3, 5] } := rfl
  ⟨h, extendAll_groupPtr _ false (by rfl) (List.cons_ne_nil _ _) (by rfl) h⟩

/-! ## `Validate` of the groups -/

theorem bind_ne_error {α β : Type} {x : Except MetaError α} {f : α → Except MetaError β} {e : MetaError}
    (hx : x ≠ .error e) (hf : ∀ a, f a ≠ .error e) : x >>= f ≠ .error e := by
  cases x with
  | error e' => exact fun k => hx (congrArg Except.error (Except.error.inj k))
  | ok a => exact hf a

theorem ensure_ne_error {c : Prop} [Decidable c] {e e' : MetaError} (h : e ≠ e') : ensure c e ≠ .error e' := by
  unfold ensure
  split
  · nofun
  · exact fun k => h (Except.error.inj k)

theorem ite_ne_error {α : Type} {c : Prop} [Decidable c] {x y : Except MetaError α} {e : MetaError}
    (hx : x ≠ .error e) (hy : y ≠ .error e) : (if c then x else y) ≠ .error e := by
  split <;> assumption

theorem cMod_ne_error (a b : Nat) : cMod a b ≠ .error .groupSize := by
  unfold cMod
  split <;> nofun

theorem checkField_ne_error {deviceOk : Bytes → Bool} {name : Bytes} {actual expected : Nat} {e e' : MetaError}
    (h : e ≠ e') (hd : MetaError.device ≠ e') : checkField deviceOk name actual expected e ≠ .error e' :=
  bind_ne_error (ensure_ne_error h) fun _ => ensure_ne_error hd

/-- Without weights, `Validate` raises the group-size error exactly when there are groups
and the last boundary is not `num_row_`: no later check raises it. -/
theorem validate_eq_groupSize {deviceOk : Bytes → Bool} {m : MetaInfo Cats} (hw : m.weights = []) :
    validate deviceOk m = .error .groupSize ↔
      m.groupPtr ≠ [] ∧ (m.groupPtr.getLast?.getD 0).toNat ≠ m.numRow.toNat := by
  unfold validate
  rw [hw, if_neg (fun k => k.2 rfl)]
  constructor
  · intro h
    cases hc : (if m.groupPtr.length ≠ 0 then
        ensure ((m.groupPtr.getLast?.getD 0).toNat = m.numRow.toNat) MetaError.groupSize else pure ()) with
    | error e =>
      rw [hc] at h
      cases h
      split_ifs at hc with hg
      · refine ⟨ne_nil_of_length_ne_zero hg, fun k => ?_⟩
        rw [ensure, if_pos k] at hc
        cases hc
      · cases hc
    | ok u =>
      rw [hc] at h
      have row := @checkField_ne_error deviceOk
      exact absurd h <| bind_ne_error nofun fun _ =>
        ite_ne_error (row nofun nofun) <| ite_ne_error (row nofun nofun) <| ite_ne_error (row nofun nofun) <|
        bind_ne_error (ite_ne_error (row nofun nofun) nofun) fun _ => ite_ne_error (row nofun nofun) <|
        bind_ne_error (ensure_ne_error nofun) fun _ => ite_ne_error (bind_ne_error (cMod_ne_error _ _) fun _ =>
          bind_ne_error (ensure_ne_error nofun) fun _ => ensure_ne_error nofun) nofun
  · rintro ⟨hg, hl⟩
    rw [if_pos (mt List.length_eq_zero.mp hg), ensure, if_neg hl]
    rfl

/-- What `Validate` reads of the groups, as `Extend` keeps it: the last boundary is
`num_row_` modulo 2^32, the boundaries being `uint32_t`, and a record without groups has
no rows. -/
structure GroupsEndAtRows (m : MetaInfo Cats) : Prop where
  last : (m.groupPtr.getLast?.getD 0).toNat = m.numRow.toNat % 2 ^ 32
  empty : m.groupPtr = [] → m.numRow = 0

/-- An `Extend` of a batch whose boundaries start at 0 and end at its row count keeps
`GroupsEndAtRows`. -/
theorem extend_groupsEndAtRows {H : MetaHelpers} {b m m' : MetaInfo Cats} {checkColumn : Bool}
    (hm : GroupsEndAtRows m) (hb0 : b.groupPtr.head? = some 0)
    (hb : (b.groupPtr.getLast?.getD 0).toNat = b.numRow.toNat) (h : extend H b true checkColumn m = .ok () m') :
    GroupsEndAtRows m' := by
  obtain ⟨hr, -, hg⟩ := extend_rows_groups h
  have hbne : b.groupPtr ≠ [] := fun k => by rw [k] at hb0; cases hb0
  have hlt := UInt32.toNat_lt_size (b.groupPtr.getLast?.getD 0)
  rw [hb] at hlt
  by_cases h0 : m.groupPtr = []
  · rw [h0, List.length_nil, if_pos rfl] at hg
    refine ⟨?_, fun k => absurd (hg.symm.trans k) hbne⟩
    rw [hg, hb, hr, hm.empty h0, zero_add]
    exact (Nat.mod_eq_of_lt hlt).symm
  · rw [if_neg (mt List.length_eq_zero.mp h0)] at hg
    refine ⟨?_, fun k => absurd (hg.symm.trans k) (List.append_ne_nil_of_left_ne_nil h0 _)⟩
    rw [hg, hr, getLast_rebase _ hb0, UInt32.toNat_add, UInt64.toNat_add, hb, hm.last]
    show (_ + _ % 2 ^ 32) % 2 ^ 32 = (_ % 2 ^ 64) % 2 ^ 32
    rw [Nat.add_mod_mod, Nat.mod_mod_of_dvd _ (pow_dvd_pow 2 (by norm_num)), Nat.add_comm]

/-- What every `Extend` of a batch satisfying `Q` keeps, `extendAll` keeps. -/
theorem extendAll_induction (H : MetaHelpers) (checkColumn : Bool) {P Q : MetaInfo Cats → Prop}
    (step : ∀ {b m m' : MetaInfo Cats}, Q b → P m → extend H b true checkColumn m = .ok () m' → P m') :
    ∀ {bs : List (MetaInfo Cats)} {m m' : MetaInfo Cats}, P m → (∀ b ∈ bs, Q b) →
      extendAll H checkColumn bs m = .ok () m' → P m'
  | [], _, _, hm, _, h => by
    obtain ⟨-, rfl⟩ := EStateM.Result.ok.inj h
    exact hm
  | b :: _, _, _, hm, hbs, h => by
    obtain ⟨_, _, h1, k1⟩ := EStateM.bind_ok_inv h
    exact extendAll_induction H checkColumn step (step (hbs b (List.mem_cons_self _ _)) hm h1)
      (fun b' hb' => hbs b' (List.mem_cons_of_mem b hb')) k1

/-- `Validate` of the groups of a matrix built by `Extend`.  Folding `Extend(batch, true,
check_column)` over batches without weights whose boundaries start at 0 and end at their
row counts, into a record without weights whose last boundary is its row count (a fresh
record has no groups and no rows): `Validate` raises `error::GroupSize()` exactly when
the matrix has 2^32 rows or more, the last `uint32_t` boundary being `num_row_` modulo
2^32. -/
theorem validate_extendAll_groupSize (H : MetaHelpers) (checkColumn : Bool) (deviceOk : Bytes → Bool)
    {bs : List (MetaInfo Cats)} {m m' : MetaInfo Cats}
    (hm : (m.groupPtr.getLast?.getD 0).toNat = m.numRow.toNat ∧ m.weights = [])
    (hbs : ∀ b ∈ bs, b.groupPtr.head? = some 0 ∧ (b.groupPtr.getLast?.getD 0).toNat = b.numRow.toNat ∧
      b.weights = [])
    (h : extendAll H checkColumn bs m = .ok () m') :
    validate deviceOk m' = .error .groupSize ↔ 2 ^ 32 ≤ m'.numRow.toNat := by
  have hm' : GroupsEndAtRows m ∧ m.weights = [] := by
    have hlt := UInt32.toNat_lt_size (m.groupPtr.getLast?.getD 0)
    refine ⟨⟨?_, fun k => ?_⟩, hm.2⟩
    · rw [hm.1]
      exact (Nat.mod_eq_of_lt (hm.1 ▸ hlt)).symm
    · have h0 := hm.1
      rw [k] at h0
      exact UInt64.toNat.inj h0.symm
  obtain ⟨hg, hw⟩ := extendAll_induction H checkColumn
    (P := fun m => GroupsEndAtRows m ∧ m.weights = [])
    (fun hb hm h1 => ⟨extend_groupsEndAtRows hm.1 hb.1 hb.2.1 h1,
      by rw [(extend_rows_groups h1).2.1, hm.2, hb.2.2]; rfl⟩) hm' hbs h
  rw [validate_eq_groupSize hw]
  by_cases h0 : m'.groupPtr = []
  · rw [hg.empty h0]
    simp [h0]
  · have := hg.last
    simp only [ne_eq, h0, not_false_eq_true, true_and]
    omega

/-- A batch of 2^32 - 1 rows in one group, then a batch of one row: the boundaries wrap
to `[0, 2^32 - 1, 0]`, and `Validate` of the 2^32 rows raises `error::GroupSize()`. -/
theorem validate_extendAll_groupSize_wraps :
    extendAll (⟨fun y => y.isNaN || y.isInf, fun _ => false, fun _ => true, id, fun l _ => .ok l,
        fun _ _ => true⟩ : MetaHelpers) false
        [{ fresh () with numRow := 4294967295, groupPtr := [0, 4294967295] },
         { fresh () with numRow := 1, groupPtr := [0, 1] }] (fresh ()) =
      .ok () { fresh () with numRow := 4294967296, groupPtr := [0, 4294967295, 0] } ∧
    (validate (fun _ => true) ({ fresh () with numRow := 4294967296, groupPtr := [0, 4294967295, 0] } : MetaInfo Unit) =
      .error .groupSize ↔ 2 ^ 32 ≤ 4294967296) :=
  have h : extendAll (⟨fun y => y.isNaN || y.isInf, fun _ => false, fun _ => true, id, fun l _ => .ok l,
        fun _ _ => true⟩ : MetaHelpers) false
        [{ fresh () with numRow := 4294967295, groupPtr := [0, 4294967295] },
         { fresh () with numRow := 1, groupPtr := [0, 1] }] (fresh ()) =
      .ok () { fresh () with numRow := 4294967296, groupPtr := [0, 4294967295, 0] } := rfl
  ⟨h, validate_extendAll_groupSize _ false (fun _ => true) ⟨by rfl, by rfl⟩
    (fun b hb => by
      simp only [List.mem_cons, List.mem_singleton, List.not_mem_nil, or_false] at hb
      rcases hb with rfl | rfl <;> exact ⟨rfl, rfl, rfl⟩) h⟩

end MetaInfo

end XGBoostData
