import XGBoostData.Data.MetaInfoUpdate

/-!
# Reading `MetaInfo` back: `GetInfo` and `GetFeatureInfo` (data.cc)

WHAT THIS FILE IS FOR.  `GetInfo` hands out the vector behind a `float` or `uint32` key,
and `GetFeatureInfo` the feature names or feature type names.  With `SetInfo` and
`SetFeatureInfo` they make `MetaInfo` a store keyed by name, and this file proves the
laws of that store.  A read after a write of the same key answers what was written, and
the group sizes come back exactly from `group_ptr` (`setInfoFromHost_getInfo`,
`setFeatureInfo_getFeatureInfo`).  A write, returning or raising, leaves every other read
as it was.

THE KEYS.  The two sides do not use the same names.  `SetInfo("group")` and
`SetInfo("qid")` write `group_ptr_`, which is read back as `GetInfo("group_ptr")` with
type `kUInt32`; the `float` keys are shared.  `getInfoField` says which field a read
reads, and `infoField` (`MetaInfoUpdate.lean`) which field a write writes.
-/

set_option autoImplicit false

namespace XGBoostData

namespace MetaInfo

/-- Why a read of `MetaInfo` raises (a `LOG(FATAL)`). -/
inductive QueryError
  /-- `Unknown float field name: <key>`. -/
  | unknownFloatField (key : Bytes)
  /-- `Unknown uint32 field name: <key>`. -/
  | unknownUint32Field (key : Bytes)
  /-- `Unknown data type for getting meta info.` -/
  | unknownDataType
  /-- `Unknown feature info: <field>`. -/
  | unknownFeatureInfo (field : Bytes)
  deriving DecidableEq, Repr

/-- The vector `GetInfo` points `*out_dptr` at; `*out_len` is its length. -/
inductive InfoVector
  | float32 (v : List F32)
  | uint32 (v : List UInt32)
  deriving DecidableEq, Repr

variable {Cats : Type}

/-- The host vector of a field, as `GetInfo` hands it out.  The labels and the base
margin are tensors, handed out through `Data()->HostVector()`: their elements in
row-major order. -/
def InfoField.read : InfoField → MetaInfo Cats → InfoVector
  | .baseMargin, m => .float32 m.baseMargin.data
  | .labels, m => .float32 m.labels.data
  | .groupPtr, m => .uint32 m.groupPtr
  | .weights, m => .float32 m.weights
  | .labelsLowerBound, m => .float32 m.labelsLowerBound
  | .labelsUpperBound, m => .float32 m.labelsUpperBound
  | .featureWeights, m => .float32 m.featureWeights

/-- The field `GetInfo(key, …, dtype, …)` reads: for `kFloat32` one of the six `float`
fields by name, for `kUInt32` the group boundaries, and for any other type none. -/
def getInfoField (key : Bytes) : DataType → Option InfoField
  | .kFloat32 =>
    if key = ascii "label" then some .labels
    else if key = ascii "weight" then some .weights
    else if key = ascii "base_margin" then some .baseMargin
    else if key = ascii "label_lower_bound" then some .labelsLowerBound
    else if key = ascii "label_upper_bound" then some .labelsUpperBound
    else if key = ascii "feature_weights" then some .featureWeights
    else none
  | .kUInt32 => if key = ascii "group_ptr" then some .groupPtr else none
  | _ => none

/-- `GetInfo(key, out_len, dtype, out_dptr)`: the host vector of the field the key names
for the type, or the `LOG(FATAL)` for a name or a type it does not know.  The source
compares the key with each name in turn (`getInfoField`) and then points at the vector. -/
def getInfo (m : MetaInfo Cats) (key : Bytes) (dtype : DataType) : Except QueryError InfoVector :=
  match getInfoField key dtype, dtype with
  | some f, _ => .ok (f.read m)
  | none, .kFloat32 => .error (.unknownFloatField key)
  | none, .kUInt32 => .error (.unknownUint32Field key)
  | none, _ => .error .unknownDataType

/-- `GetFeatureInfo(field, out_str_vecs)`: a copy of the feature type names or of the
feature names, or the `LOG(FATAL)` for another field. -/
def getFeatureInfo (m : MetaInfo Cats) (field : Bytes) : Except QueryError (List Bytes) :=
  if field = ascii "feature_type" then .ok m.featureTypeNames
  else if field = ascii "feature_name" then .ok m.featureNames
  else .error (.unknownFeatureInfo field)

/-! ## Reads of the fields a write leaves -/

@[simp] theorem read_take_self (f : InfoField) (m m' : MetaInfo Cats) : f.read (f.take m m') = f.read m' := by
  cases f <;> rfl

theorem read_take_of_ne {f g : InfoField} (h : g ≠ f) (m m' : MetaInfo Cats) : g.read (f.take m m') = g.read m := by
  cases f <;> cases g <;> first | rfl | exact absurd rfl h

/-- `GetInfo` sees a record only through the fields it reads. -/
theorem getInfo_congr {m m' : MetaInfo Cats} (h : ∀ f : InfoField, f.read m = f.read m') (k : Bytes)
    (dtype : DataType) : getInfo m k dtype = getInfo m' k dtype := by
  unfold getInfo
  rcases getInfoField k dtype with _ | f
  · cases dtype <;> rfl
  · exact congrArg Except.ok (h f)

/-- `GetInfo` of a field other than the one `key` names does not see what a write of `key`
took from `m'`. -/
theorem getInfo_withInfoField {key k : Bytes} {dtype : DataType}
    (h : infoField key = none ∨ getInfoField k dtype ≠ infoField key) (m m' : MetaInfo Cats) :
    getInfo (withInfoField key m m') k dtype = getInfo m k dtype := by
  rcases hf : infoField key with _ | f
  · simp only [withInfoField, hf]
  · rw [hf] at h
    have hw : withInfoField key m m' = f.take m m' := by simp only [withInfoField, hf]
    rw [hw]
    unfold getInfo
    rcases hg : getInfoField k dtype with _ | g
    · cases dtype <;> rfl
    · have hgf : g ≠ f := fun e => h.resolve_left (Option.some_ne_none f) (by rw [hg, e])
      dsimp only
      rw [read_take_of_ne hgf]

/-! ## What a write that returns leaves -/

theorem bind_liftExcept_ok {σ α β : Type} {x : Except MetaError α} {f : α → EStateM MetaError σ β} {s s' : σ}
    {b : β} (h : (liftExcept x >>= f) s = .ok b s') : ∃ a, x = .ok a ∧ f a s = .ok b s' := by
  obtain ⟨a, _, h1, k1⟩ := EStateM.bind_ok_inv h
  obtain ⟨hx, rfl⟩ := liftExcept_ok_inv h1
  exact ⟨a, hx, k1⟩

theorem modify_ok {σ : Type} {g : σ → σ} {s s' : σ} (h : (modify g : EStateM MetaError σ PUnit) s = .ok ⟨⟩ s') :
    s' = g s :=
  (EStateM.Result.ok.inj h).2.symm

theorem modify_check_ok {σ : Type} {g : σ → σ} {c : Prop} [Decidable c] {e : MetaError} {s s' : σ}
    (h : (modify g >>= fun _ => check c e : EStateM MetaError σ Unit) s = .ok () s') : s' = g s := by
  obtain ⟨_, _, h1, k1⟩ := EStateM.bind_ok_inv h
  obtain rfl := modify_ok h1
  rw [check_apply] at k1
  split at k1
  · exact (EStateM.Result.ok.inj k1).2.symm
  · cases k1

/-- `reshapeToRows` changes the shape and keeps the elements. -/
theorem reshapeToRows_data {numRow : UInt64} {err : MetaError} {t t' : Tensor}
    (h : reshapeToRows numRow err t = .ok t') : t'.data = t.data := by
  unfold reshapeToRows at h
  split_ifs at h <;> cases h <;> rfl

/-- The tensor a `label` or `base_margin` write stores last holds the elements it
copied first: `g` stores a tensor, `r` reads `num_row_`, `c` is what follows the
reshape. -/
theorem tensor_write_ok {σ : Type} {t0 : Tensor} {g : σ → Tensor → σ} {r : σ → UInt64} {e : MetaError}
    {c : Tensor → EStateM MetaError σ Unit} {s s' : σ}
    (hc : ∀ t s s', c t s = .ok () s' → s' = g s t)
    (h : (modify (g · t0) >>= fun _ => get >>= fun s => liftExcept (reshapeToRows (r s) e t0) >>= c) s =
      .ok () s') :
    ∃ t, t.data = t0.data ∧ s' = g (g s t0) t := by
  obtain ⟨_, _, h1, k1⟩ := EStateM.bind_ok_inv h
  obtain rfl := modify_ok h1
  obtain ⟨_, _, h2, k2⟩ := EStateM.bind_ok_inv k1
  obtain ⟨rfl, rfl⟩ := EStateM.Result.ok.inj h2
  obtain ⟨t, ht, k3⟩ := bind_liftExcept_ok k2
  exact ⟨t, reshapeToRows_data ht, hc t _ _ k3⟩

/-- The name `GetInfo` reads a `float` field under. -/
def InfoField.floatKey : InfoField → Bytes
  | .labels => ascii "label"
  | .weights => ascii "weight"
  | .baseMargin => ascii "base_margin"
  | .labelsLowerBound => ascii "label_lower_bound"
  | .labelsUpperBound => ascii "label_upper_bound"
  | .featureWeights => ascii "feature_weights"
  | .groupPtr => ascii "group_ptr"

theorem eq_floatKey_of_getInfoField {key : Bytes} {f : InfoField} (hf : getInfoField key .kFloat32 = some f) :
    key = f.floatKey ∧ f ≠ .groupPtr := by
  simp only [getInfoField] at hf
  by_cases k1 : key = ascii "label"
  · rw [if_pos k1] at hf; cases hf; exact ⟨k1, nofun⟩
  rw [if_neg k1] at hf
  by_cases k2 : key = ascii "weight"
  · rw [if_pos k2] at hf; cases hf; exact ⟨k2, nofun⟩
  rw [if_neg k2] at hf
  by_cases k3 : key = ascii "base_margin"
  · rw [if_pos k3] at hf; cases hf; exact ⟨k3, nofun⟩
  rw [if_neg k3] at hf
  by_cases k4 : key = ascii "label_lower_bound"
  · rw [if_pos k4] at hf; cases hf; exact ⟨k4, nofun⟩
  rw [if_neg k4] at hf
  by_cases k5 : key = ascii "label_upper_bound"
  · rw [if_pos k5] at hf; cases hf; exact ⟨k5, nofun⟩
  rw [if_neg k5] at hf
  by_cases k6 : key = ascii "feature_weights"
  · rw [if_pos k6] at hf; cases hf; exact ⟨k6, nofun⟩
  rw [if_neg k6] at hf
  cases hf

/-- A write of a `float` key that `GetInfo` reads under the same name, when it returns on
an array with elements, stores the array's values in the field. -/
theorem read_setInfoFromHost_float {H : MetaHelpers} {key : Bytes} {arr : ArrayInterface} {m m' : MetaInfo Cats}
    {f : InfoField} (hf : getInfoField key .kFloat32 = some f) (h1 : arr.shape1.toNat ≠ 0)
    (h2 : arr.shape2.1.toNat * arr.shape2.2.toNat ≠ 0) (h : setInfoFromHost H key arr m = .ok () m') :
    f.read m' = .float32 arr.floats := by
  have hv : ∀ t, copyTensorInfo1 arr arr.floats = .ok t → t = arr.floats := fun t ht => by
    unfold copyTensorInfo1 at ht
    rw [if_neg h1] at ht
    split_ifs at ht
    exact (Except.ok.inj ht).symm
  have ht2 : ∀ t, copyTensorInfo2 arr = .ok t → t.data = arr.floats := fun t ht => by
    unfold copyTensorInfo2 at ht
    rw [if_neg h2] at ht
    split_ifs at ht
    cases ht
    rfl
  obtain ⟨rfl, hg⟩ := eq_floatKey_of_getInfoField hf
  cases f <;> simp (disch := decide) only [InfoField.floatKey, setInfoFromHost, if_pos, if_neg] at h
  case labels =>
    obtain ⟨t, ht, k⟩ := bind_liftExcept_ok h
    obtain ⟨t', ht', rfl⟩ := tensor_write_ok (g := fun (m : MetaInfo Cats) t => { m with labels := t })
      (fun _ _ _ k => modify_check_ok k) k
    exact congrArg InfoVector.float32 (ht'.trans (ht2 t ht))
  case baseMargin =>
    obtain ⟨t, ht, k⟩ := bind_liftExcept_ok h
    obtain ⟨t', ht', rfl⟩ := tensor_write_ok (g := fun (m : MetaInfo Cats) t => { m with baseMargin := t })
      (fun _ _ _ k => modify_ok k) k
    exact congrArg InfoVector.float32 (ht'.trans (ht2 t ht))
  case groupPtr => exact absurd rfl hg
  all_goals
    obtain ⟨t, ht, k⟩ := bind_liftExcept_ok h
    first | rw [modify_check_ok k, ← hv t ht]; rfl | rw [modify_ok k, ← hv t ht]; rfl

/-- The differences of consecutive prefix sums are the summands, in `uint32_t`
arithmetic, whatever wraps around. -/
theorem diffs_scanl_add : ∀ (a : UInt32) (l : List UInt32),
    ((l.scanl (· + ·) a).zip (l.scanl (· + ·) a).tail).map (fun p => p.2 - p.1) = l
  | _, [] => rfl
  | a, x :: l => by
    have ih := diffs_scanl_add (a + x) l
    obtain ⟨t, ht⟩ : ∃ t, l.scanl (· + ·) (a + x) = (a + x) :: t := by
      cases l <;> exact ⟨_, rfl⟩
    rw [ht, List.tail_cons] at ih
    show ((a :: l.scanl (· + ·) (a + x)).zip (l.scanl (· + ·) (a + x))).map (fun p => p.2 - p.1) = x :: l
    rw [ht, List.zip_cons_cons, List.map_cons, ih]
    exact congrArg (· :: l) (add_sub_cancel_left a x)

/-- What a write of `group` that returns stores, from an array with elements: the prefix
sums of the group sizes. -/
theorem groupPtr_setInfoFromHost_group {H : MetaHelpers} {arr : ArrayInterface} {m m' : MetaInfo Cats}
    (h1 : arr.shape1.toNat ≠ 0) (h : setInfoFromHost H (ascii "group") arr m = .ok () m') :
    m'.groupPtr = arr.uints.scanl (· + ·) 0 := by
  simp (disch := decide) only [setInfoFromHost, if_pos, if_neg] at h
  obtain ⟨t, ht, k⟩ := bind_liftExcept_ok h
  rw [modify_check_ok k]
  unfold copyTensorInfo1 at ht
  rw [if_neg h1] at ht
  split_ifs at ht
  cases ht
  rfl

/-- `SetInfoFromHost` and `GetInfo` are a store.  Whether the write returns or raises,
`GetInfo` of every field its key does not name answers as before.  When it returns on an
array with elements, `GetInfo` of a shared `float` key answers the array's values, and
`GetInfo("group_ptr")` after `SetInfo("group")` answers boundaries whose differences are
the group sizes, with no loss when the sums wrap around. -/
theorem setInfoFromHost_getInfo (H : MetaHelpers) (key : Bytes) (arr : ArrayInterface) (m : MetaInfo Cats) :
    (∀ k dtype, infoField key = none ∨ getInfoField k dtype ≠ infoField key →
      getInfo (resultState (setInfoFromHost H key arr m)) k dtype = getInfo m k dtype) ∧
    (∀ m', setInfoFromHost H key arr m = .ok () m' → arr.shape1.toNat ≠ 0 →
      ((getInfoField key .kFloat32).isSome →
        arr.shape2.1.toNat * arr.shape2.2.toNat ≠ 0 → getInfo m' key .kFloat32 = .ok (.float32 arr.floats)) ∧
      (key = ascii "group" → ∃ p, getInfo m' (ascii "group_ptr") .kUInt32 = .ok (.uint32 p) ∧
        (p.zip p.tail).map (fun q => q.2 - q.1) = arr.uints)) := by
  refine ⟨fun k dtype hk => ?_, fun m' h h1 => ⟨fun hf h2 => ?_, fun hkey => ?_⟩⟩
  · rw [← frame_setInfoFromHost H key arr m, getInfo_withInfoField hk]
  · obtain ⟨f, hf⟩ := Option.isSome_iff_exists.mp hf
    simp only [getInfo, hf, read_setInfoFromHost_float hf h1 h2 h]
  · subst hkey
    exact ⟨_, rfl, groupPtr_setInfoFromHost_group h1 h ▸ diffs_scanl_add 0 arr.uints⟩

/-- `SetInfo("weight")` of one value on a fresh record, read back. -/
theorem setInfoFromHost_getInfo_weight :
    setInfoFromHost (⟨fun y => y.isNaN || y.isInf, fun _ => false, fun _ => true, id, fun l _ => .ok l,
        fun _ _ => true⟩ : MetaHelpers) (ascii "weight") ⟨(1, 1), 1, false, [F32.one], []⟩ (fresh ()) =
      .ok () { fresh () with weights := [F32.one] } ∧
    getInfo ({ fresh () with weights := [F32.one] } : MetaInfo Unit) (ascii "weight") .kFloat32 =
      .ok (.float32 [F32.one]) :=
  have h : setInfoFromHost (⟨fun y => y.isNaN || y.isInf, fun _ => false, fun _ => true, id, fun l _ => .ok l,
        fun _ _ => true⟩ : MetaHelpers) (ascii "weight") ⟨(1, 1), 1, false, [F32.one], []⟩ (fresh ()) =
      .ok () { fresh () with weights := [F32.one] } := rfl
  ⟨h, ((setInfoFromHost_getInfo _ _ _ _).2 _ h (by decide)).1 rfl (by decide)⟩

/-! ## `SetFeatureInfo` and `GetFeatureInfo` -/

/-- The names `SetFeatureInfo("feature_name", …)` stores before it gathers them: under a
column split each is prefixed with the worker's rank and a `.`. -/
def rankedNames (colSplit : Bool) (rank : Nat) (info : List Bytes) : List Bytes :=
  if colSplit then info.map (fun elem => ascii (toString rank) ++ ascii "." ++ elem) else info

/-- `m` with the fields `SetFeatureInfo(key, …)` writes taken from `m'`: the feature type
names, the types and the categorical flag for `feature_type`, the feature names for
`feature_name`, and nothing for another key. -/
def withFeatureInfo (key : Bytes) (m m' : MetaInfo Cats) : MetaInfo Cats :=
  if key = ascii "feature_type" then
    { m with featureTypeNames := m'.featureTypeNames, featureTypes := m'.featureTypes,
             hasCategorical := m'.hasCategorical }
  else if key = ascii "feature_name" then { m with featureNames := m'.featureNames }
  else m

theorem framePart_withFeatureInfo (key : Bytes) : FramePart (@withFeatureInfo Cats key) := by
  unfold withFeatureInfo
  by_cases h1 : key = ascii "feature_type"
  · simp only [if_pos h1]
    exact ⟨fun _ => rfl, fun _ _ _ => rfl⟩
  by_cases h2 : key = ascii "feature_name"
  · simp only [if_neg h1, if_pos h2]
    exact ⟨fun _ => rfl, fun _ _ _ => rfl⟩
  simp only [if_neg h1, if_neg h2]
  exact ⟨fun _ => rfl, fun _ _ _ => rfl⟩

/-- `SetFeatureInfo` writes the fields of its key and no other, whether it returns or
raises. -/
theorem frame_setFeatureInfo (colSplit : Bool) (rank : Nat) (allgather : List Bytes → Except MetaError (List Bytes))
    (key : Bytes) (info : List Bytes) :
    Frame (withFeatureInfo key) (setFeatureInfo colSplit rank allgather key info : EStateM MetaError (MetaInfo Cats) Unit) := by
  have hg := @framePart_withFeatureInfo Cats key
  unfold setFeatureInfo
  refine Frame.bind hg (Frame.get hg) fun _ => Frame.bind hg (Frame.ite (Frame.check hg _ _) (Frame.pure hg _)) fun _ => ?_
  by_cases h1 : key = ascii "feature_type"
  · rw [if_pos h1]
    subst h1
    exact Frame.bind hg (Frame.modify fun _ => rfl) fun _ => Frame.bind hg (Frame.liftExcept hg _) fun _ =>
      Frame.bind hg (Frame.modify fun _ => rfl) fun _ => Frame.bind hg (Frame.get hg) fun _ =>
      Frame.bind hg (Frame.modify fun _ => rfl) fun _ => Frame.bind hg (Frame.liftExcept hg _) fun _ =>
      Frame.modify fun _ => rfl
  rw [if_neg h1]
  by_cases h2 : key = ascii "feature_name"
  · rw [if_pos h2]
    subst h2
    exact Frame.bind hg (Frame.modify fun _ => rfl) fun _ => Frame.bind hg (Frame.liftExcept hg _) fun _ =>
      Frame.modify fun _ => rfl
  rw [if_neg h2]
  exact Frame.throw hg _

/-- The size check passes, and leaves the record as it was. -/
theorem sizeCheck_ok {colSplit : Bool} {info : List Bytes} {m : MetaInfo Cats}
    (hsize : info.length ≠ 0 ∧ m.numCol ≠ 0 ∧ colSplit = false → info.length = m.numCol.toNat) (key : Bytes) :
    (if info.length ≠ 0 ∧ m.numCol ≠ 0 ∧ colSplit = false then
      check (info.length = m.numCol.toNat) (.featureInfoLength key)
    else pure () : EStateM MetaError (MetaInfo Cats) Unit) m = .ok () m := by
  split_ifs with h
  · rw [check_apply, if_pos (hsize h)]
  · rfl

/-- Without a column split, a count of names other than the column count raises before
anything is written. -/
theorem setFeatureInfo_size_error {info : List Bytes} {m : MetaInfo Cats} (h : info.length ≠ 0 ∧ m.numCol ≠ 0)
    (hne : info.length ≠ m.numCol.toNat) (rank : Nat) (allgather : List Bytes → Except MetaError (List Bytes))
    (key : Bytes) : setFeatureInfo false rank allgather key info m = .error (.featureInfoLength key) m := by
  simp only [setFeatureInfo, EStateM.bind_apply, EStateM.get_apply, ne_eq, h.1, h.2, not_false_eq_true, and_self,
    if_true, check_apply, hne, if_false]

/-- `SetFeatureInfo("feature_name", …)` once the size check passes: the ranked names are
stored, then the gathered ones. -/
theorem setFeatureInfo_featureName {colSplit : Bool} {info : List Bytes} {m : MetaInfo Cats}
    (hsize : info.length ≠ 0 ∧ m.numCol ≠ 0 ∧ colSplit = false → info.length = m.numCol.toNat) (rank : Nat)
    (allgather : List Bytes → Except MetaError (List Bytes)) :
    setFeatureInfo colSplit rank allgather (ascii "feature_name") info m =
      match gatherColumns colSplit allgather (ascii "feature_name") m.numCol (rankedNames colSplit rank info) with
      | .ok names => .ok () { m with featureNames := names }
      | .error e => .error e { m with featureNames := rankedNames colSplit rank info } := by
  have hr : (if colSplit = true then info.map (fun elem => ascii (toString rank) ++ ascii "." ++ elem) else info) =
      rankedNames colSplit rank info := rfl
  have hkey : ascii "feature_name" ≠ ascii "feature_type" := by decide
  rcases hg : gatherColumns colSplit allgather (ascii "feature_name") m.numCol (rankedNames colSplit rank info)
    with e | names <;>
  simp only [setFeatureInfo, if_neg hkey, eq_self_iff_true, if_true, EStateM.bind_apply, EStateM.get_apply,
    sizeCheck_ok hsize, EStateM.modify_apply, liftExcept_apply, hr, hg]

/-- `SetFeatureInfo("feature_type", …)` once the size check passes: the names are stored,
then the gathered ones, then the types `LoadFeatureType` reads from them and whether one
is categorical. -/
theorem setFeatureInfo_featureType {colSplit : Bool} {info : List Bytes} {m : MetaInfo Cats}
    (hsize : info.length ≠ 0 ∧ m.numCol ≠ 0 ∧ colSplit = false → info.length = m.numCol.toNat) (rank : Nat)
    (allgather : List Bytes → Except MetaError (List Bytes)) :
    setFeatureInfo colSplit rank allgather (ascii "feature_type") info m =
      match gatherColumns colSplit allgather (ascii "feature_type") m.numCol info with
      | .ok names =>
        match (loadFeatureType names).2 with
        | .ok b => .ok () { m with featureTypeNames := names, featureTypes := (loadFeatureType names).1,
                                   hasCategorical := b }
        | .error e => .error e { m with featureTypeNames := names, featureTypes := (loadFeatureType names).1 }
      | .error e => .error e { m with featureTypeNames := info } := by
  rcases hg : gatherColumns colSplit allgather (ascii "feature_type") m.numCol info with e | names
  · simp only [setFeatureInfo, eq_self_iff_true, if_true, EStateM.bind_apply, EStateM.get_apply,
      sizeCheck_ok hsize, EStateM.modify_apply, liftExcept_apply, hg]
  · rcases hl : (loadFeatureType names).2 with e | b <;>
    simp only [setFeatureInfo, eq_self_iff_true, if_true, EStateM.bind_apply, EStateM.get_apply,
      sizeCheck_ok hsize, EStateM.modify_apply, liftExcept_apply, hg, hl]

theorem getFeatureInfo_withFeatureInfo {key k : Bytes} (hk : k ≠ key) (m m' : MetaInfo Cats) :
    getFeatureInfo (withFeatureInfo key m m') k = getFeatureInfo m k := by
  unfold withFeatureInfo
  by_cases h1 : key = ascii "feature_type"
  · subst h1
    rw [if_pos rfl, getFeatureInfo, getFeatureInfo, if_neg hk, if_neg hk]
  rw [if_neg h1]
  by_cases h2 : key = ascii "feature_name"
  · subst h2
    rw [if_pos rfl, getFeatureInfo, getFeatureInfo, if_neg hk, if_neg hk]
  rw [if_neg h2]

theorem getInfo_withFeatureInfo (key k : Bytes) (dtype : DataType) (m m' : MetaInfo Cats) :
    getInfo (withFeatureInfo key m m') k dtype = getInfo m k dtype := by
  refine getInfo_congr (fun f => ?_) k dtype
  unfold withFeatureInfo
  by_cases h1 : key = ascii "feature_type"
  · rw [if_pos h1]
    cases f <;> rfl
  rw [if_neg h1]
  by_cases h2 : key = ascii "feature_name"
  · rw [if_pos h2]
    cases f <;> rfl
  rw [if_neg h2]

/-- `SetFeatureInfo` and `GetFeatureInfo` are a store.  Whether the write returns or
raises, `GetFeatureInfo` of the other field and `GetInfo` of every key answer as before;
without a column split, a write that returns is read back as written. -/
theorem setFeatureInfo_getFeatureInfo (colSplit : Bool) (rank : Nat)
    (allgather : List Bytes → Except MetaError (List Bytes)) (key : Bytes) (info : List Bytes) (m : MetaInfo Cats) :
    (∀ k, k ≠ key → getFeatureInfo (resultState (setFeatureInfo colSplit rank allgather key info m)) k =
      getFeatureInfo m k) ∧
    (∀ k dtype, getInfo (resultState (setFeatureInfo colSplit rank allgather key info m)) k dtype = getInfo m k dtype) ∧
    (colSplit = false → ∀ m', setFeatureInfo colSplit rank allgather key info m = .ok () m' →
      getFeatureInfo m' key = .ok info) := by
  refine ⟨fun k hk => ?_, fun k dtype => ?_, fun hcol m' h => ?_⟩
  · rw [← frame_setFeatureInfo colSplit rank allgather key info m, getFeatureInfo_withFeatureInfo hk]
  · rw [← frame_setFeatureInfo colSplit rank allgather key info m, getInfo_withFeatureInfo]
  · subst hcol
    have hsize : info.length ≠ 0 ∧ m.numCol ≠ 0 ∧ false = false → info.length = m.numCol.toNat := fun hs =>
      Classical.byContradiction fun hne => by
        rw [setFeatureInfo_size_error ⟨hs.1, hs.2.1⟩ hne] at h
        cases h
    by_cases h1 : key = ascii "feature_type"
    · subst h1
      rw [setFeatureInfo_featureType hsize] at h
      simp only [gatherColumns, Bool.false_eq_true, if_false] at h
      split at h
      · cases h
        simp [getFeatureInfo]
      · cases h
    by_cases h2 : key = ascii "feature_name"
    · subst h2
      rw [setFeatureInfo_featureName hsize] at h
      cases h
      simp (disch := decide) only [getFeatureInfo, if_pos, if_neg]
      rfl
    · simp only [setFeatureInfo, h1, h2, if_false, EStateM.bind_apply, EStateM.get_apply] at h
      split at h <;> cases h

/-- `SetFeatureInfo("feature_name")` of one name on a record of one column, read back. -/
theorem setFeatureInfo_getFeatureInfo_name :
    setFeatureInfo false 0 (fun l => .ok l) (ascii "feature_name") [ascii "f0"] { fresh () with numCol := 1 } =
      .ok () { fresh () with numCol := 1, featureNames := [ascii "f0"] } ∧
    getFeatureInfo ({ fresh () with numCol := 1, featureNames := [ascii "f0"] } : MetaInfo Unit)
      (ascii "feature_name") = .ok [ascii "f0"] :=
  have h : setFeatureInfo false 0 (fun l => .ok l) (ascii "feature_name") [ascii "f0"]
      ({ fresh () with numCol := 1 } : MetaInfo Unit) =
      .ok () { fresh () with numCol := 1, featureNames := [ascii "f0"] } := rfl
  ⟨h, (setFeatureInfo_getFeatureInfo _ _ _ _ _ _).2.2 rfl _ h⟩

end MetaInfo

end XGBoostData
