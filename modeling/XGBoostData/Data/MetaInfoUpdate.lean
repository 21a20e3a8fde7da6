import XGBoostData.Data.MetaInfoRun

/-!
# What `SetInfo`, `SetFeatureInfo`, `Extend` and `Copy` write (data.cc)

WHAT THIS FILE IS FOR.  An operation on `MetaInfo` that raises leaves the record as it had
written it.  This file says, for the operations that store caller data, which fields
they may write at all: `SetInfo` the one field its key names, `SetFeatureInfo` the
feature names and types; and what `Extend` leaves when it returns, block by block of the
source (`shape`, `info with n_samples`, `group`, `info with n_features`), from which
`Copy`, an `Extend` into a fresh record, follows, and what `Extend` folded over a
sequence of batches leaves (`extendAll`).

FRAMES.  `Frame g x` says that the state a run of `x` leaves, whether it returns or
raises, differs from the one it started in only in the part `g` lets it write;
`ErrFrame g x` says the same of the runs that raise.  Both are built up along the
program, one lemma per monadic step.
-/

set_option autoImplicit false

namespace XGBoostData

/-! ## Frames -/

section Frame

variable {ε σ α β : Type}

/-- `g s s'` is `s` with the part of the state a program may write taken from `s'`. -/
structure FramePart (g : σ → σ → σ) : Prop where
  self : ∀ s, g s s = s
  trans : ∀ s t u, g (g s t) u = g s u

/-- Whatever `x` returns or raises, the state it leaves differs from the one it started
in only in the part `g` lets it write. -/
def Frame (g : σ → σ → σ) (x : EStateM ε σ α) : Prop :=
  ∀ s, g s (resultState (x s)) = resultState (x s)

variable {g : σ → σ → σ}

theorem Frame.pure (hg : FramePart g) (a : α) : Frame g (pure a : EStateM ε σ α) := fun s => hg.self s

theorem Frame.get (hg : FramePart g) : Frame g (get : EStateM ε σ σ) := fun s => hg.self s

theorem Frame.throw (hg : FramePart g) (e : ε) : Frame g (throw e : EStateM ε σ α) := fun s => hg.self s

theorem Frame.modify {f : σ → σ} (h : ∀ s, g s (f s) = f s) : Frame g (modify f : EStateM ε σ PUnit) := h

theorem Frame.ite {c : Prop} [Decidable c] {x y : EStateM ε σ α} (hx : Frame g x) (hy : Frame g y) :
    Frame g (if c then x else y) := by
  split
  · exact hx
  · exact hy

theorem Frame.bind (hg : FramePart g) {x : EStateM ε σ α} {f : α → EStateM ε σ β} (hx : Frame g x)
    (hf : ∀ a, Frame g (f a)) : Frame g (x >>= f) := fun s => by
  have := hx s
  rw [EStateM.bind_apply]
  cases h : x s with
  | ok a s1 =>
    replace this : g s s1 = s1 := by rw [h] at this; exact this
    show g s (resultState (f a s1)) = resultState (f a s1)
    calc g s (resultState (f a s1)) = g (g s s1) (resultState (f a s1)) := (hg.trans s s1 _).symm
      _ = g s1 (resultState (f a s1)) := by rw [this]
      _ = resultState (f a s1) := hf a s1
  | error e s1 => rw [h] at this; exact this

/-- If `x` raises, the state it leaves differs from the one it started in only in the
part `g` lets it write. -/
def ErrFrame (g : σ → σ → σ) (x : EStateM ε σ α) : Prop :=
  ∀ s e s', x s = .error e s' → g s s' = s'

theorem Frame.errFrame {x : EStateM ε σ α} (hx : Frame g x) : ErrFrame g x := fun s e s' h => by
  have := hx s
  rwa [h] at this

/-- The state a returning run of a framed program leaves. -/
theorem Frame.of_ok {x : EStateM ε σ α} (hx : Frame g x) {s s' : σ} {a : α} (h : x s = .ok a s') : g s s' = s' := by
  have := hx s
  rwa [h] at this

theorem ErrFrame.modify (f : σ → σ) : ErrFrame g (modify f : EStateM ε σ PUnit) := fun _ _ _ h => nomatch h

theorem ErrFrame.bind (hg : FramePart g) {x : EStateM ε σ α} {f : α → EStateM ε σ β} (hx : Frame g x)
    (hf : ∀ a, ErrFrame g (f a)) : ErrFrame g (x >>= f) := fun s e s' h => by
  have := hx s
  rw [EStateM.bind_apply] at h
  cases hxs : x s with
  | ok a s1 =>
    rw [hxs] at h this
    replace this : g s s1 = s1 := this
    calc g s s' = g (g s s1) s' := (hg.trans s s1 _).symm
      _ = g s1 s' := by rw [this]
      _ = s' := hf a s1 e s' h
  | error e1 s1 =>
    rw [hxs] at h this
    cases h
    exact this

end Frame

theorem Frame.liftExcept {σ α : Type} {g : σ → σ → σ} (hg : FramePart g) (x : Except MetaError α) :
    Frame g (liftExcept x : EStateM MetaError σ α) := by
  cases x <;> exact fun s => hg.self s

theorem Frame.check {σ : Type} {g : σ → σ → σ} (hg : FramePart g) (c : Prop) [Decidable c] (e : MetaError) :
    Frame g (check c e : EStateM MetaError σ Unit) :=
  Frame.ite (Frame.pure hg ()) (Frame.throw hg e)

theorem EStateM.get_apply {ε σ : Type} (s : σ) : (get : EStateM ε σ σ) s = .ok s s := rfl

theorem EStateM.modify_apply {ε σ : Type} (f : σ → σ) (s : σ) : (modify f : EStateM ε σ PUnit) s = .ok ⟨⟩ (f s) :=
  rfl

theorem liftExcept_apply {σ α : Type} (x : Except MetaError α) (s : σ) :
    (liftExcept x : EStateM MetaError σ α) s = match x with
      | .ok a => .ok a s
      | .error e => .error e s := by
  cases x <;> rfl

theorem check_apply {σ : Type} (c : Prop) [Decidable c] (e : MetaError) (s : σ) :
    (check c e : EStateM MetaError σ Unit) s = if c then .ok () s else .error e s := by
  unfold check
  split <;> rfl

/-- A bind that returns ran both of its parts to completion. -/
theorem EStateM.bind_ok_inv {ε σ α β : Type} {x : EStateM ε σ α} {f : α → EStateM ε σ β} {s s' : σ} {b : β}
    (h : (x >>= f) s = .ok b s') : ∃ a s1, x s = .ok a s1 ∧ f a s1 = .ok b s' := by
  rw [EStateM.bind_apply] at h
  cases hx : x s with
  | ok a s1 => rw [hx] at h; exact ⟨a, s1, rfl, h⟩
  | error e s1 => rw [hx] at h; cases h

namespace MetaInfo

variable {Cats : Type}

/-- The fields `SetInfoFromHost` stores into. -/
inductive InfoField
  | baseMargin | labels | groupPtr | weights | labelsLowerBound | labelsUpperBound | featureWeights
  deriving DecidableEq

/-- The field `SetInfoFromHost` stores `key` into, if `key` is one it knows. -/
def infoField (key : Bytes) : Option InfoField :=
  if key = ascii "base_margin" then some .baseMargin
  else if key = ascii "label" then some .labels
  else if key = ascii "group" ∨ key = ascii "qid" then some .groupPtr
  else if key = ascii "weight" then some .weights
  else if key = ascii "label_lower_bound" then some .labelsLowerBound
  else if key = ascii "label_upper_bound" then some .labelsUpperBound
  else if key = ascii "feature_weights" then some .featureWeights
  else none

/-- `m` with the field `f` taken from `m'`. -/
def InfoField.take : InfoField → MetaInfo Cats → MetaInfo Cats → MetaInfo Cats
  | .baseMargin, m, m' => { m with baseMargin := m'.baseMargin }
  | .labels, m, m' => { m with labels := m'.labels }
  | .groupPtr, m, m' => { m with groupPtr := m'.groupPtr }
  | .weights, m, m' => { m with weights := m'.weights }
  | .labelsLowerBound, m, m' => { m with labelsLowerBound := m'.labelsLowerBound }
  | .labelsUpperBound, m, m' => { m with labelsUpperBound := m'.labelsUpperBound }
  | .featureWeights, m, m' => { m with featureWeights := m'.featureWeights }

/-- `m` with the field that `SetInfoFromHost` stores `key` into taken from `m'`; for a key
it does not know, `m`. -/
def withInfoField (key : Bytes) (m m' : MetaInfo Cats) : MetaInfo Cats :=
  match infoField key with
  | some f => f.take m m'
  | none => m

theorem framePart_withInfoField (key : Bytes) : FramePart (@withInfoField Cats key) := by
  unfold withInfoField
  rcases infoField key with _ | f
  · exact ⟨fun _ => rfl, fun _ _ _ => rfl⟩
  · cases f <;> exact ⟨fun _ => rfl, fun _ _ _ => rfl⟩

/-- `SetInfoFromHost` writes the field its key names and no other, whether it returns or
raises. -/
theorem frame_setInfoFromHost (H : MetaHelpers) (key : Bytes) (arr : ArrayInterface) :
    Frame (withInfoField key) (setInfoFromHost H key arr : EStateM MetaError (MetaInfo Cats) Unit) := by
  have hg := @framePart_withInfoField Cats key
  unfold setInfoFromHost
  by_cases h1 : key = ascii "base_margin"
  · rw [if_pos h1]
    subst h1
    exact Frame.bind hg (Frame.liftExcept hg _) fun _ => Frame.bind hg (Frame.modify fun _ => rfl) fun _ =>
      Frame.bind hg (Frame.get hg) fun _ => Frame.bind hg (Frame.liftExcept hg _) fun _ => Frame.modify fun _ => rfl
  rw [if_neg h1]
  by_cases h2 : key = ascii "label"
  · rw [if_pos h2]
    subst h2
    exact Frame.bind hg (Frame.liftExcept hg _) fun _ => Frame.bind hg (Frame.modify fun _ => rfl) fun _ =>
      Frame.bind hg (Frame.get hg) fun _ => Frame.bind hg (Frame.liftExcept hg _) fun _ =>
      Frame.bind hg (Frame.modify fun _ => rfl) fun _ => Frame.check hg _ _
  rw [if_neg h2]
  by_cases h3 : key = ascii "group"
  · rw [if_pos h3]
    subst h3
    exact Frame.bind hg (Frame.liftExcept hg _) fun _ => Frame.bind hg (Frame.modify fun _ => rfl) fun _ =>
      Frame.check hg _ _
  rw [if_neg h3]
  by_cases h4 : key = ascii "qid"
  · rw [if_pos h4]
    subst h4
    exact Frame.bind hg (Frame.liftExcept hg _) fun _ => Frame.bind hg (Frame.check hg _ _) fun _ =>
      Frame.bind hg (Frame.modify fun _ => rfl) fun _ => Frame.check hg _ _
  rw [if_neg h4]
  refine Frame.bind hg (Frame.liftExcept hg _) fun t => ?_
  by_cases h5 : key = ascii "weight"
  · rw [if_pos h5]
    subst h5
    exact Frame.bind hg (Frame.modify fun _ => rfl) fun _ => Frame.check hg _ _
  rw [if_neg h5]
  by_cases h6 : key = ascii "label_lower_bound"
  · rw [if_pos h6]
    subst h6
    exact Frame.modify fun _ => rfl
  rw [if_neg h6]
  by_cases h7 : key = ascii "label_upper_bound"
  · rw [if_pos h7]
    subst h7
    exact Frame.modify fun _ => rfl
  rw [if_neg h7]
  by_cases h8 : key = ascii "feature_weights"
  · rw [if_pos h8]
    subst h8
    exact Frame.bind hg (Frame.modify fun _ => rfl) fun _ => Frame.check hg _ _
  rw [if_neg h8]
  exact Frame.throw hg _

/-- `SetInfo` writes the field its key names and no other, whether it returns or raises. -/
theorem frame_setInfo (H : MetaHelpers) (load : Bytes → Except MetaError (InterfaceJson × ArrayInterface))
    (key interfaceStr : Bytes) :
    Frame (withInfoField key) (setInfo H load key interfaceStr : EStateM MetaError (MetaInfo Cats) Unit) := by
  have hg := @framePart_withInfoField Cats key
  exact Frame.bind hg (Frame.liftExcept hg _) fun ⟨_, arr⟩ => Frame.bind hg (Frame.liftExcept hg _) fun _ =>
    Frame.ite (Frame.throw hg _) (frame_setInfoFromHost H key arr)

/-- A `SetFeatureInfo("feature_type", …)` that raises has written at most the feature type
names and the feature types. -/
theorem setFeatureInfo_featureType_error (colSplit : Bool) (rank : Nat)
    (allgather : List Bytes → Except MetaError (List Bytes)) (info : List Bytes) {m m' : MetaInfo Cats}
    {e : MetaError} (h : setFeatureInfo colSplit rank allgather (ascii "feature_type") info m = .error e m') :
    m' = { m with featureTypeNames := m'.featureTypeNames, featureTypes := m'.featureTypes } := by
  have hg : FramePart fun (s t : MetaInfo Cats) =>
      { s with featureTypeNames := t.featureTypeNames, featureTypes := t.featureTypes } :=
    ⟨fun _ => rfl, fun _ _ _ => rfl⟩
  have hframe : ErrFrame (fun (s t : MetaInfo Cats) =>
      { s with featureTypeNames := t.featureTypeNames, featureTypes := t.featureTypes })
      (setFeatureInfo colSplit rank allgather (ascii "feature_type") info) := by
    unfold setFeatureInfo
    simp only [if_true]
    exact ErrFrame.bind hg (Frame.get hg) fun _ => ErrFrame.bind hg (Frame.ite (Frame.check hg _ _) (Frame.pure hg _))
      fun _ => ErrFrame.bind hg (Frame.modify fun _ => rfl) fun _ => ErrFrame.bind hg (Frame.liftExcept hg _) fun _ =>
      ErrFrame.bind hg (Frame.modify fun _ => rfl) fun _ => ErrFrame.bind hg (Frame.get hg) fun _ =>
      ErrFrame.bind hg (Frame.modify fun _ => rfl) fun _ => ErrFrame.bind hg (Frame.liftExcept hg _) fun _ =>
      ErrFrame.modify _
  exact (hframe m e m' h).symm

/-- A `SetInfo` that raises has written at most the field its key names, and a
`SetFeatureInfo("feature_type", …)` that raises at most the feature type names and the
feature types: every other field is as it was. -/
theorem setInfo_raises_frame (H : MetaHelpers) (load : Bytes → Except MetaError (InterfaceJson × ArrayInterface))
    (key interfaceStr : Bytes) (colSplit : Bool) (rank : Nat) (allgather : List Bytes → Except MetaError (List Bytes))
    (info : List Bytes) (m : MetaInfo Cats) :
    (∀ e m', setInfo H load key interfaceStr m = .error e m' → m' = withInfoField key m m') ∧
    (∀ e m', setFeatureInfo colSplit rank allgather (ascii "feature_type") info m = .error e m' →
      m' = { m with featureTypeNames := m'.featureTypeNames, featureTypes := m'.featureTypes }) :=
  ⟨fun e m' h => ((frame_setInfo H load key interfaceStr).errFrame m e m' h).symm,
    fun _ _ h => setFeatureInfo_featureType_error colSplit rank allgather info h⟩

/-- A NaN label set on a fresh record: `SetInfo` raises `invalidLabel`, and the record
keeps the NaN label; an unknown feature type name: `SetFeatureInfo` raises, and the
record keeps the name. -/
theorem setInfo_keeps_rejected :
    setInfo ⟨fun y => y.isNaN || y.isInf, fun _ => false, fun _ => true, id, fun l _ => .ok l, fun _ _ => true⟩
        (fun _ => .ok (.value (.object false false), ⟨(1, 1), 1, false, [F32.nan], []⟩)) (ascii "label") []
        (fresh ()) = .error .invalidLabel { fresh () with labels := ⟨(1, 1), [F32.nan]⟩ } ∧
    setFeatureInfo false 0 (fun l => .ok l) (ascii "feature_type") [ascii "x"] (fresh ()) =
      .error .featureType { fresh () with featureTypeNames := [ascii "x"] } :=
  ⟨rfl, rfl⟩

/-- A `SetInfo` of a NaN label on a fresh record that raises wrote the labels and nothing else. -/
theorem setInfo_raises_frame_nanLabel :
    ({ fresh () with labels := ⟨(1, 1), [F32.nan]⟩ } : MetaInfo Unit) =
      withInfoField (ascii "label") (fresh ()) { fresh () with labels := ⟨(1, 1), [F32.nan]⟩ } :=
  (setInfo_raises_frame ⟨fun y => y.isNaN || y.isInf, fun _ => false, fun _ => true, id, fun l _ => .ok l,
    fun _ _ => true⟩ (fun _ => .ok (.value (.object false false), ⟨(1, 1), 1, false, [F32.nan], []⟩))
    (ascii "label") [] false 0 (fun l => .ok l) [] (fresh ())).1 .invalidLabel _ rfl

/-! ## `Extend`, block by block -/

/-- The `shape` block of `Extend`: rows added up, then the column count. -/
def extendShape (that : MetaInfo Cats) (accumulateRows checkColumn : Bool) :
    EStateM MetaError (MetaInfo Cats) Unit := do
  (if accumulateRows then modify fun m => { m with numRow := m.numRow + that.numRow } else pure ())
  let m ← get
  (if m.numCol ≠ 0 then
    if checkColumn then check (m.numCol = that.numCol) .columns
    else modify fun m => { m with numCol := max m.numCol that.numCol }
  else pure ())
  modify fun m => { m with numCol := that.numCol }

/-- The `info with n_samples` block of `Extend`. -/
def extendSamples (H : MetaHelpers) (that : MetaInfo Cats) : EStateM MetaError (MetaInfo Cats) Unit := do
  let labels ← liftExcept (H.stack (← get).labels that.labels)
  modify fun m => { m with labels := labels }
  modify fun m => { m with weights := m.weights ++ that.weights,
                           labelsLowerBound := m.labelsLowerBound ++ that.labelsLowerBound,
                           labelsUpperBound := m.labelsUpperBound ++ that.labelsUpperBound }
  let margin ← liftExcept (H.stack (← get).baseMargin that.baseMargin)
  modify fun m => { m with baseMargin := margin }

/-- The `group` block of `Extend`. -/
def extendGroup (that : MetaInfo Cats) : EStateM MetaError (MetaInfo Cats) Unit := do
  let m ← get
  (if m.groupPtr.length = 0 then modify fun m => { m with groupPtr := that.groupPtr }
  else do
    check (that.groupPtr.length ≠ 0) .groupPtrEmpty
    modify fun m => { m with groupPtr := m.groupPtr ++ (that.groupPtr.drop 1).map (· + m.groupPtr.getLast?.getD 0) })

/-- The `info with n_features` block of `Extend`. -/
def extendFeatures (H : MetaHelpers) (that : MetaInfo Cats) : EStateM MetaError (MetaInfo Cats) Unit := do
  (if !that.featureNames.isEmpty then modify fun m => { m with featureNames := that.featureNames } else pure ())
  let m ← get
  (if !m.featureTypes.isEmpty then
    check (H.checkFeatureTypes m.featureTypes that.featureTypes = true) .helper
  else pure ())
  (if !that.featureTypeNames.isEmpty then do
    modify fun m => { m with featureTypeNames := that.featureTypeNames,
                             featureTypes := (loadFeatureType that.featureTypeNames).1 }
    let hasCat ← liftExcept (loadFeatureType that.featureTypeNames).2
    modify fun m => { m with hasCategorical := hasCat }
  else if !that.featureTypes.isEmpty then
    modify fun m => { m with featureTypes := that.featureTypes,
                             hasCategorical := that.featureTypes.any (· == .categorical) }
  else pure ())
  (if !that.featureWeights.isEmpty then modify fun m => { m with featureWeights := that.featureWeights }
  else pure ())

theorem extend_eq (H : MetaHelpers) (that : MetaInfo Cats) (accumulateRows checkColumn : Bool) :
    extend H that accumulateRows checkColumn = (do
      extendShape that accumulateRows checkColumn
      extendSamples H that
      extendGroup that
      extendFeatures H that) := by
  simp only [extend, extendShape, extendSamples, extendGroup, extendFeatures, bind_assoc]

theorem extendShape_ok {that : MetaInfo Cats} {checkColumn : Bool} {m m' : MetaInfo Cats}
    (h : extendShape that true checkColumn m = .ok () m') :
    m' = { m with numRow := m.numRow + that.numRow, numCol := that.numCol } := by
  obtain ⟨_, m1, h1, h⟩ := EStateM.bind_ok_inv h
  simp only [if_true, EStateM.modify_apply, EStateM.Result.ok.injEq] at h1
  obtain ⟨-, rfl⟩ := h1
  obtain ⟨_, m2, h2, h⟩ := EStateM.bind_ok_inv h
  simp only [EStateM.get_apply, EStateM.Result.ok.injEq] at h2
  obtain ⟨rfl, rfl⟩ := h2
  obtain ⟨_, m3, h3, h⟩ := EStateM.bind_ok_inv h
  simp only [EStateM.modify_apply, EStateM.Result.ok.injEq] at h
  obtain ⟨-, rfl⟩ := h
  have hm3 : ∀ c : UInt64, { m3 with numCol := c } = { m with numRow := m.numRow + that.numRow, numCol := c } :=
    fun c => by
    split_ifs at h3
    · rw [check_apply] at h3
      split at h3
      · simp only [EStateM.Result.ok.injEq] at h3
        rw [← h3.2]
      · cases h3
    · simp only [EStateM.modify_apply, EStateM.Result.ok.injEq] at h3
      rw [← h3.2]
    · cases h3
      rfl
  exact hm3 that.numCol

theorem liftExcept_ok_inv {σ α : Type} {x : Except MetaError α} {s s' : σ} {a : α}
    (h : (liftExcept x : EStateM MetaError σ α) s = .ok a s') : x = .ok a ∧ s' = s := by
  cases x <;> simp_all [liftExcept_apply]

theorem extendSamples_ok {H : MetaHelpers} {that m m' : MetaInfo Cats} (h : extendSamples H that m = .ok () m') :
    ∃ l mg, H.stack m.labels that.labels = .ok l ∧ H.stack m.baseMargin that.baseMargin = .ok mg ∧
      m' = { m with labels := l, weights := m.weights ++ that.weights,
                    labelsLowerBound := m.labelsLowerBound ++ that.labelsLowerBound,
                    labelsUpperBound := m.labelsUpperBound ++ that.labelsUpperBound, baseMargin := mg } := by
  obtain ⟨_, _, h1, k1⟩ := EStateM.bind_ok_inv h
  obtain ⟨rfl, rfl⟩ := EStateM.Result.ok.inj h1
  obtain ⟨l, _, h2, k2⟩ := EStateM.bind_ok_inv k1
  obtain ⟨hl, rfl⟩ := liftExcept_ok_inv h2
  obtain ⟨_, _, h3, k3⟩ := EStateM.bind_ok_inv k2
  obtain ⟨-, rfl⟩ := EStateM.Result.ok.inj h3
  obtain ⟨_, _, h4, k4⟩ := EStateM.bind_ok_inv k3
  obtain ⟨-, rfl⟩ := EStateM.Result.ok.inj h4
  obtain ⟨_, _, h5, k5⟩ := EStateM.bind_ok_inv k4
  obtain ⟨rfl, rfl⟩ := EStateM.Result.ok.inj h5
  obtain ⟨mg, _, h6, k6⟩ := EStateM.bind_ok_inv k5
  obtain ⟨hmg, rfl⟩ := liftExcept_ok_inv h6
  obtain ⟨-, rfl⟩ := EStateM.Result.ok.inj k6
  exact ⟨l, mg, hl, hmg, rfl⟩

theorem extendGroup_ok {that m m' : MetaInfo Cats} (h : extendGroup that m = .ok () m') :
    m' = { m with groupPtr := if m.groupPtr.length = 0 then that.groupPtr
                              else m.groupPtr ++ (that.groupPtr.drop 1).map (· + m.groupPtr.getLast?.getD 0) } := by
  obtain ⟨_, _, h1, k1⟩ := EStateM.bind_ok_inv h
  obtain ⟨rfl, rfl⟩ := EStateM.Result.ok.inj h1
  split_ifs at k1 ⊢
  · exact (EStateM.Result.ok.inj k1).2.symm
  · obtain ⟨_, _, h2, k2⟩ := EStateM.bind_ok_inv k1
    rw [check_apply] at h2
    split at h2
    · obtain ⟨-, rfl⟩ := EStateM.Result.ok.inj h2
      exact (EStateM.Result.ok.inj k2).2.symm
    · cases h2

/-- `m` with the fields the `info with n_features` block writes taken from `m'`. -/
def withFeatures (m m' : MetaInfo Cats) : MetaInfo Cats :=
  { m with featureNames := m'.featureNames, featureTypeNames := m'.featureTypeNames,
           featureTypes := m'.featureTypes, hasCategorical := m'.hasCategorical,
           featureWeights := m'.featureWeights }

theorem framePart_withFeatures : FramePart (@withFeatures Cats) :=
  ⟨fun _ => rfl, fun _ _ _ => rfl⟩

/-- The `info with n_features` block writes the feature names, type names, types, the
categorical flag and the feature weights, and nothing else. -/
theorem frame_extendFeatures (H : MetaHelpers) (that : MetaInfo Cats) :
    Frame withFeatures (extendFeatures H that) := by
  have hg := @framePart_withFeatures Cats
  exact Frame.bind hg (Frame.ite (Frame.modify fun _ => rfl) (Frame.pure hg _)) fun _ =>
    Frame.bind hg (Frame.get hg) fun _ => Frame.bind hg (Frame.ite (Frame.check hg _ _) (Frame.pure hg _)) fun _ =>
    Frame.bind hg (Frame.ite (Frame.bind hg (Frame.modify fun _ => rfl) fun _ =>
      Frame.bind hg (Frame.liftExcept hg _) fun _ => Frame.modify fun _ => rfl)
      (Frame.ite (Frame.modify fun _ => rfl) (Frame.pure hg _))) fun _ =>
    Frame.ite (Frame.modify fun _ => rfl) (Frame.pure hg _)

/-- What an `Extend(that, /*accumulate_rows=*/true, check_column)` that returns leaves:
the rows added up, the column count of `that`, the labels and margin stacked, the
weights and bounds appended, the group boundaries of `that` appended after the last one
(or taken as they are when there were none), and the feature fields of its last block. -/
theorem extend_ok {H : MetaHelpers} {that m m' : MetaInfo Cats} {checkColumn : Bool}
    (h : extend H that true checkColumn m = .ok () m') :
    ∃ l mg, H.stack m.labels that.labels = .ok l ∧ H.stack m.baseMargin that.baseMargin = .ok mg ∧
      m' = withFeatures
        { m with numRow := m.numRow + that.numRow, numCol := that.numCol, labels := l,
                 weights := m.weights ++ that.weights, labelsLowerBound := m.labelsLowerBound ++ that.labelsLowerBound,
                 labelsUpperBound := m.labelsUpperBound ++ that.labelsUpperBound, baseMargin := mg,
                 groupPtr := if m.groupPtr.length = 0 then that.groupPtr
                   else m.groupPtr ++ (that.groupPtr.drop 1).map (· + m.groupPtr.getLast?.getD 0) } m' := by
  rw [extend_eq] at h
  obtain ⟨_, _, h1, k1⟩ := EStateM.bind_ok_inv h
  obtain rfl := extendShape_ok h1
  obtain ⟨_, _, h2, k2⟩ := EStateM.bind_ok_inv k1
  obtain ⟨l, mg, hl, hmg, rfl⟩ := extendSamples_ok h2
  obtain ⟨_, _, h3, k3⟩ := EStateM.bind_ok_inv k2
  obtain rfl := extendGroup_ok h3
  exact ⟨l, mg, hl, hmg, ((frame_extendFeatures H that).of_ok k3).symm⟩

/-- `Extend(batch, /*accumulate_rows=*/true, check_column)` for each batch in turn: the
metadata of a sequence of batches folded into one record. -/
def extendAll (H : MetaHelpers) (checkColumn : Bool) : List (MetaInfo Cats) → EStateM MetaError (MetaInfo Cats) Unit
  | [] => pure ()
  | b :: bs => do
    extend H b true checkColumn
    extendAll H checkColumn bs

/-- Folding `Extend` over batches, when no call raises: the row counts add up, the
weights and label bounds are the batches' in order, and the column count is the last
batch's. -/
theorem extendAll_ok (H : MetaHelpers) (checkColumn : Bool) :
    ∀ {bs : List (MetaInfo Cats)} {m m' : MetaInfo Cats}, extendAll H checkColumn bs m = .ok () m' →
      m'.numRow = m.numRow + (bs.map (·.numRow)).sum ∧
      m'.numCol = (bs.getLast?.map (·.numCol)).getD m.numCol ∧
      m'.weights = m.weights ++ (bs.map (·.weights)).flatten ∧
      m'.labelsLowerBound = m.labelsLowerBound ++ (bs.map (·.labelsLowerBound)).flatten ∧
      m'.labelsUpperBound = m.labelsUpperBound ++ (bs.map (·.labelsUpperBound)).flatten
  | [], _, _, h => by
    obtain ⟨-, rfl⟩ := EStateM.Result.ok.inj h
    exact ⟨(add_zero _).symm, rfl, (List.append_nil _).symm, (List.append_nil _).symm, (List.append_nil _).symm⟩
  | b :: bs, m, m', h => by
    obtain ⟨_, m1, h1, k1⟩ := EStateM.bind_ok_inv h
    obtain ⟨_, _, _, _, hm1⟩ := extend_ok h1
    obtain ⟨hrow, hcol, hw, hlo, hup⟩ := extendAll_ok H checkColumn k1
    rw [hm1] at hrow hcol hw hlo hup
    refine ⟨by rw [hrow, List.map_cons, List.sum_cons, ← add_assoc]; rfl, ?_,
      by rw [hw, List.map_cons, List.flatten_cons, ← List.append_assoc]; rfl,
      by rw [hlo, List.map_cons, List.flatten_cons, ← List.append_assoc]; rfl,
      by rw [hup, List.map_cons, List.flatten_cons, ← List.append_assoc]; rfl⟩
    rw [hcol, List.getLast?_cons]
    cases bs.getLast? <;> rfl

/-- Two batches of three and two columns folded into a fresh record: the rows add up and
the column count is the last batch's. -/
theorem extendAll_ok_twoBatches :
    extendAll (⟨fun y => y.isNaN || y.isInf, fun _ => false, fun _ => true, id, fun l _ => .ok l,
        fun _ _ => true⟩ : MetaHelpers) false
        [{ fresh () with numRow := 1, numCol := 3, weights := [F32.one] },
         { fresh () with numRow := 2, numCol := 2, weights := [F32.two, F32.two] }] (fresh ()) =
      .ok () { fresh () with numRow := 3, numCol := 2, weights := [F32.one, F32.two, F32.two] } ∧
    ({ fresh () with numRow := 3, numCol := 2, weights := [F32.one, F32.two, F32.two] } : MetaInfo Unit).numRow =
        (fresh () : MetaInfo Unit).numRow + ([{ fresh () with numRow := 1, numCol := 3, weights := [F32.one] },
          { fresh () with numRow := 2, numCol := 2, weights := [F32.two, F32.two] }].map
            (·.numRow : MetaInfo Unit → UInt64)).sum ∧
    ({ fresh () with numRow := 3, numCol := 2, weights := [F32.one, F32.two, F32.two] } : MetaInfo Unit).numCol =
      (([{ fresh () with numRow := 1, numCol := 3, weights := [F32.one] },
          { fresh () with numRow := 2, numCol := 2, weights := [F32.two, F32.two] }] : List (MetaInfo Unit)).getLast?.map
            (·.numCol)).getD (fresh () : MetaInfo Unit).numCol :=
  have h : extendAll (⟨fun y => y.isNaN || y.isInf, fun _ => false, fun _ => true, id, fun l _ => .ok l,
        fun _ _ => true⟩ : MetaHelpers) false
        [{ fresh () with numRow := 1, numCol := 3, weights := [F32.one] },
         { fresh () with numRow := 2, numCol := 2, weights := [F32.two, F32.two] }] (fresh ()) =
      .ok () { fresh () with numRow := 3, numCol := 2, weights := [F32.one, F32.two, F32.two] } := rfl
  ⟨h, (extendAll_ok _ false h).1, (extendAll_ok _ false h).2.1⟩

/-- Appended with `check_column = false` to a record of 5 columns, a batch of 3 columns
leaves 3, not the larger count. -/
theorem extend_numCol_takes_last :
    extend ⟨fun y => y.isNaN || y.isInf, fun _ => false, fun _ => true, id,
        fun l r => .ok ⟨(l.shape.1 + r.shape.1, r.shape.2), l.data ++ r.data⟩, fun _ _ => true⟩
      { fresh () with numCol := 3, groupPtr := [0] } true false { fresh () with numCol := 5, groupPtr := [0] } =
      .ok () { fresh () with numCol := 3, groupPtr := [0] } :=
  rfl

/-- What a `Copy()` that returns holds: the shape, labels, margin, groups, weights and
bounds of `m` (labels and margin as `Stack` puts them onto empty tensors), the feature
fields its `Extend` wrote, and the non-zero count and category container of a fresh
record. -/
theorem copy_ok {H : MetaHelpers} {emptyCats : Cats} {m out : MetaInfo Cats} (h : copy H emptyCats m = .ok out) :
    ∃ l mg, H.stack Tensor.empty m.labels = .ok l ∧ H.stack Tensor.empty m.baseMargin = .ok mg ∧
      out = withFeatures
        { fresh emptyCats with numRow := m.numRow, numCol := m.numCol, labels := l, weights := m.weights,
                               labelsLowerBound := m.labelsLowerBound, labelsUpperBound := m.labelsUpperBound,
                               baseMargin := mg, groupPtr := m.groupPtr } out := by
  unfold copy at h
  split at h
  · next out' hx =>
    cases h
    obtain ⟨l, mg, hl, hmg, hout⟩ := extend_ok hx
    refine ⟨l, mg, hl, hmg, hout.trans ?_⟩
    simp [fresh, withFeatures]
  · cases h

/-- The copy of a record with 5 non-zero entries and a non-empty category container is
a fresh record: 0 non-zero entries and the empty container. -/
theorem copy_drops_nonzero_and_cats :
    copy ⟨fun y => y.isNaN || y.isInf, fun _ => false, fun _ => true, id,
        fun l r => .ok ⟨(l.shape.1 + r.shape.1, r.shape.2), l.data ++ r.data⟩, fun _ _ => true⟩ 0
      ({ fresh 0 with numNonzero := 5, cats := 1 } : MetaInfo Nat) = .ok (fresh 0) :=
  rfl

end MetaInfo

end XGBoostData
