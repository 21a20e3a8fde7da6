import XGBoostData.Data.MetaInfo

/-!
# The binary format of `MetaInfo`: `SaveBinary` and `LoadBinary` (data.cc)

WHAT THIS FILE IS FOR.  `SaveBinary` writes the version, the field count `kNumField`
and thirteen field records, each a name, a type tag, a scalar flag, a shape (vectors
and tensors only) and the value.  `LoadBinary` reads them back in the same order and
checks every name, tag, flag and column count.  The theorem is the round trip: the bytes
`SaveBinary` writes are read back into every field, whatever the record held before,
and exactly those bytes are consumed.  `has_categorical_` is not among the saved fields:
`LoadBinary` recomputes it from the feature types, so the record comes back whole when
its flag agrees with them (`loadBinary_roundTrip`), and with the recomputed flag when it
does not.

THE STREAM.  `dmlc::Stream` is dmlc-core's, not this repository's.  Its encoding is
written out here: a scalar is its bytes, little-endian (`DMLC_IO_NO_ENDIAN_SWAP` on a
little-endian host), a `bool` one byte, a string or a vector a 64-bit count followed by
the elements.  A read that runs past the end of the stream fails.

OUTSIDE THE EXCERPT.  `Version::Save`, `Version::Load` (`common/version.cc`) and the JSON
form of the category container are parameters (`VersionIO`, `CatIO`).
-/

set_option autoImplicit false

namespace XGBoostData

/-! ## Little-endian words -/

/-- The `k` bytes of `n`, least significant first. -/
def leBytes : Nat → Nat → Bytes
  | 0, _ => []
  | k + 1, n => (n % 256).toUInt8 :: leBytes k (n / 256)

/-- The number whose little-endian bytes are `bs`. -/
def leValue : Bytes → Nat
  | [] => 0
  | b :: bs => b.toNat + 256 * leValue bs

@[simp] theorem length_leBytes (k n : Nat) : (leBytes k n).length = k := by
  induction k generalizing n <;> simp_all [leBytes]

theorem leValue_leBytes (k n : Nat) : leValue (leBytes k n) = n % 256 ^ k := by
  induction k generalizing n with
  | zero => simp [leBytes, leValue, Nat.mod_one]
  | succ k ih =>
    rw [leBytes, leValue, ih, Nat.pow_succ', Nat.mod_mul, Nat.toUInt8,
      UInt8.toNat_ofNat_of_lt (Nat.mod_lt _ (by decide) : n % 256 < 256)]

/-! ## `dmlc::Stream` -/

/-- `Stream::Read` of `k` bytes: `none` when fewer are left. -/
def takeBytes (k : Nat) (bs : Bytes) : Option (Bytes × Bytes) :=
  if k ≤ bs.length then some (bs.take k, bs.drop k) else none

theorem takeBytes_append {k : Nat} {bs : Bytes} (h : bs.length = k) (rest : Bytes) :
    takeBytes k (bs ++ rest) = some (bs, rest) := by
  simp [takeBytes, h]

/-- A reader of the stream: the value and the bytes after it, or `none` when the stream
ends first. -/
abbrev Reader (α : Type) := Bytes → Option (α × Bytes)

/-- A reader reads back what a writer writes, and nothing after it. -/
def Reads {α : Type} (r : Reader α) (w : α → Bytes) (a : α) : Prop :=
  ∀ rest, r (w a ++ rest) = some (a, rest)

/-- `Stream::Write` of an unsigned integer of `k` bytes. -/
def writeWord (k : Nat) (x : Nat) : Bytes := leBytes k x

/-- `Stream::Read` of an unsigned integer of `k` bytes. -/
def readWord (k : Nat) : Reader Nat := fun bs => (takeBytes k bs).map fun p => (leValue p.1, p.2)

theorem readWord_writeWord {k x : Nat} (h : x < 256 ^ k) : Reads (readWord k) (writeWord k) x := fun rest => by
  simp [readWord, writeWord, takeBytes_append (length_leBytes k x), leValue_leBytes, Nat.mod_eq_of_lt h]

/-- `Stream::Write` of a `uint8_t`. -/
def writeU8 (x : UInt8) : Bytes := writeWord 1 x.toNat

/-- `Stream::Read` of a `uint8_t`. -/
def readU8 : Reader UInt8 := fun bs => (readWord 1 bs).map fun p => (UInt8.ofNat p.1, p.2)

/-- `Stream::Write` of a `bool`: one byte. -/
def writeBool (b : Bool) : Bytes := writeU8 (if b then 1 else 0)

/-- `Stream::Read` of a `bool`. -/
def readBool : Reader Bool := fun bs => (readU8 bs).map fun p => (p.1 != 0, p.2)

/-- `Stream::Write` of a `uint32_t`. -/
def writeU32 (x : UInt32) : Bytes := writeWord 4 x.toNat

/-- `Stream::Read` of a `uint32_t`. -/
def readU32 : Reader UInt32 := fun bs => (readWord 4 bs).map fun p => (UInt32.ofNat p.1, p.2)

/-- `Stream::Write` of a `float`: its bit pattern. -/
def writeF32 (x : F32) : Bytes := writeU32 x.bits

/-- `Stream::Read` of a `float`. -/
def readF32 : Reader F32 := fun bs => (readU32 bs).map fun p => (⟨p.1⟩, p.2)

/-- `Stream::Write` of a `uint64_t` (and of a `size_t`). -/
def writeU64 (x : UInt64) : Bytes := writeWord 8 x.toNat

/-- `Stream::Read` of a `uint64_t`. -/
def readU64 : Reader UInt64 := fun bs => (readWord 8 bs).map fun p => (UInt64.ofNat p.1, p.2)

theorem readU8_writeU8 (x : UInt8) : Reads readU8 writeU8 x := fun rest => by
  simp [readU8, writeU8, readWord_writeWord (show x.toNat < 256 ^ 1 from x.toNat_lt_size) rest]
  exact UInt8.toNat.inj (UInt8.toNat_ofNat_of_lt x.toNat_lt_size)

theorem readBool_writeBool (b : Bool) : Reads readBool writeBool b := fun rest => by
  cases b <;> simp [readBool, writeBool, readU8_writeU8 _ rest]

theorem readU32_writeU32 (x : UInt32) : Reads readU32 writeU32 x := fun rest => by
  simp [readU32, writeU32, readWord_writeWord (show x.toNat < 256 ^ 4 from x.toNat_lt_size) rest]
  exact UInt32.toNat.inj (UInt32.toNat_ofNat_of_lt x.toNat_lt_size)

theorem readF32_writeF32 (x : F32) : Reads readF32 writeF32 x := fun rest => by
  simp [readF32, writeF32, readU32_writeU32 x.bits rest]

theorem readU64_writeU64 (x : UInt64) : Reads readU64 writeU64 x := fun rest => by
  simp [readU64, writeU64, readWord_writeWord (show x.toNat < 256 ^ 8 from x.toNat_lt_size) rest]
  exact UInt64.toNat.inj (UInt64.toNat_ofNat_of_lt x.toNat_lt_size)

/-- `n` elements read one after another. -/
def readN {α : Type} (r : Reader α) : Nat → Reader (List α)
  | 0, bs => some ([], bs)
  | n + 1, bs => (r bs).bind fun p => (readN r n p.2).map fun q => (p.1 :: q.1, q.2)

/-- `Stream::Write` of a `std::vector` (or of a `std::string`): the count, then the
elements. -/
def writeVec {α : Type} (w : α → Bytes) (l : List α) : Bytes := writeU64 (UInt64.ofNat l.length) ++ (l.map w).flatten

/-- `Stream::Read` of a `std::vector`. -/
def readVec {α : Type} (r : Reader α) : Reader (List α) :=
  fun bs => (readU64 bs).bind fun p => readN r p.1.toNat p.2

/-- `Stream::Write` of a `std::string`. -/
def writeString (s : Bytes) : Bytes := writeVec writeU8 s

/-- `Stream::Read` of a `std::string`. -/
def readString : Reader Bytes := readVec readU8

theorem readN_writes {α : Type} {r : Reader α} {w : α → Bytes} :
    ∀ (l : List α), (∀ a ∈ l, Reads r w a) → ∀ rest, readN r l.length ((l.map w).flatten ++ rest) = some (l, rest)
  | [], _, rest => rfl
  | a :: l, h, rest => by
    rw [List.length_cons, readN, List.map_cons, List.flatten_cons, List.append_assoc,
      h a (List.mem_cons_self _ _), Option.some_bind, readN_writes l (fun b hb => h b (List.mem_cons_of_mem _ hb))]
    rfl

theorem readVec_writeVec {α : Type} {r : Reader α} {w : α → Bytes} {l : List α} (hl : l.length < 2 ^ 64)
    (h : ∀ a ∈ l, Reads r w a) : Reads (readVec r) (writeVec w) l := fun rest => by
  rw [readVec, writeVec, List.append_assoc, readU64_writeU64, Option.some_bind,
    UInt64.toNat_ofNat_of_lt (by exact hl), readN_writes l h]

theorem readString_writeString {s : Bytes} (hs : s.length < 2 ^ 64) : Reads readString writeString s :=
  readVec_writeVec hs fun a _ => readU8_writeU8 a

/-! ## Field records -/

/-- `DataType`: the type tag of a field record. -/
inductive DataType
  | kFloat32
  | kDouble
  | kUInt32
  | kUInt64
  | kStr

/-- The `uint8_t` value of a `DataType`, as `xgboost/data.h` numbers them. -/
def DataType.code : DataType → UInt8
  | .kFloat32 => 1
  | .kDouble => 2
  | .kUInt32 => 3
  | .kUInt64 => 4
  | .kStr => 5

/-- `MetaInfo::kNumField`. -/
def kNumField : UInt64 := 13

/-- `SaveScalarField(strm, name, type, field)` for a `uint64_t`. -/
def saveScalarField (name : Bytes) (type : DataType) (field : UInt64) : Bytes :=
  writeString name ++ writeU8 type.code ++ writeBool true ++ writeU64 field

/-- `SaveVectorField(strm, name, type, shape, field)`. -/
def saveVectorField {α : Type} (name : Bytes) (type : DataType) (shape : UInt64 × UInt64) (w : α → Bytes)
    (field : List α) : Bytes :=
  writeString name ++ writeU8 type.code ++ writeBool false ++ writeU64 shape.1 ++ writeU64 shape.2 ++
    writeVec w field

/-- `SaveTensorField(strm, name, type, field)` for a 2-dimensional `float` tensor. -/
def saveTensorField (name : Bytes) (type : DataType) (field : Tensor) : Bytes :=
  writeString name ++ writeU8 type.code ++ writeBool false ++ writeU64 field.shape.1 ++ writeU64 field.shape.2 ++
    writeVec writeF32 field.data

/-- A program that reads the stream and may raise. -/
abbrev ReadM := EStateM MetaError Bytes

/-- `CHECK(strm->Read(...)) << err`. -/
def readOr {α : Type} (err : MetaError) (r : Reader α) : ReadM α := fun bs =>
  match r bs with
  | some (a, rest) => .ok a rest
  | none => .error err bs

/-- What the three `Load*Field` functions check first, each failure reported as
`MetaInfo: Invalid format for <name>`: the name read equals `expected_name`, the type tag
`expected_type`, and the scalar flag `scalar`. -/
def loadFieldHeader (expectedName : Bytes) (expectedType : DataType) (scalar : Bool) : ReadM Unit := do
  let name ← readOr (.invalidFormat expectedName) readString
  check (name = expectedName) (.invalidFormat expectedName)
  let typeVal ← readOr (.invalidFormat expectedName) readU8
  check (typeVal = expectedType.code) (.invalidFormat expectedName)
  let isScalar ← readOr (.invalidFormat expectedName) readBool
  check (isScalar = scalar) (.invalidFormat expectedName)

/-- `LoadScalarField(strm, expected_name, expected_type, field)` for a `uint64_t`. -/
def loadScalarField (expectedName : Bytes) (expectedType : DataType) : ReadM UInt64 := do
  loadFieldHeader expectedName expectedType true
  readOr (.invalidFormat expectedName) readU64

/-- `LoadVectorField(strm, expected_name, expected_type, field)`: the shape, of which only
the column count is checked, then the vector.  The shape's reads carry no message of
their own; they are reported under the field's name. -/
def loadVectorField {α : Type} (expectedName : Bytes) (expectedType : DataType) (r : Reader α) :
    ReadM (List α) := do
  loadFieldHeader expectedName expectedType false
  let _ ← readOr (.invalidFormat expectedName) readU64
  let cols ← readOr (.invalidFormat expectedName) readU64
  check (cols = 1) (.invalidFormat expectedName)
  readOr (.invalidFormat expectedName) (readVec r)

/-- `LoadTensorField(strm, expected_name, expected_type, p_out)` for a 2-dimensional
`float` tensor: the shape, then the elements. -/
def loadTensorField (expectedName : Bytes) (expectedType : DataType) : ReadM Tensor := do
  loadFieldHeader expectedName expectedType false
  let rows ← readOr (.invalidFormat expectedName) readU64
  let cols ← readOr (.invalidFormat expectedName) readU64
  let data ← readOr (.invalidFormat expectedName) (readVec readF32)
  pure ⟨(rows, cols), data⟩

theorem EStateM.bind_apply {ε σ α β : Type} (x : EStateM ε σ α) (f : α → EStateM ε σ β) (s : σ) :
    (x >>= f) s = match x s with
      | .ok a s' => f a s'
      | .error e s' => .error e s' := rfl

theorem EStateM.pure_apply {ε σ α : Type} (a : α) (s : σ) : (pure a : EStateM ε σ α) s = .ok a s := rfl

theorem readOr_reads {α : Type} {r : Reader α} {w : α → Bytes} {a : α} (h : Reads r w a) (err : MetaError)
    (rest : Bytes) : readOr err r (w a ++ rest) = .ok a rest := by
  simp [readOr, h rest]

theorem loadFieldHeader_save {name : Bytes} (hn : name.length < 2 ^ 64) (type : DataType) (scalar : Bool)
    (rest : Bytes) :
    loadFieldHeader name type scalar (writeString name ++ (writeU8 type.code ++ (writeBool scalar ++ rest))) =
      .ok () rest := by
  simp only [loadFieldHeader, EStateM.bind_apply, EStateM.pure_apply, readOr_reads (readString_writeString hn),
    readOr_reads (readU8_writeU8 _), readOr_reads (readBool_writeBool _), check_of_pos rfl]

theorem loadScalarField_save {name : Bytes} (hn : name.length < 2 ^ 64) (type : DataType) (v : UInt64)
    (rest : Bytes) : loadScalarField name type (saveScalarField name type v ++ rest) = .ok v rest := by
  simp only [loadScalarField, saveScalarField, List.append_assoc, EStateM.bind_apply, loadFieldHeader_save hn,
    readOr_reads (readU64_writeU64 _)]

theorem loadVectorField_save {α : Type} {name : Bytes} (hn : name.length < 2 ^ 64) (type : DataType)
    {r : Reader α} {w : α → Bytes} {l : List α} (hl : l.length < 2 ^ 64) (h : ∀ a ∈ l, Reads r w a)
    (rows : UInt64) (rest : Bytes) :
    loadVectorField name type r (saveVectorField name type (rows, 1) w l ++ rest) = .ok l rest := by
  simp only [loadVectorField, saveVectorField, List.append_assoc, EStateM.bind_apply, loadFieldHeader_save hn,
    EStateM.pure_apply, readOr_reads (readU64_writeU64 _), readOr_reads (readVec_writeVec hl h),
    check_of_pos rfl]

theorem loadTensorField_save {name : Bytes} (hn : name.length < 2 ^ 64) (type : DataType) {t : Tensor}
    (ht : t.data.length < 2 ^ 64) (rest : Bytes) :
    loadTensorField name type (saveTensorField name type t ++ rest) = .ok t rest := by
  simp only [loadTensorField, saveTensorField, List.append_assoc, EStateM.bind_apply, loadFieldHeader_save hn,
    readOr_reads (readU64_writeU64 _), readOr_reads (readVec_writeVec ht fun a _ => readF32_writeF32 a),
    EStateM.pure_apply]

/-! ## `SaveBinary` and `LoadBinary` -/

/-- `Version::Save` and `Version::Load` (`common/version.cc`, not in the excerpt): the
bytes `Save` writes for `Version::Self()`, and the reader `Load`, which reads them back
as `Self()`. -/
structure VersionIO where
  self : Int × Int × Int
  save : Bytes
  load : ReadM (Int × Int × Int)
  load_save : ∀ rest, load (save ++ rest) = .ok self rest

/-- The JSON form of the category container (not in the excerpt): the bytes of
`Json::Dump` after `CatContainer::Save`, and `Json::Load` followed by `CatContainer::Load`. -/
structure CatIO (Cats : Type) where
  save : Cats → Bytes
  load : Bytes → Except MetaError Cats

variable {Cats : Type}

/-- `SaveBinary(fo)`: the version, `kNumField`, then the thirteen field records. -/
def saveBinary (V : VersionIO) (C : CatIO Cats) (m : MetaInfo Cats) : Bytes :=
  V.save ++ writeU64 kNumField ++
    saveScalarField (ascii "num_row") .kUInt64 m.numRow ++
    saveScalarField (ascii "num_col") .kUInt64 m.numCol ++
    saveScalarField (ascii "num_nonzero") .kUInt64 m.numNonzero ++
    saveTensorField (ascii "labels") .kFloat32 m.labels ++
    saveVectorField (ascii "group_ptr") .kUInt32 (UInt64.ofNat m.groupPtr.length, 1) writeU32 m.groupPtr ++
    saveVectorField (ascii "weights") .kFloat32 (UInt64.ofNat m.weights.length, 1) writeF32 m.weights ++
    saveTensorField (ascii "base_margin") .kFloat32 m.baseMargin ++
    saveVectorField (ascii "labels_lower_bound") .kFloat32 (UInt64.ofNat m.labelsLowerBound.length, 1) writeF32
      m.labelsLowerBound ++
    saveVectorField (ascii "labels_upper_bound") .kFloat32 (UInt64.ofNat m.labelsUpperBound.length, 1) writeF32
      m.labelsUpperBound ++
    saveVectorField (ascii "feature_names") .kStr (UInt64.ofNat m.featureNames.length, 1) writeString
      m.featureNames ++
    saveVectorField (ascii "feature_types") .kStr (UInt64.ofNat m.featureTypeNames.length, 1) writeString
      m.featureTypeNames ++
    saveVectorField (ascii "feature_weights") .kFloat32 (UInt64.ofNat m.featureWeights.length, 1) writeF32
      m.featureWeights ++
    saveVectorField (ascii "cats") .kStr (UInt64.ofNat (C.save m.cats).length, 1) writeU8 (C.save m.cats)

/-- A read of the stream inside `LoadBinary`, whose state is the record and the stream. -/
def onStream {α : Type} (x : ReadM α) : EStateM MetaError (MetaInfo Cats × Bytes) α := fun s =>
  match x s.2 with
  | .ok a bs => .ok a (s.1, bs)
  | .error e bs => .error e (s.1, bs)

/-- A read of the record inside `LoadBinary`. -/
def getMeta : EStateM MetaError (MetaInfo Cats × Bytes) (MetaInfo Cats) := fun s => .ok s.1 s

/-- An assignment to the record inside `LoadBinary`. -/
def setMeta (f : MetaInfo Cats → MetaInfo Cats) : EStateM MetaError (MetaInfo Cats × Bytes) Unit :=
  fun s => .ok () (f s.1, s.2)

/-- `LoadBinary(fi)`: the version gate (`major >= 3` and `minor >= 1`), the field count,
then each field record read and stored in turn; `has_categorical_` and the feature types
come from `LoadFeatureType` on the type names, and the categories from their JSON form.
Fields past the thirteenth are not read. -/
def loadBinary (V : VersionIO) (C : CatIO Cats) : EStateM MetaError (MetaInfo Cats × Bytes) Unit := do
  let (major, minor, _) ← onStream V.load
  check (major ≥ 3) .version
  check (minor ≥ 1) .version
  let numField ← onStream (readOr .numField readU64)
  check (numField.toNat ≥ if major = 1 ∧ minor < 2 then kNumField.toNat - 2 else kNumField.toNat) .numField
  let numRow ← onStream (loadScalarField (ascii "num_row") .kUInt64)
  setMeta fun m => { m with numRow := numRow }
  let numCol ← onStream (loadScalarField (ascii "num_col") .kUInt64)
  setMeta fun m => { m with numCol := numCol }
  let numNonzero ← onStream (loadScalarField (ascii "num_nonzero") .kUInt64)
  setMeta fun m => { m with numNonzero := numNonzero }
  let labels ← onStream (loadTensorField (ascii "labels") .kFloat32)
  setMeta fun m => { m with labels := labels }
  let groupPtr ← onStream (loadVectorField (ascii "group_ptr") .kUInt32 readU32)
  setMeta fun m => { m with groupPtr := groupPtr }
  let weights ← onStream (loadVectorField (ascii "weights") .kFloat32 readF32)
  setMeta fun m => { m with weights := weights }
  let baseMargin ← onStream (loadTensorField (ascii "base_margin") .kFloat32)
  setMeta fun m => { m with baseMargin := baseMargin }
  let lower ← onStream (loadVectorField (ascii "labels_lower_bound") .kFloat32 readF32)
  setMeta fun m => { m with labelsLowerBound := lower }
  let upper ← onStream (loadVectorField (ascii "labels_upper_bound") .kFloat32 readF32)
  setMeta fun m => { m with labelsUpperBound := upper }
  let featureNames ← onStream (loadVectorField (ascii "feature_names") .kStr readString)
  setMeta fun m => { m with featureNames := featureNames }
  let featureTypeNames ← onStream (loadVectorField (ascii "feature_types") .kStr readString)
  setMeta fun m => { m with featureTypeNames := featureTypeNames }
  let featureWeights ← onStream (loadVectorField (ascii "feature_weights") .kFloat32 readF32)
  setMeta fun m => { m with featureWeights := featureWeights }
  let m ← getMeta
  setMeta fun m => { m with featureTypes := (loadFeatureType m.featureTypeNames).1 }
  let hasCategorical ← liftExcept (loadFeatureType m.featureTypeNames).2
  setMeta fun m => { m with hasCategorical := hasCategorical }
  let values ← onStream (loadVectorField (ascii "cats") .kStr readU8)
  let cats ← liftExcept (C.load values)
  setMeta fun m => { m with cats := cats }

/-- Every vector and string `SaveBinary` writes has fewer than `2^64` elements, as a
`size_t` count can say. -/
structure MetaInfo.Fits (C : CatIO Cats) (m : MetaInfo Cats) : Prop where
  labels : m.labels.data.length < 2 ^ 64
  groupPtr : m.groupPtr.length < 2 ^ 64
  weights : m.weights.length < 2 ^ 64
  baseMargin : m.baseMargin.data.length < 2 ^ 64
  labelsLowerBound : m.labelsLowerBound.length < 2 ^ 64
  labelsUpperBound : m.labelsUpperBound.length < 2 ^ 64
  featureNames : m.featureNames.length < 2 ^ 64 ∧ ∀ s ∈ m.featureNames, s.length < 2 ^ 64
  featureTypeNames : m.featureTypeNames.length < 2 ^ 64 ∧ ∀ s ∈ m.featureTypeNames, s.length < 2 ^ 64
  featureWeights : m.featureWeights.length < 2 ^ 64
  cats : (C.save m.cats).length < 2 ^ 64

theorem onStream_apply {α : Type} (x : ReadM α) (m : MetaInfo Cats) (bs : Bytes) :
    onStream x (m, bs) = match x bs with
      | .ok a bs' => .ok a (m, bs')
      | .error e bs' => .error e (m, bs') := rfl

theorem getMeta_apply (m : MetaInfo Cats) (bs : Bytes) : getMeta (m, bs) = .ok m (m, bs) := rfl

theorem setMeta_apply (f : MetaInfo Cats → MetaInfo Cats) (m : MetaInfo Cats) (bs : Bytes) :
    setMeta f (m, bs) = .ok () (f m, bs) := rfl

/-- The round trip: `LoadBinary` reads what `SaveBinary` wrote into every field, whatever
the record held before, and stops right after it. -/
theorem loadBinary_saveBinary (V : VersionIO) (C : CatIO Cats) {m : MetaInfo Cats} (prior : MetaInfo Cats)
    (rest : Bytes) (hgate : 3 ≤ V.self.1 ∧ 1 ≤ V.self.2.1) (hC : C.load (C.save m.cats) = .ok m.cats)
    (hfits : m.Fits C) (hknown : ∀ n ∈ m.featureTypeNames, (featureTypeOf n).isSome)
    (htypes : (loadFeatureType m.featureTypeNames).1 = m.featureTypes) :
    loadBinary V C (prior, saveBinary V C m ++ rest) =
      .ok () ({ m with hasCategorical := m.featureTypes.any (· == .categorical) }, rest) := by
  obtain ⟨⟨major, minor, patch⟩, save, load, load_save⟩ := V
  obtain ⟨h3, h1⟩ : 3 ≤ major ∧ 1 ≤ minor := hgate
  have hnum : kNumField.toNat ≥ if major = 1 ∧ minor < 2 then kNumField.toNat - 2 else kNumField.toNat := by
    rw [if_neg (by omega)]
  simp (disch := decide) only [loadBinary, saveBinary, List.append_assoc, EStateM.bind_apply, EStateM.pure_apply,
    onStream_apply, getMeta_apply, setMeta_apply, load_save, readOr_reads (readU64_writeU64 _), check_of_pos h3, check_of_pos h1,
    check_of_pos hnum,
    loadScalarField_save, loadTensorField_save _ _ hfits.labels, loadTensorField_save _ _ hfits.baseMargin,
    loadVectorField_save _ _ hfits.groupPtr fun a _ => readU32_writeU32 a,
    loadVectorField_save _ _ hfits.weights fun a _ => readF32_writeF32 a,
    loadVectorField_save _ _ hfits.labelsLowerBound fun a _ => readF32_writeF32 a,
    loadVectorField_save _ _ hfits.labelsUpperBound fun a _ => readF32_writeF32 a,
    loadVectorField_save _ _ hfits.featureWeights fun a _ => readF32_writeF32 a,
    loadVectorField_save _ _ hfits.featureNames.1 fun s hs => readString_writeString (hfits.featureNames.2 s hs),
    loadVectorField_save _ _ hfits.featureTypeNames.1
      fun s hs => readString_writeString (hfits.featureTypeNames.2 s hs),
    loadVectorField_save _ _ hfits.cats fun a _ => readU8_writeU8 a, loadFeatureType_of_known hknown, htypes,
    liftExcept_ok, hC]

/-- The saved record holds no `has_categorical_`: `LoadBinary` sets it from the feature
types, so a record whose flag disagrees with them (as `Slice` leaves it: the flag is not
copied) comes back with the recomputed flag. -/
theorem loadBinary_hasCategorical_recomputed :
    (loadFeatureType [ascii "c"]).1 = [FeatureType.categorical] ∧
    loadBinary (⟨(3, 1, 0), [], fun bs => .ok (3, 1, 0) bs, fun _ => rfl⟩ : VersionIO)
        (⟨fun _ => [], fun _ => .ok ()⟩ : CatIO Unit)
        (MetaInfo.fresh (), saveBinary ⟨(3, 1, 0), [], fun bs => .ok (3, 1, 0) bs, fun _ => rfl⟩
          ⟨fun _ => [], fun _ => .ok ()⟩
          { MetaInfo.fresh () with featureTypeNames := [ascii "c"], featureTypes := [.categorical],
                                   hasCategorical := false }) =
      .ok () ({ MetaInfo.fresh () with featureTypeNames := [ascii "c"], featureTypes := [.categorical],
                                       hasCategorical := true }, []) := by
  refine ⟨rfl, ?_⟩
  have hfits : MetaInfo.Fits (⟨fun _ => [], fun _ => .ok ()⟩ : CatIO Unit)
      { MetaInfo.fresh () with featureTypeNames := [ascii "c"], featureTypes := [.categorical],
                               hasCategorical := false } := by
    constructor <;> decide
  have h := loadBinary_saveBinary ⟨(3, 1, 0), [], fun bs => .ok (3, 1, 0) bs, fun _ => rfl⟩ _
    (MetaInfo.fresh ()) [] (by decide) rfl hfits (by decide) rfl
  rwa [List.append_nil] at h

/-- `LoadBinary` after `SaveBinary` gives back the whole record and stops right after it,
for every record whose `has_categorical_` agrees with its feature types. -/
theorem loadBinary_roundTrip (V : VersionIO) (C : CatIO Cats) {m : MetaInfo Cats} (prior : MetaInfo Cats)
    (rest : Bytes) (hgate : 3 ≤ V.self.1 ∧ 1 ≤ V.self.2.1) (hC : C.load (C.save m.cats) = .ok m.cats)
    (hfits : m.Fits C) (hknown : ∀ n ∈ m.featureTypeNames, (featureTypeOf n).isSome)
    (htypes : (loadFeatureType m.featureTypeNames).1 = m.featureTypes)
    (hcat : m.hasCategorical = m.featureTypes.any (· == .categorical)) :
    loadBinary V C (prior, saveBinary V C m ++ rest) = .ok () (m, rest) := by
  rw [loadBinary_saveBinary V C prior rest hgate hC hfits hknown htypes, ← hcat]

theorem loadBinary_roundTrip_categorical :
    loadBinary (⟨(3, 1, 0), [], fun bs => .ok (3, 1, 0) bs, fun _ => rfl⟩ : VersionIO)
        (⟨fun _ => [], fun _ => .ok ()⟩ : CatIO Unit)
        (MetaInfo.fresh (), saveBinary ⟨(3, 1, 0), [], fun bs => .ok (3, 1, 0) bs, fun _ => rfl⟩
          ⟨fun _ => [], fun _ => .ok ()⟩
          { MetaInfo.fresh () with numRow := 2, labels := ⟨(2, 1), [F32.one, F32.zero]⟩,
                                   featureTypeNames := [ascii "c"], featureTypes := [.categorical],
                                   hasCategorical := true } ++ []) =
      .ok () ({ MetaInfo.fresh () with numRow := 2, labels := ⟨(2, 1), [F32.one, F32.zero]⟩,
                                       featureTypeNames := [ascii "c"], featureTypes := [.categorical],
                                       hasCategorical := true }, []) :=
  loadBinary_roundTrip _ _ _ _ (by decide) rfl (by constructor <;> decide) (by decide) rfl rfl

end XGBoostData
