import XGBoostData.Data.MetaInfoUpdate

/-!
# The proxy `DMatrix` (proxy_dmatrix.cc)

WHAT THIS FILE IS FOR.  A `DMatrixProxy` holds the batch a data iterator hands over.
`SetColumnar`, `SetArray` and `SetCsr` build an adapter over the caller's array
interface, keep it as the proxy's batch, copy its shape into the proxy's `Info()` and put
the proxy's context on the CPU; in a build without CUDA the two CUDA setters raise.
`CreateDMatrixFromProxy` builds a `DMatrix` from the batch and then overwrites its
`Info()` with a copy of the proxy's.  This file runs any sequence of setter calls and
proves what the proxy holds afterwards (`runCalls_eq`), and what
`CreateDMatrixFromProxy` then returns (`createDMatrixFromProxy_runCalls`): it raises
exactly when no setter has returned, and otherwise hands back the copy of the proxy's
`Info()`, whatever `DMatrix::Create` computed.

THE BUILD.  The file models the build without CUDA that the excerpt's `#if` branches
define: `SetCudaArray` and `SetCudaColumnar` are `common::AssertGPUSupport()`, and
`cuda_impl::CreateDMatrixFromProxy` returns `nullptr`.

OUTSIDE THE EXCERPT.  The adapter classes (their constructors parse the array
interface), `HostAdapterDispatch` and `DMatrix::Create` (a `SimpleDMatrix`) are in
headers and files that are not in the excerpt.  An adapter is modelled by what the proxy
reads of it, its `NumRows()` and `NumColumns()`; each constructor by a parameter that
builds one or raises; a created matrix by its `Info()`, the only part
`CreateDMatrixFromProxy` touches after creating it.  `HostAdapterDispatch` calls the
function on the host adapter the proxy holds, and reports a type error (which
`CreateDMatrixFromProxy` ignores, leaving `nullptr`) when it holds none.
-/

set_option autoImplicit false

namespace XGBoostData

/-- What the proxy reads of an adapter: `NumRows()` and `NumColumns()`. -/
structure HostAdapter where
  numRows : UInt64
  numColumns : UInt64
  deriving DecidableEq, Repr

/-- Why a call on the proxy raises. -/
inductive ProxyError
  /-- A check of an adapter's constructor on the array interface it is given. -/
  | adapter
  /-- `Not implemented on device.` -/
  | notOnDevice
  /-- `common::AssertGPUSupport()`: `XGBoost version not compiled with GPU support.` -/
  | gpuSupport
  /-- `Failed to fallback.` -/
  | failedToFallback
  /-- A check of `DMatrix::Create`. -/
  | create
  /-- A check of `MetaInfo::Copy()`. -/
  | meta (e : MetaError)
  deriving DecidableEq, Repr

/-- The constructors of the three host adapters, from the interface strings each is
given: the adapter, or `none` when a check of the constructor fails. -/
structure AdapterCtors where
  /-- `ColumnarAdapter{data}`. -/
  columnar : Bytes → Option HostAdapter
  /-- `ArrayAdapter{data}`. -/
  array : Bytes → Option HostAdapter
  /-- `CSRArrayAdapter(indptr, indices, values, n_features)`. -/
  csrArray : Bytes → Bytes → Bytes → UInt32 → Option HostAdapter

/-- `DMatrixProxy`: the batch it holds, its `Info()`, and whether its context is on a
CUDA device. -/
structure DMatrixProxy (Cats : Type) where
  batch : Option HostAdapter
  info : MetaInfo Cats
  onCuda : Bool

namespace DMatrixProxy

variable {Cats : Type}

/-- The body `SetColumnar`, `SetArray` and `SetCsr` share, once the adapter is built or
has raised: the adapter kept as the batch, its column and row counts copied into
`Info()`, and the context set to the CPU. -/
def setAdapter (adapter : Option HostAdapter) : EStateM ProxyError (DMatrixProxy Cats) Unit :=
  match adapter with
  | none => throw .adapter
  | some adapter => do
    modify fun p => { p with batch := some adapter }
    modify fun p => { p with info := { p.info with numCol := adapter.numColumns } }
    modify fun p => { p with info := { p.info with numRow := adapter.numRows } }
    modify fun p => { p with onCuda := false }

/-- `SetColumnar(data)`. -/
def setColumnar (A : AdapterCtors) (data : Bytes) : EStateM ProxyError (DMatrixProxy Cats) Unit :=
  setAdapter (A.columnar data)

/-- `SetArray(data)`. -/
def setArray (A : AdapterCtors) (data : Bytes) : EStateM ProxyError (DMatrixProxy Cats) Unit :=
  setAdapter (A.array data)

/-- `SetCsr(c_indptr, c_indices, c_values, n_features, on_host)`: `CHECK(on_host)` first. -/
def setCsr (A : AdapterCtors) (indptr indices values : Bytes) (nFeatures : UInt32) (onHost : Bool) :
    EStateM ProxyError (DMatrixProxy Cats) Unit := do
  if onHost then pure () else throw .notOnDevice
  setAdapter (A.csrArray indptr indices values nFeatures)

/-- `SetCudaArray(data)` and `SetCudaColumnar(data)` without CUDA. -/
def setCuda : EStateM ProxyError (DMatrixProxy Cats) Unit :=
  throw .gpuSupport

/-- A setter call on the proxy. -/
inductive Call
  | setColumnar (data : Bytes)
  | setArray (data : Bytes)
  | setCsr (indptr indices values : Bytes) (nFeatures : UInt32) (onHost : Bool)
  | setCudaArray (data : Bytes)
  | setCudaColumnar (data : Bytes)

/-- The setter a call runs. -/
def Call.apply (A : AdapterCtors) : Call → EStateM ProxyError (DMatrixProxy Cats) Unit
  | .setColumnar data => DMatrixProxy.setColumnar A data
  | .setArray data => DMatrixProxy.setArray A data
  | .setCsr indptr indices values nFeatures onHost => DMatrixProxy.setCsr A indptr indices values nFeatures onHost
  | .setCudaArray _ => setCuda
  | .setCudaColumnar _ => setCuda

/-- Setter calls in turn, each on the proxy the one before left, whether it returned or
raised (the C API turns the exception into an error code). -/
def runCalls (A : AdapterCtors) : List Call → DMatrixProxy Cats → DMatrixProxy Cats
  | [], p => p
  | c :: cs, p => runCalls A cs (resultState (c.apply A p))

/-- The adapter a call keeps when it returns, and `none` when it raises. -/
def Call.adapter (A : AdapterCtors) : Call → Option HostAdapter
  | .setColumnar data => A.columnar data
  | .setArray data => A.array data
  | .setCsr indptr indices values nFeatures onHost => if onHost then A.csrArray indptr indices values nFeatures else none
  | .setCudaArray _ => none
  | .setCudaColumnar _ => none

/-- The proxy holding `adapter`: the batch, its shape in `Info()`, the context on the CPU. -/
def holding (p : DMatrixProxy Cats) (adapter : HostAdapter) : DMatrixProxy Cats :=
  { p with batch := some adapter, info := { p.info with numCol := adapter.numColumns, numRow := adapter.numRows },
           onCuda := false }

theorem setAdapter_apply (adapter : Option HostAdapter) (p : DMatrixProxy Cats) :
    setAdapter adapter p = match adapter with
      | none => .error .adapter p
      | some a => .ok () (holding p a) := by
  cases adapter <;> rfl

/-- One setter call: it returns exactly when it keeps an adapter, and leaves the proxy
holding it; when it raises it leaves the proxy as it was. -/
theorem apply_eq (A : AdapterCtors) (c : Call) (p : DMatrixProxy Cats) :
    resultState (c.apply A p) = match c.adapter A with
      | none => p
      | some a => holding p a := by
  cases c with
  | setColumnar data => simp only [Call.apply, DMatrixProxy.setColumnar, setAdapter_apply, Call.adapter]; split <;> rfl
  | setArray data => simp only [Call.apply, DMatrixProxy.setArray, setAdapter_apply, Call.adapter]; split <;> rfl
  | setCsr indptr indices values nFeatures onHost =>
    cases onHost
    · rfl
    · simp only [Call.apply, DMatrixProxy.setCsr, if_true, Call.adapter, EStateM.bind_apply, EStateM.pure_apply, setAdapter_apply]
      split <;> rfl
  | setCudaArray _ => rfl
  | setCudaColumnar _ => rfl

/-- Any sequence of setter calls leaves the proxy as it was when no call returned, and
otherwise holding the adapter of the last call that returned: that batch, its row and
column counts in `Info()` (the rest of `Info()` as it was), and the context on the
CPU. -/
theorem runCalls_eq (A : AdapterCtors) (cs : List Call) :
    ∀ p : DMatrixProxy Cats, runCalls A cs p = match (cs.filterMap (Call.adapter A)).getLast? with
      | none => p
      | some a => holding p a := by
  induction cs with
  | nil => intro p; rfl
  | cons c cs ih =>
    intro p
    rw [runCalls, ih, apply_eq, List.filterMap_cons]
    cases hc : c.adapter A with
    | none => rfl
    | some a =>
      simp only [List.getLast?_cons]
      cases (cs.filterMap (Call.adapter A)).getLast? <;> rfl

/-- `CreateDMatrixFromProxy(ctx, proxy, missing)` without CUDA: a proxy on a CUDA device
goes to `cuda_impl::CreateDMatrixFromProxy`, which returns `nullptr`; otherwise
`HostAdapterDispatch` creates a matrix from the batch, or leaves `nullptr` when the proxy
holds none.  A `nullptr` fails `CHECK(p_fmat)`; the created matrix's `Info()` is then
overwritten with `proxy->Info().Copy()`.  `create` is `DMatrix::Create(adapter, missing,
nthread)`, by the `Info()` of the matrix it returns, or `none` when a check of it fails. -/
def createDMatrixFromProxy (H : MetaHelpers) (emptyCats : Cats)
    (create : HostAdapter → F32 → Nat → Option (MetaInfo Cats)) (nthread : Nat)
    (proxy : DMatrixProxy Cats) (missing : F32) : Except ProxyError (MetaInfo Cats) := do
  let pFmat ← (if proxy.onCuda then pure none
    else match proxy.batch with
      | none => pure none
      | some adapter =>
        match create adapter missing nthread with
        | none => throw .create
        | some fmat => pure (some fmat))
  match pFmat with
  | none => throw .failedToFallback
  | some _ =>
    match MetaInfo.copy H emptyCats proxy.info with
    | .ok info => pure info
    | .error e => throw (.meta e)

/-- `CreateDMatrixFromProxy` on a proxy on the CPU: `Failed to fallback.` without a batch,
and otherwise the check of `DMatrix::Create` or the copy of the proxy's `Info()`. -/
theorem createDMatrixFromProxy_eq (H : MetaHelpers) (emptyCats : Cats)
    (create : HostAdapter → F32 → Nat → Option (MetaInfo Cats)) (nthread : Nat) {proxy : DMatrixProxy Cats}
    (hcpu : proxy.onCuda = false) (missing : F32) :
    createDMatrixFromProxy H emptyCats create nthread proxy missing = match proxy.batch with
      | none => .error .failedToFallback
      | some adapter => match create adapter missing nthread with
        | none => .error .create
        | some _ => (MetaInfo.copy H emptyCats proxy.info).mapError .meta := by
  simp only [createDMatrixFromProxy, hcpu, Bool.false_eq_true, if_false]
  cases proxy.batch with
  | none => rfl
  | some adapter =>
    dsimp only
    cases create adapter missing nthread with
    | none => rfl
    | some fmat =>
      dsimp only
      cases MetaInfo.copy H emptyCats proxy.info <;> rfl

/-- After any sequence of setter calls on a proxy on the CPU, in a build without CUDA,
`CreateDMatrixFromProxy` raises `Failed to fallback.` exactly when the proxy holds no
batch: when no call kept an adapter and the proxy held none before.  When it returns, the
matrix's `Info()` is the copy of the proxy's, whatever `DMatrix::Create` computed: the row
and column counts of the last adapter kept (or of the proxy), and the non-zero count and
category container of a fresh `MetaInfo`. -/
theorem createDMatrixFromProxy_runCalls (H : MetaHelpers) (emptyCats : Cats)
    (create : HostAdapter → F32 → Nat → Option (MetaInfo Cats)) (nthread : Nat) (A : AdapterCtors)
    (cs : List Call) (p : DMatrixProxy Cats) (missing : F32) (hcpu : p.onCuda = false) :
    ((runCalls A cs p).batch = none ↔
      createDMatrixFromProxy H emptyCats create nthread (runCalls A cs p) missing = .error .failedToFallback) ∧
    ∀ info, createDMatrixFromProxy H emptyCats create nthread (runCalls A cs p) missing = .ok info →
      info.numRow = (runCalls A cs p).info.numRow ∧ info.numCol = (runCalls A cs p).info.numCol ∧
      info.numNonzero = 0 ∧ info.cats = emptyCats := by
  have hcpu' : (runCalls A cs p).onCuda = false := by
    rw [runCalls_eq]
    split
    · exact hcpu
    · rfl
  rw [createDMatrixFromProxy_eq H emptyCats create nthread hcpu' missing]
  cases (runCalls A cs p).batch with
  | none => exact ⟨iff_of_true rfl rfl, fun _ h => nomatch h⟩
  | some adapter =>
    dsimp only
    cases create adapter missing nthread with
    | none => exact ⟨iff_of_false (fun h => nomatch h) (fun h => nomatch h), fun _ h => nomatch h⟩
    | some fmat =>
      dsimp only
      cases hc : MetaInfo.copy H emptyCats (runCalls A cs p).info with
      | error e => exact ⟨iff_of_false (fun h => nomatch h) (fun h => nomatch h), fun _ h => nomatch h⟩
      | ok out =>
        refine ⟨iff_of_false (fun h => nomatch h) (fun h => nomatch h), fun info h => ?_⟩
        obtain rfl : out = info := Except.ok.inj h
        obtain ⟨l, mg, -, -, hout⟩ := MetaInfo.copy_ok hc
        rw [hout]
        exact ⟨rfl, rfl, rfl, rfl⟩

/-- A CUDA setter, which raises, then a columnar batch of 2 rows and 3 columns, from a
fresh proxy; `DMatrix::Create` counts 6 non-zero entries, and the matrix comes back with
the proxy's shape and none. -/
theorem createDMatrixFromProxy_runCalls_columnar :
    let A : AdapterCtors := ⟨fun _ => some ⟨2, 3⟩, fun _ => none, fun _ _ _ _ => none⟩
    let p : DMatrixProxy Unit := ⟨none, MetaInfo.fresh (), false⟩
    let create : HostAdapter → F32 → Nat → Option (MetaInfo Unit) :=
      fun a _ _ => some { MetaInfo.fresh () with numRow := a.numRows, numCol := a.numColumns, numNonzero := 6 }
    let H : MetaHelpers := ⟨fun y => y.isNaN || y.isInf, fun _ => false, fun _ => true, id, fun l _ => .ok l,
      fun _ _ => true⟩
    p.onCuda = false ∧
    createDMatrixFromProxy H () create 1 (runCalls A [.setCudaArray [], .setColumnar []] p) F32.nan =
      .ok { MetaInfo.fresh () with numRow := 2, numCol := 3 } ∧
    (((runCalls A [.setCudaArray [], .setColumnar []] p).batch = none ↔
      createDMatrixFromProxy H () create 1 (runCalls A [.setCudaArray [], .setColumnar []] p) F32.nan =
        .error .failedToFallback) ∧
    ∀ info, createDMatrixFromProxy H () create 1 (runCalls A [.setCudaArray [], .setColumnar []] p) F32.nan =
        .ok info →
      info.numRow = (runCalls A [.setCudaArray [], .setColumnar []] p).info.numRow ∧
      info.numCol = (runCalls A [.setCudaArray [], .setColumnar []] p).info.numCol ∧
      info.numNonzero = 0 ∧ info.cats = ()) :=
  ⟨rfl, rfl, createDMatrixFromProxy_runCalls _ () _ 1 _ [.setCudaArray [], .setColumnar []] _ F32.nan rfl⟩

end DMatrixProxy

end XGBoostData
