import Mathlib.Logic.Function.Basic
import Mathlib.Data.List.Basic

/-!
# The C API's per-thread return buffers (data.cc, `DMatrix::GetThreadLocal`, `~DMatrix`)

WHAT THIS FILE IS FOR.  The C API hands out strings and arrays through an
`XGBAPIThreadLocalEntry`, one per matrix and per thread:
`DMatrixThreadLocal::Get()` is the calling thread's own
`std::map<DMatrix const *, XGBAPIThreadLocalEntry>`, `GetThreadLocal()` is
`(*map)[this]` (a value-initialised entry when there is none), and `~DMatrix()` erases
the matrix from the map of the thread that destroys it.  This file runs any interleaving
of those calls and proves what each thread's entries are (`run_entry`): the entry of
thread `t` for the address `d` is decided by the calls of `t` on `d` alone, in their
order.  So no thread ever sees another's buffer, and a matrix destroyed on one thread
leaves the entries other threads hold for it in their maps; a matrix created later at
the same address finds them there.

THE CALLER'S WRITE.  A C API function writes its answer into the entry
`GetThreadLocal()` returns and hands out a pointer into it.  The model keeps that write
with the call, as the function `fill` of the old entry, and the call answers the entry
it leaves.

OUTSIDE THE EXCERPT.  `dmlc::ThreadLocalStore` and `XGBAPIThreadLocalEntry` are not in the
excerpt; the entry is a type parameter, with its value-initialised entry `empty`.
-/

set_option autoImplicit false

namespace XGBoostData

namespace DMatrix

/-- A thread, by id. -/
abbrev ThreadId := Nat

/-- The address of a `DMatrix`. -/
abbrev Address := Nat

/-- `DMatrixThreadLocal`: for each thread its map from matrix addresses to entries. -/
abbrev ThreadLocalStore (E : Type) := ThreadId → Address → Option E

/-- A call on a matrix, made by one thread. -/
inductive Call (E : Type)
  /-- `GetThreadLocal()` on the matrix at `dmat`, the caller then writing `fill` of the
  entry into it. -/
  | getThreadLocal (dmat : Address) (fill : E → E)
  /-- `~DMatrix()` of the matrix at `dmat`. -/
  | destroy (dmat : Address)

variable {E : Type} (empty : E)

/-- The matrix a call is on. -/
def Call.dmat : Call E → Address
  | .getThreadLocal dmat _ => dmat
  | .destroy dmat => dmat

/-- Thread `t`'s map with the entry of `dmat` set to `e`. -/
def ThreadLocalStore.set (s : ThreadLocalStore E) (t : ThreadId) (dmat : Address) (e : Option E) :
    ThreadLocalStore E :=
  Function.update s t (Function.update (s t) dmat e)

/-- One call on thread `t`: what it answers (the entry `GetThreadLocal()` leaves, after the
caller's write) and the store it leaves.  `~DMatrix()` looks the matrix up in the
destroying thread's map and erases it when it is there. -/
def Call.step (t : ThreadId) : Call E → ThreadLocalStore E → Option E × ThreadLocalStore E
  | .getThreadLocal dmat fill, s =>
    let e := fill ((s t dmat).getD empty)
    (some e, s.set t dmat (some e))
  | .destroy dmat, s => (none, if (s t dmat).isSome then s.set t dmat none else s)

/-- A run of calls, each with the thread that makes it, in the order they happen: the
answers and the store left. -/
def run : List (ThreadId × Call E) → ThreadLocalStore E → List (Option E) × ThreadLocalStore E
  | [], s => ([], s)
  | (t, c) :: cs, s =>
    let (a, s') := c.step empty t s
    let (as, s'') := run cs s'
    (a :: as, s'')

/-- What the calls of one thread on one matrix leave as that thread's entry for it,
from the entry `e` it started with: a `GetThreadLocal()` fills the entry, or a
value-initialised one, and `~DMatrix()` removes it. -/
def localEntry : Option E → List (Call E) → Option E
  | e, [] => e
  | e, .getThreadLocal _ fill :: cs => localEntry (some (fill (e.getD empty))) cs
  | _, .destroy _ :: cs => localEntry none cs

/-- The calls of thread `t` on the matrix at `dmat`, in order. -/
def callsOn (t : ThreadId) (dmat : Address) (cs : List (ThreadId × Call E)) : List (Call E) :=
  (cs.filter fun c => t = c.1 ∧ dmat = c.2.dmat).map Prod.snd

@[simp] theorem set_apply (s : ThreadLocalStore E) (t t' : ThreadId) (d d' : Address) (e : Option E) :
    s.set t d e t' d' = if t' = t ∧ d' = d then e else s t' d' := by
  unfold ThreadLocalStore.set
  by_cases ht : t' = t
  · subst ht
    by_cases hd : d' = d
    · subst hd
      simp
    · simp [hd]
  · simp [ht]

/-- One call changes at most the entry of its own thread for its own matrix, and that one
as `localEntry` says. -/
theorem step_entry (t t' : ThreadId) (d : Address) (c : Call E) (s : ThreadLocalStore E) :
    (c.step empty t s).2 t' d = if t' = t ∧ d = c.dmat then localEntry empty (s t d) [c] else s t' d := by
  cases c with
  | getThreadLocal dmat fill =>
    simp only [Call.step, set_apply, Call.dmat, localEntry]
    split_ifs with h
    · obtain ⟨rfl, rfl⟩ := h
      rfl
    · rfl
  | destroy dmat =>
    simp only [Call.step, Call.dmat, localEntry]
    split_ifs with hs h h
    · rw [set_apply, if_pos h]
    · rw [set_apply, if_neg h]
    · obtain ⟨rfl, rfl⟩ := h
      exact Option.not_isSome_iff_eq_none.mp hs
    · rfl

theorem callsOn_cons (t t' : ThreadId) (d : Address) (c : Call E) (cs : List (ThreadId × Call E)) :
    callsOn t d ((t', c) :: cs) = if t = t' ∧ d = c.dmat then c :: callsOn t d cs else callsOn t d cs := by
  unfold callsOn
  split_ifs with h <;> simp [List.filter_cons, h]

theorem localEntry_cons (e : Option E) (c : Call E) (cs : List (Call E)) :
    localEntry empty e (c :: cs) = localEntry empty (localEntry empty e [c]) cs := by
  cases c <;> rfl

/-- The entry of thread `t` for `d` after a run: what the calls of `t` on `d` make of the
entry it started with. -/
theorem run_entry (cs : List (ThreadId × Call E)) (t : ThreadId) (d : Address) :
    ∀ s : ThreadLocalStore E, (run empty cs s).2 t d = localEntry empty (s t d) (callsOn t d cs) := by
  induction cs with
  | nil => intro s; rfl
  | cons c cs ih =>
    intro s
    obtain ⟨t', c⟩ := c
    have hrun : (run empty ((t', c) :: cs) s).2 = (run empty cs (c.step empty t' s).2).2 := rfl
    rw [hrun, ih, step_entry, callsOn_cons]
    split_ifs with h
    · obtain ⟨rfl, -⟩ := h
      exact (localEntry_cons empty _ c _).symm
    · rfl

/-- A run with one more call: the call made on the store the run left. -/
theorem run_append_call (cs : List (ThreadId × Call E)) (t : ThreadId) (c : Call E) (s : ThreadLocalStore E) :
    run empty (cs ++ [(t, c)]) s =
      ((run empty cs s).1 ++ [(c.step empty t (run empty cs s).2).1], (c.step empty t (run empty cs s).2).2) := by
  induction cs generalizing s with
  | nil => rfl
  | cons c' cs ih =>
    obtain ⟨t', c'⟩ := c'
    show ((c'.step empty t' s).1 :: (run empty (cs ++ [(t, c)]) (c'.step empty t' s).2).1,
      (run empty (cs ++ [(t, c)]) (c'.step empty t' s).2).2) = _
    rw [ih]
    rfl

/-- Any interleaving of `GetThreadLocal()` and `~DMatrix()` calls.  The entry of thread `t`
for the matrix at `d` is what the calls of `t` on `d` make of the entry `t` started with,
and a `GetThreadLocal()` answers that entry (or a value-initialised one) as its caller
fills it: the calls of other threads, and the calls on other matrices, never touch it.
So a `~DMatrix()` on one thread removes no other thread's entry, and a `GetThreadLocal()`
on a matrix later created at the same address starts from that entry. -/
theorem run_isolated (cs : List (ThreadId × Call E)) (s : ThreadLocalStore E) :
    (∀ t d, (run empty cs s).2 t d = localEntry empty (s t d) (callsOn t d cs)) ∧
    ∀ t dmat fill, (run empty (cs ++ [(t, .getThreadLocal dmat fill)]) s).1.getLast? =
      some (some (fill ((localEntry empty (s t dmat) (callsOn t dmat cs)).getD empty))) :=
  ⟨fun t d => run_entry empty cs t d s, fun t dmat fill => by
    rw [run_append_call, List.getLast?_append, List.getLast?_singleton, Option.or_some, Call.step, run_entry]⟩

/- Thread 1 fills its entry for the matrix at address 7; thread 0 destroys that matrix; a
new matrix at address 7 then hands thread 1 the old entry, not a value-initialised one. -/
example : (run 0 [(1, .getThreadLocal 7 fun _ => 5), (0, .destroy 7), (1, .getThreadLocal 7 id)]
    fun _ _ => none).1 = [some 5, none, some 5] := rfl

end DMatrix

end XGBoostData
