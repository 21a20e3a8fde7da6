import XGBoostData.Data.Adapter

/-!
# `int` conversions and the static schedule of `common::ParallelFor`

WHAT THIS FILE IS FOR.  Several page operations take their counts as C++ `int` and run
their rows through `common::ParallelFor`.  Both are written out here once.

MACHINE INTEGERS.  An `int` is an `Int`.  Its conversion to `std::size_t` is taken modulo
`2^64` (`intToSize`), a `std::size_t` converted to `int` keeps the low 32 bits in two's
complement (`sizeToInt`), and `int` addition wraps at 32 bits (`intAdd`), which is what the
compiled code does where the C++ standard leaves signed overflow undefined.

THE SCHEDULE.  `common::ParallelFor` (`common/threading_utils.h`) is not in the excerpt.
Its static schedule is a parameter: any split of the iterations into one contiguous block
per thread, in thread order.  `StaticSchedule.even` is the split of spec §5.
-/

set_option autoImplicit false

namespace XGBoostData

/-! ## `int` arithmetic -/

/-- An `int` converted to `std::size_t`: its value modulo `2^64`. -/
def intToSize (x : Int) : Nat := (x % 2 ^ 64).toNat

/-- A `std::size_t` converted to `int`: the low 32 bits, read in two's complement. -/
def sizeToInt (n : Nat) : Int := Int.bmod n (2 ^ 32)

/-- `int` addition as the compiled code performs it: in two's complement, wrapping at
32 bits (the overflow itself is undefined behaviour in C++). -/
def intAdd (x y : Int) : Int := Int.bmod (x + y) (2 ^ 32)

theorem intToSize_of_nonneg {x : Int} (h0 : 0 ≤ x) (h : x < 2 ^ 64) : intToSize x = x.toNat := by
  rw [intToSize, Int.emod_eq_of_lt h0 h]

theorem bmod_of_lt {x : Int} (h0 : -2 ^ 31 ≤ x) (h : x < 2 ^ 31) : Int.bmod x (2 ^ 32) = x := by
  rw [Int.bmod_def]
  split <;> omega

theorem intAdd_one {x : Int} (h0 : 0 ≤ x) (h : x < 2 ^ 31 - 1) : intToSize (intAdd x 1) = x.toNat + 1 := by
  rw [intAdd, bmod_of_lt (by omega) (by omega), intToSize_of_nonneg (by omega) (by omega)]
  omega

theorem sizeToInt_of_lt {n : Nat} (h : n < 2 ^ 31) : sizeToInt n = n := by
  rw [sizeToInt, bmod_of_lt (by omega) (by omega)]

/-! ## The static schedule of `ParallelFor` -/

/-- Modelled from the spec: the static schedule of `common::ParallelFor`
(`common/threading_utils.h` is not in the excerpt, spec §5): `n` iterations over `t`
threads as `t` contiguous blocks, thread `i` running the `i`-th. -/
structure StaticSchedule where
  blocks : Nat → Nat → List Nat
  length_blocks : ∀ n t, (blocks n t).length = t
  sum_blocks : ∀ n t, 0 < t → (blocks n t).sum = n

namespace StaticSchedule

variable (sched : StaticSchedule)

/-- The iterations thread `tid` runs. -/
def iterations (n t tid : Nat) : List Nat :=
  List.range' ((sched.blocks n t).take tid).sum ((sched.blocks n t).getD tid 0)

theorem flatMap_range'_blocks (bs : List Nat) :
    ∀ k ≤ bs.length, (List.range k).flatMap (fun i => List.range' (bs.take i).sum (bs.getD i 0)) =
      List.range' 0 (bs.take k).sum
  | 0, _ => rfl
  | k + 1, hk => by
    rw [List.range_succ, List.flatMap_append, flatMap_range'_blocks bs k (by omega), List.flatMap_singleton,
      range'_zero_append, List.take_succ, List.sum_append, List.getElem?_eq_getElem (by omega)]
    simp [List.getD_eq_getElem?_getD, List.getElem?_eq_getElem (show k < bs.length by omega)]

/-- The threads' blocks, in thread order, are the iterations in order. -/
theorem flatMap_iterations (n : Nat) {t : Nat} (ht : 0 < t) : (List.range t).flatMap (sched.iterations n t) = List.range n := by
  have := flatMap_range'_blocks (sched.blocks n t) t (by rw [sched.length_blocks])
  rw [List.take_of_length_le (by rw [sched.length_blocks]), sched.sum_blocks n t ht] at this
  conv_rhs => rw [List.range_eq_range', ← this]
  rfl

/-- The split of spec §5: `n / t` iterations each, the remainder to the last thread. -/
def even : StaticSchedule where
  blocks n t := (List.range t).map fun tid => (threadLines n t tid).length
  length_blocks n t := by simp
  sum_blocks n t ht := by
    have := congrArg List.length (flatMap_threadLines n ht)
    rw [List.flatMap_def, List.length_flatten, List.map_map, List.length_range] at this
    exact this

end StaticSchedule

end XGBoostData
