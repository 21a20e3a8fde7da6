import XGBoostData.Data.Entry

/-!
# Sparse page: the CSR container and its row view (spec §3, §4.4)

WHAT THIS FILE IS FOR.  A `SparsePage` is two parallel host vectors, `offset` and
`data`, and a base row id.  Every operation of `data.cc` reads and writes those
vectors by position, and that is how they are written here.  What the operations
are *for* is stated over a second, abstract view: the list of rows.  The bridge
between the two is one pair of facts, proved once in this file:

    (ofRows rs b).Valid              (ofRows rs b).rows = rs
    p.Valid → ofRows p.rows p.baseRowid = p

so a page satisfies the CSR invariant exactly when it is the page of its rows.
Each operation then gets one spec lemma of the form `op p = ofRows (f p.rows) _`
on valid pages, and every invariant and every property of the operation is read off
that lemma.

`SparsePage` is declared in `include/xgboost/data.h`, which is not in the excerpt;
its fields, `Size()` and `operator[]` are modelled from spec §3.
-/

set_option autoImplicit false

namespace XGBoostData

/-! ## Offsets and slices -/

section Slices

variable {α : Type}

/-- The slices `d[o₀, o₁), d[o₁, o₂), …` that a list of offsets cuts out of `d`. -/
def slices (d : List α) : List Nat → List (List α)
  | a :: b :: rest => (d.drop a).take (b - a) :: slices d (b :: rest)
  | _ => []

/-- Running offsets of a list of groups from `s`: `s, s + |g₀|, s + |g₀| + |g₁|, …`. -/
def offsetsFrom (s : Nat) : List (List α) → List Nat
  | [] => [s]
  | g :: gs => s :: offsetsFrom (s + g.length) gs

@[simp] theorem slices_nil (d : List α) : slices d [] = [] := rfl

@[simp] theorem slices_singleton (d : List α) (a : Nat) : slices d [a] = [] := rfl

@[simp] theorem slices_cons_cons (d : List α) (a b : Nat) (rest : List Nat) :
    slices d (a :: b :: rest) = (d.drop a).take (b - a) :: slices d (b :: rest) := rfl

@[simp] theorem offsetsFrom_nil (s : Nat) : offsetsFrom s ([] : List (List α)) = [s] := rfl

@[simp] theorem offsetsFrom_cons (s : Nat) (g : List α) (gs : List (List α)) :
    offsetsFrom s (g :: gs) = s :: offsetsFrom (s + g.length) gs := rfl

theorem offsetsFrom_eq_cons (s : Nat) (gs : List (List α)) :
    offsetsFrom s gs = s :: (offsetsFrom s gs).tail := by
  cases gs <;> rfl

@[simp] theorem length_offsetsFrom (s : Nat) (gs : List (List α)) :
    (offsetsFrom s gs).length = gs.length + 1 := by
  induction gs generalizing s <;> simp_all

@[simp] theorem getLast?_offsetsFrom (s : Nat) (gs : List (List α)) :
    (offsetsFrom s gs).getLast? = some (s + gs.flatten.length) := by
  induction gs generalizing s with
  | nil => rfl
  | cons g gs ih =>
    rw [offsetsFrom_cons, offsetsFrom_eq_cons, List.getLast?_cons_cons, ← offsetsFrom_eq_cons, ih]
    simp [Nat.add_assoc]

theorem chain_offsetsFrom (s : Nat) (gs : List (List α)) :
    (offsetsFrom s gs).Chain' (· ≤ ·) := by
  induction gs generalizing s with
  | nil => simp
  | cons g gs ih =>
    rw [offsetsFrom_cons, offsetsFrom_eq_cons]
    exact List.Chain'.cons (Nat.le_add_right _ _) (offsetsFrom_eq_cons _ gs ▸ ih _)

/-- Shifting running offsets is starting them later. -/
theorem map_offsetsFrom (t s : Nat) (gs : List (List α)) :
    (offsetsFrom s gs).map (t + ·) = offsetsFrom (t + s) gs := by
  induction gs generalizing s with
  | nil => rfl
  | cons g gs ih => simp [ih, Nat.add_assoc]

theorem offsetsFrom_append (s : Nat) (gs hs : List (List α)) :
    offsetsFrom s (gs ++ hs) = offsetsFrom s gs ++ (offsetsFrom (s + gs.flatten.length) hs).tail := by
  induction gs generalizing s with
  | nil => simpa using offsetsFrom_eq_cons s hs
  | cons g gs ih => simp [ih, Nat.add_assoc]

/-- Cutting the concatenation of groups at the groups' own offsets gives them back. -/
theorem slices_offsetsFrom (gs : List (List α)) :
    ∀ pre post : List α, slices (pre ++ gs.flatten ++ post) (offsetsFrom pre.length gs) = gs := by
  induction gs with
  | nil => intro pre post; rfl
  | cons g gs ih =>
    intro pre post
    have h := ih (pre ++ g) post
    rw [offsetsFrom_cons, offsetsFrom_eq_cons, slices_cons_cons, ← offsetsFrom_eq_cons]
    simp only [List.length_append, List.flatten_cons, List.append_assoc] at h ⊢
    simp [h]

/-- The head of a non-decreasing list is below its last element. -/
theorem head_le_getLast? {a : Nat} {os : List Nat} (h : (a :: os).Chain' (· ≤ ·)) :
    a ≤ (a :: os).getLast?.getD 0 := by
  induction os generalizing a with
  | nil => exact Nat.le_refl a
  | cons b os ih =>
    rw [List.chain'_cons] at h
    rw [List.getLast?_cons_cons]
    exact Nat.le_trans h.1 (ih h.2)

/-- Non-decreasing offsets that stay inside `d` are the running offsets of their own
slices, and the slices tile `d` between the first and the last offset. -/
theorem offsetsFrom_slices (d : List α) {a : Nat} {os : List Nat}
    (h : (a :: os).Chain' (· ≤ ·)) (hle : (a :: os).getLast?.getD 0 ≤ d.length) :
    offsetsFrom a (slices d (a :: os)) = a :: os ∧
      (slices d (a :: os)).flatten = (d.drop a).take ((a :: os).getLast?.getD 0 - a) := by
  induction os generalizing a with
  | nil => simp
  | cons b os ih =>
    rw [List.chain'_cons] at h
    rw [List.getLast?_cons_cons] at hle ⊢
    obtain ⟨hoffs, hflat⟩ := ih h.2 hle
    have hb := head_le_getLast? h.2
    have hlen : ((d.drop a).take (b - a)).length = b - a := by simp; omega
    refine ⟨?_, ?_⟩
    · rw [slices_cons_cons, offsetsFrom_cons, hlen, Nat.add_sub_cancel' h.1, hoffs]
    · rw [slices_cons_cons, List.flatten_cons, hflat,
        show (b :: os).getLast?.getD 0 - a = (b - a) + ((b :: os).getLast?.getD 0 - b) by omega,
        List.take_add, List.drop_drop, Nat.add_sub_cancel' h.1]

/-- Running offsets read back at position `k`: the length of the first `k` groups. -/
theorem getElem?_offsetsFrom (s : Nat) (gs : List (List α)) {k : Nat} (hk : k ≤ gs.length) :
    (offsetsFrom s gs)[k]? = some (s + (gs.take k).flatten.length) := by
  induction gs generalizing s k with
  | nil => obtain rfl : k = 0 := by simpa using hk
           rfl
  | cons g gs ih =>
    cases k with
    | zero => simp
    | succ k => simp [ih _ (by simpa using hk), Nat.add_assoc]

/-- Group `k` sits in the concatenation right after the first `k` groups. -/
theorem take_drop_flatten (gs : List (List α)) {k : Nat} (hk : k < gs.length) :
    (gs.flatten.drop (gs.take k).flatten.length).take gs[k].length = gs[k] := by
  have hgs : gs.flatten = (gs.take k).flatten ++ (gs[k] ++ (gs.drop (k + 1)).flatten) := by
    rw [← List.flatten_cons, ← List.drop_eq_getElem_cons hk, ← List.flatten_append, List.take_append_drop]
  simp [hgs]

theorem take_succ_flatten (gs : List (List α)) {k : Nat} (hk : k < gs.length) :
    (gs.take (k + 1)).flatten = (gs.take k).flatten ++ gs[k] := by
  rw [← List.take_concat_get gs k hk, List.concat_eq_append, List.flatten_append, List.flatten_singleton]

/-- Reading a list back at every position gives the list. -/
theorem map_getD_range (l : List α) (d : α) : (List.range l.length).map (l.getD · d) = l := by
  induction l with
  | nil => rfl
  | cons a l ih =>
    rw [List.length_cons, List.range_succ_eq_map, List.map_cons, List.map_map]
    exact congrArg (a :: ·) ih

end Slices

/-! ## Resizing and copying -/

section Vector

variable {α : Type} [Inhabited α]

/-- `std::vector::resize(n)`: truncate, or pad with value-initialised elements. -/
def resize (l : List α) (n : Nat) : List α := l.take n ++ List.replicate (n - l.length) default

/-- `std::memcpy(dst + pos, src, …)`: overwrite `dst` from `pos` on with `src`. -/
def copyInto (dst : List α) (pos : Nat) (src : List α) : List α :=
  dst.take pos ++ src ++ dst.drop (pos + src.length)

@[simp] theorem resize_length_self (l : List α) : resize l l.length = l := by
  simp [resize]

@[simp] theorem length_resize (l : List α) (n : Nat) : (resize l n).length = n := by
  simp only [resize, List.length_append, List.length_take, List.length_replicate]; omega

/-- Copying into the padding behind a prefix. -/
theorem copyInto_append_replicate (l src : List α) (m : Nat) :
    copyInto (l ++ List.replicate m default) l.length src = l ++ src ++ List.replicate (m - src.length) default := by
  simp [copyInto, List.drop_append_eq_append_drop]

omit [Inhabited α] in
@[simp] theorem copyInto_nil (dst : List α) (pos : Nat) : copyInto dst pos [] = dst := by
  simp [copyInto]

end Vector

/-! ## The page -/

/-- Modelled from the spec: `xgboost::SparsePage` (`include/xgboost/data.h` is not in
the excerpt).  `offset` holds the row starts into `data`; `baseRowid` is the global
row number of local row 0 (a `bst_idx_t`, 64 bits). -/
structure SparsePage where
  offset : List Nat
  data : List Entry
  baseRowid : UInt64
  deriving DecidableEq, Repr

namespace SparsePage

/-- `SparsePage()`: `offset = {0}`, no entries, base row 0. -/
def empty : SparsePage := ⟨[0], [], 0⟩

/-- `Size()`: the number of rows, `offset.Size() - 1`, and 0 for an empty offset vector. -/
def size (p : SparsePage) : Nat := p.offset.length - 1

/-- `offset.back()`. -/
def back (p : SparsePage) : Nat := p.offset.getLast?.getD 0

/-- `page[i]`: row `i`, the slice `data[offset[i], offset[i+1])`. -/
def inst (p : SparsePage) (i : Nat) : List Entry :=
  (p.data.drop (p.offset.getD i 0)).take (p.offset.getD (i + 1) 0 - p.offset.getD i 0)

/-- The rows of the page, in order. -/
def rows (p : SparsePage) : List (List Entry) := slices p.data p.offset

/-- The page whose rows are `rs`. -/
def ofRows (rs : List (List Entry)) (base : UInt64) : SparsePage :=
  ⟨offsetsFrom 0 rs, rs.flatten, base⟩

/-- The CSR invariant (spec §3): `offset` starts with `0` (so it is not empty), never
decreases, and ends at `data.size()`. -/
structure Valid (p : SparsePage) : Prop where
  head_eq_zero : p.offset.head? = some 0
  chain : p.offset.Chain' (· ≤ ·)
  data_length : p.data.length = p.back

instance (p : SparsePage) : Decidable p.Valid :=
  decidable_of_iff (p.offset.head? = some 0 ∧ p.offset.Pairwise (· ≤ ·) ∧ p.data.length = p.back)
    ⟨fun ⟨h₁, h₂, h₃⟩ => ⟨h₁, List.chain'_iff_pairwise.mpr h₂, h₃⟩,
      fun ⟨h₁, h₂, h₃⟩ => ⟨h₁, List.chain'_iff_pairwise.mp h₂, h₃⟩⟩

@[simp] theorem ofRows_offset (rs : List (List Entry)) (b : UInt64) :
    (ofRows rs b).offset = offsetsFrom 0 rs := rfl

@[simp] theorem ofRows_data (rs : List (List Entry)) (b : UInt64) :
    (ofRows rs b).data = rs.flatten := rfl

@[simp] theorem ofRows_baseRowid (rs : List (List Entry)) (b : UInt64) :
    (ofRows rs b).baseRowid = b := rfl

@[simp] theorem size_ofRows (rs : List (List Entry)) (b : UInt64) :
    (ofRows rs b).size = rs.length := by
  simp [size]

@[simp] theorem back_ofRows (rs : List (List Entry)) (b : UInt64) :
    (ofRows rs b).back = rs.flatten.length := by
  simp [back]

theorem valid_ofRows (rs : List (List Entry)) (b : UInt64) : (ofRows rs b).Valid where
  head_eq_zero := by rw [ofRows_offset, offsetsFrom_eq_cons]; rfl
  chain := chain_offsetsFrom 0 rs
  data_length := by simp

@[simp] theorem rows_ofRows (rs : List (List Entry)) (b : UInt64) : (ofRows rs b).rows = rs := by
  simpa using slices_offsetsFrom rs [] []

/-- A valid page is the page of its rows: the faithful layout refines the row view. -/
theorem ofRows_rows {p : SparsePage} (hp : p.Valid) : ofRows p.rows p.baseRowid = p := by
  obtain ⟨offset, data, base⟩ := p
  obtain ⟨hhead, hchain, hlen⟩ := hp
  cases offset with
  | nil => simp at hhead
  | cons a os =>
    simp only [List.head?_cons, Option.some.injEq] at hhead
    subst hhead
    simp only [back] at hlen
    obtain ⟨hoffs, hflat⟩ := offsetsFrom_slices data hchain hlen.ge
    simp [ofRows, rows, hoffs, hflat, ← hlen]

/-- The rows of a valid page, put under another base row. -/
theorem ofRows_rows_base {p : SparsePage} (hp : p.Valid) (b : UInt64) :
    ofRows p.rows b = { p with baseRowid := b } := by
  conv_rhs => rw [← ofRows_rows hp]
  rfl

/-- `page[i]` of the page of `rs` is row `i`, and empty past the last row. -/
theorem inst_ofRows (rs : List (List Entry)) (b : UInt64) (i : Nat) : (ofRows rs b).inst i = rs.getD i [] := by
  simp only [inst, ofRows_offset, ofRows_data, List.getD_eq_getElem?_getD]
  by_cases hi : i < rs.length
  · rw [getElem?_offsetsFrom 0 rs hi.le, getElem?_offsetsFrom 0 rs hi, take_succ_flatten rs hi,
      List.getElem?_eq_getElem hi]
    simpa using take_drop_flatten rs hi
  · have h1 : (offsetsFrom 0 rs)[i + 1]? = none := List.getElem?_eq_none (by simp; omega)
    rw [h1, List.getElem?_eq_none (show rs.length ≤ i by omega)]
    simp

theorem Valid.inst_eq {p : SparsePage} (hp : p.Valid) (i : Nat) : p.inst i = p.rows.getD i [] := by
  conv_lhs => rw [← ofRows_rows hp]
  exact inst_ofRows _ _ _

theorem Valid.length_rows {p : SparsePage} (hp : p.Valid) : p.rows.length = p.size := by
  conv_rhs => rw [← ofRows_rows hp]
  exact (size_ofRows _ _).symm

theorem Valid.data_eq {p : SparsePage} (hp : p.Valid) : p.data = p.rows.flatten := by
  conv_lhs => rw [← ofRows_rows hp]
  rfl

theorem Valid.offset_eq {p : SparsePage} (hp : p.Valid) : p.offset = offsetsFrom 0 p.rows := by
  conv_lhs => rw [← ofRows_rows hp]
  rfl

theorem Valid.offset_ne_nil {p : SparsePage} (hp : p.Valid) : p.offset ≠ [] := by
  intro h
  simpa [h] using hp.head_eq_zero

end SparsePage

end XGBoostData
