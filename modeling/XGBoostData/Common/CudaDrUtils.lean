import XGBoostData.Data.MetaInfo

/-!
# The driver queries of `cuda_dr_utils.cc`: `nvidia-smi` output and the entry-point table

WHAT THIS FILE IS FOR.  `GetVersionFromSmi` reads the kernel driver's version off the
CSV that `nvidia-smi --query-gpu=driver_version --format=csv` prints, and
`GetC2cLinkCountFromSmiImpl` counts the C2C links in what `nvidia-smi c2c -s -i 0`
prints.  Both parse text that another program writes.  This file says what they answer:
the version of the first GPU for every CSV of that form (`getVersionFromSmi_csv`), and,
for the link count, the number of line breaks inside the trimmed output, blank lines
included (`getC2cLinkCountFromSmiImpl_eq`).  `GetGlobalCuDriverApi` builds the table of
driver entry points under a `std::call_once` and loads `cuMemBatchDecompressAsync` only
for a CUDA 12.8 driver whose `nvidia-smi` major version is at least 570; the constructor
throws when an entry point does not load, and the next call then builds the table again.
`runDriverCalls_eq` says what every call of a run answers.

OUTSIDE THE EXCERPT.  `common::Split`, `common::TrimFirst` and `common::TrimLast` are in
`common.h`: `Split` runs `std::getline(is, item, delim)` over an `std::istringstream`
until it fails, and the trims drop the characters `std::isspace` accepts.
`common::CmdOutput` (`io.h`) runs a command and returns what it printed, and
`curt::GetDrVersionGlobal` (`cuda_rt_utils.h`) reports the CUDA driver version: both are
arguments here.  `std::from_chars` is as the C++ standard specifies it.
`cudaGetDriverEntryPoint` is represented by the entry points the driver resolves, and a
`CuDriverApi` by whether it holds `cuMemBatchDecompressAsync`.
-/

set_option autoImplicit false

namespace XGBoostData

namespace Cudr

/-! ## The string helpers of `common.h` -/

/-- `'\n'`. -/
def newline : UInt8 := 10

/-- `'.'`. -/
def dot : UInt8 := 46

/-- `std::isspace` in the `"C"` locale: space, `\t`, `\n`, `\v`, `\f` and `\r`. -/
def isSpace (c : UInt8) : Bool := c.toNat == 32 || (9 ≤ c.toNat && c.toNat ≤ 13)

/-- `common::TrimFirst(str)`: `str` from its first character that is not a space. -/
def trimFirst (s : Bytes) : Bytes := s.dropWhile isSpace

/-- `common::TrimLast(str)`: `str` up to its last character that is not a space. -/
def trimLast (s : Bytes) : Bytes := (s.reverse.dropWhile isSpace).reverse

/-- `common::Split(s, delim)`: the items `std::getline(is, item, delim)` reads until it
fails.  Every delimiter ends an item; what follows the last delimiter is an item unless
it is empty, since `getline` fails when it reaches the end having read nothing. -/
def split (s : Bytes) (delim : UInt8) : List Bytes :=
  if (s.splitOn delim).getLast? = some [] then (s.splitOn delim).dropLast else s.splitOn delim

/-- A decimal digit, `'0'` to `'9'`. -/
def isDigit (c : UInt8) : Bool := 48 ≤ c.toNat && c.toNat ≤ 57

/-- The value of a run of decimal digits, the most significant first. -/
def digitsValue (ds : Bytes) : Nat := ds.foldl (fun n c => 10 * n + (c.toNat - 48)) 0

/-- `std::from_chars(first, last, value)` into a `std::int32_t` in base 10, when it
succeeds: an optional `-`, then the longest run of digits, whose value with its sign
must lie in `int32_t`.  No digit (`errc::invalid_argument`) and a value outside the type
(`errc::result_out_of_range`) are `none`.  What follows the digits is not read. -/
def fromChars (s : Bytes) : Option Int :=
  let negative := s.head? = some 45
  let digits := (if negative then s.tail else s).takeWhile isDigit
  let value : Int := if negative then -(digitsValue digits : Int) else digitsValue digits
  if digits = [] then none
  else if -2 ^ 31 ≤ value ∧ value < 2 ^ 31 then some value
  else none

theorem ne_of_isDigit {c d : UInt8} (h : isDigit c = true) (hd : isDigit d = false) : c ≠ d := by
  rintro rfl
  rw [h] at hd
  cases hd

theorem isDigit_dot : isDigit dot = false := rfl

theorem isSpace_of_isDigit {c : UInt8} (h : isDigit c = true) : isSpace c = false := by
  simp only [isDigit, Bool.and_eq_true, decide_eq_true_eq] at h
  simp only [isSpace, Bool.or_eq_false_iff, beq_eq_false_iff_ne, ne_eq, Bool.and_eq_false_iff,
    decide_eq_false_iff_not]
  omega

theorem isDigit_newline : isDigit newline = false := rfl

theorem split_nil (d : UInt8) : split [] d = [] := rfl

/-- A piece free of the delimiter is one item. -/
theorem split_of_not_mem {l : Bytes} {d : UInt8} (hd : d ∉ l) (hne : l ≠ []) : split l d = [l] := by
  have hs : l.splitOn d = [l] := List.splitOnP_eq_single (· == d) l fun x hx hxd => hd (eq_of_beq hxd ▸ hx)
  simp only [split, hs, List.getLast?_singleton, Option.some.injEq, hne, if_false]

/-- The text before the first delimiter is the first item. -/
theorem split_append_cons {h : Bytes} {d : UInt8} (hd : d ∉ h) (t : Bytes) :
    split (h ++ d :: t) d = h :: split t d := by
  have hs : (h ++ d :: t).splitOn d = h :: t.splitOn d :=
    List.splitOnP_first (· == d) h (fun x hx hxd => hd (eq_of_beq hxd ▸ hx)) d (beq_self_eq_true d) t
  obtain ⟨p, ps, hp⟩ := List.exists_cons_of_ne_nil (List.splitOnP_ne_nil (· == d) t)
  have hp' : t.splitOn d = p :: ps := hp
  simp only [split, hs, hp', List.getLast?_cons_cons, List.dropLast_cons₂]
  split <;> rfl

/-- `TrimFirst` drops exactly the leading blanks. -/
theorem trimFirst_append {ws l : Bytes} (hws : ∀ c ∈ ws, isSpace c = true)
    (hl : ∀ c ∈ l.head?, isSpace c = false) : trimFirst (ws ++ l) = l := by
  rw [trimFirst, List.dropWhile_append_of_pos hws]
  cases l with
  | nil => rfl
  | cons c l => exact List.dropWhile_cons_of_neg (by simp [hl c rfl])

/-- `from_chars` reads a run of digits that fits in `int32_t`, whatever follows it that
is not a digit. -/
theorem fromChars_digits {ds g : Bytes} (hds : ds ≠ [] ∧ ∀ c ∈ ds, isDigit c = true)
    (hfit : digitsValue ds < 2 ^ 31) (hg : ∀ c ∈ g.head?, isDigit c = false) :
    fromChars (ds ++ g) = some (digitsValue ds : Int) := by
  obtain ⟨c, cs, rfl⟩ := List.exists_cons_of_ne_nil hds.1
  have hc : c ≠ 45 := ne_of_isDigit (hds.2 c (List.mem_cons_self _ _)) rfl
  have htake : (c :: cs ++ g).takeWhile isDigit = c :: cs := by
    rw [List.takeWhile_append_of_pos hds.2]
    cases g with
    | nil => simp
    | cons x g => simp [List.takeWhile_cons_of_neg, hg x rfl]
  have hneg : ¬((c :: cs ++ g).head? = some 45) := by simpa using hc
  have hrange : -2 ^ 31 ≤ (digitsValue (c :: cs) : Int) ∧ (digitsValue (c :: cs) : Int) < 2 ^ 31 :=
    ⟨le_trans (by norm_num) (Int.natCast_nonneg _), by exact_mod_cast hfit⟩
  simp only [fromChars, if_neg hneg, htake, List.cons_ne_nil, if_false, if_pos hrange]

/-! ## `GetVersionFromSmi` -/

/-- What `GetVersionFromSmi` leaves in `*p_major` and `*p_minor`, and what it returns. -/
structure SmiVersion where
  major : Int
  minor : Int
  valid : Bool
  deriving DecidableEq, Repr

/-- `Invalid()`: both versions `-1`, and `false`. -/
def SmiVersion.invalid : SmiVersion := ⟨-1, -1, false⟩

/-- `GetVersionFromSmi(p_major, p_minor)`, given what `nvidia-smi --query-gpu=driver_version
--format=csv` printed: the major and minor version of the first GPU's driver, read from
the second line, or `Invalid()`. -/
def getVersionFromSmi (smiOutStr : Bytes) : SmiVersion :=
  if smiOutStr = [] then .invalid
  else
    let smiSplit := split smiOutStr newline
    if smiSplit.length < 2 then .invalid
    else
      let smiVer := split (trimFirst (smiSplit.getD 1 [])) dot
      if smiVer.length ≠ 2 ∧ smiVer.length ≠ 3 then .invalid
      else
        match fromChars (smiVer.getD 0 []), fromChars (smiVer.getD 1 []) with
        | some major, some minor => ⟨major, minor, true⟩
        | _, _ => .invalid

/-- The first GPU's line of the version CSV: blanks, then the major and the minor version
as runs of digits that fit in `int32_t` joined by a `.`, then either a third
`.`-component (`570.124.06`) or text that does not go on with digits: nothing, as in
the two-component versions of WSL2 (`573.24`), or a `\r` before the line break. -/
structure VersionLine where
  blanks : Bytes
  major : Bytes
  minor : Bytes
  rest : Bytes
  blanks_space : ∀ c ∈ blanks, isSpace c = true ∧ c ≠ newline
  major_digits : major ≠ [] ∧ ∀ c ∈ major, isDigit c = true
  minor_digits : minor ≠ [] ∧ ∀ c ∈ minor, isDigit c = true
  major_fits : digitsValue major < 2 ^ 31
  minor_fits : digitsValue minor < 2 ^ 31
  rest_line : newline ∉ rest
  rest_form : (∃ patch, rest = dot :: patch ∧ dot ∉ patch) ∨ (dot ∉ rest ∧ ∀ c ∈ rest.head?, isDigit c = false)

namespace VersionLine

/-- The bytes of the line. -/
def bytes (v : VersionLine) : Bytes := v.blanks ++ (v.major ++ dot :: (v.minor ++ v.rest))

theorem not_mem_digits {ds : Bytes} (h : ∀ c ∈ ds, isDigit c = true) {d : UInt8} (hd : isDigit d = false) :
    d ∉ ds := fun hm => ne_of_isDigit (h d hm) hd rfl

theorem newline_not_mem (v : VersionLine) : newline ∉ v.bytes := by
  simp only [bytes, List.mem_append, List.mem_cons, not_or]
  exact ⟨fun h => (v.blanks_space _ h).2 rfl, not_mem_digits v.major_digits.2 isDigit_newline, by decide,
    not_mem_digits v.minor_digits.2 isDigit_newline, v.rest_line⟩

theorem bytes_ne_nil (v : VersionLine) : v.bytes ≠ [] := by
  simp [bytes]

/-- After `TrimFirst` the line starts with the major version. -/
theorem trimFirst_bytes (v : VersionLine) : trimFirst v.bytes = v.major ++ dot :: (v.minor ++ v.rest) := by
  obtain ⟨c, cs, hc⟩ := List.exists_cons_of_ne_nil v.major_digits.1
  rw [bytes]
  refine trimFirst_append (fun c hc => (v.blanks_space c hc).1) fun x hx => ?_
  simp only [hc, List.cons_append, List.head?_cons, Option.mem_def, Option.some.injEq] at hx
  subst hx
  exact isSpace_of_isDigit (v.major_digits.2 _ (hc ▸ List.mem_cons_self _ _))

/-- Split at the dots, the trimmed line has two or three components: the major version,
then a component `from_chars` reads as the minor version. -/
theorem split_trimFirst (v : VersionLine) : ∃ m tl, split (trimFirst v.bytes) dot = v.major :: m :: tl ∧
    tl.length ≤ 1 ∧ fromChars m = some (digitsValue v.minor : Int) := by
  have hminor : fromChars v.minor = some (digitsValue v.minor : Int) := by
    have := fromChars_digits (g := []) v.minor_digits v.minor_fits fun _ h => nomatch h
    rwa [List.append_nil] at this
  rw [trimFirst_bytes, split_append_cons (not_mem_digits v.major_digits.2 isDigit_dot)]
  rcases v.rest_form with ⟨patch, hrest, hpatch⟩ | ⟨hrest, hhead⟩
  · rw [hrest, split_append_cons (not_mem_digits v.minor_digits.2 isDigit_dot)]
    refine ⟨v.minor, split patch dot, rfl, ?_, hminor⟩
    cases patch with
    | nil => simp [split_nil]
    | cons x p => simp [split_of_not_mem hpatch (List.cons_ne_nil x p)]
  · refine ⟨v.minor ++ v.rest, [], ?_, Nat.zero_le _, fromChars_digits v.minor_digits v.minor_fits hhead⟩
    refine congrArg _ (split_of_not_mem ?_ (by simp [v.minor_digits.1]))
    simp only [List.mem_append, not_or]
    exact ⟨not_mem_digits v.minor_digits.2 isDigit_dot, hrest⟩

end VersionLine

/-- Split at the line breaks, the CSV has the header line, then the first GPU's line. -/
theorem split_csv (header : Bytes) (v : VersionLine) (more : Bytes) (hheader : newline ∉ header)
    (hmore : more = [] ∨ more.head? = some newline) :
    ∃ tl, split (header ++ newline :: (v.bytes ++ more)) newline = header :: v.bytes :: tl := by
  rw [split_append_cons hheader]
  rcases hmore with rfl | hmore
  · exact ⟨[], by rw [List.append_nil, split_of_not_mem v.newline_not_mem v.bytes_ne_nil]⟩
  · obtain ⟨c, more, rfl⟩ := List.exists_cons_of_ne_nil (fun h : more = [] => by simp [h] at hmore)
    simp only [List.head?_cons, Option.some.injEq] at hmore
    subst hmore
    exact ⟨split more newline, by rw [split_append_cons v.newline_not_mem]⟩

/-- On every CSV that `nvidia-smi --query-gpu=driver_version --format=csv` prints, with
any header line and any number of further GPU lines, `GetVersionFromSmi` answers the
major and minor version of the first GPU's line, and succeeds. -/
theorem getVersionFromSmi_csv (header : Bytes) (v : VersionLine) (more : Bytes) (hheader : newline ∉ header)
    (hmore : more = [] ∨ more.head? = some newline) :
    getVersionFromSmi (header ++ newline :: (v.bytes ++ more)) = ⟨digitsValue v.major, digitsValue v.minor, true⟩ := by
  obtain ⟨tl, hsplit⟩ := split_csv header v more hheader hmore
  obtain ⟨m, tl', hver, hlen, hm⟩ := v.split_trimFirst
  have hmajor : fromChars v.major = some (digitsValue v.major : Int) := by
    have := fromChars_digits (g := []) v.major_digits v.major_fits fun _ h => nomatch h
    rwa [List.append_nil] at this
  have hlen' : ¬((tl'.length + 2 ≠ 2) ∧ (tl'.length + 2 ≠ 3)) := by omega
  simp only [getVersionFromSmi, List.append_eq_nil, List.cons_ne_nil, and_false, if_false, hsplit,
    List.length_cons, List.getD_cons_succ, List.getD_cons_zero, hver, hmajor, hm]
  rw [if_neg (by omega), if_neg hlen']

/-- The line `570.124.06` of the example in the source. -/
def VersionLine.v570 : VersionLine where
  blanks := []
  major := ascii "570"
  minor := ascii "124"
  rest := ascii ".06"
  blanks_space := by decide
  major_digits := by decide
  minor_digits := by decide
  major_fits := by decide
  minor_fits := by decide
  rest_line := by decide
  rest_form := Or.inl ⟨ascii "06", rfl, by decide⟩

/-- The two-GPU output of the example in the source reads as version 570.124. -/
theorem getVersionFromSmi_csv_twoGpus :
    newline ∉ ascii "driver_version" ∧ (ascii "\n570.124.06\n" = [] ∨ (ascii "\n570.124.06\n").head? = some newline) ∧
    getVersionFromSmi (ascii "driver_version" ++ newline :: (VersionLine.v570.bytes ++ ascii "\n570.124.06\n")) =
      ⟨570, 124, true⟩ :=
  ⟨by decide, Or.inr rfl, getVersionFromSmi_csv _ VersionLine.v570 _ (by decide) (Or.inr rfl)⟩

/-! ## `GetC2cLinkCountFromSmiImpl` -/

/-- `detail::GetC2cLinkCountFromSmiImpl(smi_output)`: the lines of the trimmed output less
the header, or `-1` when there is at most one line.  `lines.size() - 1` is a `size_t`,
converted to `std::int32_t` on return. -/
def getC2cLinkCountFromSmiImpl (smiOutput : Bytes) : Int :=
  let lines := split (trimLast (trimFirst smiOutput)) newline
  if lines.length ≤ 1 then -1 else Int.bmod (lines.length - 1 : Nat) (2 ^ 32)

/-- `GetC2cLinkCountFromSmi()`: `-1` without a visible GPU, otherwise the count read from
what `nvidia-smi c2c -s -i 0` printed.  `n_devices` is `curt::AllVisibleGPUs()`. -/
def getC2cLinkCountFromSmi (nDevices : Int) (out : Bytes) : Int :=
  if nDevices < 1 then -1 else getC2cLinkCountFromSmiImpl out

/-- `splitOn` gives one piece more than there are delimiters. -/
theorem length_splitOn (l : Bytes) (d : UInt8) : (l.splitOn d).length = l.count d + 1 := by
  induction l with
  | nil => rfl
  | cons x l ih =>
    have hcons : (x :: l).splitOn d = if x == d then [] :: l.splitOn d else (l.splitOn d).modifyHead (List.cons x) :=
      List.splitOnP_cons _ _ _
    rw [hcons, List.count_cons]
    split <;> simp [*]

/-- The last piece of `splitOn` is empty only for an empty text or one that ends with the
delimiter. -/
theorem getLast?_of_splitOn {d : UInt8} : ∀ {l : Bytes}, (l.splitOn d).getLast? = some [] → l = [] ∨ l.getLast? = some d
  | [], _ => Or.inl rfl
  | x :: l, h => by
    have hcons : (x :: l).splitOn d = if x == d then [] :: l.splitOn d else (l.splitOn d).modifyHead (List.cons x) :=
      List.splitOnP_cons _ _ _
    obtain ⟨p, ps, hp⟩ := List.exists_cons_of_ne_nil (List.splitOnP_ne_nil (· == d) l)
    have hp' : l.splitOn d = p :: ps := hp
    rw [hcons, hp'] at h
    right
    split at h
    · next hx =>
      rw [List.getLast?_cons_cons, ← hp'] at h
      rcases getLast?_of_splitOn h with rfl | hl
      · rw [List.getLast?_singleton, beq_iff_eq.mp hx]
      · rw [List.getLast?_cons, hl]
        rfl
    · cases ps with
      | nil => simp at h
      | cons q qs =>
        rw [List.modifyHead_cons, List.getLast?_cons_cons, ← List.getLast?_cons_cons (a := p), ← hp'] at h
        rcases getLast?_of_splitOn h with rfl | hl
        · exact absurd hp' (by simp [List.splitOn, List.splitOnP, List.splitOnP.go])
        · rw [List.getLast?_cons, hl]
          rfl

/-- `Split` keeps every piece `splitOn` gives when the text does not end with the
delimiter. -/
theorem split_eq_splitOn {l : Bytes} {d : UInt8} (hne : l ≠ []) (hlast : l.getLast? ≠ some d) :
    split l d = l.splitOn d :=
  if_neg fun h => (getLast?_of_splitOn h).elim hne hlast

/-- `TrimLast` leaves no blank at the end. -/
theorem getLast?_trimLast (s : Bytes) : ∀ c ∈ (trimLast s).getLast?, isSpace c = false := by
  intro c hc
  rw [trimLast, List.getLast?_reverse, Option.mem_def] at hc
  have := List.head?_dropWhile_not isSpace s.reverse
  rw [hc] at this
  exact this

/-- The C2C link count is the number of line breaks between the first and the last
character of the output that are not blank, every blank line in between counted as a
link, or `-1` when there is none. -/
theorem getC2cLinkCountFromSmiImpl_eq (smiOutput : Bytes) :
    getC2cLinkCountFromSmiImpl smiOutput =
      if (trimLast (trimFirst smiOutput)).count newline = 0 then -1
      else Int.bmod ((trimLast (trimFirst smiOutput)).count newline : Nat) (2 ^ 32) := by
  have hlast := getLast?_trimLast (trimFirst smiOutput)
  unfold getC2cLinkCountFromSmiImpl
  generalize trimLast (trimFirst smiOutput) = t at hlast ⊢
  rcases t.eq_nil_or_concat with rfl | ⟨t', c, rfl⟩
  · rfl
  · have hc : c ≠ newline := fun h => by simp [h] at hlast; exact absurd hlast (by decide)
    have hlen : (split (t'.concat c) newline).length = (t'.concat c).count newline + 1 := by
      rw [split_eq_splitOn (List.concat_ne_nil _ _) (by simpa using hc), length_splitOn]
    simp only [hlen, Nat.add_sub_cancel]
    by_cases hn : (t'.concat c).count newline = 0 <;> simp [hn]

/-! ## The process-wide tables

`GetVersionFromSmiGlobal`, `GetGlobalCuDriverApi` and `GetC2cLinkCountFromSmiGlobal`
each keep their answer in function-local statics filled under a `std::call_once`.  When
the callable throws, `std::call_once` passes the exception on and leaves the flag unset,
so that the next call runs the callable again; of the three, only the `CuDriverApi`
constructor can throw.  The abstract model says what the statics achieve (`onceAnswer`):
the version and the link count are those of the first call of their kind, and a call of
`GetGlobalCuDriverApi` answers the table that the first constructor to return built, or,
while none has, builds its own or raises.  `runDriverCalls_eq` shows that the statics
implement it, over every sequence of calls, whatever the machine reports to each. -/

/-- Whether `CuDriverApi(cu_major, cu_minor, kdm_major)` loads `cuMemBatchDecompressAsync`,
in a build with `CUDA_HW_DECOM_AVAILABLE`: for a CUDA driver of version 12.8 or later
and a kernel-mode driver of major version 570 or later; otherwise the pointer is
`nullptr`. -/
def loadsBatchDecompress (cuMajor cuMinor kdmMajor : Int) : Bool :=
  decide (((cuMajor = 12 ∧ cuMinor ≥ 8) ∨ cuMajor > 12) ∧ kdmMajor ≥ 570)

/-- The entry points the `CuDriverApi` constructor loads whatever the versions, in its
order. -/
def requiredEntryPoints : List Bytes :=
  [ascii "cuMemGetAllocationGranularity", ascii "cuMemCreate", ascii "cuMemMap", ascii "cuMemAddressReserve",
    ascii "cuMemSetAccess", ascii "cuMemUnmap", ascii "cuMemRelease", ascii "cuMemAddressFree",
    ascii "cuGetErrorString", ascii "cuGetErrorName", ascii "cuDeviceGetAttribute", ascii "cuDeviceGet"]

/-- `CuDriverApi(cu_major, cu_minor, kdm_major)` on a driver whose
`cudaGetDriverEntryPoint` resolves the entry points `resolved`: `safe_load` raises on the
first entry point it cannot load (through `dh::safe_cuda`, the status `CHECK` or
`CHECK(*fnptr)`), named here; otherwise the table, represented by whether it holds
`cuMemBatchDecompressAsync`.  The closing `CHECK(this->cuMemGetAllocationGranularity)`
cannot fail once that entry point has loaded. -/
def cuDriverApi (resolved : List Bytes) (cuMajor cuMinor kdmMajor : Int) : Except Bytes Bool :=
  let loads := requiredEntryPoints ++
    if loadsBatchDecompress cuMajor cuMinor kdmMajor then [ascii "cuMemBatchDecompressAsync"] else []
  match loads.find? fun name => decide (name ∉ resolved) with
  | some name => .error name
  | none => .ok (loadsBatchDecompress cuMajor cuMinor kdmMajor)

/-- The function-local statics behind the three `std::call_once`: `none` until a call
has returned, then what it stored.  The entry-point table is represented by whether it
holds `cuMemBatchDecompressAsync`. -/
structure DriverStatics where
  version : Option SmiVersion
  api : Option Bool
  c2c : Option Int

/-- The statics when the process starts. -/
def DriverStatics.init : DriverStatics := ⟨none, none, none⟩

/-- `GetVersionFromSmiGlobal(p_major, p_minor)`: the first call stores what
`GetVersionFromSmi` answers on what `nvidia-smi` prints then; every call answers the
stored version. -/
def getVersionFromSmiGlobal (smiOutStr : Bytes) (s : DriverStatics) : SmiVersion × DriverStatics :=
  match s.version with
  | some v => (v, s)
  | none => (getVersionFromSmi smiOutStr, { s with version := some (getVersionFromSmi smiOutStr) })

/-- `kdm_major` in `GetGlobalCuDriverApi`: the major version `nvidia-smi` reported, or `-1`
when `GetVersionFromSmiGlobal` returned `false`. -/
def kdmMajor (v : SmiVersion) : Int := if v.valid then v.major else -1

/-- `GetGlobalCuDriverApi()`, given the CUDA driver version `curt::GetDrVersionGlobal`
reports, what `nvidia-smi` prints and the entry points the driver resolves: the version
query runs on every call; under the `std::call_once`, the first constructor that returns
stores the table, and one that throws leaves the flag unset and the exception to the
caller. -/
def getGlobalCuDriverApi (cuMajor cuMinor : Int) (smiOutStr : Bytes) (resolved : List Bytes) (s : DriverStatics) :
    Except Bytes Bool × DriverStatics :=
  let (v, s) := getVersionFromSmiGlobal smiOutStr s
  match s.api with
  | some api => (.ok api, s)
  | none => match cuDriverApi resolved cuMajor cuMinor (kdmMajor v) with
    | .ok api => (.ok api, { s with api := some api })
    | .error name => (.error name, s)

/-- `GetC2cLinkCountFromSmiGlobal()`: the first call stores the count. -/
def getC2cLinkCountFromSmiGlobal (nDevices : Int) (out : Bytes) (s : DriverStatics) : Int × DriverStatics :=
  match s.c2c with
  | some n => (n, s)
  | none => (getC2cLinkCountFromSmi nDevices out, { s with c2c := some (getC2cLinkCountFromSmi nDevices out) })

/-- A call of one of the three, with what the machine reports to it. -/
inductive DriverCall
  | versionFromSmiGlobal (smiOut : Bytes)
  | globalCuDriverApi (cuMajor cuMinor : Int) (smiOut : Bytes) (resolved : List Bytes)
  | c2cLinkCountFromSmiGlobal (nDevices : Int) (smiOut : Bytes)

/-- What a call answers. -/
inductive DriverAnswer
  | version (v : SmiVersion)
  | batchDecompress (loaded : Bool)
  /-- `GetGlobalCuDriverApi` raised: the constructor could not load this entry point. -/
  | entryPointError (name : Bytes)
  | c2cLinkCount (n : Int)
  deriving DecidableEq

/-- What `GetGlobalCuDriverApi` answers for a constructed table or a constructor's
exception. -/
def DriverAnswer.ofApi : Except Bytes Bool → DriverAnswer
  | .ok loaded => .batchDecompress loaded
  | .error name => .entryPointError name

/-- One call on the statics. -/
def DriverCall.step : DriverCall → DriverStatics → DriverAnswer × DriverStatics
  | .versionFromSmiGlobal out, s => let r := getVersionFromSmiGlobal out s; (.version r.1, r.2)
  | .globalCuDriverApi ma mi out rs, s => let r := getGlobalCuDriverApi ma mi out rs s; (.ofApi r.1, r.2)
  | .c2cLinkCountFromSmiGlobal n out, s => let r := getC2cLinkCountFromSmiGlobal n out s; (.c2cLinkCount r.1, r.2)

/-- The answers of the calls, made one after another. -/
def runDriverCalls : List DriverCall → DriverStatics → List DriverAnswer
  | [], _ => []
  | c :: cs, s => (c.step s).1 :: runDriverCalls cs (c.step s).2

/-- The output a call reads the driver version from, if it reads one. -/
def DriverCall.smiQuery : DriverCall → Option Bytes
  | .versionFromSmiGlobal out | .globalCuDriverApi _ _ out _ => some out
  | .c2cLinkCountFromSmiGlobal _ _ => none

/-- The table a call of `GetGlobalCuDriverApi` builds on the version `v`, when its
constructor returns. -/
def DriverCall.apiBuilt (v : SmiVersion) : DriverCall → Option Bool
  | .globalCuDriverApi ma mi _ rs => (cuDriverApi rs ma mi (kdmMajor v)).toOption
  | _ => none

/-- The count a call of `GetC2cLinkCountFromSmiGlobal` would read. -/
def DriverCall.c2cQuery : DriverCall → Option Int
  | .c2cLinkCountFromSmiGlobal n out => some (getC2cLinkCountFromSmi n out)
  | _ => none

/-- The version the statics hold once the calls `cs` have run from `s`. -/
def storedVersion (s : DriverStatics) (cs : List DriverCall) : SmiVersion :=
  s.version.getD (getVersionFromSmi ((cs.filterMap DriverCall.smiQuery).head?.getD []))

/-- The abstract model: the call `c` of the run `cs` from the statics `s`, made after the
calls `before`.  The version and the link count are what the first call of their kind
stored, in `s` already or as the first of `cs`.  The table is the one stored in `s`, or
else the one built by the first call of `before` whose constructor returned; while there
is none, `c` builds its own, or raises with the entry point it could not load. -/
def onceAnswer (s : DriverStatics) (cs before : List DriverCall) : DriverCall → DriverAnswer
  | .versionFromSmiGlobal _ => .version (storedVersion s cs)
  | .globalCuDriverApi ma mi _ rs =>
    match s.api.or (before.filterMap (DriverCall.apiBuilt (storedVersion s cs))).head? with
    | some api => .batchDecompress api
    | none => .ofApi (cuDriverApi rs ma mi (kdmMajor (storedVersion s cs)))
  | .c2cLinkCountFromSmiGlobal _ _ => .c2cLinkCount (s.c2c.getD ((cs.filterMap DriverCall.c2cQuery).head?.getD 0))

theorem step_versionFromSmiGlobal (out : Bytes) (s : DriverStatics) :
    (DriverCall.versionFromSmiGlobal out).step s =
      (.version (s.version.getD (getVersionFromSmi out)),
        { s with version := some (s.version.getD (getVersionFromSmi out)) }) := by
  obtain ⟨_ | v, a, n⟩ := s <;> rfl

theorem step_globalCuDriverApi (cuMajor cuMinor : Int) (out : Bytes) (rs : List Bytes) (s : DriverStatics) :
    (DriverCall.globalCuDriverApi cuMajor cuMinor out rs).step s =
      (match s.api with
        | some api => .batchDecompress api
        | none => .ofApi (cuDriverApi rs cuMajor cuMinor (kdmMajor (s.version.getD (getVersionFromSmi out)))),
        { s with version := some (s.version.getD (getVersionFromSmi out)),
                 api := s.api.or (cuDriverApi rs cuMajor cuMinor (kdmMajor (s.version.getD (getVersionFromSmi out)))).toOption }) := by
  obtain ⟨_ | v, _ | a, n⟩ := s
  case mk.none.none =>
    simp only [DriverCall.step, getGlobalCuDriverApi, getVersionFromSmiGlobal, Option.getD_none, Option.none_or]
    cases cuDriverApi rs cuMajor cuMinor (kdmMajor (getVersionFromSmi out)) <;> rfl
  case mk.some.none =>
    simp only [DriverCall.step, getGlobalCuDriverApi, getVersionFromSmiGlobal, Option.getD_some, Option.none_or]
    cases cuDriverApi rs cuMajor cuMinor (kdmMajor v) <;> rfl
  all_goals rfl

theorem step_c2cLinkCountFromSmiGlobal (nDevices : Int) (out : Bytes) (s : DriverStatics) :
    (DriverCall.c2cLinkCountFromSmiGlobal nDevices out).step s =
      (.c2cLinkCount (s.c2c.getD (getC2cLinkCountFromSmi nDevices out)),
        { s with c2c := some (s.c2c.getD (getC2cLinkCountFromSmi nDevices out)) }) := by
  obtain ⟨v, a, _ | n⟩ := s <;> rfl

theorem head?_filterMap_cons {α β : Type} (f : α → Option β) (a : α) (l : List α) :
    ((a :: l).filterMap f).head? = (f a).or (l.filterMap f).head? := by
  rw [List.filterMap_cons]
  cases f a <;> rfl

/-- The answer of a call is the model's, and the statics it leaves give the rest of the
calls the model's answers, with the call counted among those before them. -/
theorem step_onceAnswer (c : DriverCall) (cs : List DriverCall) (s : DriverStatics) :
    (c.step s).1 = onceAnswer s (c :: cs) [] c ∧
      ∀ before, onceAnswer (c.step s).2 cs before = onceAnswer s (c :: cs) (c :: before) := by
  cases c with
  | versionFromSmiGlobal out =>
    rw [step_versionFromSmiGlobal]
    exact ⟨rfl, fun before => funext fun c' => by cases c' <;> rfl⟩
  | globalCuDriverApi cuMajor cuMinor out rs =>
    rw [step_globalCuDriverApi]
    refine ⟨by obtain ⟨v, _ | a, n⟩ := s <;> rfl, fun before => funext fun c' => ?_⟩
    cases c' with
    | globalCuDriverApi => simp only [onceAnswer, head?_filterMap_cons, Option.or_assoc]; rfl
    | _ => rfl
  | c2cLinkCountFromSmiGlobal nDevices out =>
    rw [step_c2cLinkCountFromSmiGlobal]
    exact ⟨rfl, fun before => funext fun c' => by cases c' <;> rfl⟩

/-- The statics implement the abstract model: over every sequence of calls, the `k`-th
call answers what the model says of it after the first `k`.  The first call that reads
`nvidia-smi` fixes the version every later call sees; the first `GetGlobalCuDriverApi`
whose constructor returns fixes whether `cuMemBatchDecompressAsync` is loaded for the rest
of the process, and the calls before it each try again. -/
theorem runDriverCalls_eq (cs : List DriverCall) :
    ∀ s, runDriverCalls cs s = cs.mapIdx fun k c => onceAnswer s cs (cs.take k) c := by
  induction cs with
  | nil => intro s; rfl
  | cons c cs ih =>
    intro s
    rw [runDriverCalls, ih, List.mapIdx_cons, (step_onceAnswer c cs s).1]
    simp only [(step_onceAnswer c cs s).2]
    rfl

/-- A first call on a driver that resolves no entry point raises, the next builds the
table, and a later call answers that table even on a driver that resolves nothing. -/
example :
    runDriverCalls [.globalCuDriverApi 12 8 [] [], .globalCuDriverApi 12 8 [] requiredEntryPoints,
      .globalCuDriverApi 12 8 [] []] DriverStatics.init =
      [.entryPointError (ascii "cuMemGetAllocationGranularity"), .batchDecompress false, .batchDecompress false] := by
  rfl

end Cudr

end XGBoostData
