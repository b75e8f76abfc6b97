import DcgmDiag.Basic

/-!
# Fixed-size C arrays and `char` buffers

The run requests of the diag module keep every string in a `char[N]` field, and the test
names and test parameters in `char[K][N]` fields.  A field is a list of exactly `N`
elements (`CArray`), so that a value of another size cannot be built.  On a `char`
buffer, `cStr` is what a reader that stops at the first NUL sees, and `HasNul` says that
such a reader stops inside the field.

The two primitives the module applies to these fields, `dcgmTerminateCharBuffer` and
`SafeCopyTo`, live in headers that are not among the sources; both are modelled from the
spec's buffer policy.  The main results are

* `hasNul_dcgmTerminateCharBuffer`: a terminated buffer holds a NUL;
* `cStr_safeCopyTo`, `hasNul_safeCopyTo`: the copy holds the source's string cut to the
  destination capacity minus one, and is terminated;
* `get_forEachIndex`: the loop `for (i = 0; i < K; i++) a[i] = f(i, a[i])` applies its
  body to every element, once.
-/

namespace DcgmDiag

/-- A C array `α[n]`: exactly `n` elements. -/
structure CArray (α : Type) (n : Nat) where
  /-- The elements, in index order. -/
  toList : List α
  length_eq : toList.length = n
  deriving DecidableEq, Repr

/-- A `char[n]` field, byte by byte. -/
abbrev CharBuf (n : Nat) := CArray UInt8 n

namespace CArray

variable {α : Type} {n : Nat}

/-- The element at index `i`. -/
def get (a : CArray α n) (i : Fin n) : α :=
  a.toList.get ⟨i, by rw [a.length_eq]; exact i.isLt⟩

/-- The element at index `i`, or the default value past the end. -/
def getD [Inhabited α] (a : CArray α n) (i : Nat) : α := a.toList.getD i default

/-- `a[i] = x`; an index past the end changes nothing. -/
def set (a : CArray α n) (i : Nat) (x : α) : CArray α n :=
  ⟨a.toList.set i x, by rw [List.length_set, a.length_eq]⟩

/-- `a[i] = g(a[i])`; an index past the end changes nothing. -/
def modify (a : CArray α n) (i : Nat) (g : α → α) : CArray α n :=
  ⟨a.toList.modify g i, by rw [List.length_modify, a.length_eq]⟩

/-- The array with every element `x`, as `T a[n] = {}` leaves it for `x` the zero value. -/
def replicate (n : Nat) (x : α) : CArray α n := ⟨List.replicate n x, List.length_replicate n x⟩

instance [Inhabited α] : Inhabited (CArray α n) := ⟨replicate n default⟩

/-- The loop `for (i = 0; i < n; i++) a[i] = f(i, a[i])`. -/
def forEachIndex (a : CArray α n) (f : Nat → α → α) : CArray α n :=
  (List.range n).foldl (fun acc i => acc.modify i (f i)) a

@[simp] lemma getD_val [Inhabited α] (a : CArray α n) (i : Fin n) : a.getD i = a.get i := by
  have h : (i : Nat) < a.toList.length := by rw [a.length_eq]; exact i.isLt
  simp [getD, get, List.getElem?_eq_getElem h]

@[simp] lemma get_replicate (x : α) (i : Fin n) : (replicate n x).get i = x := by
  simp [replicate, get]

lemma get_set (a : CArray α n) (i : Nat) (x : α) (j : Fin n) :
    (a.set i x).get j = if i = j then x else a.get j := by
  simp [set, get, List.getElem_set]

lemma get_modify (a : CArray α n) (i : Nat) (g : α → α) (j : Fin n) :
    (a.modify i g).get j = if i = j then g (a.get j) else a.get j := by
  simp [modify, get, List.getElem_modify]

/-- The loop over a duplicate-free list of indices updates exactly the listed elements. -/
lemma get_foldl_modify (f : Nat → α → α) (j : Fin n) :
    ∀ (is : List Nat) (a : CArray α n), is.Nodup →
      (is.foldl (fun acc i => acc.modify i (f i)) a).get j =
        if (j : Nat) ∈ is then f j (a.get j) else a.get j
  | [], a, _ => by simp
  | i :: is, a, hd => by
    obtain ⟨hi, hd⟩ := List.nodup_cons.1 hd
    rw [List.foldl_cons, get_foldl_modify f j is _ hd, get_modify]
    by_cases hj : (j : Nat) ∈ is
    · have : i ≠ j := fun h => hi (h ▸ hj)
      simp [hj, this]
    · by_cases hij : i = j <;> simp [hj, hij, eq_comm]

@[simp] lemma get_forEachIndex (a : CArray α n) (f : Nat → α → α) (i : Fin n) :
    (a.forEachIndex f).get i = f i (a.get i) := by
  simp [forEachIndex, get_foldl_modify f i _ a (List.nodup_range n)]

end CArray

/-! ## C strings in `char` buffers -/

namespace CharBuf

variable {n m : Nat}

/-- The string a C reader sees in the buffer: the bytes before the first NUL, or all of
them when there is none (`strnlen` bounded by the capacity). -/
def cStr (b : CharBuf n) : List UInt8 := b.toList.takeWhile (· != 0)

/-- The buffer holds a NUL byte, so a reader that stops at NUL stays inside the field. -/
def HasNul (b : CharBuf n) : Prop := (0 : UInt8) ∈ b.toList

instance (b : CharBuf n) : Decidable (HasNul b) :=
  inferInstanceAs (Decidable ((0 : UInt8) ∈ b.toList))

/-- The all-zero buffer of a value-initialised record. -/
def zero (n : Nat) : CharBuf n := CArray.replicate n 0

lemma ne_zero_of_mem_cStr {b : CharBuf n} {x : UInt8} (h : x ∈ b.cStr) : x ≠ 0 := by
  simpa using List.mem_takeWhile_imp h

/-- Modelled from the spec: `dcgmTerminateCharBuffer` (a DCGM header helper, not among the
sources) forces the last byte of the buffer to NUL, whatever the buffer held (spec §4.2,
"force the last-permitted byte to a terminator"). -/
def dcgmTerminateCharBuffer (b : CharBuf n) : CharBuf n := b.set (n - 1) 0

lemma hasNul_dcgmTerminateCharBuffer (b : CharBuf n) (hn : 0 < n) :
    (dcgmTerminateCharBuffer b).HasNul :=
  List.mem_iff_get.2 ⟨⟨n - 1, by simp [dcgmTerminateCharBuffer, CArray.set, b.length_eq]; omega⟩,
    by simp [dcgmTerminateCharBuffer, CArray.set, b.length_eq]⟩

lemma takeWhile_append_singleton {p : UInt8 → Bool} {a : UInt8} (ha : p a = false)
    (xs : List UInt8) : (xs ++ [a]).takeWhile p = xs.takeWhile p := by
  induction xs with
  | nil => simp [List.takeWhile_cons, ha]
  | cons x xs ih => simp only [List.cons_append, List.takeWhile_cons, ih]

/-- Forcing the last byte to NUL cuts the string the buffer holds to the capacity minus one,
whatever the buffer held. -/
lemma cStr_dcgmTerminateCharBuffer (b : CharBuf n) (hn : 0 < n) :
    (dcgmTerminateCharBuffer b).cStr = b.cStr.take (n - 1) := by
  have hset : b.toList.set (n - 1) 0 = b.toList.take (n - 1) ++ [0] := by
    rw [List.set_eq_take_append_cons_drop, if_pos (by rw [b.length_eq]; omega),
      List.drop_eq_nil_of_le (by rw [b.length_eq]; omega)]
  simp only [cStr, dcgmTerminateCharBuffer, CArray.set, hset, List.take_takeWhile]
  exact takeWhile_append_singleton (by decide) _

lemma length_takeWhile_lt {l : List UInt8} (h : (0 : UInt8) ∈ l) :
    (l.takeWhile (· != 0)).length < l.length := by
  induction l with
  | nil => simp at h
  | cons x xs ih =>
    by_cases hx : x = 0
    · simp [List.takeWhile_cons, hx]
    · have := ih ((List.mem_cons.1 h).resolve_left (Ne.symm hx))
      simp [List.takeWhile_cons, hx, this]

/-- A buffer that holds a NUL holds a string shorter than itself. -/
lemma cStr_length_lt (b : CharBuf n) (h : b.HasNul) : b.cStr.length < n :=
  (length_takeWhile_lt h).trans_eq b.length_eq

/-- The bytes `SafeCopyTo` takes from its source: the source's string, cut to the
destination capacity minus one. -/
def copiedPrefix (n : Nat) (src : CharBuf m) : List UInt8 := src.cStr.take (n - 1)

/-- Modelled from the spec: `SafeCopyTo<N, M>(dst, src)` (`DcgmStringHelpers.h`, not among
the sources) copies the string held in `src` into `dst`, cut to `N - 1` bytes, and writes a
NUL after it (spec §4.1, "truncate-with-explicit-capacity-check, never read/write past
bounds").  The bytes of `dst` past the terminator keep their value. -/
def safeCopyTo (dst : CharBuf n) (src : CharBuf m) : CharBuf n :=
  ⟨(copiedPrefix n src ++ 0 :: dst.toList.drop ((copiedPrefix n src).length + 1)).take n, by
    simp only [List.length_take, List.length_append, List.length_cons, List.length_drop,
      dst.length_eq]
    omega⟩

lemma copiedPrefix_length_lt (src : CharBuf m) (hn : 0 < n) :
    (copiedPrefix n src).length < n := by
  simp only [copiedPrefix, List.length_take]
  omega

lemma safeCopyTo_toList (dst : CharBuf n) (src : CharBuf m) (hn : 0 < n) :
    (safeCopyTo dst src).toList =
      copiedPrefix n src ++ 0 :: dst.toList.drop ((copiedPrefix n src).length + 1) := by
  have := copiedPrefix_length_lt src hn
  simp only [safeCopyTo]
  rw [List.take_of_length_le]
  simp only [List.length_append, List.length_cons, List.length_drop, dst.length_eq]
  omega

lemma cStr_safeCopyTo (dst : CharBuf n) (src : CharBuf m) (hn : 0 < n) :
    (safeCopyTo dst src).cStr = src.cStr.take (n - 1) := by
  have hpos : ∀ x ∈ copiedPrefix n src, (x != 0) = true := fun x hx =>
    bne_iff_ne.2 (ne_zero_of_mem_cStr (List.mem_of_mem_take hx))
  rw [cStr, safeCopyTo_toList dst src hn, List.takeWhile_append_of_pos hpos]
  simp [copiedPrefix]

lemma hasNul_safeCopyTo (dst : CharBuf n) (src : CharBuf m) (hn : 0 < n) :
    (safeCopyTo dst src).HasNul := by
  simp [HasNul, safeCopyTo_toList dst src hn]

/-- `dst` holds the C string of `src`, cut to the capacity of `dst` minus one, and a NUL
after it. -/
structure HoldsCopyOf (dst : CharBuf n) (src : CharBuf m) : Prop where
  hasNul : dst.HasNul
  cStr_eq : dst.cStr = src.cStr.take (n - 1)

lemma holdsCopyOf_safeCopyTo (dst : CharBuf n) (src : CharBuf m) (hn : 0 < n) :
    HoldsCopyOf (safeCopyTo dst src) src :=
  ⟨hasNul_safeCopyTo dst src hn, cStr_safeCopyTo dst src hn⟩

/-- A source string that fits the destination arrives unchanged. -/
lemma HoldsCopyOf.cStr_eq_of_fits {dst : CharBuf n} {src : CharBuf m} (h : HoldsCopyOf dst src)
    (hfit : src.cStr.length ≤ n - 1) : dst.cStr = src.cStr := by
  rw [h.cStr_eq, List.take_of_length_le hfit]

end CharBuf

end DcgmDiag
