import Mathlib.Data.List.Basic
import Mathlib.Data.Int.Defs

/-!
# The Python and ctypes surface of `basics.py`

`HorovodBasics` talks to the engine library through `ctypes`. Python integers cross the
boundary as `c_int`, which ctypes fills without any overflow check; buffers are
`(ctypes.c_int * n)()` arrays that ctypes zero-initialises and the engine writes into;
results come back as Python `int`s, and every failure is a Python exception.

## Main definitions

* `Horovod.PyError` — the exceptions the wrapper raises or lets through
* `Horovod.cInt`, `Horovod.cIntArray` — the value of a `c_int` built from a Python int
* `Horovod.fillBuffer` — a zero-initialised `c_int` buffer after the engine copied into it,
  `none` when the copy runs past the array's memory
* `Horovod.PyDict` — a Python dict from process-set ids to rank lists, with `ret[k] = v`

## Main results

* `cInt_of_inCIntRange` — a Python int in the C range crosses unchanged
* `fillBuffer_eq_none_iff` — a copy is undefined behaviour exactly when it runs past the
  array's memory
* `PyDict.lookup_set` — `ret[k] = v` changes the value at `k` and no other
-/

namespace Horovod

/-- The exceptions `basics.py` raises itself or lets through from ctypes and mpi4py: its own
`ValueError`s and `RuntimeError`s with their messages, the `TypeError` of ctypes or mpi4py
refusing an argument of the wrong type, and the `ImportError` of `from mpi4py import MPI`
where mpi4py is not installed. -/
inductive PyError
  | valueError (msg : String)
  | runtimeError (msg : String)
  | typeError
  | importError
  deriving DecidableEq, Repr

/-! ## `c_int` -/

/-- The value a `ctypes.c_int` holds when built from the Python int `x`: ctypes does no
overflow checking, so `x` is reduced modulo `2^32` into the signed 32-bit range. -/
def cInt (x : Int) : Int := x.bmod 4294967296

/-- The integer `x` is a value of the C `int` type, `-2^31 ≤ x < 2^31`. -/
def InCIntRange (x : Int) : Prop := -2147483648 ≤ x ∧ x < 2147483648

instance (x : Int) : Decidable (InCIntRange x) := inferInstanceAs (Decidable (_ ∧ _))

theorem cInt_of_inCIntRange {x : Int} (h : InCIntRange x) : cInt x = x := by
  obtain ⟨lo, hi⟩ := h
  rw [cInt, Int.bmod_def]
  split <;> omega

theorem cInt_natCast_of_lt {n : Nat} (h : n < 2147483648) : cInt n = n :=
  cInt_of_inCIntRange ⟨by omega, by exact_mod_cast h⟩

/-- A `c_int` sees an integer only modulo 2^32. -/
theorem cInt_add_mul (x k : Int) : cInt (x + 4294967296 * k) = cInt x := by
  simpa [cInt] using Int.bmod_add_mul_cancel x 4294967296 k

/-- Python's `(ctypes.c_int * len(xs))(*xs)`: the array of C ints built from a Python list. -/
def cIntArray (xs : List Int) : List Int := xs.map cInt

@[simp] theorem length_cIntArray (xs : List Int) : (cIntArray xs).length = xs.length :=
  List.length_map _ _

theorem cIntArray_of_inCIntRange {xs : List Int} (h : ∀ x ∈ xs, InCIntRange x) :
    cIntArray xs = xs :=
  (List.map_congr_left fun x hx => cInt_of_inCIntRange (h x hx)).trans (List.map_id' xs)

/-! ## Buffers the engine writes into -/

/-- The number of `c_int`s the memory of `(ctypes.c_int * n)()` holds: ctypes keeps an array
of at most 16 bytes inside the object (its `b_value` field), room for four `c_int`s, and
allocates a larger one on the heap with exactly its size. -/
def bufferSlots (n : Nat) : Nat := max n 4

/-- Python's `(ctypes.c_int * n)()` after the engine copied `xs` into it: the `n` slots start at
zero and the engine writes `xs` from the front, and the caller reads back exactly `n` slots.
A write past the memory of the array is undefined behaviour, `none`. -/
def fillBuffer (xs : List Int) (n : Nat) : Option (List Int) :=
  if xs.length ≤ bufferSlots n then some ((xs ++ List.replicate n 0).take n) else none

theorem fillBuffer_eq_none_iff {xs : List Int} {n : Nat} :
    fillBuffer xs n = none ↔ bufferSlots n < xs.length := by
  unfold fillBuffer
  split <;> simp <;> omega

theorem fillBuffer_eq_some_iff {xs b : List Int} {n : Nat} :
    fillBuffer xs n = some b ↔ xs.length ≤ bufferSlots n ∧ (xs ++ List.replicate n 0).take n = b := by
  unfold fillBuffer
  split <;> simp_all

theorem fillBuffer_self (xs : List Int) : fillBuffer xs xs.length = some xs := by
  simp [fillBuffer, bufferSlots, le_max_left]

theorem mem_fillBuffer {xs b : List Int} {n : Nat} (h : fillBuffer xs n = some b) {x : Int}
    (hx : x ∈ b) : x ∈ xs ∨ x = 0 := by
  obtain ⟨-, rfl⟩ := fillBuffer_eq_some_iff.mp h
  rcases List.mem_append.mp (List.mem_of_mem_take hx) with hx | hx
  · exact .inl hx
  · exact .inr (List.eq_of_mem_replicate hx)

/-! ## Dicts of process sets -/

/-- A Python `Dict[int, List[int]]`, its entries in insertion order. -/
abbrev PyDict := List (Int × List Int)

@[simp] theorem lookup_cons_pair {β : Type} (k a : Int) (v : β) (d : List (Int × β)) :
    ((a, v) :: d).lookup k = if k = a then some v else d.lookup k := by
  by_cases h : k = a
  · simp [List.lookup_cons, h]
  · simp [List.lookup_cons, beq_false_of_ne h, h]

namespace PyDict

/-- Python's `ret[k] = v`: an existing key keeps its place and takes the new value, a new key is
appended. -/
def set (d : PyDict) (k : Int) (v : List Int) : PyDict :=
  if (d.lookup k).isSome then d.map (fun p => if p.1 = k then (k, v) else p) else d ++ [(k, v)]

private theorem lookup_map_replace (d : PyDict) (k k' : Int) (v : List Int) :
    (d.map (fun p => if p.1 = k then (k, v) else p)).lookup k' =
      if k' = k then (d.lookup k).map (fun _ => v) else d.lookup k' := by
  induction d with
  | nil => split <;> simp
  | cons p d ih =>
    obtain ⟨a, w⟩ := p
    by_cases ha : a = k
    · subst ha
      by_cases hk : k' = a <;> simp [hk, ih]
    · have ha' : k ≠ a := Ne.symm ha
      by_cases hk : k' = k
      · subst hk
        simp [ha, ha', ih]
      · simp [ha, hk, ih]

theorem lookup_set (d : PyDict) (k k' : Int) (v : List Int) :
    (d.set k v).lookup k' = if k' = k then some v else d.lookup k' := by
  unfold set
  split
  · rename_i h
    rw [lookup_map_replace]
    split
    · obtain ⟨w, hw⟩ := Option.isSome_iff_exists.mp h
      simp [hw]
    · rfl
  · rename_i h
    rw [List.lookup_append]
    by_cases hk : k' = k
    · subst hk
      simp [Option.not_isSome_iff_eq_none.mp h]
    · simp [hk]

theorem mem_of_lookup_eq_some {d : PyDict} {k : Int} {v : List Int} (h : d.lookup k = some v) :
    (k, v) ∈ d := by
  induction d with
  | nil => simp at h
  | cons p d ih =>
    obtain ⟨a, w⟩ := p
    by_cases hk : k = a
    · subst hk
      simp_all
    · simp_all

theorem lookup_eq_some_of_mem {d : PyDict} {k : Int} {v : List Int}
    (nodup : (d.map Prod.fst).Nodup) (h : (k, v) ∈ d) : d.lookup k = some v := by
  induction d with
  | nil => simp at h
  | cons p d ih =>
    obtain ⟨a, w⟩ := p
    simp only [List.map_cons, List.nodup_cons, List.mem_map] at nodup
    rcases List.mem_cons.mp h with h | h
    · simp_all
    · have hk : k ≠ a := fun hk => nodup.1 ⟨(k, v), h, hk⟩
      simp [hk, ih nodup.2 h]

theorem lookup_eq_none_iff {β : Type} {d : List (Int × β)} {k : Int} :
    d.lookup k = none ↔ k ∉ d.map Prod.fst := by
  induction d with
  | nil => simp
  | cons p d ih =>
    obtain ⟨a, w⟩ := p
    by_cases hk : k = a
    · simp [hk]
    · simp [hk, ih]

/-- Python's `==` on dicts: the same keys, with the same values. -/
def Equiv (d e : PyDict) : Prop := ∀ k, d.lookup k = e.lookup k

end PyDict

end Horovod
