import Mathlib.Data.List.Basic
import Mathlib.Logic.Function.Basic
import Mathlib.Order.Lattice
import Mathlib.Tactic.Common

/-!
# Cell memories

A memory is a total map from addresses to cells. Writing past the end of an array is
then a write outside the array's address range, which a statement can name, and reading
never fails.

* `memcpy m dst src` writes the list `src` from address `dst` on.
* `slice m ofs len` reads `len` cells from address `ofs` on.

* `SameFrom n m m'`: the two memories agree from address `n` on.
* `tail m ofs` is the memory as seen from address `ofs`, and `setTail m ofs t` puts such a view back.

The lemmas say what a slice reads after a copy: the copied list (`slice_memcpy_self`), the
old cells when the two ranges are disjoint (`slice_memcpy_before`, `slice_memcpy_after`),
and how slices split (`slice_add`) and compare (`slice_eq_iff`).
-/

namespace Lib

universe u

/-- A memory of cells of type `α`. -/
abbrev Mem (α : Type u) := Nat → α

variable {α : Type u}

def memcpy (m : Mem α) (dst : Nat) (src : List α) : Mem α :=
  fun i => if dst ≤ i then (src[i - dst]?).getD (m i) else m i

def slice (m : Mem α) (ofs len : Nat) : List α :=
  (List.range len).map fun i => m (ofs + i)

/-! ## Copies -/

@[simp] theorem memcpy_nil (m : Mem α) (dst : Nat) : memcpy m dst [] = m := by
  funext i
  simp [memcpy]

theorem memcpy_of_lt (m : Mem α) {dst i : Nat} (src : List α) (h : i < dst) :
    memcpy m dst src i = m i := by
  simp [memcpy, Nat.not_le.mpr h]

theorem memcpy_of_ge (m : Mem α) {dst i : Nat} (src : List α) (h : dst + src.length ≤ i) :
    memcpy m dst src i = m i := by
  have hnone : src[i - dst]? = none := List.getElem?_eq_none (by omega)
  simp [memcpy, hnone]

theorem memcpy_add (m : Mem α) (dst : Nat) {src : List α} {j : Nat} (h : j < src.length) :
    memcpy m dst src (dst + j) = src[j] := by
  simp [memcpy, List.getElem?_eq_getElem h]

theorem memcpy_cons (m : Mem α) (dst : Nat) (b : α) (bs : List α) :
    memcpy m dst (b :: bs) = memcpy (Function.update m dst b) (dst + 1) bs := by
  funext i
  rcases Nat.lt_trichotomy i dst with hlt | rfl | hgt
  · rw [memcpy_of_lt _ _ hlt, memcpy_of_lt _ _ (by omega), Function.update_of_ne (by omega)]
  · have htail : memcpy (Function.update m i b) (i + 1) bs i = b := by
      rw [memcpy_of_lt _ _ (Nat.lt_succ_self i), Function.update_self]
    rw [htail]
    simp [memcpy]
  · obtain ⟨j, rfl⟩ := Nat.exists_eq_add_of_lt hgt
    rw [show dst + j + 1 = dst + 1 + j by omega]
    by_cases hj : j < bs.length
    · rw [memcpy_add _ _ hj, show dst + 1 + j = dst + (j + 1) by omega,
        memcpy_add _ _ (by simpa using hj), List.getElem_cons_succ]
    · rw [memcpy_of_ge _ _ (by simp; omega), memcpy_of_ge _ _ (by omega),
        Function.update_of_ne (by omega)]

/-! ## Slices -/

@[simp] theorem length_slice (m : Mem α) (ofs len : Nat) : (slice m ofs len).length = len := by
  simp [slice]

@[simp] theorem slice_zero (m : Mem α) (ofs : Nat) : slice m ofs 0 = [] := rfl

@[simp] theorem getElem_slice (m : Mem α) (ofs len j : Nat) (h : j < (slice m ofs len).length) :
    (slice m ofs len)[j] = m (ofs + j) := by
  simp [slice]

theorem getElem?_slice (m : Mem α) (ofs : Nat) {len j : Nat} (h : j < len) :
    (slice m ofs len)[j]? = some (m (ofs + j)) := by
  rw [List.getElem?_eq_getElem (by simpa using h), getElem_slice]

theorem slice_succ (m : Mem α) (ofs len : Nat) :
    slice m ofs (len + 1) = m ofs :: slice m (ofs + 1) len := by
  simp only [slice, List.range_succ_eq_map, List.map_cons, List.map_map, Nat.add_zero]
  congr 1
  apply List.map_congr_left
  intro i _
  simp only [Function.comp_apply]
  congr 1
  omega

theorem slice_add (m : Mem α) (ofs a b : Nat) :
    slice m ofs (a + b) = slice m ofs a ++ slice m (ofs + a) b := by
  simp only [slice, List.range_add, List.map_append, List.map_map]
  congr 1
  apply List.map_congr_left
  intro i _
  simp only [Function.comp_apply, Nat.add_assoc]

theorem take_slice (m : Mem α) (ofs : Nat) {len k : Nat} (h : k ≤ len) :
    (slice m ofs len).take k = slice m ofs k := by
  obtain ⟨r, rfl⟩ := Nat.exists_eq_add_of_le h
  rw [slice_add, List.take_left' (length_slice _ _ _)]

theorem drop_slice (m : Mem α) (ofs len k : Nat) :
    (slice m ofs len).drop k = slice m (ofs + k) (len - k) := by
  apply List.ext_getElem
  · simp
  · intro j h₁ h₂
    simp [Nat.add_assoc]

/-- Two slices of the same length agree exactly when their cells do. -/
theorem slice_eq_iff {m m' : Mem α} {ofs ofs' len : Nat} :
    slice m ofs len = slice m' ofs' len ↔ ∀ j, j < len → m (ofs + j) = m' (ofs' + j) := by
  simp [slice]

/-- A slice is the list `xs` exactly when it has its length and its cells. -/
theorem slice_eq_list_iff {m : Mem α} {ofs : Nat} {xs : List α} :
    slice m ofs xs.length = xs ↔ ∀ j (h : j < xs.length), m (ofs + j) = xs[j] := by
  constructor
  · intro h j hj
    have hget := getElem_slice m ofs xs.length j (by simpa using hj)
    rw [← hget]
    exact List.getElem_of_eq h _
  · intro h
    apply List.ext_getElem (length_slice _ _ _)
    intro j _ h₂
    rw [getElem_slice, h j h₂]

/-! ## Slices of copies -/

theorem slice_memcpy_self (m : Mem α) (dst : Nat) (src : List α) :
    slice (memcpy m dst src) dst src.length = src :=
  slice_eq_list_iff.mpr fun _ h => memcpy_add m dst h

theorem slice_memcpy_before (m : Mem α) {dst ofs len : Nat} (src : List α)
    (h : ofs + len ≤ dst) : slice (memcpy m dst src) ofs len = slice m ofs len :=
  slice_eq_iff.mpr fun j hj => memcpy_of_lt m src (by omega)

theorem slice_memcpy_after (m : Mem α) {dst ofs : Nat} (len : Nat) (src : List α)
    (h : dst + src.length ≤ ofs) : slice (memcpy m dst src) ofs len = slice m ofs len :=
  slice_eq_iff.mpr fun j _ => memcpy_of_ge m src (by omega)

/-! ## Writes below an address -/

/-- The memories agree from address `n` on. -/
def SameFrom (n : Nat) (m m' : Mem α) : Prop := ∀ a, n ≤ a → m' a = m a

section

variable {n : Nat} {m m' m'' : Mem α}

theorem SameFrom.refl (n : Nat) (m : Mem α) : SameFrom n m m := fun _ _ => rfl

theorem SameFrom.trans (h : SameFrom n m m') (h' : SameFrom n m' m'') : SameFrom n m m'' :=
  fun a ha => (h' a ha).trans (h a ha)

theorem SameFrom.mono {k : Nat} (h : SameFrom k m m') (hk : k ≤ n) : SameFrom n m m' :=
  fun a ha => h a (hk.trans ha)

theorem SameFrom.update (h : SameFrom n m m') {a : Nat} (ha : a < n) (v : α) :
    SameFrom n m (Function.update m' a v) := by
  intro i hi
  rw [Function.update_of_ne (by omega)]
  exact h i hi

theorem SameFrom.memcpy (h : SameFrom n m m') {dst : Nat} {src : List α} (hfit : dst + src.length ≤ n) :
    SameFrom n m (memcpy m' dst src) := by
  intro i hi
  rw [memcpy_of_ge _ _ (by omega)]
  exact h i hi

end

/-! ## A memory seen from an address -/

/-- The memory as seen from address `ofs`. -/
def tail (m : Mem α) (ofs : Nat) : Mem α := fun i => m (ofs + i)

/-- The memory `m` below address `ofs`, and `t` from there on. -/
def setTail (m : Mem α) (ofs : Nat) (t : Mem α) : Mem α :=
  fun i => if i < ofs then m i else t (i - ofs)

section

variable {m m' : Mem α} {t : Mem α} {ofs : Nat}

theorem slice_tail (m : Mem α) (base ofs len : Nat) :
    slice (tail m base) ofs len = slice m (base + ofs) len :=
  slice_eq_iff.mpr fun j _ => congrArg m (Nat.add_assoc base ofs j).symm

theorem setTail_of_lt {i : Nat} (h : i < ofs) : setTail m ofs t i = m i := if_pos h

theorem setTail_add (m : Mem α) (ofs : Nat) (t : Mem α) (i : Nat) :
    setTail m ofs t (ofs + i) = t i := by
  rw [setTail, if_neg (by omega), Nat.add_sub_cancel_left]

@[simp] theorem tail_setTail (m : Mem α) (ofs : Nat) (t : Mem α) :
    tail (setTail m ofs t) ofs = t :=
  funext fun i => setTail_add m ofs t i

theorem slice_setTail_before {lo len : Nat} (h : lo + len ≤ ofs) :
    slice (setTail m ofs t) lo len = slice m lo len :=
  slice_eq_iff.mpr fun j hj => setTail_of_lt (by omega)

/-- What is written below the address `n` of a view is written below `ofs + n`. -/
theorem SameFrom.setTail {n k : Nat} (h : SameFrom n (tail m ofs) t) (hn : ofs + n ≤ k) :
    SameFrom k m (setTail m ofs t) := by
  intro a ha
  obtain ⟨i, rfl⟩ := Nat.exists_eq_add_of_le (show ofs ≤ a by omega)
  rw [setTail_add, h i (by omega)]
  rfl

end

end Lib
