import Mathlib.Data.List.Basic
import Mathlib.Data.Nat.Bitwise
import Mathlib.Data.Nat.Find

/-!
# Messages and their chunks

A sequence of messages is concatenated (`concat`), and each message is cut into chunks of `L` elements
(`chunk`), the last of which may be shorter. A bit vector says which chunks of a message are there;
`chunkSum` is the number of elements in these chunks.
-/

namespace Lib

variable {α : Type*}

/-! ## Concatenation -/

/-- The first `n` messages. -/
def concat (M : Nat → List α) (n : Nat) : List α := (List.range n).flatMap M

section

variable {M : Nat → List α} {n e : Nat}

@[simp] theorem concat_zero (M : Nat → List α) : concat M 0 = [] := rfl

theorem concat_succ (M : Nat → List α) (n : Nat) : concat M (n + 1) = concat M n ++ M n := by
  simp [concat, List.range_succ]

theorem concat_mono (M : Nat → List α) (h : n ≤ e) : concat M n <+: concat M e := by
  induction e with
  | zero =>
    obtain rfl : n = 0 := by omega
    exact List.prefix_refl _
  | succ e ih =>
    rcases Nat.lt_or_eq_of_le h with hlt | rfl
    · rw [concat_succ]
      exact (ih (by omega)).trans (List.prefix_append _ _)
    · exact List.prefix_refl _

theorem concat_length_le (M : Nat → List α) (h : n ≤ e) :
    (concat M n).length ≤ (concat M e).length := (concat_mono M h).length_le

theorem concat_length_succ (M : Nat → List α) (n : Nat) :
    (concat M (n + 1)).length = (concat M n).length + (M n).length := by
  rw [concat_succ, List.length_append]

theorem concat_congr {M' : Nat → List α} (h : ∀ k, k < n → M' k = M k) : concat M' n = concat M n :=
  List.flatMap_congr fun k hk => h k (List.mem_range.mp hk)

/-- What follows position `ofs` of message `n`. -/
theorem concat_drop (hn : n < e) {ofs : Nat} (hofs : ofs ≤ (M n).length) :
    (concat M e).drop ((concat M n).length + ofs) =
      (M n).drop ofs ++ (concat M e).drop (concat M (n + 1)).length := by
  obtain ⟨rest, hrest⟩ := concat_mono M (show n + 1 ≤ e from hn)
  rw [← hrest, List.drop_left, concat_succ, List.append_assoc, List.drop_length_add_append,
    List.drop_append_of_le_length hofs]

/-- The number of messages that the first `n` elements hold completely. -/
def wholeMessages (M : Nat → List α) (n : Nat) : Nat :=
  Nat.findGreatest (fun k => (concat M k).length ≤ n) n

theorem wholeMessages_mono (M : Nat → List α) (h : n ≤ e) : wholeMessages M n ≤ wholeMessages M e :=
  Nat.findGreatest_mono (fun _ hk => hk.trans h) h

theorem length_concat_ge (hM : ∀ k, M k ≠ []) (n : Nat) : n ≤ (concat M n).length := by
  induction n with
  | zero => exact Nat.zero_le _
  | succ n ih =>
    have := List.length_pos_iff.mpr (hM n)
    rw [concat_length_succ]
    omega

theorem wholeMessages_eq (hM : ∀ k, M k ≠ []) {k ofs : Nat} (hofs : ofs < (M k).length) :
    wholeMessages M ((concat M k).length + ofs) = k := by
  have hle := length_concat_ge hM k
  apply Nat.le_antisymm
  · by_contra hlt
    have hspec := @Nat.findGreatest_spec 0 (fun i => (concat M i).length ≤ (concat M k).length + ofs)
      _ ((concat M k).length + ofs) (Nat.zero_le _) (Nat.zero_le _)
    have hmono := concat_length_le M (show k + 1 ≤ wholeMessages M ((concat M k).length + ofs) by omega)
    rw [concat_length_succ] at hmono
    unfold wholeMessages at hmono
    omega
  · exact Nat.le_findGreatest (by omega) (by omega)

end

/-! ## Chunks -/

/-- Chunk `j` of a message. -/
def chunk (L : Nat) (xs : List α) (j : Nat) : List α := (xs.drop (j * L)).take L

/-- Its length. -/
def chunkLen (L len j : Nat) : Nat := min L (len - j * L)

theorem length_chunk (L : Nat) (xs : List α) (j : Nat) :
    (chunk L xs j).length = chunkLen L xs.length j := by
  simp [chunk, chunkLen]

/-- The number of elements in the first `c` chunks of `len` elements that the vector names. -/
def chunkSum (L len v : Nat) : Nat → Nat
  | 0 => 0
  | c + 1 => chunkSum L len v c + if v.testBit c then chunkLen L len c else 0

section

variable {L len v : Nat}

theorem chunkSum_zero (L len c : Nat) : chunkSum L len 0 c = 0 := by
  induction c with
  | zero => rfl
  | succ c ih => simp [chunkSum, ih]

theorem chunkSum_set_of_ge {c j : Nat} (hc : c ≤ j) :
    chunkSum L len (v ||| 2 ^ j) c = chunkSum L len v c := by
  induction c with
  | zero => rfl
  | succ c ih =>
    have hbit : (v ||| 2 ^ j).testBit c = v.testBit c := by
      rw [Nat.testBit_or, Nat.testBit_two_pow_of_ne (by omega), Bool.or_false]
    rw [chunkSum, chunkSum, ih (by omega), hbit]

/-- A chunk that was missing counts once it is there. -/
theorem chunkSum_set {c j : Nat} (hc : j < c) (hbit : v.testBit j = false) :
    chunkSum L len (v ||| 2 ^ j) c = chunkSum L len v c + chunkLen L len j := by
  induction c with
  | zero => omega
  | succ c ih =>
    rw [chunkSum, chunkSum]
    by_cases hj : j = c
    · subst hj
      rw [chunkSum_set_of_ge le_rfl, Nat.testBit_or, Nat.testBit_two_pow_self, Bool.or_true, hbit]
      simp
    · have hsame : (v ||| 2 ^ j).testBit c = v.testBit c := by
        rw [Nat.testBit_or, Nat.testBit_two_pow_of_ne hj, Bool.or_false]
      rw [ih (by omega), hsame]
      omega

theorem chunkSum_all {c : Nat} (h : ∀ j, j < c → v.testBit j = true) :
    chunkSum L len v c = min (c * L) len := by
  induction c with
  | zero => simp [chunkSum]
  | succ c ih =>
    rw [chunkSum, ih fun j hj => h j (by omega), if_pos (h c (by omega)), chunkLen, Nat.add_mul]
    omega

theorem chunkSum_le (L len v c : Nat) : chunkSum L len v c ≤ min (c * L) len := by
  induction c with
  | zero => simp [chunkSum]
  | succ c ih =>
    rw [chunkSum, Nat.add_mul]
    split
    · rw [chunkLen]
      omega
    · omega

/-- A vector of `c` bits is full if and only if it names all chunks. -/
theorem eq_ones_iff {c : Nat} (hlt : ∀ j, v.testBit j = true → j < c) :
    v = 2 ^ c - 1 ↔ ∀ j, j < c → v.testBit j = true := by
  constructor
  · rintro rfl j hj
    rw [Nat.testBit_two_pow_sub_one]
    exact decide_eq_true hj
  · intro h
    apply Nat.eq_of_testBit_eq
    intro j
    rw [Nat.testBit_two_pow_sub_one]
    by_cases hj : j < c
    · rw [h j hj, decide_eq_true hj]
    · rw [decide_eq_false hj]
      exact Bool.eq_false_iff.mpr fun hbit => hj (hlt j hbit)

theorem lt_two_pow_of_bits {c : Nat} (hlt : ∀ j, v.testBit j = true → j < c) : v < 2 ^ c := by
  apply Nat.lt_pow_two_of_testBit
  intro j hj
  exact Bool.eq_false_iff.mpr fun hbit => absurd (hlt j hbit) (Nat.not_lt.mpr hj)

end

end Lib
