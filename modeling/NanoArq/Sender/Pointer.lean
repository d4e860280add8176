import NanoArq.Sender.Poll

/-!
# The send pointer

Where `arq__send_wnd_ptr_next` can leave the send pointer. `arq__ctz(~x)` is the number of the
first zero bit of `x` (`ctz_not32`); below a vector `2 ^ c - 1` that is one of the first `c` bits
(`lt_of_first_zero`).

* `ptrAdvance_spec`: a valid pointer moves to the next segment that is not acknowledged.
* `sendWndPtrNext_cases`: after the call the pointer is valid because it stayed in its message
  (`ptrInside`) or because the search found another one (`ptrSelects`).
-/

namespace NanoArq

/-! ## The first zero bit -/

/-- `j` is the first zero bit of `x`. -/
structure FirstZero (x j : Nat) : Prop where
  zero : x.testBit j = false
  ones : ∀ i, i < j → x.testBit i = true

theorem ctzGo_compl (n x : Nat) (hx : x + 1 < 2 ^ n) :
    FirstZero x (ctzGo n (2 ^ n - 1 - x)) ∧ ctzGo n (2 ^ n - 1 - x) < n := by
  induction n generalizing x with
  | zero => simp at hx
  | succ n ih =>
    rw [Nat.pow_succ] at hx
    unfold ctzGo
    by_cases hodd : x % 2 = 1
    · have heven : ¬ (2 ^ (n + 1) - 1 - x) % 2 = 1 := by
        rw [Nat.pow_succ]
        omega
      have hhalf : (2 ^ (n + 1) - 1 - x) / 2 = 2 ^ n - 1 - x / 2 := by
        rw [Nat.pow_succ]
        omega
      obtain ⟨⟨hzero, hones⟩, hlt⟩ := ih (x / 2) (by omega)
      rw [if_neg heven, hhalf]
      refine ⟨⟨?_, ?_⟩, by omega⟩
      · rw [Nat.testBit_succ]
        exact hzero
      · intro i hi
        cases i with
        | zero => simpa [Nat.testBit_zero] using hodd
        | succ i =>
          rw [Nat.testBit_succ]
          exact hones i (by omega)
    · have hodd' : (2 ^ (n + 1) - 1 - x) % 2 = 1 := by
        rw [Nat.pow_succ]
        omega
      rw [if_pos hodd']
      refine ⟨⟨by simpa [Nat.testBit_zero] using hodd, ?_⟩, by omega⟩
      intro i hi
      exact absurd hi (Nat.not_lt_zero i)

theorem ctz_not32 {x : Nat} (hx : x < 4294967295) :
    FirstZero x (ctz (not32 x)) ∧ ctz (not32 x) < 32 := by
  have hmod : x % 4294967296 = x := Nat.mod_eq_of_lt (by omega)
  have hpow : 2 ^ 32 = 4294967296 := rfl
  have := ctzGo_compl 32 x (by omega)
  unfold ctz not32
  rwa [hmod, ← hpow]

/-- A number with its first `n` bits set is not below `2 ^ n - 1`. -/
theorem le_of_ones {x n : Nat} (h : ∀ i, i < n → x.testBit i = true) : 2 ^ n - 1 ≤ x := by
  have hmod : x % 2 ^ n = 2 ^ n - 1 := by
    apply Nat.eq_of_testBit_eq
    intro i
    rw [Nat.testBit_mod_two_pow, Nat.testBit_two_pow_sub_one]
    by_cases hi : i < n
    · rw [h i hi, Bool.and_true]
    · simp [hi]
  calc 2 ^ n - 1 = x % 2 ^ n := hmod.symm
    _ ≤ x := Nat.mod_le _ _

theorem lt_of_first_zero {x j c : Nat} (h : FirstZero x j) (hx : x < 2 ^ c - 1) : j < c := by
  by_contra hge
  have := le_of_ones fun i (hi : i < c) => h.ones i (by omega)
  omega

/-! ## Moving the pointer -/

/-- The pointer moves past acknowledged segments, to one that is not. -/
theorem ptrAdvance_spec {p : SendWndPtr} {m : Msg} (hcur : m.curAckVec < 65536)
    (hseg : p.seg ≤ 16) :
    p.seg < ptrAdvance p m ∧ m.curAckVec.testBit (ptrAdvance p m) = false ∧
      ∀ i, p.seg < i → i < ptrAdvance p m → m.curAckVec.testBit i = true := by
  have hdiv : m.curAckVec / 2 ^ (p.seg + 1) < 65536 :=
    Nat.lt_of_le_of_lt (Nat.div_le_self _ _) hcur
  obtain ⟨⟨hzero, hones⟩, hlt⟩ :=
    ctz_not32 (show m.curAckVec / 2 ^ (p.seg + 1) < 4294967295 by omega)
  have hadv : ptrAdvance p m =
      p.seg + 1 + ctz (not32 (m.curAckVec / 2 ^ (p.seg + 1))) := by
    unfold ptrAdvance
    rw [u16_of_lt (show 1 + ctz (not32 (m.curAckVec / 2 ^ (p.seg + 1))) < 65536 by omega),
      u16_of_lt (by omega)]
    omega
  rw [hadv]
  refine ⟨by omega, ?_, ?_⟩
  · rw [Nat.testBit_div_two_pow] at hzero
    rw [Nat.add_comm]
    exact hzero
  · intro i hi hlt'
    have hone := hones (i - (p.seg + 1)) (by omega)
    rw [Nat.testBit_div_two_pow] at hone
    rwa [Nat.sub_add_cancel hi] at hone

/-- The segment at which the search of `arq__send_wnd_ptr_next` stops for message `i`. -/
def ptrAt (w : Wnd) (i : Nat) : SendWndPtr where
  seq := u16 ((i + w.seq) % seqSpace)
  seg := u16 (ctz (not32 (w.msg ((i + w.seq) % seqSpace % w.cap)).curAckVec))
  valid := true

/-- What the search of `arq__send_wnd_ptr_next` finds: the first message it can select. -/
theorem sendWndPtrSearch_cases (p : SendWndPtr) (sw : SendWnd) :
    (∃ i, i < sw.w.size ∧ ptrSelects p sw i ∧ (∀ k, k < i → ¬ ptrSelects p sw k) ∧
        sendWndPtrSearch p sw = ptrAt sw.w i) ∨
      ((∀ i, i < sw.w.size → ¬ ptrSelects p sw i) ∧
        sendWndPtrSearch p sw = { p with valid := false }) := by
  unfold sendWndPtrSearch
  cases hfind : (List.range sw.w.size).find? (fun i => ptrSelects p sw i) with
  | none =>
    refine Or.inr ⟨?_, rfl⟩
    intro i hi
    have := List.find?_eq_none.mp hfind i (List.mem_range.mpr hi)
    simpa using this
  | some i =>
    obtain ⟨hsel, hi, hfirst⟩ := List.find?_range_eq_some.mp hfind
    refine Or.inl ⟨i, List.mem_range.mp hi, by simpa using hsel, ?_, rfl⟩
    intro k hk
    simpa using hfirst k hk

/-- The pointer stays in its message, or the search decides. -/
theorem sendWndPtrNext_cases (p : SendWndPtr) (sw : SendWnd) :
    (p.valid = true ∧ ptrInside p (sw.w.msg (p.seq % sw.w.cap)) ∧
        (sendWndPtrNext p sw).1 =
          { p with seg := ptrAdvance p (sw.w.msg (p.seq % sw.w.cap)) }) ∨
      ∃ p', (sendWndPtrNext p sw).1 = sendWndPtrSearch p' sw := by
  unfold sendWndPtrNext
  split
  · rename_i hp
    dsimp only
    split
    · rename_i hin
      exact Or.inl ⟨hp, hin, rfl⟩
    · exact Or.inr ⟨_, rfl⟩
  · exact Or.inr ⟨p, rfl⟩

/-- Only a message under the pointer is completed. -/
theorem sendWndPtrNext_completed {p : SendWndPtr} {sw : SendWnd}
    (h : (sendWndPtrNext p sw).2 = .completedMsg) : p.valid = true := by
  unfold sendWndPtrNext at h
  split at h
  · rename_i hp
    exact hp
  · cases h

section

variable {d : Dims} {sw : SendWnd} {base : Nat} {content : List UInt8}

/-- The message the search stops at, by its index in the window. -/
structure Selected (d : Dims) (sw : SendWnd) (base i : Nat) (p : SendWndPtr) : Prop where
  lt : i < sw.w.size
  seq : p.seq = (base + i) % seqSpace
  rtx : sw.rtx ((base + i) % d.cap) = 0
  open_ : (sw.w.msg ((base + i) % d.cap)).curAckVec < (sw.w.msg ((base + i) % d.cap)).fullAckVec
  seg : p.seg = ctz (not32 (sw.w.msg ((base + i) % d.cap)).curAckVec)

theorem ctz_lt (x : Nat) : ctz x ≤ 32 := by
  have hgo : ∀ n x, ctzGo n x ≤ n := by
    intro n
    induction n with
    | zero =>
      intro x
      exact le_rfl
    | succ n ih =>
      intro x
      unfold ctzGo
      split
      · exact Nat.zero_le _
      · exact Nat.succ_le_succ (ih _)
  exact hgo 32 x

theorem search_selected (hl : SendLayout d sw.w base content) {p p' : SendWndPtr}
    (hp : p = sendWndPtrSearch p' sw) (hvalid : p.valid = true) : ∃ i, Selected d sw base i p := by
  rcases sendWndPtrSearch_cases p' sw with ⟨i, hi, ⟨-, hrtx, -, hopen⟩, -, hres⟩ | ⟨-, hnone⟩
  · have hslot : (i + sw.w.seq) % seqSpace % sw.w.cap = (base + i) % d.cap := by
      rw [hl.seq, hl.shape.cap, Nat.add_comm, Nat.mod_add_mod, Nat.mod_mod_of_dvd _ d.cap_dvd]
    have hseq : (i + sw.w.seq) % seqSpace = (base + i) % seqSpace := by
      rw [hl.seq, Nat.add_comm, Nat.mod_add_mod]
    have hlt : (base + i) % seqSpace < 4096 := Nat.mod_lt _ (by decide)
    dsimp only at hrtx hopen
    rw [hslot] at hrtx hopen
    rw [← hp, ptrAt, hslot, hseq, u16_of_lt (by omega),
      u16_of_lt (Nat.lt_of_le_of_lt (ctz_lt _) (by decide))] at hres
    exact ⟨i, hi, by rw [hres], hrtx, hopen, by rw [hres]⟩
  · rw [← hp] at hnone
    rw [hnone] at hvalid
    cases hvalid

end

end NanoArq
