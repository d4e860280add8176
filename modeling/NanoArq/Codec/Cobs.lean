import NanoArq.Model.Frame

/-!
# The COBS round trip

`arq__cobs_encode` patches a buffer in place: index `0` and every zero byte before the last
index `e` become the distance to the next such place (or to `e`), all other bytes stay, and
index `e` becomes the only zero. `CobsCoded m m' e` states this of a buffer `m` and its image
`m'`, through the relation `NextZero m e i j` ("`j` is the next place after `i`").

* `cobsEncode_coded`: the encoder produces a coded buffer.
* `CobsCoded.ne_zero`: it has no zero byte before `e`, as long as distances fit a byte.
* `cobsDecode_coded`: the decoder ends with its cursor on `e` and restores the bytes
  strictly between `0` and `e`.
-/

namespace NanoArq

open Lib

/-- `j` is the first index after `i` that is `e` or holds a zero. -/
structure NextZero (m : Buf) (e i j : Nat) : Prop where
  lt : i < j
  le : j ≤ e
  between : ∀ k, i < k → k < j → m k ≠ 0
  stop : j = e ∨ m j = 0

theorem NextZero.unique {m : Buf} {e i j j' : Nat} (h : NextZero m e i j)
    (h' : NextZero m e i j') : j = j' := by
  have key : ∀ {a b}, NextZero m e i a → NextZero m e i b → ¬ a < b := by
    intro a b ha hb hab
    rcases ha.stop with hae | ha0
    · have := hb.le
      omega
    · exact hb.between a ha.lt hab ha0
  have h₁ := key h h'
  have h₂ := key h' h
  omega

theorem NextZero.exists (m : Buf) {e i : Nat} (h : i < e) : ∃ j, NextZero m e i j := by
  induction hn : e - i generalizing i with
  | zero => omega
  | succ n ih =>
    by_cases hstop : i + 1 = e ∨ m (i + 1) = 0
    · exact ⟨i + 1, by omega, by omega, by omega, hstop⟩
    · obtain ⟨hne, hm⟩ := not_or.mp hstop
      have hnext : i + 1 < e := by omega
      obtain ⟨j, hj⟩ := ih hnext (by omega)
      refine ⟨j, by have := hj.lt; omega, hj.le, ?_, hj.stop⟩
      intro k hik hkj
      by_cases hk : k = i + 1
      · rw [hk]
        exact hm
      · exact hj.between k (by omega) hkj

/-- `m'` is the coded form of the bytes of `m` at the indices `1 … e - 1`. -/
structure CobsCoded (m m' : Buf) (e : Nat) : Prop where
  data : ∀ i, 0 < i → i < e → m i ≠ 0 → m' i = m i
  code : ∀ i j, i < e → (i = 0 ∨ m i = 0) → NextZero m e i j → (m' i).toNat = j - i
  last : m' e = 0

theorem CobsCoded.ne_zero {m m' : Buf} {e : Nat} (h : CobsCoded m m' e) {i : Nat} (hi : i < e) :
    m' i ≠ 0 := by
  intro h0
  by_cases hplace : i = 0 ∨ m i = 0
  · obtain ⟨j, hj⟩ := NextZero.exists m hi
    have hcode := h.code i j hi hplace hj
    have := hj.lt
    rw [h0] at hcode
    simp at hcode
    omega
  · obtain ⟨hpos, hm⟩ := not_or.mp hplace
    exact hm ((h.data i (by omega) hi hm).symm.trans h0)

theorem CobsCoded.congr {m m' m'' : Buf} {e : Nat} (h : CobsCoded m m' e)
    (heq : ∀ i, i ≤ e → m'' i = m' i) : CobsCoded m m'' e where
  data i hpos hi hm := (heq i hi.le).trans (h.data i hpos hi hm)
  code i j hi hplace hj := by rw [heq i hi.le, h.code i j hi hplace hj]
  last := (heq e le_rfl).trans h.last

/-! ## Encoding -/

/-- The distance from one place to the next fits a byte. -/
def GapsFit (m : Buf) (e : Nat) : Prop :=
  ∀ i j, (i = 0 ∨ m i = 0) → NextZero m e i j → j - i < 256

theorem GapsFit.of_lt {m : Buf} {e : Nat} (he : e < 256) : GapsFit m e := by
  intro i j _ hj
  have := hj.le
  omega

/-- A zero at `z` splits the distances. -/
theorem GapsFit.of_zero {m : Buf} {e z : Nat} (hzero : m z = 0) (hz : z < 256) (he : e < z + 256) :
    GapsFit m e := by
  intro i j _ hj
  have := hj.le
  have := hj.lt
  by_cases hi : z ≤ i
  · omega
  · have hle : j ≤ z := by
      by_contra hlt
      exact hj.between z (by omega) (by omega) hzero
    omega

/-- The state of the encoder's loop: everything before `patch` is coded, everything after it is
still as in `m`, and no zero lies between `patch` and the cursor `c`. -/
structure CobsPatched (m : Buf) (e : Nat) (mc : Buf) (patch c : Nat) : Prop where
  lt : patch < c
  place : patch = 0 ∨ m patch = 0
  between : ∀ k, patch < k → k < c → m k ≠ 0
  after : ∀ k, patch < k → mc k = m k
  data : ∀ i, 0 < i → i < patch → m i ≠ 0 → mc i = m i
  code : ∀ i j, i < patch → (i = 0 ∨ m i = 0) → NextZero m e i j → (mc i).toNat = j - i

/-- A zero (or the end) at the cursor fixes the code byte at `patch`. -/
theorem CobsPatched.fix {m : Buf} {e : Nat} {mc : Buf} {patch c : Nat}
    (h : CobsPatched m e mc patch c) (hce : c ≤ e) (hgaps : GapsFit m e) (hstop : c = e ∨ m c = 0) :
    ∀ i j, i < c → (i = 0 ∨ m i = 0) → NextZero m e i j →
      (Function.update mc patch (UInt8.ofNat (c - patch)) i).toNat = j - i := by
  intro i j hi hplace hj
  rcases Nat.lt_trichotomy i patch with hlt | rfl | hgt
  · rw [Function.update_of_ne (by omega)]
    exact h.code i j hlt hplace hj
  · have hnext : NextZero m e i c := ⟨h.lt, hce, h.between, hstop⟩
    have hc : j = c := hj.unique hnext
    have hgap := hgaps i c h.place hnext
    rw [Function.update_self, hc]
    simp
    omega
  · rcases hplace with h0 | h0
    · omega
    · exact absurd h0 (h.between i hgt hi)

theorem cobsEncodeGo_patched {m : Buf} {e : Nat} (hgaps : GapsFit m e) :
    ∀ (n : Nat) (mc : Buf) (patch c : Nat), c + n = e → CobsPatched m e mc patch c →
      CobsPatched m e (cobsEncodeGo mc patch c n).1 (cobsEncodeGo mc patch c n).2 e := by
  intro n
  induction n with
  | zero =>
    intro mc patch c hc h
    simpa [cobsEncodeGo, ← hc] using h
  | succ n ih =>
    intro mc patch c hc h
    have hmc : mc c = m c := h.after c h.lt
    unfold cobsEncodeGo
    split
    · rename_i hzero
      rw [hmc] at hzero
      refine ih _ _ _ (by omega) ⟨by omega, Or.inr hzero, by omega, ?_, ?_, ?_⟩
      · intro k hk
        have := h.lt
        rw [Function.update_of_ne (by omega)]
        exact h.after k (by omega)
      · intro i hpos hi hm
        rcases Nat.lt_trichotomy i patch with hlt | rfl | hgt
        · rw [Function.update_of_ne (by omega)]
          exact h.data i hpos hlt hm
        · rcases h.place with h0 | h0
          · omega
          · exact absurd h0 hm
        · rw [Function.update_of_ne (by omega)]
          exact h.after i hgt
      · exact h.fix (by omega) hgaps (Or.inr hzero)
    · rename_i hne
      rw [hmc] at hne
      refine ih _ _ _ (by omega) ⟨by have := h.lt; omega, h.place, ?_, h.after, h.data, h.code⟩
      intro k hk hkc
      by_cases hkeq : k = c
      · rw [hkeq]
        exact hne
      · exact h.between k hk (by omega)

theorem cobsEncode_coded (m : Buf) {len : Nat} (hlen : 2 ≤ len) (hgaps : GapsFit m (len - 1)) :
    CobsCoded m (cobsEncode m len) (len - 1) := by
  obtain ⟨e, rfl⟩ := Nat.exists_eq_add_of_le hlen
  rw [show 2 + e - 1 = 1 + e by omega] at hgaps ⊢
  have hstart : CobsPatched m (1 + e) m 0 1 :=
    ⟨by omega, Or.inl rfl, by omega, fun _ _ => rfl, by omega, by omega⟩
  have h := cobsEncodeGo_patched hgaps e m 0 1 rfl hstart
  have hfix := h.fix le_rfl hgaps (Or.inl rfl)
  have hlt := h.lt
  simp only [cobsEncode, Nat.add_sub_cancel_left]
  generalize cobsEncodeGo m 0 1 e = r at h hfix hlt
  refine ⟨?_, ?_, ?_⟩
  · intro i hpos hi hm
    rw [Function.update_of_ne (by omega)]
    rcases Nat.lt_trichotomy i r.2 with hlt' | rfl | hgt
    · rw [Function.update_of_ne (by omega)]
      exact h.data i hpos hlt' hm
    · rcases h.place with h0 | h0
      · omega
      · exact absurd h0 hm
    · rw [Function.update_of_ne (by omega)]
      exact h.after i hgt
  · intro i j hi hplace hj
    rw [Function.update_of_ne (by omega)]
    exact hfix i j hi hplace hj
  · exact Function.update_self _ _ _

/-! ## Decoding -/

theorem cobsDecodeGo_coded {m d : Buf} {e : Nat} (hcoded : CobsCoded m d e) :
    ∀ (fuel : Nat) (b : Buf) (c : Nat), e ≤ c + fuel → c ≤ e →
      (c < e → c = 0 ∨ m c = 0) → (∀ i, c ≤ i → b i = d i) →
      (∀ i, 0 < i → i < c → b i = m i) →
      (cobsDecodeGo e fuel b c).2 = e ∧
        ∀ i, 0 < i → i < e → (cobsDecodeGo e fuel b c).1 i = m i := by
  intro fuel
  induction fuel with
  | zero =>
    intro b c hfuel hce _ _ hdone
    obtain rfl : c = e := by omega
    exact ⟨rfl, hdone⟩
  | succ fuel ih =>
    intro b c hfuel hce hplace hrest hdone
    unfold cobsDecodeGo
    split
    · rename_i hlt
      obtain ⟨j, hj⟩ := NextZero.exists m hlt
      have hcode := hcoded.code c j hlt (hplace hlt) hj
      have hgt := hj.lt
      have hle := hj.le
      have hnext : c + (b c).toNat = j := by
        rw [hrest c le_rfl, hcode]
        omega
      rw [hnext]
      refine ih _ _ (by omega) hle ?_ ?_ ?_
      · intro hje
        rcases hj.stop with h | h
        · omega
        · exact Or.inr h
      · intro i hi
        rw [Function.update_of_ne (by omega)]
        exact hrest i (by omega)
      · intro i hpos hi
        rcases Nat.lt_trichotomy i c with hic | rfl | hic
        · rw [Function.update_of_ne (by omega)]
          exact hdone i hpos hic
        · rcases hplace hlt with h | h
          · omega
          · rw [Function.update_self, h]
        · rw [Function.update_of_ne (by omega), hrest i (by omega)]
          exact hcoded.data i hpos (by omega) (hj.between i hic hi)
    · obtain rfl : c = e := by omega
      exact ⟨rfl, hdone⟩

/-- On bytes that are not zero every round of the decoder moves its cursor, so it ends. -/
theorem cobsDecodeGo_ends {e : Nat} :
    ∀ (fuel : Nat) (m : Buf) (c : Nat), e ≤ c + fuel → (∀ i, c ≤ i → i < e → m i ≠ 0) →
      e ≤ (cobsDecodeGo e fuel m c).2 := by
  intro fuel
  induction fuel with
  | zero =>
    intro m c hfuel _
    exact hfuel
  | succ fuel ih =>
    intro m c hfuel hm
    unfold cobsDecodeGo
    split
    · rename_i hlt
      have hpos : (m c).toNat ≠ 0 := by
        intro h0
        exact hm c le_rfl hlt (UInt8.toNat_inj.mp h0)
      apply ih
      · omega
      · intro i hi hie
        rw [Function.update_of_ne (by omega)]
        exact hm i (by omega) hie
    · rename_i hge
      exact Nat.not_lt.mp hge

/-- Decoding a coded buffer ends on the last index and restores the bytes before it. -/
theorem cobsDecode_coded {m d : Buf} {len : Nat} (hcoded : CobsCoded m d (len - 1)) :
    (cobsDecodeGo (len - 1) (len - 1) d 0).2 = len - 1 ∧
      ∀ i, 0 < i → i < len - 1 → cobsDecode d len i = m i :=
  cobsDecodeGo_coded hcoded (len - 1) d 0 (by omega) (by omega) (fun _ => Or.inl rfl)
    (fun _ _ => rfl) (by omega)

end NanoArq
