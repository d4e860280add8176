import NanoArq.Codec.Frame

/-!
# The image of the COBS encoder

The decoder turns every buffer that ends in its only zero into some bytes, also one whose code
bytes lead past the last index `e`. `CobsChain d e i` says that the code bytes from index `i` on
lead to `e` exactly; the buffers with `CobsChain d e 0` are the ones that the encoder produces.

* `CobsCoded.chain`: a coded buffer has this chain.
* `CobsChain.decoded`: along the chain, the decoder writes a zero at each of its places and
  nothing else, so the buffer is the coded form of what it leaves (`CobsDelimited.coded`).
-/

namespace NanoArq

/-- A buffer whose only zero up to index `e` is the byte at `e`. -/
structure CobsDelimited (d : Buf) (e : Nat) : Prop where
  ne_zero : ∀ i, i < e → d i ≠ 0
  last : d e = 0

/-- The code bytes of `d` from index `i` on lead to index `e`. -/
inductive CobsChain (d : Buf) (e : Nat) : Nat → Prop
  | last : CobsChain d e e
  | next {i : Nat} : i < e → CobsChain d e (i + (d i).toNat) → CobsChain d e i

variable {m d : Buf} {e : Nat}

theorem CobsCoded.chain (h : CobsCoded m d e) {i : Nat} (hi : i ≤ e)
    (hplace : i < e → i = 0 ∨ m i = 0) : CobsChain d e i := by
  induction hn : e - i using Nat.strong_induction_on generalizing i with
  | _ n ih =>
    rcases Nat.lt_or_eq_of_le hi with hlt | rfl
    · obtain ⟨j, hj⟩ := NextZero.exists m hlt
      have hcode := h.code i j hlt (hplace hlt) hj
      have hij := hj.lt
      have hje := hj.le
      have hnext : i + (d i).toNat = j := by omega
      apply CobsChain.next hlt
      rw [hnext]
      apply ih (e - j) (by omega) hje _ rfl
      intro hne
      rcases hj.stop with h' | h'
      · omega
      · exact Or.inr h'
    · exact CobsChain.last

/-- What the decoder leaves at the indices from `c` on: a zero at every place of the chain, and
the other bytes as they were. -/
structure CobsDecoded (d r : Buf) (e c : Nat) : Prop where
  first : c < e → r c = 0
  data : ∀ i, c ≤ i → i < e → r i ≠ 0 → r i = d i
  code : ∀ i, c ≤ i → i < e → r i = 0 → NextZero r e i (i + (d i).toNat)

theorem CobsChain.le {i : Nat} (h : CobsChain d e i) : i ≤ e := by
  cases h with
  | last => exact le_rfl
  | next hlt _ => exact hlt.le

/-- The rounds of the decoder from index `c` on leave the bytes before `c`. -/
theorem cobsDecodeGo_before : ∀ (fuel : Nat) (b : Buf) (c : Nat) {i : Nat}, i < c →
    (cobsDecodeGo e fuel b c).1 i = b i := by
  intro fuel
  induction fuel with
  | zero =>
    intro b c i _
    rfl
  | succ fuel ih =>
    intro b c i hi
    unfold cobsDecodeGo
    split
    · rw [ih _ _ (by omega), Function.update_of_ne (by omega)]
    · rfl

theorem CobsChain.decoded (hd : ∀ i, i < e → d i ≠ 0) {c : Nat} (hchain : CobsChain d e c) :
    ∀ (fuel : Nat) (b : Buf), e ≤ c + fuel → (∀ i, c ≤ i → b i = d i) →
      CobsDecoded d (cobsDecodeGo e fuel b c).1 e c := by
  induction hchain with
  | last =>
    intro fuel b _ _
    exact ⟨by omega, by omega, by omega⟩
  | @next c hlt hchain ih =>
    intro fuel b hfuel hb
    obtain _ | fuel := fuel
    · omega
    have hcode : (d c).toNat ≠ 0 := fun h0 => hd c hlt (UInt8.toNat_inj.mp h0)
    unfold cobsDecodeGo
    rw [if_pos hlt, hb c le_rfl]
    have hnext := ih fuel (Function.update b c 0) (by omega) (by
      intro i hi
      rw [Function.update_of_ne (by omega)]
      exact hb i (by omega))
    have hbefore := @cobsDecodeGo_before e fuel (Function.update b c 0) (c + (d c).toNat)
    generalize (cobsDecodeGo e fuel (Function.update b c 0) (c + (d c).toNat)).1 = r
      at hnext hbefore ⊢
    have hfirst : r c = 0 := by rw [hbefore (by omega), Function.update_self]
    have hbetween : ∀ i, c < i → i < c + (d c).toNat → r i = d i := by
      intro i hci hi
      rw [hbefore hi, Function.update_of_ne (by omega)]
      exact hb i (by omega)
    have hle := hchain.le
    refine ⟨fun _ => hfirst, ?_, ?_⟩
    · intro i hi hie hr
      rcases Nat.lt_or_ge i (c + (d c).toNat) with hin | hout
      · have hci : i ≠ c := fun h => hr (h ▸ hfirst)
        exact hbetween i (by omega) hin
      · exact hnext.data i hout hie hr
    · intro i hi hie hr
      rcases Nat.lt_or_ge i (c + (d c).toNat) with hin | hout
      · have hci : i = c := by
          by_contra hne
          rw [hbetween i (by omega) hin] at hr
          exact hd i hie hr
        subst hci
        refine ⟨by omega, hle, ?_, ?_⟩
        · intro k hk hki
          rw [hbetween k hk hki]
          exact hd k (by omega)
        · by_cases hend : i + (d i).toNat = e
          · exact Or.inl hend
          · exact Or.inr (hnext.first (by omega))
      · exact hnext.code i hout hie hr

/-- A delimited buffer with a chain to its end is the coded form of what the decoder leaves. -/
theorem CobsDelimited.coded {len : Nat} (h : CobsDelimited d (len - 1))
    (hchain : CobsChain d (len - 1) 0) : CobsCoded (cobsDecode d len) d (len - 1) := by
  have hdec : CobsDecoded d (cobsDecode d len) (len - 1) 0 :=
    hchain.decoded h.ne_zero (len - 1) d (by omega) fun _ _ => rfl
  refine ⟨?_, ?_, h.last⟩
  · intro i _ hi hm
    exact (hdec.data i (by omega) hi hm).symm
  · intro i j hi hplace hj
    have hzero : cobsDecode d len i = 0 := by
      rcases hplace with rfl | h0
      · exact hdec.first hi
      · exact h0
    have := hj.unique (hdec.code i (by omega) hi hzero)
    omega

theorem CobsCoded.delimited (h : CobsCoded m d e) : CobsDelimited d e :=
  ⟨fun _ hi => h.ne_zero hi, h.last⟩

theorem CobsChain.congr {d' : Buf} {i : Nat} (h : CobsChain d e i)
    (heq : ∀ k, k < e → d k = d' k) : CobsChain d' e i := by
  induction h with
  | last => exact CobsChain.last
  | @next i hlt _ ih =>
    rw [heq i hlt] at ih
    exact CobsChain.next hlt ih

/-- Encoding undoes decoding on a delimited buffer exactly when its code bytes lead to its last
index, and every result of encoding is such a buffer. -/
theorem cobsEncode_decode_iff {len : Nat} (hmin : 3 ≤ len) (hmax : len ≤ 256) :
    (∀ d : Buf, CobsDelimited d (len - 1) →
      ((∀ i, i < len → cobsEncode (cobsDecode d len) len i = d i) ↔ CobsChain d (len - 1) 0)) ∧
    ∀ m : Buf, CobsDelimited (cobsEncode m len) (len - 1) ∧
      CobsChain (cobsEncode m len) (len - 1) 0 := by
  have hcoded : ∀ m : Buf, CobsCoded m (cobsEncode m len) (len - 1) :=
    fun m => cobsEncode_coded m (by omega) (.of_lt (by omega))
  have hchain : ∀ m : Buf, CobsChain (cobsEncode m len) (len - 1) 0 :=
    fun m => (hcoded m).chain (by omega) fun _ => Or.inl rfl
  refine ⟨?_, fun m => ⟨(hcoded m).delimited, hchain m⟩⟩
  intro d hd
  constructor
  · intro hsame
    exact (hchain _).congr fun k hk => hsame k (by omega)
  · intro hc i hi
    exact (hcoded _).unique (hd.coded hc) (fun _ _ _ => rfl) (by omega)

/-- A buffer whose code bytes `3` and `2` lead to its end, and one whose second code byte leads past
it. -/
def codedBuf : Buf := Lib.memcpy (fun _ => 0) 0 [3, 7, 8, 2, 9]

def strayBuf : Buf := Lib.memcpy (fun _ => 0) 0 [3, 7, 8, 4, 9]

theorem cobsEncode_decode_iff_sample :
    (∀ i, i < 6 → cobsEncode (cobsDecode codedBuf 6) 6 i = codedBuf i) ∧
      ¬ (∀ i, i < 6 → cobsEncode (cobsDecode strayBuf 6) 6 i = strayBuf i) ∧
      ∀ m : Buf, CobsDelimited (cobsEncode m 256) 255 ∧ CobsChain (cobsEncode m 256) 255 0 := by
  refine ⟨?_, ?_, (@cobsEncode_decode_iff 256 (by decide) (by decide)).2⟩
  · have hchain : CobsChain codedBuf 5 0 := .next (by decide) (.next (by decide) .last)
    exact ((@cobsEncode_decode_iff 6 (by decide) (by decide)).1 codedBuf
      ⟨by decide, by decide⟩).mpr hchain
  · intro hsame
    have hchain : CobsChain strayBuf 5 0 :=
      ((@cobsEncode_decode_iff 6 (by decide) (by decide)).1 strayBuf ⟨by decide, by decide⟩).mp hsame
    cases hchain with
    | next _ hnext =>
      cases hnext with
      | next _ hpast =>
        cases hpast with
        | next hlt _ => exact absurd hlt (by decide)

end NanoArq
