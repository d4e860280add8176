import Mathlib.Tactic.Common

/-!
# The handshake as a protocol

Two parties open a connection over two queues of flags. A party asks with `rst`, answers a request
with `rstAck`, and confirms with `ack`; two parties that have both asked answer each other's `rst`
with `ack`.

`Party.Step` is what a party may do with the flag at the head of its queue, or without one. A party
that is asked to do something else has lost step with its peer. `Agree` is the joint invariant of
the parties and the queues: `Agree.poll` and `Agree.connect` keep it, and under it no party that
has asked first meets a flag it has no step for (`Agree.in_step`).
-/

namespace NanoArq.Handshake

inductive Flag where
  | rst
  | rstAck
  | ack
deriving DecidableEq, Repr

/-- A party that opens has `asked` when it has sent an `rst`, is `crossed` when it has received
one, and `answered` when it has received an `rstAck`. -/
inductive Party where
  | closed
  | opening (asked crossed answered : Bool)
  | answering
  | established
deriving DecidableEq, Repr

/-- The flag that is received, if any, the party afterwards, and the flag that is sent, if any. -/
inductive Party.Step : Party → Option Flag → Party → Option Flag → Prop
  | wait (p : Party) : Step p none p none
  | accept : Step .closed (some .rst) .answering (some .rstAck)
  | ask {a : Bool} : Step (.opening a false false) none (.opening true false false) (some .rst)
  | cross {c r : Bool} : Step (.opening true c r) (some .rst) (.opening true true r) none
  | note {a c r : Bool} : Step (.opening a c r) (some .rstAck) (.opening a c true) none
  | confirm {a r : Bool} : Step (.opening a true r) none .established (some .ack)
  | confirmAgain {a r : Bool} : Step (.opening a true r) none .established (some .rstAck)
  | confirmNoted {a c : Bool} : Step (.opening a c true) none .established (some .ack)
  | confirmRst {c r : Bool} : Step (.opening true c r) (some .rst) .established (some .ack)
  | confirmRstAck {a c r : Bool} :
      Step (.opening a c r) (some .rstAck) .established (some .ack)
  | repeatAnswer {f : Option Flag} (hf : f = none ∨ f = some .rst) :
      Step .answering f .answering (some .rstAck)
  | hold : Step .answering (some .rst) .answering none
  | complete {f : Flag} (hf : f ≠ .rst) : Step .answering (some f) .established none
  | ignore (f : Option Flag) : Step .established f .established none

def Party.isOpening : Party → Bool
  | .opening .. => true
  | _ => false

/-- The party opens and has not received the peer's `rst`. -/
def Party.uncrossed : Party → Bool
  | .opening _ false _ => true
  | _ => false

/-- The party has asked, or has received a flag that proves that it should have. -/
def Party.hasAsked : Party → Bool
  | .opening a c _ => a || c
  | .established => true
  | _ => false

/-! ## Both parties open -/

/-- From `x` to `y`, both of which have opened: requests, and at most one confirmation behind
them. -/
structure Crossing (x y : Party) (q : List Flag) : Prop where
  active : x.isOpening = true ∨ x = .established
  noted : ∀ a c r, x = .opening a c r → r = true → c = true
  queue : ∃ n t, q = List.replicate n .rst ++ t ∧ (t = [] ∨ t = [.ack] ∨ t = [.rstAck]) ∧
    (x.isOpening = true → t = []) ∧ (y.uncrossed = true → x.hasAsked = true → n ≠ 0)

variable {x y x' : Party} {q xy yx : List Flag}

/-- The receiver takes a flag and is no longer uncrossed. -/
theorem Crossing.pop {f : Flag} (h : Crossing x y (f :: q)) {y' : Party}
    (hy : y'.uncrossed = false) : Crossing x y' q := by
  obtain ⟨hactive, hnoted, n, t, hq, ht, hopen, -⟩ := h
  refine ⟨hactive, hnoted, ?_⟩
  cases n with
  | zero =>
    have hq' : f :: q = t := by simpa using hq
    rcases ht with rfl | rfl | rfl
    · cases hq'
    · obtain ⟨-, rfl⟩ := List.cons.inj hq'
      exact ⟨0, [], rfl, Or.inl rfl, fun _ => rfl, by simp [hy]⟩
    · obtain ⟨-, rfl⟩ := List.cons.inj hq'
      exact ⟨0, [], rfl, Or.inl rfl, fun _ => rfl, by simp [hy]⟩
  | succ n =>
    obtain ⟨-, rfl⟩ := List.cons.inj hq
    exact ⟨n, t, rfl, ht, hopen, by simp [hy]⟩

theorem Crossing.receiver (h : Crossing x y q) {y' : Party}
    (hy : y'.uncrossed = true → y.uncrossed = true) : Crossing x y' q := by
  obtain ⟨hactive, hnoted, n, t, hq, ht, hopen, hasked⟩ := h
  exact ⟨hactive, hnoted, n, t, hq, ht, hopen, fun hu => hasked (hy hu)⟩

/-- An uncrossed party receives nothing but the peer's first `rst`. -/
theorem Crossing.first {f : Flag} (h : Crossing x y (f :: q)) (hy : y.uncrossed = true) :
    f = .rst := by
  obtain ⟨hactive, -, n, t, hq, ht, hopen, hasked⟩ := h
  cases n with
  | zero =>
    have hq' : f :: q = t := by simpa using hq
    have hnot : ¬ x.isOpening = true := by
      intro hx
      rw [hopen hx] at hq'
      cases hq'
    have hx : x = .established := by
      rcases hactive with hx | hx
      · exact absurd hx hnot
      · exact hx
    exact absurd rfl (hasked hy (by rw [hx]; rfl))
  | succ n => exact (List.cons.inj hq).1

/-- The sender confirms. -/
theorem Crossing.confirm (h : Crossing x y q) (hx : x.isOpening = true) (hasked : x.hasAsked = true)
    {f : Flag} (hf : f = .ack ∨ f = .rstAck) : Crossing .established y (q ++ [f]) := by
  obtain ⟨-, -, n, t, hq, -, hopen, hn⟩ := h
  obtain rfl := hopen hx
  refine ⟨Or.inr rfl, by simp, n, [f], ?_, ?_, by simp [Party.isOpening], fun hy _ => hn hy hasked⟩
  · rw [hq, List.append_nil]
  · rcases hf with rfl | rfl
    · exact Or.inr (Or.inl rfl)
    · exact Or.inr (Or.inr rfl)

/-! ## The joint invariant -/

/-- Only `x` has asked. -/
inductive Half : Party → Party → List Flag → List Flag → Prop
  | asked (a : Bool) (n : Nat) (hn : a = true → n ≠ 0) :
      Half (.opening a false false) .closed (List.replicate n .rst) []
  | answered (a r : Bool) (n m : Nat) :
      Half (.opening a false r) .answering (List.replicate n .rst) (List.replicate m .rstAck)
  | confirmed (n m : Nat) :
      Half .established .answering (List.replicate n .rst ++ [.ack]) (List.replicate m .rstAck)

/-- The parties `x` and `y` agree, with the queues `xy` and `yx` between them. -/
def Agree (x y : Party) (xy yx : List Flag) : Prop :=
  (x = .closed ∧ y = .closed ∧ xy = [] ∧ yx = []) ∨ Half x y xy yx ∨ Half y x yx xy ∨
    (Crossing x y xy ∧ Crossing y x yx) ∨ (x = .established ∧ y = .established)

theorem Agree.swap (h : Agree x y xy yx) : Agree y x yx xy := by
  obtain ⟨h₁, h₂, h₃, h₄⟩ | h | h | ⟨h₁, h₂⟩ | ⟨h₁, h₂⟩ := h
  · exact Or.inl ⟨h₂, h₁, h₄, h₃⟩
  · exact Or.inr (Or.inr (Or.inl h))
  · exact Or.inr (Or.inl h)
  · exact Or.inr (Or.inr (Or.inr (Or.inl ⟨h₂, h₁⟩)))
  · exact Or.inr (Or.inr (Or.inr (Or.inr ⟨h₂, h₁⟩)))

/-- `f` is what the party takes from its queue `q`, and `q'` is left. -/
inductive Takes : List Flag → Option Flag → List Flag → Prop
  | none (q : List Flag) : Takes q none q
  | some (f : Flag) (q : List Flag) : Takes (f :: q) (some f) q

theorem takes_replicate {n : Nat} {f : Flag} {i : Option Flag} (h : Takes (List.replicate n f) i q) :
    (i = none ∧ q = List.replicate n f) ∨
      ∃ k, n = k + 1 ∧ i = some f ∧ q = List.replicate k f := by
  generalize hl : List.replicate n f = l at h ⊢
  cases h with
  | none => exact Or.inl ⟨rfl, rfl⟩
  | some g q =>
    cases n with
    | zero => cases hl
    | succ k =>
      obtain ⟨rfl, rfl⟩ := List.cons.inj hl
      exact Or.inr ⟨k, rfl, rfl, rfl⟩

theorem Half.poll {i o : Option Flag} (h : Half x y xy yx) (ht : Takes yx i q)
    (hs : Party.Step x i x' o) : Agree x' y (xy ++ o.toList) q := by
  cases h with
  | asked a n hn =>
    cases ht
    cases hs with
    | wait => exact Or.inr (Or.inl (by simpa using Half.asked a n hn))
    | ask =>
      have h := Half.asked true (n + 1) (by simp)
      rw [List.replicate_succ'] at h
      exact Or.inr (Or.inl h)
  | answered a r n m =>
    obtain ⟨rfl, rfl⟩ | ⟨k, rfl, rfl, rfl⟩ := takes_replicate ht
    · cases hs with
      | wait => exact Or.inr (Or.inl (by simpa using Half.answered a r n m))
      | ask =>
        have h := Half.answered true false (n + 1) m
        rw [List.replicate_succ'] at h
        exact Or.inr (Or.inl h)
      | confirmNoted => exact Or.inr (Or.inl (Half.confirmed n m))
    · cases hs with
      | note => exact Or.inr (Or.inl (by simpa using Half.answered a true n k))
      | confirmRstAck => exact Or.inr (Or.inl (Half.confirmed n k))
  | confirmed n m =>
    have hx : x' = .established ∧ o = none := by
      cases hs <;> exact ⟨rfl, rfl⟩
    obtain ⟨rfl, rfl⟩ := hx
    obtain ⟨rfl, rfl⟩ | ⟨k, rfl, rfl, rfl⟩ := takes_replicate ht
    · exact Or.inr (Or.inl (by simpa using Half.confirmed n m))
    · exact Or.inr (Or.inl (by simpa using Half.confirmed n k))

/-- An answering party repeats its answer, or completes. -/
theorem Party.Step.from_answering {i o : Option Flag} (hs : Party.Step .answering i x' o) :
    (x' = .answering ∧ (i = none ∨ i = some .rst) ∧
        ∃ k, o.toList = List.replicate k .rstAck) ∨
      (x' = .established ∧ o = none ∧ ∃ f, i = some f ∧ f ≠ .rst) := by
  cases hs with
  | wait => exact Or.inl ⟨rfl, Or.inl rfl, 0, rfl⟩
  | repeatAnswer hf => exact Or.inl ⟨rfl, hf, 1, rfl⟩
  | hold => exact Or.inl ⟨rfl, Or.inr rfl, 0, rfl⟩
  | complete hf => exact Or.inr ⟨rfl, rfl, _, rfl, hf⟩

theorem Half.poll_peer {i o : Option Flag} (h : Half y x yx xy) (ht : Takes yx i q)
    (hs : Party.Step x i x' o) : Agree x' y (xy ++ o.toList) q := by
  cases h with
  | asked a n hn =>
    obtain ⟨rfl, rfl⟩ | ⟨k, rfl, rfl, rfl⟩ := takes_replicate ht
    · cases hs
      exact Or.inr (Or.inr (Or.inl (Half.asked a n hn)))
    · cases hs
      exact Or.inr (Or.inr (Or.inl (Half.answered a false k 1)))
  | answered a r n m =>
    obtain ⟨rfl, -, j, hj⟩ | ⟨rfl, rfl, f, hf, hne⟩ := hs.from_answering
    · rw [hj, List.replicate_append_replicate]
      obtain ⟨-, rfl⟩ | ⟨k, -, -, rfl⟩ := takes_replicate ht
      · exact Or.inr (Or.inr (Or.inl (Half.answered a r n (m + j))))
      · exact Or.inr (Or.inr (Or.inl (Half.answered a r k (m + j))))
    · obtain ⟨hi, -⟩ | ⟨k, -, hi, -⟩ := takes_replicate ht
      · rw [hf] at hi
        cases hi
      · rw [hf] at hi
        cases hi
        exact absurd rfl hne
  | confirmed n m =>
    obtain ⟨rfl, hi, j, hj⟩ | ⟨rfl, rfl, -⟩ := hs.from_answering
    · rw [hj, List.replicate_append_replicate]
      generalize hl : List.replicate n Flag.rst ++ [.ack] = l at ht
      cases ht with
      | none =>
        rw [← hl]
        exact Or.inr (Or.inr (Or.inl (Half.confirmed n (m + j))))
      | some f q =>
        cases n with
        | zero =>
          obtain ⟨rfl, -⟩ := List.cons.inj hl
          simp at hi
        | succ n =>
          obtain ⟨-, rfl⟩ := List.cons.inj hl
          exact Or.inr (Or.inr (Or.inl (Half.confirmed n (m + j))))
    · exact Or.inr (Or.inr (Or.inr (Or.inr ⟨rfl, rfl⟩)))

theorem Crossing.take {i : Option Flag} (h : Crossing y x q) {q' : List Flag} (ht : Takes q i q')
    (hx : x'.uncrossed = true → i = none ∧ x.uncrossed = true) : Crossing y x' q' := by
  cases ht with
  | none => exact h.receiver fun hu => (hx hu).2
  | some f q =>
    refine h.pop ?_
    cases hu : x'.uncrossed with
    | false => rfl
    | true => cases (hx hu).1

/-- The sender asks, or asks again. -/
theorem Crossing.ask (h : Crossing x y q) (hx : x.isOpening = true) {a' : Bool} :
    Crossing (.opening a' false false) y (q ++ [.rst]) := by
  obtain ⟨-, -, n, t, hq, -, hopen, -⟩ := h
  obtain rfl := hopen hx
  refine ⟨Or.inl rfl, ?_, n + 1, [], ?_, Or.inl rfl, fun _ => rfl, fun _ _ => Nat.succ_ne_zero n⟩
  · rintro a c r heq hr
    cases heq
    cases hr
  · rw [hq, List.append_nil, List.append_nil, List.replicate_succ']

/-- The sender's own notes change, and it had asked if they count as that. -/
theorem Crossing.sender (h : Crossing x y q) {a c r : Bool} (hx : x.isOpening = true)
    (hasked : (a || c) = true → x.hasAsked = true) (hr : r = true → c = true) :
    Crossing (.opening a c r) y q := by
  obtain ⟨-, -, n, t, hq, ht, hopen, hn⟩ := h
  refine ⟨Or.inl rfl, ?_, n, t, hq, ht, fun _ => hopen hx, fun hy ha => hn hy (hasked ha)⟩
  rintro a' c' r' heq hr'
  cases heq
  exact hr hr'

/-- An opening party that receives something other than an `rst` has been crossed. -/
theorem Crossing.crossed {f : Flag} {a c r : Bool} (h : Crossing y (.opening a c r) yx)
    (ht : Takes yx (some f) q) (hf : f ≠ .rst) : c = true := by
  cases ht
  cases c with
  | true => rfl
  | false => exact absurd (h.first rfl) hf

/-- Both open, and `x` moves. -/
theorem Crossing.poll {i o : Option Flag} (hx : Crossing x y xy) (hy : Crossing y x yx)
    (ht : Takes yx i q) (hs : Party.Step x i x' o) :
    Crossing x' y (xy ++ o.toList) ∧ Crossing y x' q := by
  cases hs with
  | wait =>
    refine ⟨by simpa using hx, hy.take ht fun hu => ⟨rfl, hu⟩⟩
  | accept => exact absurd hx.active (by simp [Party.isOpening])
  | ask => exact ⟨hx.ask rfl, hy.take ht fun _ => ⟨rfl, rfl⟩⟩
  | cross =>
    refine ⟨?_, hy.take ht (by simp [Party.uncrossed])⟩
    simpa using hx.sender rfl (fun _ => rfl) (fun _ => rfl)
  | note =>
    obtain rfl := hy.crossed ht (by decide)
    refine ⟨?_, hy.take ht (by simp [Party.uncrossed])⟩
    simpa using hx.sender rfl (fun h => h) (fun _ => rfl)
  | confirm =>
    exact ⟨hx.confirm rfl (by simp [Party.hasAsked]) (Or.inl rfl),
      hy.take ht (by simp [Party.uncrossed])⟩
  | confirmAgain =>
    exact ⟨hx.confirm rfl (by simp [Party.hasAsked]) (Or.inr rfl),
      hy.take ht (by simp [Party.uncrossed])⟩
  | @confirmNoted a c =>
    obtain rfl := hx.noted a c true rfl rfl
    exact ⟨hx.confirm rfl (by simp [Party.hasAsked]) (Or.inl rfl),
      hy.take ht (by simp [Party.uncrossed])⟩
  | confirmRst =>
    exact ⟨hx.confirm rfl rfl (Or.inl rfl), hy.take ht (by simp [Party.uncrossed])⟩
  | confirmRstAck =>
    obtain rfl := hy.crossed ht (by decide)
    exact ⟨hx.confirm rfl (by simp [Party.hasAsked]) (Or.inl rfl),
      hy.take ht (by simp [Party.uncrossed])⟩
  | repeatAnswer | hold | complete => exact absurd hx.active (by simp [Party.isOpening])
  | ignore =>
    exact ⟨by simpa using hx, hy.take ht (by simp [Party.uncrossed])⟩

/-! ## The rules -/

theorem Agree.start : Agree .closed .closed [] [] := Or.inl ⟨rfl, rfl, rfl, rfl⟩

/-- A poll of `x` keeps the agreement. -/
theorem Agree.poll {i o : Option Flag} (h : Agree x y xy yx) (ht : Takes yx i q)
    (hs : Party.Step x i x' o) : Agree x' y (xy ++ o.toList) q := by
  obtain ⟨rfl, rfl, rfl, rfl⟩ | h | h | ⟨hx, hy⟩ | ⟨rfl, rfl⟩ := h
  · cases ht
    cases hs
    exact .start
  · exact h.poll ht hs
  · exact h.poll_peer ht hs
  · exact Or.inr (Or.inr (Or.inr (Or.inl (hx.poll hy ht hs))))
  · have hx : x' = .established := by
      cases hs <;> rfl
    exact Or.inr (Or.inr (Or.inr (Or.inr ⟨hx, rfl⟩)))

/-- A closed party opens. -/
theorem Agree.connect (h : Agree .closed y xy yx) :
    Agree (.opening false false false) y xy yx := by
  obtain ⟨-, rfl, rfl, rfl⟩ | h | h | ⟨hx, -⟩ | ⟨hx, -⟩ := h
  · exact Or.inr (Or.inl (Half.asked false 0 (by simp)))
  · cases h
  · cases h with
    | asked a n hn =>
      refine Or.inr (Or.inr (Or.inr (Or.inl ⟨⟨Or.inl rfl, ?_, 0, [], rfl, Or.inl rfl,
        fun _ => rfl, ?_⟩, ⟨Or.inl rfl, ?_, n, [], ?_, Or.inl rfl, fun _ => rfl, ?_⟩⟩)))
      · rintro a c r heq hr
        cases heq
        cases hr
      · simp [Party.hasAsked]
      · rintro a c r heq hr
        cases heq
        cases hr
      · rw [List.append_nil]
      · intro _
        simpa [Party.hasAsked] using hn
  · exact absurd hx.active (by simp [Party.isOpening])
  · cases hx

/-- A party that agrees with its peer does not meet a flag that it has no answer to, except an
`ack` when it is crossed. -/
theorem Agree.in_step {f : Flag} (h : Agree x y xy yx) (ht : Takes yx (some f) q) :
    (x = .closed → f = .rst) ∧ (∀ a c r, x = .opening a c r → f = .ack → c = true) := by
  obtain ⟨rfl, rfl, rfl, rfl⟩ | h | h | ⟨hx, hy⟩ | ⟨rfl, rfl⟩ := h
  · cases ht
  · cases h with
    | asked => cases ht
    | answered a r n m =>
      obtain ⟨hi, -⟩ | ⟨k, -, hi, -⟩ := takes_replicate ht
      · cases hi
      · cases hi
        simp
    | confirmed => simp
  · cases h with
    | asked a n =>
      obtain ⟨hi, -⟩ | ⟨k, -, hi, -⟩ := takes_replicate ht
      · cases hi
      · cases hi
        simp
    | answered | confirmed => simp
  · refine ⟨?_, ?_⟩
    · rintro rfl
      exact absurd hx.active (by simp [Party.isOpening])
    · rintro a c r rfl rfl
      exact hy.crossed ht (by decide)
  · simp

/-- No party is established while the other is closed. -/
theorem Agree.not_half_open (h : Agree x y xy yx) : ¬ (x = .established ∧ y = .closed) := by
  rintro ⟨rfl, rfl⟩
  obtain ⟨hx, -⟩ | h | h | ⟨-, hy⟩ | ⟨-, hy⟩ := h
  · cases hx
  · cases h
  · cases h
  · exact absurd hy.active (by simp [Party.isOpening])
  · cases hy

end NanoArq.Handshake
