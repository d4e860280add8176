import NanoArq.Handshake.Dataless
import NanoArq.Link.Completion

/-!
# One side connects and the other answers

* `OneOpens`: the two parties and the queues between them, when frames may be lost.
* `Playing`: the sides play these parties, and the queues are what is on the way.
* `opening_run`: under any losses a run in which only the left side connects keeps to `OneOpens`.
-/

namespace NanoArq.Handshake

open Lib

/-! ## Only the first party opens -/

/-- The party `x` opens, `y` answers, and frames may be lost. -/
inductive OneOpens : Party → Party → List Flag → List Flag → Prop
  | idle : OneOpens .closed .closed [] []
  | asked (a : Bool) (n : Nat) :
      OneOpens (.opening a false false) .closed (List.replicate n .rst) []
  | answered (a r : Bool) (n m : Nat) :
      OneOpens (.opening a false r) .answering (List.replicate n .rst) (List.replicate m .rstAck)
  | confirmed (n m : Nat) {t : List Flag} (ht : t = [] ∨ t = [.ack]) :
      OneOpens .established .answering (List.replicate n .rst ++ t) (List.replicate m .rstAck)
  | completed (m : Nat) : OneOpens .established .established [] (List.replicate m .rstAck)

section

variable {x y x' y' : Party} {xy yx xy' yx' q : List Flag} {i o : Option Flag}

theorem OneOpens.sublist (h : OneOpens x y xy yx) (hxy : xy'.Sublist xy) (hyx : yx'.Sublist yx) :
    OneOpens x y xy' yx' := by
  cases h with
  | idle =>
    rw [List.sublist_nil.mp hxy, List.sublist_nil.mp hyx]
    exact .idle
  | asked a n =>
    obtain ⟨n', -, rfl⟩ := List.sublist_replicate_iff.mp hxy
    rw [List.sublist_nil.mp hyx]
    exact .asked a n'
  | answered a r n m =>
    obtain ⟨n', -, rfl⟩ := List.sublist_replicate_iff.mp hxy
    obtain ⟨m', -, rfl⟩ := List.sublist_replicate_iff.mp hyx
    exact .answered a r n' m'
  | confirmed n m ht =>
    obtain ⟨l, t', rfl, hl, ht'⟩ := List.sublist_append_iff.mp hxy
    obtain ⟨n', -, rfl⟩ := List.sublist_replicate_iff.mp hl
    obtain ⟨m', -, rfl⟩ := List.sublist_replicate_iff.mp hyx
    refine .confirmed n' m' ?_
    rcases ht with rfl | rfl
    · exact Or.inl (List.sublist_nil.mp ht')
    · exact List.sublist_singleton.mp ht'
  | completed m =>
    obtain ⟨m', -, rfl⟩ := List.sublist_replicate_iff.mp hyx
    rw [List.sublist_nil.mp hxy]
    exact .completed m'

/-- The flags that the parties have a step for. -/
theorem OneOpens.flags (h : OneOpens x y xy yx) :
    (x = .closed → yx = []) ∧ (∀ a c r, x = .opening a c r → ∀ f ∈ yx, f = .rstAck) ∧
      (y = .closed → ∀ f ∈ xy, f = .rst) ∧ ∀ a c r, y ≠ .opening a c r := by
  cases h with
  | idle | asked => simp
  | answered =>
    exact ⟨by simp, fun _ _ _ _ f hf => (List.mem_replicate.mp hf).2, by simp, by simp⟩
  | confirmed | completed => simp

theorem takes_confirming {n : Nat} {t : List Flag} (hlast : t = [] ∨ t = [.ack])
    (h : Takes (List.replicate n .rst ++ t) i q) :
    (i = none ∧ q = List.replicate n .rst ++ t) ∨
      (∃ k, i = some .rst ∧ q = List.replicate k .rst ++ t) ∨ i = some .ack ∧ q = [] := by
  generalize hl : List.replicate n Flag.rst ++ t = l at h ⊢
  cases h with
  | none => exact Or.inl ⟨rfl, rfl⟩
  | some f q =>
    cases n with
    | zero =>
      rcases hlast with rfl | rfl
      · cases hl
      · obtain ⟨rfl, rfl⟩ := List.cons.inj hl
        exact Or.inr (Or.inr ⟨rfl, rfl⟩)
    | succ n =>
      obtain ⟨rfl, rfl⟩ := List.cons.inj hl
      exact Or.inr (Or.inl ⟨n, rfl, rfl⟩)

/-- A poll of the first party. -/
theorem OneOpens.poll (h : OneOpens x y xy yx) (ht : Takes yx i q) (hs : Party.Step x i x' o) :
    OneOpens x' y (xy ++ o.toList) q := by
  have hmore : ∀ n, List.replicate n Flag.rst ++ [Flag.rst] = List.replicate (n + 1) .rst := fun n =>
    List.replicate_succ'.symm
  cases h with
  | idle =>
    cases ht
    cases hs
    exact .idle
  | asked a n =>
    cases ht
    cases hs with
    | wait => rw [Option.toList_none, List.append_nil]; exact .asked a n
    | ask => rw [Option.toList_some, hmore]; exact .asked true (n + 1)
  | answered a r n m =>
    obtain ⟨rfl, rfl⟩ | ⟨k, rfl, rfl, rfl⟩ := takes_replicate ht
    · cases hs with
      | wait => rw [Option.toList_none, List.append_nil]; exact .answered a r n m
      | ask => rw [Option.toList_some, hmore]; exact .answered true false (n + 1) m
      | confirmNoted => exact .confirmed n m (Or.inr rfl)
    · cases hs with
      | note => rw [Option.toList_none, List.append_nil]; exact .answered a true n k
      | confirmRstAck => exact .confirmed n k (Or.inr rfl)
  | confirmed n m hlast =>
    have hstay : x' = .established ∧ o = none := by cases hs <;> exact ⟨rfl, rfl⟩
    obtain ⟨rfl, rfl⟩ := hstay
    rw [Option.toList_none, List.append_nil]
    obtain ⟨-, rfl⟩ | ⟨k, -, -, rfl⟩ := takes_replicate ht
    · exact .confirmed n m hlast
    · exact .confirmed n k hlast
  | completed m =>
    have hstay : x' = .established ∧ o = none := by cases hs <;> exact ⟨rfl, rfl⟩
    obtain ⟨rfl, rfl⟩ := hstay
    obtain ⟨-, rfl⟩ | ⟨k, -, -, rfl⟩ := takes_replicate ht
    · exact .completed m
    · exact .completed k

/-- A poll of the second party. -/
theorem OneOpens.poll_peer (h : OneOpens x y xy yx) (ht : Takes xy i q) (hs : Party.Step y i y' o) :
    OneOpens x y' q (yx ++ o.toList) := by
  cases h with
  | idle =>
    cases ht
    cases hs
    exact .idle
  | asked a n =>
    obtain ⟨rfl, rfl⟩ | ⟨k, rfl, rfl, rfl⟩ := takes_replicate ht
    · cases hs
      exact .asked a n
    · cases hs
      exact .answered a false k 1
  | answered a r n m =>
    obtain ⟨k, rfl, hi⟩ : ∃ k, q = List.replicate k .rst ∧ (i = none ∨ i = some .rst) := by
      obtain ⟨rfl, rfl⟩ | ⟨k, -, rfl, rfl⟩ := takes_replicate ht
      · exact ⟨n, rfl, Or.inl rfl⟩
      · exact ⟨k, rfl, Or.inr rfl⟩
    obtain ⟨rfl, -, j, hj⟩ | ⟨-, -, f, rfl, hne⟩ := hs.from_answering
    · rw [hj, List.replicate_append_replicate]
      exact .answered a r k (m + j)
    · rcases hi with hi | hi
      · cases hi
      · exact absurd (Option.some.inj hi) hne
  | confirmed n m hlast =>
    obtain ⟨rfl, hi, j, hj⟩ | ⟨rfl, rfl, f, rfl, hne⟩ := hs.from_answering
    · rw [hj, List.replicate_append_replicate]
      obtain ⟨-, rfl⟩ | ⟨k, -, rfl⟩ | ⟨rfl, -⟩ := takes_confirming hlast ht
      · exact .confirmed n (m + j) hlast
      · exact .confirmed k (m + j) hlast
      · simp at hi
    · rw [Option.toList_none, List.append_nil]
      obtain ⟨hi, -⟩ | ⟨k, hi, -⟩ | ⟨-, rfl⟩ := takes_confirming hlast ht
      · cases hi
      · exact absurd (Option.some.inj hi) hne
      · exact .completed m
  | completed m =>
    have hstay : y' = .established ∧ o = none := by cases hs <;> exact ⟨rfl, rfl⟩
    obtain ⟨rfl, rfl⟩ := hstay
    cases ht
    rw [Option.toList_none, List.append_nil]
    exact .completed m

end

/-! ## The sides play the parties -/

/-- Two sides without data that play the parties `x` and `y`. -/
structure Playing (checksum : Checksum) (l₀ r₀ : Arq) (p : Duplex) (x y : Party) (xy yx : List Flag) :
    Prop where
  dataless : Dataless checksum l₀ r₀ p (xy.map flagItem) (yx.map flagItem)
  left : Plays checksum p.left.arq x
  right : Plays checksum p.right.arq y

section

variable {b : Build} {checksum : Checksum} {l₀ r₀ : Arq} {p : Duplex} {x y : Party} {xy yx : List Flag}
  {c : LinkCall} {dt : Nat}

theorem Playing.swap (h : Playing checksum l₀ r₀ p x y xy yx) : Playing checksum r₀ l₀ p.swap y x yx xy :=
  ⟨h.dataless.swap, h.right, h.left⟩

theorem takes_flags {arq : Arq} {rest : List (FrameHdr × List UInt8)}
    (h : NanoArq.Takes arq (yx.map flagItem) rest) :
    ∃ i q, Takes yx i q ∧ rest = q.map flagItem ∧ pollRh arq = seenHdr i ∧
      (i = none → pollRead arq = none) := by
  obtain ⟨hnone, rfl⟩ | ⟨r, hq, hr, -⟩ := h
  · exact ⟨none, yx, .none yx, rfl, by rw [pollRh, hnone]; rfl, fun _ => hnone⟩
  · cases yx with
    | nil => cases hq
    | cons f q =>
      obtain ⟨hf, rfl⟩ := List.cons.inj hq
      exact ⟨some f, q, .some f q, rfl, by rw [pollRh, hr]; exact (congrArg Prod.fst hf).symm, by simp⟩

/-- A poll is a step of the party, which has a step for every flag that is on its way. -/
theorem Playing.poll (hb : b.useConnections = true) (hl : Plays checksum l₀ .closed)
    (hr : Plays checksum r₀ .closed) (h : Playing checksum l₀ r₀ p x y xy yx)
    (hclosed : x = .closed → ∀ f ∈ yx, f = .rst)
    (hopening : ∀ a c r, x = .opening a c r → ∀ f ∈ yx, f = .rstAck)
    (hev : (backendPoll b p.left.arq dt).2.event ≠ .connFailedNoResponse) :
    ∃ i q x' o, Takes yx i q ∧ Party.Step x i x' o ∧
      Playing checksum l₀ r₀ (p.move b (.poll dt)) x' y (xy ++ o.toList) q := by
  obtain ⟨-, rest, htakes, hdata⟩ := h.dataless.poll hl hr b dt
  obtain ⟨i, q, ht, rfl, hrh, -⟩ := takes_flags htakes
  have hmem : ∀ f, i = some f → f ∈ yx := by
    rintro f rfl
    cases ht
    exact List.mem_cons_self
  obtain ⟨x', o, hstep, hplays, hframe, -⟩ := @Plays.poll b checksum hb p.left.arq x i dt h.left hrh
    (fun hx f hi => hclosed hx f (hmem f hi))
    (fun a c r hx hi => by cases hopening a c r hx .ack (hmem _ hi))
    (fun hs hi => by
      have hparty := h.left.party
      cases hparty with
      | opening => cases hopening _ _ _ rfl .rst (hmem _ hi)
      | closed hs' | answering hs' | established hs' => rw [hs] at hs'; cases hs') hev
  refine ⟨i, q, x', o, ht, hstep, ?_, ?_, h.right⟩
  · rw [flagItem_append, ← hframe]
    exact hdata
  · have harq : (p.move b (.poll dt)).left.arq = perform b p.left.arq (.poll dt) :=
      sendHistStep_arq b p.left.hist (.poll dt)
    rw [harq]
    exact hplays

/-- The moves that neither send, poll nor connect: at most the last flag is lost. -/
theorem Playing.call (hl : Plays checksum l₀ .closed) (h : Playing checksum l₀ r₀ p x y xy yx) (b : Build)
    (hsend : ∀ data, c ≠ .send data) (hpoll : ∀ dt, c ≠ .poll dt) (hconnect : c ≠ .connect) :
    ∃ xy', xy'.Sublist xy ∧ (c ≠ .get false → xy' = xy) ∧ Playing checksum l₀ r₀ (p.move b c) x y xy' yx := by
  obtain ⟨qr, hsub, hsame, hdata⟩ := h.dataless.call hl b hsend hpoll
  have hplays : Plays checksum (p.move b c).left.arq x := by
    have harq : (p.move b c).left.arq = perform b p.left.arq (c.call p.pair) := sendHistStep_arq b _ _
    rw [harq]
    cases c with
    | send data => exact absurd rfl (hsend data)
    | poll dt => exact absurd rfl (hpoll dt)
    | connect => exact absurd rfl hconnect
    | flush | recv | get | release | deliver =>
      exact h.left.keeps (by simp [LinkCall.call]) (by simp [LinkCall.call]) (by simp [LinkCall.call])
        (by simp [LinkCall.call])
  by_cases hlost : c = .get false
  · obtain ⟨xy', hxy, rfl⟩ := List.sublist_map_iff.mp hsub
    exact ⟨xy', hxy, fun hne => absurd hlost hne, hdata, hplays, h.right⟩
  · rw [hsame hlost] at hdata
    exact ⟨xy, .refl xy, fun _ => rfl, hdata, hplays, h.right⟩

theorem Dataless.connect (h : Dataless checksum l₀ r₀ p (xy.map flagItem) (yx.map flagItem))
    (hl : Plays checksum l₀ .closed) (b : Build) :
    Dataless checksum l₀ r₀ (p.move b .connect) (xy.map flagItem) (yx.map flagItem) := by
  obtain ⟨qr, -, hsame, h'⟩ := h.call (c := .connect) hl b (by simp) (by simp)
  rw [hsame (by simp)] at h'
  exact h'

/-- A closed side opens, and any other stays as it is. -/
theorem Playing.connect (hb : b.useConnections = true) (hl : Plays checksum l₀ .closed)
    (h : Playing checksum l₀ r₀ p x y xy yx) (hopens : OneOpens x y xy yx) :
    ∃ x', Playing checksum l₀ r₀ (p.move b .connect) x' y xy yx ∧ OneOpens x' y xy yx ∧
      (x = .closed → (p.move b .connect).left.arq.conn.state = .rstSent ∧
        (p.move b .connect).left.arq.conn.u.cnt = 0) := by
  have hdata := h.dataless.connect hl b
  have harq : (p.move b .connect).left.arq = (arqConnect b p.left.arq).1 := sendHistStep_arq b _ _
  by_cases hx : x = .closed
  · subst hx
    have hs : p.left.arq.conn.state = .closed := by
      cases h.left.party with
      | closed hs => exact hs
    rw [arqConnect, if_pos hb, if_neg (not_not_intro hs)] at harq
    refine ⟨.opening false false false, ⟨hdata, ?_, h.right⟩, ?_, fun _ => by rw [harq]; exact ⟨rfl, rfl⟩⟩
    · rw [harq]
      obtain ⟨⟨h₁, h₂, h₃, h₄, h₅⟩, -, -, hsum, hcap⟩ := h.left
      exact ⟨⟨h₁, h₂, h₃, h₄, h₅⟩, .opening rfl (fun h => absurd rfl h), by simp, hsum, hcap⟩
    · cases hopens with
      | idle => exact .asked false 0
  · have hs : p.left.arq.conn.state ≠ .closed := by
      cases h.left.party with
      | closed => exact absurd rfl hx
      | opening hs | answering hs | established hs => rw [hs]; simp
    refine ⟨x, ⟨hdata, ?_, h.right⟩, hopens, fun hclosed => absurd hclosed hx⟩
    rw [harq, arqConnect, if_pos hb, if_pos hs]
    exact h.left

end

/-- The moves of two sides of which only the left one connects: no data is sent, and no side gives up for
lack of a response. -/
def OpeningMove (b : Build) (p : Duplex) : Side × LinkCall → Prop
  | (_, .send _) => False
  | (x, .connect) => x = .left
  | (x, .poll dt) => (backendPoll b (p.view x).left.arq dt).2.event ≠ .connFailedNoResponse
  | _ => True

instance (b : Build) (p : Duplex) : (a : Side × LinkCall) → Decidable (OpeningMove b p a)
  | (_, .send _) => inferInstanceAs (Decidable False)
  | (x, .connect) => inferInstanceAs (Decidable (x = .left))
  | (x, .poll dt) =>
    inferInstanceAs (Decidable ((backendPoll b (p.view x).left.arq dt).2.event ≠ .connFailedNoResponse))
  | (_, .flush) | (_, .recv _) | (_, .get _) | (_, .release) | (_, .deliver _) =>
    inferInstanceAs (Decidable True)

/-- The sides play two parties of which only the left one opens. -/
def LeftOpens (checksum : Checksum) (l₀ r₀ : Arq) (p : Duplex) : Prop :=
  ∃ x y xy yx, Playing checksum l₀ r₀ p x y xy yx ∧ OneOpens x y xy yx

section

variable {b : Build} {checksum : Checksum} {l₀ r₀ : Arq} {p : Duplex} {c : LinkCall}

theorem LeftOpens.move_left (hb : b.useConnections = true) (hl : Plays checksum l₀ .closed)
    (hr : Plays checksum r₀ .closed) (h : LeftOpens checksum l₀ r₀ p)
    (hok : OpeningMove b p (.left, c)) : LeftOpens checksum l₀ r₀ (p.move b c) := by
  obtain ⟨x, y, xy, yx, h, hopens⟩ := h
  obtain ⟨hclosed, hopening, -, -⟩ := hopens.flags
  by_cases hpoll : ∃ dt, c = .poll dt
  · obtain ⟨dt, rfl⟩ := hpoll
    obtain ⟨i, q, x', o, ht, hstep, h'⟩ := h.poll hb hl hr
      (fun hx f hf => by rw [hclosed hx] at hf; cases hf) hopening hok
    exact ⟨_, _, _, _, h', hopens.poll ht hstep⟩
  by_cases hconnect : c = .connect
  · subst hconnect
    obtain ⟨x', h', hopens', -⟩ := h.connect hb hl hopens
    exact ⟨_, _, _, _, h', hopens'⟩
  have hsend : ∀ data, c ≠ .send data := by
    rintro data rfl
    exact hok
  obtain ⟨xy', hsub, -, h'⟩ := h.call hl b hsend (fun dt hdt => hpoll ⟨dt, hdt⟩) hconnect
  exact ⟨_, _, _, _, h', hopens.sublist hsub (.refl yx)⟩

theorem LeftOpens.move_right (hb : b.useConnections = true) (hl : Plays checksum l₀ .closed)
    (hr : Plays checksum r₀ .closed) (h : LeftOpens checksum l₀ r₀ p)
    (hok : OpeningMove b p (.right, c)) : LeftOpens checksum l₀ r₀ (p.swap.move b c).swap := by
  obtain ⟨x, y, xy, yx, h, hopens⟩ := h
  obtain ⟨-, -, hclosed, hopening⟩ := hopens.flags
  by_cases hpoll : ∃ dt, c = .poll dt
  · obtain ⟨dt, rfl⟩ := hpoll
    obtain ⟨i, q, y', o, ht, hstep, h'⟩ := h.swap.poll hb hr hl hclosed
      (fun a c r hy => absurd hy (hopening a c r)) hok
    exact ⟨_, _, _, _, h'.swap, hopens.poll_peer ht hstep⟩
  have hconnect : c ≠ .connect := by
    rintro rfl
    cases hok
  have hsend : ∀ data, c ≠ .send data := by
    rintro data rfl
    exact hok
  obtain ⟨yx', hsub, -, h'⟩ := h.swap.call hr b hsend (fun dt hdt => hpoll ⟨dt, hdt⟩) hconnect
  exact ⟨_, _, _, _, h'.swap, hopens.sublist (.refl xy) hsub⟩

theorem opening_run (hb : b.useConnections = true) (hl : Plays checksum l₀ .closed)
    (hr : Plays checksum r₀ .closed) (hlacc : Accumulating l₀.recvFrame [])
    (hracc : Accumulating r₀.recvFrame [])
    (hrun : Run (duplexStep b) (OpeningMove b) (.start l₀ r₀) p) : LeftOpens checksum l₀ r₀ p := by
  refine hrun.invariant (I := LeftOpens checksum l₀ r₀) ?_ ?_
  · exact ⟨.closed, .closed, [], [], ⟨.start hl hr hlacc hracc, hl, hr⟩, .idle⟩
  · rintro p ⟨x, c⟩ h hok
    cases x with
    | left => exact h.move_left hb hl hr hok
    | right => exact h.move_right hb hl hr hok

end

end NanoArq.Handshake
