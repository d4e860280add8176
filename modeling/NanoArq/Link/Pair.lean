import NanoArq.Lib.Runs
import NanoArq.Link.Channel

/-!
# Two linked instances

A `Pair` is two instances and the bytes on the wires between them. A move of one side is a call of
its API; a frame that `arq_backend_send_ptr_get` exposes for the first time enters the wire, unless
the link loses it, and `arq_backend_recv_fill` is offered bytes of the other wire.
-/

namespace NanoArq

open Lib

structure Pair where
  left : Arq
  right : Arq
  toRight : List UInt8
  toLeft : List UInt8

def Pair.swap (p : Pair) : Pair := ⟨p.right, p.left, p.toLeft, p.toRight⟩

@[simp] theorem Pair.swap_left (p : Pair) : p.swap.left = p.right := rfl

@[simp] theorem Pair.swap_right (p : Pair) : p.swap.right = p.left := rfl

@[simp] theorem Pair.swap_toRight (p : Pair) : p.swap.toRight = p.toLeft := rfl

@[simp] theorem Pair.swap_toLeft (p : Pair) : p.swap.toLeft = p.toRight := rfl

/-- What a side can do. -/
inductive LinkCall where
  | connect
  | poll (dt : Nat)
  | send (data : List UInt8)
  | flush
  | recv (recvMax : Nat)
  /-- A frame that is exposed for the first time is lost, or `keep`. -/
  | get (keep : Bool)
  | release
  | deliver (n : Nat)

/-- A move of the left side. -/
def Pair.move (b : Build) (p : Pair) : LinkCall → Pair
  | .connect => { p with left := perform b p.left .connect }
  | .poll dt => { p with left := perform b p.left (.poll dt) }
  | .send data => { p with left := perform b p.left (.send data) }
  | .flush => { p with left := perform b p.left .flush }
  | .recv recvMax => { p with left := perform b p.left (.recv recvMax) }
  | .get keep =>
    { p with
      left := perform b p.left .sendPtrGet
      toRight := if keep then p.toRight ++ exposed p.left else p.toRight }
  | .release => { p with left := perform b p.left .sendPtrRelease }
  | .deliver n =>
    { p with
      left := perform b p.left (.recvFill (p.toLeft.take n))
      toLeft := p.toLeft.drop (backendRecvFill p.left (p.toLeft.take n)).2.2 }

/-- The call of the API that a move is. -/
def LinkCall.call (p : Pair) : LinkCall → Call
  | .connect => .connect
  | .poll dt => .poll dt
  | .send data => .send data
  | .flush => .flush
  | .recv recvMax => .recv recvMax
  | .get _ => .sendPtrGet
  | .release => .sendPtrRelease
  | .deliver n => .recvFill (p.toLeft.take n)

theorem Pair.move_left (b : Build) (p : Pair) (c : LinkCall) :
    (p.move b c).left = perform b p.left (c.call p) := by cases c <;> rfl

theorem Pair.move_right (b : Build) (p : Pair) (c : LinkCall) : (p.move b c).right = p.right := by
  cases c <;> rfl

inductive Side where
  | left
  | right
deriving DecidableEq, Repr

/-- The pair as the side sees it, with itself on the left. -/
def Pair.view (p : Pair) : Side → Pair
  | .left => p
  | .right => p.swap

/-- A move of either side. -/
def pairStep (b : Build) (p : Pair) (a : Side × LinkCall) : Pair :=
  ((p.view a.1).move b a.2).view a.1

def Pair.start (left right : Arq) : Pair := ⟨left, right, [], []⟩

/-- The frames in flight when the left side does not poll: at most the last one to the right is lost,
when its bytes are taken and not passed on. -/
theorem Pair.move_inFlight (b : Build) {checksum : Checksum} {p : Pair} {c : LinkCall}
    (hpoll : ∀ dt, c ≠ .poll dt) {qr ql : List (FrameHdr × List UInt8)}
    (hr : InFlight checksum p.left.sendFrame p.toRight p.right.recvFrame qr)
    (hl : InFlight checksum p.right.sendFrame p.toLeft p.left.recvFrame ql) :
    ∃ qr', qr'.Sublist qr ∧ (c ≠ .get false → qr' = qr) ∧
      InFlight checksum (p.move b c).left.sendFrame (p.move b c).toRight p.right.recvFrame qr' ∧
      InFlight checksum p.right.sendFrame (p.move b c).toLeft (p.move b c).left.recvFrame ql := by
  have hsend : (∀ keep, c ≠ .get keep) → c ≠ .release →
      (p.move b c).left.sendFrame = p.left.sendFrame := by
    intro hget hrelease
    rw [Pair.move_left]
    cases c with
    | poll dt => exact absurd rfl (hpoll dt)
    | get keep => exact absurd rfl (hget keep)
    | release => exact absurd rfl hrelease
    | connect | send | recv | flush | deliver =>
      exact perform_sendFrame (by simp [LinkCall.call]) (by simp [LinkCall.call])
        (by simp [LinkCall.call]) (by simp [LinkCall.call])
  have hrecv : (∀ n, c ≠ .deliver n) → (p.move b c).left.recvFrame = p.left.recvFrame := by
    intro hdeliver
    rw [Pair.move_left]
    cases c with
    | poll dt => exact absurd rfl (hpoll dt)
    | deliver n => exact absurd rfl (hdeliver n)
    | connect | send | recv | flush | get | release =>
      exact perform_recvFrame_eq (by simp [LinkCall.call]) (by simp [LinkCall.call])
        (by simp [LinkCall.call])
  cases c with
  | poll dt => exact absurd rfl (hpoll dt)
  | connect | send | recv | flush =>
    rw [hsend (by simp) (by simp), hrecv (by simp)]
    exact ⟨qr, .refl qr, fun _ => rfl, hr, hl⟩
  | get keep =>
    rw [hrecv (by simp)]
    cases keep with
    | true => exact ⟨qr, .refl qr, fun _ => rfl, hr.get, hl⟩
    | false =>
      obtain ⟨qr', hsub, hlost⟩ := hr.lose
      exact ⟨qr', hsub, fun hne => absurd rfl hne, hlost, hl⟩
  | release =>
    rw [hrecv (by simp)]
    exact ⟨qr, .refl qr, fun _ => rfl, hr.release, hl⟩
  | deliver n =>
    rw [hsend (by simp) (by simp)]
    exact ⟨qr, .refl qr, fun _ => rfl, hr, hl.deliver n⟩

/-- Each side by itself makes calls of the API. -/
theorem Pair.side_run {b : Build} {ok : Pair → Side × LinkCall → Prop} {p₀ p : Pair}
    (hrun : Run (pairStep b) ok p₀ p) (x : Side) :
    Run (perform b) (fun _ _ => True) (p₀.view x).left (p.view x).left := by
  refine Run.map (fun p : Pair => (p.view x).left) ?_ hrun
  intro p a _
  have hstep : ((pairStep b p a).view x).left = (p.view x).left ∨
      ((pairStep b p a).view x).left = perform b (p.view x).left (a.2.call (p.view x)) := by
    obtain ⟨y, c⟩ := a
    cases x <;> cases y
    · exact Or.inr (Pair.move_left b p c)
    · exact Or.inl (Pair.move_right b p.swap c)
    · exact Or.inl (Pair.move_right b p c)
    · exact Or.inr (Pair.move_left b p.swap c)
  rcases hstep with h | h
  · rw [h]
    exact .start
  · rw [h]
    exact .next .start _ trivial

end NanoArq
