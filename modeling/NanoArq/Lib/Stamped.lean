import Mathlib.Data.List.Basic
import Mathlib.Order.Basic

/-!
# Queues with stamps

The items of a queue were put in with stamps that never go down. `Stamped P a xs c` says that the items
`xs` have stamps from `a` to `c`, in this order, and that `P s x` holds of each item `x` with its
stamp `s`.
-/

namespace Lib

variable {α σ : Type*} [Preorder σ]

inductive Stamped (P : σ → α → Prop) : σ → List α → σ → Prop
  | nil {a c : σ} (h : a ≤ c) : Stamped P a [] c
  | cons {a s c : σ} {x : α} {xs : List α} (h : a ≤ s) (hx : P s x) (rest : Stamped P s xs c) :
    Stamped P a (x :: xs) c

variable {P Q : σ → α → Prop} {a s c : σ} {x : α} {xs ys : List α}

theorem Stamped.le (h : Stamped P a xs c) : a ≤ c := by
  induction h with
  | nil h => exact h
  | cons h _ _ ih => exact h.trans ih

theorem Stamped.head (h : Stamped P a (x :: xs) c) : ∃ s, a ≤ s ∧ P s x ∧ Stamped P s xs c := by
  cases h with
  | cons h hx rest => exact ⟨_, h, hx, rest⟩

theorem Stamped.lower (h : Stamped P s xs c) (hle : a ≤ s) : Stamped P a xs c := by
  cases h with
  | nil h => exact .nil (hle.trans h)
  | cons h hx rest => exact .cons (hle.trans h) hx rest

theorem Stamped.raise (h : Stamped P a xs s) (hle : s ≤ c) : Stamped P a xs c := by
  induction h with
  | nil h => exact .nil (h.trans hle)
  | cons h hx _ ih => exact .cons h hx (ih hle)

/-- An item is put in. -/
theorem Stamped.push (h : Stamped P a xs s) (hx : P s x) : Stamped P a (xs ++ [x]) s := by
  induction h with
  | nil h => exact .cons h hx (.nil le_rfl)
  | cons h hy _ ih => exact .cons h hy (ih hx)

/-- Items are lost. -/
theorem Stamped.sublist (h : Stamped P a xs c) (hsub : ys.Sublist xs) : Stamped P a ys c := by
  induction hsub generalizing a with
  | slnil => exact h
  | cons y _ ih =>
    obtain ⟨s, hle, -, rest⟩ := h.head
    exact (ih rest).lower hle
  | cons_cons y _ ih =>
    obtain ⟨s, hle, hy, rest⟩ := h.head
    exact .cons hle hy (ih rest)

theorem Stamped.imp (h : Stamped P a xs c) (hPQ : ∀ s x, x ∈ xs → P s x → Q s x) :
    Stamped Q a xs c := by
  induction h with
  | nil h => exact .nil h
  | cons h hx _ ih =>
    exact .cons h (hPQ _ _ List.mem_cons_self hx) (ih fun s y hy => hPQ s y (List.mem_cons_of_mem _ hy))

end Lib
