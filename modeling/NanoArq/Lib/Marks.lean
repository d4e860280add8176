import NanoArq.Lib.Memory
import NanoArq.Lib.Runs
import Mathlib.Data.List.Basic

/-!
# Comparing two memories on marked cells

Two runs of one program from different memories are compared on the cells that are *marked*: those
that both runs have written with the same values. `Agree s m m'` says that `m` and `m'` hold the
same value wherever the mark `s` is set, `paint` marks the cells of a copy, and `EqBelow n f g` is
agreement of two arrays on their first `n` entries. `trace_eq` compares the outputs of two runs
from an invariant relation.
-/

namespace Lib

universe u

variable {α : Type u} {s s' : Mem Bool} {m m' : Mem α}

/-- The memories agree on the marked cells. -/
def Agree (s : Mem Bool) (m m' : Mem α) : Prop := ∀ a, s a = true → m a = m' a

/-- Mark the `n` cells from address `dst` on. -/
def paint (s : Mem Bool) (dst n : Nat) : Mem Bool := memcpy s dst (List.replicate n true)

/-- Every cell of the range is marked. -/
def Marked (s : Mem Bool) (ofs n : Nat) : Prop := ∀ j, j < n → s (ofs + j) = true

instance (s : Mem Bool) (ofs n : Nat) : Decidable (Marked s ofs n) :=
  inferInstanceAs (Decidable (∀ j, j < n → _))

theorem Marked.le {ofs n k : Nat} (h : Marked s ofs n) (hk : k ≤ n) : Marked s ofs k :=
  fun j hj => h j (Nat.lt_of_lt_of_le hj hk)

theorem Agree.slice_eq {ofs n : Nat} (h : Agree s m m') (hs : Marked s ofs n) :
    slice m ofs n = slice m' ofs n :=
  slice_eq_iff.mpr fun j hj => h _ (hs j hj)

theorem paint_self (s : Mem Bool) (dst n : Nat) : Marked (paint s dst n) dst n := by
  intro j hj
  have hlt : j < (List.replicate n true).length := by simpa using hj
  rw [paint, memcpy_add s dst hlt, List.getElem_replicate]

theorem paint_of_marked {dst n a : Nat} (h : s a = true) : paint s dst n a = true := by
  rcases Nat.lt_or_ge a dst with hlt | hge
  · rw [paint, memcpy_of_lt _ _ hlt, h]
  · rcases Nat.lt_or_ge a (dst + n) with hin | hout
    · have hcell := paint_self s dst n (a - dst) (by omega)
      rwa [Nat.add_sub_cancel' hge] at hcell
    · rw [paint, memcpy_of_ge _ _ (by simpa using hout), h]

/-- A marked cell was marked before, or lies in the range. -/
theorem of_paint {dst n a : Nat} (h : paint s dst n a = true) :
    s a = true ∨ dst ≤ a ∧ a < dst + n := by
  by_contra hout
  obtain ⟨hold, hrange⟩ := not_or.mp hout
  refine hold ?_
  rcases Nat.lt_or_ge a dst with hlt | hge
  · rwa [paint, memcpy_of_lt _ _ hlt] at h
  · rwa [paint, memcpy_of_ge _ _ (by rw [List.length_replicate]; omega)] at h

@[simp] theorem paint_zero (s : Mem Bool) (dst : Nat) : paint s dst 0 = s := memcpy_nil s dst

theorem paint_marked {dst n : Nat} (h : Marked s dst n) : paint s dst n = s := by
  funext a
  cases ha : s a with
  | true => exact paint_of_marked ha
  | false =>
    by_contra hne
    rcases of_paint (Bool.eq_true_of_not_eq_false hne) with hold | ⟨hge, hlt⟩
    · rw [ha] at hold
      cases hold
    · have hcell := h (a - dst) (by omega)
      rw [Nat.add_sub_cancel' hge, ha] at hcell
      cases hcell

theorem paint_succ (s : Mem Bool) (dst n : Nat) :
    paint s dst (n + 1) = paint (Function.update s dst true) (dst + 1) n := by
  rw [paint, List.replicate_succ, memcpy_cons, paint]

/-- Copying one list into both memories keeps them equal where they were, and on the copy. -/
theorem Agree.memcpy (h : Agree s m m') (dst : Nat) (src : List α) :
    Agree (paint s dst src.length) (memcpy m dst src) (memcpy m' dst src) := by
  intro a ha
  rcases Nat.lt_or_ge a dst with hlt | hge
  · rw [paint, memcpy_of_lt _ _ hlt] at ha
    rw [memcpy_of_lt _ _ hlt, memcpy_of_lt _ _ hlt, h a ha]
  · rcases Nat.lt_or_ge a (dst + src.length) with hin | hout
    · obtain ⟨j, rfl⟩ := Nat.exists_eq_add_of_le hge
      rw [memcpy_add _ _ (Nat.lt_of_add_lt_add_left hin),
        memcpy_add _ _ (Nat.lt_of_add_lt_add_left hin)]
    · rw [paint, memcpy_of_ge _ _ (by simpa using hout)] at ha
      rw [memcpy_of_ge _ _ hout, memcpy_of_ge _ _ hout, h a ha]

theorem Agree.write (h : Agree s m m') (a : Nat) (v : α) :
    Agree (Function.update s a true) (Function.update m a v) (Function.update m' a v) := by
  intro i hi
  by_cases hia : i = a
  · rw [hia, Function.update_self, Function.update_self]
  · rw [Function.update_of_ne hia] at hi
    rw [Function.update_of_ne hia, Function.update_of_ne hia, h i hi]

theorem Agree.update (h : Agree s m m') (a : Nat) (v : α) :
    Agree s (Function.update m a v) (Function.update m' a v) := by
  intro i hi
  by_cases hia : i = a
  · rw [hia, Function.update_self, Function.update_self]
  · rw [Function.update_of_ne hia, Function.update_of_ne hia, h i hi]

/-! ## Arrays -/

/-- The arrays agree on their first `n` entries. -/
def EqBelow (n : Nat) (f g : Mem α) : Prop := ∀ i, i < n → f i = g i

variable {n : Nat} {f g : Mem α}

theorem EqBelow.update (h : EqBelow n f g) (i : Nat) (v : α) :
    EqBelow n (Function.update f i v) (Function.update g i v) := by
  intro j hj
  by_cases hji : j = i
  · rw [hji, Function.update_self, Function.update_self]
  · rw [Function.update_of_ne hji, Function.update_of_ne hji, h j hj]

theorem EqBelow.mod (h : EqBelow n f g) (hn : 0 < n) (x : Nat) : f (x % n) = g (x % n) :=
  h _ (Nat.mod_lt x hn)

/-! ## Folds and runs -/

section

variable {β γ : Type*}

/-- A relation that every step keeps holds after the fold. -/
theorem foldl_keeps {R : β → γ → Prop} {ι : Type*} {step : β → ι → β} {step' : γ → ι → γ}
    (hstep : ∀ x y i, R x y → R (step x i) (step' y i)) (is : List ι) {x : β} {y : γ}
    (h : R x y) : R (is.foldl step x) (is.foldl step' y) := by
  induction is generalizing x y with
  | nil => exact h
  | cons i is ih => exact ih (hstep x y i h)

variable {σ τ ι : Type*}

/-- The outputs of the actions of a list, one after the other. -/
def trace (step : σ → ι → σ) (out : σ → ι → β) : σ → List ι → List β
  | _, [] => []
  | s, a :: as => out s a :: trace step out (step s a) as

theorem trace_comp {step : σ → ι → σ} {step' : τ → ι → τ} {out : τ → ι → β} (f : σ → τ)
    (hf : ∀ s a, f (step s a) = step' (f s) a) (as : List ι) :
    ∀ s : σ, trace step (fun s a => out (f s) a) s as = trace step' out (f s) as := by
  induction as with
  | nil => exact fun _ => rfl
  | cons a as ih =>
    intro s
    rw [trace, trace, ih, hf]

/-- Two runs have the same outputs when a relation between their states, kept by every step that
meets the guard, makes the outputs of that step equal. -/
theorem trace_eq {step : σ → ι → σ} {out : σ → ι → β} {step' : τ → ι → τ} {out' : τ → ι → β}
    {ok : σ → ι → Prop} {R : σ → τ → Prop}
    (hstep : ∀ s t a, R s t → ok s a → out s a = out' t a ∧ R (step s a) (step' t a)) (as : List ι) :
    ∀ {s : σ} {t : τ}, R s t → Guarded step ok s as →
      trace step out s as = trace step' out' t as := by
  induction as with
  | nil => exact fun _ _ => rfl
  | cons a as ih =>
    intro s t hrel hguard
    obtain ⟨hout, hnext⟩ := hstep s t a hrel hguard.1
    rw [trace, trace, hout, ih hnext hguard.2]

end

end Lib
