import Mathlib.Data.Nat.Basic
import Mathlib.Tactic.Common

/-!
# Deadlines

The time until the first of some timers runs out, with `inf` when there is none. Timers that all
advance by less than the deadline keep their order: `deadline_advance`.
-/

namespace Lib

def deadline (inf : Nat) (timers : List Nat) : Nat := timers.foldl min inf

section

variable {inf d t : Nat} {timers : List Nat}

theorem deadline_le_inf (inf : Nat) (timers : List Nat) : deadline inf timers ≤ inf := by
  induction timers generalizing inf with
  | nil => exact le_rfl
  | cons a timers ih => exact le_trans (ih (min inf a)) (Nat.min_le_left _ _)

theorem deadline_le (h : t ∈ timers) : deadline inf timers ≤ t := by
  induction timers generalizing inf with
  | nil => cases h
  | cons a timers ih =>
    rcases List.mem_cons.mp h with rfl | h
    · exact le_trans (deadline_le_inf (min inf t) timers) (Nat.min_le_right _ _)
    · exact ih h

theorem min_deadline {np : Nat} (h : np ≤ inf) (timers : List Nat) :
    min np (deadline inf timers) = deadline np timers := by
  induction timers generalizing np inf with
  | nil => exact Nat.min_eq_left h
  | cons a timers ih =>
    have hmin : min np a ≤ min inf a := by omega
    have hle := deadline_le_inf (min inf a) timers
    calc min np (deadline (min inf a) timers)
        = min (min np a) (deadline (min inf a) timers) := by omega
      _ = deadline (min np a) timers := ih hmin

theorem deadline_append (inf : Nat) (ts ts' : List Nat) :
    deadline inf (ts ++ ts') = deadline (deadline inf ts) ts' := List.foldl_append

theorem deadline_map_sub (inf d : Nat) (timers : List Nat) :
    deadline (inf - d) (timers.map fun t => t - d) = deadline inf timers - d := by
  induction timers generalizing inf with
  | nil => rfl
  | cons a timers ih =>
    have hmin : min (inf - d) (a - d) = min inf a - d := by omega
    have := ih (min inf a)
    rw [← hmin] at this
    exact this

/-- With a timer running the deadline moves with the timers. -/
theorem deadline_advance (hne : timers ≠ []) (hle : ∀ t ∈ timers, t ≤ inf) :
    deadline inf (timers.map fun t => t - d) = deadline inf timers - d := by
  cases timers with
  | nil => exact absurd rfl hne
  | cons a timers =>
    have ha := hle a List.mem_cons_self
    have hmin : min inf (a - d) = min (inf - d) (a - d) := by omega
    calc deadline inf ((a :: timers).map fun t => t - d)
        = deadline (min inf (a - d)) (timers.map fun t => t - d) := rfl
      _ = deadline (inf - d) ((a :: timers).map fun t => t - d) := by rw [hmin]; rfl
      _ = deadline inf (a :: timers) - d := deadline_map_sub _ _ _

/-- Timers that are zero do not count. -/
theorem deadline_filter_pos (inf : Nat) (timers : List Nat) :
    timers.foldl (fun np t => if t > 0 then min np t else np) inf =
      deadline inf (timers.filter fun t => 0 < t) := by
  induction timers generalizing inf with
  | nil => rfl
  | cons a timers ih =>
    rw [List.foldl_cons, ih]
    by_cases ha : 0 < a
    · rw [List.filter_cons_of_pos (by simpa using ha), if_pos ha]
      rfl
    · rw [List.filter_cons_of_neg (by simpa using ha), if_neg ha]

/-- A timer that is short of running out does not become zero. -/
theorem filter_pos_map_sub (h : ∀ t ∈ timers, 0 < t → d < t) :
    (timers.map fun t => t - d).filter (fun t => 0 < t) =
      (timers.filter fun t => 0 < t).map fun t => t - d := by
  induction timers with
  | nil => rfl
  | cons a timers ih =>
    have hrest := ih fun t ht => h t (List.mem_cons_of_mem _ ht)
    have ha := h a List.mem_cons_self
    rw [List.map_cons]
    by_cases hpos : 0 < a
    · have hstill : 0 < a - d := by
        have := ha hpos
        omega
      rw [List.filter_cons_of_pos (by simpa using hstill), List.filter_cons_of_pos (by simpa using hpos),
        List.map_cons, hrest]
    · rw [List.filter_cons_of_neg (by simp; omega), List.filter_cons_of_neg (by simpa using hpos), hrest]

end

end Lib
