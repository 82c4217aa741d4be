/-
# A stream in chunks of one size

`whole n l` are the whole chunks of a list from its beginning, and `left n l` is what is left over.
Dividing a list in two parts, with what is left of the first put before the second, divides the
whole (`whole_append`): so it does not matter in which pieces the list arrives.
-/

import Mathlib.Data.List.Basic
import Mathlib.Order.Basic

namespace Lib
namespace Chunks

variable {α : Type*} {n : ℕ} {l a b : List α}

/-- The whole chunks of a list. -/
def whole (n : ℕ) (l : List α) : List (List α) :=
  if _h : 0 < n ∧ n ≤ l.length then l.take n :: whole n (l.drop n) else []
termination_by l.length
decreasing_by
  rw [List.length_drop]
  omega

/-- What is left over. -/
def left (n : ℕ) (l : List α) : List α :=
  if _h : 0 < n ∧ n ≤ l.length then left n (l.drop n) else l
termination_by l.length
decreasing_by
  rw [List.length_drop]
  omega

theorem whole_of_le (hn : 0 < n) (h : n ≤ l.length) :
    whole n l = l.take n :: whole n (l.drop n) := by
  rw [whole, dif_pos ⟨hn, h⟩]

theorem whole_of_lt (h : l.length < n) : whole n l = [] := by
  rw [whole, dif_neg fun hle => Nat.not_le.2 h hle.2]

theorem left_of_le (hn : 0 < n) (h : n ≤ l.length) : left n l = left n (l.drop n) := by
  rw [left, dif_pos ⟨hn, h⟩]

theorem left_of_lt (h : l.length < n) : left n l = l := by
  rw [left, dif_neg fun hle => Nat.not_le.2 h hle.2]

/-- **Chunks, one at a time.** -/
theorem whole_append_left (hn : 0 < n) (ha : a.length = n) (b : List α) :
    whole n (a ++ b) = a :: whole n b ∧ left n (a ++ b) = left n b := by
  have hle : n ≤ (a ++ b).length := by
    rw [List.length_append]
    omega
  rw [whole_of_le hn hle, left_of_le hn hle, List.take_left' ha, List.drop_left' ha]
  exact ⟨rfl, rfl⟩

/-- **A stream in two pieces**: what is left of the first comes before the second. -/
theorem whole_append (hn : 0 < n) (a b : List α) :
    whole n (a ++ b) = whole n a ++ whole n (left n a ++ b) ∧
      left n (a ++ b) = left n (left n a ++ b) := by
  induction h : a.length using Nat.strongRecOn generalizing a with
  | ind m ih =>
      subst h
      by_cases hle : n ≤ a.length
      · have hsplit : a ++ b = a.take n ++ (a.drop n ++ b) := by
          rw [← List.append_assoc, List.take_append_drop]
        obtain ⟨hwhole, hleft⟩ := whole_append_left hn (List.length_take_of_le hle) (a.drop n ++ b)
        have hlt : (a.drop n).length < a.length := by
          rw [List.length_drop]
          omega
        obtain ⟨hwhole', hleft'⟩ := ih _ hlt (a.drop n) rfl
        rw [hsplit, hwhole, hleft, hwhole', hleft', whole_of_le hn hle, left_of_le hn hle,
          List.cons_append]
        exact ⟨rfl, rfl⟩
      · rw [whole_of_lt (Nat.not_le.1 hle), left_of_lt (Nat.not_le.1 hle), List.nil_append]
        exact ⟨rfl, rfl⟩

end Chunks
end Lib
