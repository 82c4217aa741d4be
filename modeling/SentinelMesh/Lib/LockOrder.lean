/-
# Locks taken in an order

Agents hold keys and wait for one key at a time.  An agent waits for those that have its key and
for those that came before it to wait for it (`WaitsFor`).

If there is an order of the keys in which every agent waits above all it holds (`Ordered`), then
along every chain of waiting agents the keys they wait for go up, or stay and come from earlier on
(`place_lt`).  So no agent waits for itself over others: there is no deadlock (`acyclic`).
-/

import Mathlib.Data.Prod.Lex
import Mathlib.Order.OrderDual
import Mathlib.Logic.Relation

namespace Lib

/-- Who has a key, and which key an agent waits for, with its number among those that wait. -/
structure LockTable (ι κ : Type*) where
  holds : κ → ι → Prop
  waits : ι → Option (κ × ℕ)

namespace LockTable

variable {ι κ α : Type*}

/-- An agent waits for another one. -/
def WaitsFor (t : LockTable ι κ) (n m : ι) : Prop :=
  n ≠ m ∧ ∃ k i, t.waits n = some (k, i) ∧ (t.holds k m ∨ ∃ j, j < i ∧ t.waits m = some (k, j))

/-- Every agent waits for a key above all it holds. -/
def Ordered [LT α] (t : LockTable ι κ) (rank : κ → α) : Prop :=
  ∀ n k i, t.waits n = some (k, i) → ∀ h, t.holds h n → rank h < rank k

/-- Where an agent waits: at a key, and in its line. -/
def place (rank : κ → α) (w : κ × ℕ) : α ×ₗ ℕᵒᵈ := toLex (rank w.1, OrderDual.toDual w.2)

variable [Preorder α] {t : LockTable ι κ} {rank : κ → α}

/-- Whom an agent waits for waits further up, if it waits. -/
theorem place_lt_of_waitsFor (h : t.Ordered rank) {n m : ι} (hwait : t.WaitsFor n m) :
    ∃ v, t.waits n = some v ∧ ∀ w, t.waits m = some w → place rank v < place rank w := by
  obtain ⟨-, k, i, hn, hholds | ⟨j, hlt, hm⟩⟩ := hwait
  · refine ⟨(k, i), hn, fun w hw => Prod.Lex.toLex_lt_toLex.2 (Or.inl ?_)⟩
    exact h m w.1 w.2 hw k hholds
  · refine ⟨(k, i), hn, fun w hw => Prod.Lex.toLex_lt_toLex.2 (Or.inr ?_)⟩
    obtain rfl := Option.some.inj (hm.symm.trans hw)
    exact ⟨rfl, hlt⟩

/-- The same along a chain. -/
theorem place_lt (h : t.Ordered rank) {n m : ι} (hchain : Relation.TransGen t.WaitsFor n m) :
    ∃ v, t.waits n = some v ∧ ∀ w, t.waits m = some w → place rank v < place rank w := by
  induction hchain with
  | single hwait => exact place_lt_of_waitsFor h hwait
  | tail _ hwait ih =>
      obtain ⟨v, hv, hlt⟩ := ih
      obtain ⟨u, hu, hlt'⟩ := place_lt_of_waitsFor h hwait
      exact ⟨v, hv, fun w hw => (hlt u hu).trans (hlt' w hw)⟩

/-- **Where keys are waited for in an order, no agent waits for itself.** -/
theorem acyclic (h : t.Ordered rank) (n : ι) : ¬ Relation.TransGen t.WaitsFor n n := by
  intro hcycle
  obtain ⟨v, hv, hlt⟩ := place_lt h hcycle
  exact lt_irrefl _ (hlt v hv)

end LockTable
end Lib
