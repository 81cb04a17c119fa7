import Mathlib.Data.List.Forall2

/-!
Steps that can fail, and taking one for each item of a list. All of them have to succeed, and
then their results stand in the order of the items.
-/

namespace Relint

variable {α β γ ε : Type} {f : α → Except ε β} {items : List α} {results : List β}

theorem mapM_cons_eq_ok_iff {item : α} {rest : List α} :
    (item :: rest).mapM f = .ok results ↔
      ∃ result others, f item = .ok result ∧ rest.mapM f = .ok others ∧
        results = result :: others := by
  rw [List.mapM_cons]
  cases f item with
  | error fault => simp [bind, Except.bind]
  | ok result =>
      cases rest.mapM f with
      | error fault => simp [bind, Except.bind]
      | ok others => simp [bind, Except.bind, pure, Except.pure, eq_comm]

theorem mapM_eq_ok_iff :
    items.mapM f = .ok results ↔
      List.Forall₂ (fun item result => f item = .ok result) items results := by
  induction items generalizing results with
  | nil => simp [pure, Except.pure, eq_comm]
  | cons item rest ih => simp only [mapM_cons_eq_ok_iff, List.forall₂_cons_left_iff, ih]

theorem exists_mapM_eq_ok_iff :
    (∃ results, items.mapM f = .ok results) ↔ ∀ item ∈ items, ∃ result, f item = .ok result := by
  induction items with
  | nil => simp [pure, Except.pure]
  | cons item rest ih =>
      rw [List.forall_mem_cons, ← ih]
      constructor
      · rintro ⟨_, hresults⟩
        obtain ⟨result, others, hresult, hothers, _⟩ := mapM_cons_eq_ok_iff.mp hresults
        exact ⟨⟨result, hresult⟩, ⟨others, hothers⟩⟩
      · rintro ⟨⟨result, hresult⟩, ⟨others, hothers⟩⟩
        exact ⟨_, mapM_cons_eq_ok_iff.mpr ⟨result, others, hresult, hothers, rfl⟩⟩

section Answers

variable {ε' : Type} {answer : Except ε α}

theorem exists_eq_error_iff :
    (∃ fault, answer = .error fault) ↔ ¬∃ result, answer = .ok result := by
  cases answer <;> simp

theorem map_eq_ok_iff {g : α → β} {y : β} :
    answer.map g = .ok y ↔ ∃ x, answer = .ok x ∧ g x = y := by
  cases answer <;> simp [Except.map]

theorem mapError_eq_ok_iff {wrap : ε → ε'} {x : α} :
    answer.mapError wrap = .ok x ↔ answer = .ok x := by
  cases answer <;> simp [Except.mapError]

end Answers

theorem exists_mapM_eq_error_iff :
    (∃ fault, items.mapM f = .error fault) ↔ ∃ item ∈ items, ∃ fault, f item = .error fault := by
  rw [exists_eq_error_iff, exists_mapM_eq_ok_iff]
  simp only [exists_eq_error_iff, not_forall, exists_prop]

/-- Related lists stay related when those items are kept that have some property, and those
results that are of the kind which goes with it. -/
theorem forall₂_filter_filterMap {related : α → β → Prop} {kept : α → γ → Prop}
    {keep : α → Bool} {pick : β → Option γ} (h : List.Forall₂ related items results)
    (hpick : ∀ item result, related item result →
      match pick result with
      | some picked => keep item = true ∧ kept item picked
      | none => keep item = false) :
    List.Forall₂ kept (items.filter keep) (results.filterMap pick) := by
  induction h with
  | nil => exact .nil
  | @cons item result _ _ hrelated _ ih =>
      have hitem := hpick item result hrelated
      rw [List.filterMap_cons]
      cases hpicked : pick result with
      | none =>
          rw [hpicked] at hitem
          rw [List.filter_cons_of_neg (Bool.eq_false_iff.mp hitem)]
          exact ih
      | some picked =>
          rw [hpicked] at hitem
          rw [List.filter_cons_of_pos hitem.1]
          exact .cons hitem.2 ih

end Relint
