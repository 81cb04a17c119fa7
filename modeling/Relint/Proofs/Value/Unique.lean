import Relint.Proofs.Distinct
import Relint.Value.Same
import Mathlib.Data.List.Basic

/-!
Lists of values in which none is there twice. Values are compared as data, so that the
place of the first of several values that are the same is kept, and its spelling.
-/

namespace Relint

namespace Value

variable {items additions : List Value} {v : Value}

/-- No two values of the list are the same. -/
def Unlike (items : List Value) : Prop :=
  items.Pairwise fun a b => a.same b = false

theorem containsSame_iff : containsSame items v = true ↔ ∃ item ∈ items, item.same v = true :=
  List.any_eq_true

theorem pushUnique_of_contains (h : containsSame items v = true) : pushUnique items v = items :=
  if_pos h

theorem pushUnique_of_not_contains (h : containsSame items v = false) :
    pushUnique items v = items ++ [v] := by
  simp [pushUnique, h]

theorem pushAllUnique_cons (items : List Value) (v : Value) (rest : List Value) :
    pushAllUnique items (v :: rest) = pushAllUnique (pushUnique items v) rest :=
  rfl

theorem pushAllUnique_append (items first second : List Value) :
    pushAllUnique items (first ++ second) = pushAllUnique (pushAllUnique items first) second :=
  List.foldl_append

theorem unlike_nil : Unlike [] :=
  List.Pairwise.nil

/-- A value that is not there yet is unlike all that are. -/
theorem unlike_pushUnique (h : Unlike items) (v : Value) : Unlike (pushUnique items v) := by
  cases hcontains : containsSame items v with
  | true =>
      rw [pushUnique_of_contains hcontains]
      exact h
  | false =>
      rw [pushUnique_of_not_contains hcontains, Unlike, List.pairwise_append]
      refine ⟨h, List.pairwise_singleton _ v, ?_⟩
      intro item hitem other hother
      rw [List.mem_singleton.mp hother, Bool.eq_false_iff]
      intro hsame
      have hthere : containsSame items v = true := containsSame_iff.mpr ⟨item, hitem, hsame⟩
      rw [hcontains] at hthere
      cases hthere

theorem unlike_pushAllUnique (h : Unlike items) (additions : List Value) :
    Unlike (pushAllUnique items additions) := by
  induction additions generalizing items with
  | nil => exact h
  | cons v rest ih => exact ih (unlike_pushUnique h v)

/-- Values that are unlike each other and all that are there are appended as they are. -/
theorem pushAllUnique_of_unlike (h : Unlike (items ++ additions)) :
    pushAllUnique items additions = items ++ additions := by
  induction additions generalizing items with
  | nil => exact (List.append_nil items).symm
  | cons v rest ih =>
      have hfresh : containsSame items v = false := by
        rw [Bool.eq_false_iff]
        intro hthere
        obtain ⟨item, hitem, hsame⟩ := containsSame_iff.mp hthere
        have hunlike := (List.pairwise_append.mp h).2.2 item hitem v List.mem_cons_self
        rw [hsame] at hunlike
        cases hunlike
      have hshifted : Unlike (items ++ [v] ++ rest) := by
        rw [List.append_assoc]
        exact h
      rw [pushAllUnique_cons, pushUnique_of_not_contains hfresh, ih hshifted, List.append_assoc]
      rfl

/-- Collecting what was collected once more changes nothing. -/
theorem pushAllUnique_nil_of_unlike (h : Unlike items) : pushAllUnique [] items = items :=
  pushAllUnique_of_unlike h

section Canonical

theorem containsSame_iff_mem : containsSame items v = true ↔ v.canonical ∈ items.map canonical := by
  simp only [containsSame_iff, same, beq_iff_eq, List.mem_map]

theorem map_canonical_pushUnique (items : List Value) (v : Value) :
    (pushUnique items v).map canonical = appendNew (items.map canonical) v.canonical := by
  cases hcontains : containsSame items v with
  | true =>
      rw [pushUnique_of_contains hcontains, appendNew_of_mem (containsSame_iff_mem.mp hcontains)]
  | false =>
      have hfresh : v.canonical ∉ items.map canonical := by
        rw [← containsSame_iff_mem, hcontains]
        exact Bool.false_ne_true
      rw [pushUnique_of_not_contains hcontains, appendNew_of_not_mem hfresh, List.map_append]
      rfl

/-- Collecting values each once is collecting their canonical forms each once. -/
theorem map_canonical_pushAllUnique (items additions : List Value) :
    (pushAllUnique items additions).map canonical =
      (additions.map canonical).foldl appendNew (items.map canonical) := by
  induction additions generalizing items with
  | nil => rfl
  | cons v rest ih =>
      rw [pushAllUnique_cons, ih, map_canonical_pushUnique]
      rfl

/-- The same set of values: no value is there twice in either list, and one list is the
other up to the order of the values and their spelling. -/
structure SameSet (items others : List Value) : Prop where
  unlike : Unlike items
  unlike_others : Unlike others
  perm : (items.map canonical).Perm (others.map canonical)

/-- In which order values are collected does not matter to what is collected. -/
theorem sameSet_pushAllUnique {others : List Value} (h : items.Perm others) :
    SameSet (pushAllUnique [] items) (pushAllUnique [] others) := by
  refine ⟨unlike_pushAllUnique unlike_nil _, unlike_pushAllUnique unlike_nil _, ?_⟩
  rw [map_canonical_pushAllUnique, map_canonical_pushAllUnique]
  exact distinct_perm (h.map canonical)

theorem SameSet.eq_nil_iff {others : List Value} (h : SameSet items others) :
    items = [] ↔ others = [] := by
  have hlength : items.length = others.length := by
    simpa using h.perm.length_eq
  rw [← List.length_eq_zero_iff, hlength, List.length_eq_zero_iff]

end Canonical

end Value

end Relint
