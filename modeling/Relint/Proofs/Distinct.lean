import Relint.Distinct
import Mathlib.Data.List.Induction
import Mathlib.Data.List.Nodup

/-!
Lists whose repetitions are dropped. Every item stands where it first came up, so
items that are present already can be added again without any effect.
-/

namespace Relint

variable {α : Type} [BEq α]

theorem distinct_append (items additions : List α) :
    distinct (items ++ additions) = additions.foldl appendNew (distinct items) := by
  rw [distinct, List.foldl_append, distinct]

variable [LawfulBEq α] {items additions : List α} {item : α}

theorem appendNew_of_mem (h : item ∈ items) : appendNew items item = items := by
  simp [appendNew, h]

theorem appendNew_of_not_mem (h : item ∉ items) : appendNew items item = items ++ [item] := by
  simp [appendNew, h]

theorem mem_appendNew {x : α} : x ∈ appendNew items item ↔ x ∈ items ∨ x = item := by
  by_cases h : item ∈ items
  · rw [appendNew_of_mem h]
    constructor
    · exact Or.inl
    · rintro (hx | rfl)
      · exact hx
      · exact h
  · rw [appendNew_of_not_mem h, List.mem_append, List.mem_singleton]

theorem mem_foldl_appendNew {x : α} :
    x ∈ additions.foldl appendNew items ↔ x ∈ items ∨ x ∈ additions := by
  induction additions generalizing items with
  | nil => simp
  | cons item rest ih =>
      rw [List.foldl_cons, ih, mem_appendNew, List.mem_cons]
      tauto

@[simp] theorem mem_distinct {x : α} : x ∈ distinct items ↔ x ∈ items := by
  rw [distinct, mem_foldl_appendNew]
  simp

/-- Items that are there already add nothing. -/
theorem foldl_appendNew_of_subset (h : additions ⊆ items) :
    additions.foldl appendNew items = items := by
  induction additions with
  | nil => rfl
  | cons item rest ih =>
      obtain ⟨hitem, hrest⟩ := List.cons_subset.mp h
      rw [List.foldl_cons, appendNew_of_mem hitem, ih hrest]

theorem nodup_appendNew (h : items.Nodup) : (appendNew items item).Nodup := by
  by_cases hmem : item ∈ items
  · rw [appendNew_of_mem hmem]
    exact h
  · rw [appendNew_of_not_mem hmem]
    exact List.Nodup.append h (List.nodup_singleton _) (by simpa using hmem)

theorem nodup_foldl_appendNew (h : items.Nodup) : (additions.foldl appendNew items).Nodup := by
  induction additions generalizing items with
  | nil => exact h
  | cons item rest ih => exact ih (nodup_appendNew h)

theorem nodup_distinct : (distinct items).Nodup :=
  nodup_foldl_appendNew List.nodup_nil

/-- The items that are left are those that the library's function leaves. -/
theorem distinct_eq_eraseDups (items : List α) : distinct items = items.eraseDups := by
  induction items using List.reverseRecOn with
  | nil => rfl
  | append_singleton earlier item ih =>
      rw [distinct_append, List.foldl_cons, List.foldl_nil, List.eraseDups_append, ih]
      have hmem : item ∈ earlier.eraseDups ↔ item ∈ earlier := by rw [← ih, mem_distinct]
      by_cases hold : item ∈ earlier
      · rw [appendNew_of_mem (hmem.mpr hold)]
        simp [List.removeAll, hold]
      · rw [appendNew_of_not_mem (mt hmem.mp hold)]
        simp [List.removeAll, hold, List.eraseDups_cons]

/-- Leaving out items and dropping repetitions can be done in either order. -/
theorem distinct_filter (p : α → Bool) (items : List α) :
    distinct (items.filter p) = (distinct items).filter p := by
  induction items using List.reverseRecOn with
  | nil => rfl
  | append_singleton earlier item ih =>
      rw [List.filter_append, distinct_append, distinct_append, ih, List.foldl_cons,
        List.foldl_nil, List.filter_singleton]
      by_cases hmem : item ∈ distinct earlier
      · rw [appendNew_of_mem hmem]
        apply foldl_appendNew_of_subset
        intro x hx
        rw [List.mem_filter]
        cases hitem : p item with
        | true =>
            obtain rfl : x = item := by simpa [hitem] using hx
            exact ⟨hmem, hitem⟩
        | false => simp [hitem] at hx
      · rw [appendNew_of_not_mem hmem, List.filter_append, List.filter_singleton]
        cases hitem : p item with
        | true =>
            have hnew : item ∉ (distinct earlier).filter p :=
              fun hold => hmem (List.mem_of_mem_filter hold)
            exact appendNew_of_not_mem hnew
        | false => exact (List.append_nil _).symm

/-- The items that are kept do not depend on the order of the list. -/
theorem distinct_perm {others : List α} (h : items.Perm others) :
    (distinct items).Perm (distinct others) := by
  rw [List.perm_ext_iff_of_nodup nodup_distinct nodup_distinct]
  intro x
  rw [mem_distinct, mem_distinct, h.mem_iff]

/-- Items that are new and different are appended as they are. -/
theorem foldl_appendNew_of_nodup (h : (items ++ additions).Nodup) :
    additions.foldl appendNew items = items ++ additions := by
  induction additions generalizing items with
  | nil => simp
  | cons item rest ih =>
      have hfresh : item ∉ items := by
        intro hmem
        exact (List.nodup_append.mp h).2.2 _ hmem _ List.mem_cons_self rfl
      have hshifted : (items ++ [item] ++ rest).Nodup := by
        simpa using h
      rw [List.foldl_cons, appendNew_of_not_mem hfresh, ih hshifted, List.append_assoc]
      rfl

theorem distinct_of_nodup (h : items.Nodup) : distinct items = items := by
  rw [distinct, foldl_appendNew_of_nodup (by simpa using h), List.nil_append]

@[simp] theorem distinct_distinct (items : List α) : distinct (distinct items) = distinct items :=
  distinct_of_nodup nodup_distinct

/-- Putting a list behind one that it was part of changes nothing. -/
theorem distinct_distinct_append (items additions : List α) :
    distinct (distinct (items ++ additions) ++ additions) = distinct (items ++ additions) := by
  rw [distinct_append, distinct_distinct]
  apply foldl_appendNew_of_subset
  intro x hx
  rw [mem_distinct]
  exact List.mem_append_right _ hx

/-- What is there stays in front, and only what was not there comes behind it. -/
theorem exists_foldl_appendNew (items additions : List α) :
    ∃ new, additions.foldl appendNew items = items ++ new ∧ ∀ x ∈ new, x ∉ items := by
  induction additions generalizing items with
  | nil => exact ⟨[], by simp, by simp⟩
  | cons item rest ih =>
      obtain ⟨new, hnew, hfresh⟩ := ih (appendNew items item)
      rw [List.foldl_cons, hnew]
      by_cases hmem : item ∈ items
      · rw [appendNew_of_mem hmem] at hfresh ⊢
        exact ⟨new, rfl, hfresh⟩
      · rw [appendNew_of_not_mem hmem] at hfresh ⊢
        refine ⟨item :: new, by simp, ?_⟩
        rintro x hx
        rcases List.mem_cons.mp hx with rfl | hx
        · exact hmem
        · exact fun hold => hfresh x hx (List.mem_append_left _ hold)

/-- What is new comes behind what is there, each item at its first place. -/
theorem foldl_appendNew_eq_append (items additions : List α) :
    additions.foldl appendNew items =
      items ++ (distinct additions).filter fun x => !items.contains x := by
  induction additions using List.reverseRecOn with
  | nil => simp [distinct]
  | append_singleton earlier item ih =>
      rw [List.foldl_append, List.foldl_cons, List.foldl_nil, distinct_append, List.foldl_cons,
        List.foldl_nil, ih]
      by_cases hearlier : item ∈ distinct earlier
      · rw [appendNew_of_mem hearlier, appendNew_of_mem]
        by_cases hitem : item ∈ items
        · exact List.mem_append_left _ hitem
        · exact List.mem_append_right _ (List.mem_filter.mpr ⟨hearlier, by simp [hitem]⟩)
      · rw [appendNew_of_not_mem hearlier, List.filter_append]
        by_cases hitem : item ∈ items
        · rw [appendNew_of_mem (List.mem_append_left _ hitem)]
          simp [hitem]
        · rw [appendNew_of_not_mem (by simp [hitem, hearlier])]
          simp [hitem]

/-- Repetitions in what is added do not count. -/
theorem foldl_appendNew_distinct (items additions : List α) :
    (distinct additions).foldl appendNew items = additions.foldl appendNew items := by
  induction additions using List.reverseRecOn with
  | nil => rfl
  | append_singleton earlier item ih =>
      rw [distinct_append, List.foldl_append, ← ih]
      simp only [List.foldl_cons, List.foldl_nil]
      by_cases h : item ∈ distinct earlier
      · have hpresent : item ∈ (distinct earlier).foldl appendNew items :=
          mem_foldl_appendNew.mpr (Or.inr h)
        rw [appendNew_of_mem h, appendNew_of_mem hpresent]
      · rw [appendNew_of_not_mem h, List.foldl_append]
        rfl

/-- Whether the parts of a list are freed of repetitions first does not matter to the
whole. -/
theorem distinct_flatMap_distinct {β : Type} (parts : List β) (f : β → List α) :
    distinct (parts.flatMap fun part => distinct (f part)) = distinct (parts.flatMap f) := by
  induction parts using List.reverseRecOn with
  | nil => rfl
  | append_singleton earlier part ih =>
      simp only [List.flatMap_append, List.flatMap_cons, List.flatMap_nil, List.append_nil]
      rw [distinct_append, ih, foldl_appendNew_distinct, ← distinct_append]

/-- Items without repetition stand in the order of their first places. -/
theorem pairwise_idxOf_distinct (items : List α) :
    (distinct items).Pairwise fun a b => items.idxOf a < items.idxOf b := by
  induction items using List.reverseRecOn with
  | nil => exact List.Pairwise.nil
  | append_singleton earlier item ih =>
      have hearlier : (distinct earlier).Pairwise fun a b =>
          (earlier ++ [item]).idxOf a < (earlier ++ [item]).idxOf b := by
        refine ih.imp_of_mem ?_
        intro a b ha hb hlt
        rwa [List.idxOf_append_of_mem (mem_distinct.mp ha),
          List.idxOf_append_of_mem (mem_distinct.mp hb)]
      rw [distinct_append, List.foldl_cons, List.foldl_nil]
      by_cases hmem : item ∈ distinct earlier
      · rw [appendNew_of_mem hmem]
        exact hearlier
      · have hlast : (earlier ++ [item]).idxOf item = earlier.length := by
          rw [List.idxOf_append_of_notMem (mt mem_distinct.mpr hmem)]
          simp
        rw [appendNew_of_not_mem hmem, List.pairwise_append]
        refine ⟨hearlier, List.pairwise_singleton _ _, ?_⟩
        intro a ha b hb
        rw [List.mem_singleton.mp hb, hlast, List.idxOf_append_of_mem (mem_distinct.mp ha)]
        exact List.idxOf_lt_length_of_mem (mem_distinct.mp ha)

/-- The last item without repetition is the one that first comes up behind all others. -/
theorem getLast?_distinct_iff :
    (distinct items).getLast? = some item ↔
      item ∈ items ∧ ∀ x ∈ items, items.idxOf x ≤ items.idxOf item := by
  have hordered := pairwise_idxOf_distinct items
  have hsame : ∀ {x}, x ∈ distinct items ↔ x ∈ items := mem_distinct
  cases hlist : distinct items using List.reverseRecOn with
  | nil =>
      have hnone : item ∉ items := by
        rw [← hsame, hlist]
        exact List.not_mem_nil
      simp [hnone]
  | append_singleton earlier last _ =>
      rw [hlist, List.pairwise_append] at hordered
      have hbefore : ∀ x ∈ earlier, items.idxOf x < items.idxOf last :=
        fun x hx => hordered.2.2 x hx last (List.mem_singleton_self last)
      have hmem : ∀ {x}, x ∈ items ↔ x ∈ earlier ∨ x = last := by
        intro x
        rw [← hsame, hlist, List.mem_append, List.mem_singleton]
      rw [List.getLast?_concat, Option.some.injEq]
      constructor
      · rintro rfl
        refine ⟨hmem.mpr (Or.inr rfl), ?_⟩
        intro x hx
        rcases hmem.mp hx with hearlier | rfl
        · exact Nat.le_of_lt (hbefore x hearlier)
        · exact Nat.le_refl _
      · rintro ⟨hitem, hall⟩
        rcases hmem.mp hitem with hearlier | heq
        · have hlast := hall last (hmem.mpr (Or.inr rfl))
          have hlt := hbefore item hearlier
          omega
        · exact heq.symm

/-- An item that is put behind two lists and is not in the second is last, unless the first
list has it and another item comes up behind it there or only in the second list. -/
theorem getLast?_distinct_concat_iff {first second : List α} (hsecond : item ∉ second) :
    (distinct (first ++ second ++ [item])).getLast? = some item ↔
      item ∉ first ∨
        ∀ x ∈ distinct (first ++ second ++ [item]), first.idxOf x ≤ first.idxOf item := by
  have hlast : item ∈ first ++ second ++ [item] := by simp
  simp only [getLast?_distinct_iff, mem_distinct, hlast, true_and]
  by_cases hfirst : item ∈ first
  · have hitem : (first ++ second ++ [item]).idxOf item = first.idxOf item := by
      rw [List.append_assoc, List.idxOf_append_of_mem hfirst]
    have hlt : first.idxOf item < first.length := List.idxOf_lt_length_of_mem hfirst
    simp only [hfirst, not_true_eq_false, false_or, hitem]
    apply forall₂_congr
    intro x _
    by_cases hx : x ∈ first
    · rw [List.append_assoc, List.idxOf_append_of_mem hx]
    · -- An item that is not in the first list is behind all of it, in either reading.
      rw [List.append_assoc, List.idxOf_append_of_notMem hx, List.idxOf_eq_length hx]
      omega
  · have hfresh : item ∉ first ++ second := by
      rw [List.mem_append]
      exact not_or_intro hfirst hsecond
    have hitem : (first ++ second ++ [item]).idxOf item = (first ++ second).length := by
      rw [List.idxOf_append_of_notMem hfresh]
      simp
    refine iff_of_true ?_ (Or.inl hfirst)
    intro x hx
    have hlt := List.idxOf_lt_length_of_mem hx
    rw [List.length_append, List.length_singleton] at hlt
    omega

end Relint
