import Relint.Merge.Proposals
import Relint.Proofs.Distinct
import Mathlib.Data.List.Induction

/-!
Grouping as filtering. Proposals come in one after the other and each is put into a
group that is found or opened; in the end there is one group for each target, in
the order in which targets first come up, and it has the proposals for that target
in their order.
-/

namespace Relint

namespace ProposalGroups

/-- Adding a proposal to groups that are listed by their targets: the group of its
target grows, or a new group comes last. -/
theorem add_map {targets : List String} (hnodup : targets.Nodup)
    (groupOf : String → List Proposal) (p : Proposal) :
    add p (targets.map fun target => (target, groupOf target)) =
      if p.target ∈ targets then
        targets.map fun target =>
          (target, if target = p.target then groupOf target ++ [p] else groupOf target)
      else targets.map (fun target => (target, groupOf target)) ++ [(p.target, [p])] := by
  induction targets with
  | nil => rfl
  | cons head rest ih =>
      obtain ⟨hfresh, hrest⟩ := List.nodup_cons.mp hnodup
      rw [List.map_cons, add]
      by_cases hhead : head = p.target
      · have hothers : (rest.map fun target =>
            (target, if target = p.target then groupOf target ++ [p] else groupOf target)) =
              rest.map fun target => (target, groupOf target) := by
          apply List.map_congr_left
          intro target htarget
          have hne : target ≠ p.target := by
            rintro rfl
            rw [← hhead] at htarget
            exact hfresh htarget
          rw [if_neg hne]
        simp [hhead, hothers]
      · have hne : p.target ≠ head := fun heq => hhead heq.symm
        rw [if_neg hhead, ih hrest]
        by_cases hmem : p.target ∈ rest
        · simp [hmem, hhead]
        · simp [hmem, hne]

/-- The groups are the targets in the order of their first proposals, each with its
own proposals. -/
theorem ofList_eq (proposals : List Proposal) :
    ofList proposals = (distinct (proposals.map (·.target))).map fun target =>
      (target, proposals.filter (·.target = target)) := by
  induction proposals using List.reverseRecOn with
  | nil => rfl
  | append_singleton earlier p ih =>
      have hstep : ofList (earlier ++ [p]) = add p (ofList earlier) := by
        rw [ofList, List.foldl_append]
        rfl
      rw [hstep, ih, add_map nodup_distinct, List.map_append, distinct_append]
      simp only [mem_distinct, List.map_cons, List.map_nil, List.foldl_cons, List.foldl_nil]
      by_cases hold : p.target ∈ earlier.map (·.target)
      · rw [if_pos hold, appendNew_of_mem (mem_distinct.mpr hold)]
        apply List.map_congr_left
        intro target _
        by_cases htarget : target = p.target
        · simp [htarget]
        · have hne : p.target ≠ target := fun heq => htarget heq.symm
          simp [htarget, hne]
      · have hnew : p.target ∉ distinct (earlier.map (·.target)) := by
          rw [mem_distinct]
          exact hold
        have hnone : earlier.filter (fun q => decide (q.target = p.target)) = [] := by
          rw [List.filter_eq_nil_iff]
          intro q hq
          have hne : q.target ≠ p.target := by
            intro heq
            exact hold (List.mem_map.mpr ⟨q, hq, heq⟩)
          simp [hne]
        rw [if_neg hold, appendNew_of_not_mem hnew, List.map_append]
        congr 1
        · apply List.map_congr_left
          intro target htarget
          have hne : p.target ≠ target := by
            rintro rfl
            exact hnew htarget
          simp [hne]
        · simp [hnone]

/-- A group has the proposals for its target and no others. -/
theorem mem_group_iff {proposals group : List Proposal} {target : String} {p : Proposal}
    (h : (target, group) ∈ ofList proposals) :
    p ∈ group ↔ p ∈ proposals ∧ p.target = target := by
  rw [ofList_eq] at h
  obtain ⟨target', _, hgroup⟩ := List.mem_map.mp h
  obtain ⟨rfl, rfl⟩ := Prod.mk.inj hgroup
  simp

end ProposalGroups

end Relint
