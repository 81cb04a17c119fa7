import Relint.Proofs.Merge.Groups
import Relint.Proofs.Merge.Settled
import Relint.Proofs.Rule.Map

/-!
Merging one target rule after the other. What is merged for a target and who is
refused there depend on the proposals for that target alone, and the merged rules
stand in the order in which their targets first come up. After the merges have
settled they are the targets of everybody who did not fail.
-/

namespace Relint

variable {mergers : MergerRegistry} {proposals : List Proposal}

theorem toList_mergeProposals (mergers : MergerRegistry) (proposals : List Proposal) :
    (mergeProposals mergers proposals).rules.toList =
      (distinct (proposals.map (·.target))).map fun target =>
        (target, (mergeGroup mergers target (proposals.filter (·.target = target))).1) := by
  simp only [mergeProposals, ProposalGroups.ofList_eq, List.map_map, Function.comp_def,
    RuleMap.toList_ofList]
  apply Assoc.ofEntries_of_nodup
  simpa [Assoc.keys, Function.comp_def] using nodup_distinct

theorem failed_mergeProposals (mergers : MergerRegistry) (proposals : List Proposal) :
    (mergeProposals mergers proposals).failed =
      (distinct (proposals.map (·.target))).flatMap fun target =>
        (mergeGroup mergers target (proposals.filter (·.target = target))).2 := by
  simp only [mergeProposals, ProposalGroups.ofList_eq, List.map_map, Function.comp_def,
    List.flatMap_map]

theorem keys_mergeProposals (mergers : MergerRegistry) (proposals : List Proposal) :
    (mergeProposals mergers proposals).rules.keys = distinct (proposals.map (·.target)) := by
  simp [RuleMap.keys, toList_mergeProposals, Function.comp_def]

theorem wellIndexed_mergeProposals : (mergeProposals mergers proposals).rules.WellIndexed :=
  RuleMap.wellIndexed_ofList _

/-- The settings of a target rule are those of its group, if anybody proposes it. -/
theorem get?_mergeProposals (mergers : MergerRegistry) (proposals : List Proposal)
    (target : String) :
    (mergeProposals mergers proposals).rules.get? target =
      if proposals.filter (·.target = target) = [] then none
      else some (mergeGroup mergers target (proposals.filter (·.target = target))).1 := by
  rw [RuleMap.get?_eq_lookup wellIndexed_mergeProposals]
  split
  · rename_i hnone
    rw [Assoc.lookup_eq_none_iff_not_mem_keys, ← RuleMap.keys_eq, keys_mergeProposals,
      mem_distinct, List.mem_map]
    rintro ⟨p, hp, heq⟩
    exact List.filter_eq_nil_iff.mp hnone p hp (decide_eq_true heq)
  · rename_i hsome
    obtain ⟨p, hp⟩ := List.exists_mem_of_ne_nil _ hsome
    obtain ⟨hp, heq⟩ := List.mem_filter.mp hp
    have hmem : target ∈ distinct (proposals.map (·.target)) := by
      rw [mem_distinct]
      exact List.mem_map.mpr ⟨p, hp, of_decide_eq_true heq⟩
    rw [toList_mergeProposals, List.lookup_graph _ hmem]

/-- Leaving out all proposals for some targets leaves the other targets in their order with
the settings they have. -/
theorem toList_mergeProposals_filter (mergers : MergerRegistry) (proposals : List Proposal)
    (kept : String → Bool) :
    (mergeProposals mergers (proposals.filter fun p => kept p.target)).rules.toList =
      (mergeProposals mergers proposals).rules.toList.filter fun entry => kept entry.1 := by
  have htargets : (proposals.filter fun p => kept p.target).map (·.target) =
      (proposals.map (·.target)).filter kept := by
    rw [List.filter_map]
    rfl
  rw [toList_mergeProposals, toList_mergeProposals, htargets, distinct_filter, List.filter_map]
  apply List.map_congr_left
  intro target htarget
  have hkept : kept target = true := (List.mem_filter.mp htarget).2
  have hgroup : (proposals.filter fun p => kept p.target).filter
      (fun p => decide (p.target = target)) =
        proposals.filter fun p => decide (p.target = target) := by
    rw [List.filter_filter]
    apply List.filter_congr
    intro p _
    by_cases htarget : p.target = target
    · simp [htarget, hkept]
    · simp [htarget]
  rw [hgroup]

theorem rules_settle (mergers : MergerRegistry) (proposals : List Proposal) :
    (settle mergers proposals).rules =
      (mergeProposals mergers (withdraw (settle mergers proposals).failed proposals)).rules := by
  rw [mergeProposals_settle]

/-- The settled rules are the targets of those who did not fail, in the order in which
they propose them. -/
theorem keys_settle (mergers : MergerRegistry) (proposals : List Proposal) :
    (settle mergers proposals).rules.keys =
      distinct ((withdraw (settle mergers proposals).failed proposals).map (·.target)) := by
  rw [rules_settle, keys_mergeProposals]

theorem wellIndexed_settle : (settle mergers proposals).rules.WellIndexed := by
  rw [rules_settle]
  exact wellIndexed_mergeProposals

end Relint
