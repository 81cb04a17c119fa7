import Relint.Proofs.Merge.Targets

/-!
The order of proposals for different targets. What is merged for a target and who is
refused there depend on the proposals for that target alone. Two lists may therefore put
their targets in different orders as long as each target has the same proposals in the
same order in both. The failures of a round may come up in different orders then, and a
source rule that loses several merges may be reported with different ones. But in every
round the same source rules fail and are withdrawn, and so the merged rules are the same
at the end.
-/

namespace Relint

variable {mergers : MergerRegistry} {first second : List Proposal}
  {failed failed' : List RuleFailure}

/-- Every target has the same proposals in the same order in both lists. -/
def SameGroups (first second : List Proposal) : Prop :=
  ∀ target, first.filter (·.target = target) = second.filter (·.target = target)

theorem SameGroups.refl (proposals : List Proposal) : SameGroups proposals proposals :=
  fun _ => rfl

theorem SameGroups.append {first' second' : List Proposal} (h : SameGroups first second)
    (h' : SameGroups first' second') : SameGroups (first ++ first') (second ++ second') := by
  intro target
  rw [List.filter_append, List.filter_append, h target, h' target]

/-- Proposals for different targets may change places. -/
theorem sameGroups_append_comm
    (hdisjoint : (first.map (·.target)).Disjoint (second.map (·.target))) :
    SameGroups (first ++ second) (second ++ first) := by
  intro target
  rw [List.filter_append, List.filter_append]
  by_cases hfirst : target ∈ first.map (·.target)
  · have hnone : second.filter (fun p => decide (p.target = target)) = [] := by
      rw [List.filter_eq_nil_iff]
      intro p hp heq
      exact hdisjoint hfirst (List.mem_map.mpr ⟨p, hp, of_decide_eq_true heq⟩)
    rw [hnone, List.append_nil, List.nil_append]
  · have hnone : first.filter (fun p => decide (p.target = target)) = [] := by
      rw [List.filter_eq_nil_iff]
      intro p hp heq
      exact hfirst (List.mem_map.mpr ⟨p, hp, of_decide_eq_true heq⟩)
    rw [hnone, List.append_nil, List.nil_append]

/-- Both lists of failures name the same source rules. -/
def SameLosers (failed failed' : List RuleFailure) : Prop :=
  ∀ source, hasFailed failed source = hasFailed failed' source

theorem SameGroups.withdraw (h : SameGroups first second) (hlosers : SameLosers failed failed') :
    SameGroups (withdraw failed first) (withdraw failed' second) := by
  have hkept : (fun p : Proposal => !hasFailed failed p.source) =
      fun p => !hasFailed failed' p.source := by
    funext p
    rw [hlosers p.source]
  intro target
  rw [Relint.withdraw, Relint.withdraw, hkept, List.filter_comm, h target, List.filter_comm]

section Rounds

/-- A round fails where one of its groups does. -/
theorem mem_failed_mergeProposals_iff {proposals : List Proposal} {f : RuleFailure} :
    f ∈ (mergeProposals mergers proposals).failed ↔
      ∃ target, f ∈ (mergeGroup mergers target (proposals.filter (·.target = target))).2 := by
  rw [failed_mergeProposals, List.mem_flatMap]
  constructor
  · rintro ⟨target, _, hf⟩
    exact ⟨target, hf⟩
  · rintro ⟨target, hf⟩
    obtain ⟨p, hp, _⟩ := mergeGroup_failed hf
    obtain ⟨hproposal, htarget⟩ := List.mem_filter.mp hp
    refine ⟨target, ?_, hf⟩
    rw [mem_distinct]
    exact List.mem_map.mpr ⟨p, hproposal, of_decide_eq_true htarget⟩

/-- A round has the same failures in some order. -/
theorem SameGroups.mem_failed_iff (h : SameGroups first second) (f : RuleFailure) :
    f ∈ (mergeProposals mergers first).failed ↔ f ∈ (mergeProposals mergers second).failed := by
  simp only [mem_failed_mergeProposals_iff, h _]

theorem SameGroups.sameLosers (h : SameGroups first second) :
    SameLosers (mergeProposals mergers first).failed (mergeProposals mergers second).failed := by
  intro source
  rw [Bool.eq_iff_iff, hasFailed_iff_mem, hasFailed_iff_mem, List.mem_map, List.mem_map]
  simp only [h.mem_failed_iff]

theorem SameGroups.get?_mergeProposals (h : SameGroups first second) (target : String) :
    (mergeProposals mergers first).rules.get? target =
      (mergeProposals mergers second).rules.get? target := by
  rw [Relint.get?_mergeProposals, Relint.get?_mergeProposals, h target]

/-- At the end the same source rules have failed. Both runs go round by round together:
where they have withdrawn the same source rules, their next rounds fail for the same. -/
theorem SameGroups.sameLosers_settleFrom (h : SameGroups first second)
    (failed : List RuleFailure) : ∀ failed', SameLosers failed failed' →
      SameLosers (settleFrom mergers first failed).failed
        (settleFrom mergers second failed').failed := by
  fun_induction settleFrom mergers first failed with
  | case1 failed round hdone =>
      intro failed' hlosers
      have hquiet : (mergeProposals mergers (Relint.withdraw failed' second)).failed = [] := by
        rw [List.eq_nil_iff_forall_not_mem]
        intro f hf
        have hfirst : f ∈ round.failed := ((h.withdraw hlosers).mem_failed_iff f).mpr hf
        rw [hdone] at hfirst
        exact absurd hfirst List.not_mem_nil
      rw [settleFrom_of_merged hquiet]
      exact hlosers
  | case2 failed round hfails ih =>
      intro failed' hlosers
      rw [← settleFrom_addFailures mergers second failed']
      apply ih
      intro source
      rw [hasFailed_addFailures, hasFailed_addFailures, hlosers source,
        (h.withdraw hlosers).sameLosers source]

theorem SameGroups.sameLosers_settle (h : SameGroups first second) :
    SameLosers (settle mergers first).failed (settle mergers second).failed :=
  h.sameLosers_settleFrom [] [] fun _ => rfl

/-- At the end every target has the same settings. -/
theorem SameGroups.get?_settle (h : SameGroups first second) (target : String) :
    (settle mergers first).rules.get? target = (settle mergers second).rules.get? target := by
  rw [rules_settle, rules_settle]
  exact (h.withdraw h.sameLosers_settle).get?_mergeProposals target

end Rounds

end Relint
