import Relint.Merge.Settled
import Mathlib.Data.List.Nodup

/-!
Where the rounds of merging end. Every source rule that is reported had made a
proposal and is reported once, and merging what is left once more has no failure
and gives the settled rules. Proposals that merge without failure are settled
after a single round, so the settled rules are those of a run in which nobody
fails.
-/

namespace Relint

variable {mergers : MergerRegistry} {proposals : List Proposal} {failed : List RuleFailure}

theorem hasFailed_iff_mem {source : String} :
    hasFailed failed source = true ↔ source ∈ failed.map (·.rule) := by
  simp [hasFailed]

@[simp] theorem hasFailed_nil (source : String) : hasFailed [] source = false :=
  rfl

@[simp] theorem withdraw_nil (proposals : List Proposal) : withdraw [] proposals = proposals := by
  simp [withdraw]

theorem withdraw_flatMap {α : Type} (items : List α) (f : α → List Proposal) :
    withdraw failed (items.flatMap f) = items.flatMap fun item => withdraw failed (f item) := by
  simp only [withdraw, List.filter_flatMap]

theorem mem_addFailure {f g : RuleFailure} (h : g ∈ addFailure failed f) : g ∈ failed ∨ g = f := by
  unfold addFailure at h
  split at h
  · exact Or.inl h
  · simpa using h

/-- A list of failures in which no source rule occurs twice stays so, because a
source rule that has failed is not taken in again. -/
theorem nodup_addFailure (f : RuleFailure) (h : (failed.map (·.rule)).Nodup) :
    ((addFailure failed f).map (·.rule)).Nodup := by
  unfold addFailure
  split
  · exact h
  · rename_i hnew
    have hfresh : f.rule ∉ failed.map (·.rule) := by
      rw [← hasFailed_iff_mem]
      exact hnew
    rw [List.map_append, List.nodup_append]
    refine ⟨h, List.nodup_singleton _, ?_⟩
    intro source hsource other hother heq
    apply hfresh
    simp only [List.map_cons, List.map_nil, List.mem_singleton] at hother
    rwa [← hother, ← heq]

theorem mem_addFailures {new : List RuleFailure} {g : RuleFailure}
    (h : g ∈ addFailures failed new) : g ∈ failed ∨ g ∈ new := by
  induction new generalizing failed with
  | nil => exact Or.inl h
  | cons f rest ih =>
      have hstep : g ∈ addFailures (addFailure failed f) rest := h
      rcases ih hstep with hbefore | hrest
      · rcases mem_addFailure hbefore with hfailed | rfl
        · exact Or.inl hfailed
        · exact Or.inr List.mem_cons_self
      · exact Or.inr (List.mem_cons_of_mem _ hrest)

theorem nodup_addFailures (new : List RuleFailure) (h : (failed.map (·.rule)).Nodup) :
    ((addFailures failed new).map (·.rule)).Nodup := by
  induction new generalizing failed with
  | nil => exact h
  | cons f rest ih => exact ih (nodup_addFailure f h)

/-- A round that does not fail is the last one. -/
theorem settleFrom_of_merged
    (h : (mergeProposals mergers (withdraw failed proposals)).failed = []) :
    settleFrom mergers proposals failed =
      ⟨(mergeProposals mergers (withdraw failed proposals)).rules, failed⟩ := by
  rw [settleFrom]
  simp [h]

theorem settle_of_merged (h : (mergeProposals mergers proposals).failed = []) :
    settle mergers proposals = ⟨(mergeProposals mergers proposals).rules, []⟩ := by
  have hround : (mergeProposals mergers (withdraw [] proposals)).failed = [] := by
    rw [withdraw_nil]
    exact h
  rw [settle, settleFrom_of_merged hround, withdraw_nil]

/-- A run may as well start with the failures of its first round. -/
theorem settleFrom_addFailures (mergers : MergerRegistry) (proposals : List Proposal)
    (failed : List RuleFailure) :
    settleFrom mergers proposals
        (addFailures failed (mergeProposals mergers (withdraw failed proposals)).failed) =
      settleFrom mergers proposals failed := by
  by_cases hdone : (mergeProposals mergers (withdraw failed proposals)).failed = []
  · rw [hdone]
    rfl
  · conv_rhs => rw [settleFrom]
    simp [hdone]

/-- At the end nothing fails any more, and what the last round merged is returned. -/
theorem mergeProposals_settleFrom :
    mergeProposals mergers (withdraw (settleFrom mergers proposals failed).failed proposals) =
      ⟨(settleFrom mergers proposals failed).rules, []⟩ := by
  fun_induction settleFrom mergers proposals failed with
  | case1 failed round hround =>
      change round = ⟨round.rules, []⟩
      rw [← hround]
  | case2 failed round hround ih => exact ih

/-- Every failure is one of those at the start or that of a source rule with a
proposal. -/
theorem mem_failed_settleFrom {f : RuleFailure}
    (h : f ∈ (settleFrom mergers proposals failed).failed) :
    f ∈ failed ∨ ∃ p ∈ proposals, p.source = f.rule := by
  fun_induction settleFrom mergers proposals failed with
  | case1 failed round hround => exact Or.inl h
  | case2 failed round hround ih =>
      rcases ih h with hbefore | hproposal
      · rcases mem_addFailures hbefore with hfailed | hround
        · exact Or.inl hfailed
        · obtain ⟨p, hp, hrule⟩ := mergeProposals_failed hround
          exact Or.inr ⟨p, List.mem_of_mem_filter hp, hrule.symm⟩
      · exact Or.inr hproposal

theorem nodup_failed_settleFrom (h : (failed.map (·.rule)).Nodup) :
    ((settleFrom mergers proposals failed).failed.map (·.rule)).Nodup := by
  fun_induction settleFrom mergers proposals failed with
  | case1 failed round hround => exact h
  | case2 failed round hround ih => exact ih (nodup_addFailures _ h)

/-- Merging what is left when the merges have settled gives the settled rules. -/
theorem mergeProposals_settle (mergers : MergerRegistry) (proposals : List Proposal) :
    mergeProposals mergers (withdraw (settle mergers proposals).failed proposals) =
      ⟨(settle mergers proposals).rules, []⟩ :=
  mergeProposals_settleFrom

/-- Whoever is reported made a proposal. -/
theorem mem_failed_settle {f : RuleFailure} (h : f ∈ (settle mergers proposals).failed) :
    ∃ p ∈ proposals, p.source = f.rule := by
  rcases mem_failed_settleFrom h with hnil | hproposal
  · exact absurd hnil List.not_mem_nil
  · exact hproposal

/-- Nobody is reported twice. -/
theorem nodup_failed_settle : ((settle mergers proposals).failed.map (·.rule)).Nodup :=
  nodup_failed_settleFrom List.nodup_nil

/-- Without the proposals of those who fail the merges are settled at once, with the
same rules. -/
theorem settle_withdraw :
    settle mergers (withdraw (settle mergers proposals).failed proposals) =
      ⟨(settle mergers proposals).rules, []⟩ := by
  have hclean := mergeProposals_settle mergers proposals
  rw [settle_of_merged (by rw [hclean]), hclean]

end Relint
