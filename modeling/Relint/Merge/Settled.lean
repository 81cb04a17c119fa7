import Relint.Merge.Proposals

/-!
Merging until nothing fails. A source rule that loses one merge must leave no
trace, so all its proposals are withdrawn and what remains is merged again. Every
round that fails withdraws at least one proposal, which is why the rounds end.
-/

namespace Relint

def hasFailed (failed : List RuleFailure) (source : String) : Bool :=
  failed.any (·.rule == source)

def withdraw (failed : List RuleFailure) (proposals : List Proposal) : List Proposal :=
  proposals.filter (!hasFailed failed ·.source)

def addFailure (failed : List RuleFailure) (f : RuleFailure) : List RuleFailure :=
  if hasFailed failed f.rule then failed else failed ++ [f]

/-- Takes in failures one after the other, so that each source rule keeps its
first. -/
def addFailures (failed new : List RuleFailure) : List RuleFailure :=
  new.foldl addFailure failed

theorem hasFailed_addFailure (failed : List RuleFailure) (f : RuleFailure) (source : String) :
    hasFailed (addFailure failed f) source = (hasFailed failed source || f.rule == source) := by
  unfold addFailure
  split
  · rename_i h
    by_cases hs : f.rule = source
    · simp [← hs, h]
    · simp [hs]
  · simp [hasFailed]

/-- A source rule has failed afterwards when it had before or is among the new
failures. -/
theorem hasFailed_addFailures (failed new : List RuleFailure) (source : String) :
    hasFailed (addFailures failed new) source =
      (hasFailed failed source || hasFailed new source) := by
  induction new generalizing failed with
  | nil => simp [addFailures, hasFailed]
  | cons f rest ih =>
      have step : addFailures failed (f :: rest) = addFailures (addFailure failed f) rest := rfl
      rw [step, ih, hasFailed_addFailure, Bool.or_assoc]
      simp [hasFailed]

/-- A round that fails withdraws a proposal. -/
theorem withdraw_shorter {mergers : MergerRegistry} {proposals : List Proposal}
    {failed : List RuleFailure}
    (h : (mergeProposals mergers (withdraw failed proposals)).failed ≠ []) :
    (withdraw (addFailures failed (mergeProposals mergers (withdraw failed proposals)).failed)
      proposals).length < (withdraw failed proposals).length := by
  obtain ⟨f, hf⟩ := List.exists_mem_of_ne_nil _ h
  obtain ⟨p, hp, hfp⟩ := mergeProposals_failed hf
  have nested : withdraw (addFailures failed
      (mergeProposals mergers (withdraw failed proposals)).failed) proposals =
      (withdraw failed proposals).filter
        (!hasFailed (mergeProposals mergers (withdraw failed proposals)).failed ·.source) := by
    unfold withdraw
    rw [List.filter_filter]
    congr 1
    funext q
    rw [hasFailed_addFailures, Bool.not_or, Bool.and_comm]
  rw [nested]
  refine List.length_filter_lt_length_iff_exists.mpr ⟨p, hp, ?_⟩
  have : hasFailed (mergeProposals mergers (withdraw failed proposals)).failed p.source = true :=
    List.any_eq_true.mpr ⟨f, hf, by simp [hfp]⟩
  simp [this]

/-- Merges the proposals of all source rules but those that have failed, and goes
on until a round has no failure. -/
def settleFrom (mergers : MergerRegistry) (proposals : List Proposal)
    (failed : List RuleFailure) : Merged :=
  let round := mergeProposals mergers (withdraw failed proposals)
  if round.failed = [] then ⟨round.rules, failed⟩
  else settleFrom mergers proposals (addFailures failed round.failed)
  termination_by (withdraw failed proposals).length
  decreasing_by exact withdraw_shorter ‹_›

/-- Merges proposals and withdraws every source rule that loses a merge. Each of
them is reported once, with its first failure. -/
def settle (mergers : MergerRegistry) (proposals : List Proposal) : Merged :=
  settleFrom mergers proposals []

end Relint
