import Relint.Proofs.Merge.Settled
import Relint.Proofs.Distinct

/-!
How many rounds of merging there are. A round that is not the last one fails a source
rule that still had proposals, which therefore had not failed before. The source rules
that can still fail become fewer with every round, and so there is at most one more round
than there are source rules, whatever the mergers refuse.
-/

namespace Relint

variable {mergers : MergerRegistry} {proposals : List Proposal}
  {failed : List RuleFailure} {rounds : List (List RuleFailure)} {merged : Merged}

/-- What one round merges, and what fails in it, when these failures are known before it. -/
def mergeRound (mergers : MergerRegistry) (proposals : List Proposal)
    (failed : List RuleFailure) : Merged :=
  mergeProposals mergers (withdraw failed proposals)

/-- A run of the rounds, from the failures that are known before the first round and those
that are known before each further one. A round with failures takes them in and is not the
last one; a round without any ends the run, with its rules and with all failures that are
known. -/
inductive SettlingRun (mergers : MergerRegistry) (proposals : List Proposal) :
    List RuleFailure → List (List RuleFailure) → Merged → Prop where
  | quiet {failed : List RuleFailure} (done : (mergeRound mergers proposals failed).failed = []) :
      SettlingRun mergers proposals failed []
        ⟨(mergeRound mergers proposals failed).rules, failed⟩
  | again {failed after : List RuleFailure} {rounds : List (List RuleFailure)} {merged : Merged}
      (loses : (mergeRound mergers proposals failed).failed ≠ [])
      (after_eq : after = addFailures failed (mergeRound mergers proposals failed).failed)
      (rest : SettlingRun mergers proposals after rounds merged) :
      SettlingRun mergers proposals failed (after :: rounds) merged

/-- The failures that were known stay in their places, and there is one of a source rule
that had not failed. -/
structure FailsAnew (before after : List RuleFailure) : Prop where
  kept : before <+: after
  added : ∃ f ∈ after, f.rule ∉ before.map (·.rule)

/-- The source rules with proposals that have not failed yet, each once. -/
def openSources (proposals : List Proposal) (failed : List RuleFailure) : List String :=
  ((proposals.map (·.source)).eraseDups).filter (!hasFailed failed ·)

section Steps

theorem prefix_addFailure (failed : List RuleFailure) (f : RuleFailure) :
    failed <+: addFailure failed f := by
  unfold addFailure
  split
  · exact List.prefix_refl failed
  · exact List.prefix_append failed [f]

theorem prefix_addFailures (failed new : List RuleFailure) : failed <+: addFailures failed new := by
  induction new generalizing failed with
  | nil => exact List.prefix_refl failed
  | cons f rest ih => exact (prefix_addFailure failed f).trans (ih (addFailure failed f))

/-- A round that fails has a failure of a source rule that has proposals and had not
failed. -/
theorem exists_open_of_loses (loses : (mergeRound mergers proposals failed).failed ≠ []) :
    ∃ source ∈ openSources proposals failed,
      hasFailed (mergeRound mergers proposals failed).failed source = true := by
  obtain ⟨f, hf⟩ := List.exists_mem_of_ne_nil _ loses
  obtain ⟨p, hp, hsource⟩ := mergeProposals_failed hf
  obtain ⟨hproposal, hopen⟩ := List.mem_filter.mp hp
  have hmem : p.source ∈ openSources proposals failed := by
    rw [openSources, List.mem_filter, List.mem_eraseDups]
    exact ⟨List.mem_map_of_mem hproposal, hopen⟩
  refine ⟨p.source, hmem, ?_⟩
  rw [hasFailed_iff_mem, ← hsource]
  exact List.mem_map_of_mem hf

theorem failsAnew_of_loses (loses : (mergeRound mergers proposals failed).failed ≠ []) :
    FailsAnew failed (addFailures failed (mergeRound mergers proposals failed).failed) := by
  obtain ⟨source, hopen, hfails⟩ := exists_open_of_loses loses
  have hbefore : hasFailed failed source = false := by
    simpa using (List.mem_filter.mp hopen).2
  have hafter : source ∈ (addFailures failed
      (mergeRound mergers proposals failed).failed).map (·.rule) := by
    rw [← hasFailed_iff_mem, hasFailed_addFailures, hfails, Bool.or_true]
  obtain ⟨f, hf, rfl⟩ := List.mem_map.mp hafter
  refine ⟨prefix_addFailures _ _, f, hf, ?_⟩
  rw [← hasFailed_iff_mem, hbefore]
  exact Bool.false_ne_true

/-- A round that fails leaves fewer source rules that can fail. -/
theorem openSources_shorter (loses : (mergeRound mergers proposals failed).failed ≠ []) :
    (openSources proposals
        (addFailures failed (mergeRound mergers proposals failed).failed)).length <
      (openSources proposals failed).length := by
  have hnested : openSources proposals
      (addFailures failed (mergeRound mergers proposals failed).failed) =
        (openSources proposals failed).filter
          (!hasFailed (mergeRound mergers proposals failed).failed ·) := by
    rw [openSources, openSources, List.filter_filter]
    apply List.filter_congr
    intro source _
    rw [hasFailed_addFailures, Bool.not_or, Bool.and_comm]
  obtain ⟨source, hopen, hfails⟩ := exists_open_of_loses loses
  rw [hnested, List.length_filter_lt_length_iff_exists]
  exact ⟨source, hopen, by simp [hfails]⟩

end Steps

section Runs

/-- The rounds come to an end. -/
theorem exists_settlingRun (mergers : MergerRegistry) (proposals : List Proposal)
    (failed : List RuleFailure) :
    ∃ rounds, SettlingRun mergers proposals failed rounds
      (settleFrom mergers proposals failed) := by
  fun_induction settleFrom mergers proposals failed with
  | case1 failed round hdone => exact ⟨[], .quiet hdone⟩
  | case2 failed round hloses ih =>
      obtain ⟨rounds, hrun⟩ := ih
      exact ⟨_ :: rounds, .again hloses rfl hrun⟩

/-- Nothing else than the settled rules can come of the rounds. -/
theorem SettlingRun.merged_eq (h : SettlingRun mergers proposals failed rounds merged) :
    merged = settleFrom mergers proposals failed := by
  induction h with
  | quiet done => exact (settleFrom_of_merged done).symm
  | @again failed after rounds merged loses after_eq rest ih =>
      rw [ih, after_eq]
      exact settleFrom_addFailures mergers proposals failed

/-- There are no more rounds behind the first than source rules that could fail in it. -/
theorem SettlingRun.length_le (h : SettlingRun mergers proposals failed rounds merged) :
    rounds.length ≤ (openSources proposals failed).length := by
  induction h with
  | quiet done => exact Nat.zero_le _
  | again loses after_eq rest ih =>
      have hshorter := openSources_shorter loses
      rw [← after_eq] at hshorter
      rw [List.length_cons]
      omega

theorem SettlingRun.failsAnew (h : SettlingRun mergers proposals failed rounds merged) :
    (failed :: rounds).IsChain FailsAnew := by
  induction h with
  | quiet done => exact .singleton _
  | again loses after_eq rest ih =>
      have hanew := failsAnew_of_loses loses
      rw [← after_eq] at hanew
      exact .cons_cons hanew ih

end Runs

/-- Merging in rounds ends, whatever the mergers refuse. Every run of the rounds comes to the
settled rules. It has at most one round more than there are source rules, because each round
but the last fails one that had not failed before, and merging what has not failed at the end
has no failures and gives exactly the rules that are returned. -/
theorem settle_rounds (mergers : MergerRegistry) (proposals : List Proposal) :
    (∃ rounds, SettlingRun mergers proposals [] rounds (settle mergers proposals)) ∧
      ∀ rounds merged, SettlingRun mergers proposals [] rounds merged →
        merged = settle mergers proposals ∧
          ([] :: rounds).IsChain FailsAnew ∧
          ([] :: rounds).length ≤ (proposals.map (·.source)).eraseDups.length + 1 ∧
          mergeProposals mergers (withdraw merged.failed proposals) = ⟨merged.rules, []⟩ := by
  refine ⟨exists_settlingRun mergers proposals [], ?_⟩
  intro rounds merged hrun
  have hmerged : merged = settle mergers proposals := hrun.merged_eq
  have hall : openSources proposals [] = (proposals.map (·.source)).eraseDups := by
    simp [openSources]
  have hlength := hrun.length_le
  rw [hall] at hlength
  refine ⟨hmerged, hrun.failsAnew, ?_, ?_⟩
  · rw [List.length_cons]
    omega
  · rw [hmerged]
    exact mergeProposals_settle mergers proposals

/-- Mergers that let the first proposal decide which arguments the others may have. -/
def narrowingMergers : MergerRegistry :=
  let narrowing : Merger := .ofArguments fun proposals =>
    if proposals.all (·.all ((proposals.headD []).contains ·)) then .ok (proposals.headD [])
    else .error "Quotes that the first rule does not allow."
  [("quotes", narrowing), ("jsx-quotes", narrowing)]

/-- Proposals of which the last is only refused when the second source rule, which allows its
arguments, has failed for another target. -/
def narrowingProposals : List Proposal := [
  ⟨"quotemark", "quotes", [.string "single"], .error, []⟩,
  ⟨"jsx-quotemark", "quotes", [.string "double"], .error, []⟩,
  ⟨"jsx-quotemark", "jsx-quotes", [.string "single", .string "double"], .error, []⟩,
  ⟨"jsx-strings", "jsx-quotes", [.string "single"], .warn, []⟩,
  ⟨"jsx-attributes", "jsx-quotes", [.string "double"], .warn, []⟩]

/-- Three rounds for four source rules: the second one fails a rule that the first one had
let through. -/
theorem narrowing_settle_rounds :
    let jsxQuotemark : RuleFailure := .unresolvableMerge "jsx-quotemark" "quotes"
      "Quotes that the first rule does not allow."
    let jsxAttributes : RuleFailure := .unresolvableMerge "jsx-attributes" "jsx-quotes"
      "Quotes that the first rule does not allow."
    let rounds := [[jsxQuotemark], [jsxQuotemark, jsxAttributes]]
    ∃ merged, SettlingRun narrowingMergers narrowingProposals [] rounds merged ∧
      merged = settle narrowingMergers narrowingProposals ∧
      ([] :: rounds).IsChain FailsAnew ∧
      ([] :: rounds).length ≤ (narrowingProposals.map (·.source)).eraseDups.length + 1 ∧
      mergeProposals narrowingMergers (withdraw merged.failed narrowingProposals) =
        ⟨merged.rules, []⟩ := by
  intro jsxQuotemark jsxAttributes rounds
  have hfirst : (mergeRound narrowingMergers narrowingProposals []).failed = [jsxQuotemark] := by
    decide +kernel
  have hsecond : (mergeRound narrowingMergers narrowingProposals [jsxQuotemark]).failed =
      [jsxAttributes] := by
    decide +kernel
  have hthird : (mergeRound narrowingMergers narrowingProposals
      [jsxQuotemark, jsxAttributes]).failed = [] := by
    decide +kernel
  have hrun : SettlingRun narrowingMergers narrowingProposals [] rounds
      ⟨(mergeRound narrowingMergers narrowingProposals [jsxQuotemark, jsxAttributes]).rules,
        [jsxQuotemark, jsxAttributes]⟩ := by
    refine .again ?_ ?_ (.again ?_ ?_ (.quiet hthird))
    · simp [hfirst]
    · rw [hfirst]
      rfl
    · simp [hsecond]
    · rw [hsecond]
      rfl
  exact ⟨_, hrun, (settle_rounds narrowingMergers narrowingProposals).2 _ _ hrun⟩

end Relint
