import Relint.Proofs.Merge.Groups
import Relint.Proofs.Merge.Settled
import Relint.Proofs.Rule.Map

/-!
Merging and notices. A merger sees arguments and severities only, and the notices of a
group are put together without it. Erasing notices and merging can therefore be done in
either order: the same proposals are refused, in every round, and the settled rules have
the same names, severities and arguments.
-/

namespace Relint

variable {mergers : MergerRegistry}

def Proposal.withoutNotices (p : Proposal) : Proposal :=
  ⟨p.source, p.target, p.arguments, p.severity, []⟩

def RuleSettings.withoutNotices (s : RuleSettings) : RuleSettings :=
  ⟨s.severity, s.arguments, []⟩

section Groups

theorem noticesOf_withoutNotices (proposals : List Proposal) :
    noticesOf (proposals.map Proposal.withoutNotices) = [] := by
  have hnone : (proposals.map Proposal.withoutNotices).flatMap (·.notices) = [] := by
    rw [List.flatMap_map, List.flatMap_eq_nil_iff]
    exact fun _ _ => rfl
  rw [noticesOf, hnone]
  rfl

theorem arguments_withoutNotices (proposals : List Proposal) :
    (proposals.map Proposal.withoutNotices).map (·.arguments) = proposals.map (·.arguments) := by
  rw [List.map_map]
  rfl

theorem severities_withoutNotices (proposals : List Proposal) :
    (proposals.map Proposal.withoutNotices).map (·.severity) = proposals.map (·.severity) := by
  rw [List.map_map]
  rfl

namespace Acceptance

def withoutNotices (a : Acceptance) : Acceptance :=
  ⟨a.accepted.map Proposal.withoutNotices, a.arguments, a.refused⟩

theorem step_withoutNotices (merger : Merger) (target : String) (a : Acceptance) (p : Proposal) :
    step merger target a.withoutNotices p.withoutNotices =
      (step merger target a p).withoutNotices := by
  have hoffered : a.withoutNotices.accepted.map (·.arguments) ++ [p.withoutNotices.arguments] =
      a.accepted.map (·.arguments) ++ [p.arguments] := by
    rw [withoutNotices, arguments_withoutNotices]
    rfl
  simp only [step, hoffered]
  split
  · simp [withoutNotices]
  · rfl

theorem ofGroup_withoutNotices (merger : Merger) (target : String) (first : Proposal)
    (rest : List Proposal) :
    ofGroup merger target first.withoutNotices (rest.map Proposal.withoutNotices) =
      (ofGroup merger target first rest).withoutNotices := by
  have general : ∀ a : Acceptance,
      (rest.map Proposal.withoutNotices).foldl (step merger target) a.withoutNotices =
        (rest.foldl (step merger target) a).withoutNotices := by
    induction rest with
    | nil => exact fun _ => rfl
    | cons p rest ih =>
        intro a
        rw [List.map_cons, List.foldl_cons, List.foldl_cons, step_withoutNotices]
        exact ih (step merger target a p)
  exact general ⟨[first], first.arguments, []⟩

end Acceptance

theorem mergeGroup_withoutNotices (mergers : MergerRegistry) (target : String)
    (group : List Proposal) :
    mergeGroup mergers target (group.map Proposal.withoutNotices) =
      ((mergeGroup mergers target group).1.withoutNotices,
        (mergeGroup mergers target group).2) := by
  rcases group with _ | ⟨first, _ | ⟨second, rest⟩⟩
  · rfl
  · rfl
  · have hnotices := noticesOf_withoutNotices (first :: second :: rest)
    have hseverities := severities_withoutNotices (first :: second :: rest)
    cases hmerger : mergers.lookup target with
    | none =>
        have hlast : (((first :: second :: rest).map Proposal.withoutNotices).getLast?.map
            (·.arguments)) = (first :: second :: rest).getLast?.map (·.arguments) := by
          rw [← List.getLast?_map, ← List.getLast?_map, arguments_withoutNotices]
        simp only [List.map_cons] at hnotices hseverities hlast ⊢
        simp only [mergeGroup, hmerger, hnotices, hseverities, hlast, RuleSettings.withoutNotices,
          List.map_cons]
    | some merger =>
        have hgroup := Acceptance.ofGroup_withoutNotices merger target first (second :: rest)
        simp only [List.map_cons] at hgroup ⊢
        simp only [mergeGroup, hmerger, hgroup, Acceptance.withoutNotices,
          noticesOf_withoutNotices, severities_withoutNotices, RuleSettings.withoutNotices]

end Groups

section Rules

namespace RuleMap

/-- The rules in the same places with their settings without notices. -/
def withoutNotices (m : RuleMap) : RuleMap :=
  ⟨m.entries.map fun entry => (entry.1, entry.2.withoutNotices), m.index⟩

theorem insert_withoutNotices (m : RuleMap) (name : String) (settings : RuleSettings) :
    m.withoutNotices.insert name settings.withoutNotices =
      (m.insert name settings).withoutNotices := by
  unfold insert withoutNotices
  cases m.index[name]? with
  | none => simp
  | some position => simp

@[simp] theorem withoutNotices_empty : empty.withoutNotices = empty := by
  simp [withoutNotices, empty]

theorem ofList_withoutNotices (entries : List (String × RuleSettings)) :
    ofList (entries.map fun entry => (entry.1, entry.2.withoutNotices)) =
      (ofList entries).withoutNotices := by
  have general : ∀ m : RuleMap,
      m.withoutNotices.insertAll (entries.map fun entry => (entry.1, entry.2.withoutNotices)) =
        (m.insertAll entries).withoutNotices := by
    induction entries with
    | nil => exact fun _ => rfl
    | cons entry rest ih =>
        intro m
        have hstep := ih (m.insert entry.1 entry.2)
        rw [← insert_withoutNotices] at hstep
        exact hstep
  have hempty := general empty
  rwa [withoutNotices_empty] at hempty

theorem toList_withoutNotices (m : RuleMap) :
    m.withoutNotices.toList = m.toList.map fun entry => (entry.1, entry.2.withoutNotices) :=
  Array.toList_map

end RuleMap

end Rules

section Rounds

def Merged.withoutNotices (m : Merged) : Merged :=
  ⟨m.rules.withoutNotices, m.failed⟩

theorem ProposalGroups.ofList_withoutNotices (proposals : List Proposal) :
    ofList (proposals.map Proposal.withoutNotices) =
      (ofList proposals).map fun entry => (entry.1, entry.2.map Proposal.withoutNotices) := by
  have htargets : (proposals.map Proposal.withoutNotices).map (·.target) =
      proposals.map (·.target) := by
    rw [List.map_map]
    rfl
  rw [ofList_eq, ofList_eq, htargets, List.map_map]
  apply List.map_congr_left
  intro target _
  rw [List.filter_map]
  rfl

theorem mergeProposals_withoutNotices (mergers : MergerRegistry) (proposals : List Proposal) :
    mergeProposals mergers (proposals.map Proposal.withoutNotices) =
      (mergeProposals mergers proposals).withoutNotices := by
  simp only [mergeProposals, Merged.withoutNotices, ProposalGroups.ofList_withoutNotices,
    ← RuleMap.ofList_withoutNotices, List.map_map, List.flatMap_map, Function.comp_def,
    mergeGroup_withoutNotices]

theorem withdraw_withoutNotices (failed : List RuleFailure) (proposals : List Proposal) :
    withdraw failed (proposals.map Proposal.withoutNotices) =
      (withdraw failed proposals).map Proposal.withoutNotices := by
  rw [withdraw, List.filter_map]
  rfl

theorem settleFrom_withoutNotices (mergers : MergerRegistry) (proposals : List Proposal)
    (failed : List RuleFailure) :
    settleFrom mergers (proposals.map Proposal.withoutNotices) failed =
      (settleFrom mergers proposals failed).withoutNotices := by
  have hround : ∀ failed,
      mergeProposals mergers (withdraw failed (proposals.map Proposal.withoutNotices)) =
        (mergeProposals mergers (withdraw failed proposals)).withoutNotices := by
    intro failed
    rw [withdraw_withoutNotices, mergeProposals_withoutNotices]
  fun_induction settleFrom mergers proposals failed with
  | case1 failed round hdone =>
      have hquiet : (mergeProposals mergers
          (withdraw failed (proposals.map Proposal.withoutNotices))).failed = [] := by
        rw [hround]
        exact hdone
      rw [settleFrom_of_merged hquiet, hround]
      rfl
  | case2 failed round hfails ih =>
      rw [← ih, ← settleFrom_addFailures, hround]
      rfl

/-- The merges settle in the same way whether or not notices are erased first. -/
theorem settle_withoutNotices (mergers : MergerRegistry) (proposals : List Proposal) :
    settle mergers (proposals.map Proposal.withoutNotices) =
      (settle mergers proposals).withoutNotices :=
  settleFrom_withoutNotices mergers proposals []

end Rounds

end Relint
