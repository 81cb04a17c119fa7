import Relint.Proofs.Merge.Builtin
import Relint.Proofs.Merge.Earlier

/-!
Proposals that are off, among others for the same target. As long as the target is not
off in the end they have no part in how severe it is: the severity is the one that the
other proposals have without them.
-/

namespace Relint

variable {mergers : MergerRegistry} {proposals : List Proposal} {target : String}

section Severities

/-- A way to make one severity of several that does not listen to those that are off,
unless they decide the result. -/
structure Severity.DropsOff (merge : List Severity → Severity) : Prop where
  merge_singleton : ∀ severity, merge [severity] = severity
  merge_silent : ∀ silent, silent ≠ [] → (∀ severity ∈ silent, severity = .off) →
    merge silent = .off
  merge_without : ∀ before silent after, (∀ severity ∈ silent, severity = .off) →
    merge (before ++ silent ++ after) ≠ .off →
      merge (before ++ after) = merge (before ++ silent ++ after)

namespace Severity

variable {before silent after : List Severity}

theorem error_not_mem_silent (h : ∀ severity ∈ silent, severity = .off) : .error ∉ silent := by
  intro hmem
  cases h _ hmem

theorem getLast?_silent (hne : silent ≠ []) (h : ∀ severity ∈ silent, severity = .off) :
    silent.getLast? = some .off := by
  rw [List.getLast?_eq_some_getLast hne, h _ (List.getLast_mem hne)]

theorem escalate_silent (hne : silent ≠ []) (h : ∀ severity ∈ silent, severity = .off) :
    escalate silent = .off := by
  simp [escalate, error_not_mem_silent h, getLast?_silent hne h]

/-- Those that are off are not errors, and the last one only if the result is off. -/
theorem escalate_without (h : ∀ severity ∈ silent, severity = .off)
    (hon : escalate (before ++ silent ++ after) ≠ .off) :
    escalate (before ++ after) = escalate (before ++ silent ++ after) := by
  have herror :
      (before ++ silent ++ after).contains .error = (before ++ after).contains .error := by
    simp [error_not_mem_silent h]
  unfold escalate at hon ⊢
  rw [herror] at hon ⊢
  split
  · rfl
  · rename_i hnone
    rw [if_neg hnone] at hon
    cases after with
    | cons first rest => simp [List.getLast?_cons]
    | nil =>
        by_cases hne : silent = []
        · simp [hne]
        · simp [List.getLast?_append, getLast?_silent hne h] at hon

theorem dropsOff_escalate : DropsOff escalate where
  merge_singleton := by
    intro severity
    cases severity <;> rfl
  merge_silent := fun _ => escalate_silent
  merge_without := fun _ _ _ => escalate_without

theorem dropsOff_offWins : DropsOff Merger.offWins where
  merge_singleton := by
    intro severity
    cases severity <;> rfl
  merge_silent := by
    intro silent hne h
    have hoff : .off ∈ silent := by
      rw [← h _ (List.getLast_mem hne)]
      exact List.getLast_mem hne
    simp [Merger.offWins, hoff]
  merge_without := by
    intro before silent after h hon
    -- One that is off would decide the result, so there is none.
    have hnone : silent = [] := by
      rw [List.eq_nil_iff_forall_not_mem]
      intro severity hmem
      apply hon
      rw [h severity hmem] at hmem
      simp [Merger.offWins, hmem]
    simp [hnone]

end Severity

/-- How the severities for a target become one. -/
def MergerRegistry.severityOf (mergers : MergerRegistry) (target : String) :
    List Severity → Severity :=
  ((mergers.lookup target).map (·.mergeSeverity)).getD Severity.escalate

theorem MergerRegistry.dropsOff_builtin (target : String) :
    Severity.DropsOff (builtin.severityOf target) := by
  unfold severityOf
  cases hlookup : builtin.lookup target with
  | none => exact Severity.dropsOff_escalate
  | some merger =>
      have hmem : (target, merger) ∈ builtin := Assoc.mem_of_lookup hlookup
      simp only [builtin, List.mem_cons, Prod.mk.injEq, List.not_mem_nil, or_false] at hmem
      rcases hmem with ⟨_, rfl⟩ | ⟨_, rfl⟩ | ⟨_, rfl⟩ | ⟨_, rfl⟩ | ⟨_, rfl⟩ | ⟨_, rfl⟩ | ⟨_, rfl⟩ |
        ⟨_, rfl⟩
      case inr.inr.inr.inl => exact Severity.dropsOff_offWins
      all_goals exact Severity.dropsOff_escalate

end Severities

section Groups

/-- Where nobody was refused, everybody was accepted. -/
theorem Acceptance.accepted_foldl {merger : Merger} {rest : List Proposal} {a : Acceptance}
    (h : (rest.foldl (step merger target) a).refused = []) :
    (rest.foldl (step merger target) a).accepted = a.accepted ++ rest := by
  induction rest generalizing a with
  | nil => simp
  | cons p rest ih =>
      rw [List.foldl_cons] at h ⊢
      obtain ⟨new, hnew, _⟩ := exists_refused_foldl merger target rest (step merger target a p)
      have hrefused : (step merger target a p).refused = [] := by
        rw [hnew] at h
        exact (List.append_eq_nil_iff.mp h).1
      have haccepted : (step merger target a p).accepted = a.accepted ++ [p] := by
        unfold step at hrefused ⊢
        split at hrefused
        · rfl
        · simp at hrefused
      rw [ih h, haccepted, List.append_assoc]
      rfl

/-- A group in which nobody is refused has the severity that the merger makes of those of
all its proposals. -/
theorem severity_mergeGroup (hsingle : ∀ severity, mergers.severityOf target [severity] = severity)
    {group : List Proposal} (hne : group ≠ []) (hnone : (mergeGroup mergers target group).2 = []) :
    (mergeGroup mergers target group).1.severity =
      mergers.severityOf target (group.map (·.severity)) := by
  rcases group with _ | ⟨first, _ | ⟨second, rest⟩⟩
  · exact absurd rfl hne
  · exact (hsingle _).symm
  · cases hmerger : mergers.lookup target with
    | none => simp [mergeGroup, MergerRegistry.severityOf, hmerger]
    | some merger =>
        rw [failed_mergeGroup_cons, hmerger] at hnone
        have haccepted : (Acceptance.ofGroup merger target first (second :: rest)).accepted =
            first :: second :: rest :=
          Acceptance.accepted_foldl hnone
        simp [mergeGroup, MergerRegistry.severityOf, hmerger, haccepted]

theorem arguments_mergeGroup_of_lookup_eq_none (hlookup : mergers.lookup target = none)
    {group : List Proposal} (hgroup : ∀ p ∈ group, p.arguments = []) :
    (mergeGroup mergers target group).1.arguments = [] := by
  rcases group with _ | ⟨first, _ | ⟨second, rest⟩⟩
  · simp [mergeGroup]
  · exact hgroup first List.mem_cons_self
  · have hlast : (second :: rest).getLast (List.cons_ne_nil second rest) ∈
        first :: second :: rest :=
      List.mem_cons_of_mem _ (List.getLast_mem _)
    simp [mergeGroup, hlookup, List.getLast?_eq_some_getLast, hgroup _ hlast]

end Groups

end Relint
