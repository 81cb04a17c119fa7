import Relint.Proofs.Merge.Earlier

/-!
What merging comes to, said for each target rule on its own. The proposals for a target
are its group. What a merger accepts of a group is found by going through it once, and
the settings, the notices and the refusals are then read off the accepted proposals,
without the results that the merges on the way had.
-/

namespace Relint

variable {mergers : MergerRegistry} {merger : Merger} {target : String}
  {group before : List Proposal}

namespace Merger

/-- The merger agrees to the arguments of these proposals. -/
def reconciles (merger : Merger) (proposals : List Proposal) : Bool :=
  (merger.mergeArguments (proposals.map (·.arguments))).isOk

/-- What the merger accepts of a group: the first proposal, and then every one that it can
reconcile with all those it has accepted before. -/
def accepted (merger : Merger) : List Proposal → List Proposal
  | [] => []
  | first :: rest =>
      rest.foldl (fun done p => if merger.reconciles (done ++ [p]) then done ++ [p] else done)
        [first]

/-- Why a proposal is refused that comes behind others, if it is. Nobody refuses the first
proposal of a group. -/
def refusal? (merger : Merger) (target : String) (before : List Proposal) (p : Proposal) :
    Option RuleFailure :=
  if before.isEmpty then none
  else
    match merger.mergeArguments ((merger.accepted before ++ [p]).map (·.arguments)) with
    | .ok _ => none
    | .error reason => some (.unresolvableMerge p.source target reason)

/-- The refusals in a group, in the order of its proposals. -/
def refusals (merger : Merger) (target : String) (group : List Proposal) : List RuleFailure :=
  group.zipIdx.filterMap fun (p, position) => merger.refusal? target (group.take position) p

/-- The last proposal of a group is accepted or not, and nothing changes for the others. -/
theorem accepted_concat (merger : Merger) (hbefore : before ≠ []) (p : Proposal) :
    merger.accepted (before ++ [p]) =
      if merger.reconciles (merger.accepted before ++ [p]) then merger.accepted before ++ [p]
      else merger.accepted before := by
  cases before with
  | nil => exact absurd rfl hbefore
  | cons first rest =>
      rw [List.cons_append, accepted, List.foldl_append]
      rfl

theorem refusals_concat (merger : Merger) (target : String) (before : List Proposal)
    (p : Proposal) :
    merger.refusals target (before ++ [p]) =
      merger.refusals target before ++ (merger.refusal? target before p).toList := by
  rw [refusals, List.zipIdx_append, List.filterMap_append]
  congr 1
  · -- What comes before a proposal is the same in the shorter group.
    apply List.filterMap_congr
    rintro ⟨q, position⟩ hq
    have hposition : position ≤ before.length := by
      have hlt := (List.mem_zipIdx hq).2.1
      omega
    simp only [List.take_append_of_le_length hposition]
  · simp [List.filterMap_cons]
    cases merger.refusal? target before p <;> rfl

end Merger

/-- What is known of a group after a merger has gone through it: who was accepted, who was
refused, and that the arguments are those that come of all accepted proposals at once. -/
structure Acceptance.Sums (merger : Merger) (target : String) (group : List Proposal)
    (a : Acceptance) : Prop where
  accepted_eq : a.accepted = merger.accepted group
  refused_eq : a.refused = merger.refusals target group
  arguments_eq : (∃ p, a.accepted = [p] ∧ a.arguments = p.arguments) ∨
    1 < a.accepted.length ∧
      merger.mergeArguments (a.accepted.map (·.arguments)) = .ok a.arguments

namespace Acceptance

theorem sums_singleton (merger : Merger) (target : String) (p : Proposal) :
    Sums merger target [p] ⟨[p], p.arguments, []⟩ where
  accepted_eq := rfl
  refused_eq := rfl
  arguments_eq := Or.inl ⟨p, rfl, rfl⟩

/-- Taking in one more proposal sums up the group with that proposal at its end. -/
theorem Sums.step {a : Acceptance} (h : Sums merger target before a) (hbefore : before ≠ [])
    (p : Proposal) : Sums merger target (before ++ [p]) (step merger target a p) := by
  have hsome : before.isEmpty = false := by simpa using hbefore
  have hproposed : (merger.accepted before ++ [p]).map (·.arguments) =
      a.accepted.map (·.arguments) ++ [p.arguments] := by
    rw [← h.accepted_eq, List.map_append]
    rfl
  cases hmerge : merger.mergeArguments (a.accepted.map (·.arguments) ++ [p.arguments]) with
  | ok merged =>
      have haccepted : merger.accepted (before ++ [p]) = a.accepted ++ [p] := by
        rw [Merger.accepted_concat merger hbefore, Merger.reconciles, hproposed, hmerge,
          h.accepted_eq]
        rfl
      have hrefusal : merger.refusal? target before p = none := by
        simp [Merger.refusal?, hsome, hproposed, hmerge]
      have hlength : 0 < a.accepted.length := by
        rcases h.arguments_eq with ⟨first, hfirst, _⟩ | ⟨hseveral, _⟩
        · simp [hfirst]
        · omega
      simp only [Acceptance.step, hmerge]
      refine ⟨haccepted.symm, ?_, Or.inr ⟨?_, ?_⟩⟩
      · simp [Merger.refusals_concat, hrefusal, h.refused_eq]
      · simpa using hlength
      · simpa using hmerge
  | error reason =>
      have haccepted : merger.accepted (before ++ [p]) = a.accepted := by
        rw [Merger.accepted_concat merger hbefore, Merger.reconciles, hproposed, hmerge,
          h.accepted_eq]
        rfl
      have hrefusal : merger.refusal? target before p =
          some (.unresolvableMerge p.source target reason) := by
        simp [Merger.refusal?, hsome, hproposed, hmerge]
      simp only [Acceptance.step, hmerge]
      refine ⟨haccepted.symm, ?_, h.arguments_eq⟩
      simp [Merger.refusals_concat, hrefusal, h.refused_eq]

/-- A merger that has gone through a group has summed it up. -/
theorem sums_ofGroup (merger : Merger) (target : String) (first : Proposal)
    (rest : List Proposal) :
    Sums merger target (first :: rest) (ofGroup merger target first rest) := by
  induction rest using List.reverseRecOn with
  | nil => exact sums_singleton merger target first
  | append_singleton earlier p ih =>
      have hstep : ofGroup merger target first (earlier ++ [p]) =
          Acceptance.step merger target (ofGroup merger target first earlier) p := by
        rw [ofGroup, List.foldl_append]
        rfl
      rw [hstep, ← List.cons_append]
      exact ih.step (List.cons_ne_nil first earlier) p

end Acceptance

/-- The settings that the group of a target rule comes to: those of a proposal that is
alone; without a merger, the last arguments with the common severity and all notices; and
with a merger, what it makes of the proposals that it accepts, which are the first one's own
arguments if no other is accepted. -/
inductive GroupOutcome (mergers : MergerRegistry) (target : String) :
    List Proposal → RuleSettings → Prop where
  | alone (p : Proposal) :
      GroupOutcome mergers target [p] ⟨p.severity, p.arguments, p.notices⟩
  | lastWins {group : List Proposal} {last : Proposal} (several : 1 < group.length)
      (unmerged : mergers.lookup target = none) (last_eq : group.getLast? = some last) :
      GroupOutcome mergers target group
        ⟨Severity.escalate (group.map (·.severity)), last.arguments,
          (group.flatMap (·.notices)).eraseDups⟩
  | firstOnly {group : List Proposal} {merger : Merger} {first : Proposal}
      (several : 1 < group.length) (merged : mergers.lookup target = some merger)
      (accepted_eq : merger.accepted group = [first]) :
      GroupOutcome mergers target group
        ⟨merger.mergeSeverity [first.severity], first.arguments, first.notices.eraseDups⟩
  | reconciled {group : List Proposal} {merger : Merger} {arguments : List Value}
      (several : 1 < group.length) (merged : mergers.lookup target = some merger)
      (others_accepted : 1 < (merger.accepted group).length)
      (arguments_eq : merger.mergeArguments ((merger.accepted group).map (·.arguments)) =
        .ok arguments) :
      GroupOutcome mergers target group
        ⟨merger.mergeSeverity ((merger.accepted group).map (·.severity)), arguments,
          ((merger.accepted group).flatMap (·.notices)).eraseDups⟩

theorem GroupOutcome.ne_nil {settings : RuleSettings}
    (h : GroupOutcome mergers target group settings) : group ≠ [] := by
  rintro rfl
  cases h with
  | lastWins several => exact absurd several (Nat.not_lt_zero 1)
  | firstOnly several => exact absurd several (Nat.not_lt_zero 1)
  | reconciled several => exact absurd several (Nat.not_lt_zero 1)

/-- A group comes to one outcome at most. -/
theorem GroupOutcome.unique {settings settings' : RuleSettings}
    (h : GroupOutcome mergers target group settings)
    (h' : GroupOutcome mergers target group settings') : settings = settings' := by
  cases h with
  | alone p =>
      cases h' with
      | alone => rfl
      | lastWins several => simp at several
      | firstOnly several => simp at several
      | reconciled several => simp at several
  | lastWins several unmerged last_eq =>
      cases h' with
      | alone => simp at several
      | lastWins _ _ last_eq' =>
          cases last_eq.symm.trans last_eq'
          rfl
      | firstOnly _ merged => cases unmerged.symm.trans merged
      | reconciled _ merged => cases unmerged.symm.trans merged
  | firstOnly several merged accepted_eq =>
      cases h' with
      | alone => simp at several
      | lastWins _ unmerged => cases unmerged.symm.trans merged
      | firstOnly _ merged' accepted_eq' =>
          cases merged.symm.trans merged'
          cases accepted_eq.symm.trans accepted_eq'
          rfl
      | reconciled _ merged' others_accepted =>
          cases merged.symm.trans merged'
          simp [accepted_eq] at others_accepted
  | reconciled several merged others_accepted arguments_eq =>
      cases h' with
      | alone => simp at several
      | lastWins _ unmerged => cases unmerged.symm.trans merged
      | firstOnly _ merged' accepted_eq =>
          cases merged.symm.trans merged'
          simp [accepted_eq] at others_accepted
      | reconciled _ merged' _ arguments_eq' =>
          cases merged.symm.trans merged'
          cases arguments_eq.symm.trans arguments_eq'
          rfl

/-- The settings of a group are its outcome. -/
theorem mergeGroup_outcome (mergers : MergerRegistry) (target : String) (hne : group ≠ []) :
    GroupOutcome mergers target group (mergeGroup mergers target group).1 := by
  rcases group with _ | ⟨first, _ | ⟨second, rest⟩⟩
  · exact absurd rfl hne
  · exact .alone first
  · have several : 1 < (first :: second :: rest).length := by simp
    cases hmerger : mergers.lookup target with
    | none =>
        have hlast := List.getLast?_eq_some_getLast (List.cons_ne_nil first (second :: rest))
        simp only [mergeGroup, hmerger, noticesOf, distinct_eq_eraseDups, hlast]
        exact .lastWins several hmerger hlast
    | some merger =>
        have hsums := Acceptance.sums_ofGroup merger target first (second :: rest)
        simp only [mergeGroup, hmerger, noticesOf, distinct_eq_eraseDups]
        rcases hsums.arguments_eq with ⟨p, honly, harguments⟩ | ⟨hseveral, harguments⟩
        · have haccepted : merger.accepted (first :: second :: rest) = [p] := by
            rw [← hsums.accepted_eq, honly]
          rw [honly, harguments]
          simpa using GroupOutcome.firstOnly several hmerger haccepted
        · rw [hsums.accepted_eq] at hseveral harguments ⊢
          exact .reconciled several hmerger hseveral harguments

theorem mergeGroup_refusals (mergers : MergerRegistry) (target : String) (group : List Proposal) :
    (mergeGroup mergers target group).2 =
      match mergers.lookup target with
      | some merger => merger.refusals target group
      | none => [] := by
  cases group with
  | nil => cases mergers.lookup target <;> simp [mergeGroup, Merger.refusals]
  | cons first rest =>
      rw [failed_mergeGroup_cons]
      cases mergers.lookup target with
      | none => rfl
      | some merger => exact (Acceptance.sums_ofGroup merger target first rest).refused_eq

/-- Merging is done target by target. The targets stand in the order in which they first
come up, the settings of each are the outcome of the proposals for it and for no other, and
the failures are what the merger of each target refuses in its group, target after target
and in the order of the proposals. -/
theorem mergeProposals_by_target (mergers : MergerRegistry) (proposals : List Proposal) :
    let merged := mergeProposals mergers proposals
    let targets := (proposals.map (·.target)).eraseDups
    let group := fun target => proposals.filter (·.target = target)
    merged.rules.keys = targets ∧
      (∀ target settings, merged.rules.get? target = some settings ↔
        GroupOutcome mergers target (group target) settings) ∧
      merged.failed = targets.flatMap fun target =>
        match mergers.lookup target with
        | some merger => merger.refusals target (group target)
        | none => [] := by
  intro merged targets group
  have htargets : targets = distinct (proposals.map (·.target)) :=
    (distinct_eq_eraseDups _).symm
  refine ⟨?_, ?_, ?_⟩
  · rw [htargets]
    exact keys_mergeProposals mergers proposals
  · intro target settings
    have hget : merged.rules.get? target =
        if group target = [] then none else some (mergeGroup mergers target (group target)).1 :=
      get?_mergeProposals mergers proposals target
    rw [hget]
    by_cases hnone : group target = []
    · rw [if_pos hnone]
      exact iff_of_false (Option.some_ne_none settings).symm fun h => h.ne_nil hnone
    · rw [if_neg hnone, Option.some.injEq]
      have houtcome := mergeGroup_outcome mergers target hnone
      constructor
      · rintro rfl
        exact houtcome
      · intro h
        exact houtcome.unique h
  · have hfailed := failed_mergeProposals mergers proposals
    simp only [mergeGroup_refusals, ← htargets] at hfailed
    exact hfailed

/-- A proposal in the middle that is refused stands in nobody's way. -/
example :
    let merger : Merger := .ofArguments fun lists =>
      if lists.all (· == lists.headD []) then .ok (lists.headD [])
      else .error "Conflicting quote styles."
    let quotes := fun source style => Proposal.mk source "quotes" [.string style] .error []
    let group := [quotes "quotemark" "single", quotes "jsx-quotemark" "double",
      quotes "quote-style" "single"]
    merger.accepted group = [quotes "quotemark" "single", quotes "quote-style" "single"] ∧
      merger.refusals "quotes" group =
        [.unresolvableMerge "jsx-quotemark" "quotes" "Conflicting quote styles."] := by
  decide +kernel

end Relint
