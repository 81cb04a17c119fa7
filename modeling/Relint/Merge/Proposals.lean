import Relint.Converter.Basic
import Relint.Distinct
import Relint.Merge.Merger
import Relint.Rule.Map

/-!
Proposals for target rules and how those for one rule become one. Proposals are
grouped by target in the order in which targets first come up; a merger goes
through its group and drops what it cannot reconcile with what it has accepted.
-/

namespace Relint

/-- A target rule that a source rule proposes, with everything settled. -/
structure Proposal where
  source : String
  target : String
  arguments : List Value
  severity : Severity
  notices : List String
  deriving DecidableEq, Inhabited

/-- The outcome of merging: settings for each target, and what was dropped. -/
structure Merged where
  rules : RuleMap
  failed : List RuleFailure

/-- Proposals under the target that they share. -/
abbrev ProposalGroups := List (String × List Proposal)

namespace ProposalGroups

/-- Adds a proposal to the group of its target, which it opens if need be. -/
def add (p : Proposal) : ProposalGroups → ProposalGroups
  | [] => [(p.target, [p])]
  | (target, group) :: rest =>
      if target = p.target then (target, group ++ [p]) :: rest
      else (target, group) :: add p rest

/-- The groups of proposals, in the order in which targets first come up. -/
def ofList (proposals : List Proposal) : ProposalGroups :=
  proposals.foldl (fun groups p => add p groups) []

theorem mem_add {p q : Proposal} {groups : ProposalGroups} {target : String}
    {group : List Proposal} (h : (target, group) ∈ add p groups) (hq : q ∈ group) :
    q = p ∨ ∃ entry ∈ groups, q ∈ entry.2 := by
  induction groups with
  | nil =>
      simp only [add, List.mem_singleton, Prod.mk.injEq] at h
      simp_all
  | cons head rest ih =>
      obtain ⟨name, old⟩ := head
      rw [add] at h
      split at h
      · rcases List.mem_cons.mp h with h | h
        · simp only [Prod.mk.injEq] at h
          rw [h.2, List.mem_append, List.mem_singleton] at hq
          rcases hq with hq | hq
          · exact .inr ⟨_, List.mem_cons_self, hq⟩
          · exact .inl hq
        · exact .inr ⟨_, List.mem_cons_of_mem _ h, hq⟩
      · rcases List.mem_cons.mp h with h | h
        · simp only [Prod.mk.injEq] at h
          exact .inr ⟨_, List.mem_cons_self, h.2 ▸ hq⟩
        · rcases ih h with h | ⟨entry, he, hq⟩
          · exact .inl h
          · exact .inr ⟨entry, List.mem_cons_of_mem _ he, hq⟩

/-- A grouped proposal is one of those that were grouped. -/
theorem mem_of_mem_ofList {proposals : List Proposal} {target : String} {group : List Proposal}
    {q : Proposal} (h : (target, group) ∈ ofList proposals) (hq : q ∈ group) :
    q ∈ proposals := by
  have general : ∀ (proposals : List Proposal) (groups : ProposalGroups),
      (target, group) ∈ proposals.foldl (fun groups p => add p groups) groups →
      q ∈ proposals ∨ ∃ entry ∈ groups, q ∈ entry.2 := by
    intro proposals
    induction proposals with
    | nil => exact fun groups h => .inr ⟨_, h, hq⟩
    | cons p rest ih =>
        intro groups h
        rcases ih (add p groups) h with h | ⟨⟨name, old⟩, he, hq⟩
        · exact .inl (List.mem_cons_of_mem _ h)
        · rcases mem_add he hq with h | h
          · exact .inl (h ▸ List.mem_cons_self)
          · exact .inr h
  rcases general proposals [] h with h | ⟨entry, he, _⟩
  · exact h
  · exact absurd he List.not_mem_nil

end ProposalGroups

/-- The notices of proposals, each once. -/
def noticesOf (proposals : List Proposal) : List String :=
  distinct (proposals.flatMap (·.notices))

/-- What a merger has accepted so far, the arguments that come of it, and what it
has refused. -/
structure Acceptance where
  accepted : List Proposal
  arguments : List Value
  refused : List RuleFailure

namespace Acceptance

/-- Takes in one more proposal: it is accepted exactly when the merger agrees to
the arguments of all accepted ones with its own behind them. -/
def step (merger : Merger) (target : String) (a : Acceptance) (p : Proposal) : Acceptance :=
  match merger.mergeArguments (a.accepted.map (·.arguments) ++ [p.arguments]) with
  | .ok merged => ⟨a.accepted ++ [p], merged, a.refused⟩
  | .error reason =>
      ⟨a.accepted, a.arguments, a.refused ++ [.unresolvableMerge p.source target reason]⟩

def ofGroup (merger : Merger) (target : String) (first : Proposal) (rest : List Proposal) :
    Acceptance :=
  rest.foldl (step merger target) ⟨[first], first.arguments, []⟩

theorem refused_step {merger : Merger} {target : String} {a : Acceptance} {p : Proposal}
    {f : RuleFailure} (h : f ∈ (step merger target a p).refused) :
    f ∈ a.refused ∨ f.rule = p.source := by
  unfold step at h
  split at h
  · exact .inl h
  · rcases List.mem_append.mp h with h | h
    · exact .inl h
    · rw [List.mem_singleton.mp h]
      exact .inr rfl

/-- Whoever is refused made a proposal of the group. -/
theorem refused_ofGroup {merger : Merger} {target : String} {first : Proposal}
    {rest : List Proposal} {f : RuleFailure} (h : f ∈ (ofGroup merger target first rest).refused) :
    ∃ p ∈ rest, f.rule = p.source := by
  have general : ∀ (rest : List Proposal) (a : Acceptance),
      f ∈ (rest.foldl (step merger target) a).refused →
      f ∈ a.refused ∨ ∃ p ∈ rest, f.rule = p.source := by
    intro rest
    induction rest with
    | nil => exact fun a h => .inl h
    | cons p rest ih =>
        intro a h
        rcases ih (step merger target a p) h with h | ⟨q, hq, h⟩
        · rcases refused_step h with h | h
          · exact .inl h
          · exact .inr ⟨p, List.mem_cons_self, h⟩
        · exact .inr ⟨q, List.mem_cons_of_mem _ hq, h⟩
  rcases general rest _ h with h | h
  · exact absurd h List.not_mem_nil
  · exact h

end Acceptance

/-- The settings for the proposals of one target, and what was refused. One
proposal is taken as it is. Without a merger the last arguments count. -/
def mergeGroup (mergers : MergerRegistry) (target : String) (group : List Proposal) :
    RuleSettings × List RuleFailure :=
  match group, mergers.lookup target with
  | [p], _ => (⟨p.severity, p.arguments, p.notices⟩, [])
  | first :: rest, some merger =>
      let a := Acceptance.ofGroup merger target first rest
      (⟨merger.mergeSeverity (a.accepted.map (·.severity)), a.arguments, noticesOf a.accepted⟩,
        a.refused)
  | _, _ =>
      (⟨Severity.escalate (group.map (·.severity)), (group.getLast?.map (·.arguments)).getD [],
        noticesOf group⟩, [])

theorem mergeGroup_failed {mergers : MergerRegistry} {target : String} {group : List Proposal}
    {f : RuleFailure} (h : f ∈ (mergeGroup mergers target group).2) :
    ∃ p ∈ group, f.rule = p.source := by
  unfold mergeGroup at h
  split at h
  · exact absurd h List.not_mem_nil
  · obtain ⟨p, hp, hf⟩ := Acceptance.refused_ofGroup h
    exact ⟨p, List.mem_cons_of_mem _ hp, hf⟩
  · exact absurd h List.not_mem_nil

def mergeProposals (mergers : MergerRegistry) (proposals : List Proposal) : Merged :=
  let merged := (ProposalGroups.ofList proposals).map fun (target, group) =>
    (target, mergeGroup mergers target group)
  ⟨.ofList (merged.map fun (target, settings, _) => (target, settings)),
    merged.flatMap fun (_, _, failed) => failed⟩

/-- Whoever fails made one of the proposals. -/
theorem mergeProposals_failed {mergers : MergerRegistry} {proposals : List Proposal}
    {f : RuleFailure} (h : f ∈ (mergeProposals mergers proposals).failed) :
    ∃ p ∈ proposals, f.rule = p.source := by
  simp only [mergeProposals, List.mem_flatMap, List.mem_map] at h
  obtain ⟨_, ⟨⟨target, group⟩, hg, rfl⟩, h⟩ := h
  obtain ⟨p, hp, hf⟩ := mergeGroup_failed h
  exact ⟨p, ProposalGroups.mem_of_mem_ofList hg hp, hf⟩

end Relint
