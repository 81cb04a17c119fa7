import Relint.Proofs.Merge.Settled
import Relint.Proofs.Merge.Groups

/-!
Mergers that never refuse. If every proposal for a target has arguments of a shape
that the merger of that target accepts in any number, no group refuses anybody, no
round of merging fails, and the merges are settled at once.
-/

namespace Relint

/-- The merger agrees to every list of arguments of this shape. -/
def Merger.Accepts (merger : Merger) (shape : List Value → Prop) : Prop :=
  ∀ proposals : List (List Value), (∀ arguments ∈ proposals, shape arguments) →
    ∃ merged, merger.mergeArguments proposals = .ok merged

namespace Acceptance

variable {merger : Merger} {target : String} {shape : List Value → Prop}

/-- Where nobody was refused and everyone accepted has the shape, one more proposal
of the shape leaves it so. -/
theorem step_of_accepts (target : String) (haccepts : merger.Accepts shape) {a : Acceptance}
    {p : Proposal} (hrefused : a.refused = []) (haccepted : ∀ q ∈ a.accepted, shape q.arguments)
    (hp : shape p.arguments) :
    (step merger target a p).refused = [] ∧
      ∀ q ∈ (step merger target a p).accepted, shape q.arguments := by
  have hshape : ∀ arguments ∈ a.accepted.map (·.arguments) ++ [p.arguments], shape arguments := by
    intro arguments hmem
    rcases List.mem_append.mp hmem with hold | hnew
    · obtain ⟨q, hq, rfl⟩ := List.mem_map.mp hold
      exact haccepted q hq
    · rw [List.mem_singleton.mp hnew]
      exact hp
  obtain ⟨merged, hmerged⟩ := haccepts _ hshape
  simp only [step, hmerged]
  refine ⟨hrefused, ?_⟩
  intro q hq
  rcases List.mem_append.mp hq with hold | hnew
  · exact haccepted q hold
  · rw [List.mem_singleton.mp hnew]
    exact hp

theorem refused_foldl_of_accepts (haccepts : merger.Accepts shape) {rest : List Proposal}
    {a : Acceptance} (hrefused : a.refused = []) (haccepted : ∀ q ∈ a.accepted, shape q.arguments)
    (hrest : ∀ p ∈ rest, shape p.arguments) :
    (rest.foldl (step merger target) a).refused = [] := by
  induction rest generalizing a with
  | nil => exact hrefused
  | cons p rest ih =>
      obtain ⟨hrefused', haccepted'⟩ :=
        step_of_accepts target haccepts hrefused haccepted (hrest p List.mem_cons_self)
      apply ih hrefused' haccepted'
      intro q hq
      exact hrest q (List.mem_cons_of_mem _ hq)

theorem refused_ofGroup_of_accepts (haccepts : merger.Accepts shape) {first : Proposal}
    {rest : List Proposal} (hgroup : ∀ p ∈ first :: rest, shape p.arguments) :
    (ofGroup merger target first rest).refused = [] := by
  apply refused_foldl_of_accepts haccepts rfl
  · intro q hq
    rw [List.mem_singleton.mp hq]
    exact hgroup first List.mem_cons_self
  · intro p hp
    exact hgroup p (List.mem_cons_of_mem _ hp)

end Acceptance

/-- Every merger of the registry accepts what has the shape of its target. -/
def MergerRegistry.AcceptsShapes (mergers : MergerRegistry)
    (shape : String → List Value → Prop) : Prop :=
  ∀ target merger, mergers.lookup target = some merger → merger.Accepts (shape target)

variable {mergers : MergerRegistry} {shape : String → List Value → Prop}
  {proposals : List Proposal}

theorem mergeGroup_of_accepts (haccepts : mergers.AcceptsShapes shape) {target : String}
    {group : List Proposal} (hgroup : ∀ p ∈ group, shape target p.arguments) :
    (mergeGroup mergers target group).2 = [] := by
  unfold mergeGroup
  split
  · rfl
  · rename_i hmerger
    exact Acceptance.refused_ofGroup_of_accepts (haccepts target _ hmerger) hgroup
  · rfl

theorem mergeProposals_of_accepts (haccepts : mergers.AcceptsShapes shape)
    (hproposals : ∀ p ∈ proposals, shape p.target p.arguments) :
    (mergeProposals mergers proposals).failed = [] := by
  simp only [mergeProposals, List.flatMap_eq_nil_iff, List.mem_map]
  rintro _ ⟨⟨target, group⟩, hgroup, rfl⟩
  apply mergeGroup_of_accepts haccepts
  intro p hp
  obtain ⟨hmem, rfl⟩ := (ProposalGroups.mem_group_iff hgroup).mp hp
  exact hproposals p hmem

/-- Nobody fails where every proposal has the shape of its target. -/
theorem failed_settle_of_accepts (haccepts : mergers.AcceptsShapes shape)
    (hproposals : ∀ p ∈ proposals, shape p.target p.arguments) :
    (settle mergers proposals).failed = [] := by
  rw [settle_of_merged (mergeProposals_of_accepts haccepts hproposals)]

end Relint
