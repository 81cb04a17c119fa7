import Relint.Proofs.Merge.Targets

/-!
Earlier proposals have priority. A merger goes through the proposals of a group in
their order and never takes back what it has accepted, so that proposals behind those
of a group neither push one of them out nor let one in. What holds of a group holds of
all groups of a round, of every round and of the failures at the end: seen from the
earlier source rules, a run with more proposals behind theirs is the run without them,
although it may go on for more rounds.
-/

namespace Relint

variable {mergers : MergerRegistry} {proposals later : List Proposal} {earlier : String → Bool}

/-- The failures of some of the source rules. -/
def failuresOf (earlier : String → Bool) (failed : List RuleFailure) : List RuleFailure :=
  failed.filter fun f => earlier f.rule

theorem failuresOf_append (first second : List RuleFailure) :
    failuresOf earlier (first ++ second) =
      failuresOf earlier first ++ failuresOf earlier second :=
  List.filter_append ..

theorem failuresOf_flatMap {α : Type} (items : List α) (f : α → List RuleFailure) :
    failuresOf earlier (items.flatMap f) = items.flatMap fun item => failuresOf earlier (f item) :=
  List.filter_flatMap ..

theorem failuresOf_eq_self {failed : List RuleFailure}
    (h : ∀ f ∈ failed, earlier f.rule = true) : failuresOf earlier failed = failed :=
  List.filter_eq_self.mpr h

theorem failuresOf_eq_nil {failed : List RuleFailure}
    (h : ∀ f ∈ failed, earlier f.rule = false) : failuresOf earlier failed = [] := by
  rw [failuresOf, List.filter_eq_nil_iff]
  intro f hf
  rw [h f hf]
  exact Bool.false_ne_true

/-- Failures of proposals are as early as these. -/
theorem earlier_rule_of_sources {failed : List RuleFailure} {value : Bool}
    (hproposals : ∀ p ∈ proposals, earlier p.source = value)
    (hfailed : ∀ f ∈ failed, ∃ p ∈ proposals, f.rule = p.source) :
    ∀ f ∈ failed, earlier f.rule = value := by
  intro f hf
  obtain ⟨p, hp, hsource⟩ := hfailed f hf
  rw [hsource]
  exact hproposals p hp

section Groups

/-- One more proposal is refused itself or nobody is. -/
theorem Acceptance.exists_refused_step (merger : Merger) (target : String) (a : Acceptance)
    (p : Proposal) :
    ∃ new, (step merger target a p).refused = a.refused ++ new ∧ ∀ f ∈ new, f.rule = p.source := by
  unfold step
  split
  · exact ⟨[], by simp, by simp⟩
  · rename_i reason _
    exact ⟨[.unresolvableMerge p.source target reason], rfl, by simp [RuleFailure.rule]⟩

/-- Refusals stay, and more of them come only from the proposals that are still taken
in. -/
theorem Acceptance.exists_refused_foldl (merger : Merger) (target : String)
    (later : List Proposal) (a : Acceptance) :
    ∃ new, (later.foldl (step merger target) a).refused = a.refused ++ new ∧
      ∀ f ∈ new, ∃ p ∈ later, f.rule = p.source := by
  induction later generalizing a with
  | nil => exact ⟨[], by simp, by simp⟩
  | cons p rest ih =>
      obtain ⟨first, hfirst, hp⟩ := exists_refused_step merger target a p
      obtain ⟨others, hothers, hrest⟩ := ih (step merger target a p)
      refine ⟨first ++ others, by rw [List.foldl_cons, hothers, hfirst, List.append_assoc], ?_⟩
      intro f hf
      rcases List.mem_append.mp hf with hf | hf
      · exact ⟨p, List.mem_cons_self, hp f hf⟩
      · obtain ⟨q, hq, hsource⟩ := hrest f hf
        exact ⟨q, List.mem_cons_of_mem _ hq, hsource⟩

/-- Who is refused in a group is decided by the merger of the target alone. -/
theorem failed_mergeGroup_cons (target : String) (first : Proposal) (rest : List Proposal) :
    (mergeGroup mergers target (first :: rest)).2 =
      match mergers.lookup target with
      | some merger => (Acceptance.ofGroup merger target first rest).refused
      | none => [] := by
  cases rest <;> cases hmerger : mergers.lookup target <;>
    simp [mergeGroup, hmerger, Acceptance.ofGroup]

/-- In a group, proposals behind the earlier ones do not change who of them is refused
and why. -/
theorem failuresOf_mergeGroup_append (target : String)
    (hearlier : ∀ p ∈ proposals, earlier p.source = true)
    (hlater : ∀ p ∈ later, earlier p.source = false) :
    failuresOf earlier (mergeGroup mergers target (proposals ++ later)).2 =
      (mergeGroup mergers target proposals).2 := by
  cases proposals with
  | nil =>
      apply failuresOf_eq_nil
      exact earlier_rule_of_sources hlater fun _ hf => mergeGroup_failed hf
  | cons first rest =>
      have hown : failuresOf earlier (mergeGroup mergers target (first :: rest)).2 =
          (mergeGroup mergers target (first :: rest)).2 := by
        apply failuresOf_eq_self
        exact earlier_rule_of_sources hearlier fun _ hf => mergeGroup_failed hf
      rw [← hown, List.cons_append, failed_mergeGroup_cons, failed_mergeGroup_cons]
      cases mergers.lookup target with
      | none => rfl
      | some merger =>
          -- The longer fold goes on from where the shorter one ended.
          obtain ⟨new, hnew, hsources⟩ := Acceptance.exists_refused_foldl merger target later
            (Acceptance.ofGroup merger target first rest)
          have hrefused : (Acceptance.ofGroup merger target first (rest ++ later)).refused =
              (Acceptance.ofGroup merger target first rest).refused ++ new := by
            rw [← hnew, Acceptance.ofGroup, List.foldl_append]
            rfl
          have hothers : failuresOf earlier new = [] := by
            apply failuresOf_eq_nil
            exact earlier_rule_of_sources hlater hsources
          simp only [hrefused, failuresOf_append, hothers, List.append_nil]

end Groups

section Rounds

/-- In a round, proposals behind the earlier ones do not change which failures there are
among them, nor their order. -/
theorem failuresOf_mergeProposals_append (mergers : MergerRegistry)
    (hearlier : ∀ p ∈ proposals, earlier p.source = true)
    (hlater : ∀ p ∈ later, earlier p.source = false) :
    failuresOf earlier (mergeProposals mergers (proposals ++ later)).failed =
      (mergeProposals mergers proposals).failed := by
  have hgroup : ∀ target, failuresOf earlier (mergeGroup mergers target
      ((proposals ++ later).filter (·.target = target))).2 =
        (mergeGroup mergers target (proposals.filter (·.target = target))).2 := by
    intro target
    rw [List.filter_append]
    apply failuresOf_mergeGroup_append
    · exact fun p hp => hearlier p (List.mem_of_mem_filter hp)
    · exact fun p hp => hlater p (List.mem_of_mem_filter hp)
  -- Targets that only come up later have groups without any earlier proposal.
  obtain ⟨new, hnew, hfresh⟩ := exists_foldl_appendNew
    (distinct (proposals.map (·.target))) (later.map (·.target))
  have hnone : (new.flatMap fun target =>
      (mergeGroup mergers target (proposals.filter (·.target = target))).2) = [] := by
    rw [List.flatMap_eq_nil_iff]
    intro target htarget
    have hempty : proposals.filter (fun p => decide (p.target = target)) = [] := by
      rw [List.filter_eq_nil_iff]
      intro p hp heq
      apply hfresh target htarget
      rw [mem_distinct]
      exact List.mem_map.mpr ⟨p, hp, of_decide_eq_true heq⟩
    rw [hempty]
    rfl
  rw [failed_mergeProposals, failed_mergeProposals, failuresOf_flatMap, List.map_append,
    distinct_append, hnew]
  simp only [hgroup, List.flatMap_append, hnone, List.append_nil]

theorem hasFailed_failuresOf {failed : List RuleFailure} {source : String}
    (h : earlier source = true) : hasFailed (failuresOf earlier failed) source =
      hasFailed failed source := by
  rw [hasFailed, failuresOf, List.any_filter, hasFailed]
  congr 1
  funext f
  by_cases hrule : f.rule = source
  · simp [hrule, h]
  · simp [hrule]

theorem failuresOf_addFailure (failed : List RuleFailure) (f : RuleFailure) :
    failuresOf earlier (addFailure failed f) =
      if earlier f.rule then addFailure (failuresOf earlier failed) f
      else failuresOf earlier failed := by
  by_cases hrule : earlier f.rule = true
  · rw [if_pos hrule, addFailure, addFailure, hasFailed_failuresOf hrule]
    split
    · rfl
    · simp [failuresOf, hrule]
  · rw [if_neg hrule, addFailure]
    split
    · rfl
    · simp [failuresOf, hrule]

/-- Taking in failures and leaving out those of the later rules can be done in either
order. -/
theorem failuresOf_addFailures (failed new : List RuleFailure) :
    failuresOf earlier (addFailures failed new) =
      addFailures (failuresOf earlier failed) (failuresOf earlier new) := by
  induction new generalizing failed with
  | nil => rfl
  | cons f rest ih =>
      have hstep : addFailures failed (f :: rest) = addFailures (addFailure failed f) rest := rfl
      rw [hstep, ih, failuresOf_addFailure]
      cases hrule : earlier f.rule <;> simp [failuresOf, addFailures, hrule]

theorem withdraw_append (failed : List RuleFailure) (proposals later : List Proposal) :
    withdraw failed (proposals ++ later) = withdraw failed proposals ++ withdraw failed later :=
  List.filter_append ..

/-- Whether an earlier proposal is withdrawn depends on the earlier failures only. -/
theorem withdraw_failuresOf (failed : List RuleFailure)
    (hearlier : ∀ p ∈ proposals, earlier p.source = true) :
    withdraw (failuresOf earlier failed) proposals = withdraw failed proposals := by
  apply List.filter_congr
  intro p hp
  rw [hasFailed_failuresOf (hearlier p hp)]

/-- At the end the earlier source rules have failed as they would have without the
others. The longer run goes round by round with the shorter one, and where only later
rules fail in a round the shorter one stands still. -/
theorem failuresOf_settleFrom_append (failed : List RuleFailure)
    (hearlier : ∀ p ∈ proposals, earlier p.source = true)
    (hlater : ∀ p ∈ later, earlier p.source = false) :
    failuresOf earlier (settleFrom mergers (proposals ++ later) failed).failed =
      (settleFrom mergers proposals (failuresOf earlier failed)).failed := by
  have hround : ∀ failed, failuresOf earlier
      (mergeProposals mergers (withdraw failed (proposals ++ later))).failed =
        (mergeProposals mergers (withdraw (failuresOf earlier failed) proposals)).failed := by
    intro failed
    rw [withdraw_failuresOf failed hearlier, withdraw_append]
    apply failuresOf_mergeProposals_append
    · exact fun p hp => hearlier p (List.mem_of_mem_filter hp)
    · exact fun p hp => hlater p (List.mem_of_mem_filter hp)
  generalize proposals ++ later = all at hround ⊢
  fun_induction settleFrom mergers all failed with
  | case1 failed round hdone =>
      have hquiet := hround failed
      rw [hdone] at hquiet
      rw [settleFrom_of_merged hquiet.symm]
  | case2 failed round hfailed ih =>
      -- Whether or not an earlier rule is among the failures of this round, the shorter run
      -- may go on with those of them that are its own.
      rw [ih, failuresOf_addFailures, hround failed, settleFrom_addFailures]

/-- More proposals behind those of the earlier source rules change nothing about who of
these fails, why, and in which order. -/
theorem failuresOf_settle_append (mergers : MergerRegistry)
    (hearlier : ∀ p ∈ proposals, earlier p.source = true)
    (hlater : ∀ p ∈ later, earlier p.source = false) :
    failuresOf earlier (settle mergers (proposals ++ later)).failed =
      (settle mergers proposals).failed :=
  failuresOf_settleFrom_append [] hearlier hlater

end Rounds

end Relint
