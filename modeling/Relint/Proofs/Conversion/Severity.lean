import Relint.Proofs.Conversion.Disabled

/-!
How severe the target rules are in comparison with the source rules that they come from.
Converters can only switch off, and each way to merge picks one of the severities it is
given. So no target rule is more severe than all of its source rules, and apart from the
one target rule that a source rule may switch off, an error among them stays an error.
-/

namespace Relint

variable {settings : ConversionSettings} {rules : List SourceRule} {existing : Fields}
  {rule : SourceRule} {target : String} {emitted : RuleSettings}

/-- The only target rule that a source rule may switch off while it is on itself. -/
def silencedTarget : String :=
  "@typescript-eslint/no-empty-function"

section Merging

variable {severities : List Severity}

theorem Severity.escalate_mem (h : severities ≠ []) : escalate severities ∈ severities := by
  unfold escalate
  split
  · rename_i herror
    exact List.contains_iff_mem.mp herror
  · rw [List.getLast?_eq_some_getLast h]
    exact List.getLast_mem h

theorem Severity.escalate_eq_error (h : .error ∈ severities) : escalate severities = .error :=
  if_pos (List.contains_iff_mem.mpr h)

theorem offWins_mem (h : severities ≠ []) : Merger.offWins severities ∈ severities := by
  unfold Merger.offWins
  split
  · rename_i hoff
    exact List.contains_iff_mem.mp hoff
  · exact Severity.escalate_mem h

/-- All mergers but one leave it at the common policy. -/
theorem mergeSeverity_builtin {merger : Merger}
    (h : MergerRegistry.builtin.lookup target = some merger) :
    merger.mergeSeverity = Severity.escalate ∨
      target = silencedTarget ∧ merger.mergeSeverity = Merger.offWins := by
  have hmem : (target, merger) ∈ MergerRegistry.builtin := Assoc.mem_of_lookup h
  simp only [MergerRegistry.builtin, List.mem_cons, Prod.mk.injEq, List.not_mem_nil,
    or_false] at hmem
  rcases hmem with ⟨_, rfl⟩ | ⟨_, rfl⟩ | ⟨_, rfl⟩ | ⟨rfl, rfl⟩ | ⟨_, rfl⟩ | ⟨_, rfl⟩ | ⟨_, rfl⟩ |
    ⟨_, rfl⟩
  case inr.inr.inr.inl => exact Or.inr ⟨rfl, rfl⟩
  all_goals exact Or.inl rfl

theorem severityOf_builtin (target : String) :
    MergerRegistry.builtin.severityOf target = Severity.escalate ∨
      target = silencedTarget ∧
        MergerRegistry.builtin.severityOf target = Merger.offWins := by
  unfold MergerRegistry.severityOf
  cases hlookup : MergerRegistry.builtin.lookup target with
  | none => exact Or.inl rfl
  | some merger => exact mergeSeverity_builtin hlookup

/-- The merged severity is one of those that were proposed. -/
theorem severityOf_builtin_mem (target : String) (h : severities ≠ []) :
    MergerRegistry.builtin.severityOf target severities ∈ severities := by
  rcases severityOf_builtin target with hpolicy | ⟨_, hpolicy⟩
  · rw [hpolicy]
    exact Severity.escalate_mem h
  · rw [hpolicy]
    exact offWins_mem h

theorem severityOf_builtin_eq_error (hother : target ≠ silencedTarget)
    (h : .error ∈ severities) :
    MergerRegistry.builtin.severityOf target severities = .error := by
  rcases severityOf_builtin target with hpolicy | ⟨htarget, _⟩
  · rw [hpolicy]
    exact Severity.escalate_eq_error h
  · exact absurd htarget hother

end Merging

section Proposing

theorem silenced_targets : ∀ row ∈ builtinProfiles, ∀ target ∈ row.2.silenced,
    target = silencedTarget := by
  decide +kernel

/-- A target rule that a source rule is converted to is exactly as severe, unless it is the
one that may be switched off. -/
theorem severity_of_converted {c : Contribution}
    (h : convertRule .builtin settings rule = .converted c) {t : TargetRule} (ht : t ∈ c.rules) :
    t.severity = some rule.severity ∨ t.name = silencedTarget := by
  obtain ⟨convert, answer, hlookup, hanswer, rfl⟩ := convertRule_eq_converted_iff.mp h
  obtain ⟨profile, hrow, hdescribes⟩ := profile_of_builtin hlookup
  obtain ⟨t, hanswered, rfl⟩ := List.mem_map.mp ht
  rcases ((hdescribes _ answer hanswer).admits t hanswered).severity_open with
    hopen | ⟨hsilenced, _⟩
  · exact Or.inl (by simp [TargetRule.resolve, hopen])
  · exact Or.inr (silenced_targets _ hrow _ hsilenced)

/-- A source rule proposes every target rule that it is converted to. -/
theorem exists_mem_groupOf {c : Contribution} (hrule : rule ∈ rules)
    (hconverted : convertRule .builtin settings rule = .converted c)
    (htarget : target ∈ c.rules.map (·.name)) :
    ∃ p ∈ groupOf settings rules target,
      p.severity = rule.severity ∨ target = silencedTarget := by
  obtain ⟨t, ht, rfl⟩ := List.mem_map.mp htarget
  have hmem := mem_conversionsOf ⟨.builtin, .builtin⟩ settings hrule
  have hproposed := (ConvertedRule.mem_proposals_iff (r := (rule, _))).mpr
    ⟨c, hconverted, t, ht, rfl⟩
  have hall := List.mem_flatMap.mpr ⟨_, hmem, hproposed⟩
  refine ⟨_, List.mem_filter.mpr ⟨hall, decide_eq_true rfl⟩, ?_⟩
  rcases severity_of_converted hconverted ht with hsame | hsilenced
  · exact Or.inl (by simp [hsame])
  · exact Or.inr hsilenced

end Proposing

section Results

/-- These are the settings of a target rule that is new, or those that a conflict with the
existing configuration has dropped. -/
def ConversionResults.Proposes (results : ConversionResults) (target : String)
    (emitted : RuleSettings) : Prop :=
  results.converted.get? target = some emitted ∨
    ∃ conflict ∈ results.conflicts, conflict.rule = target ∧ conflict.proposed = emitted

/-- The source rules that the equivalents trace a target rule back to. -/
def ConversionResults.sourcesOf (results : ConversionResults) (rules : List SourceRule)
    (target : String) : List SourceRule :=
  rules.filter fun rule => results.equivalents.any fun equivalent =>
    equivalent.rule == rule.name && equivalent.targets.contains target

/-- Every merged target rule is new or in conflict with the existing configuration. -/
theorem proposes_iff_mem {registries : Registries} :
    (convertRules registries settings rules existing).Proposes target emitted ↔
      (target, emitted) ∈ (settledOf registries settings rules).rules.toList := by
  have hdropped : (∃ conflict ∈ (convertRules registries settings rules existing).conflicts,
      conflict.rule = target ∧ conflict.proposed = emitted) ↔
        (target, emitted) ∈ (settledOf registries settings rules).rules.toList ∧
          Assoc.contains existing target = true := by
    rw [← List.mem_filter (p := fun entry : String × RuleSettings =>
      Assoc.contains existing entry.1), ← proposed_conflicts, List.mem_map]
    simp only [Prod.mk.injEq]
  have hnew : (convertRules registries settings rules existing).converted.get? target =
      some emitted ↔ (target, emitted) ∈ (settledOf registries settings rules).rules.toList ∧
        Assoc.contains existing target = false := by
    rw [get?_converted, Assoc.lookup_eq_some_iff_mem, toList_converted, List.mem_filter,
      Bool.not_eq_true']
    rw [← RuleMap.keys_eq, keys_converted]
    exact nodup_keys_settledOf.filter _
  rw [ConversionResults.Proposes, hnew, hdropped, ← and_or_left]
  cases Assoc.contains existing target <;> simp

/-- What a target rule gets is merged from all proposals for it, whether the existing
configuration sets it or not. -/
theorem proposes_iff_mergedOf :
    (convertRules ⟨.builtin, .builtin⟩ settings rules existing).Proposes target emitted ↔
      groupOf settings rules target ≠ [] ∧ mergedOf settings rules target = emitted := by
  rw [proposes_iff_mem, ← Assoc.lookup_eq_some_iff_mem nodup_keys_settledOf, ← get?_settledOf,
    rules_settledOf_builtin, get?_mergeProposals]
  split
  · rename_i hnone
    simp [groupOf, hnone]
  · rename_i hsome
    simp [groupOf, mergedOf, hsome]

/-- No merge is lost, so a target rule is traced back to every source rule that is converted
to it. -/
theorem mem_sourcesOf_iff (existing : Fields) (hdistinct : (rules.map (·.name)).Nodup) :
    rule ∈ (convertRules ⟨.builtin, .builtin⟩ settings rules existing).sourcesOf rules target ↔
      rule ∈ rules ∧ ∃ c, convertRule .builtin settings rule = .converted c ∧
        target ∈ c.rules.map (·.name) := by
  simp only [ConversionResults.sourcesOf, convertRules_eq existing hdistinct, List.mem_filter,
    List.any_map, List.any_eq_true, Function.comp_apply, NamedContribution.equivalent,
    Bool.and_eq_true, beq_iff_eq, List.contains_iff_mem, mem_distinct]
  refine and_congr_right fun hrule => ?_
  constructor
  · rintro ⟨survivor, hsurvivor, hname, htarget⟩
    obtain ⟨r, hr, _, hconverted, hsurvivorName⟩ := mem_survivors_iff.mp hsurvivor
    have hsame := eq_of_name_eq hdistinct hr
      (mem_conversionsOf ⟨.builtin, .builtin⟩ settings hrule) (hsurvivorName.trans hname)
    rw [hsame] at hconverted
    exact ⟨_, hconverted, htarget⟩
  · rintro ⟨c, hconverted, htarget⟩
    refine ⟨⟨rule.name, c⟩, mem_survivors_iff.mpr ?_, rfl, htarget⟩
    refine ⟨_, mem_conversionsOf ⟨.builtin, .builtin⟩ settings hrule, ?_, hconverted, rfl⟩
    rw [failed_settledOf_builtin]
    rfl

/-- A target rule is at most as severe as the most severe of its source rules. If one of
them is an error, it is an error, except for the one that may be switched off. -/
theorem severity_of_sources (settings : ConversionSettings) (rules : List SourceRule)
    (existing : Fields) (hdistinct : (rules.map (·.name)).Nodup) :
    let results := convertRules ⟨.builtin, .builtin⟩ settings rules existing
    ∀ target emitted, results.Proposes target emitted →
      (∃ rule ∈ results.sourcesOf rules target,
        emitted.severity.rank ≤ rule.severity.rank) ∧
      (target ≠ silencedTarget →
        (∃ rule ∈ results.sourcesOf rules target, rule.severity = .error) →
          emitted.severity = .error) := by
  intro results target emitted hproposes
  obtain ⟨hgroup, rfl⟩ := proposes_iff_mergedOf.mp hproposes
  rw [severity_mergedOf hgroup]
  constructor
  · have hseverities : (groupOf settings rules target).map (·.severity) ≠ [] := by
      simpa using hgroup
    obtain ⟨p, hp, hseverity⟩ := List.mem_map.mp (severityOf_builtin_mem target hseverities)
    obtain ⟨rule, hrule, hconverted, _, hsource⟩ := exists_of_mem_groupOf hp
    refine ⟨rule, (mem_sourcesOf_iff existing hdistinct).mpr ⟨hrule, hconverted⟩, ?_⟩
    rw [← hseverity]
    rcases hsource with hsame | hoff
    · exact Nat.le_of_eq (congrArg Severity.rank hsame)
    · rw [hoff]
      exact Nat.zero_le _
  · rintro hother ⟨rule, hsource, herror⟩
    obtain ⟨hrule, c, hconverted, htarget⟩ := (mem_sourcesOf_iff existing hdistinct).mp hsource
    obtain ⟨p, hp, hseverity⟩ := exists_mem_groupOf hrule hconverted htarget
    apply severityOf_builtin_eq_error hother
    rcases hseverity with hsame | hsilenced
    · exact List.mem_map.mpr ⟨p, hp, hsame.trans herror⟩
    · exact absurd hsilenced hother

/-- Two source rules of different severities about functions in attributes. The existing
configuration has the target rule off, and what it drops is as severe as the stricter. -/
theorem severity_of_binds :
    let rules : List SourceRule := [⟨"jsx-no-bind", [], .error⟩, ⟨"jsx-no-lambda", [], .warn⟩]
    let results := convertRules ⟨.builtin, .builtin⟩ disputeSettings rules
      [("react/jsx-no-bind", .string "off")]
    (rules.map (·.name)).Nodup ∧
      results.sourcesOf rules "react/jsx-no-bind" = rules ∧
      ∃ emitted, results.Proposes "react/jsx-no-bind" emitted ∧ emitted.severity = .error ∧
        ∃ rule ∈ rules, emitted.severity.rank ≤ rule.severity.rank := by
  intro rules results
  have hdistinct : (rules.map (·.name)).Nodup := by decide
  have hsources : results.sourcesOf rules "react/jsx-no-bind" = rules := by decide +kernel
  have hproposes : results.Proposes "react/jsx-no-bind" ⟨.error, [], []⟩ :=
    proposes_iff_mergedOf.mpr (by decide +kernel)
  obtain ⟨hbounded, herror⟩ := severity_of_sources disputeSettings rules
    [("react/jsx-no-bind", .string "off")] hdistinct _ _ hproposes
  have hstrict : ∃ rule ∈ results.sourcesOf rules "react/jsx-no-bind",
      rule.severity = .error := by
    rw [hsources]
    exact ⟨_, List.mem_cons_self, rfl⟩
  rw [show results.sourcesOf rules "react/jsx-no-bind" = rules from hsources] at hbounded
  exact ⟨hdistinct, hsources, _, hproposes, herror (by decide) hstrict, hbounded⟩

end Results

end Relint
