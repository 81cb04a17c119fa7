import Relint.Proofs.Conversion.Builtin
import Relint.Proofs.Conversion.Conflicts
import Relint.Proofs.Converter.Names
import Relint.Proofs.Merge.Disabled

/-!
Source rules that are switched off. They are converted like all others, and what they
propose joins the merges. A target rule that is not off in the end is therefore the one
that it would be without them only as long as they do not share it with another source
rule: of the few target rules that are shared, three put together the arguments of all.
-/

namespace Relint

variable {settings : ConversionSettings} {rules : List SourceRule} {rule : SourceRule}
  {target : String} {p : Proposal}

/-- What source rules propose for one target rule. -/
def groupOf (settings : ConversionSettings) (rules : List SourceRule) (target : String) :
    List Proposal :=
  ((conversionsOf ⟨.builtin, .builtin⟩ settings rules).flatMap (·.proposals)).filter
    (·.target = target)

theorem groupOf_append (settings : ConversionSettings) (rules others : List SourceRule)
    (target : String) :
    groupOf settings (rules ++ others) target =
      groupOf settings rules target ++ groupOf settings others target := by
  simp [groupOf, conversionsOf]

/-- The settings that a target rule gets from what source rules propose for it. -/
def mergedOf (settings : ConversionSettings) (rules : List SourceRule) (target : String) :
    RuleSettings :=
  (mergeGroup .builtin target (groupOf settings rules target)).1

/-- Without an existing configuration a target rule has the settings of its group. -/
theorem get?_converted_builtin (settings : ConversionSettings) (rules : List SourceRule)
    (target : String) :
    (convertRules ⟨.builtin, .builtin⟩ settings rules []).converted.get? target =
      if groupOf settings rules target = [] then none
      else some (mergedOf settings rules target) := by
  rw [get?_converted, toList_converted_nil, ← get?_settledOf, rules_settledOf_builtin,
    get?_mergeProposals]
  rfl

theorem failed_mergeGroup_groupOf :
    (mergeGroup .builtin target (groupOf settings rules target)).2 = [] := by
  apply mergeGroup_of_accepts MergerRegistry.builtin_acceptsShapes
  intro p hp
  obtain ⟨hproposal, htarget⟩ := List.mem_filter.mp hp
  rw [← of_decide_eq_true htarget]
  exact reconcilable_of_mem_proposals hproposal

theorem severity_mergedOf (h : groupOf settings rules target ≠ []) :
    (mergedOf settings rules target).severity =
      MergerRegistry.builtin.severityOf target
        ((groupOf settings rules target).map (·.severity)) :=
  severity_mergeGroup (MergerRegistry.dropsOff_builtin target).merge_singleton h
    failed_mergeGroup_groupOf

/-- A proposal comes from the contribution of a source rule. Its target is among those of
the profile, and its severity is that of the source rule or off. -/
theorem exists_of_mem_groupOf (h : p ∈ groupOf settings rules target) :
    ∃ rule ∈ rules,
      (∃ c, convertRule .builtin settings rule = .converted c ∧ target ∈ c.rules.map (·.name)) ∧
      (∃ profile, (rule.name, profile) ∈ builtinProfiles ∧ target ∈ profile.targets) ∧
      (p.severity = rule.severity ∨ p.severity = .off) := by
  obtain ⟨hproposal, htarget⟩ := List.mem_filter.mp h
  obtain ⟨r, hr, hp⟩ := List.mem_flatMap.mp hproposal
  obtain ⟨rule, hrule, rfl⟩ := List.mem_map.mp hr
  obtain ⟨c, hc, t, ht, rfl⟩ := ConvertedRule.mem_proposals_iff.mp hp
  obtain rfl : t.name = target := of_decide_eq_true htarget
  obtain ⟨profile, hrow, _, hrules⟩ := profile_of_converted hc
  obtain ⟨hname, hseverity⟩ := hrules t ht
  refine ⟨rule, hrule, ⟨c, hc, List.mem_map_of_mem ht⟩, ⟨profile, hrow, hname⟩, ?_⟩
  rcases hseverity with hsource | hoff
  · exact Or.inl (by simp [hsource])
  · exact Or.inr (by simp [hoff])

theorem severity_of_mem_groupOf (hoff : rule.severity = .off)
    (h : p ∈ groupOf settings [rule] target) : p.severity = .off := by
  obtain ⟨rule', hrule', _, _, hseverity⟩ := exists_of_mem_groupOf h
  rw [List.mem_singleton.mp hrule', hoff, or_self] at hseverity
  exact hseverity

/-- The shared target rules whose mergers put the arguments of all source rules
together. -/
def combinedTargets : List String :=
  ["@typescript-eslint/naming-convention", "@typescript-eslint/consistent-type-assertions",
    "no-restricted-globals"]

theorem bindSources : ∀ row ∈ builtinProfiles, "react/jsx-no-bind" ∈ row.2.targets →
    row.1 = "jsx-no-bind" ∨ row.1 = "jsx-no-lambda" := by
  decide +kernel

/-- The source rules about functions in attributes have no options. -/
theorem arguments_of_mem_groupOf_bind (h : p ∈ groupOf settings rules "react/jsx-no-bind") :
    p.arguments = [] := by
  obtain ⟨hproposal, htarget⟩ := List.mem_filter.mp h
  obtain ⟨source, convert, ctx, answer, hlookup, hanswer, t, ht, htarget', harguments⟩ :=
    answer_of_mem_proposals hproposal
  obtain ⟨profile, hrow, hdescribes⟩ := profile_of_builtin hlookup
  have hname : t.name = "react/jsx-no-bind" := htarget'.symm.trans (of_decide_eq_true htarget)
  have hmem : "react/jsx-no-bind" ∈ profile.targets := by
    rw [← hname]
    exact ((hdescribes ctx answer hanswer).admits t ht).name_mem
  have hconvert : convert = Converter.inPlugin "eslint-plugin-react" "react/jsx-no-bind" := by
    rcases bindSources _ hrow hmem with rfl | rfl
    · exact Option.some.inj (hlookup.symm.trans rfl)
    · exact Option.some.inj (hlookup.symm.trans rfl)
  rw [hconvert] at hanswer
  cases hanswer
  rw [harguments, List.mem_singleton.mp ht]
  rfl

/-- Where two source rules propose the same target and its arguments are not put together,
nobody's arguments matter. -/
theorem arguments_mergedOf (rules : List SourceRule) (hshared : target ∈ sharedTargets)
    (hcombined : target ∉ combinedTargets) : (mergedOf settings rules target).arguments = [] := by
  obtain rfl : target = "react/jsx-no-bind" := by
    simp only [sharedTargets, combinedTargets, List.mem_cons, List.not_mem_nil, or_false,
      not_or] at hshared hcombined
    tauto
  apply arguments_mergeGroup_of_lookup_eq_none rfl
  exact fun p => arguments_of_mem_groupOf_bind

section Without

variable {before after : List SourceRule}

theorem groupOf_middle (settings : ConversionSettings) (before after : List SourceRule)
    (rule : SourceRule) (target : String) :
    groupOf settings (before ++ rule :: after) target =
      groupOf settings before target ++ groupOf settings [rule] target ++
        groupOf settings after target := by
  rw [← groupOf_append, ← groupOf_append, List.append_assoc, List.singleton_append]

/-- Without a source rule that is off, a target that is not off is still proposed, and it is
as severe as before. -/
theorem severity_without (hoff : rule.severity = .off)
    (hproposed : groupOf settings [rule] target ≠ [])
    (hon : (mergedOf settings (before ++ rule :: after) target).severity ≠ .off) :
    groupOf settings (before ++ after) target ≠ [] ∧
      (mergedOf settings (before ++ after) target).severity =
        (mergedOf settings (before ++ rule :: after) target).severity := by
  have hdrops := MergerRegistry.dropsOff_builtin target
  have hjoined := groupOf_append settings before after target
  have hall : groupOf settings (before ++ rule :: after) target ≠ [] := by
    simp [groupOf_middle, hproposed]
  have hsilent : ∀ severity ∈ (groupOf settings [rule] target).map (·.severity),
      severity = .off := by
    intro severity hseverity
    obtain ⟨p, hp, rfl⟩ := List.mem_map.mp hseverity
    exact severity_of_mem_groupOf hoff hp
  rw [severity_mergedOf hall, groupOf_middle, List.map_append, List.map_append] at hon ⊢
  have hothers : groupOf settings (before ++ after) target ≠ [] := by
    intro hnone
    rw [hjoined, List.append_eq_nil_iff] at hnone
    rw [hnone.1, hnone.2, List.map_nil, List.nil_append, List.append_nil] at hon
    exact hon (hdrops.merge_silent _ (by simpa using hproposed) hsilent)
  refine ⟨hothers, ?_⟩
  rw [severity_mergedOf hothers, hjoined, List.map_append]
  exact hdrops.merge_without _ _ _ hsilent hon

/-- A target that another source rule proposes too has the same arguments without this one,
unless they are put together. -/
theorem arguments_without (hdistinct : ((before ++ rule :: after).map (·.name)).Nodup)
    (hproposed : groupOf settings [rule] target ≠ [])
    (hothers : groupOf settings (before ++ after) target ≠ [])
    (hcombined : target ∉ combinedTargets) :
    (mergedOf settings (before ++ after) target).arguments =
      (mergedOf settings (before ++ rule :: after) target).arguments := by
  obtain ⟨p, hp⟩ := List.exists_mem_of_ne_nil _ hproposed
  obtain ⟨q, hq⟩ := List.exists_mem_of_ne_nil _ hothers
  obtain ⟨rule', hrule', _, ⟨profile, hrow, htarget⟩, _⟩ := exists_of_mem_groupOf hp
  obtain ⟨other, hother, _, ⟨profile', hrow', htarget'⟩, _⟩ := exists_of_mem_groupOf hq
  obtain rfl := List.mem_singleton.mp hrule'
  have hne : (rule'.name, profile) ≠ (other.name, profile') := by
    intro heq
    have hfresh := (List.nodup_middle.mp (by simpa using hdistinct)).notMem
    apply hfresh
    rw [(Prod.mk.inj heq).1, ← List.map_append]
    exact List.mem_map_of_mem hother
  have hshared := mem_sharedTargets hrow hrow' hne htarget htarget'
  rw [arguments_mergedOf _ hshared hcombined, arguments_mergedOf _ hshared hcombined]

end Without

/-- A source rule that is off can be left out: every target rule that is not off in the
end is still there and as severe as before. It has the same arguments too, unless they
are put together from those of several source rules and this is one of them. -/
theorem disabled_rule_removed (settings : ConversionSettings) (rules : List SourceRule)
    (rule : SourceRule) (hdistinct : (rules.map (·.name)).Nodup) (hrule : rule ∈ rules)
    (hoff : rule.severity = .off) :
    let whole := (convertRules ⟨.builtin, .builtin⟩ settings rules []).converted
    let without := (convertRules ⟨.builtin, .builtin⟩ settings (rules.erase rule) []).converted
    ∀ target emitted, whole.get? target = some emitted → emitted.severity ≠ .off →
      ∃ remaining, without.get? target = some remaining ∧
        remaining.severity = emitted.severity ∧
        (remaining.arguments = emitted.arguments ∨
          target ∈ combinedTargets ∧ ∃ c, convertRule .builtin settings rule = .converted c ∧
            target ∈ c.rules.map (·.name)) := by
  intro whole without target emitted hemitted hon
  obtain ⟨before, after, _, rfl, herase⟩ := List.exists_erase_eq hrule
  simp only [whole, without, herase, get?_converted_builtin] at hemitted ⊢
  split at hemitted
  · cases hemitted
  · rename_i hall
    obtain rfl := Option.some.inj hemitted
    by_cases hproposed : groupOf settings [rule] target = []
    · have hsame : groupOf settings (before ++ rule :: after) target =
          groupOf settings (before ++ after) target := by
        rw [groupOf_middle, hproposed, List.append_nil, groupOf_append]
      have hmerged : mergedOf settings (before ++ rule :: after) target =
          mergedOf settings (before ++ after) target := by
        rw [mergedOf, mergedOf, hsame]
      rw [hsame] at hall
      rw [hmerged]
      exact ⟨_, if_neg hall, rfl, Or.inl rfl⟩
    · obtain ⟨hothers, hseverity⟩ := severity_without hoff hproposed hon
      refine ⟨_, if_neg hothers, hseverity, ?_⟩
      by_cases hcombined : target ∈ combinedTargets
      · obtain ⟨p, hp⟩ := List.exists_mem_of_ne_nil _ hproposed
        obtain ⟨rule', hrule', hcontributes, _⟩ := exists_of_mem_groupOf hp
        obtain rfl := List.mem_singleton.mp hrule'
        exact Or.inr ⟨hcombined, hcontributes⟩
      · exact Or.inl (arguments_without hdistinct hproposed hothers hcombined)

/-- Functions in attributes stay forbidden when one of the two source rules about them is
off. -/
theorem disabled_jsxNoLambda_removed :
    let lambdas : SourceRule := ⟨"jsx-no-lambda", [], .off⟩
    let rules : List SourceRule := [lambdas, ⟨"jsx-no-bind", [], .error⟩]
    (rules.map (·.name)).Nodup ∧ lambdas ∈ rules ∧
      (convertRules ⟨.builtin, .builtin⟩ disputeSettings rules []).converted.get?
        "react/jsx-no-bind" = some ⟨.error, [], []⟩ ∧
      ∃ remaining, (convertRules ⟨.builtin, .builtin⟩ disputeSettings (rules.erase lambdas)
        []).converted.get? "react/jsx-no-bind" = some remaining ∧
          remaining.severity = .error ∧ remaining.arguments = [] := by
  intro lambdas rules
  have hdistinct : (rules.map (·.name)).Nodup := by decide
  have hrule : lambdas ∈ rules := List.mem_cons_self
  have hemitted : (convertRules ⟨.builtin, .builtin⟩ disputeSettings rules []).converted.get?
      "react/jsx-no-bind" = some ⟨.error, [], []⟩ := by
    rw [get?_converted_builtin]
    decide +kernel
  obtain ⟨remaining, hremaining, hseverity, harguments⟩ :=
    disabled_rule_removed disputeSettings rules lambdas hdistinct hrule rfl _ _ hemitted (by decide)
  refine ⟨hdistinct, hrule, hemitted, remaining, hremaining, hseverity, ?_⟩
  rcases harguments with hsame | ⟨hcombined, _⟩
  · exact hsame
  · exact absurd hcombined (by decide +kernel)

/-- The names of classes are checked although the only source rule about them is off: its
selector is put together with that of the rule about interfaces, which is an error. -/
theorem disabled_className_checked :
    let classes : SourceRule := ⟨"class-name", [], .off⟩
    let rules : List SourceRule := [classes, ⟨"interface-name", [], .error⟩]
    let selectorOfClasses := Value.object
      [("selector", .string "class"), ("format", .strings ["PascalCase"])]
    let selectorOfInterfaces := Value.object
      [("selector", .string "interface"), ("format", .strings ["PascalCase"]),
        ("custom", .object [("regex", .string "^I[A-Z]"), ("match", .bool true)])]
    (rules.map (·.name)).Nodup ∧ classes ∈ rules ∧ classes.severity = .off ∧
      (convertRules ⟨.builtin, .builtin⟩ disputeSettings rules []).converted.get?
        "@typescript-eslint/naming-convention" =
          some ⟨.error, [selectorOfClasses, selectorOfInterfaces], []⟩ ∧
      (convertRules ⟨.builtin, .builtin⟩ disputeSettings (rules.erase classes)
        []).converted.get? "@typescript-eslint/naming-convention" =
          some ⟨.error, [selectorOfInterfaces], []⟩ ∧
      [selectorOfClasses, selectorOfInterfaces] ≠ [selectorOfInterfaces] := by
  intro classes rules selectorOfClasses selectorOfInterfaces
  simp only [get?_converted_builtin]
  decide +kernel

end Relint
