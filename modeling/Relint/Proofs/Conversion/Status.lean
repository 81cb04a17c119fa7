import Relint.Conversion.Rules
import Relint.Proofs.Converter.Basic
import Relint.Proofs.Merge.Settled

/-!
What finally becomes of each source rule. For source rules with different names
the outcomes that are marked while failures come in are a function of the rule's
own conversion and of the merges that have settled: a rule that lost a merge has
failed, and every other rule keeps the status it has on its own. All results that
are filtered by status are restated in these terms.
-/

namespace Relint

variable {registries : Registries} {settings : ConversionSettings} {rules : List SourceRule}
  {existing : Fields}

/-- Source rules with their conversions on their own. -/
def conversionsOf (registries : Registries) (settings : ConversionSettings)
    (rules : List SourceRule) : List ConvertedRule :=
  rules.map fun rule => (rule, convertRule registries.converters settings rule)

/-- The settled merges of everything that source rules propose. -/
def settledOf (registries : Registries) (settings : ConversionSettings)
    (rules : List SourceRule) : Merged :=
  settle registries.mergers ((conversionsOf registries settings rules).flatMap (·.proposals))

namespace ConvertedRule

/-- What becomes of a rule in the end, given who lost a merge. -/
def finalStatus (lost : List RuleFailure) (r : ConvertedRule) : RuleStatus :=
  if hasFailed lost r.1.name then .failed else r.outcome.status

/-- A rule proposes the target rules of its contribution under its own name. -/
theorem mem_proposals_iff {r : ConvertedRule} {p : Proposal} :
    p ∈ r.proposals ↔ ∃ c, r.2 = .converted c ∧ ∃ t ∈ c.rules,
      p = ⟨r.1.name, t.name, t.arguments, t.severity.getD r.1.severity, t.notices⟩ := by
  obtain ⟨rule, conversion⟩ := r
  cases conversion with
  | converted c => simp [proposals, contribution?, eq_comm]
  | failed f => simp [proposals, contribution?]
  | missing => simp [proposals, contribution?]

theorem of_mem_proposals {r : ConvertedRule} {p : Proposal} (h : p ∈ r.proposals) :
    p.source = r.1.name ∧ ∃ c, r.2 = .converted c := by
  obtain ⟨c, hc, t, _, rfl⟩ := mem_proposals_iff.mp h
  exact ⟨rfl, c, hc⟩

/-- Withdrawing from the proposals of one rule leaves all of them or none. -/
theorem withdraw_proposals (lost : List RuleFailure) (r : ConvertedRule) :
    withdraw lost r.proposals = if hasFailed lost r.1.name then [] else r.proposals := by
  have hsource : ∀ p ∈ r.proposals, p.source = r.1.name := fun p hp => (of_mem_proposals hp).1
  unfold withdraw
  split
  · rename_i hlost
    rw [List.filter_eq_nil_iff]
    intro p hp
    simp [hsource p hp, hlost]
  · rename_i hkept
    rw [List.filter_eq_self]
    intro p hp
    simpa [hsource p hp] using hkept

theorem missing?_eq_some_iff {r : ConvertedRule} {rule : SourceRule} :
    r.missing? = some rule ↔ r.2 = .missing ∧ r.1 = rule := by
  unfold missing?
  cases r.2 <;> simp

theorem failure?_eq_some_iff {r : ConvertedRule} {f : RuleFailure} :
    r.failure? = some f ↔ r.2 = .failed f := by
  unfold failure?
  cases r.2 <;> simp

theorem contribution?_eq_some_iff {r : ConvertedRule} {c : Contribution} :
    r.contribution? = some c ↔ r.2 = .converted c := by
  unfold contribution?
  cases r.2 <;> simp

end ConvertedRule

theorem NamedContribution.ofConverted?_eq_some_iff {r : ConvertedRule} {c : NamedContribution} :
    NamedContribution.ofConverted? r = some c ↔
      r.2 = .converted c.contribution ∧ r.1.name = c.rule := by
  obtain ⟨rule, contribution⟩ := c
  unfold NamedContribution.ofConverted? ConvertedRule.contribution?
  cases r.2 <;> simp [and_comm]

theorem names_conversionsOf (registries : Registries) (settings : ConversionSettings)
    (rules : List SourceRule) :
    (conversionsOf registries settings rules).map (·.1.name) = rules.map (·.name) := by
  simp [conversionsOf, Function.comp_def]

theorem nodup_conversionsOf (registries : Registries) (settings : ConversionSettings)
    (hdistinct : (rules.map (·.name)).Nodup) :
    ((conversionsOf registries settings rules).map (·.1.name)).Nodup := by
  rw [names_conversionsOf]
  exact hdistinct

theorem mem_conversionsOf (registries : Registries) (settings : ConversionSettings)
    {rule : SourceRule} (h : rule ∈ rules) :
    (rule, convertRule registries.converters settings rule) ∈
      conversionsOf registries settings rules :=
  List.mem_map_of_mem h

theorem eq_of_mem_conversionsOf {r : ConvertedRule}
    (h : r ∈ conversionsOf registries settings rules) :
    r.1 ∈ rules ∧ r.2 = convertRule registries.converters settings r.1 := by
  obtain ⟨rule, hrule, rfl⟩ := List.mem_map.mp h
  exact ⟨hrule, rfl⟩

theorem eq_of_name_eq (hdistinct : (rules.map (·.name)).Nodup) {r r' : ConvertedRule}
    (hr : r ∈ conversionsOf registries settings rules)
    (hr' : r' ∈ conversionsOf registries settings rules) (hname : r.1.name = r'.1.name) :
    r = r' :=
  List.inj_on_of_nodup_map (nodup_conversionsOf registries settings hdistinct) hr hr' hname

/-- A converter's refusal is reported under the name of the rule it was asked for. -/
theorem rule_of_failed {r : ConvertedRule} (hr : r ∈ conversionsOf registries settings rules)
    {f : RuleFailure} (hf : r.2 = .failed f) : f.rule = r.1.name := by
  rw [(eq_of_mem_conversionsOf hr).2] at hf
  obtain ⟨_, _, _, _, rfl⟩ := convertRule_eq_failed_iff.mp hf
  rfl

/-- Whoever loses a merge was converted on its own. -/
theorem converted_of_lost {name : String}
    (h : hasFailed (settledOf registries settings rules).failed name = true) :
    ∃ r ∈ conversionsOf registries settings rules, r.1.name = name ∧ ∃ c, r.2 = .converted c := by
  rw [hasFailed_iff_mem] at h
  obtain ⟨f, hf, rfl⟩ := List.mem_map.mp h
  obtain ⟨p, hp, hsource⟩ := mem_failed_settle hf
  obtain ⟨r, hr, hpr⟩ := List.mem_flatMap.mp hp
  obtain ⟨hname, hconverted⟩ := ConvertedRule.of_mem_proposals hpr
  exact ⟨r, hr, hname.symm.trans hsource, hconverted⟩

section Outcomes

variable {outcomes : List RuleOutcome}

@[simp] theorem markAllFailed_nil (outcomes : List RuleOutcome) :
    markAllFailed outcomes [] = outcomes :=
  rfl

theorem markFailed_eq_map {rule : String} (h : (outcomes.map (·.rule)).Nodup) :
    markFailed rule outcomes =
      outcomes.map fun o => if o.rule = rule then ⟨o.rule, .failed⟩ else o := by
  induction outcomes with
  | nil => rfl
  | cons o rest ih =>
      obtain ⟨hfresh, hrest⟩ := List.nodup_cons.mp h
      rw [markFailed, List.map_cons]
      split
      · rename_i heq
        have hother : rest.map (fun o => if o.rule = rule then ⟨o.rule, .failed⟩ else o) = rest := by
          refine (List.map_congr_left ?_).trans (List.map_id _)
          intro o' ho'
          have hne : o'.rule ≠ rule := by
            intro heq'
            apply hfresh
            exact List.mem_map.mpr ⟨o', ho', heq'.trans heq.symm⟩
          simp [hne]
        rw [hother]
      · rw [ih hrest]

theorem names_markFailed (rule : String) (outcomes : List RuleOutcome) :
    (markFailed rule outcomes).map (·.rule) = outcomes.map (·.rule) := by
  induction outcomes with
  | nil => rfl
  | cons o rest ih =>
      rw [markFailed]
      split
      · rfl
      · rw [List.map_cons, ih, List.map_cons]

/-- Marking one failure after the other marks every rule that is among them. -/
theorem markAllFailed_eq_map (lost : List RuleFailure) (h : (outcomes.map (·.rule)).Nodup) :
    markAllFailed outcomes lost =
      outcomes.map fun o => if hasFailed lost o.rule then ⟨o.rule, .failed⟩ else o := by
  induction lost generalizing outcomes with
  | nil => simp
  | cons f rest ih =>
      have hstep : markAllFailed outcomes (f :: rest) =
          markAllFailed (markFailed f.rule outcomes) rest := rfl
      have hnodup : ((markFailed f.rule outcomes).map (·.rule)).Nodup := by
        rw [names_markFailed]
        exact h
      rw [hstep, ih hnodup, markFailed_eq_map h, List.map_map]
      apply List.map_congr_left
      intro o _
      by_cases heq : o.rule = f.rule
      · simp [heq, hasFailed]
      · simp [heq, hasFailed, Ne.symm heq]

/-- Where no rule has two outcomes its status is read off the one it has. -/
theorem statusIn_of_mem {o : RuleOutcome} (h : (outcomes.map (·.rule)).Nodup)
    (ho : o ∈ outcomes) : statusIn outcomes o.rule = some o.status := by
  induction outcomes with
  | nil => exact absurd ho List.not_mem_nil
  | cons head rest ih =>
      obtain ⟨hfresh, hrest⟩ := List.nodup_cons.mp h
      rcases List.mem_cons.mp ho with rfl | hmem
      · simp [statusIn]
      · have hne : head.rule ≠ o.rule := by
          intro heq
          exact hfresh (List.mem_map.mpr ⟨o, hmem, heq.symm⟩)
        have htail := ih hrest hmem
        simpa [statusIn, List.find?_cons, hne] using htail

theorem statusIn_eq_some_iff {rule : String} {status : RuleStatus}
    (h : (outcomes.map (·.rule)).Nodup) :
    statusIn outcomes rule = some status ↔ ⟨rule, status⟩ ∈ outcomes := by
  constructor
  · intro hstatus
    obtain ⟨o, ho, rfl⟩ := Option.map_eq_some_iff.mp hstatus
    obtain rfl : o.rule = rule := by simpa using List.find?_some ho
    exact List.mem_of_find?_eq_some ho
  · exact statusIn_of_mem h

/-- Where no rule has two outcomes, the order of the outcomes does not matter. -/
theorem statusIn_eq_of_perm {others : List RuleOutcome} (h : (outcomes.map (·.rule)).Nodup)
    (hperm : outcomes.Perm others) (rule : String) :
    statusIn outcomes rule = statusIn others rule := by
  have hothers : (others.map (·.rule)).Nodup := (hperm.map _).nodup_iff.mp h
  apply Option.ext
  intro status
  rw [statusIn_eq_some_iff h, statusIn_eq_some_iff hothers, hperm.mem_iff]

end Outcomes

/-- The contributions of the rules that the outcomes call converted. -/
def contributionsOf (outcomes : List RuleOutcome) (conversions : List ConvertedRule) :
    List NamedContribution :=
  (conversions.filterMap NamedContribution.ofConverted?).filter fun c =>
    statusIn outcomes c.rule == some .converted

/-- What contributions bring along, source rule by source rule. -/
theorem flatMap_contributionsOf (outcomes : List RuleOutcome) (conversions : List ConvertedRule)
    (part : Contribution → List String) :
    (contributionsOf outcomes conversions).flatMap (part ·.contribution) =
      conversions.flatMap fun r =>
        if statusIn outcomes r.1.name = some .converted then r.contribution?.elim [] part
        else [] := by
  unfold contributionsOf
  induction conversions with
  | nil => rfl
  | cons r rest ih =>
      rw [List.flatMap_cons, ← ih, List.filterMap_cons, NamedContribution.ofConverted?]
      cases r.contribution? with
      | none => simp
      | some c =>
          by_cases hstatus : statusIn outcomes r.1.name = some .converted
          · simp [hstatus]
          · simp [hstatus]

section Fields

variable (registries : Registries) (settings : ConversionSettings) (rules : List SourceRule)
  (existing : Fields)

theorem converted_convertRules :
    (convertRules registries settings rules existing).converted =
      .ofList ((settledOf registries settings rules).rules.toList.filter
        fun entry => !Assoc.contains existing entry.1) :=
  rfl

theorem failed_convertRules :
    (convertRules registries settings rules existing).failed =
      (conversionsOf registries settings rules).filterMap (·.failure?) ++
        (settledOf registries settings rules).failed :=
  rfl

theorem missing_convertRules :
    (convertRules registries settings rules existing).missing =
      (conversionsOf registries settings rules).filterMap (·.missing?) :=
  rfl

theorem outcomes_eq_markAllFailed :
    (convertRules registries settings rules existing).outcomes =
      markAllFailed ((conversionsOf registries settings rules).map (·.outcome))
        (settledOf registries settings rules).failed :=
  rfl

theorem presets_convertRules :
    (convertRules registries settings rules existing).presets =
      .ofList ((contributionsOf (convertRules registries settings rules existing).outcomes
        (conversionsOf registries settings rules)).flatMap (·.contribution.presets)) :=
  rfl

theorem plugins_convertRules :
    (convertRules registries settings rules existing).plugins =
      .ofList ((contributionsOf (convertRules registries settings rules existing).outcomes
        (conversionsOf registries settings rules)).flatMap (·.contribution.plugins)) :=
  rfl

theorem conflicts_convertRules :
    (convertRules registries settings rules existing).conflicts =
      (settledOf registries settings rules).rules.toList.filterMap (conflict? existing) :=
  rfl

end Fields

/-- The outcomes list the final status of each source rule in order. -/
theorem outcomes_convertRules (existing : Fields) (hdistinct : (rules.map (·.name)).Nodup) :
    (convertRules registries settings rules existing).outcomes =
      (conversionsOf registries settings rules).map fun r =>
        ⟨r.1.name, r.finalStatus (settledOf registries settings rules).failed⟩ := by
  have hnames : (((conversionsOf registries settings rules).map (·.outcome)).map (·.rule)).Nodup := by
    rw [List.map_map]
    exact nodup_conversionsOf registries settings hdistinct
  rw [outcomes_eq_markAllFailed, markAllFailed_eq_map _ hnames, List.map_map]
  apply List.map_congr_left
  intro r _
  by_cases hlost : hasFailed (settledOf registries settings rules).failed r.1.name = true
  · simp [ConvertedRule.finalStatus, ConvertedRule.outcome, hlost]
  · simp [ConvertedRule.finalStatus, ConvertedRule.outcome, hlost]

/-- Registries with two converters that propose for the same target rule, one that
refuses, and a merger that only accepts arguments that are all the same. -/
def disputeRegistries : Registries where
  converters := [
    ("quotemark", fun ctx => .ok (.ofRule ((TargetRule.named "quotes").withArguments ctx.arguments))),
    ("jsx-quotemark", fun ctx => .ok (.ofRules [.named "jsx-quotes",
      (TargetRule.named "quotes").withArguments ctx.arguments])),
    ("indent", fun _ => .error "Unknown indent type.")]
  mergers := [
    ("quotes", .ofArguments fun proposals =>
      if proposals.all (· == proposals.headD []) then .ok (proposals.headD [])
      else .error "Conflicting quote styles.")]

/-- Source rules of which the second loses against the first. -/
def disputeRules : List SourceRule := [
  ⟨"quotemark", [.string "single"], .error⟩,
  ⟨"jsx-quotemark", [.string "double"], .warn⟩,
  ⟨"indent", [.string "mixed"], .error⟩,
  ⟨"whitespace", [], .warn⟩]

/-- The settings of a run without further wishes. -/
def disputeSettings : ConversionSettings :=
  ⟨false, false⟩

example : (convertRules disputeRegistries disputeSettings disputeRules []).outcomes =
    [⟨"quotemark", .converted⟩, ⟨"jsx-quotemark", .failed⟩, ⟨"indent", .failed⟩,
      ⟨"whitespace", .missing⟩] := by
  decide +kernel

theorem statusIn_convertRules (existing : Fields) (hdistinct : (rules.map (·.name)).Nodup)
    {r : ConvertedRule} (hr : r ∈ conversionsOf registries settings rules) :
    statusIn (convertRules registries settings rules existing).outcomes r.1.name =
      some (r.finalStatus (settledOf registries settings rules).failed) := by
  rw [outcomes_convertRules existing hdistinct]
  have hnodup : (((conversionsOf registries settings rules).map fun r =>
      (⟨r.1.name, r.finalStatus (settledOf registries settings rules).failed⟩ : RuleOutcome)).map
        (·.rule)).Nodup := by
    rw [List.map_map]
    exact nodup_conversionsOf registries settings hdistinct
  exact statusIn_of_mem hnodup (List.mem_map_of_mem hr)

/-- Among rules with different names, one whose name lost a merge was converted. -/
theorem converted_of_hasFailed (hdistinct : (rules.map (·.name)).Nodup) {r : ConvertedRule}
    (hr : r ∈ conversionsOf registries settings rules)
    (hlost : hasFailed (settledOf registries settings rules).failed r.1.name = true) :
    ∃ c, r.2 = .converted c := by
  obtain ⟨loser, hloser, hname, hconverted⟩ := converted_of_lost hlost
  rwa [eq_of_name_eq hdistinct hloser hr hname] at hconverted

theorem finalStatus_eq_missing_iff (hdistinct : (rules.map (·.name)).Nodup) {r : ConvertedRule}
    (hr : r ∈ conversionsOf registries settings rules) :
    r.finalStatus (settledOf registries settings rules).failed = .missing ↔ r.2 = .missing := by
  unfold ConvertedRule.finalStatus
  split
  · rename_i hlost
    obtain ⟨c, hc⟩ := converted_of_hasFailed hdistinct hr hlost
    simp [hc]
  · unfold ConvertedRule.outcome
    cases r.2 <;> simp

theorem finalStatus_eq_failed_iff (lost : List RuleFailure) {r : ConvertedRule} :
    r.finalStatus lost = .failed ↔ (∃ f, r.2 = .failed f) ∨ hasFailed lost r.1.name = true := by
  unfold ConvertedRule.finalStatus
  split
  · rename_i hlost
    simp [hlost]
  · rename_i hkept
    unfold ConvertedRule.outcome
    cases r.2 <;> simp [hkept]

theorem finalStatus_eq_converted_iff (lost : List RuleFailure) {r : ConvertedRule} :
    r.finalStatus lost = .converted ↔
      (∃ c, r.2 = .converted c) ∧ hasFailed lost r.1.name = false := by
  unfold ConvertedRule.finalStatus
  split
  · rename_i hlost
    simp [hlost]
  · rename_i hkept
    unfold ConvertedRule.outcome
    cases r.2 <;> simp [hkept]

/-- The contributions of converted rules that lost no merge. -/
def survivors (registries : Registries) (settings : ConversionSettings)
    (rules : List SourceRule) : List NamedContribution :=
  ((conversionsOf registries settings rules).filter fun r =>
    !hasFailed (settledOf registries settings rules).failed r.1.name).filterMap
      NamedContribution.ofConverted?

/-- The contributions that are kept because the outcomes call their rules converted
are those of the survivors. -/
theorem contributionsOf_eq_survivors (existing : Fields)
    (hdistinct : (rules.map (·.name)).Nodup) :
    contributionsOf (convertRules registries settings rules existing).outcomes
        (conversionsOf registries settings rules) =
      survivors registries settings rules := by
  rw [contributionsOf, survivors, List.filter_filterMap, List.filterMap_filter]
  apply List.filterMap_congr
  intro r hr
  have hstatus := statusIn_convertRules existing hdistinct hr
  cases hconversion : r.2 with
  | converted c =>
      have hcontribution : NamedContribution.ofConverted? r = some ⟨r.1.name, c⟩ := by
        simp [NamedContribution.ofConverted?, ConvertedRule.contribution?, hconversion]
      rw [hcontribution]
      cases hlost : hasFailed (settledOf registries settings rules).failed r.1.name with
      | true =>
          have hfinal := (finalStatus_eq_failed_iff _).mpr (Or.inr hlost)
          simp [Option.filter, hstatus, hfinal]
      | false =>
          have hfinal := (finalStatus_eq_converted_iff _).mpr ⟨⟨c, hconversion⟩, hlost⟩
          simp [Option.filter, hstatus, hfinal]
  | failed f =>
      simp [NamedContribution.ofConverted?, ConvertedRule.contribution?, hconversion]
  | missing =>
      simp [NamedContribution.ofConverted?, ConvertedRule.contribution?, hconversion]

/-- The results for rules with different names, with every filter by status replaced
by the conversions on their own and the settled merges. -/
theorem convertRules_eq (existing : Fields) (hdistinct : (rules.map (·.name)).Nodup) :
    convertRules registries settings rules existing =
      { converted := .ofList ((settledOf registries settings rules).rules.toList.filter
          fun entry => !Assoc.contains existing entry.1)
        failed := (conversionsOf registries settings rules).filterMap (·.failure?) ++
          (settledOf registries settings rules).failed
        missing := (conversionsOf registries settings rules).filterMap (·.missing?)
        presets := .ofList ((survivors registries settings rules).flatMap (·.contribution.presets))
        plugins := .ofList ((survivors registries settings rules).flatMap (·.contribution.plugins))
        conflicts := (settledOf registries settings rules).rules.toList.filterMap
          (conflict? existing)
        equivalents := (survivors registries settings rules).map (·.equivalent)
        outcomes := (conversionsOf registries settings rules).map fun r =>
          ⟨r.1.name, r.finalStatus (settledOf registries settings rules).failed⟩ } := by
  rw [← contributionsOf_eq_survivors existing hdistinct,
    ← outcomes_convertRules existing hdistinct]
  rfl

end Relint
