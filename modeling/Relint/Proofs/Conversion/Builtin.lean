import Relint.Proofs.Conversion.Status
import Relint.Proofs.Converter.Builtin
import Relint.Proofs.Merge.Targets

/-!
Conversions with the built-in converters and mergers. No merge is ever refused
there, whatever the source rules and however often one of them is repeated, so
nothing but its own conversion decides what becomes of a source rule.
-/

namespace Relint

/-- The status that a source rule has by its own conversion. -/
def RuleConversion.status : RuleConversion → RuleStatus
  | .converted _ => .converted
  | .failed _ => .failed
  | .missing => .missing

variable {converters : ConverterRegistry} {mergers : MergerRegistry}
  {settings : ConversionSettings} {rules : List SourceRule}

theorem outcome_eq_status (r : ConvertedRule) : r.outcome = ⟨r.1.name, r.2.status⟩ := by
  obtain ⟨rule, conversion⟩ := r
  cases conversion <;> rfl

/-- A proposal is a target rule of an answer, with the arguments it has there. -/
theorem answer_of_mem_proposals {p : Proposal}
    (h : p ∈ (conversionsOf ⟨converters, mergers⟩ settings rules).flatMap (·.proposals)) :
    ∃ source convert ctx answer, converters.lookup source = some convert ∧
      convert ctx = .ok answer ∧
      ∃ t ∈ answer.rules, p.target = t.name ∧ p.arguments = t.arguments := by
  obtain ⟨r, hr, hp⟩ := List.mem_flatMap.mp h
  obtain ⟨rule, _, rfl⟩ := List.mem_map.mp hr
  obtain ⟨c, hc, resolved, hresolved, rfl⟩ := ConvertedRule.mem_proposals_iff.mp hp
  obtain ⟨convert, answer, hlookup, hanswer, rfl⟩ := convertRule_eq_converted_iff.mp hc
  obtain ⟨t, ht, rfl⟩ := List.mem_map.mp hresolved
  exact ⟨rule.name, convert, _, answer, hlookup, hanswer, t, ht, rfl, rfl⟩

/-- Everything that source rules propose can be reconciled. -/
theorem reconcilable_of_mem_proposals {p : Proposal}
    (h : p ∈ (conversionsOf ⟨.builtin, mergers⟩ settings rules).flatMap (·.proposals)) :
    Reconcilable p.target p.arguments := by
  obtain ⟨source, convert, ctx, answer, hlookup, hanswer, t, ht, htarget, harguments⟩ :=
    answer_of_mem_proposals h
  rw [htarget, harguments]
  exact reconcilable_builtin hlookup ctx answer hanswer t ht

theorem failed_settledOf_builtin (settings : ConversionSettings) (rules : List SourceRule) :
    (settledOf ⟨.builtin, .builtin⟩ settings rules).failed = [] :=
  failed_settle_of_accepts MergerRegistry.builtin_acceptsShapes
    fun _ => reconcilable_of_mem_proposals

/-- The merges are settled at once. -/
theorem rules_settledOf_builtin (settings : ConversionSettings) (rules : List SourceRule) :
    (settledOf ⟨.builtin, .builtin⟩ settings rules).rules =
      (mergeProposals .builtin
        ((conversionsOf ⟨.builtin, .builtin⟩ settings rules).flatMap (·.proposals))).rules := by
  have hround := rules_settle MergerRegistry.builtin
    ((conversionsOf ⟨.builtin, .builtin⟩ settings rules).flatMap (·.proposals))
  have hnone := failed_settledOf_builtin settings rules
  rw [settledOf] at hnone
  rwa [hnone, withdraw_nil] at hround

/-- Only what converters refused has failed. -/
theorem failed_convertRules_builtin (settings : ConversionSettings) (rules : List SourceRule)
    (existing : Fields) :
    (convertRules ⟨.builtin, .builtin⟩ settings rules existing).failed =
      (conversionsOf ⟨.builtin, .builtin⟩ settings rules).filterMap (·.failure?) := by
  rw [failed_convertRules, failed_settledOf_builtin, List.append_nil]

theorem outcomes_convertRules_builtin (settings : ConversionSettings) (rules : List SourceRule)
    (existing : Fields) :
    (convertRules ⟨.builtin, .builtin⟩ settings rules existing).outcomes =
      rules.map fun rule => ⟨rule.name, (convertRule .builtin settings rule).status⟩ := by
  rw [outcomes_eq_markAllFailed, failed_settledOf_builtin, markAllFailed_nil, conversionsOf,
    List.map_map]
  apply List.map_congr_left
  intro rule _
  exact outcome_eq_status _

/-- The status of a name is that of the first source rule that bears it. -/
theorem statusOf_builtin (settings : ConversionSettings) (rules : List SourceRule)
    (existing : Fields) (name : String) :
    (convertRules ⟨.builtin, .builtin⟩ settings rules existing).statusOf name =
      (rules.find? (·.name == name)).map fun rule =>
        (convertRule .builtin settings rule).status := by
  rw [ConversionResults.statusOf, outcomes_convertRules_builtin, statusIn, List.find?_map,
    Option.map_map]
  rfl

/-- A rule that its converter refused lost no merge. -/
theorem failure?_ne_unresolvableMerge {r : ConvertedRule}
    (hr : r ∈ conversionsOf ⟨converters, mergers⟩ settings rules) (rule target message : String) :
    r.failure? ≠ some (.unresolvableMerge rule target message) := by
  intro h
  have hconversion := ConvertedRule.failure?_eq_some_iff.mp h
  rw [(eq_of_mem_conversionsOf hr).2] at hconversion
  obtain ⟨_, _, _, _, hf⟩ := convertRule_eq_failed_iff.mp hconversion
  cases hf

/-- No rule is lost to another one: there is no failed merge, and the outcome of every
source rule, also of one whose name is repeated, is that of its own conversion. -/
theorem convertRules_builtin_independent (settings : ConversionSettings) (rules : List SourceRule)
    (existing : Fields) :
    (∀ rule target message, RuleFailure.unresolvableMerge rule target message ∉
      (convertRules ⟨.builtin, .builtin⟩ settings rules existing).failed) ∧
    (convertRules ⟨.builtin, .builtin⟩ settings rules existing).outcomes =
      rules.map fun rule => ⟨rule.name, (convertRule .builtin settings rule).status⟩ := by
  constructor
  · intro rule target message hmem
    rw [failed_convertRules_builtin] at hmem
    obtain ⟨r, hr, hfailure⟩ := List.mem_filterMap.mp hmem
    exact failure?_ne_unresolvableMerge hr rule target message hfailure
  · exact outcomes_convertRules_builtin settings rules existing

end Relint
