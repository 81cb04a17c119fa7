import Relint.Proofs.Conversion.Status
import Relint.Proofs.Merge.Earlier

/-!
Earlier source rules have priority. Rules that are put behind others can lose merges
against them but never win one, so that what becomes of a rule, and the failure that
is reported for it, depend on the rules before it only.
-/

namespace Relint

variable {registries : Registries} {settings : ConversionSettings} {earlier later : List SourceRule}

theorem conversionsOf_append (registries : Registries) (settings : ConversionSettings)
    (earlier later : List SourceRule) :
    conversionsOf registries settings (earlier ++ later) =
      conversionsOf registries settings earlier ++ conversionsOf registries settings later :=
  List.map_append

/-- Whether a source rule of this name is among the rules. -/
def bears (rules : List SourceRule) (name : String) : Bool :=
  (rules.map (·.name)).contains name

theorem bears_iff {rules : List SourceRule} {name : String} :
    bears rules name = true ↔ name ∈ rules.map (·.name) :=
  List.contains_iff_mem

theorem not_bears_of_later (hdistinct : ((earlier ++ later).map (·.name)).Nodup) {name : String}
    (hname : name ∈ later.map (·.name)) : bears earlier name = false := by
  rw [← Bool.not_eq_true, bears_iff]
  intro hearlier
  rw [List.map_append] at hdistinct
  exact (List.nodup_append.mp hdistinct).2.2 _ hearlier _ hname rfl

/-- Every proposal is made in the name of one of the source rules. -/
theorem source_mem_names {rules : List SourceRule} {p : Proposal}
    (hp : p ∈ (conversionsOf registries settings rules).flatMap (·.proposals)) :
    p.source ∈ rules.map (·.name) := by
  obtain ⟨r, hr, hpr⟩ := List.mem_flatMap.mp hp
  rw [(ConvertedRule.of_mem_proposals hpr).1]
  exact List.mem_map_of_mem (eq_of_mem_conversionsOf hr).1

/-- The merges that the earlier rules lose are those that they lose among themselves. -/
theorem failuresOf_settledOf_append (registries : Registries) (settings : ConversionSettings)
    (hdistinct : ((earlier ++ later).map (·.name)).Nodup) :
    failuresOf (bears earlier) (settledOf registries settings (earlier ++ later)).failed =
      (settledOf registries settings earlier).failed := by
  rw [settledOf, conversionsOf_append, List.flatMap_append]
  apply failuresOf_settle_append
  · exact fun p hp => bears_iff.mpr (source_mem_names hp)
  · exact fun p hp => not_bears_of_later hdistinct (source_mem_names hp)

/-- The failures of the earlier rules are those of a conversion of them alone, in the
same order. -/
theorem failuresOf_convertRules_append (registries : Registries) (settings : ConversionSettings)
    (existing : Fields) (hdistinct : ((earlier ++ later).map (·.name)).Nodup) :
    failuresOf (bears earlier)
        (convertRules registries settings (earlier ++ later) existing).failed =
      (convertRules registries settings earlier existing).failed := by
  have hown : failuresOf (bears earlier)
      ((conversionsOf registries settings earlier).filterMap (·.failure?)) =
        (conversionsOf registries settings earlier).filterMap (·.failure?) := by
    apply failuresOf_eq_self
    intro f hf
    obtain ⟨r, hr, hfailure⟩ := List.mem_filterMap.mp hf
    rw [rule_of_failed hr (ConvertedRule.failure?_eq_some_iff.mp hfailure), bears_iff]
    exact List.mem_map_of_mem (eq_of_mem_conversionsOf hr).1
  have hothers : failuresOf (bears earlier)
      ((conversionsOf registries settings later).filterMap (·.failure?)) = [] := by
    apply failuresOf_eq_nil
    intro f hf
    obtain ⟨r, hr, hfailure⟩ := List.mem_filterMap.mp hf
    rw [rule_of_failed hr (ConvertedRule.failure?_eq_some_iff.mp hfailure)]
    exact not_bears_of_later hdistinct (List.mem_map_of_mem (eq_of_mem_conversionsOf hr).1)
  rw [failed_convertRules, failed_convertRules, conversionsOf_append, List.filterMap_append,
    failuresOf_append, failuresOf_append, hown, hothers,
    failuresOf_settledOf_append registries settings hdistinct, List.append_nil]

/-- What becomes of an earlier rule in the end does not depend on the later ones. -/
theorem finalStatus_append (hdistinct : ((earlier ++ later).map (·.name)).Nodup)
    {r : ConvertedRule} (hr : r ∈ conversionsOf registries settings earlier) :
    r.finalStatus (settledOf registries settings (earlier ++ later)).failed =
      r.finalStatus (settledOf registries settings earlier).failed := by
  have hname : bears earlier r.1.name = true :=
    bears_iff.mpr (List.mem_map_of_mem (eq_of_mem_conversionsOf hr).1)
  have hlost := failuresOf_settledOf_append registries settings hdistinct
  rw [ConvertedRule.finalStatus, ConvertedRule.finalStatus, ← hlost, hasFailed_failuresOf hname]

/-- Rules that are appended to others change neither the status of any of these nor the
failure that is reported for it, if there is one. They cannot make an earlier rule
fail, and they cannot rescue one that fails. -/
theorem convertRules_append_stable (registries : Registries) (settings : ConversionSettings)
    (earlier later : List SourceRule) (existing : Fields)
    (hdistinct : ((earlier ++ later).map (·.name)).Nodup) :
    let alone := convertRules registries settings earlier existing
    let whole := convertRules registries settings (earlier ++ later) existing
    ∀ rule ∈ earlier, whole.statusOf rule.name = alone.statusOf rule.name ∧
      whole.failed.filter (·.rule == rule.name) = alone.failed.filter (·.rule == rule.name) := by
  intro alone whole rule hrule
  have hfirst : (earlier.map (·.name)).Nodup :=
    ((List.sublist_append_left earlier later).map _).nodup hdistinct
  have hmem := mem_conversionsOf registries settings hrule
  have hmem' : (rule, convertRule registries.converters settings rule) ∈
      conversionsOf registries settings (earlier ++ later) :=
    mem_conversionsOf registries settings (List.mem_append_left _ hrule)
  constructor
  · have halone := statusIn_convertRules existing hfirst hmem
    have hwhole := statusIn_convertRules existing hdistinct hmem'
    rw [finalStatus_append hdistinct hmem] at hwhole
    exact hwhole.trans halone.symm
  · have hfailed : alone.failed = whole.failed.filter fun f => bears earlier f.rule :=
      (failuresOf_convertRules_append registries settings existing hdistinct).symm
    rw [hfailed, List.filter_filter]
    apply List.filter_congr
    intro f _
    by_cases hname : f.rule = rule.name
    · simp [hname, bears_iff.mpr (List.mem_map_of_mem hrule)]
    · simp [hname]

/-- The first rule of the dispute loses when it comes last, and the one that it would
have beaten does not notice. -/
theorem dispute_append_stable :
    let earlier := disputeRules.drop 1
    let later := disputeRules.take 1
    let rule : SourceRule := ⟨"jsx-quotemark", [.string "double"], .warn⟩
    let alone := convertRules disputeRegistries disputeSettings earlier []
    let whole := convertRules disputeRegistries disputeSettings (earlier ++ later) []
    ((earlier ++ later).map (·.name)).Nodup ∧ rule ∈ earlier ∧
      whole.statusOf "quotemark" = some .failed ∧
      whole.statusOf rule.name = alone.statusOf rule.name ∧
      whole.failed.filter (·.rule == rule.name) = alone.failed.filter (·.rule == rule.name) := by
  intro earlier later rule alone whole
  have hrule : rule ∈ earlier := by decide
  refine ⟨by decide, hrule, by decide +kernel, ?_⟩
  exact convertRules_append_stable disputeRegistries disputeSettings earlier later [] (by decide)
    rule hrule

end Relint
