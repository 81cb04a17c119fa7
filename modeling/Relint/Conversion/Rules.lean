import Relint.Conversion.Results
import Relint.Merge.Settled

/-!
Converting a set of rules. Every source rule is converted on its own, the target
rules that come of it are merged, and what the existing configuration sets itself
is kept apart. A source rule that fails, be it late in a merge, contributes
nothing at all.
-/

namespace Relint

/-- The converters and the mergers that a conversion uses. -/
structure Registries where
  converters : ConverterRegistry
  mergers : MergerRegistry

/-- A source rule together with its conversion on its own. -/
abbrev ConvertedRule := SourceRule × RuleConversion

namespace ConvertedRule

def contribution? (r : ConvertedRule) : Option Contribution :=
  match r.2 with
  | .converted c => some c
  | _ => none

def failure? (r : ConvertedRule) : Option RuleFailure :=
  match r.2 with
  | .failed f => some f
  | _ => none

/-- The rule, if it has no converter. -/
def missing? (r : ConvertedRule) : Option SourceRule :=
  match r.2 with
  | .missing => some r.1
  | _ => none

def outcome (r : ConvertedRule) : RuleOutcome :=
  ⟨r.1.name,
    match r.2 with
    | .converted _ => .converted
    | .failed _ => .failed
    | .missing => .missing⟩

def proposals (r : ConvertedRule) : List Proposal :=
  match r.contribution? with
  | none => []
  | some c =>
      c.rules.map fun t =>
        ⟨r.1.name, t.name, t.arguments, t.severity.getD r.1.severity, t.notices⟩

end ConvertedRule

/-- A source rule's contribution under the name of the rule. -/
structure NamedContribution where
  rule : String
  contribution : Contribution

namespace NamedContribution

def ofConverted? (r : ConvertedRule) : Option NamedContribution :=
  r.contribution?.map fun c => ⟨r.1.name, c⟩

/-- The rule and the target rules it contributed, each once. -/
def equivalent (c : NamedContribution) : RuleEquivalent :=
  ⟨c.rule, distinct (c.contribution.rules.map (·.name))⟩

end NamedContribution

def markFailed (rule : String) : List RuleOutcome → List RuleOutcome
  | [] => []
  | o :: rest => if o.rule = rule then ⟨o.rule, .failed⟩ :: rest else o :: markFailed rule rest

def markAllFailed (outcomes : List RuleOutcome) (failed : List RuleFailure) :
    List RuleOutcome :=
  failed.foldl (fun outcomes f => markFailed f.rule outcomes) outcomes

/-- The conflict of a merged target rule with the existing rules, if there is one. -/
def conflict? (existing : Fields) (entry : String × RuleSettings) : Option RuleConflict :=
  (existing.lookup entry.1).map fun v => ⟨entry.1, v, entry.2⟩

/-- Converts a set of rules in order. A target rule that `existing` sets becomes a
conflict. -/
def convertRules (registries : Registries) (settings : ConversionSettings)
    (rules : List SourceRule) (existing : Fields) : ConversionResults :=
  let conversions : List ConvertedRule :=
    rules.map fun rule => (rule, convertRule registries.converters settings rule)
  let merged := settle registries.mergers (conversions.flatMap (·.proposals))
  let outcomes := markAllFailed (conversions.map (·.outcome)) merged.failed
  let surviving := (conversions.filterMap NamedContribution.ofConverted?).filter fun c =>
    statusIn outcomes c.rule == some .converted
  { converted := .ofList (merged.rules.toList.filter fun entry =>
      !Assoc.contains existing entry.1)
    failed := conversions.filterMap (·.failure?) ++ merged.failed
    missing := conversions.filterMap (·.missing?)
    presets := .ofList (surviving.flatMap (·.contribution.presets))
    plugins := .ofList (surviving.flatMap (·.contribution.plugins))
    conflicts := merged.rules.toList.filterMap (conflict? existing)
    equivalents := surviving.map (·.equivalent)
    outcomes := outcomes }

end Relint
