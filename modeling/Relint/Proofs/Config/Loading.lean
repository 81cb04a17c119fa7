import Relint.Config.Tslint
import Relint.Proofs.Assoc
import Relint.Proofs.Traversal
import Mathlib.Data.List.Nodup

/-!
What is loaded of a TSLint configuration that has the right shape. The shape says what the
entries of `rules` may be, but nothing about those of `jsRules`, and nothing about severities
inside entries. So loading can still fail, and it does exactly for an entry that is needed
and sets no rule; otherwise every needed entry sets one, in the order of the text.
-/

namespace Relint

namespace Schema

variable {path : List String} {v : Value}

theorem inOrder_eq_none_iff {checks : List Check} :
    inOrder checks path v = none ↔ ∀ check ∈ checks, check path v = none :=
  List.findSome?_eq_none_iff

theorem ofKind_eq_none_iff {kinds : List Kind} :
    ofKind kinds path v = none ↔ ∃ kind ∈ kinds, kind.holds v = true := by
  simp [ofKind]

theorem field_eq_none_iff {key : String} {check : Check} :
    field key check path v = none ↔
      ∀ item, v.field? key = some item → check (path ++ [key]) item = none := by
  cases h : v.field? key <;> simp [field, h]

theorem everyField_eq_none_iff {check : Check} {fields : Fields} :
    everyField check path (.object fields) = none ↔
      ∀ entry ∈ fields, check (path ++ [entry.1]) entry.2 = none := by
  simp [everyField, Value.object?]

/-- The severity that rules without one get is named by a known word. -/
theorem severityWord_eq_none (h : severityWord path v = none) :
    ∃ word severity, v = .string word ∧ Severity.ofWord? word = some severity := by
  cases v with
  | string word =>
      have hnamed : ∀ known ∈ ["error", "warning", "warn", "off", "none"],
          (Severity.ofWord? known).isSome = true := by decide
      rw [severityWord, ite_eq_left_iff] at h
      have hknown : ["error", "warning", "warn", "off", "none"].contains word = true :=
        not_not.mp (mt h (Option.some_ne_none _))
      obtain ⟨severity, hseverity⟩ :=
        Option.isSome_iff_exists.mp (hnamed word (List.contains_iff_mem.mp hknown))
      exact ⟨word, severity, rfl, hseverity⟩
  | null | bool | number | array | object => cases h

variable {root : Value}

/-- The checks that have a say in what is loaded: that of the default severity and that of
the rules. -/
theorem checks_of_valid (h : violation? root = none) :
    field "defaultSeverity" severityWord [] root = none ∧
      field "rules" (inOrder [ofKind [.object],
        everyField (ofKind [.array, .boolean, .null, .object])]) [] root = none := by
  simp only [violation?, tslint, inOrder_eq_none_iff, List.forall_mem_cons] at h
  obtain ⟨_, _, hseverity, _, hrules, _⟩ := h
  exact ⟨hseverity, hrules⟩

/-- The entries of `rules` are arrays, objects, switches or null. -/
theorem kind_of_rules {entry : String × Value} (h : violation? root = none)
    (hentry : entry ∈ TslintConfig.entriesOf root "rules") :
    ∃ kind ∈ [Kind.array, .boolean, .null, .object], kind.holds entry.2 = true := by
  have hfield := (checks_of_valid h).2
  rw [field_eq_none_iff] at hfield
  unfold TslintConfig.entriesOf at hentry
  cases hrules : root.field? "rules" with
  | none => simp [hrules] at hentry
  | some item =>
      rw [hrules, Option.bind_some] at hentry
      have hchecks := inOrder_eq_none_iff.mp (hfield item hrules)
      simp only [List.forall_mem_cons] at hchecks
      cases item with
      | object fields =>
          exact ofKind_eq_none_iff.mp (everyField_eq_none_iff.mp hchecks.2.1 entry hentry)
      | null | bool | number | string | array => simp [Value.object?] at hentry

end Schema

namespace SourceRule

/-- Whether an entry is an object with a severity that is not a string. -/
def hasUnreadableSeverity : Value → Bool
  | .object fields => (fields.lookup "severity").any (!·.isString)
  | _ => false

def isBareScalar : Value → Bool
  | .number _ | .string _ => true
  | _ => false

theorem objectSeverity_eq_error_iff (name : String) (fields : Fields) (level : Severity) :
    (∃ fault, objectSeverity name fields level = .error fault) ↔
      hasUnreadableSeverity (.object fields) = true := by
  unfold objectSeverity hasUnreadableSeverity
  split
  · rename_i hnone
    simp [hnone]
  · rename_i word hword
    simp [hword, Value.isString]
  · rename_i other hstring hother
    cases other <;> simp_all [Value.isString]

/-- The entries that set no rule are objects with an unreadable severity, numbers and
strings. -/
theorem ofEntry_eq_error_iff (name : String) (entry : Value) (level : Severity) :
    (∃ fault, ofEntry name entry level = .error fault) ↔
      hasUnreadableSeverity entry = true ∨ isBareScalar entry = true := by
  cases entry with
  | null | bool | number | string => simp [ofEntry, hasUnreadableSeverity, isBareScalar]
  | array items =>
      rcases items with _ | ⟨item, rest⟩
      · simp [ofEntry, hasUnreadableSeverity, isBareScalar]
      · cases item <;> simp [ofEntry, hasUnreadableSeverity, isBareScalar]
  | object fields =>
      rw [← objectSeverity_eq_error_iff name fields level, ofEntry]
      cases objectSeverity name fields level <;> simp [Except.map, isBareScalar]

theorem name_of_ofEntry {name : String} {entry : Value} {level : Severity} {rule : SourceRule}
    (h : ofEntry name entry level = .ok rule) : rule.name = name := by
  unfold ofEntry at h
  split at h
  · rw [← Except.ok.inj h]
  · rw [← Except.ok.inj h]
  · rw [← Except.ok.inj h]
  · rw [← Except.ok.inj h]
  · obtain ⟨severity, _, rfl⟩ := map_eq_ok_iff.mp h
    rfl
  · cases h

end SourceRule

namespace TslintConfig

open SourceRule

variable {root : Value} {config : TslintConfig}

/-- Whether a severity is the default of a configuration: the one that its word names, and
`error` where there is no word. -/
def ReadsDefault (root : Value) (severity : Severity) : Prop :=
  match root.field? "defaultSeverity" with
  | none => severity = .error
  | some v => ∃ word, v = .string word ∧ Severity.ofWord? word = some severity

theorem readsDefault_severityOf (h : Schema.violation? root = none) :
    ReadsDefault root (severityOf root) := by
  have hword := Schema.field_eq_none_iff.mp (Schema.checks_of_valid h).1
  unfold ReadsDefault severityOf
  cases hfield : root.field? "defaultSeverity" with
  | none => rfl
  | some v =>
      obtain ⟨word, severity, rfl, hseverity⟩ := Schema.severityWord_eq_none (hword v hfield)
      exact ⟨word, rfl, by simp [Value.string?, hseverity]⟩

/-- The entries of `jsRules` of which no entry of `rules` takes the place. -/
def unshadowed (root : Value) : Fields :=
  (entriesOf root "jsRules").filter fun entry => entry.1 ∉ Assoc.keys (entriesOf root "rules")

theorem mem_unshadowed {entry : String × Value} :
    entry ∈ unshadowed root ↔
      entry ∈ entriesOf root "jsRules" ∧ entry.1 ∉ Assoc.keys (entriesOf root "rules") := by
  simp [unshadowed]

theorem ruleEntries_eq (root : Value) :
    ruleEntries root = entriesOf root "rules" ++ unshadowed root := by
  have hshadowed : ∀ name, (!Assoc.contains (entriesOf root "rules") name) =
      decide (name ∉ Assoc.keys (entriesOf root "rules")) := by
    intro name
    rw [Bool.eq_iff_iff, Bool.not_eq_true', ← Bool.not_eq_true, Assoc.contains_iff_mem_keys,
      decide_eq_true_iff]
  simp only [ruleEntries, unshadowed, hshadowed]

/-- The names of the entries that set rules are different. -/
theorem nodup_keys_ruleEntries (hrules : (Assoc.keys (entriesOf root "rules")).Nodup)
    (hjsRules : (Assoc.keys (entriesOf root "jsRules")).Nodup) :
    (Assoc.keys (ruleEntries root)).Nodup := by
  rw [ruleEntries_eq, Assoc.keys_append]
  refine hrules.append (hjsRules.sublist (List.filter_sublist.map _)) ?_
  intro name hname hunshadowed
  obtain ⟨entry, hentry, rfl⟩ := List.mem_map.mp hunshadowed
  exact (mem_unshadowed.mp hentry).2 hname

/-- What loading makes of a configuration that it does not refuse: each entry of `rules` and
each unshadowed one of `jsRules` sets the rule of its name, in this order. -/
structure Loads (root : Value) (config : TslintConfig) : Prop where
  reads_default : ReadsDefault root config.defaultSeverity
  nodup_names : (config.rules.map (·.name)).Nodup
  names_eq : config.rules.map (·.name) =
    Assoc.keys (entriesOf root "rules") ++ Assoc.keys (unshadowed root)
  rules_eq : List.Forall₂
    (fun entry rule => ofEntry entry.1 entry.2 config.defaultSeverity = .ok rule)
    (entriesOf root "rules" ++ unshadowed root) config.rules

/-- The rules that the entries set, one for each. -/
def rulesOf (root : Value) : Except SettingFault (List SourceRule) :=
  (ruleEntries root).mapM fun entry => ofEntry entry.1 entry.2 (severityOf root)

theorem ofValue_eq (root : Value) :
    ofValue root = (rulesOf root).map fun rules =>
      { presets := Value.stringList (root.field? "extends")
        defaultSeverity := severityOf root
        rules := rules
        exclude := Value.stringList ((root.field? "linterOptions").bind (·.field? "exclude")) } :=
  rfl

theorem ofValue_eq_error_iff :
    (∃ fault, ofValue root = .error fault) ↔
      ∃ entry ∈ ruleEntries root,
        hasUnreadableSeverity entry.2 = true ∨ isBareScalar entry.2 = true := by
  have hanswer : (∃ fault, ofValue root = .error fault) ↔ ∃ fault, rulesOf root = .error fault := by
    rw [ofValue_eq]
    cases rulesOf root <;> simp [Except.map]
  simp only [hanswer, rulesOf, exists_mapM_eq_error_iff, ofEntry_eq_error_iff]

/-- The shape leaves no bare scalars among the entries of `rules`. -/
theorem not_isBareScalar_of_rules {entry : String × Value} (hvalid : Schema.violation? root = none)
    (hentry : entry ∈ entriesOf root "rules") : isBareScalar entry.2 = false := by
  have hkind := Schema.kind_of_rules hvalid hentry
  cases hvalue : entry.2 with
  | number | string => simp [hvalue, Schema.Kind.holds] at hkind
  | null | bool | array | object => rfl

theorem ofValue_eq_ok (h : ofValue root = .ok config) :
    config.defaultSeverity = severityOf root ∧
      List.Forall₂ (fun entry rule => ofEntry entry.1 entry.2 (severityOf root) = .ok rule)
        (ruleEntries root) config.rules := by
  rw [ofValue_eq] at h
  obtain ⟨rules, hrules, rfl⟩ := map_eq_ok_iff.mp h
  exact ⟨rfl, mapM_eq_ok_iff.mp hrules⟩

theorem names_of_forall₂ {entries : Fields} {rules : List SourceRule} {level : Severity}
    (h : List.Forall₂ (fun entry rule => ofEntry entry.1 entry.2 level = .ok rule) entries
      rules) : rules.map (·.name) = Assoc.keys entries := by
  induction h with
  | nil => rfl
  | cons hrule _ ih => rw [List.map_cons, ih, name_of_ofEntry hrule, Assoc.keys_cons]

theorem loads_of_ofValue (hvalid : Schema.violation? root = none)
    (hrules : (Assoc.keys (entriesOf root "rules")).Nodup)
    (hjsRules : (Assoc.keys (entriesOf root "jsRules")).Nodup)
    (h : ofValue root = .ok config) : Loads root config := by
  obtain ⟨hdefault, hset⟩ := ofValue_eq_ok h
  have hnames := names_of_forall₂ hset
  refine ⟨?_, ?_, ?_, ?_⟩
  · rw [hdefault]
    exact readsDefault_severityOf hvalid
  · rw [hnames]
    exact nodup_keys_ruleEntries hrules hjsRules
  · rw [hnames, ruleEntries_eq, Assoc.keys_append]
  · rw [← ruleEntries_eq, hdefault]
    exact hset

/-- A configuration of the right shape is refused exactly if an entry of `rules` has an
unreadable severity, or an unshadowed entry of `jsRules` does or is a bare scalar. Otherwise
its needed entries are loaded, all of them and nothing else. -/
theorem valid_config_loads (hvalid : Schema.violation? root = none)
    (hrules : (Assoc.keys (entriesOf root "rules")).Nodup)
    (hjsRules : (Assoc.keys (entriesOf root "jsRules")).Nodup) :
    ((∃ fault, ofValue root = .error fault) ↔
        (∃ entry ∈ entriesOf root "rules", hasUnreadableSeverity entry.2 = true) ∨
          ∃ entry ∈ entriesOf root "jsRules",
            entry.1 ∉ Assoc.keys (entriesOf root "rules") ∧
              (hasUnreadableSeverity entry.2 = true ∨ isBareScalar entry.2 = true)) ∧
      ∀ config, ofValue root = .ok config → Loads root config := by
  refine ⟨?_, fun config => loads_of_ofValue hvalid hrules hjsRules⟩
  have hscalar : ∀ entry ∈ entriesOf root "rules", isBareScalar entry.2 = false :=
    fun entry => not_isBareScalar_of_rules hvalid
  rw [ofValue_eq_error_iff, ruleEntries_eq]
  simp only [List.mem_append, or_and_right, exists_or, mem_unshadowed, and_assoc]
  refine or_congr_left ?_
  constructor
  · rintro ⟨entry, hentry, hbad | hbare⟩
    · exact ⟨entry, hentry, hbad⟩
    · rw [hscalar entry hentry] at hbare
      cases hbare
  · rintro ⟨entry, hentry, hbad⟩
    exact ⟨entry, hentry, Or.inl hbad⟩

/-- A configuration with rules for JavaScript, of which the first is shadowed and would set
no rule. -/
def shadowingConfig : Value :=
  .object [
    ("defaultSeverity", .string "warning"),
    ("rules", .object [
      ("semicolon", .array [.bool true, .string "always"]),
      ("curly", .object [("severity", .string "error")])]),
    ("jsRules", .object [
      ("semicolon", .string "always"),
      ("radix", .bool true)])]

/-- What is loaded of it. -/
def shadowingLoaded : TslintConfig where
  presets := []
  defaultSeverity := .warn
  rules := [⟨"semicolon", [.string "always"], .warn⟩, ⟨"curly", [], .error⟩, ⟨"radix", [], .warn⟩]
  exclude := []

theorem shadowingConfig_loads :
    (Schema.violation? shadowingConfig = none ∧
      (Assoc.keys (entriesOf shadowingConfig "rules")).Nodup ∧
      (Assoc.keys (entriesOf shadowingConfig "jsRules")).Nodup) ∧
    ofValue shadowingConfig = .ok shadowingLoaded ∧ Loads shadowingConfig shadowingLoaded := by
  have hshape : Schema.violation? shadowingConfig = none ∧
      (Assoc.keys (entriesOf shadowingConfig "rules")).Nodup ∧
      (Assoc.keys (entriesOf shadowingConfig "jsRules")).Nodup := by decide
  have hloaded : ofValue shadowingConfig = .ok shadowingLoaded := by decide
  exact ⟨hshape, hloaded,
    (valid_config_loads hshape.1 hshape.2.1 hshape.2.2).2 _ hloaded⟩

end TslintConfig

end Relint
