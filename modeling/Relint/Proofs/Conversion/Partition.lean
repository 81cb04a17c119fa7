import Relint.Proofs.Conversion.Status

/-!
The buckets of a conversion. Source rules with different names are divided among
the missing, the failed and the converted ones, and the status that is reported
for a rule is the bucket that has its name. The three lists are filled at
different times and by different criteria; what they share is the final status of
a rule, so each of them is compared with that and never with another list.
-/

namespace Relint

variable {registries : Registries} {settings : ConversionSettings} {rules : List SourceRule}
  {existing : Fields}

/-- Each source rule has one outcome, in the order of the rules, its status tells
which bucket has it, and no bucket has a name that another one has or that no
source rule bears. -/
structure ConversionResults.Partitions (results : ConversionResults)
    (rules : List SourceRule) : Prop where
  names_outcomes : results.outcomes.map (·.rule) = rules.map (·.name)
  statusOf_isSome : ∀ rule ∈ rules, (results.statusOf rule.name).isSome
  missing_iff : ∀ rule ∈ rules,
    results.statusOf rule.name = some .missing ↔ rule ∈ results.missing
  failed_iff : ∀ rule ∈ rules,
    results.statusOf rule.name = some .failed ↔
      (results.failed.map (·.rule)).count rule.name = 1
  converted_iff : ∀ rule ∈ rules,
    results.statusOf rule.name = some .converted ↔
      (results.equivalents.map (·.rule)).count rule.name = 1
  missing_disjoint_failed :
    (results.missing.map (·.name)).Disjoint (results.failed.map (·.rule))
  missing_disjoint_converted :
    (results.missing.map (·.name)).Disjoint (results.equivalents.map (·.rule))
  failed_disjoint_converted :
    (results.failed.map (·.rule)).Disjoint (results.equivalents.map (·.rule))
  missing_subset : results.missing.map (·.name) ⊆ rules.map (·.name)
  failed_subset : results.failed.map (·.rule) ⊆ rules.map (·.name)
  converted_subset : results.equivalents.map (·.rule) ⊆ rules.map (·.name)

/-- A source rule of this name ends with this status. -/
def EndsAs (registries : Registries) (settings : ConversionSettings) (rules : List SourceRule)
    (name : String) (status : RuleStatus) : Prop :=
  ∃ r ∈ conversionsOf registries settings rules,
    r.1.name = name ∧ r.finalStatus (settledOf registries settings rules).failed = status

theorem EndsAs.mem_names {name : String} {status : RuleStatus}
    (h : EndsAs registries settings rules name status) : name ∈ rules.map (·.name) := by
  obtain ⟨r, hr, hname, _⟩ := h
  exact List.mem_map.mpr ⟨r.1, (eq_of_mem_conversionsOf hr).1, hname⟩

/-- Rules with different names have one final status each. -/
theorem EndsAs.unique (hdistinct : (rules.map (·.name)).Nodup) {name : String}
    {first second : RuleStatus} (hfirst : EndsAs registries settings rules name first)
    (hsecond : EndsAs registries settings rules name second) : first = second := by
  obtain ⟨r, hr, hname, rfl⟩ := hfirst
  obtain ⟨r', hr', hname', rfl⟩ := hsecond
  rw [eq_of_name_eq hdistinct hr hr' (hname.trans hname'.symm)]

/-- Names that end differently cannot be the same. -/
theorem disjoint_of_endsAs (hdistinct : (rules.map (·.name)).Nodup) {xs ys : List String}
    {first second : RuleStatus} (hne : first ≠ second)
    (hxs : ∀ name ∈ xs, EndsAs registries settings rules name first)
    (hys : ∀ name ∈ ys, EndsAs registries settings rules name second) : xs.Disjoint ys := by
  intro name hx hy
  exact hne (EndsAs.unique hdistinct (hxs name hx) (hys name hy))

theorem statusOf_convertRules_iff (hdistinct : (rules.map (·.name)).Nodup) {name : String}
    {status : RuleStatus} (hname : name ∈ rules.map (·.name)) :
    (convertRules registries settings rules existing).statusOf name = some status ↔
      EndsAs registries settings rules name status := by
  obtain ⟨rule, hrule, rfl⟩ := List.mem_map.mp hname
  have hmem := mem_conversionsOf registries settings hrule
  have hstatus := statusIn_convertRules existing hdistinct hmem
  rw [ConversionResults.statusOf, hstatus, Option.some_inj]
  constructor
  · intro h
    exact ⟨_, hmem, rfl, h⟩
  · intro h
    exact EndsAs.unique hdistinct ⟨_, hmem, rfl, rfl⟩ h

section Buckets

theorem mem_missing_iff {rule : SourceRule} :
    rule ∈ (convertRules registries settings rules existing).missing ↔
      (rule, .missing) ∈ conversionsOf registries settings rules := by
  simp only [missing_convertRules, List.mem_filterMap, ConvertedRule.missing?_eq_some_iff]
  constructor
  · rintro ⟨⟨rule', conversion⟩, hr, rfl, rfl⟩
    exact hr
  · intro h
    exact ⟨_, h, rfl, rfl⟩

theorem endsAs_missing_iff (hdistinct : (rules.map (·.name)).Nodup) {name : String} :
    name ∈ (convertRules registries settings rules existing).missing.map (·.name) ↔
      EndsAs registries settings rules name .missing := by
  constructor
  · intro h
    obtain ⟨rule, hrule, rfl⟩ := List.mem_map.mp h
    have hmem := mem_missing_iff.mp hrule
    exact ⟨_, hmem, rfl, (finalStatus_eq_missing_iff hdistinct hmem).mpr rfl⟩
  · rintro ⟨⟨rule, conversion⟩, hr, rfl, hstatus⟩
    have hconversion : conversion = .missing :=
      (finalStatus_eq_missing_iff hdistinct hr).mp hstatus
    subst hconversion
    exact List.mem_map_of_mem (mem_missing_iff.mpr hr)

theorem endsAs_failed_iff {name : String} :
    name ∈ (convertRules registries settings rules existing).failed.map (·.rule) ↔
      EndsAs registries settings rules name .failed := by
  rw [failed_convertRules, List.map_append, List.mem_append]
  constructor
  · rintro (hrefused | hlost)
    · obtain ⟨f, hf, rfl⟩ := List.mem_map.mp hrefused
      obtain ⟨r, hr, hfailure⟩ := List.mem_filterMap.mp hf
      have hconversion := ConvertedRule.failure?_eq_some_iff.mp hfailure
      exact ⟨r, hr, (rule_of_failed hr hconversion).symm,
        (finalStatus_eq_failed_iff _).mpr (Or.inl ⟨f, hconversion⟩)⟩
    · have hlost := hasFailed_iff_mem.mpr hlost
      obtain ⟨r, hr, rfl, _⟩ := converted_of_lost hlost
      exact ⟨r, hr, rfl, (finalStatus_eq_failed_iff _).mpr (Or.inr hlost)⟩
  · rintro ⟨r, hr, rfl, hstatus⟩
    rcases (finalStatus_eq_failed_iff _).mp hstatus with ⟨f, hf⟩ | hlost
    · refine Or.inl (List.mem_map.mpr ⟨f, ?_, rule_of_failed hr hf⟩)
      exact List.mem_filterMap.mpr ⟨r, hr, ConvertedRule.failure?_eq_some_iff.mpr hf⟩
    · exact Or.inr (hasFailed_iff_mem.mp hlost)

theorem names_equivalents (hdistinct : (rules.map (·.name)).Nodup) :
    (convertRules registries settings rules existing).equivalents.map (·.rule) =
      (survivors registries settings rules).map (·.rule) := by
  rw [convertRules_eq existing hdistinct, List.map_map]
  rfl

theorem mem_survivors_iff {c : NamedContribution} :
    c ∈ survivors registries settings rules ↔
      ∃ r ∈ conversionsOf registries settings rules,
        hasFailed (settledOf registries settings rules).failed r.1.name = false ∧
          r.2 = .converted c.contribution ∧ r.1.name = c.rule := by
  simp only [survivors, List.mem_filterMap, List.mem_filter, Bool.not_eq_true',
    NamedContribution.ofConverted?_eq_some_iff, and_assoc]

theorem endsAs_converted_iff (hdistinct : (rules.map (·.name)).Nodup) {name : String} :
    name ∈ (convertRules registries settings rules existing).equivalents.map (·.rule) ↔
      EndsAs registries settings rules name .converted := by
  rw [names_equivalents hdistinct]
  constructor
  · intro h
    obtain ⟨c, hc, rfl⟩ := List.mem_map.mp h
    obtain ⟨r, hr, hkept, hconversion, hname⟩ := mem_survivors_iff.mp hc
    exact ⟨r, hr, hname, (finalStatus_eq_converted_iff _).mpr ⟨⟨_, hconversion⟩, hkept⟩⟩
  · rintro ⟨r, hr, rfl, hstatus⟩
    obtain ⟨⟨c, hc⟩, hkept⟩ := (finalStatus_eq_converted_iff _).mp hstatus
    exact List.mem_map.mpr ⟨⟨r.1.name, c⟩, mem_survivors_iff.mpr ⟨r, hr, hkept, hc, rfl⟩, rfl⟩

end Buckets

section Repetition

/-- Where a partial function keeps names, its values bear their names in the order of
the arguments. -/
theorem names_filterMap_sublist {α β : Type} {f : α → Option β} {name : α → String}
    {name' : β → String} {items : List α}
    (h : ∀ a ∈ items, ∀ b, f a = some b → name' b = name a) :
    ((items.filterMap f).map name').Sublist (items.map name) := by
  induction items with
  | nil => exact List.Sublist.slnil
  | cons a rest ih =>
      have htail := ih fun a' ha' => h a' (List.mem_cons_of_mem _ ha')
      rw [List.filterMap_cons, List.map_cons]
      cases hvalue : f a with
      | none => exact htail.cons _
      | some b =>
          rw [List.map_cons, h a List.mem_cons_self b hvalue]
          exact htail.cons_cons _

/-- A source rule that its converter refused proposes nothing, so it cannot lose a
merge as well. -/
theorem nodup_failed (hdistinct : (rules.map (·.name)).Nodup) :
    ((convertRules registries settings rules existing).failed.map (·.rule)).Nodup := by
  have hnames := nodup_conversionsOf registries settings hdistinct
  rw [failed_convertRules, List.map_append, List.nodup_append]
  refine ⟨?_, nodup_failed_settle, ?_⟩
  · refine (names_filterMap_sublist ?_).nodup hnames
    intro r hr f hf
    exact rule_of_failed hr (ConvertedRule.failure?_eq_some_iff.mp hf)
  · intro name hrefused other hlost heq
    subst heq
    obtain ⟨f, hf, rfl⟩ := List.mem_map.mp hrefused
    obtain ⟨r, hr, hfailure⟩ := List.mem_filterMap.mp hf
    have hconversion := ConvertedRule.failure?_eq_some_iff.mp hfailure
    rw [rule_of_failed hr hconversion, ← hasFailed_iff_mem] at hlost
    obtain ⟨c, hc⟩ := converted_of_hasFailed hdistinct hr hlost
    rw [hconversion] at hc
    cases hc

theorem nodup_equivalents (hdistinct : (rules.map (·.name)).Nodup) :
    ((convertRules registries settings rules existing).equivalents.map (·.rule)).Nodup := by
  have hnames := nodup_conversionsOf registries settings hdistinct
  rw [names_equivalents hdistinct, survivors]
  refine (names_filterMap_sublist ?_).nodup ((List.filter_sublist.map _).nodup hnames)
  intro r _ c hc
  exact (NamedContribution.ofConverted?_eq_some_iff.mp hc).2.symm

theorem count_eq_one_iff_mem {names : List String} (h : names.Nodup) {name : String} :
    names.count name = 1 ↔ name ∈ names := by
  constructor
  · intro hcount
    exact List.count_pos_iff.mp (by omega)
  · exact List.count_eq_one_of_mem h

end Repetition

/-- Converting source rules with different names partitions them, whatever the
converters and the mergers do and whatever the existing configuration sets. -/
theorem convertRules_partitions (registries : Registries) (settings : ConversionSettings)
    (rules : List SourceRule) (existing : Fields) (hdistinct : (rules.map (·.name)).Nodup) :
    (convertRules registries settings rules existing).Partitions rules where
  names_outcomes := by
    rw [outcomes_convertRules existing hdistinct, List.map_map]
    exact names_conversionsOf registries settings rules
  statusOf_isSome := by
    intro rule hrule
    have hstatus := statusIn_convertRules existing hdistinct
      (mem_conversionsOf registries settings hrule)
    rw [ConversionResults.statusOf, hstatus]
    rfl
  missing_iff := by
    intro rule hrule
    rw [statusOf_convertRules_iff hdistinct (List.mem_map_of_mem hrule), mem_missing_iff]
    constructor
    · rintro ⟨r, hr, hname, hstatus⟩
      obtain ⟨hmem, _⟩ := eq_of_mem_conversionsOf hr
      have hsame : r.1 = rule := List.inj_on_of_nodup_map hdistinct hmem hrule hname
      rw [← hsame, ← (finalStatus_eq_missing_iff hdistinct hr).mp hstatus]
      exact hr
    · intro h
      exact ⟨_, h, rfl, (finalStatus_eq_missing_iff hdistinct h).mpr rfl⟩
  failed_iff := by
    intro rule hrule
    rw [statusOf_convertRules_iff hdistinct (List.mem_map_of_mem hrule),
      count_eq_one_iff_mem (nodup_failed hdistinct), endsAs_failed_iff]
  converted_iff := by
    intro rule hrule
    rw [statusOf_convertRules_iff hdistinct (List.mem_map_of_mem hrule),
      count_eq_one_iff_mem (nodup_equivalents hdistinct), endsAs_converted_iff hdistinct]
  missing_disjoint_failed :=
    disjoint_of_endsAs hdistinct (by decide) (fun _ => (endsAs_missing_iff hdistinct).mp)
      fun _ => endsAs_failed_iff.mp
  missing_disjoint_converted :=
    disjoint_of_endsAs hdistinct (by decide) (fun _ => (endsAs_missing_iff hdistinct).mp)
      fun _ => (endsAs_converted_iff hdistinct).mp
  failed_disjoint_converted :=
    disjoint_of_endsAs hdistinct (by decide) (fun _ => endsAs_failed_iff.mp)
      fun _ => (endsAs_converted_iff hdistinct).mp
  missing_subset := fun _ h => ((endsAs_missing_iff hdistinct).mp h).mem_names
  failed_subset := fun _ h => (endsAs_failed_iff.mp h).mem_names
  converted_subset := fun _ h => ((endsAs_converted_iff hdistinct).mp h).mem_names

theorem dispute_partitions :
    (disputeRules.map (·.name)).Nodup ∧
    (convertRules disputeRegistries disputeSettings disputeRules []).statusOf "jsx-quotemark" =
      some .failed ∧
    (convertRules disputeRegistries disputeSettings disputeRules []).Partitions disputeRules := by
  refine ⟨by decide, by decide +kernel, ?_⟩
  exact convertRules_partitions disputeRegistries disputeSettings disputeRules [] (by decide)

end Relint
