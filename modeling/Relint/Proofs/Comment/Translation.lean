import Relint.Proofs.Assoc
import Relint.Proofs.Comment.Changed
import Relint.Proofs.Comment.Replacement
import Relint.Proofs.Text.Words

/-!
How a directive with a list of rules is translated. Its words are converted one by one, and
the names of their target rules are listed in its place, each once. Where no word has a
target the directive stays, because without a list it would speak of every rule. The words
that have no target are what is dropped.
-/

namespace Relint

variable {converters : ConverterRegistry} {settings : ConversionSettings}

/-- No converter ever answers with a target rule that has no name. -/
def ConverterRegistry.NamesTargets (converters : ConverterRegistry) : Prop :=
  ∀ entry ∈ converters, ∀ ctx, Answers (fun c => ∀ t ∈ c.rules, t.name ≠ "") (entry.2 ctx)

/-- No converter ever answers with a target rule whose name is all blank. -/
def ConverterRegistry.ShowsTargets (converters : ConverterRegistry) : Prop :=
  ∀ entry ∈ converters, ∀ ctx,
    Answers (fun c => ∀ t ∈ c.rules, Text.allBlank t.name.toList = false) (entry.2 ctx)

theorem ConverterRegistry.ShowsTargets.namesTargets (h : converters.ShowsTargets) :
    converters.NamesTargets := by
  intro entry hentry ctx c hanswer t ht hempty
  have hshows := h entry hentry ctx c hanswer t ht
  rw [hempty] at hshows
  exact absurd hshows (by decide)

/-- The names of all target rules of the built-in converters can be seen. -/
theorem ConverterRegistry.showsTargets_builtin : ConverterRegistry.builtin.ShowsTargets := by
  intro entry hentry ctx c hanswer t ht
  exact (names_builtin hentry ctx c hanswer t ht).1

namespace Directive

variable {d : Directive}

/-- The words in the list of rules of a directive. -/
def listed (d : Directive) : List String :=
  (((d.rules.getD []).splitOnP Text.isBlank).filter (!·.isEmpty)).map String.ofList

/-- The target rules of the words of a directive, each where it first comes up. -/
def targets (converters : ConverterRegistry) (settings : ConversionSettings) (d : Directive) :
    List String :=
  (d.listed.flatMap (targetNames converters settings)).eraseDups

/-- The directive has only blanks behind its keyword, so that it speaks of every rule. -/
def Bare (d : Directive) (text : List Char) : Prop :=
  ∃ blanks, (∀ c ∈ blanks, Text.isBlank c = true) ∧ text = d.eslintStem ++ blanks

/-- What may become of a directive that lists some words. -/
inductive Translates (converters : ConverterRegistry) (settings : ConversionSettings)
    (d : Directive) : List Char → Prop
  | kept (hnone : d.targets converters settings = []) : Translates converters settings d d.text
  | listed {names : List Char} (hsome : d.targets converters settings ≠ []) (hnames : names ≠ [])
      (hjoined : names = [',', ' '].intercalate
        ((d.targets converters settings).map String.toList)) :
      Translates converters settings d
        (d.opening ++ "eslint-".toList ++ d.kind.keyword.toList ++ ' ' :: names ++ d.trailing)

theorem exists_word_of_mem_targets {name : String} (h : name ∈ d.targets converters settings) :
    ∃ word, name ∈ targetNames converters settings word := by
  rw [targets, List.mem_eraseDups, List.mem_flatMap] at h
  obtain ⟨word, _, hword⟩ := h
  exact ⟨word, hword⟩

theorem listed_of_rules {rules : List Char} (h : d.rules = some rules) :
    d.listed = ruleWords rules := by
  rw [listed, ruleWords, Text.words_eq_splitOnP, h, Option.getD_some]

theorem listed_of_rules_none (h : d.rules = none) : d.listed = [] := by
  rw [listed, h]
  rfl

/-- The words without target are dropped, whatever becomes of the directive. -/
theorem dropped_convert (converters : ConverterRegistry) (settings : ConversionSettings)
    (d : Directive) : (d.convert converters settings).dropped =
      d.listed.filter fun word => (targetNames converters settings word).isEmpty := by
  cases hrules : d.rules with
  | none => simp [convert, hrules, listed_of_rules_none hrules]
  | some rules =>
      rw [listed_of_rules hrules]
      simp only [convert, hrules]
      split
      · rfl
      · split <;> rfl

theorem replacement_of_not_listed (h : d.listed = []) :
    (d.convert converters settings).replacement = some (d.eslintStem ++ d.trailing) := by
  cases hrules : d.rules with
  | none => simp [convert, trailing, hrules]
  | some rules =>
      rw [listed_of_rules hrules] at h
      simp [convert, trailing, hrules, h]

/-- What replaces a directive that lists words, if anything does. -/
theorem replacement_of_listed (h : d.listed ≠ []) :
    (d.convert converters settings).replacement =
      if d.targets converters settings = [] then none
      else some (d.eslintStem ++ [' '] ++ joinNames (d.targets converters settings) ++
        d.trailing) := by
  cases hrules : d.rules with
  | none => exact absurd (listed_of_rules_none hrules) h
  | some rules =>
      have htargets : distinct ((ruleWords rules).flatMap (targetNames converters settings)) =
          d.targets converters settings := by
        rw [distinct_eq_eraseDups, targets, listed_of_rules hrules]
      have hwords : ruleWords rules ≠ [] := by
        rw [← listed_of_rules hrules]
        exact h
      have htrailing : Text.trailingBlanks rules = d.trailing := by simp [trailing, hrules]
      simp only [convert, hrules, htargets, htrailing, List.isEmpty_iff, if_neg hwords]
      split <;> rfl

/-- A directive stays as it is if and only if it lists words and none has a target. -/
theorem replacement_eq_none_iff : (d.convert converters settings).replacement = none ↔
    d.listed ≠ [] ∧ d.targets converters settings = [] := by
  by_cases hlisted : d.listed = []
  · simp [replacement_of_not_listed hlisted, hlisted]
  · rw [replacement_of_listed hlisted]
    split <;> simp_all

theorem mem_joinNames {names : List String} {name : String} {c : Char} (hname : name ∈ names)
    (hc : c ∈ name.toList) : c ∈ joinNames names := by
  induction names with
  | nil => cases hname
  | cons first rest ih =>
      cases rest with
      | nil =>
          obtain rfl := List.mem_singleton.mp hname
          rwa [joinNames_singleton]
      | cons second others =>
          rw [joinNames_cons_cons]
          rcases List.mem_cons.mp hname with rfl | hrest
          · exact List.mem_append_left _ hc
          · exact List.mem_append_right _ (List.mem_append_right _ (ih hrest))

/-- A directive that lists words is translated. -/
theorem translates_of_listed (d : Directive) (settings : ConversionSettings)
    (hconverters : converters.NamesTargets) (h : d.listed ≠ []) :
    d.Translates converters settings (d.translated converters settings) := by
  rw [translated, replacement_of_listed h]
  split
  · rename_i hnone
    exact .kept hnone
  · rename_i hsome
    obtain ⟨name, hname⟩ := List.exists_mem_of_ne_nil _ hsome
    have hnonempty : name.toList ≠ [] := by
      obtain ⟨word, hword⟩ := exists_word_of_mem_targets hname
      rw [ne_eq, String.toList_eq_nil_iff]
      exact of_mem_targetNames (· ≠ "") hconverters hword
    obtain ⟨c, hc⟩ := List.exists_mem_of_ne_nil _ hnonempty
    have hnames : joinNames (d.targets converters settings) ≠ [] :=
      List.ne_nil_of_mem (mem_joinNames hname hc)
    have htranslated := Translates.listed hsome hnames rfl
    rw [Option.getD_some]
    simpa [eslintStem] using htranslated

theorem not_bare_text (d : Directive) : ¬d.Bare d.text := by
  rintro ⟨blanks, _, htext⟩
  apply d.eslintStem_append_ne blanks []
  rw [List.append_nil, htext]

/-- A directive that lists words gets no bare one in its place, unless its only target has
nothing but blanks for a name. -/
theorem Translates.of_bare {written : List Char}
    (h : d.Translates converters settings written) (hbare : d.Bare written) :
    ∃ name, d.targets converters settings = [name] ∧
      ∀ c ∈ name.toList, Text.isBlank c = true := by
  cases h with
  | kept hnone => exact absurd hbare d.not_bare_text
  | @listed names hsome _ hjoined =>
      obtain ⟨blanks, hblanks, hwritten⟩ := hbare
      have hbehind : ' ' :: names ++ d.trailing = blanks := by
        simpa [eslintStem] using hwritten
      have hnames : ∀ c ∈ joinNames (d.targets converters settings), Text.isBlank c = true := by
        intro c hc
        apply hblanks
        rw [← hbehind, hjoined]
        exact List.mem_append_left _ (List.mem_cons_of_mem _ hc)
      cases htargets : d.targets converters settings with
      | nil => exact absurd htargets hsome
      | cons name rest =>
          rw [htargets] at hnames
          refine ⟨name, ?_, fun c hc => hnames c (mem_joinNames List.mem_cons_self hc)⟩
          cases rest with
          | nil => rfl
          | cons second others =>
              -- Two names have a comma between them.
              have hcomma : Text.isBlank ',' = true := by
                apply hnames
                rw [joinNames_cons_cons]
                simp
              exact absurd hcomma (by decide)

/-- A directive that lists words never gets a bare one in its place if no target rule has
nothing but blanks for a name. -/
theorem Translates.not_bare {written : List Char} (h : d.Translates converters settings written)
    (hshows : ∀ name ∈ d.targets converters settings, Text.allBlank name.toList = false) :
    ¬d.Bare written := by
  intro hbare
  obtain ⟨name, htargets, hblank⟩ := h.of_bare hbare
  have hallBlank : Text.allBlank name.toList = true := List.all_eq_true.mpr hblank
  have hshown := hshows name (by simp [htargets])
  rw [hallBlank] at hshown
  cases hshown

end Directive

/-- What comes of a text that is cut at its directives. Each one that lists words is
translated; where no word has a target it is counted as unchanged. It is made to speak of
every rule only if its only target has nothing but blanks for a name. What is dropped are the
words without target, each where it first comes up. -/
structure Cut.TranslatesTo (converters : ConverterRegistry) (settings : ConversionSettings)
    (cut : Cut) (result : CommentConversion) : Prop where
  content : ∃ write : Directive → List Char, result.content.toList = cut.textWith write ∧
    ∀ d ∈ cut.directives, d.listed ≠ [] →
      d.Translates converters settings (write d) ∧
        (d.Bare (write d) → ∃ name, d.targets converters settings = [name] ∧
          ∀ c ∈ name.toList, Text.isBlank c = true)
  unchanged : result.unchanged = cut.directives.countP fun d =>
    d.listed ≠ [] ∧ d.targets converters settings = []
  droppedRules : result.droppedRules = ((cut.directives.flatMap (·.listed)).filter fun word =>
    (targetNames converters settings word).isEmpty).eraseDups

/-- Directives are translated exactly, wherever they are in a text and whatever the
converters are, as long as these name the target rules that they answer with. -/
theorem convertComments_translates (hconverters : converters.NamesTargets)
    (settings : ConversionSettings) (text : String) :
    ∃ cut : Cut, (∀ other : Cut, other.Cuts text.toList ↔ other = cut) ∧
      cut.TranslatesTo converters settings (convertComments converters settings text) := by
  obtain ⟨cut, hcut, hunique⟩ := Cut.exists_cuts text.toList
  refine ⟨cut, hunique, ⟨Directive.translated converters settings, content_eq_textWith hcut, ?_⟩,
    ?_, ?_⟩
  · intro d _ hlisted
    have htranslates := d.translates_of_listed settings hconverters hlisted
    exact ⟨htranslates, htranslates.of_bare⟩
  · rw [unchanged_eq_countP hcut]
    apply List.countP_congr
    intro d _
    rw [Option.isNone_iff_eq_none, Directive.replacement_eq_none_iff, decide_eq_true_eq]
  · rw [droppedRules_eq_distinct hcut, distinct_eq_eraseDups, List.filter_flatMap]
    simp only [Directive.dropped_convert]

/-- Converters of which two have a target rule in common and one refuses. -/
def anyConverters : ConverterRegistry := [
  ("no-any", fun _ => .ok (.ofRule (.named "@typescript-eslint/no-explicit-any"))),
  ("no-unsafe-any", fun _ => .ok (.ofRules [.named "@typescript-eslint/no-unsafe-call",
    .named "@typescript-eslint/no-explicit-any"])),
  ("whitespace", fun _ => .error "No whitespace settings.")]

theorem anyConverters_translate :
    anyConverters.NamesTargets ∧
    let text := "// tslint:disable:no-any no-unsafe-any typedef \n" ++
      "/* tslint:enable:whitespace typedef */"
    (∃ cut : Cut, (∀ other : Cut, other.Cuts text.toList ↔ other = cut) ∧
      cut.TranslatesTo anyConverters ⟨false, false⟩
        (convertComments anyConverters ⟨false, false⟩ text)) ∧
    convertComments anyConverters ⟨false, false⟩ text =
      ⟨"// eslint-disable @typescript-eslint/no-explicit-any, " ++
        "@typescript-eslint/no-unsafe-call \n/* tslint:enable:whitespace typedef */",
        1, 1, ["typedef", "whitespace"]⟩ := by
  have hconverters : anyConverters.NamesTargets := by
    simp [ConverterRegistry.NamesTargets, anyConverters, Contribution.ofRule,
      Contribution.ofRules]
  exact ⟨hconverters, convertComments_translates hconverters ⟨false, false⟩ _, by decide +kernel⟩

/-- Where the names of all target rules can be seen, no directive in a text that lists words is
made to speak of every rule. -/
theorem convertComments_never_bare (hconverters : converters.ShowsTargets)
    (settings : ConversionSettings) {text : String} {cut : Cut} (hcut : cut.Cuts text.toList) :
    (convertComments converters settings text).content.toList =
        cut.textWith (Directive.translated converters settings) ∧
      ∀ d ∈ cut.directives, d.listed ≠ [] →
        ¬d.Bare (d.translated converters settings) := by
  refine ⟨content_eq_textWith hcut, ?_⟩
  intro d _ hlisted
  have htranslates := d.translates_of_listed settings hconverters.namesTargets hlisted
  apply htranslates.not_bare
  intro name hname
  obtain ⟨word, hword⟩ := Directive.exists_word_of_mem_targets hname
  exact of_mem_targetNames (Text.allBlank ·.toList = false) hconverters hword

/-- The built-in converters never make a directive with a list speak of every rule. -/
theorem convertComments_builtin_never_bare (settings : ConversionSettings) {text : String}
    {cut : Cut} (hcut : cut.Cuts text.toList) :
    ∀ d ∈ cut.directives, d.listed ≠ [] →
      ¬d.Bare (d.translated .builtin settings) :=
  (convertComments_never_bare ConverterRegistry.showsTargets_builtin settings hcut).2

end Relint
