import Relint.Comment.Conversion
import Relint.Proofs.Comment.Scan
import Relint.Proofs.Converter.Names

/-!
What a directive is replaced by. The new text has the opening and the keyword of the
directive, then perhaps the names of target rules, and at the end the blanks with which the
old list ended. Nothing in it opens another comment, so no directive starts in it.
-/

namespace Relint

variable {converters : ConverterRegistry} {settings : ConversionSettings}

namespace Text

theorem isBlank_of_mem_trailingBlanks {text : List Char} {c : Char}
    (h : c ∈ trailingBlanks text) : isBlank c = true :=
  List.mem_takeWhile_imp (List.mem_reverse.mp h)

end Text

/-- What holds of the name of every target rule that a converter may answer with holds of the
target rules of a word. -/
theorem of_mem_targetNames (property : String → Prop)
    (h : ∀ entry ∈ converters, ∀ ctx,
      Answers (fun c => ∀ t ∈ c.rules, property t.name) (entry.2 ctx))
    {name word : String} (hname : name ∈ targetNames converters settings word) :
    property name := by
  unfold targetNames at hname
  split at hname
  · rename_i c hconverted
    obtain ⟨convert, answer, hlookup, hanswer, rfl⟩ := convertRule_eq_converted_iff.mp hconverted
    obtain ⟨_, hmem, rfl⟩ := List.mem_map.mp hname
    obtain ⟨t, ht, rfl⟩ := List.mem_map.mp hmem
    exact h _ (Assoc.mem_of_lookup hlookup) _ answer hanswer t ht
  · cases hname
  · cases hname

namespace Directive

variable {d : Directive} {names : List String}

/-- The blanks at the end of the list of rules, if there is one. -/
def trailing (d : Directive) : List Char :=
  (d.rules.map Text.trailingBlanks).getD []

/-- A list of names behind a directive. -/
def namesText (names : List String) : List Char :=
  if names = [] then [] else ' ' :: joinNames names

theorem joinNames_singleton (name : String) : joinNames [name] = name.toList := by
  simp [joinNames, List.intercalate]

theorem joinNames_cons_cons (name next : String) (others : List String) :
    joinNames (name :: next :: others) =
      name.toList ++ ([',', ' '] ++ joinNames (next :: others)) := by
  simp [joinNames, List.intercalate]

/-- What is closed under appending and holds of the names and of what separates them holds
of all names together. -/
theorem joinNames_induction (property : List Char → Prop) (hnil : property [])
    (happend : ∀ first second, property first → property second → property (first ++ second))
    (hseparator : property [',', ' ']) (hnames : ∀ name ∈ names, property name.toList) :
    property (joinNames names) := by
  induction names with
  | nil => exact hnil
  | cons name rest ih =>
      have hrest := ih fun other hother => hnames other (List.mem_cons_of_mem _ hother)
      have hname := hnames name List.mem_cons_self
      cases rest with
      | nil => rwa [joinNames_singleton]
      | cons next others =>
          rw [joinNames_cons_cons]
          exact happend _ _ hname (happend _ _ hseparator hrest)

/-- The target rules of a word are named like rules. -/
theorem isRuleName_of_mem_targetNames {name word : String}
    (h : name ∈ targetNames .builtin settings word) : isRuleName name.toList = true := by
  have hchecks := of_mem_targetNames
    (fun name => Text.allBlank name.toList = false ∧ isRuleName name.toList = true)
    (fun _ hentry => names_builtin hentry) h
  exact hchecks.2

/-- The text that replaces a directive. -/
theorem replacement_eq_some {replacement : List Char}
    (h : (d.convert .builtin settings).replacement = some replacement) :
    ∃ names : List String, (∀ name ∈ names, isRuleName name.toList = true) ∧
      replacement = d.eslintStem ++ namesText names ++ d.trailing := by
  unfold convert at h
  split at h
  · rename_i hrules
    cases h
    exact ⟨[], by simp, by simp [namesText, trailing, hrules]⟩
  · rename_i rules hrules
    dsimp only at h
    split at h
    · cases h
      exact ⟨[], by simp, by simp [namesText, trailing, hrules]⟩
    · split at h
      · cases h
      · rename_i hsome
        cases h
        refine ⟨distinct ((ruleWords rules).flatMap (targetNames .builtin settings)), ?_, ?_⟩
        · intro name hname
          rw [mem_distinct, List.mem_flatMap] at hname
          obtain ⟨word, _, htarget⟩ := hname
          exact isRuleName_of_mem_targetNames htarget
        · rw [namesText, if_neg (by simpa using hsome)]
          simp [trailing, hrules]

/-- Only a directive with a list of rules can stay as it is. -/
theorem isSome_rules_of_replacement
    (h : (d.convert converters settings).replacement = none) : d.rules.isSome = true := by
  unfold convert at h
  split at h
  · cases h
  · rename_i hrules
    rw [hrules]
    rfl

/-- Whatever becomes of a directive begins with its opening. -/
theorem opening_prefix (settings : ConversionSettings) (d : Directive) :
    d.opening <+: (d.convert .builtin settings).replacement.getD d.text := by
  cases hreplacement : (d.convert .builtin settings).replacement with
  | none =>
      rw [Option.getD_none, text, List.append_assoc, List.append_assoc]
      exact List.prefix_append _ _
  | some replacement =>
      obtain ⟨names, _, rfl⟩ := replacement_eq_some hreplacement
      rw [Option.getD_some, eslintStem, List.append_assoc, List.append_assoc, List.append_assoc]
      exact List.prefix_append _ _

/-- The names of rules have a letter behind every slash. -/
theorem opensNothing_of_isRuleName {name : List Char} (h : isRuleName name = true) :
    opensNothing name = true := by
  fun_induction isRuleName name with
  | case1 => rfl
  | case2 => cases h
  | case3 c rest ih =>
      obtain ⟨hlower, hrest⟩ := Bool.and_eq_true_iff.mp h
      refine opensNothing_cons_iff.mpr ⟨fun _ => ⟨c, rest, rfl, ?_, ?_⟩, ih hrest⟩
      · rintro rfl
        exact absurd hlower (by decide)
      · rintro rfl
        exact absurd hlower (by decide)
  | case4 c rest _ _ ih =>
      obtain ⟨hc, hrest⟩ := Bool.and_eq_true_iff.mp h
      rw [opensNothing_cons, ih hrest]
      rintro rfl
      exact absurd hc (by decide)

theorem opensNothing_namesText (h : ∀ name ∈ names, isRuleName name.toList = true) :
    opensNothing (namesText names) = true := by
  have hjoined : opensNothing (joinNames names) = true := by
    apply joinNames_induction (fun text => opensNothing text = true) rfl
    · exact fun _ _ => opensNothing_append
    · decide
    · exact fun name hname => opensNothing_of_isRuleName (h name hname)
  unfold namesText
  split
  · rfl
  · rw [opensNothing_cons (by decide), hjoined]

theorem opensNothing_trailing (d : Directive) : opensNothing d.trailing = true := by
  apply opensNothing_of_not_mem
  intro hslash
  unfold trailing at hslash
  cases hrules : d.rules with
  | none => simp [hrules] at hslash
  | some rules =>
      have hmem : '/' ∈ Text.trailingBlanks rules := by simpa [hrules] using hslash
      exact absurd (Text.isBlank_of_mem_trailingBlanks hmem) (by decide)

/-- The stem of a directive is no directive itself. -/
theorem read?_eslintStem_append (h : IsOpening d.opening) (more : List Char) :
    read? (d.eslintStem ++ more) = none := by
  have hstem : d.eslintStem ++ more =
      d.opening ++ ("eslint-".toList ++ (d.kind.keyword.toList ++ more)) := by
    simp [eslintStem]
  rw [hstem, read?, readOpening?_append h (by simp [isGap])]
  rfl

/-- Behind its first character the stem of a directive opens nothing. -/
theorem exists_eslintStem_eq_cons (h : IsOpening d.opening) :
    ∃ behind, d.eslintStem = '/' :: behind ∧ opensNothing behind = true := by
  obtain ⟨c, gap, hc, hgap, hopening⟩ := h
  have hword : '/' ∉ "eslint-".toList ++ d.kind.keyword.toList := by
    cases d.kind <;> decide +kernel
  have hquiet : opensNothing (gap ++ ("eslint-".toList ++ d.kind.keyword.toList)) = true := by
    apply opensNothing_append
    · exact opensNothing_of_not_mem fun hslash => (not_opening_of_isGap (hgap _ hslash)).1 rfl
    · exact opensNothing_of_not_mem hword
  refine ⟨c :: (gap ++ ("eslint-".toList ++ d.kind.keyword.toList)), by simp [eslintStem, hopening],
    opensNothing_cons_iff.mpr ⟨fun _ => ?_, hquiet⟩⟩
  cases gap with
  | nil => exact ⟨'e', _, rfl, by decide, by decide⟩
  | cons g rest => exact ⟨g, _, rfl, not_opening_of_isGap (hgap g List.mem_cons_self)⟩

/-- A text that replaces a directive is all plain, whatever comes behind it. -/
theorem pieces_replacement (h : IsOpening d.opening) {replacement : List Char}
    (hreplacement : (d.convert .builtin settings).replacement = some replacement)
    (more : List Char) :
    pieces (replacement ++ more) = replacement.map .plain ++ pieces more := by
  obtain ⟨names, hnames, rfl⟩ := replacement_eq_some hreplacement
  obtain ⟨behind, hstem, hbehind⟩ := exists_eslintStem_eq_cons h
  have hquiet : opensNothing (behind ++ (namesText names ++ d.trailing)) = true :=
    opensNothing_append hbehind
      (opensNothing_append (opensNothing_namesText hnames) (opensNothing_trailing d))
  have hshape : d.eslintStem ++ namesText names ++ d.trailing =
      '/' :: (behind ++ (namesText names ++ d.trailing)) := by
    rw [hstem, List.append_assoc, List.cons_append]
  have hnone := read?_eslintStem_append h (namesText names ++ d.trailing ++ more)
  rw [hstem, List.cons_append, ← List.append_assoc] at hnone
  rw [hshape, List.cons_append, pieces_cons_of_read? hnone, pieces_append_of_opensNothing hquiet]
  rfl

end Directive

end Relint
