import Relint.Proofs.Comment.Rerun
import Relint.Proofs.Text.Line
import Mathlib.Data.List.Forall2

/-!
What the conversion of comments does to the lines of a text. A directive should not touch
any line but its own. Its list of rules ends only at a line feed or a star, however, so that
with another line end the list goes on in the next line, and where it is replaced that
line end is lost. Only then are the lines not kept.
-/

namespace Relint

open Text

variable {settings : ConversionSettings} {text text' : List Char}

/-- A directive starts in the line. -/
def Text.Line.HasDirective (line : Line) : Prop :=
  ∃ rest, rest <:+ line.content ∧ (Directive.read? rest).isSome = true

/-- The second line ends like the first one, and it is the same if no directive starts
there. -/
structure Text.Line.Keeps (line line' : Line) : Prop where
  terminator_eq : line'.terminator = line.terminator
  content_eq : ¬line.HasDirective → line'.content = line.content

/-- Both texts have the same number of lines, with the same ends, and all lines without a
directive are the same. -/
def LinesKept (text text' : List Char) : Prop :=
  List.Forall₂ Line.Keeps (lines text) (lines text')

/-- The list of rules of the directive goes on behind a line end. The blanks at its end do
not count, because they are kept. -/
def Directive.SpansLines (d : Directive) : Prop :=
  ∃ rules ∈ d.rules, lineEnds (trimEnd rules) ≠ []

/-- No directive is replaced that spans lines. -/
def ReplacesWithinLines (settings : ConversionSettings) (text : List Char) : Prop :=
  ∀ d, .directive d ∈ pieces text → (d.convert .builtin settings).replacement.isSome = true →
    ¬d.SpansLines

section Kept

/-- Texts whose lines are kept also when something is put in front of both. -/
structure LinesAligned (text text' : List Char) : Prop where
  head?_eq : text'.head? = text.head?
  kept : LinesKept text text'

theorem Text.Line.Keeps.pushFront {line line' : Line} (h : line.Keeps line') (c : Char) :
    Line.Keeps ⟨c :: line.content, line.terminator⟩ ⟨c :: line'.content, line'.terminator⟩ := by
  refine ⟨h.terminator_eq, ?_⟩
  intro hnone
  rw [h.content_eq]
  rintro ⟨rest, hsuffix, hread⟩
  exact hnone ⟨rest, hsuffix.trans (List.suffix_cons _ _), hread⟩

theorem linesAligned_nil : LinesAligned [] [] :=
  ⟨rfl, .cons ⟨rfl, fun _ => rfl⟩ .nil⟩

/-- A carriage return in front of a text joins a line feed with which the text begins, so
both texts have to begin alike. -/
theorem LinesAligned.cons (h : LinesAligned text text') (c : Char) :
    LinesAligned (c :: text) (c :: text') := by
  refine ⟨rfl, ?_⟩
  have hkept := h.kept
  unfold LinesKept at hkept ⊢
  by_cases hreturn : c = '\r' ∧ text.head? = some '\n'
  · obtain ⟨rfl, hfeed⟩ := hreturn
    obtain ⟨rest, rfl⟩ : ∃ rest, text = '\n' :: rest := by
      cases text <;> simp_all
    obtain ⟨rest', rfl⟩ : ∃ rest', text' = '\n' :: rest' := by
      have hhead := h.head?_eq
      cases text' <;> simp_all
    rw [lines_cons (by simp), lines_cons (by simp)] at hkept
    rw [lines, lines]
    exact .cons ⟨rfl, fun _ => rfl⟩ (List.forall₂_cons.mp hkept).2
  · have hreturn' : ¬(c = '\r' ∧ text'.head? = some '\n') := by
      rw [h.head?_eq]
      exact hreturn
    rw [lines_cons hreturn, lines_cons hreturn']
    split
    · exact .cons ⟨rfl, fun _ => rfl⟩ hkept
    · obtain ⟨line, rest, hlines⟩ := exists_lines_eq_cons text
      obtain ⟨line', rest', hlines'⟩ := exists_lines_eq_cons text'
      rw [hlines, hlines'] at hkept ⊢
      obtain ⟨hfirst, hrest⟩ := List.forall₂_cons.mp hkept
      exact .cons (hfirst.pushFront c) hrest

theorem LinesAligned.append (h : LinesAligned text text') (before : List Char) :
    LinesAligned (before ++ text) (before ++ text') := by
  induction before with
  | nil => exact h
  | cons c before ih => exact ih.cons c

/-- A directive within a line may be replaced within the line. -/
theorem LinesAligned.replace (h : LinesAligned text text') {c : Char} {old new : List Char}
    (hfirst : old.head? = some c) (hfirst' : new.head? = some c) (hold : lineEnds old = [])
    (hnew : lineEnds new = []) (hread : ∀ more, (Directive.read? (old ++ more)).isSome = true) :
    LinesAligned (old ++ text) (new ++ text') := by
  refine ⟨by simp [List.head?_append, hfirst, hfirst'], ?_⟩
  have hkept := h.kept
  unfold LinesKept at hkept ⊢
  obtain ⟨line, rest, hlines⟩ := exists_lines_eq_cons text
  obtain ⟨line', rest', hlines'⟩ := exists_lines_eq_cons text'
  rw [lines_append hold hlines, lines_append hnew hlines']
  rw [hlines, hlines'] at hkept
  obtain ⟨hline, hrest⟩ := List.forall₂_cons.mp hkept
  refine .cons ⟨hline.terminator_eq, ?_⟩ hrest
  intro hnone
  exact absurd ⟨_, List.suffix_refl _, hread _⟩ hnone

theorem LinesKept.lineEnds_eq (h : LinesKept text text') : lineEnds text' = lineEnds text := by
  rw [← terminators_lines text, ← terminators_lines text']
  unfold LinesKept at h
  generalize lines text = before, lines text' = after at h ⊢
  induction h with
  | nil => rfl
  | cons hline _ ih => rw [List.flatMap_cons, List.flatMap_cons, hline.terminator_eq, ih]

end Kept

namespace Directive

variable {d : Directive}

/-- A directive up to the blanks at the end of its list of rules. -/
def body (d : Directive) : List Char :=
  d.opening ++ directiveMark ++ d.kind.keyword.toList ++ rulesText (d.rules.map trimEnd)

theorem text_eq_body_append (d : Directive) : d.text = d.body ++ d.trailing := by
  obtain ⟨opening, kind, rules⟩ := d
  cases rules with
  | none => simp [text, body, trailing, rulesText]
  | some rules =>
      simp [text, body, trailing, rulesText, trimEnd_append_trailingBlanks]

theorem isSome_read?_body_append (h : IsOpening d.opening) (more : List Char) :
    (read? (d.body ++ more)).isSome = true := by
  refine isSome_read?_iff.mpr ⟨_, ⟨d.opening, d.kind, h, rfl⟩, ?_⟩
  rw [body, List.append_assoc _ (rulesText _)]
  exact List.prefix_append _ _

theorem lineEnds_opening (h : IsOpening d.opening) : lineEnds d.opening = [] := by
  obtain ⟨c, gap, hc, hgap, hopening⟩ := h
  rw [hopening, lineEnds_eq_nil_iff]
  simp only [List.forall_mem_cons]
  refine ⟨by decide, ?_, ?_⟩
  · rcases hc with rfl | rfl <;> decide
  · intro g hg
    have hblank := hgap g hg
    simp only [isGap, Bool.or_eq_true, beq_iff_eq] at hblank
    rcases hblank with rfl | rfl <;> decide

theorem lineEnds_body (h : IsOpening d.opening) :
    lineEnds d.body = lineEnds ((d.rules.map trimEnd).getD []) := by
  have hkeyword : lineEnds (directiveMark ++ d.kind.keyword.toList) = [] := by
    cases d.kind <;> decide +kernel
  rw [body, List.append_assoc d.opening, lineEnds_append, lineEnds_append, lineEnds_opening h,
    hkeyword]
  cases d.rules <;> rfl

theorem lineEnds_body_eq_nil_iff (h : IsOpening d.opening) :
    lineEnds d.body = [] ↔ ¬d.SpansLines := by
  rw [lineEnds_body h, SpansLines]
  cases d.rules <;> simp

theorem lineEnds_eslintStem (h : IsOpening d.opening) : lineEnds d.eslintStem = [] := by
  have hkeyword : lineEnds ("eslint-".toList ++ d.kind.keyword.toList) = [] := by
    cases d.kind <;> decide +kernel
  rw [eslintStem, List.append_assoc, lineEnds_append, lineEnds_opening h, hkeyword]
  rfl

theorem lineEnds_of_isRuleName {name : List Char} (h : isRuleName name = true) :
    lineEnds name = [] := by
  fun_induction isRuleName name with
  | case1 => rfl
  | case2 => cases h
  | case3 c rest ih =>
      rw [lineEnds_cons (by decide), ih (Bool.and_eq_true_iff.mp h).2]
  | case4 c rest _ _ ih =>
      obtain ⟨hc, hrest⟩ := Bool.and_eq_true_iff.mp h
      have hplain : isLineEnd c = false := by
        rw [Bool.eq_false_iff]
        intro hend
        simp only [isLineEnd, Bool.or_eq_true, beq_iff_eq] at hend
        rcases hend with ((rfl | rfl) | rfl) | rfl <;> exact absurd hc (by decide)
      rw [lineEnds_cons hplain, ih hrest]

theorem lineEnds_namesText {names : List String}
    (h : ∀ name ∈ names, isRuleName name.toList = true) : lineEnds (namesText names) = [] := by
  have hjoined : lineEnds (joinNames names) = [] := by
    apply joinNames_induction (fun text => lineEnds text = []) rfl
    · intro first second hfirst hsecond
      rw [lineEnds_append, hfirst, hsecond, List.append_nil]
    · decide
    · exact fun name hname => lineEnds_of_isRuleName (h name hname)
  unfold namesText
  split
  · rfl
  · rw [← List.singleton_append, lineEnds_append, hjoined]
    decide

/-- What replaces a directive has no line end but among the blanks that are kept. -/
theorem lineEnds_replacement (h : IsOpening d.opening) {replacement : List Char}
    (hreplacement : (d.convert .builtin settings).replacement = some replacement) :
    ∃ new, replacement = new ++ d.trailing ∧ new.head? = some '/' ∧ lineEnds new = [] := by
  obtain ⟨names, hnames, rfl⟩ := replacement_eq_some hreplacement
  refine ⟨d.eslintStem ++ namesText names, rfl, ?_, ?_⟩
  · obtain ⟨behind, hstem, _⟩ := exists_eslintStem_eq_cons h
    rw [hstem]
    rfl
  · rw [lineEnds_append, lineEnds_eslintStem h, lineEnds_namesText hnames]
    rfl

theorem head?_body (h : IsOpening d.opening) : d.body.head? = some '/' := by
  obtain ⟨c, gap, _, _, hopening⟩ := h
  rw [body, hopening]
  rfl

end Directive

/-- Where no directive is replaced that spans lines, the lines are kept. -/
theorem linesAligned_convertedText (h : ReplacesWithinLines settings text) :
    LinesAligned text (convertedText settings text) := by
  unfold ReplacesWithinLines at h
  fun_induction pieces text with
  | case1 text d rest hread ih =>
      have haligned := ih fun d' hd' => h d' (List.mem_cons_of_mem _ hd')
      have hopening := (Directive.readsBefore_of_read? hread).opening
      rw [convertedText_of_read? hread, (Directive.read?_eq_some hread).1]
      cases hreplacement : (d.convert .builtin settings).replacement with
      | none => exact haligned.append d.text
      | some replacement =>
          have hwithin : lineEnds d.body = [] := by
            rw [Directive.lineEnds_body_eq_nil_iff hopening]
            exact h d List.mem_cons_self (by rw [hreplacement]; rfl)
          obtain ⟨new, rfl, hnew, hends⟩ := Directive.lineEnds_replacement hopening hreplacement
          rw [Option.getD_some, Directive.text_eq_body_append, List.append_assoc,
            List.append_assoc]
          exact (haligned.append d.trailing).replace (Directive.head?_body hopening) hnew hwithin
            hends (Directive.isSome_read?_body_append hopening)
  | case2 hread =>
      rw [convertedText_nil]
      exact linesAligned_nil
  | case3 c rest hread ih =>
      rw [convertedText_cons hread]
      exact (ih fun d hd => h d (List.mem_cons_of_mem _ hd)).cons c

/-- No line end is added, and where as many are left as there were, no directive has been
replaced that spans lines. -/
theorem length_lineEnds_convertedText (settings : ConversionSettings) (text : List Char) :
    (lineEnds (convertedText settings text)).length ≤ (lineEnds text).length ∧
      ((lineEnds (convertedText settings text)).length = (lineEnds text).length →
        ReplacesWithinLines settings text) := by
  unfold ReplacesWithinLines
  fun_induction pieces text with
  | case1 text d rest hread ih =>
      obtain ⟨hfewer, hsame⟩ := ih
      have hopening := (Directive.readsBefore_of_read? hread).opening
      rw [convertedText_of_read? hread, (Directive.read?_eq_some hread).1]
      cases hreplacement : (d.convert .builtin settings).replacement with
      | none =>
          rw [Option.getD_none, lineEnds_append, lineEnds_append, List.length_append,
            List.length_append]
          refine ⟨by omega, ?_⟩
          intro hequal d' hd' hsome
          rcases List.mem_cons.mp hd' with heq | hd'
          · cases heq
            rw [hreplacement] at hsome
            cases hsome
          · exact hsame (by omega) d' hd' hsome
      | some replacement =>
          obtain ⟨new, rfl, _, hends⟩ := Directive.lineEnds_replacement hopening hreplacement
          rw [Option.getD_some, Directive.text_eq_body_append, lineEnds_append, lineEnds_append,
            lineEnds_append, lineEnds_append, hends]
          simp only [List.length_append, List.nil_append]
          refine ⟨by omega, ?_⟩
          intro hequal d' hd' hsome
          rcases List.mem_cons.mp hd' with heq | hd'
          · cases heq
            rw [← Directive.lineEnds_body_eq_nil_iff hopening]
            exact List.eq_nil_of_length_eq_zero (by omega)
          · exact hsame (by omega) d' hd' hsome
  | case2 hread => simp
  | case3 c rest hread ih =>
      obtain ⟨hfewer, hsame⟩ := ih
      rw [convertedText_cons hread, length_lineEnds_cons, length_lineEnds_cons c rest]
      refine ⟨by omega, ?_⟩
      intro hequal d hd hsome
      rcases List.mem_cons.mp hd with heq | hd
      · cases heq
      · exact hsame (by omega) d hd hsome

section Ordinary

/-- Every line ends with a line feed, perhaps with a carriage return before it. -/
def OrdinaryLineEnds (text : List Char) : Prop :=
  ∀ before c after, text = before ++ c :: after → isLineEnd c = true →
    c = '\n' ∨ c = '\r' ∧ after.head? = some '\n'

theorem Text.isBlank_of_isLineEnd {c : Char} (h : isLineEnd c = true) : isBlank c = true := by
  simp only [isLineEnd, Bool.or_eq_true, beq_iff_eq] at h
  rcases h with ((rfl | rfl) | rfl) | rfl <;> decide

/-- What is left when the blanks at the end are cut off does not end with a blank. -/
theorem Text.isBlank_of_trimEnd_eq {text before : List Char} {c : Char}
    (h : trimEnd text = before ++ [c]) : isBlank c = false := by
  have hdrop : text.reverse.dropWhile isBlank = c :: before.reverse := by
    rw [← List.reverse_inj]
    simpa [trimEnd] using h
  have hstop := List.head?_dropWhile_not isBlank text.reverse
  rw [hdrop] at hstop
  exact hstop

theorem exists_of_mem_pieces {d : Directive} (h : .directive d ∈ pieces text) :
    ∃ before after, text = before ++ (d.text ++ after) ∧ d.ReadsBefore after := by
  fun_induction pieces text with
  | case1 text d' rest hread ih =>
      have htext := (Directive.read?_eq_some hread).1
      rcases List.mem_cons.mp h with heq | h
      · cases heq
        exact ⟨[], rest, htext, Directive.readsBefore_of_read? hread⟩
      · obtain ⟨before, after, hrest, hreads⟩ := ih h
        exact ⟨d'.text ++ before, after, by rw [htext, hrest, List.append_assoc], hreads⟩
  | case2 => cases h
  | case3 c rest _ ih =>
      rcases List.mem_cons.mp h with heq | h
      · cases heq
      · obtain ⟨before, after, hrest, hreads⟩ := ih h
        exact ⟨c :: before, after, by rw [hrest, List.cons_append], hreads⟩

/-- A line end inside a list of rules is no line feed and has none behind it. -/
theorem not_spansLines_of_ordinary (htext : OrdinaryLineEnds text) {d : Directive}
    (hd : .directive d ∈ pieces text) : ¬d.SpansLines := by
  rintro ⟨rules, hrules, hends⟩
  obtain ⟨before, after, rfl, hreads⟩ := exists_of_mem_pieces hd
  obtain ⟨c, hc⟩ := List.exists_mem_of_ne_nil _ hends
  obtain ⟨hmem, hend⟩ := List.mem_filter.mp hc
  obtain ⟨front, back, hsplit⟩ := List.append_of_mem hmem
  have hchars := hreads.rules_chars rules hrules
  have hwhole : rules = front ++ c :: (back ++ trailingBlanks rules) := by
    have hall := trimEnd_append_trailingBlanks rules
    rw [hsplit, List.append_assoc, List.cons_append] at hall
    exact hall.symm
  -- The list does not end with a blank, so there is another character behind this one.
  cases back with
  | nil =>
      have hblank := isBlank_of_trimEnd_eq hsplit
      rw [isBlank_of_isLineEnd hend] at hblank
      cases hblank
  | cons next back =>
      have hown : Directive.isRulesChar c = true := hchars c (by rw [hwhole]; simp)
      have hnext : Directive.isRulesChar next = true := hchars next (by rw [hwhole]; simp)
      have hplace : before ++ (d.text ++ after) =
          before ++ d.opening ++ directiveMark ++ d.kind.keyword.toList ++ ':' :: front ++
            c :: (next :: back ++ trailingBlanks rules ++ after) := by
        conv_lhs =>
          rw [Directive.text, Option.mem_def.mp hrules, Directive.rulesText, hwhole]
        simp
      rcases htext _ c _ hplace hend with rfl | ⟨_, hfeed⟩
      · exact absurd hown (by decide)
      · obtain rfl : next = '\n' := by simpa using hfeed
        exact absurd hnext (by decide)

/-- With ordinary line ends the lines are always kept. -/
theorem linesKept_of_ordinary (settings : ConversionSettings) (text : String)
    (h : OrdinaryLineEnds text.toList) :
    LinesKept text.toList (convertComments .builtin settings text).content.toList := by
  rw [toList_content]
  exact (linesAligned_convertedText fun _ hd _ => not_spansLines_of_ordinary h hd).kept

end Ordinary

/-- The lines of a text are kept by the conversion of its comments exactly when no directive
is replaced whose list of rules goes on behind the end of its line. -/
theorem convertComments_linesKept_iff (settings : ConversionSettings) (text : String) :
    LinesKept text.toList (convertComments .builtin settings text).content.toList ↔
      ReplacesWithinLines settings text.toList := by
  rw [toList_content]
  constructor
  · intro hkept
    apply (length_lineEnds_convertedText settings text.toList).2
    rw [hkept.lineEnds_eq]
  · intro h
    exact (linesAligned_convertedText h).kept

/-- A comment that ends with a carriage return alone: the next line is taken for a part of
the list of rules, where nothing is known about it, and is dropped. -/
theorem carriageReturn_line_dropped :
    let text := "// tslint:disable:no-any\rfoo();\n"
    let content := (convertComments .builtin ⟨false, false⟩ text).content
    lines text.toList = [⟨"// tslint:disable:no-any".toList, ['\r']⟩, ⟨"foo();".toList, ['\n']⟩,
      ⟨[], []⟩] ∧
    lines content.toList =
      [⟨"// eslint-disable @typescript-eslint/no-explicit-any".toList, ['\n']⟩, ⟨[], []⟩] ∧
    ¬LinesKept text.toList content.toList := by
  intro text content
  have hread : Directive.read? text.toList =
      some (⟨"// ".toList, .disable, some "no-any\rfoo();".toList⟩, ['\n']) := by
    decide +kernel
  have hbreak : convertedText ⟨false, false⟩ ['\n'] = ['\n'] := by
    rw [convertedText_cons rfl, convertedText_nil]
  have hcontent : content.toList =
      "// eslint-disable @typescript-eslint/no-explicit-any\n".toList := by
    rw [toList_content, convertedText_of_read? hread, hbreak]
    decide +kernel
  have hlines : lines text.toList = [⟨"// tslint:disable:no-any".toList, ['\r']⟩,
      ⟨"foo();".toList, ['\n']⟩, ⟨[], []⟩] := by
    decide +kernel
  have hlines' : lines content.toList =
      [⟨"// eslint-disable @typescript-eslint/no-explicit-any".toList, ['\n']⟩, ⟨[], []⟩] := by
    rw [hcontent]
    decide +kernel
  refine ⟨hlines, hlines', ?_⟩
  intro hkept
  have hlength := List.Forall₂.length_eq hkept
  rw [hlines, hlines'] at hlength
  simp at hlength

end Relint
