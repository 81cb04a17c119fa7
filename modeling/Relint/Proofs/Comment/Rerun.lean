import Relint.Proofs.Comment.Replacement

/-!
Converting the comments of a text that was converted already. What replaces a directive is
read as plain text from then on, and a directive that stays is read back where it was and
as far as it reached, because the text behind it begins as before. So nothing is left to be
converted, and what could not be converted still cannot.
-/

namespace Relint

variable {settings : ConversionSettings} {text rest : List Char}

/-- A text with its directives converted. -/
def convertedText (settings : ConversionSettings) (text : List Char) : List Char :=
  (pieces text).flatMap (·.convertedText (Directive.convert .builtin settings))

/-- The pieces that are read where a piece was before its conversion. -/
def Piece.settled (settings : ConversionSettings) : Piece → List Piece
  | .plain c => [.plain c]
  | .directive d =>
      match (d.convert .builtin settings).replacement with
      | none => [.directive d]
      | some replacement => replacement.map .plain

theorem toList_content (settings : ConversionSettings) (text : String) :
    (convertComments .builtin settings text).content.toList =
      convertedText settings text.toList := by
  simp [convertComments, convertedText]

theorem convertedText_of_read? {d : Directive} (h : Directive.read? text = some (d, rest)) :
    convertedText settings text =
      ((d.convert .builtin settings).replacement.getD d.text) ++ convertedText settings rest := by
  rw [convertedText, pieces_of_read? h, List.flatMap_cons]
  rfl

theorem convertedText_cons {c : Char} (h : Directive.read? (c :: rest) = none) :
    convertedText settings (c :: rest) = c :: convertedText settings rest := by
  rw [convertedText, pieces_cons_of_read? h, List.flatMap_cons]
  rfl

@[simp] theorem convertedText_nil (settings : ConversionSettings) :
    convertedText settings [] = [] := by
  simp [convertedText]

/-- Whatever becomes of a directive, a comment is opened where it was. -/
theorem exists_convertedText_eq_cons (settings : ConversionSettings) {d : Directive}
    (h : Directive.read? text = some (d, rest)) :
    ∃ c before after, (c = '/' ∨ c = '*') ∧ text = '/' :: c :: before ∧
      convertedText settings text = '/' :: c :: after := by
  obtain ⟨c, gap, hc, _, hopening⟩ := (Directive.readsBefore_of_read? h).opening
  have hbefore : d.opening <+: text := by
    rw [(Directive.read?_eq_some h).1, Directive.text]
    simp only [List.append_assoc, List.prefix_append]
  have hafter : d.opening <+: convertedText settings text := by
    rw [convertedText_of_read? h]
    exact (Directive.opening_prefix settings d).trans (List.prefix_append _ _)
  rw [hopening] at hbefore hafter
  obtain ⟨before, rfl⟩ := hbefore
  obtain ⟨after, hafter⟩ := hafter
  exact ⟨c, gap ++ before, gap ++ after, hc, rfl, hafter.symm⟩

theorem head?_convertedText (settings : ConversionSettings) (text : List Char) :
    (convertedText settings text).head? = text.head? := by
  cases hread : Directive.read? text with
  | some result =>
      obtain ⟨c, before, after, _, htext, hconverted⟩ :=
        exists_convertedText_eq_cons settings hread
      rw [hconverted, htext]
      rfl
  | none =>
      cases text with
      | nil => rw [convertedText_nil]
      | cons c rest =>
          rw [convertedText_cons hread]
          rfl

/-- Where a directive starts before a converted text, one started before the text as it
was. -/
theorem isSome_read?_of_convertedText {before : List Char} (hbefore : before ≠ [])
    (h : (Directive.read? (before ++ convertedText settings text)).isSome = true) :
    (Directive.read? (before ++ text)).isSome = true := by
  fun_induction pieces text generalizing before with
  | case1 text d rest hread ih =>
      obtain ⟨c, _, after, hc, _, hconverted⟩ :=
        exists_convertedText_eq_cons settings hread
      rw [hconverted] at h
      exact Directive.isSome_read?_of_opening hbefore hc text h
  | case2 hread =>
      rwa [convertedText_nil] at h
  | case3 c rest hread ih =>
      rw [convertedText_cons hread] at h
      have hnonempty : before ++ [c] ≠ [] := List.append_ne_nil_of_left_ne_nil hbefore _
      have hlater := ih hnonempty (by simpa using h)
      simpa using hlater

/-- The pieces of a converted text. -/
theorem pieces_convertedText (settings : ConversionSettings) (text : List Char) :
    pieces (convertedText settings text) = (pieces text).flatMap (·.settled settings) := by
  fun_induction pieces text with
  | case1 text d rest hread ih =>
      rw [convertedText_of_read? hread, List.flatMap_cons, ← ih, Piece.settled]
      have hreads := Directive.readsBefore_of_read? hread
      cases hreplacement : (d.convert .builtin settings).replacement with
      | none =>
          have hsome : d.rules.isSome := Directive.isSome_rules_of_replacement hreplacement
          have hafter : d.ReadsBefore (convertedText settings rest) :=
            ⟨hreads.opening, hreads.rules_chars, by
              rw [head?_convertedText]
              exact hreads.stops⟩
          rw [Option.getD_none, pieces_of_read? (Directive.read?_text_append hafter hsome)]
          rfl
      | some replacement =>
          exact Directive.pieces_replacement hreads.opening hreplacement _
  | case2 hread => simp
  | case3 c rest hread ih =>
      have hnone : Directive.read? (c :: convertedText settings rest) = none := by
        rw [← Option.not_isSome_iff_eq_none]
        intro hsome
        have hstarts : (Directive.read? ([c] ++ rest)).isSome = true :=
          isSome_read?_of_convertedText (List.cons_ne_nil c []) hsome
        rw [List.singleton_append, hread] at hstarts
        cases hstarts
      rw [convertedText_cons hread, pieces_cons_of_read? hnone, ih]
      rfl

/-- What becomes of the directives among some pieces. -/
def conversionsAmong (settings : ConversionSettings) (parts : List Piece) :
    List DirectiveConversion :=
  (parts.filterMap Piece.directive?).map (Directive.convert .builtin settings)

theorem convertedText_settled (settings : ConversionSettings) (p : Piece) :
    (p.settled settings).flatMap (·.convertedText (Directive.convert .builtin settings)) =
      p.convertedText (Directive.convert .builtin settings) := by
  cases p with
  | plain c => rfl
  | directive d =>
      cases hreplacement : (d.convert .builtin settings).replacement with
      | none => simp [Piece.settled, Piece.convertedText, hreplacement]
      | some replacement =>
          simp [Piece.settled, Piece.convertedText, hreplacement, List.flatMap_map]

theorem conversionsAmong_append (settings : ConversionSettings) (parts others : List Piece) :
    conversionsAmong settings (parts ++ others) =
      conversionsAmong settings parts ++ conversionsAmong settings others := by
  simp [conversionsAmong]

/-- The directives among settled pieces are those that stayed as they were. -/
theorem conversionsAmong_settled (settings : ConversionSettings) (parts : List Piece) :
    conversionsAmong settings (parts.flatMap (·.settled settings)) =
      (conversionsAmong settings parts).filter (·.replacement.isNone) := by
  induction parts with
  | nil => rfl
  | cons p rest ih =>
      have hone : conversionsAmong settings (p.settled settings) =
          (conversionsAmong settings [p]).filter (·.replacement.isNone) := by
        cases p with
        | plain c => rfl
        | directive d =>
            cases hreplacement : (d.convert .builtin settings).replacement with
            | none => simp [conversionsAmong, Piece.settled, Piece.directive?, hreplacement]
            | some replacement =>
                simp [conversionsAmong, Piece.settled, Piece.directive?, hreplacement]
      rw [List.flatMap_cons, conversionsAmong_append, hone, ih, ← List.filter_append,
        ← conversionsAmong_append, List.singleton_append]

/-- Converting the comments of a converted text changes nothing: there is no directive left
that could be converted, and as many as before that could not. -/
theorem convertComments_again (settings : ConversionSettings) (text : String) :
    let first := convertComments .builtin settings text
    let again := convertComments .builtin settings first.content
    again.content = first.content ∧ again.converted = 0 ∧ again.unchanged = first.unchanged := by
  intro first again
  have hparts : pieces first.content.toList =
      (pieces text.toList).flatMap (·.settled settings) := by
    rw [toList_content, pieces_convertedText]
  have hconversions : conversionsAmong settings (pieces first.content.toList) =
      (conversionsAmong settings (pieces text.toList)).filter (·.replacement.isNone) := by
    rw [hparts, conversionsAmong_settled]
  refine ⟨?_, ?_, ?_⟩
  · rw [← String.toList_inj, toList_content, toList_content, convertedText, pieces_convertedText,
      List.flatMap_assoc]
    simp only [convertedText_settled]
    rfl
  · have hcount : again.converted =
        (conversionsAmong settings (pieces first.content.toList)).countP
          (·.replacement.isSome) := rfl
    rw [hcount, hconversions, List.countP_filter, List.countP_eq_zero]
    intro c _
    cases c.replacement <;> simp
  · have hcount : again.unchanged =
        (conversionsAmong settings (pieces first.content.toList)).countP
          (·.replacement.isNone) := rfl
    rw [hcount, hconversions, List.countP_filter]
    simp only [Bool.and_self]
    rfl

end Relint
