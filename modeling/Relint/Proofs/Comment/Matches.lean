import Relint.Proofs.Comment.Scan

/-!
What scanning finds. A directive matches at the beginning of a text if its own text is the
longest one there that has the shape of a directive: an opening, the mark, a keyword, and
perhaps a colon with the list of rules. A text is cut at its directives from the left to the
right, each at the first place behind the last one where any matches. There is exactly one
way of cutting a text like that, and it is the one that scanning takes.
-/

namespace Relint

namespace Directive

variable {d : Directive} {text rest : List Char}

/-- The parts of a directive are such that its text has the shape of a directive. -/
structure Fits (d : Directive) : Prop where
  opening : IsOpening d.opening
  rules_chars : ∀ rules ∈ d.rules, ∀ c ∈ rules, isRulesChar c = true

/-- The directive that is found at the beginning of a text. -/
structure MatchesAt (d : Directive) (text : List Char) : Prop where
  fits : d.Fits
  begins : d.text <+: text
  longest : ∀ other : Directive, other.Fits → other.text <+: text →
    other.text.length ≤ d.text.length

/-- Of the keywords with which a text begins the longest is read. -/
theorem length_keyword_le {kind other : DirectiveKind} (h : readKind? text = some (kind, rest))
    (hother : other.keyword.toList <+: text) :
    other.keyword.toList.length ≤ kind.keyword.toList.length := by
  obtain ⟨more, rfl⟩ := hother
  cases other with
  | disable =>
      have hbegins : "disable".toList ++ more = kind.keyword.toList ++ rest := readKind?_eq_some h
      cases kind with
      | enable => simp [DirectiveKind.keyword] at hbegins
      | disableNextLine | disableLine | disable => decide
  | disableNextLine | disableLine | enable =>
      -- No other keyword begins with one of these three, nor they with a keyword before them.
      obtain ⟨rfl, _⟩ : _ ∧ more = rest := by
        simpa [readKind?, DirectiveKind.all, DirectiveKind.keyword, dropWord?] using h
      exact Nat.le_refl _

/-- Behind a keyword without colon the whole text of a directive is read. -/
theorem read?_text (h : d.Fits) : read? d.text = some (d, []) := by
  cases hrules : d.rules with
  | some rules =>
      have hbefore : d.ReadsBefore [] := ⟨h.opening, h.rules_chars, fun _ _ hc => nomatch hc⟩
      have hread := read?_text_append hbefore (by simp [hrules])
      rwa [List.append_nil] at hread
  | none =>
      have hkeyword : readKind? d.kind.keyword.toList = some (d.kind, []) := by
        cases d.kind <;> decide
      have htext : d.text = d.opening ++ (directiveMark ++ d.kind.keyword.toList) := by
        simp [text, rulesText, hrules]
      obtain ⟨opening, kind, _⟩ := d
      cases hrules
      rw [htext, read?_append h.opening, hkeyword]
      rfl

/-- Directives whose texts have the shape of one are told apart by their texts. -/
theorem Fits.text_injective {other : Directive} (h : d.Fits) (hother : other.Fits)
    (htext : d.text = other.text) : d = other := by
  have hread := read?_text h
  rw [htext, read?_text hother] at hread
  cases hread
  rfl

theorem fits_of_read? (h : read? text = some (d, rest)) : d.Fits :=
  ⟨(readsBefore_of_read? h).opening, (readsBefore_of_read? h).rules_chars⟩

theorem isSome_read?_of_begins (h : d.Fits) (hbegins : d.text <+: text) :
    (read? text).isSome = true := by
  refine isSome_read?_iff.mpr ⟨_, ⟨d.opening, d.kind, h.opening, rfl⟩, ?_⟩
  exact (List.prefix_append _ (rulesText d.rules)).trans hbegins

/-- What is read reaches at least as far as any text of the shape of a directive. -/
theorem length_text_le {other : Directive} (hother : other.Fits) {more : List Char}
    (h : read? (other.text ++ more) = some (d, rest)) : other.text.length ≤ d.text.length := by
  have htext : other.text ++ more = other.opening ++
      (directiveMark ++ (other.kind.keyword.toList ++ (rulesText other.rules ++ more))) := by
    simp [text]
  rw [htext, read?_append hother.opening] at h
  obtain ⟨⟨kind, behind⟩, hkind, hd⟩ := Option.map_eq_some_iff.mp h
  cases hd
  simp only [text, List.length_append]
  cases hrules : other.rules with
  | none =>
      have hkeyword := length_keyword_le hkind (List.prefix_append _ _)
      simp only [rulesText, List.length_nil]
      omega
  | some rules =>
      rw [hrules, rulesText, List.cons_append, readKind?_colon] at hkind
      cases hkind
      have hlist : rules.length ≤ ((rules ++ more).takeWhile isRulesChar).length := by
        rw [List.takeWhile_append_of_pos (hother.rules_chars rules hrules), List.length_append]
        exact Nat.le_add_right _ _
      simp only [readRules, rulesText, List.length_cons]
      omega

theorem matchesAt_of_read? (h : read? text = some (d, rest)) : d.MatchesAt text := by
  refine ⟨fits_of_read? h, ?_, ?_⟩
  · rw [(read?_eq_some h).1]
    exact List.prefix_append _ _
  · rintro other hother ⟨more, rfl⟩
    exact length_text_le hother h

/-- Reading finds the directive that matches at the beginning of a text. -/
theorem read?_eq_some_iff :
    read? text = some (d, rest) ↔ d.MatchesAt text ∧ text = d.text ++ rest := by
  constructor
  · exact fun h => ⟨matchesAt_of_read? h, (read?_eq_some h).1⟩
  · rintro ⟨hmatch, htext⟩
    obtain ⟨⟨found, behind⟩, hread⟩ :=
      Option.isSome_iff_exists.mp (isSome_read?_of_begins hmatch.fits hmatch.begins)
    have hfound := matchesAt_of_read? hread
    have hlength : found.text.length = d.text.length :=
      Nat.le_antisymm (hmatch.longest found hfound.fits hfound.begins)
        (hfound.longest d hmatch.fits hmatch.begins)
    have hsame : found.text = d.text :=
      (List.prefix_of_prefix_length_le hfound.begins hmatch.begins hlength.le).eq_of_length hlength
    obtain rfl : found = d := hfound.fits.text_injective hmatch.fits hsame
    have hrest := (read?_eq_some hread).1
    rw [htext] at hrest
    rw [hread, List.append_cancel_left hrest]

end Directive

/-- Nowhere in the first text does a directive match when the second text comes behind it. -/
def Quiet (before after : List Char) : Prop :=
  ∀ rest, rest <:+ before → rest ≠ [] →
    ∀ d : Directive, d.Fits → ¬d.text <+: rest ++ after

/-- A text that is cut at directives: each of them with the text in front of it, and the text
behind the last one. -/
structure Cut where
  parts : List (List Char × Directive)
  last : List Char

/-- The text of a piece with something in place of a directive. -/
def Piece.textWith (write : Directive → List Char) : Piece → List Char
  | .plain c => [c]
  | .directive d => write d

namespace Cut

def directives (cut : Cut) : List Directive :=
  cut.parts.map (·.2)

/-- The text with something in place of each directive. -/
def textWith (write : Directive → List Char) (cut : Cut) : List Char :=
  cut.parts.flatMap (fun part => part.1 ++ write part.2) ++ cut.last

def text (cut : Cut) : List Char :=
  cut.textWith Directive.text

def pushFront (c : Char) (cut : Cut) : Cut :=
  match cut.parts with
  | [] => ⟨[], c :: cut.last⟩
  | (before, d) :: rest => ⟨(c :: before, d) :: rest, cut.last⟩

/-- Pieces that are put together up to the next directive. -/
def ofPieces : List Piece → Cut
  | [] => ⟨[], []⟩
  | .plain c :: rest => (ofPieces rest).pushFront c
  | .directive d :: rest => ⟨([], d) :: (ofPieces rest).parts, (ofPieces rest).last⟩

/-- Each directive matches where it is, and none matches in the texts between them. -/
inductive Leftmost : Cut → Prop
  | last {last : List Char} (hquiet : Quiet last []) : Leftmost ⟨[], last⟩
  | next {before : List Char} {d : Directive} {cut : Cut}
      (hquiet : Quiet before (d.text ++ cut.text)) (hmatch : d.MatchesAt (d.text ++ cut.text))
      (hcut : cut.Leftmost) : Leftmost ⟨(before, d) :: cut.parts, cut.last⟩

variable {cut : Cut} {c : Char} {write : Directive → List Char}

theorem textWith_cons (write : Directive → List Char) (before : List Char) (d : Directive)
    (cut : Cut) : textWith write ⟨(before, d) :: cut.parts, cut.last⟩ =
      before ++ (write d ++ cut.textWith write) := by
  simp [textWith]

theorem textWith_pushFront (write : Directive → List Char) (c : Char) (cut : Cut) :
    (cut.pushFront c).textWith write = c :: cut.textWith write := by
  obtain ⟨_ | ⟨⟨before, d⟩, rest⟩, last⟩ := cut <;> simp [pushFront, textWith]

theorem directives_pushFront (c : Char) (cut : Cut) :
    (cut.pushFront c).directives = cut.directives := by
  obtain ⟨_ | ⟨⟨before, d⟩, rest⟩, last⟩ := cut <;> rfl

theorem textWith_ofPieces (write : Directive → List Char) (parts : List Piece) :
    (ofPieces parts).textWith write = parts.flatMap (·.textWith write) := by
  induction parts with
  | nil => rfl
  | cons p rest ih =>
      cases p with
      | plain c => rw [ofPieces, textWith_pushFront, ih, List.flatMap_cons]; rfl
      | directive d => rw [ofPieces, textWith_cons, ih, List.flatMap_cons]; rfl

theorem directives_ofPieces (parts : List Piece) :
    (ofPieces parts).directives = parts.filterMap Piece.directive? := by
  induction parts with
  | nil => rfl
  | cons p rest ih =>
      cases p with
      | plain c => rw [ofPieces, directives_pushFront, ih]; rfl
      | directive d => rw [List.filterMap_cons, ← ih]; rfl

theorem text_ofPieces (text : List Char) : (ofPieces (pieces text)).text = text := by
  have hpiece : Piece.textWith Directive.text = Piece.text := by
    funext p
    cases p <;> rfl
  rw [Cut.text, textWith_ofPieces, hpiece, pieces_text]

theorem quiet_cons {before after : List Char}
    (h : Directive.read? (c :: (before ++ after)) = none) (hquiet : Quiet before after) :
    Quiet (c :: before) after := by
  intro rest hsuffix hsome d hfits hbegins
  rcases List.suffix_cons_iff.mp hsuffix with rfl | hsuffix
  · have hread := Directive.isSome_read?_of_begins hfits hbegins
    rw [List.cons_append, h] at hread
    cases hread
  · exact hquiet rest hsuffix hsome d hfits hbegins

theorem quiet_nil (after : List Char) : Quiet [] after := by
  intro rest hsuffix hsome
  exact absurd (List.suffix_nil.mp hsuffix) hsome

theorem Leftmost.pushFront (h : cut.Leftmost) (hread : Directive.read? (c :: cut.text) = none) :
    (cut.pushFront c).Leftmost := by
  cases h with
  | last hquiet =>
      refine .last (quiet_cons ?_ hquiet)
      rw [List.append_nil]
      exact hread
  | next hquiet hmatch hcut =>
      refine .next (quiet_cons ?_ hquiet) hmatch hcut
      rw [text, textWith_cons] at hread
      exact hread

/-- Scanning cuts a text where directives match. -/
theorem leftmost_ofPieces (text : List Char) : (ofPieces (pieces text)).Leftmost := by
  fun_induction pieces text with
  | case1 text d rest hread ih =>
      refine .next (quiet_nil _) ?_ ih
      rw [text_ofPieces, ← (Directive.read?_eq_some hread).1]
      exact Directive.matchesAt_of_read? hread
  | case2 => exact .last (quiet_nil _)
  | case3 c rest hread ih =>
      apply ih.pushFront
      rwa [text_ofPieces]

theorem pieces_append_of_quiet {before after : List Char} (h : Quiet before after) :
    pieces (before ++ after) = before.map .plain ++ pieces after := by
  induction before with
  | nil => rfl
  | cons c rest ih =>
      have hnone : Directive.read? (c :: (rest ++ after)) = none := by
        rw [Option.eq_none_iff_forall_ne_some]
        intro result hread
        have hmatch := Directive.matchesAt_of_read? hread
        exact h _ List.suffix_rfl (List.cons_ne_nil c rest) _ hmatch.fits hmatch.begins
      have hrest : Quiet rest after :=
        fun later hsuffix => h later (hsuffix.trans (List.suffix_cons c rest))
      rw [List.cons_append, pieces_cons_of_read? hnone, ih hrest]
      rfl

theorem ofPieces_plain (last : List Char) : ofPieces (last.map .plain) = ⟨[], last⟩ := by
  induction last with
  | nil => rfl
  | cons c rest ih => rw [List.map_cons, ofPieces, ih]; rfl

theorem ofPieces_plain_append (before : List Char) (d : Directive) (parts : List Piece) :
    ofPieces (before.map .plain ++ .directive d :: parts) =
      ⟨(before, d) :: (ofPieces parts).parts, (ofPieces parts).last⟩ := by
  induction before with
  | nil => rfl
  | cons c rest ih => rw [List.map_cons, List.cons_append, ofPieces, ih]; rfl

/-- There is no other way to cut a text at its directives than by scanning. -/
theorem Leftmost.eq_ofPieces (h : cut.Leftmost) : cut = ofPieces (pieces cut.text) := by
  induction h with
  | @last last hquiet =>
      have htext : Cut.text ⟨[], last⟩ = last ++ [] := (List.append_nil last).symm
      rw [htext, pieces_append_of_quiet hquiet, pieces_nil, List.append_nil, ofPieces_plain]
  | @next before d cut hquiet hmatch hcut ih =>
      have hread : Directive.read? (d.text ++ cut.text) = some (d, cut.text) :=
        Directive.read?_eq_some_iff.mpr ⟨hmatch, rfl⟩
      rw [text, textWith_cons]
      change _ = ofPieces (pieces (before ++ (d.text ++ cut.text)))
      rw [pieces_append_of_quiet hquiet, pieces_of_read? hread, ofPieces_plain_append, ← ih]

/-- The text is cut at exactly its directives. -/
def Cuts (cut : Cut) (text : List Char) : Prop :=
  cut.Leftmost ∧ cut.text = text

theorem cuts_iff {text : List Char} : cut.Cuts text ↔ cut = ofPieces (pieces text) := by
  constructor
  · rintro ⟨hleftmost, rfl⟩
    exact hleftmost.eq_ofPieces
  · rintro rfl
    exact ⟨leftmost_ofPieces text, text_ofPieces text⟩

/-- Every text can be cut at its directives in exactly one way. -/
theorem exists_cuts (text : List Char) :
    ∃ cut : Cut, cut.Cuts text ∧ ∀ other : Cut, other.Cuts text ↔ other = cut :=
  ⟨_, cuts_iff.mpr rfl, fun _ => cuts_iff⟩

end Cut

end Relint
