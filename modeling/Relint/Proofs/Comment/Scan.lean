import Relint.Comment.Directive
import Mathlib.Data.List.TakeWhile

/-!
Where directives start. A directive is read from a text exactly when the text begins with
a comment that is opened, blanks, the mark and a keyword; what comes behind decides only
how far it reaches. No character behind the opening of such a beginning can open a comment,
so a directive never starts in a text that has no opening in it, and whether one starts
before an opening is decided before that opening.
-/

namespace Relint

namespace Directive

variable {d : Directive} {text rest : List Char}

/-- The opening of a comment with the blanks behind it. -/
def IsOpening (opening : List Char) : Prop :=
  ∃ c gap, (c = '/' ∨ c = '*') ∧ (∀ g ∈ gap, isGap g = true) ∧ opening = '/' :: c :: gap

/-- What every directive begins with. -/
def IsHead (head : List Char) : Prop :=
  ∃ opening kind, IsOpening opening ∧
    head = opening ++ directiveMark ++ (DirectiveKind.keyword kind).toList

/-- The list of rules of a directive reaches as far as it can before this text. -/
structure ReadsBefore (d : Directive) (rest : List Char) : Prop where
  opening : IsOpening d.opening
  rules_chars : ∀ rules ∈ d.rules, ∀ c ∈ rules, isRulesChar c = true
  stops : d.rules.isSome → ∀ c ∈ rest.head?, isRulesChar c = false

section Words

/-- Characters are taken up to the first one that is not wanted. -/
theorem takeWhile_dropWhile_append {p : Char → Bool} (hinside : ∀ c ∈ text, p c = true)
    (hstop : ∀ c ∈ rest.head?, p c = false) :
    (text ++ rest).takeWhile p = text ∧ (text ++ rest).dropWhile p = rest := by
  rw [List.takeWhile_append_of_pos hinside, List.dropWhile_append_of_pos hinside]
  cases rest with
  | nil => simp
  | cons c more => simp [hstop c rfl]

@[simp] theorem dropWord?_append (word text : List Char) :
    dropWord? word (word ++ text) = some text := by
  induction word with
  | nil => rfl
  | cons c word ih => simp [dropWord?, ih]

/-- Some keyword is read where there is one. -/
theorem isSome_readKind? (kind : DirectiveKind) (text : List Char) :
    (readKind? (kind.keyword.toList ++ text)).isSome = true := by
  rw [readKind?, List.findSome?_isSome_iff]
  exact ⟨kind, by cases kind <;> simp [DirectiveKind.all], by simp⟩

/-- A keyword with a colon behind it is not the beginning of another one. -/
theorem readKind?_colon (kind : DirectiveKind) (text : List Char) :
    readKind? (kind.keyword.toList ++ ':' :: text) = some (kind, ':' :: text) := by
  cases kind <;> simp [readKind?, DirectiveKind.all, DirectiveKind.keyword, dropWord?]

theorem not_opening_of_mem_keyword (kind : DirectiveKind) :
    ∀ c ∈ directiveMark ++ kind.keyword.toList, c ≠ '/' ∧ c ≠ '*' := by
  have hnone :
      (directiveMark ++ kind.keyword.toList).all (fun c => c != '/' && c != '*') = true := by
    cases kind <;> decide +kernel
  intro c hc
  simpa using List.all_eq_true.mp hnone c hc

theorem not_opening_of_isGap {c : Char} (h : isGap c = true) : c ≠ '/' ∧ c ≠ '*' := by
  constructor <;> rintro rfl <;> exact absurd h (by decide)

end Words

/-- Behind the opening of a comment all blanks are taken. -/
theorem readOpening?_append {opening : List Char} (h : IsOpening opening)
    (htext : ∀ c ∈ text.head?, isGap c = false) :
    readOpening? (opening ++ text) = some (opening, text) := by
  obtain ⟨c, gap, hc, hgap, rfl⟩ := h
  obtain ⟨htake, hdrop⟩ := takeWhile_dropWhile_append hgap htext
  rcases hc with rfl | rfl <;> simp [readOpening?, htake, hdrop]

theorem read?_append {opening : List Char} (h : IsOpening opening) (text : List Char) :
    read? (opening ++ (directiveMark ++ text)) = (readKind? text).map fun (kind, rest) =>
      (⟨opening, kind, (readRules rest).1⟩, (readRules rest).2) := by
  have hmark : ∀ c ∈ (directiveMark ++ text).head?, isGap c = false := by
    intro c hc
    obtain rfl : 't' = c := Option.some.inj hc
    decide
  simp only [read?, readOpening?_append h hmark, dropWord?_append, Option.bind_eq_bind,
    Option.bind_some]
  cases readKind? text <;> rfl

theorem isOpening_of_readOpening? {opening : List Char}
    (h : readOpening? text = some (opening, rest)) : IsOpening opening := by
  unfold readOpening? at h
  split at h
  · cases h
    exact ⟨'/', _, Or.inl rfl, fun g hg => List.mem_takeWhile_imp hg, rfl⟩
  · cases h
    exact ⟨'*', _, Or.inr rfl, fun g hg => List.mem_takeWhile_imp hg, rfl⟩
  · cases h

theorem readRules_chars {rules : List Char} (h : (readRules text).1 = some rules) :
    (∀ c ∈ rules, isRulesChar c = true) ∧
      ∀ c ∈ (readRules text).2.head?, isRulesChar c = false := by
  unfold readRules at h ⊢
  split at h
  · rename_i behind
    cases h
    refine ⟨fun c hc => List.mem_takeWhile_imp hc, ?_⟩
    intro c hc
    have hhead : (behind.dropWhile isRulesChar).head? = some c := hc
    have hstop := List.head?_dropWhile_not isRulesChar behind
    rw [hhead] at hstop
    exact hstop
  · cases h

theorem readsBefore_of_read? (h : read? text = some (d, rest)) : d.ReadsBefore rest := by
  simp only [read?, Option.bind_eq_bind, Option.pure_def, Option.bind_eq_some_iff,
    Option.some.injEq, Prod.mk.injEq, Prod.exists] at h
  obtain ⟨opening, _, hopening, _, _, kind, behind, _, rfl, rfl⟩ := h
  refine ⟨isOpening_of_readOpening? hopening, ?_, ?_⟩
  · intro rules hrules
    exact (readRules_chars hrules).1
  · intro hsome
    obtain ⟨rules, hrules⟩ := Option.isSome_iff_exists.mp hsome
    exact (readRules_chars hrules).2

/-- A directive with a list of rules is read back from its own text. -/
theorem read?_text_append (h : d.ReadsBefore rest) (hsome : d.rules.isSome) :
    read? (d.text ++ rest) = some (d, rest) := by
  obtain ⟨opening, kind, rules⟩ := d
  obtain ⟨hopening, hchars, hstops⟩ := h
  obtain ⟨rules, rfl⟩ := Option.isSome_iff_exists.mp hsome
  obtain ⟨htake, hdrop⟩ := takeWhile_dropWhile_append (hchars rules rfl) (hstops rfl)
  have htext : (⟨opening, kind, some rules⟩ : Directive).text ++ rest =
      opening ++ (directiveMark ++ (kind.keyword.toList ++ ':' :: (rules ++ rest))) := by
    simp [text, rulesText]
  rw [htext, read?_append hopening, readKind?_colon]
  simp [readRules, htake, hdrop]

/-- A directive is read where a text begins with the head of one, and nowhere else. -/
theorem isSome_read?_iff : (read? text).isSome = true ↔ ∃ head, IsHead head ∧ head <+: text := by
  constructor
  · intro h
    obtain ⟨⟨d, rest⟩, hread⟩ := Option.isSome_iff_exists.mp h
    refine ⟨_, ⟨d.opening, d.kind, (readsBefore_of_read? hread).opening, rfl⟩, ?_⟩
    rw [(read?_eq_some hread).1, Directive.text, List.append_assoc _ (rulesText _)]
    exact List.prefix_append _ _
  · rintro ⟨_, ⟨opening, kind, hopening, rfl⟩, behind, rfl⟩
    rw [List.append_assoc, List.append_assoc, read?_append hopening, Option.isSome_map]
    exact isSome_readKind? kind behind

/-- A comment is opened by the first two characters of a head and by no others. -/
theorem IsHead.eq_cons {head : List Char} (h : IsHead head) :
    ∃ c behind, (c = '/' ∨ c = '*') ∧ head = '/' :: c :: behind ∧ behind ≠ [] ∧
      ∀ b ∈ behind, b ≠ '/' ∧ b ≠ '*' := by
  obtain ⟨_, kind, ⟨c, gap, hc, hgap, rfl⟩, rfl⟩ := h
  refine ⟨c, gap ++ (directiveMark ++ kind.keyword.toList), hc, by simp, ?_, ?_⟩
  · have hmark : directiveMark ≠ [] := List.cons_ne_nil _ _
    exact List.append_ne_nil_of_right_ne_nil _ (List.append_ne_nil_of_left_ne_nil hmark _)
  · intro b hb
    rcases List.mem_append.mp hb with hb | hb
    · exact not_opening_of_isGap (hgap b hb)
    · exact not_opening_of_mem_keyword kind b hb

/-- A head that begins before the opening of a comment ends there at the latest. -/
theorem IsHead.prefix_before_opening {head before : List Char} (h : IsHead head)
    (hbefore : before ≠ []) {c : Char} (hc : c = '/' ∨ c = '*')
    (hbegins : head <+: before ++ '/' :: c :: rest) : head <+: before := by
  rcases List.prefix_or_prefix_of_prefix hbegins (List.prefix_append before _) with
    hwithin | ⟨beyond, rfl⟩
  · exact hwithin
  · obtain ⟨c', tail, _, heq, htail, hclean⟩ := h.eq_cons
    rw [List.prefix_append_right_inj] at hbegins
    rcases beyond with _ | ⟨first, more⟩
    · simp
    · -- A head that goes on would have the opening behind its own.
      obtain ⟨rfl, hmore⟩ := List.cons_prefix_cons.mp hbegins
      rcases before with _ | ⟨_, _ | ⟨_, before⟩⟩
      · exact absurd rfl hbefore
      · obtain ⟨_, _, rfl⟩ : _ ∧ '/' = c' ∧ more = tail := by simpa using heq
        obtain ⟨b, behind, rfl⟩ := List.exists_cons_of_ne_nil htail
        obtain ⟨rfl, _⟩ := List.cons_prefix_cons.mp hmore
        have hb := hclean b List.mem_cons_self
        exact absurd hc (not_or_intro hb.1 hb.2)
      · obtain ⟨_, _, rfl⟩ : _ ∧ _ = c' ∧ before ++ '/' :: more = tail := by simpa using heq
        exact absurd rfl (hclean '/' (by simp)).1

/-- Whether a directive starts before the opening of a comment does not depend on what
comes with this opening. -/
theorem isSome_read?_of_opening {before : List Char} (hbefore : before ≠ []) {c : Char}
    (hc : c = '/' ∨ c = '*') (behind : List Char)
    (h : (read? (before ++ '/' :: c :: rest)).isSome = true) :
    (read? (before ++ behind)).isSome = true := by
  obtain ⟨head, hhead, hbegins⟩ := isSome_read?_iff.mp h
  have hwithin := hhead.prefix_before_opening hbefore hc hbegins
  exact isSome_read?_iff.mpr ⟨head, hhead, hwithin.trans (List.prefix_append _ _)⟩

end Directive

section Pieces

variable {text rest : List Char} {c : Char}

@[simp] theorem pieces_nil : pieces [] = [] := by
  rw [pieces]
  rfl

theorem pieces_of_read? {d : Directive} (h : Directive.read? text = some (d, rest)) :
    pieces text = .directive d :: pieces rest := by
  rw [pieces]
  split
  · rename_i hread
    rw [h] at hread
    cases hread
    rfl
  · rename_i hnone
    rw [h] at hnone
    cases hnone

theorem pieces_cons_of_read? (h : Directive.read? (c :: rest) = none) :
    pieces (c :: rest) = .plain c :: pieces rest := by
  rw [pieces]
  split
  · rename_i hread
    rw [h] at hread
    cases hread
  · rfl

/-- Whether a text opens no comment, whatever comes behind it: there is a character behind
every slash, which is neither a slash nor a star. -/
def opensNothing : List Char → Bool
  | [] => true
  | c :: rest =>
      (c != '/' || rest.head?.any fun next => next != '/' && next != '*') && opensNothing rest

theorem opensNothing_cons_iff : opensNothing (c :: rest) = true ↔
    (c = '/' → ∃ next more, rest = next :: more ∧ next ≠ '/' ∧ next ≠ '*') ∧
      opensNothing rest = true := by
  rw [opensNothing, Bool.and_eq_true]
  refine and_congr_left fun _ => ?_
  cases rest <;> by_cases hc : c = '/' <;> simp [hc]

theorem opensNothing_cons (h : c ≠ '/') : opensNothing (c :: rest) = opensNothing rest := by
  simp [opensNothing, h]

theorem opensNothing_of_not_mem (h : '/' ∉ text) : opensNothing text = true := by
  induction text with
  | nil => rfl
  | cons c rest ih =>
      obtain ⟨hc, hrest⟩ := List.ne_and_not_mem_of_not_mem_cons h
      rw [opensNothing_cons hc.symm, ih hrest]

theorem opensNothing_append {more : List Char} (h : opensNothing text = true)
    (hmore : opensNothing more = true) : opensNothing (text ++ more) = true := by
  induction text with
  | nil => exact hmore
  | cons c rest ih =>
      obtain ⟨hslash, hrest⟩ := opensNothing_cons_iff.mp h
      refine opensNothing_cons_iff.mpr ⟨?_, ih hrest⟩
      intro hc
      obtain ⟨next, others, rfl, hnext⟩ := hslash hc
      exact ⟨next, others ++ more, rfl, hnext⟩

theorem read?_eq_none_of_opensNothing (h : opensNothing (c :: rest) = true) (more : List Char) :
    Directive.read? (c :: (rest ++ more)) = none := by
  rw [Option.eq_none_iff_forall_ne_some]
  intro result hread
  obtain ⟨head, hhead, hbegins⟩ :=
    Directive.isSome_read?_iff.mp (Option.isSome_iff_exists.mpr ⟨result, hread⟩)
  obtain ⟨opener, behind, hopener, rfl, _, _⟩ := hhead.eq_cons
  obtain ⟨rfl, hbehind⟩ := List.cons_prefix_cons.mp hbegins
  obtain ⟨next, others, rfl, hslash, hstar⟩ := (opensNothing_cons_iff.mp h).1 rfl
  obtain ⟨rfl, _⟩ := List.cons_prefix_cons.mp hbehind
  rcases hopener with rfl | rfl
  · exact hslash rfl
  · exact hstar rfl

/-- A text that opens no comment is all plain, whatever comes behind it. -/
theorem pieces_append_of_opensNothing (h : opensNothing text = true) (more : List Char) :
    pieces (text ++ more) = text.map .plain ++ pieces more := by
  induction text with
  | nil => rfl
  | cons c rest ih =>
      have hnone := read?_eq_none_of_opensNothing h more
      rw [List.cons_append, pieces_cons_of_read? hnone, ih (opensNothing_cons_iff.mp h).2]
      rfl

end Pieces

end Relint
