import Relint.Command.Options

/-!
What a dry run asks for on a command line. A flag that has been raised stays raised, and no
other option asks whether it is. So a command line with one more `--dry-run` either does not
fit any longer or asks for the same run without its writing.
-/

namespace Relint

namespace Options

/-- The same options for a run that writes nothing. -/
def dry (o : Options) : Options :=
  { o with dryRun := true }

@[simp] theorem dry_editor (o : Options) : o.dry.editor = o.editor := rfl

@[simp] theorem dry_comments (o : Options) : o.dry.comments = o.comments := rfl

@[simp] theorem dry_format (o : Options) : o.dry.format = o.format := rfl

variable {d d' e : Draft} {o : Options} {option : Valued} {flag : Flag} {value argument : String}
  {awaiting awaiting' : Awaiting} {arguments rest : List String}

section Arguments

/-- What one argument does, if it is not two dashes alone. -/
def readArgument (d : Draft) (awaiting : Awaiting) (argument : String) : Reading :=
  if isValue argument then
    match awaiting with
    | .nothing => .refused
    | .value option => .ofDraft? (d.set? option argument)
    | .patterns => .goOn (d.addPatterns [argument]) .patterns
  else
    match awaiting with
    | .value _ => .refused
    | .nothing | .patterns => readOption d argument

theorem readFrom_cons (h : argument ≠ "--") :
    readFrom d awaiting (argument :: rest) =
      match readArgument d awaiting argument with
      | .goOn e awaiting => readFrom e awaiting rest
      | .version => .version
      | .help => .help
      | .refused => .refused := by
  cases hvalue : isValue argument with
  | true =>
      cases awaiting with
      | value option => cases hset : d.set? option argument <;>
          simp [readFrom, readArgument, hvalue, hset, Reading.ofDraft?]
      | nothing | patterns => simp [readFrom, readArgument, hvalue]
  | false => cases awaiting <;> cases hreading : readOption d argument <;>
      simp [readFrom, readArgument, hvalue, h, hreading]

theorem readFrom_dashes :
    readFrom d awaiting ("--" :: rest) =
      match awaiting with
      | .value _ => .refused
      | .nothing | .patterns => if rest.isEmpty then .run d.options else .refused := by
  have hdashes : isValue "--" = false := by decide +kernel
  cases awaiting <;> simp [readFrom, hdashes]

/-- A run is asked for with two dashes only at the end of the line, and not in the place of a
value. -/
theorem readFrom_dashes_eq_run (h : readFrom d awaiting ("--" :: rest) = .run o) :
    rest = [] ∧ (∀ option, awaiting ≠ .value option) ∧ o = d.options := by
  rw [readFrom_dashes] at h
  cases awaiting with
  | value option => cases h
  | nothing | patterns =>
      dsimp only at h
      split at h
      · rename_i hend
        exact ⟨List.isEmpty_iff.mp hend, by simp, (Invocation.run.inj h).symm⟩
      · cases h

/-- A run is asked for where an argument fits and the others fit behind it. -/
theorem readFrom_cons_eq_run (hdashes : argument ≠ "--")
    (h : readFrom d awaiting (argument :: rest) = .run o) :
    ∃ e awaiting', readArgument d awaiting argument = .goOn e awaiting' ∧
      readFrom e awaiting' rest = .run o := by
  rw [readFrom_cons hdashes] at h
  cases hreading : readArgument d awaiting argument with
  | goOn e awaiting' =>
      rw [hreading] at h
      exact ⟨e, awaiting', rfl, h⟩
  | version | help | refused =>
      rw [hreading] at h
      cases h

/-- Arguments that go on where patterns may follow go on the same way without them, unless
one follows. -/
theorem readFrom_nothing (h : readFrom d .patterns arguments = .run o) :
    readFrom d .nothing arguments = .run o ∨ readFrom d .nothing arguments = .refused := by
  cases arguments with
  | nil => exact Or.inl h
  | cons argument rest =>
      cases hvalue : isValue argument with
      | true => exact Or.inr (by simp [readFrom, hvalue])
      | false =>
          refine Or.inl ?_
          simpa [readFrom, hvalue] using h

/-- The argument `--dry-run` is no value, and raises its flag where it fits. -/
theorem readArgument_dryRun :
    readArgument d awaiting "--dry-run" =
      match awaiting with
      | .value _ => .refused
      | .nothing | .patterns => .ofDraft? (d.raise? .dryRun) := by
  have hvalue : isValue "--dry-run" = false := by decide +kernel
  cases awaiting with
  | value option => simp [readArgument, hvalue]
  | nothing | patterns =>
      simp only [readArgument, hvalue]
      rfl

end Arguments

section Drying

/-- One draft is another one with the flag of a dry run. A draft that has this flag is so
with respect to itself. -/
structure Draft.Dries (d d' : Draft) : Prop where
  values : d'.values = d.values
  comments : d'.comments = d.comments
  mem_flags : ∀ flag, flag ∈ d'.flags ↔ flag = .dryRun ∨ flag ∈ d.flags

namespace Draft.Dries

theorem of_mem (h : .dryRun ∈ d.flags) : d.Dries d where
  values := rfl
  comments := rfl
  mem_flags := by
    intro flag
    constructor
    · exact Or.inr
    · rintro (rfl | hflag)
      · exact h
      · exact hflag

theorem of_raise? (h : d.raise? .dryRun = some e) : d.Dries e := by
  rw [raise?] at h
  split at h
  · cases h
  · obtain rfl := Option.some.inj h
    exact ⟨rfl, rfl, fun _ => List.mem_cons⟩

theorem idem (h : d.Dries d') : d'.Dries d' :=
  of_mem ((h.mem_flags _).mpr (Or.inl rfl))

theorem options (h : d.Dries d') : d'.options = d.options.dry := by
  have hflags : ∀ flag, flag ≠ .dryRun → d'.flags.contains flag = d.flags.contains flag := by
    intro flag hne
    rw [Bool.eq_iff_iff, List.contains_iff_mem, List.contains_iff_mem, h.mem_flags]
    exact or_iff_right hne
  have hdry : d'.flags.contains .dryRun = true :=
    List.contains_iff_mem.mpr ((h.mem_flags _).mpr (Or.inl rfl))
  simp only [Draft.options, Options.dry, h.values, h.comments, hdry]
  rw [hflags .prettier (by decide), hflags .typeChecked (by decide), hflags .verbose (by decide)]

theorem addPatterns (h : d.Dries d') (patterns : List String) :
    (d.addPatterns patterns).Dries (d'.addPatterns patterns) where
  values := h.values
  comments := by rw [Draft.addPatterns, Draft.addPatterns, h.comments]
  mem_flags := h.mem_flags

theorem set? (h : d.Dries d') (hset : d.set? option value = some e) :
    ∃ e', d'.set? option value = some e' ∧ e.Dries e' := by
  rw [Draft.set?] at hset ⊢
  rw [h.values]
  split at hset
  · rename_i hfits
    obtain rfl := Option.some.inj hset
    rw [if_pos hfits]
    exact ⟨_, rfl, rfl, h.comments, h.mem_flags⟩
  · cases hset

/-- A second flag of a dry run does not fit. -/
theorem raise?_dryRun (h : d.Dries d') : d'.raise? .dryRun = none := by
  have hraised : d'.flags.contains .dryRun = true :=
    List.contains_iff_mem.mpr ((h.mem_flags _).mpr (Or.inl rfl))
  rw [Draft.raise?, if_pos hraised]

theorem raise? (h : d.Dries d') (hflag : flag ≠ .dryRun) (hraise : d.raise? flag = some e) :
    ∃ e', d'.raise? flag = some e' ∧ e.Dries e' := by
  rw [Draft.raise?] at hraise
  split at hraise
  · cases hraise
  · rename_i hnew
    obtain rfl := Option.some.inj hraise
    rw [List.contains_iff_mem] at hnew
    have hfree : ¬d'.flags.contains flag = true := by
      rw [List.contains_iff_mem, h.mem_flags, not_or]
      exact ⟨hflag, hnew⟩
    rw [Draft.raise?, if_neg hfree]
    refine ⟨_, rfl, h.values, h.comments, ?_⟩
    intro other
    rw [List.mem_cons, List.mem_cons, h.mem_flags]
    exact or_left_comm

end Draft.Dries

/-- What an argument does to a draft it also does with the flag of a dry run, unless it is
this flag itself. -/
def Reading.Dries (reading reading' : Reading) : Prop :=
  ∀ e awaiting, reading = .goOn e awaiting →
    (∃ e', reading' = .goOn e' awaiting ∧ e.Dries e') ∨ reading' = .refused ∧ e.Dries e

theorem Reading.dries_goOn (h : d.Dries d') :
    (Reading.goOn d awaiting).Dries (.goOn d' awaiting) := by
  rintro _ _ ⟨⟩
  exact Or.inl ⟨d', rfl, h⟩

section Readings

variable (h : d.Dries d')

include h

theorem dries_set? (option : Valued) (value : String) :
    (Reading.ofDraft? (d.set? option value)).Dries (.ofDraft? (d'.set? option value)) := by
  cases hset : d.set? option value with
  | none => rintro _ _ ⟨⟩
  | some e =>
      obtain ⟨e', hset', hdries⟩ := h.set? hset
      rw [hset']
      exact Reading.dries_goOn hdries

theorem dries_raise? (flag : Flag) :
    (Reading.ofDraft? (d.raise? flag)).Dries (.ofDraft? (d'.raise? flag)) := by
  cases hraise : d.raise? flag with
  | none => rintro _ _ ⟨⟩
  | some e =>
      by_cases hflag : flag = .dryRun
      · subst hflag
        rw [h.raise?_dryRun]
        rintro _ _ ⟨⟩
        exact Or.inr ⟨rfl, (Draft.Dries.of_raise? hraise).idem⟩
      · obtain ⟨e', hraise', hdries⟩ := h.raise? hflag hraise
        rw [hraise']
        exact Reading.dries_goOn hdries

theorem dries_readLong (name : String) (attached : Option String) :
    (readLong d name attached).Dries (readLong d' name attached) := by
  unfold readLong
  split
  · exact Reading.dries_goOn h
  · exact dries_set? h _ _
  · exact Reading.dries_goOn (h.addPatterns [])
  · exact Reading.dries_goOn (h.addPatterns _)
  · exact dries_raise? h _
  all_goals rintro _ _ ⟨⟩

theorem dries_readValued (option : Valued) (value : List Char) :
    (readValued d option value).Dries (readValued d' option value) := by
  unfold readValued
  split
  · exact Reading.dries_goOn h
  · exact dries_set? h _ _
  · exact dries_set? h _ _

omit h in
theorem dries_readLetters (letters : List Char) (h : d.Dries d') :
    (readLetters d letters).Dries (readLetters d' letters) := by
  fun_induction readLetters d letters generalizing d' with
  | case1 d => exact Reading.dries_goOn h
  | case2 d rest | case3 d rest => exact dries_readValued h _ _
  | case4 d rest e hraise ih =>
      obtain ⟨e', hraise', hdries⟩ := h.raise? (by decide) hraise
      simp only [readLetters, hraise']
      exact ih hdries
  | _ => rintro _ _ ⟨⟩

theorem dries_readOption (argument : String) :
    (readOption d argument).Dries (readOption d' argument) := by
  unfold readOption
  split
  · exact dries_readLong h _ _
  · exact dries_readLetters _ h
  · rintro _ _ ⟨⟩

theorem dries_readArgument (awaiting : Awaiting) (argument : String) :
    (readArgument d awaiting argument).Dries (readArgument d' awaiting argument) := by
  unfold readArgument
  split
  · split
    · rintro _ _ ⟨⟩
    · exact dries_set? h _ _
    · exact Reading.dries_goOn (h.addPatterns _)
  · split
    · rintro _ _ ⟨⟩
    all_goals exact dries_readOption h _

end Readings

/-- Arguments that ask for a run ask for the same run without its writing where the flag of
a dry run has been raised before, unless they raise it themselves. -/
theorem readFrom_dries (h : d.Dries d') (hrun : readFrom d awaiting arguments = .run o) :
    readFrom d' awaiting arguments = .run o.dry ∨
      readFrom d' awaiting arguments = .refused ∧ o.dry = o := by
  induction arguments generalizing d d' awaiting with
  | nil =>
      cases awaiting with
      | value option => cases hrun
      | nothing | patterns =>
          obtain rfl := Invocation.run.inj hrun
          rw [← h.options]
          exact Or.inl rfl
  | cons argument rest ih =>
      by_cases hdashes : argument = "--"
      · subst hdashes
        obtain ⟨rfl, hawaiting, rfl⟩ := readFrom_dashes_eq_run hrun
        rw [readFrom_dashes, ← h.options]
        cases awaiting with
        | value option => exact absurd rfl (hawaiting option)
        | nothing | patterns => exact Or.inl rfl
      · obtain ⟨e, awaiting', hreading, hrest⟩ := readFrom_cons_eq_run hdashes hrun
        rw [readFrom_cons hdashes]
        rcases dries_readArgument h _ _ e awaiting' hreading with
          ⟨e', hreading', hdries⟩ | ⟨hreading', hdries⟩
        · rw [hreading']
          exact ih hdries hrest
        · rw [hreading']
          refine Or.inr ⟨rfl, ?_⟩
          rcases ih hdries hrest with hdry | ⟨hrefused, _⟩
          · exact Invocation.run.inj (hdry.symm.trans hrest)
          · exact absurd (hrefused.symm.trans hrest) (by simp)

theorem dryRun_of_raised (h : .dryRun ∈ d.flags) (hrun : readFrom d awaiting arguments = .run o) :
    o.dryRun = true := by
  have hdry : o.dry = o := by
    rcases readFrom_dries (.of_mem h) hrun with hsame | ⟨_, hdry⟩
    · exact Invocation.run.inj (hsame.symm.trans hrun)
    · exact hdry
  rw [← hdry]
  rfl

end Drying

section DryRun

theorem dries_of_readArgument (h : readArgument d awaiting "--dry-run" = .goOn e awaiting') :
    d.Dries e := by
  rw [readArgument_dryRun] at h
  cases awaiting with
  | value option => cases h
  | nothing | patterns =>
      cases hraise : d.raise? .dryRun with
      | none => simp [hraise, Reading.ofDraft?] at h
      | some raised =>
          simp only [hraise, Reading.ofDraft?] at h
          cases h
          exact .of_raise? hraise

/-- A run that is asked for with `--dry-run` anywhere among the arguments is a dry one. -/
theorem dryRun_of_mem (h : "--dry-run" ∈ arguments)
    (hrun : readFrom d awaiting arguments = .run o) : o.dryRun = true := by
  induction arguments generalizing d awaiting with
  | nil => exact absurd h List.not_mem_nil
  | cons argument rest ih =>
      by_cases hdashes : argument = "--"
      · subst hdashes
        obtain ⟨rfl, _, _⟩ := readFrom_dashes_eq_run hrun
        exact absurd h (by decide)
      · obtain ⟨e, awaiting', hreading, hrest⟩ := readFrom_cons_eq_run hdashes hrun
        rcases List.mem_cons.mp h with rfl | hmem
        · have hraised := (dries_of_readArgument hreading).mem_flags .dryRun
          exact dryRun_of_raised (hraised.mpr (Or.inl rfl)) hrest
        · exact ih hmem hrest

/-- The flag of a dry run, raised before the arguments that are left, makes their run dry. -/
theorem readFrom_raise_dryRun (hwet : o.dryRun = false) (h : d.Dries e)
    (hrun : readFrom d awaiting arguments = .run o) :
    readFrom e awaiting arguments = .run o.dry := by
  rcases readFrom_dries h hrun with hdry | ⟨_, hdry⟩
  · exact hdry
  · rw [← hdry] at hwet
    cases hwet

/-- One more `--dry-run` makes a run dry, unless it stands where it does not fit. -/
theorem readFrom_insert_dryRun {before : List String} (hwet : o.dryRun = false)
    (hrun : readFrom d awaiting (before ++ rest) = .run o) :
    readFrom d awaiting (before ++ "--dry-run" :: rest) = .run o.dry ∨
      readFrom d awaiting (before ++ "--dry-run" :: rest) = .refused := by
  induction before generalizing d awaiting with
  | nil =>
      rw [List.nil_append] at hrun
      rw [List.nil_append, readFrom_cons (by decide), readArgument_dryRun]
      cases awaiting with
      | value option => exact Or.inr rfl
      | nothing =>
          cases hraise : d.raise? .dryRun with
          | none => exact Or.inr rfl
          | some e => exact Or.inl (readFrom_raise_dryRun hwet (.of_raise? hraise) hrun)
      | patterns =>
          cases hraise : d.raise? .dryRun with
          | none => exact Or.inr rfl
          | some e =>
              exact readFrom_nothing (readFrom_raise_dryRun hwet (.of_raise? hraise) hrun)
  | cons argument before ih =>
      by_cases hdashes : argument = "--"
      · subst hdashes
        rw [List.cons_append, readFrom_dashes]
        cases awaiting <;> simp
      · obtain ⟨e, awaiting', hreading, hrest⟩ := readFrom_cons_eq_run hdashes hrun
        rw [List.cons_append, readFrom_cons hdashes, hreading]
        exact ih hrest

end DryRun

end Options

end Relint
