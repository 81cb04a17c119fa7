import Relint.Merge.Builtin
import Relint.Proofs.Assoc
import Relint.Proofs.Value.Unique

/-!
Merging step by step. All built-in mergers go through the lists of arguments with a state
that they carry along, and the arguments they return show this state completely. So a
merger that is given its own result in place of some lists goes on as it would have after
these lists, with the same arguments or the same complaint in the end.
-/

namespace Relint

namespace Merger

/-- The merger goes on from its own result: it makes of this result and further lists what it
makes of all lists. -/
def Resumes (merger : Merger) : Prop :=
  ∀ (earlier later : List (List Value)) (merged : List Value),
    merger.mergeArguments earlier = .ok merged →
      merger.mergeArguments (merged :: later) = merger.mergeArguments (earlier ++ later)

/-- A merger resumes if it takes in its lists one after the other, so that lists behind
others are taken in from the state that these leave, and if taking in the arguments that
belong to such a state leads back to it. -/
theorem resumes_of_state {σ : Type} {merger : Merger} (start : σ)
    (takeIn : σ → List (List Value) → Except String σ) (arguments : σ → List Value)
    (hmerge : ∀ lists, merger.mergeArguments lists = (takeIn start lists).map arguments)
    (happend : ∀ state first second,
      takeIn state (first ++ second) = takeIn state first >>= fun next => takeIn next second)
    (hback : ∀ lists state, takeIn start lists = .ok state →
      takeIn start [arguments state] = .ok state) : merger.Resumes := by
  intro earlier later merged hmerged
  rw [hmerge] at hmerged
  cases hstate : takeIn start earlier with
  | error reason =>
      rw [hstate] at hmerged
      cases hmerged
  | ok state =>
      rw [hstate] at hmerged
      cases hmerged
      have hresult : takeIn start (arguments state :: later) = takeIn state later := by
        rw [← List.singleton_append, happend, hback earlier state hstate]
        rfl
      have hlists : takeIn start (earlier ++ later) = takeIn state later := by
        rw [happend, hstate]
        rfl
      rw [hmerge, hmerge, hresult, hlists]

/-- A merger that takes in the items of its lists one after the other resumes if taking in the
items of the arguments that belong to a state leads back to it. -/
theorem resumes_of_fold {σ : Type} {merger : Merger} (items : List (List Value) → List Value)
    (hitems : ∀ first second, items (first ++ second) = items first ++ items second)
    (step : σ → Value → Except String σ) (start : σ) (arguments : σ → List Value)
    (hmerge : ∀ lists,
      merger.mergeArguments lists = ((items lists).foldlM step start).map arguments)
    (hback : ∀ lists state, (items lists).foldlM step start = .ok state →
      (items [arguments state]).foldlM step start = .ok state) : merger.Resumes := by
  refine resumes_of_state start (fun state lists => (items lists).foldlM step state) arguments
    hmerge ?_ hback
  intro state first second
  rw [hitems, List.foldlM_append]

/-- What every step keeps holds of the state behind all items. -/
theorem invariant_foldlM {σ : Type} {step : σ → Value → Except String σ} {Invariant : σ → Prop}
    (hstep : ∀ state item next, Invariant state → step state item = .ok next → Invariant next)
    {items : List Value} {state result : σ} (hstate : Invariant state)
    (hresult : items.foldlM step state = .ok result) : Invariant result := by
  induction items generalizing state with
  | nil =>
      cases hresult
      exact hstate
  | cons item rest ih =>
      rw [List.foldlM_cons] at hresult
      cases hnext : step state item with
      | error reason =>
          rw [hnext] at hresult
          cases hresult
      | ok next =>
          rw [hnext] at hresult
          exact ih (hstep state item next hstate hnext) hresult

theorem firstArguments_append (first second : List (List Value)) :
    firstArguments (first ++ second) = firstArguments first ++ firstArguments second :=
  List.filterMap_append

theorem firstArguments_singleton (arguments : List Value) :
    firstArguments [arguments] = arguments.head?.toList := by
  cases arguments <;> rfl

theorem resumes_unique : unique.Resumes := by
  refine resumes_of_state [] (fun items lists => .ok (Value.pushAllUnique items lists.flatten)) id
    (fun _ => rfl) ?_ ?_
  · intro items first second
    rw [List.flatten_append, Value.pushAllUnique_append]
    rfl
  · rintro lists _ ⟨⟩
    have hunlike := Value.unlike_pushAllUnique Value.unlike_nil lists.flatten
    simpa using Value.pushAllUnique_nil_of_unlike hunlike

theorem resumes_disabling : disabling.Resumes := by
  refine resumes_of_state [] (fun last lists => .ok (lists.getLast?.getD last)) id
    (fun _ => rfl) ?_ (fun _ _ _ => rfl)
  intro last first second
  rw [List.getLast?_append]
  cases second.getLast? <;> rfl

section BannedTypes

/-- Takes in the types that the options of one more proposal forbid. Nothing is known of types
before the first options. -/
def takeBan (known : Option Fields) (options : Value) : Except String (Option Fields) :=
  (bannedTypes options).map fun types => some (Assoc.insertAll (known.getD []) types)

/-- The options that forbid these types. -/
def banArguments : Option Fields → List Value
  | none => []
  | some types => [.object [("types", .object types)]]

theorem foldlM_takeBan (items : List Value) (known : Option Fields) :
    items.foldlM takeBan known = (items.mapM bannedTypes).map fun maps =>
      if maps.isEmpty then known else some (maps.foldl Assoc.insertAll (known.getD [])) := by
  induction items generalizing known with
  | nil => rfl
  | cons options rest ih =>
      rw [List.foldlM_cons, List.mapM_cons, takeBan]
      cases bannedTypes options with
      | error reason => rfl
      | ok types =>
          simp only [Except.map, bind, Except.bind, ih]
          cases rest.mapM bannedTypes with
          | error reason => rfl
          | ok maps => cases maps <;> rfl

theorem banTypes_eq_foldlM (lists : List (List Value)) :
    banTypes lists = ((firstArguments lists).foldlM takeBan none).map banArguments := by
  rw [foldlM_takeBan, banTypes]
  cases (firstArguments lists).mapM bannedTypes with
  | error reason => rfl
  | ok maps => cases maps <;> rfl

/-- No type is forbidden twice. -/
theorem nodup_takeBan (known : Option Fields) (options : Value) (next : Option Fields)
    (hknown : (Assoc.keys (known.getD [])).Nodup) (hnext : takeBan known options = .ok next) :
    (Assoc.keys (next.getD [])).Nodup := by
  unfold takeBan at hnext
  cases hbanned : bannedTypes options with
  | error reason =>
      rw [hbanned] at hnext
      cases hnext
  | ok types =>
      rw [hbanned] at hnext
      cases hnext
      exact Assoc.nodup_keys_insertAll types hknown

theorem resumes_banTypes : (ofArguments banTypes).Resumes := by
  refine resumes_of_fold firstArguments firstArguments_append takeBan none banArguments
    banTypes_eq_foldlM ?_
  intro lists known hknown
  cases known with
  | none => rfl
  | some types =>
      have hnone : (Assoc.keys ((none : Option Fields).getD [])).Nodup := List.nodup_nil
      have hnodup : (Assoc.keys types).Nodup := invariant_foldlM nodup_takeBan hnone hknown
      have hsame : Assoc.insertAll [] types = types := Assoc.ofEntries_of_nodup hnodup
      simp [firstArguments_singleton, banArguments, takeBan, bannedTypes, Value.field?,
        Value.object?, hsame, Except.map]

end BannedTypes

section TypeAssertions

theorem joinAll_choice_eq_foldlM (choice : AssertionChoice) (items : List Value) :
    choice.joinAll items = items.foldlM AssertionChoice.join choice := by
  induction items generalizing choice with
  | nil => rfl
  | cons options rest ih => simp only [AssertionChoice.joinAll, List.foldlM_cons, ih]

/-- Options that show a choice are taken in as this choice. -/
theorem joinAll_toArguments (choice : AssertionChoice) :
    AssertionChoice.joinAll ⟨none, none⟩ choice.toArguments.head?.toList = .ok choice := by
  obtain ⟨style, policy⟩ := choice
  cases style <;> cases policy <;>
    simp [AssertionChoice.toArguments, optionArgument, stringField, AssertionChoice.joinAll,
      AssertionChoice.join, joinStyle, joinPolicy, Value.field?, Value.object?, Value.string?,
      List.lookup_cons, Except.map, bind, Except.bind]

theorem resumes_typeAssertions : (ofArguments typeAssertions).Resumes := by
  refine resumes_of_fold firstArguments firstArguments_append AssertionChoice.join ⟨none, none⟩
    AssertionChoice.toArguments ?_ ?_
  · intro lists
    rw [← joinAll_choice_eq_foldlM]
    rfl
  · intro _ choice _
    rw [← joinAll_choice_eq_foldlM, firstArguments_singleton]
    exact joinAll_toArguments choice

end TypeAssertions

section RestrictedImports

theorem joinAll_restriction_eq_foldlM (r : ImportRestriction) (items : List Value) :
    r.joinAll items = items.foldlM ImportRestriction.join r := by
  induction items generalizing r with
  | nil => rfl
  | cons argument rest ih => simp only [ImportRestriction.joinAll, List.foldlM_cons, ih]

/-- No path and no pattern is there twice. -/
structure ImportRestriction.Unlike (r : ImportRestriction) : Prop where
  paths : Value.Unlike r.paths
  patterns : Value.Unlike r.patterns

theorem unlike_join (r : ImportRestriction) (argument : Value) (next : ImportRestriction)
    (h : r.Unlike) (hnext : r.join argument = .ok next) : next.Unlike := by
  unfold ImportRestriction.join at hnext
  split at hnext
  · cases hnext
    exact ⟨Value.unlike_pushUnique h.paths _, h.patterns⟩
  · cases hnext
    exact ⟨Value.unlike_pushAllUnique h.paths _, Value.unlike_pushAllUnique h.patterns _⟩
  · cases hnext

theorem arrayField_paths (paths patterns : List Value) :
    arrayField (.object (listOption "paths" paths ++ listOption "patterns" patterns)) "paths" =
      paths := by
  cases paths <;> cases patterns <;> rfl

theorem arrayField_patterns (paths patterns : List Value) :
    arrayField (.object (listOption "paths" paths ++ listOption "patterns" patterns)) "patterns" =
      patterns := by
  cases paths <;> cases patterns <;> rfl

/-- Options that show a restriction are taken in as this restriction. -/
theorem joinAll_arguments {r : ImportRestriction} (h : r.Unlike) :
    ImportRestriction.joinAll ⟨[], []⟩ r.toArguments = .ok r := by
  have hpaths : Value.pushAllUnique [] r.paths = r.paths :=
    Value.pushAllUnique_nil_of_unlike h.paths
  have hpatterns : Value.pushAllUnique [] r.patterns = r.patterns :=
    Value.pushAllUnique_nil_of_unlike h.patterns
  rw [ImportRestriction.toArguments, optionArgument]
  split
  · -- Nothing is shown of a restriction that forbids nothing.
    rename_i hempty
    obtain ⟨_ | ⟨path, paths⟩, _ | ⟨pattern, patterns⟩⟩ := r
    · rfl
    all_goals simp [listOption] at hempty
  · have hjoin : ImportRestriction.join ⟨[], []⟩
        (.object (listOption "paths" r.paths ++ listOption "patterns" r.patterns)) = .ok r := by
      rw [ImportRestriction.join, arrayField_paths, arrayField_patterns, hpaths, hpatterns]
    rw [ImportRestriction.joinAll, hjoin]
    rfl

theorem resumes_restrictedImports : (ofArguments restrictedImports).Resumes := by
  refine resumes_of_fold List.flatten (fun _ _ => List.flatten_append) ImportRestriction.join
    ⟨[], []⟩ ImportRestriction.toArguments ?_ ?_
  · intro lists
    rw [← joinAll_restriction_eq_foldlM]
    rfl
  · intro lists r hr
    have hunlike : r.Unlike :=
      invariant_foldlM unlike_join ⟨Value.unlike_nil, Value.unlike_nil⟩ hr
    rw [← joinAll_restriction_eq_foldlM, List.flatten_singleton]
    exact joinAll_arguments hunlike

end RestrictedImports

end Merger

/-- Merging in one go is merging step by step. Each merger of the program makes of the arguments
that it made of some lists, followed by further lists, what it makes of all these lists: the
same arguments with all their items and fields in the same order, or the same complaint. -/
theorem builtin_merge_resumes :
    ∀ entry ∈ MergerRegistry.builtin, ∀ (earlier later : List (List Value)) (merged : List Value),
      entry.2.mergeArguments earlier = .ok merged →
        entry.2.mergeArguments (merged :: later) = entry.2.mergeArguments (earlier ++ later) := by
  intro entry hentry
  have hresumes : entry.2.Resumes := by
    simp only [MergerRegistry.builtin, List.mem_cons, List.not_mem_nil, or_false] at hentry
    rcases hentry with rfl | rfl | rfl | rfl | rfl | rfl | rfl | rfl
    · exact Merger.resumes_banTypes
    · exact Merger.resumes_typeAssertions
    · exact Merger.resumes_unique
    · exact Merger.resumes_disabling
    · exact Merger.resumes_unique
    · exact Merger.resumes_unique
    · exact Merger.resumes_restrictedImports
    · exact Merger.resumes_unique
  exact hresumes

/-- Restrictions of imports, given as a name, as paths and as patterns, that become one
argument; a number behind them is complained about in either way. -/
theorem restrictedImports_merge_resumes :
    let merger : Merger := .ofArguments Merger.restrictedImports
    let earlier : List (List Value) := [[.string "lodash", .string "rxjs"],
      [.object [("patterns", .strings ["@internal/*"]), ("paths", .strings ["rxjs", "moment"])]]]
    let later : List (List Value) := [[], [.string "moment", .ofNat 5]]
    let merged : List Value := [.object [("paths", .strings ["lodash", "rxjs", "moment"]),
      ("patterns", .strings ["@internal/*"])]]
    ("no-restricted-imports", merger) ∈ MergerRegistry.builtin ∧
      merger.mergeArguments earlier = .ok merged ∧
      merger.mergeArguments (merged :: later) = merger.mergeArguments (earlier ++ later) ∧
      merger.mergeArguments (earlier ++ later) = .error "Unsupported restricted import 5." := by
  intro merger earlier later merged
  have hentry : ("no-restricted-imports", merger) ∈ MergerRegistry.builtin := by
    simp [MergerRegistry.builtin, merger]
  have hmerged : merger.mergeArguments earlier = .ok merged := by decide +kernel
  exact ⟨hentry, hmerged, builtin_merge_resumes _ hentry earlier later merged hmerged,
    by decide +kernel⟩

end Relint
