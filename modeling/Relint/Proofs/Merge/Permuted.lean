import Relint.Merge.Builtin
import Relint.Proofs.Value.Unique
import Mathlib.Data.List.Perm.Basic

/-!
Merging in another order. The mergers that collect items and the one that puts options about
type assertions together go through their lists with a state that does not remember the
order: what was collected up to its order, the one style, and how strict the policy is. So
proposals can come in any order. Only the complaint that is made first, the order of what was
collected, and the choice among policies that are equally strict depend on it.
-/

namespace Relint

namespace Merger

variable {ps qs : List (List Value)}

/-- Two merges that both refuse, or both succeed with arguments that are related. -/
inductive Alike (related : List Value → List Value → Prop) :
    Except String (List Value) → Except String (List Value) → Prop
  | refused (reason reason' : String) : Alike related (.error reason) (.error reason')
  | merged {arguments arguments' : List Value} (h : related arguments arguments') :
      Alike related (.ok arguments) (.ok arguments')

/-- An option that the first of some arguments sets. -/
def optionIn (arguments : List Value) (key : String) : Option Value :=
  arguments.head?.bind (·.field? key)

section RestrictedImports

/-- Two lists with the same items in them. -/
inductive SameItems : Value → Value → Prop
  | array {items others : List Value} (h : Value.SameSet items others) :
      SameItems (.array items) (.array others)

/-- Each of the two options is left out in both arguments or in none, and where it is there, it
is a list, and the same things are forbidden in both. -/
def SameRestriction (arguments others : List Value) : Prop :=
  ∀ key ∈ ["paths", "patterns"],
    Option.Rel SameItems (optionIn arguments key) (optionIn others key)

/-- Whether a value can restrict imports. -/
def isRestriction : Value → Bool
  | .string _ | .object _ => true
  | _ => false

/-- The paths that one argument forbids. -/
def pathsIn : Value → List Value
  | .string s => [.string s]
  | argument => arrayField argument "paths"

theorem joinAll_of_isRestriction {items : List Value}
    (h : ∀ argument ∈ items, isRestriction argument = true) (r : ImportRestriction) :
    r.joinAll items = .ok ⟨Value.pushAllUnique r.paths (items.flatMap pathsIn),
      Value.pushAllUnique r.patterns (items.flatMap (arrayField · "patterns"))⟩ := by
  induction items generalizing r with
  | nil => rfl
  | cons argument rest ih =>
      obtain ⟨hargument, hrest⟩ := List.forall_mem_cons.mp h
      simp only [List.flatMap_cons, Value.pushAllUnique_append]
      cases argument with
      | string s => exact ih hrest _
      | object fields => exact ih hrest _
      | null | bool | number | array => cases hargument

/-- An argument that cannot restrict imports is complained about wherever it stands. -/
theorem joinAll_of_not_isRestriction {items : List Value} {argument : Value}
    (hmem : argument ∈ items) (h : isRestriction argument = false) (r : ImportRestriction) :
    ∃ reason, r.joinAll items = .error reason := by
  induction items generalizing r with
  | nil => cases hmem
  | cons head rest ih =>
      rw [ImportRestriction.joinAll]
      cases hjoin : r.join head with
      | error reason => exact ⟨reason, rfl⟩
      | ok next =>
          rcases List.mem_cons.mp hmem with rfl | hrest
          · cases argument <;> cases h <;> cases hjoin
          · exact ih hrest next

/-- The value of an option with some items in it, which is left out without any. -/
def optionOf (items : List Value) : Option Value :=
  if items = [] then none else some (.array items)

theorem optionIn_toArguments (r : ImportRestriction) :
    optionIn r.toArguments "paths" = optionOf r.paths ∧
      optionIn r.toArguments "patterns" = optionOf r.patterns := by
  obtain ⟨paths, patterns⟩ := r
  cases paths <;> cases patterns <;> exact ⟨rfl, rfl⟩

theorem rel_optionOf {items others : List Value} (h : Value.SameSet items others) :
    Option.Rel SameItems (optionOf items) (optionOf others) := by
  unfold optionOf
  by_cases hnil : items = []
  · rw [if_pos hnil, if_pos (h.eq_nil_iff.mp hnil)]
    exact .none
  · rw [if_neg hnil, if_neg (mt h.eq_nil_iff.mpr hnil)]
    exact .some (.array h)

theorem restrictedImports_perm (h : ps.Perm qs) :
    Alike SameRestriction (restrictedImports ps) (restrictedImports qs) := by
  have hitems : ps.flatten.Perm qs.flatten := h.flatten
  unfold restrictedImports
  by_cases hall : ∀ argument ∈ ps.flatten, isRestriction argument = true
  · have hall' : ∀ argument ∈ qs.flatten, isRestriction argument = true :=
      fun argument hmem => hall argument (hitems.mem_iff.mpr hmem)
    rw [joinAll_of_isRestriction hall, joinAll_of_isRestriction hall']
    refine .merged ?_
    have hpaths := rel_optionOf (Value.sameSet_pushAllUnique (hitems.flatMap_right pathsIn))
    have hpatterns :=
      rel_optionOf (Value.sameSet_pushAllUnique (hitems.flatMap_right (arrayField · "patterns")))
    intro key hkey
    simp only [List.mem_cons, List.not_mem_nil, or_false] at hkey
    rcases hkey with rfl | rfl
    · rwa [(optionIn_toArguments _).1, (optionIn_toArguments _).1]
    · rwa [(optionIn_toArguments _).2, (optionIn_toArguments _).2]
  · push Not at hall
    obtain ⟨argument, hmem, hrefused⟩ := hall
    have hnot : isRestriction argument = false := by simpa using hrefused
    obtain ⟨reason, hreason⟩ := joinAll_of_not_isRestriction hmem hnot ⟨[], []⟩
    obtain ⟨reason', hreason'⟩ :=
      joinAll_of_not_isRestriction (hitems.mem_iff.mp hmem) hnot ⟨[], []⟩
    rw [hreason, hreason']
    exact .refused reason reason'

end RestrictedImports

section TypeAssertions

/-- The string that options give under a key. -/
def stringFor? (key : String) (options : Value) : Option String :=
  (options.field? key).bind Value.string?

/-- The styles of type assertions that lists of arguments propose. -/
def stylesOf (lists : List (List Value)) : List String :=
  (firstArguments lists).filterMap (stringFor? "assertionStyle")

/-- The policies on object literals that lists of arguments propose. -/
def policiesOf (lists : List (List Value)) : List String :=
  (firstArguments lists).filterMap (stringFor? "objectLiteralTypeAssertions")

/-- The policies that have different degrees of strictness. -/
def knownPolicies : List String :=
  ["never", "allow-as-parameter", "allow"]

/-- Both arguments have the style that the lists propose, and both have a policy that is as
strict as the strictest one that is proposed; if all policies are known, the arguments are the
same. -/
structure SameAssertions (lists : List (List Value)) (arguments others : List Value) : Prop where
  style : ∀ shown ∈ [arguments, others],
    shown.head?.bind (stringFor? "assertionStyle") = (stylesOf lists).head?
  policy : ∀ shown ∈ [arguments, others],
    (shown.head?.bind (stringFor? "objectLiteralTypeAssertions")).map strictness =
      ((policiesOf lists).map strictness).max?
  eq_of_known : (∀ policy ∈ policiesOf lists, policy ∈ knownPolicies) → arguments = others

/-- Takes in styles one after the other. -/
def joinStyles (chosen : Option String) (styles : List String) : Except String (Option String) :=
  styles.foldlM (fun chosen style => joinStyle chosen (some style)) chosen

/-- Takes in policies one after the other. -/
def joinPolicies (chosen : Option String) (policies : List String) : Option String :=
  policies.foldl (fun chosen policy => joinPolicy chosen (some policy)) chosen

/-- Styles and policies are taken in apart from each other. -/
theorem joinAll_choice (choice : AssertionChoice) (items : List Value) :
    choice.joinAll items =
      (joinStyles choice.style (items.filterMap (stringFor? "assertionStyle"))).map fun style =>
        ⟨style, joinPolicies choice.policy
          (items.filterMap (stringFor? "objectLiteralTypeAssertions"))⟩ := by
  induction items generalizing choice with
  | nil => rfl
  | cons options rest ih =>
      have hpolicy : ∀ style : Option String,
          AssertionChoice.joinAll
              ⟨style, joinPolicy choice.policy (stringFor? "objectLiteralTypeAssertions" options)⟩
              rest =
            (joinStyles style (rest.filterMap (stringFor? "assertionStyle"))).map fun style =>
              ⟨style, joinPolicies choice.policy
                ((options :: rest).filterMap (stringFor? "objectLiteralTypeAssertions"))⟩ := by
        intro style
        rw [ih, List.filterMap_cons]
        cases hproposed : stringFor? "objectLiteralTypeAssertions" options with
        | none => cases choice.policy <;> rfl
        | some policy => rfl
      have hjoin : choice.join options =
          (joinStyle choice.style (stringFor? "assertionStyle" options)).map fun style =>
            ⟨style, joinPolicy choice.policy
              (stringFor? "objectLiteralTypeAssertions" options)⟩ := rfl
      rw [AssertionChoice.joinAll, hjoin]
      cases hproposed : stringFor? "assertionStyle" options with
      | none =>
          have hkept : joinStyle choice.style none = .ok choice.style := by
            cases choice.style <;> rfl
          rw [hkept, List.filterMap_cons_none hproposed]
          exact hpolicy choice.style
      | some style =>
          rw [List.filterMap_cons_some hproposed, joinStyles, List.foldlM_cons]
          cases joinStyle choice.style (some style) with
          | error reason => rfl
          | ok next => exact hpolicy next

/-- Styles that are all the same are taken in, and otherwise one of them is complained
about. -/
theorem joinStyles_some (chosen : String) (styles : List String) :
    (∀ style ∈ styles, style = chosen) ∧ joinStyles (some chosen) styles = .ok (some chosen) ∨
      (∃ style ∈ styles, style ≠ chosen) ∧
        ∃ reason, joinStyles (some chosen) styles = .error reason := by
  induction styles with
  | nil => exact .inl ⟨by simp, rfl⟩
  | cons style rest ih =>
      by_cases heq : chosen = style
      · subst heq
        have hstep : joinStyles (some chosen) (chosen :: rest) = joinStyles (some chosen) rest := by
          rw [joinStyles, List.foldlM_cons, joinStyle, if_pos rfl]
          rfl
        rw [hstep]
        rcases ih with ⟨hsame, hjoined⟩ | ⟨⟨other, hmem, hne⟩, hfails⟩
        · exact .inl ⟨List.forall_mem_cons.mpr ⟨rfl, hsame⟩, hjoined⟩
        · exact .inr ⟨⟨other, List.mem_cons_of_mem _ hmem, hne⟩, hfails⟩
      · refine .inr ⟨⟨style, List.mem_cons_self, Ne.symm heq⟩, ?_⟩
        simp only [joinStyles, List.foldlM_cons, joinStyle, if_neg heq]
        exact ⟨_, rfl⟩

theorem joinStyles_none (styles : List String) :
    (∀ first ∈ styles, ∀ second ∈ styles, first = second) ∧
        joinStyles none styles = .ok styles.head? ∨
      (∃ first ∈ styles, ∃ second ∈ styles, first ≠ second) ∧
        ∃ reason, joinStyles none styles = .error reason := by
  cases styles with
  | nil => exact .inl ⟨by simp, rfl⟩
  | cons chosen rest =>
      have hstep : joinStyles none (chosen :: rest) = joinStyles (some chosen) rest := rfl
      rw [hstep]
      rcases joinStyles_some chosen rest with ⟨hsame, hjoined⟩ | ⟨⟨style, hmem, hne⟩, hfails⟩
      · refine .inl ⟨?_, hjoined⟩
        have hall : ∀ style ∈ chosen :: rest, style = chosen :=
          List.forall_mem_cons.mpr ⟨rfl, hsame⟩
        intro first hfirst second hsecond
        rw [hall first hfirst, hall second hsecond]
      · exact .inr ⟨⟨style, List.mem_cons_of_mem _ hmem, chosen, List.mem_cons_self, hne⟩, hfails⟩

/-- What is chosen among policies is one of them, and none is stricter. -/
theorem joinPolicies_some (chosen : String) (policies : List String) :
    ∃ policy ∈ chosen :: policies, joinPolicies (some chosen) policies = some policy ∧
      ∀ other ∈ chosen :: policies, strictness other ≤ strictness policy := by
  induction policies generalizing chosen with
  | nil => exact ⟨chosen, List.mem_cons_self, rfl, by simp⟩
  | cons next rest ih =>
      obtain ⟨kept, hstep, hkept, hchosen, hnext⟩ : ∃ kept,
          joinPolicy (some chosen) (some next) = some kept ∧ (kept = chosen ∨ kept = next) ∧
            strictness chosen ≤ strictness kept ∧ strictness next ≤ strictness kept := by
        by_cases hle : strictness next ≤ strictness chosen
        · exact ⟨chosen, if_pos hle, .inl rfl, Nat.le_refl _, hle⟩
        · exact ⟨next, if_neg hle, .inr rfl, by omega, Nat.le_refl _⟩
      obtain ⟨policy, hmem, hjoined, hbound⟩ := ih kept
      have hbest : strictness kept ≤ strictness policy := hbound kept List.mem_cons_self
      refine ⟨policy, ?_, ?_, ?_⟩
      · rcases List.mem_cons.mp hmem with rfl | hrest
        · rcases hkept with rfl | rfl <;> simp
        · simp [hrest]
      · rw [joinPolicies, List.foldl_cons, hstep]
        exact hjoined
      · intro other hother
        rcases List.mem_cons.mp hother with rfl | hother
        · omega
        · rcases List.mem_cons.mp hother with rfl | hother
          · omega
          · exact hbound other (List.mem_cons_of_mem _ hother)

theorem joinPolicies_none (policies : List String) :
    (joinPolicies none policies).map strictness = (policies.map strictness).max? ∧
      ∀ policy ∈ joinPolicies none policies, policy ∈ policies := by
  cases policies with
  | nil => exact ⟨rfl, by simp [joinPolicies]⟩
  | cons chosen rest =>
      have hstep : joinPolicies none (chosen :: rest) = joinPolicies (some chosen) rest := rfl
      obtain ⟨policy, hmem, hjoined, hbound⟩ := joinPolicies_some chosen rest
      rw [hstep, hjoined]
      refine ⟨?_, by simpa using hmem⟩
      rw [Option.map_some, eq_comm, List.max?_eq_some_iff]
      exact ⟨List.mem_map_of_mem hmem, List.forall_mem_map.mpr hbound⟩

/-- A known policy is determined by how strict it is. -/
theorem strictness_injOn : ∀ first ∈ knownPolicies, ∀ second ∈ knownPolicies,
    strictness first = strictness second → first = second := by
  decide

theorem eq_of_map_strictness_eq {first second : Option String}
    (hfirst : ∀ policy ∈ first, policy ∈ knownPolicies)
    (hsecond : ∀ policy ∈ second, policy ∈ knownPolicies)
    (h : first.map strictness = second.map strictness) : first = second := by
  cases first with
  | none => exact (Option.map_eq_none_iff.mp h.symm).symm
  | some policy =>
      obtain ⟨policy', rfl, heq⟩ := Option.map_eq_some_iff.mp h.symm
      rw [strictness_injOn policy' (hsecond _ rfl) policy (hfirst _ rfl) heq]

theorem strings_toArguments (choice : AssertionChoice) :
    choice.toArguments.head?.bind (stringFor? "assertionStyle") = choice.style ∧
      choice.toArguments.head?.bind (stringFor? "objectLiteralTypeAssertions") =
        choice.policy := by
  obtain ⟨style, policy⟩ := choice
  cases style <;> cases policy <;> exact ⟨rfl, rfl⟩

/-- Options about type assertions are merged unless two styles are proposed. -/
theorem typeAssertions_cases (lists : List (List Value)) :
    (∀ first ∈ stylesOf lists, ∀ second ∈ stylesOf lists, first = second) ∧
        typeAssertions lists = .ok (AssertionChoice.toArguments
          ⟨(stylesOf lists).head?, joinPolicies none (policiesOf lists)⟩) ∨
      (∃ first ∈ stylesOf lists, ∃ second ∈ stylesOf lists, first ≠ second) ∧
        ∃ reason, typeAssertions lists = .error reason := by
  have hmerge : typeAssertions lists =
      (joinStyles none (stylesOf lists)).map fun style =>
        AssertionChoice.toArguments ⟨style, joinPolicies none (policiesOf lists)⟩ := by
    rw [typeAssertions, joinAll_choice, stylesOf, policiesOf]
    cases joinStyles none ((firstArguments lists).filterMap (stringFor? "assertionStyle")) <;> rfl
  rcases joinStyles_none (stylesOf lists) with ⟨hsame, hjoined⟩ | ⟨hdiffer, reason, hfails⟩
  · exact .inl ⟨hsame, by rw [hmerge, hjoined]; rfl⟩
  · exact .inr ⟨hdiffer, reason, by rw [hmerge, hfails]; rfl⟩

/-- Items that are all the same begin with the same one in any order. -/
theorem head?_eq_of_perm {first second : List String} (h : first.Perm second)
    (hsame : ∀ x ∈ first, ∀ y ∈ first, x = y) : second.head? = first.head? := by
  cases hsecond : second with
  | nil =>
      rw [hsecond] at h
      rw [h.eq_nil]
  | cons y rest =>
      cases hfirst : first with
      | nil =>
          rw [hfirst, hsecond] at h
          cases h.nil_eq
      | cons x _ =>
          have hx : x ∈ first := by simp [hfirst]
          have hy : y ∈ first := h.mem_iff.mpr (by simp [hsecond])
          rw [List.head?_cons, List.head?_cons, hsame y hy x hx]

theorem max?_eq_of_perm {first second : List Nat} (h : first.Perm second) :
    first.max? = second.max? := by
  apply Option.ext
  intro n
  simp only [List.max?_eq_some_iff, h.mem_iff]

theorem typeAssertions_perm (h : ps.Perm qs) :
    Alike (SameAssertions ps) (typeAssertions ps) (typeAssertions qs) := by
  have hfirst : (firstArguments ps).Perm (firstArguments qs) := h.filterMap _
  have hstyles : (stylesOf ps).Perm (stylesOf qs) := hfirst.filterMap _
  have hpolicies : (policiesOf ps).Perm (policiesOf qs) := hfirst.filterMap _
  have hmem : ∀ {style}, style ∈ stylesOf ps ↔ style ∈ stylesOf qs := hstyles.mem_iff
  rcases typeAssertions_cases ps with ⟨hsame, hmerged⟩ | ⟨hdiffer, reason, hfails⟩
  · rcases typeAssertions_cases qs with ⟨_, hmerged'⟩ | ⟨⟨first, hf, second, hs, hne⟩, _⟩
    · rw [hmerged, hmerged']
      have hstyle : (stylesOf qs).head? = (stylesOf ps).head? := head?_eq_of_perm hstyles hsame
      have hstrictest : ((policiesOf qs).map strictness).max? =
          ((policiesOf ps).map strictness).max? := max?_eq_of_perm (hpolicies.symm.map _)
      obtain ⟨hpolicy, hchosen⟩ := joinPolicies_none (policiesOf ps)
      obtain ⟨hpolicy', hchosen'⟩ := joinPolicies_none (policiesOf qs)
      rw [hstrictest] at hpolicy'
      refine .merged ⟨?_, ?_, ?_⟩
      · simp only [List.forall_mem_cons, strings_toArguments, hstyle]
        simp
      · simp only [List.forall_mem_cons, strings_toArguments, hpolicy, hpolicy']
        simp
      · intro hknown
        have hequal : joinPolicies none (policiesOf ps) = joinPolicies none (policiesOf qs) := by
          refine eq_of_map_strictness_eq (fun policy hp => hknown policy (hchosen policy hp)) ?_
            (hpolicy.trans hpolicy'.symm)
          intro policy hp
          exact hknown policy (hpolicies.mem_iff.mpr (hchosen' policy hp))
        rw [hstyle, hequal]
    · exact absurd (hsame first (hmem.mpr hf) second (hmem.mpr hs)) hne
  · obtain ⟨first, hf, second, hs, hne⟩ := hdiffer
    rcases typeAssertions_cases qs with ⟨hsame, _⟩ | ⟨_, reason', hfails'⟩
    · exact absurd (hsame first (hmem.mp hf) second (hmem.mp hs)) hne
    · rw [hfails, hfails']
      exact .refused reason reason'

end TypeAssertions

/-- Proposals can be merged in any order. Arguments that are collected are the same ones, each
once; restrictions of imports are refused in both orders or forbid the same paths and the same
patterns; and options about type assertions are refused exactly when two different styles are
proposed, and otherwise have the one style and the strictest policy in both orders. -/
theorem merge_in_any_order (h : ps.Perm qs) :
    Value.SameSet (uniqueArguments ps) (uniqueArguments qs) ∧
      Alike SameRestriction (restrictedImports ps) (restrictedImports qs) ∧
      ((∃ reason, typeAssertions ps = .error reason) ↔
        ∃ first ∈ stylesOf ps, ∃ second ∈ stylesOf ps, first ≠ second) ∧
      Alike (SameAssertions ps) (typeAssertions ps) (typeAssertions qs) := by
  refine ⟨Value.sameSet_pushAllUnique h.flatten, restrictedImports_perm h, ?_,
    typeAssertions_perm h⟩
  rcases typeAssertions_cases ps with ⟨hsame, hmerged⟩ | ⟨hdiffer, hfails⟩
  · constructor
    · rintro ⟨reason, hreason⟩
      rw [hmerged] at hreason
      cases hreason
    · rintro ⟨first, hfirst, second, hsecond, hne⟩
      exact absurd (hsame first hfirst second hsecond) hne
  · exact iff_of_true hfails hdiffer

/-- Two proposals in both orders that name one module both, with two policies that are
equally strict, of which the first one counts. -/
theorem tied_policies_in_any_order :
    let first : List Value := [.object [("assertionStyle", .string "as"),
      ("objectLiteralTypeAssertions", .string "allow"), ("paths", .strings ["rxjs"])],
      .string "moment"]
    let second : List Value := [.object [("objectLiteralTypeAssertions", .string "tolerate"),
      ("patterns", .strings ["lodash/*"])], .string "moment"]
    [first, second].Perm [second, first] ∧
      (Value.SameSet (uniqueArguments [first, second]) (uniqueArguments [second, first]) ∧
        Alike SameRestriction (restrictedImports [first, second])
          (restrictedImports [second, first]) ∧
        ((∃ reason, typeAssertions [first, second] = .error reason) ↔
          ∃ style ∈ stylesOf [first, second], ∃ other ∈ stylesOf [first, second],
            style ≠ other) ∧
        Alike (SameAssertions [first, second]) (typeAssertions [first, second])
          (typeAssertions [second, first])) ∧
      typeAssertions [first, second] = .ok [.object [("assertionStyle", .string "as"),
        ("objectLiteralTypeAssertions", .string "allow")]] ∧
      typeAssertions [second, first] = .ok [.object [("assertionStyle", .string "as"),
        ("objectLiteralTypeAssertions", .string "tolerate")]] := by
  intro first second
  have hperm : [first, second].Perm [second, first] := List.Perm.swap second first []
  exact ⟨hperm, merge_in_any_order hperm, by decide +kernel, by decide +kernel⟩

end Merger

end Relint
