import Relint.Merge.Builtin
import Relint.Proofs.Assoc
import Relint.Proofs.Merge.Accepting
import Relint.Proofs.Traversal

/-!
What the built-in mergers accept. Three of them can refuse: that of forbidden types
wants a map of types, that of type assertions wants agreement on one style, and that
of restricted imports wants paths and objects. The others agree to anything.
-/

namespace Relint

/-- Arguments for a target rule that the mergers of the program can reconcile with
others of the kind. Targets that no merger refuses have no condition. -/
structure Reconcilable (target : String) (arguments : List Value) : Prop where
  banned_types : target = "@typescript-eslint/ban-types" →
    ∀ options ∈ arguments.head?, ∃ types, Merger.bannedTypes options = .ok types
  assertion_style : target = "@typescript-eslint/consistent-type-assertions" →
    ∀ options ∈ arguments.head?,
      (options.field? "assertionStyle").bind Value.string? = some "as"
  restricted_imports : target = "no-restricted-imports" →
    ∀ argument ∈ arguments, ∃ fields, argument = .object fields

namespace Merger

theorem accepts_unique (shape : List Value → Prop) : unique.Accepts shape :=
  fun _ _ => ⟨_, rfl⟩

theorem accepts_disabling (shape : List Value → Prop) : disabling.Accepts shape :=
  fun _ _ => ⟨_, rfl⟩

theorem accepts_banTypes : (ofArguments banTypes).Accepts
    (Reconcilable "@typescript-eslint/ban-types") := by
  intro proposals hproposals
  have hmaps : ∃ maps, (firstArguments proposals).mapM bannedTypes = .ok maps := by
    rw [exists_mapM_eq_ok_iff]
    intro options hoptions
    obtain ⟨arguments, hmem, hhead⟩ := List.mem_filterMap.mp hoptions
    exact (hproposals arguments hmem).banned_types rfl options hhead
  obtain ⟨maps, hmaps⟩ := hmaps
  simp only [ofArguments, banTypes, hmaps, bind, Except.bind]
  split
  · exact ⟨_, rfl⟩
  · exact ⟨_, rfl⟩

/-- A choice that is open or has fallen on one style can take in any number of
options with that style. -/
theorem joinAll_of_style {style : String} {items : List Value} {choice : AssertionChoice}
    (hchoice : choice.style = none ∨ choice.style = some style)
    (hitems : ∀ options ∈ items,
      (options.field? "assertionStyle").bind Value.string? = some style) :
    ∃ result, choice.joinAll items = .ok result := by
  induction items generalizing choice with
  | nil => exact ⟨choice, rfl⟩
  | cons options rest ih =>
      have hstyle : joinStyle choice.style
          ((options.field? "assertionStyle").bind Value.string?) = .ok (some style) := by
        rw [hitems options List.mem_cons_self]
        rcases hchoice with hopen | hfallen
        · rw [hopen]
          rfl
        · rw [hfallen]
          simp [joinStyle]
      have hjoin : ∃ next, choice.join options = .ok next ∧ next.style = some style := by
        simp [AssertionChoice.join, hstyle, Except.map]
      obtain ⟨next, hnext, hnextStyle⟩ := hjoin
      obtain ⟨result, hresult⟩ := ih (Or.inr hnextStyle) fun options' hmem =>
        hitems options' (List.mem_cons_of_mem _ hmem)
      refine ⟨result, ?_⟩
      simp only [AssertionChoice.joinAll, hnext, bind, Except.bind]
      exact hresult

theorem accepts_typeAssertions : (ofArguments typeAssertions).Accepts
    (Reconcilable "@typescript-eslint/consistent-type-assertions") := by
  intro proposals hproposals
  have hjoined : ∃ result,
      AssertionChoice.joinAll ⟨none, none⟩ (firstArguments proposals) = .ok result := by
    apply joinAll_of_style (Or.inl rfl)
    intro options hoptions
    obtain ⟨arguments, hmem, hhead⟩ := List.mem_filterMap.mp hoptions
    exact (hproposals arguments hmem).assertion_style rfl options hhead
  obtain ⟨result, hresult⟩ := hjoined
  exact ⟨result.toArguments, by simp [ofArguments, typeAssertions, hresult, Except.map]⟩

theorem joinAll_of_objects {arguments : List Value} (r : ImportRestriction)
    (h : ∀ argument ∈ arguments, ∃ fields, argument = .object fields) :
    ∃ result, r.joinAll arguments = .ok result := by
  induction arguments generalizing r with
  | nil => exact ⟨r, rfl⟩
  | cons argument rest ih =>
      obtain ⟨fields, rfl⟩ := h argument List.mem_cons_self
      obtain ⟨result, hresult⟩ := ih
        ⟨Value.pushAllUnique r.paths (arrayField (.object fields) "paths"),
          Value.pushAllUnique r.patterns (arrayField (.object fields) "patterns")⟩
        fun argument' hmem => h argument' (List.mem_cons_of_mem _ hmem)
      refine ⟨result, ?_⟩
      simp only [ImportRestriction.joinAll, ImportRestriction.join, bind, Except.bind]
      exact hresult

theorem accepts_restrictedImports : (ofArguments restrictedImports).Accepts
    (Reconcilable "no-restricted-imports") := by
  intro proposals hproposals
  have hjoined : ∃ result,
      ImportRestriction.joinAll ⟨[], []⟩ proposals.flatten = .ok result := by
    apply joinAll_of_objects
    intro argument hargument
    obtain ⟨arguments, hmem, hin⟩ := List.mem_flatten.mp hargument
    exact (hproposals arguments hmem).restricted_imports rfl argument hin
  obtain ⟨result, hresult⟩ := hjoined
  exact ⟨result.toArguments, by simp [ofArguments, restrictedImports, hresult, Except.map]⟩

end Merger

/-- Proposals that can be reconciled are, whatever their number. -/
theorem MergerRegistry.builtin_acceptsShapes : builtin.AcceptsShapes Reconcilable := by
  intro target merger hlookup
  have hmem : (target, merger) ∈ builtin := Assoc.mem_of_lookup hlookup
  simp only [builtin, List.mem_cons, Prod.mk.injEq, List.not_mem_nil, or_false] at hmem
  rcases hmem with ⟨rfl, rfl⟩ | ⟨rfl, rfl⟩ | ⟨rfl, rfl⟩ | ⟨rfl, rfl⟩ | ⟨rfl, rfl⟩ | ⟨rfl, rfl⟩ |
    ⟨rfl, rfl⟩ | ⟨rfl, rfl⟩
  · exact Merger.accepts_banTypes
  · exact Merger.accepts_typeAssertions
  · exact Merger.accepts_unique _
  · exact Merger.accepts_disabling _
  · exact Merger.accepts_unique _
  · exact Merger.accepts_unique _
  · exact Merger.accepts_restrictedImports
  · exact Merger.accepts_unique _

end Relint
