import Relint.Converter.Restriction
import Relint.Proofs.Traversal

/-!
What becomes of the entries of `ban`. An entry forbids a global name or a property of an
object, and no entry does both. The converter answers exactly when every entry does one of
the two, and then it puts each entry, with its message, behind the earlier ones of its sort.
-/

namespace Relint

namespace Converter

/-- Whether an entry of `ban` has the shape of a global name: the name itself, also alone in
an array, or an object with that name. -/
def namesGlobal : Value → Bool
  | .string _ => true
  | .array [.string _] => true
  | .object fields => (fields.lookup "name").any Value.isString
  | _ => false

/-- Whether an entry of `ban` has the shape of a property: an array that starts with two
strings, or an object whose name is an array of exactly two. -/
def namesProperty : Value → Bool
  | .array (.string _ :: .string _ :: _) => true
  | .object fields =>
      match fields.lookup "name" with
      | some (.array [.string _, .string _]) => true
      | _ => false
  | _ => false

/-- An entry of `ban` and the argument of the target rule that forbids the same global
name. -/
inductive ForbidsGlobal : Value → Value → Prop
  | name (name : String) : ForbidsGlobal (.string name) (.string name)
  | nameAlone (name : String) : ForbidsGlobal (.array [.string name]) (.string name)
  | named {fields : Fields} {name : String}
      (hname : fields.lookup "name" = some (.string name))
      (hmessage : fields.lookup "message" = none) :
      ForbidsGlobal (.object fields) (.object [("name", .string name)])
  | explained {fields : Fields} {name : String} {message : Value}
      (hname : fields.lookup "name" = some (.string name))
      (hmessage : fields.lookup "message" = some message) :
      ForbidsGlobal (.object fields) (.object [("name", .string name), ("message", message)])

/-- An entry of `ban` and the argument of the target rule that forbids the same property of
the same object. -/
inductive ForbidsProperty : Value → Value → Prop
  | path (object property : String) :
      ForbidsProperty (.array [.string object, .string property])
        (.object [("object", .string object), ("property", .string property)])
  | pathExplained (object property : String) (message : Value) (rest : List Value) :
      ForbidsProperty (.array (.string object :: .string property :: message :: rest))
        (.object [("object", .string object), ("property", .string property),
          ("message", message)])
  | named {fields : Fields} {object property : String}
      (hname : fields.lookup "name" = some (.array [.string object, .string property]))
      (hmessage : fields.lookup "message" = none) :
      ForbidsProperty (.object fields)
        (.object [("object", .string object), ("property", .string property)])
  | explained {fields : Fields} {object property : String} {message : Value}
      (hname : fields.lookup "name" = some (.array [.string object, .string property]))
      (hmessage : fields.lookup "message" = some message) :
      ForbidsProperty (.object fields)
        (.object [("object", .string object), ("property", .string property),
          ("message", message)])

/-- Whether what was read of an entry forbids what the entry does. -/
def Ban.StandsFor (entry : Value) : Ban → Prop
  | .global image => ForbidsGlobal entry image
  | .property image => ForbidsProperty entry image

section Entry

variable {entry image : Value} {b : Ban}

theorem namesGlobal_of_forbidsGlobal (h : ForbidsGlobal entry image) :
    namesGlobal entry = true ∧ namesProperty entry = false := by
  cases h with
  | name | nameAlone => exact ⟨rfl, rfl⟩
  | named hname | explained hname => simp [namesGlobal, namesProperty, hname, Value.isString]

theorem namesProperty_of_forbidsProperty (h : ForbidsProperty entry image) :
    namesGlobal entry = false ∧ namesProperty entry = true := by
  cases h with
  | path | pathExplained => exact ⟨rfl, rfl⟩
  | named hname | explained hname => simp [namesGlobal, namesProperty, hname, Value.isString]

/-- An entry is read as what it forbids, or it has neither shape and is refused. -/
theorem readBan_cases (entry : Value) :
    (∃ b : Ban, readBan entry = .ok b ∧ b.StandsFor entry) ∨
      (∃ reason, readBan entry = .error reason) ∧
        namesGlobal entry = false ∧ namesProperty entry = false := by
  unfold readBan
  split
  · exact Or.inl ⟨_, rfl, ForbidsGlobal.name _⟩
  · exact Or.inl ⟨_, rfl, ForbidsGlobal.nameAlone _⟩
  · rename_i object property rest
    cases rest with
    | nil => exact Or.inl ⟨_, rfl, ForbidsProperty.path object property⟩
    | cons message rest =>
        exact Or.inl ⟨_, rfl, ForbidsProperty.pathExplained object property message rest⟩
  · rename_i fields
    split
    · rename_i hname
      exact Or.inr ⟨⟨_, rfl⟩, by simp [namesGlobal, namesProperty, hname]⟩
    · rename_i name hname
      cases hmessage : fields.lookup "message" with
      | none => exact Or.inl ⟨_, rfl, ForbidsGlobal.named hname hmessage⟩
      | some message => exact Or.inl ⟨_, rfl, ForbidsGlobal.explained hname hmessage⟩
    · rename_i object property hname
      cases hmessage : fields.lookup "message" with
      | none => exact Or.inl ⟨_, rfl, ForbidsProperty.named hname hmessage⟩
      | some message => exact Or.inl ⟨_, rfl, ForbidsProperty.explained hname hmessage⟩
    · rename_i items hother hname
      refine Or.inr ⟨⟨_, rfl⟩, by simp [namesGlobal, hname, Value.isString], ?_⟩
      simp only [namesProperty, hname]
      split <;> simp_all
    · rename_i name hstring _ harray hname
      refine Or.inr ⟨⟨_, rfl⟩, ?_, ?_⟩
      · cases name <;> simp_all [namesGlobal, Value.isString]
      · simp only [namesProperty, hname]
        split <;> simp_all
  · refine Or.inr ⟨⟨_, rfl⟩, ?_, ?_⟩
    · unfold namesGlobal
      split <;> simp_all
    · unfold namesProperty
      split <;> simp_all

/-- An entry is read as what forbids the same, and as nothing else. -/
theorem readBan_eq_ok_iff : readBan entry = .ok b ↔ b.StandsFor entry := by
  constructor
  · intro h
    rcases readBan_cases entry with ⟨_, hread, hstands⟩ | ⟨⟨_, hread⟩, _⟩
    · rw [hread] at h
      cases h
      exact hstands
    · rw [hread] at h
      cases h
  · intro h
    cases b with
    | global image =>
        cases h with
        | name | nameAlone => rfl
        | named hname hmessage | explained hname hmessage =>
            simp [readBan, hname, hmessage, messageField]
    | property image =>
        cases h with
        | path | pathExplained => rfl
        | named hname hmessage | explained hname hmessage =>
            simp [readBan, hname, hmessage, propertyEntry, messageField]

theorem exists_readBan_iff :
    (∃ b, readBan entry = .ok b) ↔ namesGlobal entry = true ∨ namesProperty entry = true := by
  rcases readBan_cases entry with ⟨b, hread, hstands⟩ | ⟨⟨_, hread⟩, hglobal, hproperty⟩
  · cases b with
    | global => simp [hread, namesGlobal_of_forbidsGlobal hstands]
    | property => simp [hread, namesProperty_of_forbidsProperty hstands]
  · simp [hread, hglobal, hproperty]

theorem rightUnique_forbidsGlobal : Relator.RightUnique ForbidsGlobal := by
  intro entry image other h hother
  have himage : readBan entry = .ok (.global image) := readBan_eq_ok_iff.mpr h
  have hread : readBan entry = .ok (.global other) := readBan_eq_ok_iff.mpr hother
  exact Ban.global.inj (Except.ok.inj (himage.symm.trans hread))

theorem rightUnique_forbidsProperty : Relator.RightUnique ForbidsProperty := by
  intro entry image other h hother
  have himage : readBan entry = .ok (.property image) := readBan_eq_ok_iff.mpr h
  have hread : readBan entry = .ok (.property other) := readBan_eq_ok_iff.mpr hother
  exact Ban.property.inj (Except.ok.inj (himage.symm.trans hread))

end Entry

/-- Entries of `ban` and the two lists of arguments that they come to: every entry is in one
of the lists, and each list has the order of the entries. -/
structure SortsBans (entries globals properties : List Value) : Prop where
  forbids_globals : List.Forall₂ ForbidsGlobal (entries.filter namesGlobal) globals
  forbids_properties : List.Forall₂ ForbidsProperty (entries.filter namesProperty) properties
  length_eq : globals.length + properties.length = entries.length

section Sorting

variable {entries globals properties : List Value} {bans : List Ban}

theorem length_global_add_property (bans : List Ban) :
    (bans.filterMap Ban.global?).length + (bans.filterMap Ban.property?).length =
      bans.length := by
  induction bans with
  | nil => rfl
  | cons b rest ih =>
      cases b <;> simp only [List.filterMap_cons, Ban.global?, Ban.property?, List.length_cons] <;>
        omega

theorem sortsBans_of_mapM (h : entries.mapM readBan = .ok bans) :
    SortsBans entries (bans.filterMap Ban.global?) (bans.filterMap Ban.property?) := by
  have hread := mapM_eq_ok_iff.mp h
  refine ⟨forall₂_filter_filterMap hread ?_, forall₂_filter_filterMap hread ?_, ?_⟩
  · intro entry b hb
    have hstands := readBan_eq_ok_iff.mp hb
    cases b with
    | global image => exact ⟨(namesGlobal_of_forbidsGlobal hstands).1, hstands⟩
    | property image => exact (namesProperty_of_forbidsProperty hstands).1
  · intro entry b hb
    have hstands := readBan_eq_ok_iff.mp hb
    cases b with
    | global image => exact (namesGlobal_of_forbidsGlobal hstands).2
    | property image => exact ⟨(namesProperty_of_forbidsProperty hstands).2, hstands⟩
  · rw [length_global_add_property, hread.length_eq]

/-- No entry has both shapes, so the entries of either shape are as many as those of the one
and those of the other. -/
theorem length_shapes (entries : List Value) :
    (entries.filter namesGlobal).length + (entries.filter namesProperty).length =
      (entries.filter fun entry => namesGlobal entry || namesProperty entry).length := by
  simp only [← List.countP_eq_length_filter]
  induction entries with
  | nil => rfl
  | cons entry rest ih =>
      simp only [List.countP_cons, ← ih]
      rcases readBan_cases entry with ⟨b, _, hstands⟩ | ⟨_, hglobal, hproperty⟩
      · cases b with
        | global => simp [namesGlobal_of_forbidsGlobal hstands, Nat.add_right_comm]
        | property => simp [namesProperty_of_forbidsProperty hstands, Nat.add_assoc]
      · simp [hglobal, hproperty]

theorem SortsBans.shaped (h : SortsBans entries globals properties) :
    ∀ entry ∈ entries, namesGlobal entry = true ∨ namesProperty entry = true := by
  have hlength := length_shapes entries
  rw [h.forbids_globals.length_eq, h.forbids_properties.length_eq, h.length_eq, eq_comm,
    List.length_filter_eq_length_iff] at hlength
  simpa using hlength

theorem SortsBans.unique {globals' properties' : List Value}
    (h : SortsBans entries globals properties) (h' : SortsBans entries globals' properties') :
    globals = globals' ∧ properties = properties' :=
  ⟨List.right_unique_forall₂' rightUnique_forbidsGlobal h.forbids_globals h'.forbids_globals,
    List.right_unique_forall₂' rightUnique_forbidsProperty h.forbids_properties
      h'.forbids_properties⟩

theorem exists_mapM_readBan_iff :
    (∃ bans, entries.mapM readBan = .ok bans) ↔
      ∀ entry ∈ entries, namesGlobal entry = true ∨ namesProperty entry = true := by
  simp only [exists_mapM_eq_ok_iff, exists_readBan_iff]

theorem ban_of_mapM {ctx : Context} (h : ctx.arguments.mapM readBan = .ok bans) :
    ban ctx = .ok (.ofRules
      ((if bans.filterMap Ban.global? = [] then []
        else [⟨"no-restricted-globals", bans.filterMap Ban.global?, none, []⟩]) ++
      if bans.filterMap Ban.property? = [] then []
      else [⟨"no-restricted-properties", bans.filterMap Ban.property?, none, []⟩])) := by
  simp only [ban, h, bind, Except.bind, pure, Except.pure, ruleUnlessEmpty, List.isEmpty_iff]
  rfl

end Sorting

/-- The converter answers exactly when every entry has one of the two shapes. It answers
with one target rule for the global names and one for the properties, each left out when
there is nothing to forbid; their arguments come to all the entries, in their order. -/
theorem ban_sorts_entries (ctx : Context) :
    ((∃ c, ban ctx = .ok c) ↔
        ∀ entry ∈ ctx.arguments, namesGlobal entry = true ∨ namesProperty entry = true) ∧
      ∀ c, ban ctx = .ok c ↔
        ∃ globals properties, SortsBans ctx.arguments globals properties ∧
          c = .ofRules
            ((if globals = [] then [] else [⟨"no-restricted-globals", globals, none, []⟩]) ++
              if properties = [] then []
              else [⟨"no-restricted-properties", properties, none, []⟩]) := by
  rw [← exists_mapM_readBan_iff]
  cases hbans : ctx.arguments.mapM readBan with
  | error reason =>
      have hrefused : ban ctx = .error reason := by simp [ban, hbans, bind, Except.bind]
      refine ⟨by simp [hrefused], ?_⟩
      intro c
      refine iff_of_false (by simp [hrefused]) ?_
      rintro ⟨globals, properties, hsorted, _⟩
      obtain ⟨bans, hread⟩ := exists_mapM_readBan_iff.mpr hsorted.shaped
      rw [hbans] at hread
      cases hread
  | ok bans =>
      have hsorted := sortsBans_of_mapM hbans
      have hanswer := ban_of_mapM hbans
      refine ⟨by simp [hanswer], ?_⟩
      intro c
      rw [hanswer, Except.ok.injEq, eq_comm]
      constructor
      · rintro rfl
        exact ⟨_, _, hsorted, rfl⟩
      · rintro ⟨globals, properties, hother, rfl⟩
        obtain ⟨rfl, rfl⟩ := hsorted.unique hother
        rfl

end Converter

end Relint
