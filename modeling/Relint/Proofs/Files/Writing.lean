import Relint.Proofs.Files.Action
import Relint.Proofs.Files.WellFormed

/-!
What writing a file does to a tree. Before the file itself only directories are made, each
where nothing stands, and then one file is put where the path leads. So the tree grows and
stays well formed, whether the file is written in the end or an access fails on the way.
-/

namespace Relint

namespace FileTree

variable {t t' t'' : FileTree} {location : Location} {path : String}

/-- One tree becomes another by writing, and hangs together if it did before. -/
structure Evolves (t t' : FileTree) : Prop where
  grows : t.Grows t'
  wellFormed : t.WellFormed → t'.WellFormed

namespace Evolves

theorem refl (t : FileTree) : t.Evolves t :=
  ⟨Grows.refl t, id⟩

theorem trans (h : t.Evolves t') (h' : t'.Evolves t'') : t.Evolves t'' :=
  ⟨h.grows.trans h'.grows, h'.wellFormed ∘ h.wellFormed⟩

end Evolves

/-- One tree becomes another by making directories. -/
structure GainsDirectories (t t' : FileTree) : Prop where
  evolves : t.Evolves t'
  file_iff : ∀ l content,
    t'.entryAt l = some (.file content) ↔ t.entryAt l = some (.file content)

namespace GainsDirectories

theorem refl (t : FileTree) : t.GainsDirectories t :=
  ⟨Evolves.refl t, fun _ _ => Iff.rfl⟩

theorem trans (h : t.GainsDirectories t') (h' : t'.GainsDirectories t'') :
    t.GainsDirectories t'' :=
  ⟨h.evolves.trans h'.evolves,
    fun l content => (h'.file_iff l content).trans (h.file_iff l content)⟩

end GainsDirectories

theorem makeDirectory_gainsDirectories (h : t.makeDirectory path = .ok t') :
    t.GainsDirectories t' := by
  unfold makeDirectory at h
  cases hplace : t.locate false path with
  | error fault => simp [hplace, bind, Except.bind] at h
  | ok location =>
      simp only [hplace, bind, Except.bind] at h
      split at h
      · cases h
      · rename_i hnone
        obtain rfl := Except.ok.inj h
        refine ⟨⟨Grows.put_directory hnone, fun hwell => hwell.put ?_ fun _ => rfl⟩, ?_⟩
        · exact (hwell.locate hplace).resolve_left (by simp [hnone])
        · intro l content
          rw [entryAt_put (ne_root_of_entryAt_eq_none hnone)]
          split
          · rename_i heq
            simp [heq, hnone]
          · exact Iff.rfl

theorem ensureDirectory_gainsDirectories (h : t.ensureDirectory path = .ok t') :
    t.GainsDirectories t' := by
  unfold ensureDirectory at h
  split at h
  · rename_i hmade
    obtain rfl := Except.ok.inj h
    exact makeDirectory_gainsDirectories hmade
  · split at h
    · obtain rfl := Except.ok.inj h
      exact GainsDirectories.refl t
    · cases h

/-- Putting a file where a path leads lets the tree evolve. -/
theorem put_file_evolves {follow : Bool} {content : Content}
    (hplace : t.locate follow path = .ok location) (htakes : t.Takes location) :
    t.Evolves (t.put location (.file content)) := by
  have hfree : t.entryAt location ≠ some .directory := by
    rcases htakes with hnone | ⟨_, hfile⟩
    · simp [hnone]
    · simp [hfile]
  refine ⟨Grows.put_file htakes, fun hwell => hwell.put ?_ fun hdirectory => ?_⟩
  · exact (hwell.locate hplace).resolve_left hfree
  · exact absurd hdirectory hfree

end FileTree

namespace FileAction

open FileTree

variable {t : FileTree}

theorem gainsDirectories_makeDirectories (chain : List String) (t : FileTree) :
    t.GainsDirectories ((makeDirectories chain).exec t).2 := by
  induction chain generalizing t with
  | nil => exact GainsDirectories.refl t
  | cons path parents ih =>
      rw [makeDirectories, exec_bind, exec_get]
      dsimp only
      cases hmade : t.makeDirectory path with
      | ok t' => exact makeDirectory_gainsDirectories hmade
      | error fault =>
          cases fault with
          | notFound =>
              refine related_bind FileTree.GainsDirectories GainsDirectories.trans (ih t) ?_
              intro _ t' _
              rw [exec_change]
              cases hensured : t'.ensureDirectory path with
              | ok t'' => exact ensureDirectory_gainsDirectories hensured
              | error fault => exact GainsDirectories.refl t'
          | _ =>
              dsimp only
              split <;> exact GainsDirectories.refl t

theorem gainsDirectories_makeParents (path : String) (t : FileTree) :
    t.GainsDirectories ((makeParents path).exec t).2 := by
  unfold makeParents
  split
  · exact GainsDirectories.refl t
  · exact gainsDirectories_makeDirectories _ t

/-- Overwriting puts one file where the path leads, or changes nothing. -/
theorem tree_overwrite (path text : String) (t : FileTree) :
    ((overwrite path text).exec t).2 = t ∨
      ∃ location, t.locate true path = .ok location ∧ t.Takes location ∧
        ((overwrite path text).exec t).2 = t.put location (.file (.text text)) := by
  rw [overwrite, exec_change]
  split
  · rename_i t' hwritten
    split at hwritten
    · cases hwritten
    · cases hplace : t.locate true path with
      | error fault => simp [hplace, bind, Except.bind] at hwritten
      | ok location =>
          simp only [hplace, bind, Except.bind] at hwritten
          split at hwritten
          · cases hwritten
          · cases hwritten
          · rename_i hfile
            exact Or.inr ⟨location, rfl, Or.inr ⟨_, hfile⟩, (Except.ok.inj hwritten).symm⟩
          · rename_i hnone
            exact Or.inr ⟨location, rfl, Or.inl hnone, (Except.ok.inj hwritten).symm⟩
  · exact Or.inl rfl

/-- All that writing a file can do: nothing where the path is seen to be a link, and else
some directories and at most one file, where the path leads once they are made. -/
theorem tree_writeFile (path text : String) (t : FileTree) :
    ((writeFile path text).exec t).2 = t ∨
      t.isLink path = false ∧ ∃ prepared, t.GainsDirectories prepared ∧
        (((writeFile path text).exec t).2 = prepared ∨
          ∃ location, prepared.locate true path = .ok location ∧ prepared.Takes location ∧
            ((writeFile path text).exec t).2 = prepared.put location (.file (.text text))) := by
  cases hlink : t.isLink path with
  | true =>
      refine Or.inl ?_
      simp [writeFile, exec_bind, hlink]
  | false =>
      refine Or.inr ⟨rfl, ((makeParents path).exec t).2, gainsDirectories_makeParents path t, ?_⟩
      cases hparents : (makeParents path).exec t with
      | mk answer prepared =>
          cases answer with
          | error fault =>
              refine Or.inl ?_
              simp [writeFile, exec_bind, hlink, hparents, Except.mapError]
          | ok =>
              have hwritten : ((writeFile path text).exec t).2 =
                  ((overwrite path text).exec prepared).2 := by
                simp [writeFile, exec_bind, hlink, hparents, Except.mapError]
              rw [hwritten]
              exact tree_overwrite path text prepared

theorem evolves_writeFile (path text : String) (t : FileTree) :
    t.Evolves ((writeFile path text).exec t).2 := by
  rcases tree_writeFile path text t with hsame |
    ⟨_, prepared, hprepared, hsame | ⟨location, hplace, htakes, hput⟩⟩
  · rw [hsame]
    exact Evolves.refl t
  · rw [hsame]
    exact hprepared.evolves
  · rw [hput]
    exact hprepared.evolves.trans (put_file_evolves hplace htakes)

/-- A file that writing creates or changes stands where the path leads, and the path is none
that is seen to be a link. -/
theorem changed_of_writeFile {path text : String} {l : Location} {content : Content}
    (hfile : ((writeFile path text).exec t).2.entryAt l = some (.file content))
    (hnew : t.entryAt l ≠ some (.file content)) :
    t.isLink path = false ∧ ((writeFile path text).exec t).2.locate true path = .ok l := by
  rcases tree_writeFile path text t with hsame |
    ⟨hlink, prepared, hprepared, hsame | ⟨location, hplace, htakes, hput⟩⟩
  · rw [hsame] at hfile
    exact absurd hfile hnew
  · rw [hsame, hprepared.file_iff] at hfile
    exact absurd hfile hnew
  · have hputs : prepared.Evolves (prepared.put location (.file (.text text))) :=
      put_file_evolves hplace htakes
    rw [hput] at hfile ⊢
    by_cases hl : l = location
    · subst hl
      exact ⟨hlink, hputs.grows.locate_eq_ok hplace⟩
    · rw [entryAt_put htakes.ne_root, if_neg hl, hprepared.file_iff] at hfile
      exact absurd hfile hnew

section Sequences

/-- Writes some files one after the other, up to the first that cannot be written. -/
def writeAll : List (String × String) → FileAction WriteFault Unit
  | [] => return
  | (path, text) :: rest => do
      writeFile path text
      writeAll rest

theorem exec_writeAll_singleton (path text : String) (t : FileTree) :
    (writeAll [(path, text)]).exec t = (writeFile path text).exec t := by
  rw [writeAll, exec_bind]
  cases (writeFile path text).exec t with
  | mk answer t' => cases answer <;> rfl

theorem exec_writeAll_append (first rest : List (String × String)) (t : FileTree) :
    (writeAll (first ++ rest)).exec t =
      match (writeAll first).exec t with
      | (.ok _, t') => (writeAll rest).exec t'
      | (.error fault, t') => (.error fault, t') := by
  induction first generalizing t with
  | nil => rfl
  | cons write first ih =>
      obtain ⟨path, text⟩ := write
      rw [List.cons_append, writeAll, writeAll, exec_bind, exec_bind]
      cases (writeFile path text).exec t with
      | mk answer t' =>
          cases answer with
          | ok => exact ih t'
          | error fault => rfl

theorem evolves_writeAll (writes : List (String × String)) (t : FileTree) :
    t.Evolves ((writeAll writes).exec t).2 := by
  induction writes generalizing t with
  | nil => exact Evolves.refl t
  | cons write rest ih =>
      obtain ⟨path, text⟩ := write
      rw [writeAll]
      apply related_bind FileTree.Evolves Evolves.trans (evolves_writeFile path text t)
      intro _ t' _
      exact ih t'

/-- What is left of a sequence lets the tree evolve that its first write leaves behind. -/
theorem evolves_writeAll_cons (path text : String) (rest : List (String × String))
    (t : FileTree) :
    ((writeFile path text).exec t).2.Evolves ((writeAll ((path, text) :: rest)).exec t).2 := by
  rw [writeAll, exec_bind]
  cases (writeFile path text).exec t with
  | mk answer t' =>
      cases answer with
      | ok => exact evolves_writeAll rest t'
      | error fault => exact Evolves.refl t'

variable {ε ε' α β : Type} {a : FileAction ε α} {writes : List (String × String)}

/-- An action does nothing to a tree but some writes, and gives an answer only if all of them
succeed. -/
structure Writes (a : FileAction ε α) (t : FileTree) (writes : List (String × String)) : Prop where
  tree : (a.exec t).2 = ((writeAll writes).exec t).2
  ok : ∀ x t', a.exec t = (.ok x, t') → (writeAll writes).exec t = (.ok (), t')

/-- What an action that gives an answer is followed by, in the tree behind it. -/
def thereafter (result : Except ε α × FileTree)
    (next : α → FileTree → List (String × String)) : List (String × String) :=
  match result with
  | (.ok x, t) => next x t
  | (.error _, _) => []

theorem mem_thereafter {result : Except ε α × FileTree} {write : String × String}
    {next : α → FileTree → List (String × String)} (h : write ∈ thereafter result next) :
    ∃ x t, result = (.ok x, t) ∧ write ∈ next x t := by
  rcases result with ⟨_ | x, t⟩
  · exact absurd h List.not_mem_nil
  · exact ⟨x, t, rfl, h⟩

@[simp] theorem thereafter_nil (result : Except ε α × FileTree) :
    (thereafter result fun _ _ => []) = [] := by
  rcases result with ⟨_ | _, _⟩ <;> rfl

namespace Writes

theorem evolves (h : Writes a t writes) : t.Evolves (a.exec t).2 := by
  rw [h.tree]
  exact evolves_writeAll writes t

theorem pure (x : α) (t : FileTree) : Writes (pure x : FileAction ε α) t [] where
  tree := rfl
  ok := by
    rintro _ _ ⟨⟩
    rfl

theorem congr {b : FileAction ε α} (hsame : a.exec t = b.exec t) (h : Writes b t writes) :
    Writes a t writes where
  tree := by rw [hsame, h.tree]
  ok := by
    intro x t' hanswer
    rw [hsame] at hanswer
    exact h.ok x t' hanswer

theorem of_error {fault : ε} (h : a.exec t = (.error fault, t)) : Writes a t [] where
  tree := by rw [h]; rfl
  ok := by
    intro x t' hanswer
    rw [h] at hanswer
    cases hanswer

/-- What follows on an action adds its writes, if it comes to that. -/
theorem bind {next : α → FileAction ε β} {writes' : α → FileTree → List (String × String)}
    (h : Writes a t writes)
    (hnext : ∀ x t', a.exec t = (.ok x, t') → Writes (next x) t' (writes' x t')) :
    Writes (a >>= next) t (writes ++ thereafter (a.exec t) writes') := by
  cases hrun : a.exec t with
  | mk answer t' =>
      cases answer with
      | ok x =>
          have hfirst := h.ok x t' hrun
          have hrest := hnext x t' hrun
          rw [thereafter]
          constructor
          · rw [exec_bind, hrun, exec_writeAll_append, hfirst]
            exact hrest.tree
          · intro y t'' hanswer
            rw [exec_bind, hrun] at hanswer
            rw [exec_writeAll_append, hfirst]
            exact hrest.ok y t'' hanswer
      | error fault =>
          have htree := h.tree
          rw [hrun] at htree
          rw [thereafter, List.append_nil]
          constructor
          · rw [exec_bind, hrun]
            exact htree
          · intro y t'' hanswer
            rw [exec_bind, hrun] at hanswer
            cases hanswer

/-- What only adds to the answer writes nothing. -/
theorem bind_answer {next : α → FileAction ε β} (h : Writes a t writes)
    (hnext : ∀ x t', ∃ y, (next x).exec t' = (.ok y, t')) : Writes (a >>= next) t writes where
  tree := by
    rw [← h.tree, exec_bind]
    cases a.exec t with
    | mk answer t' =>
        cases answer with
        | ok x =>
            obtain ⟨y, hy⟩ := hnext x t'
            dsimp only
            rw [hy]
        | error fault => rfl
  ok := by
    intro z t' hanswer
    obtain ⟨x, t'', hrun, hrest⟩ := exec_bind_eq_ok hanswer
    obtain ⟨y, hy⟩ := hnext x t''
    rw [hy] at hrest
    cases hrest
    exact h.ok x t' hrun

theorem map (h : Writes a t writes) (f : α → β) : Writes (f <$> a) t writes where
  tree := by rw [exec_map, h.tree]
  ok := by
    intro y t' hanswer
    obtain ⟨x, hrun, _⟩ := exec_map_eq_ok hanswer
    exact h.ok x t' hrun

theorem of_writeAll {a : FileAction ε Unit} {wrap : WriteFault → ε}
    (h : a.exec t =
      (((writeAll writes).exec t).1.mapError wrap, ((writeAll writes).exec t).2)) :
    Writes a t writes where
  tree := by rw [h]
  ok := by
    intro x t' hanswer
    rw [h] at hanswer
    cases hrun : (writeAll writes).exec t with
    | mk answer t'' =>
        rw [hrun] at hanswer
        cases answer with
        | ok => cases hanswer; rfl
        | error fault => cases hanswer

end Writes

end Sequences

end FileAction

end Relint
