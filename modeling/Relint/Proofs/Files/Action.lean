import Relint.Files.Writing

/-!
What an action does to a tree: its answer or its failure, and the tree behind it. An action
that is made of others takes over what they leave, also where one of them fails.
-/

namespace Relint

namespace FileAction

variable {ε ε' α β : Type}

/-- Carries out an action on a tree. -/
def exec (a : FileAction ε α) (t : FileTree) : Except ε α × FileTree :=
  a.run t

variable {a : FileAction ε α} {t : FileTree}

@[simp] theorem exec_pure (x : α) (t : FileTree) :
    (pure x : FileAction ε α).exec t = (.ok x, t) := rfl

@[simp] theorem exec_throw (fault : ε) (t : FileTree) :
    (throw fault : FileAction ε α).exec t = (.error fault, t) := rfl

@[simp] theorem exec_get (t : FileTree) : (get : FileAction ε FileTree).exec t = (.ok t, t) := rfl

@[simp] theorem exec_set (t t' : FileTree) : (set t' : FileAction ε PUnit).exec t = (.ok ⟨⟩, t') :=
  rfl

/-- What follows on an action goes on with its answer and its tree, and is left out where
the action fails. -/
theorem exec_bind (a : FileAction ε α) (next : α → FileAction ε β) (t : FileTree) :
    (a >>= next).exec t =
      match a.exec t with
      | (.ok x, t') => (next x).exec t'
      | (.error fault, t') => (.error fault, t') := by
  change ((a.run >>= ExceptT.bindCont next : StateM FileTree (Except ε β)) t) = _
  change ExceptT.bindCont next (a.run t).1 (a.run t).2 = _
  rw [exec]
  cases hrun : a.run t with
  | mk answer t' => cases answer <;> rfl

theorem exec_map (f : α → β) (a : FileAction ε α) (t : FileTree) :
    (f <$> a).exec t = ((a.exec t).1.map f, (a.exec t).2) := by
  rw [← bind_pure_comp, exec_bind]
  cases hrun : a.exec t with
  | mk answer t' => cases answer <;> rfl

@[simp] theorem exec_ask (f : FileTree → Except ε α) (t : FileTree) :
    (ask f).exec t = (f t, t) := by
  rw [ask, exec_bind, exec_get]
  dsimp only
  cases hanswer : f t <;> simp

theorem exec_change (f : FileTree → Except ε FileTree) (t : FileTree) :
    (change f).exec t =
      match f t with
      | .ok t' => (.ok (), t')
      | .error fault => (.error fault, t) := by
  rw [change, exec_bind, exec_get]
  dsimp only
  cases hanswer : f t <;> simp

@[simp] theorem exec_adapt (a : FileAction ε α) (wrap : ε → ε') (t : FileTree) :
    exec (ExceptT.adapt wrap a) t =
      ((a.exec t).1.mapError wrap, (a.exec t).2) := rfl

/-- Where two actions give an answer, the first gives one and the second goes on from there. -/
theorem exec_bind_eq_ok {next : α → FileAction ε β} {y : β} {t'' : FileTree}
    (h : (a >>= next).exec t = (.ok y, t'')) :
    ∃ x t', a.exec t = (.ok x, t') ∧ (next x).exec t' = (.ok y, t'') := by
  rw [exec_bind] at h
  cases hrun : a.exec t with
  | mk answer t' =>
      rw [hrun] at h
      cases answer with
      | ok x => exact ⟨x, t', rfl, h⟩
      | error fault => cases h

theorem exec_map_eq_ok {f : α → β} {y : β} {t' : FileTree}
    (h : (f <$> a).exec t = (.ok y, t')) : ∃ x, a.exec t = (.ok x, t') ∧ f x = y := by
  rw [← bind_pure_comp] at h
  obtain ⟨x, t'', hrun, hpure⟩ := exec_bind_eq_ok h
  cases hpure
  exact ⟨x, hrun, rfl⟩

/-- An action that only passes on what was known before answers with it. -/
theorem exec_bind_pure {x : α} {y : β} {t' : FileTree} (h : a.exec t = (.ok x, t')) :
    (a >>= fun _ => pure y).exec t = (.ok y, t') := by
  rw [exec_bind, h]
  rfl

theorem eq_of_exec_bind_pure {y z : β} {t' : FileTree}
    (h : (a >>= fun _ => pure y).exec t = (.ok z, t')) : z = y := by
  obtain ⟨x, t'', _, hpure⟩ := exec_bind_eq_ok h
  cases hpure
  rfl

theorem exec_eq_ok (h : (a.exec t).1.toOption.isSome) :
    ∃ x, a.exec t = (.ok x, (a.exec t).2) := by
  cases hrun : a.exec t with
  | mk answer t' =>
      rw [hrun] at h
      cases answer with
      | ok x => exact ⟨x, rfl⟩
      | error fault => cases h

section Relations

variable (R : FileTree → FileTree → Prop)

/-- What two actions do to a tree is what the first does and then the second, if it comes
to that. -/
theorem related_bind (trans : ∀ {t t' t''}, R t t' → R t' t'' → R t t'')
    {next : α → FileAction ε β} (h : R t (a.exec t).2)
    (hnext : ∀ x t', a.exec t = (.ok x, t') → R t' ((next x).exec t').2) :
    R t ((a >>= next).exec t).2 := by
  rw [exec_bind]
  cases hrun : a.exec t with
  | mk answer t' =>
      rw [hrun] at h
      cases answer with
      | ok x => exact trans h (hnext x t' hrun)
      | error fault => exact h

end Relations

end FileAction

end Relint
