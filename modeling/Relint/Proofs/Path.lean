import Relint.Path
import Mathlib.Data.List.Basic

/-!
The pieces of a path and its steps. Between two slashes there is no slash, and pieces that
are put together with slashes are the pieces of the path that comes of it; if they are names,
they are its steps too. A path is plain if it is spelled without pieces that do not count.
-/

namespace Relint

namespace Path

/-- What a file or a directory can be called. -/
def IsName (name : String) : Prop :=
  name ≠ "" ∧ name ≠ "." ∧ name ≠ ".." ∧ '/' ∉ name.toList

instance (name : String) : Decidable (IsName name) :=
  inferInstanceAs (Decidable (_ ∧ _ ∧ _ ∧ _))

theorem splitSlashes_eq_splitOn (text : List Char) : splitSlashes text = text.splitOn '/' := by
  induction text with
  | nil => rfl
  | cons c rest ih =>
      rw [List.splitOn_cons_eq_if_modifyHead]
      by_cases hc : c = '/'
      · simp [hc, splitSlashes, ih]
      · obtain ⟨first, others, hrest⟩ :=
          List.exists_cons_of_ne_nil (List.splitOn_ne_nil '/' rest)
        rw [splitSlashes, ih, hrest]
        · simp [hc]
        · exact hc

theorem splitSlashes_ne_nil (text : List Char) : splitSlashes text ≠ [] := by
  rw [splitSlashes_eq_splitOn]
  exact List.splitOn_ne_nil '/' text

theorem splitSlashes_append_slash (text rest : List Char) :
    splitSlashes (text ++ '/' :: rest) = splitSlashes text ++ splitSlashes rest := by
  simp only [splitSlashes_eq_splitOn, List.splitOn_append_cons_self]

theorem splitSlashes_of_not_mem {piece : List Char} (h : '/' ∉ piece) :
    splitSlashes piece = [piece] := by
  rw [splitSlashes_eq_splitOn, List.splitOn_eq_singleton h]

theorem intercalate_splitSlashes (text : List Char) :
    ['/'].intercalate (splitSlashes text) = text := by
  rw [splitSlashes_eq_splitOn, List.intercalate_splitOn]

theorem splitSlashes_intercalate {pieces : List (List Char)} (hne : pieces ≠ [])
    (h : ∀ piece ∈ pieces, '/' ∉ piece) : splitSlashes (['/'].intercalate pieces) = pieces := by
  rw [splitSlashes_eq_splitOn, List.splitOn_intercalate '/' h hne]

theorem slash_not_mem_splitSlashes {text piece : List Char} (h : piece ∈ splitSlashes text) :
    '/' ∉ piece := by
  induction text generalizing piece with
  | nil =>
      rw [splitSlashes, List.mem_singleton] at h
      simp [h]
  | cons c rest ih =>
      rw [splitSlashes_eq_splitOn, List.splitOn_cons_eq_if_modifyHead,
        ← splitSlashes_eq_splitOn] at h
      split at h
      · rcases List.mem_cons.mp h with rfl | h
        · exact List.not_mem_nil
        · exact ih h
      · rename_i hc
        obtain ⟨first, others, hrest⟩ := List.exists_cons_of_ne_nil (splitSlashes_ne_nil rest)
        rw [hrest] at h ih
        rcases List.mem_cons.mp h with rfl | h
        · rw [List.mem_cons, not_or]
          exact ⟨fun heq => hc (by simp [← heq]), ih List.mem_cons_self⟩
        · exact ih (List.mem_cons_of_mem _ h)

/-- Pieces with slashes between them and one before them are pieces with a slash before each. -/
theorem slash_cons_intercalate {pieces : List (List Char)} (hne : pieces ≠ []) :
    '/' :: ['/'].intercalate pieces = pieces.flatMap ('/' :: ·) := by
  induction pieces with
  | nil => exact absurd rfl hne
  | cons piece others ih =>
      cases others with
      | nil => simp
      | cons other others =>
          rw [List.intercalate_cons_cons, List.flatMap_cons, ← ih (List.cons_ne_nil _ _)]
          simp

/-- A piece stands before the last one exactly where the text has it between slashes, of which
the first may be put before the text. -/
theorem mem_dropLast_splitSlashes_iff {text piece : List Char} (h : '/' ∉ piece) :
    piece ∈ (splitSlashes text).dropLast ↔ '/' :: (piece ++ ['/']) <:+: '/' :: text := by
  have hne := splitSlashes_ne_nil text
  constructor
  · intro hmem
    obtain ⟨front, back, hsplit⟩ := List.append_of_mem hmem
    obtain ⟨last, hlast⟩ : ∃ last, splitSlashes text = front ++ piece :: (back ++ [last]) :=
      ⟨_, by rw [← List.cons_append, ← List.append_assoc, ← hsplit,
        List.dropLast_concat_getLast hne]⟩
    refine ⟨front.flatMap ('/' :: ·), ['/'].intercalate (back ++ [last]), ?_⟩
    calc front.flatMap ('/' :: ·) ++ '/' :: (piece ++ ['/']) ++ ['/'].intercalate (back ++ [last])
        = front.flatMap ('/' :: ·) ++
            '/' :: (piece ++ '/' :: ['/'].intercalate (back ++ [last])) := by simp
      _ = (splitSlashes text).flatMap ('/' :: ·) := by
          rw [slash_cons_intercalate (by simp), hlast]
          simp
      _ = '/' :: text := by rw [← slash_cons_intercalate hne, intercalate_splitSlashes]
  · rintro ⟨before, after, htext⟩
    obtain ⟨first, front, hbefore⟩ := List.exists_cons_of_ne_nil (splitSlashes_ne_nil before)
    have hpieces : [] :: splitSlashes text = first :: (front ++ piece :: splitSlashes after) := by
      calc [] :: splitSlashes text = splitSlashes ('/' :: text) :=
            (splitSlashes_append_slash [] text).symm
        _ = splitSlashes (before ++ '/' :: (piece ++ '/' :: after)) := by simp [← htext]
        _ = splitSlashes before ++ (splitSlashes piece ++ splitSlashes after) := by
            rw [splitSlashes_append_slash, splitSlashes_append_slash]
        _ = first :: (front ++ piece :: splitSlashes after) := by
            rw [hbefore, splitSlashes_of_not_mem h]
            rfl
    rw [(List.cons.inj hpieces).2, List.dropLast_append_of_ne_nil (List.cons_ne_nil _ _),
      List.dropLast_cons_of_ne_nil (splitSlashes_ne_nil after)]
    exact List.mem_append_right _ List.mem_cons_self

/-- What stands between slashes is not empty and has no slash in it. -/
theorem of_mem_steps {path name : String} (h : name ∈ steps path) :
    name ≠ "" ∧ '/' ∉ name.toList := by
  rw [steps, List.mem_append, List.mem_filter, List.mem_map] at h
  rcases h with ⟨⟨piece, hpiece, rfl⟩, hne⟩ | htrailing
  · rw [String.toList_ofList]
    exact ⟨by simpa using hne, slash_not_mem_splitSlashes hpiece⟩
  · split at htrailing
    · rw [List.mem_singleton.mp htrailing]
      decide
    · exact absurd htrailing List.not_mem_nil

section Pieces

variable {path piece : String}

/-- What stands between the slashes of a path. -/
def pieces (path : String) : List String :=
  (splitSlashes path.toList).map String.ofList

/-- The pieces of a path that count: empty ones and single dots do not. -/
def counted (path : String) : List String :=
  (pieces path).filter fun piece => piece ≠ "" ∧ piece ≠ "."

/-- Whether a path is spelled with no more than it needs. -/
def IsPlain (path : String) : Prop :=
  ∀ piece ∈ pieces path, piece ≠ "" ∧ piece ≠ "."

instance (path : String) : Decidable (IsPlain path) :=
  inferInstanceAs (Decidable (∀ piece ∈ pieces path, piece ≠ "" ∧ piece ≠ "."))

/-- The pieces of a path that something stands behind. -/
def directories (path : String) : List String :=
  (pieces path).dropLast

theorem mem_directories_iff {name : List Char} (h : '/' ∉ name) :
    String.ofList name ∈ directories path ↔ '/' :: (name ++ ['/']) <:+: '/' :: path.toList := by
  have hinjective : Function.Injective String.ofList := fun _ _ => String.ofList_injective
  rw [directories, pieces, ← List.map_dropLast, List.mem_map_of_injective hinjective]
  exact mem_dropLast_splitSlashes_iff h

theorem slash_not_mem_pieces (h : piece ∈ pieces path) : '/' ∉ piece.toList := by
  obtain ⟨chars, hchars, rfl⟩ := List.mem_map.mp h
  rw [String.toList_ofList]
  exact slash_not_mem_splitSlashes hchars

theorem intercalate_pieces (path : String) : "/".intercalate (pieces path) = path := by
  apply String.toList_injective
  rw [String.toList_intercalate, pieces, List.map_map]
  have hsame : String.toList ∘ String.ofList = id := by
    funext chars
    exact String.toList_ofList
  rw [hsame, List.map_id]
  exact intercalate_splitSlashes path.toList

/-- Pieces that are put together with slashes are the pieces of the path that comes of it. -/
theorem pieces_intercalate {names : List String} (hne : names ≠ [])
    (h : ∀ name ∈ names, '/' ∉ name.toList) : pieces ("/".intercalate names) = names := by
  have hsplit : splitSlashes ("/".intercalate names).toList = names.map String.toList := by
    rw [String.toList_intercalate]
    apply splitSlashes_intercalate (by simpa using hne)
    intro piece hpiece
    obtain ⟨name, hname, rfl⟩ := List.mem_map.mp hpiece
    exact h name hname
  rw [pieces, hsplit, List.map_map]
  simp [Function.comp_def]

theorem pieces_of_absolute (h : isAbsolute path = true) : ∃ rest, pieces path = "" :: rest := by
  rw [isAbsolute, beq_iff_eq, List.head?_eq_some_iff] at h
  obtain ⟨rest, hrest⟩ := h
  have hsplit : splitSlashes ('/' :: rest) = [] :: splitSlashes rest :=
    splitSlashes_append_slash [] rest
  exact ⟨(splitSlashes rest).map String.ofList, by rw [pieces, hrest, hsplit]; rfl⟩

theorem not_isAbsolute_of_isPlain (h : IsPlain path) : isAbsolute path = false := by
  rw [Bool.eq_false_iff]
  intro habsolute
  obtain ⟨rest, hrest⟩ := pieces_of_absolute habsolute
  exact (h "" (hrest ▸ List.mem_cons_self)).1 rfl

theorem counted_of_isPlain (h : IsPlain path) : counted path = pieces path := by
  rw [counted, List.filter_eq_self]
  intro piece hpiece
  exact decide_eq_true (h piece hpiece)

theorem names_eq (path : String) :
    names path =
      match pieces path with
      | [] => []
      | first :: rest =>
          (if first = "" then [] else [first]) ++ rest.filter fun name => name ≠ "" ∧ name ≠ "." :=
  rfl

theorem filter_names (path : String) : (names path).filter (· ≠ ".") = counted path := by
  rw [names_eq, counted]
  cases pieces path with
  | nil => rfl
  | cons first rest =>
      have hrest : (rest.filter fun name => name ≠ "" ∧ name ≠ ".").filter (· ≠ ".") =
          rest.filter fun name => name ≠ "" ∧ name ≠ "." := by
        rw [List.filter_eq_self]
        intro name hname
        simp only [List.mem_filter, decide_eq_true_eq] at hname ⊢
        exact hname.2.2
      rw [List.filter_append, hrest, List.filter_cons]
      by_cases hempty : first = ""
      · simp [hempty]
      · by_cases hdot : first = "." <;> simp [hempty, hdot]

theorem names_of_absolute (h : isAbsolute path = true) : names path = counted path := by
  obtain ⟨rest, hrest⟩ := pieces_of_absolute h
  rw [names_eq, counted, hrest]
  simp

end Pieces

section Names

variable {names : List String}

theorem exists_intercalate_eq_append (name : String) (names : List String) :
    ∃ front, ("/".intercalate (names ++ [name])).toList = front ++ name.toList := by
  cases names with
  | nil => exact ⟨[], by simp⟩
  | cons first rest =>
      refine ⟨("/".intercalate (first :: rest) ++ "/").toList, ?_⟩
      rw [String.intercalate_append_of_ne_nil (List.cons_ne_nil _ _) (List.cons_ne_nil _ _),
        String.intercalate_singleton, String.toList_append]

/-- A path of names ends with the last one, so it does not end with a slash. -/
theorem getLast?_intercalate (h : ∀ name ∈ names, IsName name) :
    ("/".intercalate names).toList.getLast? ≠ some '/' := by
  rcases List.eq_nil_or_concat names with rfl | ⟨init, last, rfl⟩
  · simp
  · have hlast : IsName last := h last (by simp)
    obtain ⟨front, hfront⟩ := exists_intercalate_eq_append last init
    have hchars : last.toList ≠ [] := by simpa using hlast.1
    rw [List.concat_eq_append, hfront, List.getLast?_append, List.getLast?_eq_some_getLast hchars,
      Option.some_or, ← List.getLast?_eq_some_getLast]
    intro hslash
    exact hlast.2.2.2 (List.mem_of_getLast? hslash)

theorem steps_intercalate (hne : names ≠ []) (h : ∀ name ∈ names, IsName name) :
    steps ("/".intercalate names) = names := by
  have hpieces : pieces ("/".intercalate names) = names :=
    pieces_intercalate hne fun name hname => (h name hname).2.2.2
  have hkept : names.filter (· ≠ "") = names := by
    rw [List.filter_eq_self]
    intro name hname
    simpa using (h name hname).1
  rw [pieces] at hpieces
  rw [steps, if_neg (getLast?_intercalate h), hpieces, List.append_nil]
  exact hkept

/-- A path of names is relative. -/
theorem isAbsolute_intercalate (h : ∀ name ∈ names, IsName name) :
    isAbsolute ("/".intercalate names) = false := by
  cases names with
  | nil => rfl
  | cons name rest =>
      obtain ⟨hname, _⟩ := List.forall_mem_cons.mp h
      obtain ⟨c, chars, hchars⟩ := List.exists_cons_of_ne_nil
        (show name.toList ≠ [] by simpa using hname.1)
      have hc : c ≠ '/' := by
        rintro rfl
        exact hname.2.2.2 (hchars ▸ List.mem_cons_self)
      have hhead : ("/".intercalate (name :: rest)).toList.head? = some c := by
        cases rest <;> simp [hchars]
      rw [isAbsolute, hhead]
      simpa using hc

/-- A path of names is plain. -/
theorem isPlain_intercalate (hne : names ≠ [])
    (h : ∀ name ∈ names, IsName name) : IsPlain ("/".intercalate names) := by
  intro piece hpiece
  rw [pieces_intercalate hne fun name hname => (h name hname).2.2.2] at hpiece
  exact ⟨(h piece hpiece).1, (h piece hpiece).2.1⟩

end Names

end Path

end Relint
