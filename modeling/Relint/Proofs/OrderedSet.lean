import Relint.OrderedSet
import Relint.Proofs.Distinct
import Std.Data.HashSet.Lemmas

/-!
Ordered sets as lists without repetition. The lookup set of a set that was built by
insertion knows exactly the items, so what insertion appends is what it would append
to a plain list. Operations of any kind in any order come to one extension by all names
that they offer, so that a set records the history of these names: its items are the names
of the history, each at its first place.
-/

namespace Relint

namespace OrderedSet

variable {s : OrderedSet} {item : String}

/-- The lookup set has exactly the items. -/
def WellFormed (s : OrderedSet) : Prop :=
  ∀ item, s.contains item = true ↔ item ∈ s.toList

theorem wellFormed_empty : empty.WellFormed := by
  intro item
  simp [empty, contains, toList]

/-- Inserting an item is appending it to the plain list unless it is there. -/
theorem toList_insert (h : s.WellFormed) (item : String) :
    (s.insert item).toList = appendNew s.toList item := by
  unfold insert tryInsert
  by_cases hmem : s.contains item = true
  · rw [if_pos hmem, appendNew_of_mem ((h item).mp hmem)]
  · rw [if_neg hmem, appendNew_of_not_mem (mt (h item).mpr hmem)]
    simp [toList]

theorem wellFormed_insert (h : s.WellFormed) (item : String) : (s.insert item).WellFormed := by
  intro other
  rw [toList_insert h, mem_appendNew, ← h other]
  unfold insert tryInsert
  by_cases hmem : s.contains item = true
  · rw [if_pos hmem]
    constructor
    · exact Or.inl
    · rintro (hother | rfl)
      · exact hother
      · exact hmem
  · have hlookup : (s.seen.insert item).contains other = (item == other || s.contains other) :=
      Std.HashSet.contains_insert
    rw [if_neg hmem, contains, hlookup, Bool.or_eq_true, beq_iff_eq, or_comm, @eq_comm _ other]

theorem toList_extend (h : s.WellFormed) (items : List String) :
    (s.extend items).toList = items.foldl appendNew s.toList := by
  induction items generalizing s with
  | nil => rfl
  | cons item rest ih =>
      have hstep := ih (wellFormed_insert h item)
      rw [List.foldl_cons, ← toList_insert h]
      exact hstep

theorem wellFormed_extend (h : s.WellFormed) (items : List String) :
    (s.extend items).WellFormed := by
  induction items generalizing s with
  | nil => exact h
  | cons item rest ih => exact ih (wellFormed_insert h item)

/-- The items of a set that was built from a list are those of the list, each at its
first place. -/
@[simp] theorem toList_ofList (items : List String) : (ofList items).toList = distinct items :=
  toList_extend wellFormed_empty items

theorem wellFormed_ofList (items : List String) : (ofList items).WellFormed :=
  wellFormed_extend wellFormed_empty items

theorem WellFormed.mem_seen_iff (h : s.WellFormed) : item ∈ s.seen ↔ item ∈ s.toList := by
  rw [Std.HashSet.mem_iff_contains]
  exact h item

/-- Insertion tells that it appended the item exactly when the item was not there. -/
theorem WellFormed.tryInsert_iff (h : s.WellFormed) :
    (s.tryInsert item).1 = true ↔ item ∉ s.toList := by
  rw [← h item]
  unfold tryInsert
  by_cases hmem : s.contains item = true
  · simp [hmem]
  · simp [hmem]

/-- Two extensions in a row are one by both lists. -/
theorem extend_append (s : OrderedSet) (first second : List String) :
    s.extend (first ++ second) = (s.extend first).extend second :=
  List.foldl_append

/-- What can be done to a set. -/
inductive Operation where
  | insert (item : String)
  | extend (items : List String)

/-- The names that an operation offers to a set. -/
def Operation.items : Operation → List String
  | .insert item => [item]
  | .extend items => items

def perform (s : OrderedSet) : Operation → OrderedSet
  | .insert item => s.insert item
  | .extend items => s.extend items

def performAll (s : OrderedSet) (operations : List Operation) : OrderedSet :=
  operations.foldl perform s

theorem perform_eq_extend (s : OrderedSet) (operation : Operation) :
    s.perform operation = s.extend operation.items := by
  cases operation with
  | insert item => rfl
  | extend items => rfl

/-- Whatever is done to a set comes to one extension by all names that are offered. -/
theorem performAll_eq_extend (s : OrderedSet) (operations : List Operation) :
    s.performAll operations = s.extend (operations.flatMap Operation.items) := by
  induction operations generalizing s with
  | nil => rfl
  | cons operation rest ih =>
      have hrest : s.performAll (operation :: rest) = (s.perform operation).performAll rest :=
        rfl
      rw [hrest, ih, perform_eq_extend, List.flatMap_cons, extend_append]

theorem performAll_ofList (initial : List String) (operations : List Operation) :
    (ofList initial).performAll operations =
      ofList (initial ++ operations.flatMap Operation.items) := by
  rw [performAll_eq_extend, ofList, ofList, extend_append]

/-- What a set shows of the names that were offered to it, in the order in which they
were. -/
structure Records (s : OrderedSet) (history : List String) : Prop where
  toList_eq : s.toList = history.eraseDups
  pairwise_idxOf : s.toList.Pairwise fun a b => history.idxOf a < history.idxOf b
  mem_seen_iff : ∀ item, item ∈ s.seen ↔ item ∈ s.toList
  contains_iff : ∀ item, s.contains item = true ↔ item ∈ s.toList
  tryInsert_iff : ∀ item, (s.tryInsert item).1 = true ↔ item ∉ s.toList
  extend_extend : ∀ first second,
    (s.extend first).extend second = s.extend (first ++ second)

theorem records_ofList (history : List String) : (ofList history).Records history where
  toList_eq := by rw [toList_ofList, distinct_eq_eraseDups]
  pairwise_idxOf := by
    rw [toList_ofList]
    exact pairwise_idxOf_distinct history
  mem_seen_iff := fun _ => (wellFormed_ofList history).mem_seen_iff
  contains_iff := wellFormed_ofList history
  tryInsert_iff := fun _ => (wellFormed_ofList history).tryInsert_iff
  extend_extend := fun first second => (extend_append _ first second).symm

/-- A set that started empty, or from a list, records all names that were offered to it
since, whatever the operations were: its items are these names, each at the place where it
first came up, its lookup set has exactly the items, and the answers of lookup and insertion
are those of the items. -/
theorem performAll_records (initial : List String) (operations : List Operation) :
    (empty.performAll operations).Records (operations.flatMap Operation.items) ∧
      ((ofList initial).performAll operations).Records
        (initial ++ operations.flatMap Operation.items) := by
  constructor
  · have hempty : empty.performAll operations = ofList (operations.flatMap Operation.items) :=
      performAll_eq_extend empty operations
    rw [hempty]
    exact records_ofList _
  · rw [performAll_ofList]
    exact records_ofList _

end OrderedSet

end Relint
