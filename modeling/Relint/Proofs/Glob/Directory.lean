import Relint.Glob.Match
import Relint.Glob.Reader
import Relint.Proofs.Distinct
import Relint.Proofs.Path

/-!
Globs for whatever is in a directory of some name, which are spelled with a pair of stars on
either side. A glob matches bytes and takes slashes for bytes like any other, but the encoding
of a text has the byte of a slash at its slashes only. So these globs match exactly the paths
that go through a directory of that name.
-/

namespace Relint

namespace Glob

variable {tokens others : List Token} {text rest : List UInt8} {chars : List Char}

/-- Whether tokens, one after the other, can leave this rest of a text. -/
def Leaves : List Token → List UInt8 → List UInt8 → Prop
  | [], text, rest => text = rest
  | token :: tokens, text, rest => ∃ next ∈ token.leftovers text, Leaves tokens next rest

theorem mem_leftovers_iff {texts : List (List UInt8)} :
    rest ∈ leftovers tokens texts ↔ ∃ text ∈ texts, Leaves tokens text rest := by
  induction tokens generalizing texts with
  | nil => simp [leftovers, Leaves]
  | cons token tokens ih =>
      rw [leftovers, ih]
      simp only [mem_distinct, List.mem_flatMap, Leaves]
      constructor
      · rintro ⟨next, ⟨text, htext, hnext⟩, hrest⟩
        exact ⟨text, htext, next, hnext, hrest⟩
      · rintro ⟨text, htext, next, hnext, hrest⟩
        exact ⟨next, ⟨text, htext, hnext⟩, hrest⟩

theorem leaves_append :
    Leaves (tokens ++ others) text rest ↔
      ∃ next, Leaves tokens text next ∧ Leaves others next rest := by
  induction tokens generalizing text with
  | nil => simp [Leaves]
  | cons token tokens ih =>
      simp only [List.cons_append, Leaves, ih]
      constructor
      · rintro ⟨first, hfirst, next, hnext, hrest⟩
        exact ⟨next, ⟨first, hfirst, hnext⟩, hrest⟩
      · rintro ⟨next, ⟨first, hfirst, hnext⟩, hrest⟩
        exact ⟨first, hfirst, next, hnext, hrest⟩

section Tokens

theorem mem_endsOf : rest ∈ endsOf text ↔ rest <:+ text := by
  induction text with
  | nil => simp [endsOf]
  | cons b text ih => rw [endsOf, List.mem_cons, ih, List.suffix_cons_iff]

theorem mem_endsBehindSlash : rest ∈ endsBehindSlash text ↔ slash :: rest <:+ text := by
  induction text with
  | nil => simp [endsBehindSlash]
  | cons b text ih =>
      rw [endsBehindSlash, List.suffix_cons_iff, List.cons.injEq]
      by_cases hb : b = slash
      · simp [hb, ih]
      · simp [hb, ih, eq_comm]

theorem dropBytes?_eq_some_iff {bytes : List UInt8} :
    dropBytes? bytes text = some rest ↔ text = bytes ++ rest := by
  induction bytes generalizing text with
  | nil => simp [dropBytes?]
  | cons b bytes ih =>
      cases text with
      | nil => simp [dropBytes?]
      | cons c text =>
          by_cases hbc : b = c
          · simp [dropBytes?, hbc, ih]
          · simp [dropBytes?, hbc, Ne.symm hbc]

end Tokens

section Encoding

/-- The bytes of a text. -/
def bytesOf (chars : List Char) : List UInt8 :=
  chars.flatMap String.utf8EncodeChar

theorem bytesOf_cons (c : Char) (chars : List Char) :
    bytesOf (c :: chars) = String.utf8EncodeChar c ++ bytesOf chars :=
  List.flatMap_cons

theorem bytesOf_append (first second : List Char) :
    bytesOf (first ++ second) = bytesOf first ++ bytesOf second :=
  List.flatMap_append

theorem bytesOf_slash (chars : List Char) : bytesOf ('/' :: chars) = slash :: bytesOf chars :=
  rfl

theorem bytesOf_injective : Function.Injective bytesOf := by
  intro first second h
  have hbytes : (String.ofList first).toByteArray = (String.ofList second).toByteArray := by
    rw [String.toByteArray_ofList, String.toByteArray_ofList]
    exact congrArg List.toByteArray h
  exact String.ofList_injective (String.toByteArray_inj.mp hbytes)

/-- No character but the slash has the byte of a slash in its encoding. -/
theorem slash_not_mem_utf8EncodeChar {c : Char} (h : c ≠ '/') :
    slash ∉ String.utf8EncodeChar c := by
  have hcode : c.val.toNat ≠ 47 := by
    intro heq
    exact h (Char.ext (UInt32.toNat_inj.mp heq))
  have hbyte : ∀ n, slash = UInt8.ofNat n ↔ n % 256 = 47 := by
    intro n
    rw [← UInt8.toNat_inj, eq_comm, UInt8.toNat_ofNat']
    rfl
  intro hmem
  simp only [String.utf8EncodeChar] at hmem
  -- Where there are several bytes, none of them is below 128.
  split_ifs at hmem
  all_goals
    simp only [List.mem_cons, List.not_mem_nil, or_false, hbyte] at hmem
    omega

theorem bytesOf_eq_append_slash {front : List UInt8} (h : bytesOf chars = front ++ slash :: rest) :
    ∃ before after, chars = before ++ '/' :: after ∧ bytesOf before = front ∧
      bytesOf after = rest := by
  induction chars generalizing front with
  | nil => simp [bytesOf] at h
  | cons c chars ih =>
      by_cases hc : c = '/'
      · subst hc
        rw [bytesOf_slash] at h
        cases front with
        | nil => exact ⟨[], chars, rfl, rfl, (List.cons.inj h).2⟩
        | cons b front =>
            obtain ⟨rfl, htail⟩ := List.cons.inj h
            obtain ⟨before, after, rfl, rfl, rfl⟩ := ih htail
            exact ⟨'/' :: before, after, rfl, rfl, rfl⟩
      · rw [bytesOf_cons, List.append_eq_append_iff] at h
        rcases h with ⟨front', rfl, hrest⟩ | ⟨middle, hchar, hrest⟩
        · obtain ⟨before, after, rfl, rfl, rfl⟩ := ih hrest
          exact ⟨c :: before, after, rfl, rfl, rfl⟩
        · cases middle with
          | nil =>
              have hbehind : bytesOf chars = [] ++ slash :: rest := hrest.symm
              obtain ⟨before, after, rfl, hbefore, rfl⟩ := ih hbehind
              refine ⟨c :: before, after, rfl, ?_, rfl⟩
              rw [bytesOf_cons, hbefore, hchar, List.append_nil, List.append_nil]
          | cons b middle =>
              obtain ⟨rfl, _⟩ := List.cons.inj hrest
              exact absurd (by rw [hchar]; simp) (slash_not_mem_utf8EncodeChar hc)

end Encoding

section Directory

variable {name : List Char} {path : String}

/-- The glob for what is in a directory of some name, however deep that stands or is below it. -/
def inDirectory (name : List Char) : Glob :=
  ⟨.leadingDirectories :: (name.map .literal ++ [.trailingPath])⟩

theorem leaves_literals : Leaves (name.map .literal) text rest ↔ text = bytesOf name ++ rest := by
  induction name generalizing text with
  | nil => rfl
  | cons c name ih =>
      simp only [List.map_cons, Leaves, Token.leftovers, Option.mem_toList, dropBytes?_eq_some_iff,
        ih, bytesOf_cons, List.append_assoc, exists_eq_right]

theorem leaves_trailingPath : Leaves [.trailingPath] text [] ↔ ∃ rest, text = slash :: rest := by
  simp [Leaves, Token.leftovers, mem_endsOf, dropBytes?_eq_some_iff]

theorem mem_leftovers_leadingDirectories :
    rest ∈ Token.leftovers .leadingDirectories text ↔ slash :: rest <:+ slash :: text := by
  rw [Token.leftovers, List.mem_cons, mem_endsBehindSlash, List.suffix_cons_iff, List.cons.injEq]
  simp

theorem leaves_inDirectory :
    Leaves (inDirectory name).tokens text [] ↔
      ∃ rest, slash :: (bytesOf name ++ slash :: rest) <:+ slash :: text := by
  rw [inDirectory, Leaves]
  simp only [leaves_append, leaves_literals, leaves_trailingPath, mem_leftovers_leadingDirectories]
  constructor
  · rintro ⟨_, hsuffix, _, rfl, rest, rfl⟩
    exact ⟨rest, hsuffix⟩
  · rintro ⟨rest, hsuffix⟩
    exact ⟨_, hsuffix, _, rfl, rest, rfl⟩

theorem matches_inDirectory_iff_leaves :
    (inDirectory name).matches path = true ↔
      Leaves (inDirectory name).tokens (bytesOf path.toList) [] := by
  have hmatches : (inDirectory name).matches path =
      (leftovers (inDirectory name).tokens [bytesOf path.toList]).any List.isEmpty := by
    cases name <;> rfl
  rw [hmatches]
  simp [mem_leftovers_iff]

/-- A glob for what is in a directory of some name matches the paths through one. -/
theorem matches_inDirectory_iff (hname : '/' ∉ name) :
    (inDirectory name).matches path = true ↔ String.ofList name ∈ Path.directories path := by
  rw [matches_inDirectory_iff_leaves, leaves_inDirectory, Path.mem_directories_iff hname]
  constructor
  · rintro ⟨rest, front, hbytes⟩
    have hslashed : bytesOf ('/' :: path.toList) =
        front ++ slash :: (bytesOf name ++ slash :: rest) := hbytes.symm
    obtain ⟨before, behind, hpath, _, hbehind⟩ := bytesOf_eq_append_slash hslashed
    obtain ⟨name', after, rfl, hsame, _⟩ := bytesOf_eq_append_slash hbehind
    obtain rfl := bytesOf_injective hsame
    exact ⟨before, after, by rw [hpath]; simp⟩
  · rintro ⟨before, after, hpath⟩
    refine ⟨bytesOf after, bytesOf before, ?_⟩
    rw [← bytesOf_slash path.toList, ← hpath]
    simp [bytesOf_append, bytesOf_slash]

end Directory

section Reading

variable {branch : List Token} {previous : Option Char} {c : Char} {name text : List Char}

/-- The characters that a glob can mean something else by. -/
def reserved : List Char :=
  ['?', '*', '[', '\x7b', '\x7d', ',', '\\']

def isOrdinary (c : Char) : Bool :=
  !reserved.contains c

theorem readFrom_ordinary {d : Draft} (h : isOrdinary c = true) :
    readFrom d previous (c :: text) = readFrom (d.push (.literal c)) (some c) text := by
  have hother : c ∉ reserved := by simpa [isOrdinary] using h
  simp only [reserved, List.mem_cons, List.not_mem_nil, or_false, not_or] at hother
  rw [readFrom]
  all_goals grind

theorem readFrom_ordinaries (h : name.all isOrdinary = true) :
    ∃ last, readFrom ⟨branch, []⟩ previous (name ++ text) =
      readFrom ⟨(name.map .literal).reverse ++ branch, []⟩ last text := by
  induction name generalizing branch previous with
  | nil => exact ⟨previous, rfl⟩
  | cons c name ih =>
      rw [List.all_cons, Bool.and_eq_true] at h
      have hrest : ∃ last, readFrom ⟨.literal c :: branch, []⟩ (some c) (name ++ text) =
          readFrom ⟨(name.map .literal).reverse ++ .literal c :: branch, []⟩ last text := ih h.2
      simpa [readFrom_ordinary h.1, Draft.push] using hrest

/-- A pair of stars at the end takes in the slash before it. -/
theorem readFrom_trailing :
    readFrom ⟨branch, []⟩ previous ['/', '*', '*'] = .ok ⟨.trailingPath :: branch, []⟩ := by
  rw [readFrom_ordinary (by decide), readFrom]
  simp [Draft.push, Draft.pushPair, Draft.beginsPart, Draft.replaceLast, readFrom]

theorem readFrom_leading :
    readFrom .empty none ('*' :: '*' :: '/' :: text) =
      readFrom ⟨[.leadingDirectories], []⟩ (some '/') text := by
  rw [readFrom]
  simp [Draft.empty, Draft.push, Draft.pushPair]

variable {glob : String}

/-- A pair of stars below a path of ordinary characters is read as what is below that path. -/
theorem read_below (h : name.all isOrdinary = true)
    (hglob : glob.toList = name ++ ['/', '*', '*']) :
    read glob = .ok ⟨name.map .literal ++ [.trailingPath]⟩ := by
  obtain ⟨last, hname⟩ := readFrom_ordinaries h
  rw [read, hglob, Draft.empty, hname, readFrom_trailing]
  simp

theorem read_inDirectory (h : name.all isOrdinary = true)
    (hglob : glob.toList = '*' :: '*' :: '/' :: (name ++ ['/', '*', '*'])) :
    read glob = .ok (inDirectory name) := by
  obtain ⟨last, hname⟩ := readFrom_ordinaries h
  rw [read, hglob, readFrom_leading, hname, readFrom_trailing]
  simp [inDirectory]

end Reading

end Glob

end Relint
