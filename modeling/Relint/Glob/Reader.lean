import Relint.Glob.Token

/-!
Reading a glob. A pair of stars stands for directories only where it takes up a
whole part of the path; elsewhere it is two stars. Groups may be nested, and a
comma separates branches inside a group only.
-/

namespace Relint

namespace Glob

/-- Makes the last range of a class end at a character. Ranges are kept in reverse. -/
def extendRange (c : Char) : List (Char × Char) → Except Cause (List (Char × Char))
  | (low, _) :: ranges => if c < low then .error (.invalidRange low c) else .ok ((low, c) :: ranges)
  | [] => .ok [(c, c)]

/-- Reads the members of a class up to its bracket. A dash between two members makes
a range, and a dash at the end is a member. -/
def readMembers (ranges : List (Char × Char)) (ranging : Bool) :
    List Char → Except Cause (List (Char × Char) × List Char)
  | [] => .error .unclosedClass
  | c :: rest =>
      if c = ']' then .ok ((if ranging then ('-', '-') :: ranges else ranges).reverse, rest)
      else if ranging then
        match extendRange c ranges with
        | .ok ranges => readMembers ranges false rest
        | .error cause => .error cause
      else if c = '-' then readMembers ranges true rest
      else readMembers ((c, c) :: ranges) false rest

/-- Reads the members of a class, of which the first may be any character. -/
def readFirstMember : List Char → Except Cause (List (Char × Char) × List Char)
  | [] => .error .unclosedClass
  | c :: rest => readMembers [(c, c)] false rest

def readClass (text : List Char) : Except Cause (Token × List Char) :=
  match text with
  | '!' :: rest | '^' :: rest =>
      (readFirstMember rest).map fun (ranges, rest) => (.charClass true ranges, rest)
  | text => (readFirstMember text).map fun (ranges, rest) => (.charClass false ranges, rest)

theorem readMembers_length_lt {ranges members : List (Char × Char)} {ranging : Bool}
    {text rest : List Char} (h : readMembers ranges ranging text = .ok (members, rest)) :
    rest.length < text.length := by
  fun_induction readMembers ranges ranging text <;> grind

theorem readFirstMember_length_lt {members : List (Char × Char)} {text rest : List Char}
    (h : readFirstMember text = .ok (members, rest)) : rest.length < text.length := by
  unfold readFirstMember at h
  split at h
  · cases h
  · have := readMembers_length_lt h
    simp only [List.length_cons]
    omega

theorem readClass_length_lt {text rest : List Char} {token : Token}
    (h : readClass text = .ok (token, rest)) : rest.length < text.length := by
  have map_ok {e : Except Cause (List (Char × Char) × List Char)} {n : Bool}
      (h : e.map (fun r => (Token.charClass n r.1, r.2)) = .ok (token, rest)) :
      ∃ members, e = .ok (members, rest) := by
    match e, h with
    | .ok (members, r), h =>
        simp only [Except.map, Except.ok.injEq, Prod.mk.injEq] at h
        exact ⟨members, by rw [h.2]⟩
  unfold readClass at h
  split at h
  · obtain ⟨members, h⟩ := map_ok h
    exact Nat.lt_succ_of_lt (readFirstMember_length_lt h)
  · obtain ⟨members, h⟩ := map_ok h
    exact Nat.lt_succ_of_lt (readFirstMember_length_lt h)
  · obtain ⟨members, h⟩ := map_ok h
    exact readFirstMember_length_lt h

/-- A group that is being read: the tokens before it and its finished branches, both
in reverse. -/
structure Group where
  before : List Token
  branches : List (List Token)

/-- What has been read of a glob: the tokens of the branch in reverse, and the groups
around it from the inside out. -/
structure Draft where
  branch : List Token
  groups : List Group

namespace Draft

def empty : Draft :=
  ⟨[], []⟩

def push (d : Draft) (token : Token) : Draft :=
  ⟨token :: d.branch, d.groups⟩

def openGroup (d : Draft) : Draft :=
  ⟨[], ⟨d.branch, []⟩ :: d.groups⟩

def closeGroup? (d : Draft) : Option Draft :=
  match d.groups with
  | [] => none
  | g :: groups =>
      some ⟨.alternatives (d.branch.reverse :: g.branches).reverse :: g.before, groups⟩

/-- Ends a branch inside a group; outside, a comma is a character. -/
def comma (d : Draft) : Draft :=
  match d.groups with
  | [] => d.push (.literal ',')
  | g :: groups => ⟨[], ⟨g.before, d.branch.reverse :: g.branches⟩ :: groups⟩

def pushStars (d : Draft) : Draft :=
  (d.push .anyRun).push .anyRun

/-- Puts a run of directories in the place of the last token, which is the slash
before it or a run of directories that takes it in. -/
def replaceLast (d : Draft) (token : Token) : Draft :=
  match d.branch with
  | .leadingDirectories :: _ | .trailingPath :: _ => d
  | _ :: branch => ⟨token :: branch, d.groups⟩
  | [] => d

/-- Whether a pair of stars behind some character begins a part of a path. -/
def beginsPart (d : Draft) (previous : Option Char) : Bool :=
  previous == some '/' ||
    (!d.groups.isEmpty && (previous == some ',' || previous == some '\x7b'))

/-- Appends a pair of stars between two characters of the text. The answer also says
whether the next character belongs to it. -/
def pushPair (d : Draft) (previous next : Option Char) : Draft × Bool :=
  if d.branch.isEmpty then
    match next with
    | none | some '/' => (d.push .leadingDirectories, true)
    | some _ => (d.pushStars, false)
  else if d.beginsPart previous then
    match next with
    | none => (d.replaceLast .trailingPath, false)
    | some '/' => (d.replaceLast .innerDirectories, true)
    | some c =>
        if !d.groups.isEmpty && (c == ',' || c == '\x7d') then
          (d.replaceLast .trailingPath, false)
        else (d.pushStars, false)
  else (d.pushStars, false)

end Draft

/-- Reads on from a draft. `previous` is the character before the text. -/
def readFrom (d : Draft) (previous : Option Char) (text : List Char) : Except Cause Draft :=
  match text with
  | [] => .ok d
  | '?' :: rest => readFrom (d.push .anyOne) (some '?') rest
  | '*' :: '*' :: rest =>
      match d.pushPair previous rest.head? with
      | (d, true) => readFrom d (some '/') rest.tail
      | (d, false) => readFrom d (some '*') rest
  | '*' :: rest => readFrom (d.push .anyRun) (some '*') rest
  | '[' :: rest =>
      match _h : readClass rest with
      | .ok (token, rest) => readFrom (d.push token) (some ']') rest
      | .error cause => .error cause
  | '\x7b' :: rest => readFrom d.openGroup (some '\x7b') rest
  | '\x7d' :: rest =>
      match d.closeGroup? with
      | some d => readFrom d (some '\x7d') rest
      | none => .error .unopenedGroup
  | ',' :: rest => readFrom d.comma (some ',') rest
  | ['\\'] => .error .danglingEscape
  | '\\' :: c :: rest => readFrom (d.push (.literal c)) (some c) rest
  | c :: rest => readFrom (d.push (.literal c)) (some c) rest
termination_by text.length
decreasing_by
  all_goals simp only [List.length_cons, List.length_tail]
  all_goals try omega
  have := readClass_length_lt (by assumption)
  omega

def read (glob : String) : Except Fault Glob :=
  match readFrom .empty none glob.toList with
  | .error cause => .error ⟨glob, cause⟩
  | .ok d => if d.groups.isEmpty then .ok ⟨d.branch.reverse⟩ else .error ⟨glob, .unclosedGroup⟩

end Glob

end Relint
