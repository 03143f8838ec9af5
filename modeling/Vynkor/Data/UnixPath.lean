import Mathlib.Data.List.Basic

/-! Paths of a Unix system: bytes between slashes, read component by component. Empty
names count for nothing, and a dot only at the start of a relative path. -/

namespace UnixPath

abbrev Path := List UInt8

def slash : UInt8 := 47

def dot : Path := [46]

def dotDot : Path := [46, 46]

inductive Component where
  | root
  | current
  | parent
  | normal (name : Path)
  deriving DecidableEq

def isAbsolute (path : Path) : Bool := path.head? == some slash

def component (name : Path) : Option Component :=
  if name = [] ∨ name = dot then none
  else if name = dotDot then some .parent
  else some (.normal name)

/-- What a path starts with, before its names. -/
def start (path : Path) : List Component :=
  if isAbsolute path then [.root]
  else if (path.splitOn slash).head? = some dot then [.current]
  else []

def names (path : Path) : List Component := (path.splitOn slash).filterMap component

def components (path : Path) : List Component := start path ++ names path

/-- A path relative to another. An absolute one takes its place. -/
def join (base path : Path) : Path :=
  if isAbsolute path then path
  else if base = [] ∨ base.getLast? = some slash then base ++ path
  else base ++ slash :: path

/-- What follows the last dot of the last name, unless the name starts with that dot. -/
def extension (path : Path) : Option Path :=
  let name := ((path.splitOn slash).getLast?).getD []
  match name.reverse.span (· ≠ 46) with
  | (_, []) | (_, [_]) => none
  | (last, _ :: _ :: _) => some last.reverse

section Join
variable {base path : Path}

theorem splitOn_append (base path : Path) :
    (base ++ slash :: path).splitOn slash = base.splitOn slash ++ path.splitOn slash :=
  List.splitOnP_append_cons base path (beq_self_eq_true slash)

theorem start_append (nonempty : base ≠ []) : start (base ++ slash :: path) = start base := by
  obtain ⟨first, rest, rfl⟩ := List.exists_cons_of_ne_nil nonempty
  have head : (((first :: rest) ++ slash :: path).splitOn slash).head? = ((first :: rest).splitOn slash).head? := by
    exact (congrArg List.head? (splitOn_append _ _)).trans (List.head?_append_of_ne_nil _ (List.splitOnP_ne_nil _ _))
  rw [start, start, head]
  rfl

theorem components_join (nonempty : base ≠ []) (unfinished : base.getLast? ≠ some slash)
    (relative : isAbsolute path = false) : components (join base path) = components base ++ names path := by
  rw [join, if_neg (by simp [relative]), if_neg (by simp [nonempty, unfinished]), components, components,
    start_append nonempty, names, splitOn_append, List.filterMap_append, List.append_assoc]
  rfl

theorem getLast?_join (nonempty : path ≠ []) : (join base path).getLast? = path.getLast? := by
  rw [join]
  split
  · rfl
  · split
    · exact List.getLast?_append_of_ne_nil _ nonempty
    · rw [List.getLast?_append_of_ne_nil _ (List.cons_ne_nil _ _), List.getLast?_cons_of_ne_nil nonempty]

end Join
end UnixPath
