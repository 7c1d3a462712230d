/-!
# File names

A grammar's file name is text that is passed on unchanged. Two names are the same file name when
they have the same components: repeated and trailing separators and inner `.` components say
nothing, while a leading `.`, every `..` and the case of a letter do.
-/

namespace GrammarScan

/-- A name under which diagnostics cite a grammar. -/
structure FileName where
  path : String
  deriving DecidableEq, Repr, Inhabited

namespace FileName

/-- A step of the way that a file name describes. -/
inductive Component where
  /-- The top of the file system. -/
  | root
  /-- The directory the way starts in, written out. -/
  | here
  /-- A named entry; `..` is one. -/
  | entry (name : String)
  deriving DecidableEq, Repr

/-- The named entries among the pieces of a path. -/
def entries (pieces : List String) : List Component :=
  (pieces.filter fun piece => piece != "" && piece != ".").map .entry

/-- The components of a file name. A `.` counts only as the first piece of a relative name. -/
def components (file : FileName) : List Component :=
  match file.path.splitOn "/" with
  | "." :: pieces => .here :: entries pieces
  | "" :: piece :: pieces => .root :: entries (piece :: pieces)
  | pieces => entries pieces

instance : BEq FileName where
  beq a b := a.components == b.components

end FileName

end GrammarScan
