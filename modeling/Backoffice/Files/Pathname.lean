import Backoffice.Text.Basic

/-!
# Pathnames

A *pathname* is a text with names between slashes. It begins at the root if it begins
with a slash, otherwise in a working directory. A dot is the name of the directory one
is in, and two dots are the name of the one around it.

* `Pathname.names`: the names to follow one after the other;
* `Pathname.join`: the pathname of a name inside a directory;
* `Pathname.Trail.parent?`: a pathname without its last name, which is a matter of the
  text alone: whether there is such a file or directory makes no difference.
-/

namespace Backoffice

/-- The names that lead from the root to a file or directory, without any dots. -/
abbrev Path := List Text

namespace Pathname

/-- The names of a pathname. Slashes in a row count as one. -/
def names (pathname : Text) : List Text :=
  (Text.pieces '/' pathname).filter fun name => !name.isEmpty

/-- Where a pathname begins. -/
def start (working : Path) (pathname : Text) : Path :=
  if pathname.head? = some '/' then [] else working

/-- Whether a pathname ends in a slash, and so can only be that of a directory. -/
def endsInSlash (pathname : Text) : Bool :=
  pathname.getLast? = some '/'

/-- The name of the directory one is in. -/
def dot : Text :=
  "."

/-- The name of the directory around the one one is in. -/
def dots : Text :=
  ".."

/-- The pathname of a name inside a directory; a name that begins with a slash stands
    for itself. -/
def join (directory name : Text) : Text :=
  if name.head? = some '/' then name
  else if directory.isEmpty || endsInSlash directory then directory ++ name
  else directory ++ '/' :: name

/-! ### Going back -/

/-- A pathname seen from its end: its names up to the *anchor*, which is the root, a dot
    that it begins with, or nothing. Between two slashes there is an empty name. -/
structure Trail where
  anchor : Text
  /-- The names after the anchor, the last one first. -/
  back : List Text
  deriving DecidableEq, Repr

/-- The trail of a pathname. -/
def trail (pathname : Text) : Trail :=
  match pathname with
  | '/' :: rest => ⟨['/'], (Text.pieces '/' rest).reverse⟩
  | ['.'] => ⟨dot, []⟩
  | '.' :: '/' :: rest => ⟨dot, (Text.pieces '/' ('/' :: rest)).reverse⟩
  | _ => ⟨[], (Text.pieces '/' pathname).reverse⟩

namespace Trail

/-- The pathname of a trail. -/
def pathname (t : Trail) : Text :=
  t.anchor ++ Text.joined ['/'] t.back.reverse

/-- Whether a name makes no difference: a dot, or nothing between two slashes. -/
def isIdle (name : Text) : Bool :=
  name.isEmpty || name = dot

/-- The trail without idle names at its end. -/
def tidy (t : Trail) : Trail :=
  { t with back := t.back.dropWhile isIdle }

/-- The trail without its last name. The root has none, and a dot alone is the last name
    of nothing. -/
def parent? (t : Trail) : Option Trail :=
  match t.tidy.back with
  | _ :: outer => some (tidy ⟨t.anchor, outer⟩)
  | [] => if t.anchor = dot then some ⟨[], []⟩ else none

end Trail

end Pathname

end Backoffice
