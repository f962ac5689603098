import Chip8.ArgumentError

/-!
# Paths

A path is a root and the names on the way down from it. Repeated separators and names that stay in
place are dropped when a path is read; names that go up are kept, because where they lead depends on
the files that are there.
-/

namespace Chip8

/-- A path in normal form. The root of a relative path is empty. -/
structure Path where
  root : String
  names : List String
  deriving DecidableEq, Repr

namespace Path

/-- The root of a path. Exactly two leading separators are kept apart from one or more than two. -/
def rootOf (text : String) : String :=
  match text.toList with
  | '/' :: '/' :: '/' :: _ => "/"
  | '/' :: '/' :: _ => "//"
  | '/' :: _ => "/"
  | _ => ""

/-- Read a path. -/
def ofText (text : String) : Path :=
  ⟨rootOf text, (text.splitOn "/").filter fun name => name ≠ "" ∧ name ≠ "."⟩

/-- Read a path that files are looked up by. The null character ends the text of a path for those
who look, so it may not stand within. -/
def read (text : String) : Except ArgumentError Path :=
  if text.contains '\x00' then .error .pathText else .ok (ofText text)

/-- The normal form of a path; the path that stays in place is a single dot. -/
def text (p : Path) : String :=
  if p.root = "" ∧ p.names = [] then "." else p.root ++ "/".intercalate p.names

/-- The last name of a path. -/
def name (p : Path) : String := p.names.getLast?.getD ""

/-- The path without its last name. -/
def parent (p : Path) : Path := { p with names := p.names.dropLast }

end Path

end Chip8
