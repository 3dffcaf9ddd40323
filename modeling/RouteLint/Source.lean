import RouteLint.Syntax.Parse
import RouteLint.Path

/-!
# Source files

A source is a file held in memory: its bytes and the module they write.  Edits are staged first,
where edits that overlap are refused, and then applied all at once; after that the bytes are read
anew.

## Main definitions

* `Position` — a place as a line and a column of characters.
* `Edit` — bytes to be replaced.
* `Source.stage`, `Source.apply` — staging and applying edits.
* `Source.position` — the place of a construct.
-/

namespace RouteLint

open Syntax

/-- A place in a text: line and column, both counted from one, the column in characters. -/
structure Position where
  /-- The line. -/
  line : Nat
  /-- The column. -/
  column : Nat
  deriving DecidableEq, Repr, Inhabited

/-- Replacing the bytes from `start` up to `stop`. -/
structure Edit where
  /-- The first byte replaced. -/
  start : Nat
  /-- The byte after the last one replaced. -/
  stop : Nat
  /-- The text put there. -/
  replacement : String
  deriving DecidableEq, Repr, Inhabited

namespace Edit

/-- Whether two edits touch a common byte. -/
def overlaps (a b : Edit) : Bool := a.start < b.stop && b.start < a.stop

/-- The bytes after one edit.  An edit past the end adds at the end. -/
def applyTo (e : Edit) (content : Bytes) : Bytes :=
  content.take e.start ++ Utf8.encode e.replacement ++ content.drop e.stop

/-- Edits from the last to the first; those with the same start stay in order. -/
def fromLast (edits : List Edit) : List Edit := edits.mergeSort fun a b => b.start ≤ a.start

/-- The bytes after several edits, applied from the last to the first. -/
def applyAll (edits : List Edit) (content : Bytes) : Bytes :=
  (fromLast edits).foldl (fun c e => e.applyTo c) content

end Edit

/-- The place of a construct in the bytes it was read from. -/
def positionIn (content : Bytes) (e : Extent) : Position :=
  let before := (content.take e.start).drop (e.start - e.column)
  ⟨e.row + 1, (Utf8.decodeLossy before).length + 1⟩

/-- How the bytes of a file in some language are read. -/
abbrev Parser := Language → Bytes → Module

/-- A file held in memory. -/
structure Source where
  /-- Where the file is. -/
  path : Path
  /-- Its language. -/
  language : Language
  /-- Its bytes. -/
  content : Bytes
  /-- The module they write. -/
  module : Module
  /-- Edits to be applied, in the order they were staged. -/
  staged : List Edit
  /-- Whether the bytes differ from what was last read or saved. -/
  modified : Bool
  /-- How often the bytes have been read anew. -/
  revision : Nat
  deriving Repr, Inhabited

namespace Source

/-- A file as it is read from the disk. -/
def ofContent (parse : Parser) (path : Path) (language : Language) (content : Bytes) : Source :=
  ⟨path, language, content, parse language content, [], false, 0⟩

/-- The place of a construct. -/
def position (s : Source) (e : Extent) : Position := positionIn s.content e

/-- Stage an edit.  An edit that is already staged is staged only once; an edit that overlaps
another is refused. -/
def stage? (s : Source) (e : Edit) : Option Source :=
  if s.staged.contains e then some s
  else if s.staged.any e.overlaps then none
  else some { s with staged := s.staged ++ [e] }

/-- Apply the staged edits and read the bytes anew; nothing happens if there are none. -/
def apply (parse : Parser) (s : Source) : Source :=
  if s.staged.isEmpty then s
  else
    let content := Edit.applyAll s.staged s.content
    { s with
      content
      module := parse s.language content
      staged := []
      modified := true
      revision := s.revision + 1 }

end Source

end RouteLint
