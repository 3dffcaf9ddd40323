import RouteLint.Disk
import RouteLint.Json.Reader

/-!
# JSON files

A file is read as UTF-8 text, in which every way of ending a line counts as a line break, and then
as a JSON document.

## Main definitions

* `Json.FileError` — why a file holds no document.
* `Json.readFile` — the document in a file.
-/

namespace RouteLint.Json

/-- Why no document could be read from a file. -/
inductive FileError where
  /-- The file cannot be read. -/
  | disk (failure : Disk.Failure)
  /-- Its content is not UTF-8. -/
  | encoding (fault : Utf8.Fault)
  /-- Its text is not one document. -/
  | document (error : ReadError)
  deriving Repr

/-- The wording of an error. -/
def FileError.message : FileError → String
  | .disk f => f.message
  | .encoding f => f.message
  | .document e => e.message

/-- The document that the bytes of a file write. -/
def readBytes (content : Bytes) : Except FileError Value :=
  match Utf8.decodeChars content with
  | .error f => .error (.encoding f)
  | .ok cs =>
    match readChars (Utf8.unifyNewlines cs) with
    | .error e => .error (.document e)
    | .ok v => .ok v

/-- The document in a file. -/
def readFile (d : Disk) (p : Path) : Except FileError Value :=
  match d.read p with
  | .error f => .error (.disk f)
  | .ok content => readBytes content

end RouteLint.Json
