import Mathlib.Data.List.Permutation
import Mathlib.Data.List.Sublists
import RouteLint.Proofs.Routes.Verdicts
import RouteLint.Proofs.Syntax.Eager
import RouteLint.Proofs.Syntax.Equality

/-!
# Deciding what is assumed of parsers

What is assumed of a parser and of its trees can be tested on a source.  Its handlers give rise to
finitely many edits, so there are finitely many choices of edits that can be applied together; and
a type that stands in valid bytes has one text before it and one after it.

Runs are tried on two small projects.  One has two files with a handler each that can be repaired,
and the second file looks up a type in the first.  In the other the first file is the type
configuration as well, and repairing it changes where an import of the second file leads to.  All
that is computed about a project is computed together, so that its files are parsed and repaired only
once.

## Main definitions

* `Sample.workspace`, `Sample.request` — a small project.
* `Tangled.workspace`, `Tangled.request` — a project whose type configuration has a handler.

## Main results

* `Source.Plans.mem_choices` — planned edits are among the choices.
* `Source.Rewraps` and `Source.Charted` can be decided.
* `Sample.checked`, `Tangled.checked` — both projects are read as expected, and what runs on them
  come to, after a repair as well.
-/

namespace RouteLint

open Syntax

/-! ### Choices of edits -/

/-- The edits that the handlers of a source can give rise to. -/
def Source.repairs (s : Source) : List Edit :=
  s.contexts.filterMap fun p => (planRepair p).toOption

theorem Source.mem_repairs {s : Source} {e : Edit} :
    e ∈ s.repairs ↔ ∃ p ∈ s.contexts, planRepair p = .ok e := by
  unfold repairs
  rw [List.mem_filterMap]
  refine exists_congr fun p => and_congr_right fun _ => ?_
  cases planRepair p <;> simp [Except.toOption]

/-- Some of the given edits, in any order. -/
def choices (es : List Edit) : List (List Edit) := es.sublists.flatMap List.permutations'

instance (s : Source) (es : List Edit) : Decidable (s.Plans es) :=
  decidable_of_iff ((∀ e ∈ es, e ∈ s.repairs) ∧ es.Pairwise fun a b => a ≠ b ∧ b.overlaps a = false)
    ⟨fun h => ⟨fun e he => Source.mem_repairs.1 (h.1 e he), h.2⟩,
      fun h => ⟨fun e he => Source.mem_repairs.2 (h.planned e he), h.accepted⟩⟩

/-- Planned edits are among the choices. -/
theorem Source.Plans.mem_choices {s : Source} {es : List Edit} (h : s.Plans es) :
    es ∈ choices s.repairs := by
  have hnodup : es.Nodup := h.accepted.imp And.left
  have hsubset : es ⊆ s.repairs := fun e he => Source.mem_repairs.2 (h.planned e he)
  obtain ⟨l, hperm, hsublist⟩ := List.subperm_of_subset hnodup hsubset
  refine List.mem_flatMap.2 ⟨l, List.mem_sublists.2 hsublist, ?_⟩
  exact List.mem_permutations'.2 hperm.symm

instance (parse : Parser) (s : Source) : Decidable (s.Rewraps parse) :=
  decidable_of_iff (∀ es ∈ choices s.repairs, s.Plans es →
      (parse s.language (Edit.applyAll es s.content)).bare = (s.module.repaired es).bare)
    ⟨fun h es hes => h es hes.mem_choices hes, fun h es _ => h es⟩

/-! ### Places of types -/

/-- The characters of bytes that are valid. -/
def charsOf (bytes : Bytes) : List Char := (Utf8.decodeChars bytes).toOption.getD []

theorem charsOf_encodeChars (cs : List Char) : charsOf (Utf8.encodeChars cs) = cs := by
  rw [charsOf, Utf8.decodeChars_encodeChars]
  rfl

instance (content : Bytes) (text : List Char) (start stop : Nat) :
    Decidable (Stands content text start stop) :=
  decidable_of_iff
    (content = Utf8.encodeChars
        (charsOf (content.take start) ++ text ++ charsOf (content.drop stop)) ∧
      start = (Utf8.encodeChars (charsOf (content.take start))).length ∧
      stop = (Utf8.encodeChars (charsOf (content.take start) ++ text)).length) <| by
    refine ⟨fun h => ⟨_, _, h⟩, ?_⟩
    rintro ⟨before, after, rfl, rfl, rfl⟩
    have htake : (Utf8.encodeChars (before ++ text ++ after)).take
        (Utf8.encodeChars before).length = Utf8.encodeChars before := by
      rw [List.append_assoc, Utf8.encodeChars_append, List.take_left]
    have hdrop : (Utf8.encodeChars (before ++ text ++ after)).drop
        (Utf8.encodeChars (before ++ text)).length = Utf8.encodeChars after := by
      rw [Utf8.encodeChars_append (before ++ text), List.drop_left]
    rw [htake, hdrop, charsOf_encodeChars, charsOf_encodeChars]
    exact ⟨rfl, rfl, rfl⟩

instance (s : Source) : Decidable s.Charted :=
  decidable_of_iff
    ((∀ p ∈ s.contexts, ∀ t ∈ p.routeType?,
        Stands s.content t.text.toList t.extent.start t.extent.stop) ∧
      (∀ p ∈ s.contexts, ∀ q ∈ s.contexts, ∀ t ∈ p.routeType?, ∀ u ∈ q.routeType?,
        p = q ∨ t.extent.stop < u.extent.start ∨ u.extent.stop < t.extent.start) ∧
      ∀ p ∈ s.contexts, p.extent.start ≤ s.content.length ∧
        p.extent.row = lineBreaks (s.content.take p.extent.start))
    ⟨fun h => ⟨h.1, fun p hp q hq t u ht hu => h.2.1 p hp q hq t ht u hu, h.2.2⟩,
      fun h => ⟨h.types, fun p hp q hq t ht u hu => h.apart p hp q hq t u ht hu, h.rows⟩⟩

/-! ### A small project -/

/-- The bytes of lines. -/
def bytesOfLines (lines : List String) : Bytes := lines.flatMap fun l => Utf8.encode l ++ [10]

theorem bytesOfLines_eq (lines : List String) :
    bytesOfLines lines = Utf8.encodeChars (lines.flatMap fun l => l.toList ++ ['\n']) := by
  have hbreak : Utf8.encodeChars ['\n'] = [10] := by decide
  unfold bytesOfLines
  induction lines with
  | nil => rfl
  | cons l lines ih =>
    rw [List.flatMap_cons, List.flatMap_cons, Utf8.encodeChars_append, Utf8.encodeChars_append,
      hbreak, ih, Utf8.encode]

/-- Lines can be read. -/
theorem isOk_decodeChars_bytesOfLines (lines : List String) :
    (Utf8.decodeChars (bytesOfLines lines)).isOk = true := by
  rw [bytesOfLines_eq, Utf8.decodeChars_encodeChars]
  rfl

namespace Sample

/-- A file with a handler that can be repaired, and a type that another file looks up:
```
| export type C={params:x}
| /*é*/export function GET(a,b:{
| params:x}){}
``` -/
def first : Bytes := bytesOfLines
  ["export type C=\x7bparams:x\x7d", "/*é*/export function GET(a,b:\x7b",
    "params:x\x7d)\x7b\x7d"]

/-- A file with a handler that can be repaired, and one that cannot:
```
| import {C} from "../a/route"
| export function GET(a,b:{params:y}){}
| export function PUT(a,b:C){}
``` -/
def second : Bytes := bytesOfLines
  ["import \x7bC\x7d from \"../a/route\"", "export function GET(a,b:\x7bparams:y\x7d)\x7b\x7d",
    "export function PUT(a,b:C)\x7b\x7d"]

/-- Both files on a disk. -/
def workspace : Workspace where
  disk := ⟨[(["app"], .directory), (["app", "api"], .directory),
    (["app", "api", "a"], .directory), (["app", "api", "a", "route.ts"], .file first),
    (["app", "api", "b"], .directory), (["app", "api", "b", "route.ts"], .file second)]⟩
  home := ⟨.slash, []⟩
  log := []

/-- The check of both files. -/
def request : CheckRequest := { directory := ⟨.slash, []⟩ }

set_option maxRecDepth 100000 in
theorem checked :
    (∀ s ∈ request.sources workspace Module.parse, s.Rewraps Module.parse ∧ s.Charted) ∧
      (checkRoutes Module.parse { request with fix := true } workspace).1.isError = false ∧
      (checkRoutes Module.parse { request with fix := false }
        (checkRoutes Module.parse { request with fix := true } workspace).2).1.isError = false := by
  rw [← eagerParse_eq]
  decide +kernel

theorem assumed : ∀ s ∈ request.sources workspace Module.parse,
    s.Rewraps Module.parse ∧ s.Charted :=
  checked.1

theorem rewraps : ∀ s ∈ request.sources workspace Module.parse, s.Rewraps Module.parse :=
  fun s hs => (assumed s hs).1

theorem charted : ∀ s ∈ request.sources workspace Module.parse, s.Charted :=
  fun s hs => (assumed s hs).2

theorem isError_repair :
    (checkRoutes Module.parse { request with fix := true } workspace).1.isError = false :=
  checked.2.1

theorem isError_recheck :
    (checkRoutes Module.parse { request with fix := false }
      (checkRoutes Module.parse { request with fix := true } workspace).2).1.isError = false :=
  checked.2.2

end Sample

/-! ### A type configuration with a handler -/

namespace Tangled

/-- A handler between two strings:
```
| `;export function GET(a,b:{params:x}){};`
``` -/
def handler : String := "`;export function GET(a,b:\x7bparams:x\x7d)\x7b\x7d;`"

/-- A file that is read as a type configuration and as a module.  Behind the line separator a
comment goes on for the one and ends for the other, so what is a path for the one is a handler for
the other. -/
def first : Bytes :=
  Utf8.encode "//\u2028`\n\x7b\"compilerOptions\":\x7b\"paths\":\x7b\"x\":[\"" ++
    Utf8.encode handler ++ Utf8.encode "\"]\x7d\x7d\x7d//`\n"

/-- A file that looks up a type where the path leads to:
```
| import {F} from "x"
| export function GET(a,b:{params:F}){}
``` -/
def second : Bytes := bytesOfLines
  ["import \x7bF\x7d from \"x\"", "export function GET(a,b:\x7bparams:F\x7d)\x7b\x7d"]

/-- Both files on a disk, and the file that the path leads to. -/
def workspace : Workspace where
  disk := ⟨[(["app"], .directory), (["app", "api"], .directory),
    (["app", "api", "a"], .directory), (["app", "api", "a", "route.ts"], .file first),
    (["app", "api", "a", handler ++ ".ts"], .file (bytesOfLines ["export type F=Promise<x>"])),
    (["app", "api", "b"], .directory), (["app", "api", "b", "route.ts"], .file second)]⟩
  home := ⟨.slash, []⟩
  log := []

/-- The check of both files, under the first of them. -/
def request : CheckRequest :=
  { directory := ⟨.slash, []⟩, config := some "app/api/a/route.ts" }

set_option maxRecDepth 100000 in
/-- A handler is reported in the first file, and after the repair one in the second; a second repair
writes to the second file. -/
theorem checked :
    (∀ s ∈ request.sources workspace Module.parse, s.Rewraps Module.parse ∧ s.Charted) ∧
      (checkRoutes Module.parse { request with fix := true } workspace).1.isError = false ∧
      (checkRoutes Module.parse { request with fix := false } workspace).1.violations.map
        Violation.filePath = ["/app/api/a/route.ts"] ∧
      (checkRoutes Module.parse { request with fix := false }
        (checkRoutes Module.parse { request with fix := true } workspace).2).1.violations.map
          Violation.filePath = ["/app/api/b/route.ts"] ∧
      (checkRoutes Module.parse { request with fix := true }
          (checkRoutes Module.parse { request with fix := true } workspace).2).2.disk.entry?
          ["app", "api", "b", "route.ts"] ≠
        (checkRoutes Module.parse { request with fix := true } workspace).2.disk.entry?
          ["app", "api", "b", "route.ts"] := by
  rw [← eagerParse_eq]
  decide +kernel

end Tangled

end RouteLint
