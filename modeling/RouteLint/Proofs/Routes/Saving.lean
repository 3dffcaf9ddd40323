import RouteLint.Proofs.Routes.Deciding
import RouteLint.Proofs.Routes.RepairRun

/-!
# What runs write

A run with repairs writes the files in which something is repaired.  The bytes of such a file are
the old ones with texts inserted around the repaired types, so no line moves, and the lines that are
reported for what was not repaired are right for the written files too.

## Main definitions

* `CheckRequest.Inserts` — what a run that only inserts leaves behind.

## Main results

* `Source.Charted.applyAll_eq` — the planned edits of a source only insert.
* `Verdict.line_remaining?` — the line of a violation that remains.
* `repair_inserts` — **a run with repairs only inserts.**
-/

namespace RouteLint

open Syntax Project

namespace Source.Charted

variable {s : Source} {es : List Edit}

/-- The planned edits of a source only insert. -/
theorem applyAll_eq (h : s.Charted) (hes : s.Plans es) :
    Edit.applyAll es s.content = Edit.insertAround es s.content :=
  Edit.applyAll_eq_insertAround (h.wraps hes) (h.pairwise_apart hes)

/-- An edited source is a text if it was one. -/
theorem decodeChars_insertAround (h : s.Charted) (hes : s.Plans es)
    (hs : ∃ cs, Utf8.decodeChars s.content = .ok cs) :
    ∃ cs, Utf8.decodeChars (Edit.insertAround es s.content) = .ok cs := by
  cases es with
  | nil => rwa [Edit.insertAround_nil]
  | cons e es =>
    obtain ⟨before, text, after, hcontent, -⟩ := h.wraps hes e List.mem_cons_self
    obtain ⟨cs, hcs⟩ := Edit.exists_encodeChars_applyAll (h.wraps hes) (h.pairwise_apart hes)
      ⟨_, hcontent⟩
    rw [← h.applyAll_eq hes, hcs]
    exact ⟨cs, Utf8.decodeChars_encodeChars cs⟩

/-- The row of a parameter is found where the parameter has moved to. -/
theorem row_insertAround (h : s.Charted) (es : List Edit) {p : Parameter} (hp : p ∈ s.contexts) :
    p.extent.row =
      lineBreaks ((Edit.insertAround es s.content).take (Edit.shift es p.extent.start)) := by
  obtain ⟨hstart, hrow⟩ := h.rows p hp
  rw [Edit.take_insertAround es hstart, Edit.lineBreaks_insertAround, hrow]

end Source.Charted

/-- The line of a violation that remains is the one after the row of the parameter. -/
theorem Verdict.line_remaining? {v : Verdict} {y : Violation} (h : v.remaining? = some y) :
    ∃ p, v.handler.context? = some p ∧ y.line = p.extent.row + 1 := by
  have hy : v.violation? = some y := by
    unfold remaining? at h
    split at h
    · cases h
    · exact h
  unfold violation? at hy
  split at hy
  · next p text hp _ =>
    cases hy
    exact ⟨p, hp, rfl⟩
  · cases hy

/-- What a run with repairs leaves behind, by its verdicts, if it only inserts. -/
structure CheckRequest.Inserts (q : CheckRequest) (parse : Parser) (w : Workspace)
    (vs : List Verdict) (result : RunResult) (w' : Workspace) : Prop where
  /-- There is a verdict for each handler, in order. -/
  trials : vs.map (fun v => (v.source, v.handler)) = (q.sources w parse).flatMap Source.trials
  /-- Violations that are not repaired are reported. -/
  violations : result.violations = vs.filterMap Verdict.remaining?
  /-- It is told which handlers have been repaired. -/
  log : w'.log.filter Event.isFixed =
    w.log.filter Event.isFixed ++ (vs.filter Verdict.isRepairable).map Verdict.event
  /-- Where no edit is planned the disk stays as it is. -/
  untouched : ∀ place, (∀ s ∈ q.sources w parse, planned vs s.path ≠ [] → s.path.parts ≠ place) →
    w'.disk.entry? place = w.disk.entry? place
  /-- Sources are found with texts inserted around the types that are repaired. -/
  inserted : ∀ s ∈ q.sources w parse, w'.disk.entry? s.path.parts =
    some (.file (Edit.insertAround (planned vs s.path) s.content))
  /-- They are valid, -/
  valid : ∀ s ∈ q.sources w parse,
    ∃ cs, Utf8.decodeChars (Edit.insertAround (planned vs s.path) s.content) = .ok cs
  /-- and have as many lines as before. -/
  lines : ∀ s ∈ q.sources w parse,
    lineBreaks (Edit.insertAround (planned vs s.path) s.content) = lineBreaks s.content
  /-- A violation that is reported is reported at the line where the handler's second parameter
  has moved to. -/
  line : ∀ v ∈ vs, ∀ y, v.remaining? = some y → ∃ p, v.handler.context? = some p ∧
    (Edit.insertAround (planned vs v.source.path) v.source.content)[
      Edit.shift (planned vs v.source.path) p.extent.start]? = v.source.content[p.extent.start]? ∧
    y.line = lineBreaks ((Edit.insertAround (planned vs v.source.path) v.source.content).take
      (Edit.shift (planned vs v.source.path) p.extent.start)) + 1

/-- **A run with repairs only inserts.** -/
theorem repair_inserts {parse : Parser} {q : CheckRequest} {w : Workspace}
    (hcharted : ∀ s ∈ q.sources w parse, s.Charted)
    (h : (checkRoutes parse { q with fix := true } w).1.isError = false) :
    ∃ vs, q.Inserts parse w vs (checkRoutes parse { q with fix := true } w).1
      (checkRoutes parse { q with fix := true } w).2 := by
  obtain ⟨vs, hrepairs, hviolations, -⟩ := repairRun h
  refine ⟨vs, hrepairs.trials, hviolations, hrepairs.log, hrepairs.untouched, ?_, ?_, ?_, ?_⟩
  · intro s hs
    rw [hrepairs.entry hs, (hcharted s hs).applyAll_eq (hrepairs.plans s hs)]
  · intro s hs
    refine (hcharted s hs).decodeChars_insertAround (hrepairs.plans s hs) ?_
    obtain ⟨language, content, -, -, hvalid, heq⟩ := readSource_eq_ok.1 ((q.mem_sources w).1 hs).2
    rw [heq]
    exact hvalid
  · exact fun s _ => Edit.lineBreaks_insertAround _ _
  · intro v hv y hy
    obtain ⟨p, hp, hline⟩ := Verdict.line_remaining? hy
    obtain ⟨hs, hhandler⟩ := hrepairs.mem hv
    have hchart := hcharted _ hs
    have hmem : p ∈ v.source.contexts := Source.mem_contexts hhandler hp
    refine ⟨p, hp, Edit.getElem?_insertAround _ (hchart.rows p hmem).1, ?_⟩
    rw [hline, ← hchart.row_insertAround _ hmem]

/-- Both files of the small project are written. -/
theorem repair_inserts_sample :
    (∀ s ∈ Sample.request.sources Sample.workspace Module.parse, s.Charted) ∧
      (checkRoutes Module.parse { Sample.request with fix := true } Sample.workspace).1.isError =
        false ∧
      ∃ vs, Sample.request.Inserts Module.parse Sample.workspace vs
        (checkRoutes Module.parse { Sample.request with fix := true } Sample.workspace).1
        (checkRoutes Module.parse { Sample.request with fix := true } Sample.workspace).2 := by
  dsimp only
  exact ⟨Sample.charted, Sample.isError_repair,
    repair_inserts Sample.charted Sample.isError_repair⟩

end RouteLint
