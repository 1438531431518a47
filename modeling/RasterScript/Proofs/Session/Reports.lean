import RasterScript.Proofs.Messages.Commands
import RasterScript.Shell

/-!
# Reports — one line of output for one line of a script
-/

namespace RasterScript

/-! ## 1. The lines of a run -/

/-- The lines up to the first quit word, without those that are passed over, each with its number;
the first line has number `n`. -/
def activeLines (n : Nat) (ls : List Bytes) : List (ScriptLine × Nat) :=
  (((ls.map ScriptLine.ofBytes).zipIdx n).takeWhile fun x => x.1 ≠ .quit).filter fun x =>
    x.1 ≠ .idle

section Formats

variable [PictureCodec] [ManifestFormat]

/-- A line of a script and the session that it finds. -/
structure Visit where
  session : Session
  line : ScriptLine
  number : Nat

namespace Visit

/-- What comes of the line, and the session after it. -/
def result (v : Visit) : Except String Keyword × Session :=
  match v.line with
  | .command text =>
    match v.session.runLine text with
    | (.ok c, s) => (.ok c.keyword, s)
    | (.error f, s) => (.error f.message, s)
  | _ => (.error undecodableReason, v.session)

def succeeded (v : Visit) : Bool := v.result.1.isOk

def report (v : Visit) : String :=
  match v.result.1 with
  | .ok k => successReport v.number k
  | .error reason => failureReport v.number reason

end Visit

/-- The lines of a run, each with the session that the lines before it have led to. -/
def Session.visits : Session → List (ScriptLine × Nat) → List Visit
  | _, [] => []
  | s, (line, n) :: rest => ⟨s, line, n⟩ :: visits (Visit.result ⟨s, line, n⟩).2 rest

/-- The lines that are reported: all of them, or those that failed. -/
def reported (quiet : Bool) (vs : List Visit) : List Visit :=
  vs.filter fun v => !quiet || !v.succeeded

theorem Session.lines_visits (s : Session) (ls : List (ScriptLine × Nat)) :
    (s.visits ls).map (fun v => (v.line, v.number)) = ls := by
  induction ls generalizing s with
  | nil => rfl
  | cons x ls ih =>
    rw [visits, List.map_cons, ih]

theorem reported_cons (quiet : Bool) (v : Visit) (vs : List Visit) :
    reported quiet (v :: vs) = reported quiet [v] ++ reported quiet vs := by
  unfold reported
  rw [← List.filter_append, List.singleton_append]

namespace Run

/-- A line that is carried out adds its report. -/
theorem command_eq (r : Run) (quiet : Bool) (n : Nat) (text : String) :
    (r.command quiet n text).reports =
        r.reports ++ (reported quiet [⟨r.session, .command text, n⟩]).map Visit.report ∧
      (r.command quiet n text).session = (Visit.result ⟨r.session, .command text, n⟩).2 := by
  unfold command Visit.report reported Visit.succeeded Visit.result
  cases h : r.session.runLine text with
  | mk result s =>
    cases result with
    | error f => simp [h, Except.isOk, Except.toBool]
    | ok c => cases quiet <;> simp [h, Except.isOk, Except.toBool]

theorem undecodable_eq (r : Run) (quiet : Bool) (n : Nat) :
    (r.undecodable n).reports =
        r.reports ++ (reported quiet [⟨r.session, .undecodable, n⟩]).map Visit.report ∧
      (r.undecodable n).session = (Visit.result ⟨r.session, .undecodable, n⟩).2 := by
  simp [undecodable, Visit.report, reported, Visit.succeeded, Visit.result, Except.isOk,
    Except.toBool]

/-- A run adds the reports of its lines in their order. -/
theorem reports_lines (quiet : Bool) (n : Nat) (ls : List Bytes) (r : Run) :
    (lines quiet n ls r).reports =
      r.reports ++ (reported quiet (r.session.visits (activeLines n ls))).map Visit.report := by
  induction ls generalizing n r with
  | nil => simp [lines, activeLines, Session.visits, reported]
  | cons l ls ih =>
    rw [lines]
    cases hl : ScriptLine.ofBytes l with
    | quit => simp [activeLines, hl, Session.visits, reported]
    | idle =>
      have hskip : activeLines n (l :: ls) = activeLines (n + 1) ls := by
        simp [activeLines, hl]
      rw [hskip]
      exact ih (n + 1) r
    | undecodable =>
      have hcons : activeLines n (l :: ls) = (.undecodable, n) :: activeLines (n + 1) ls := by
        simp [activeLines, hl]
      obtain ⟨hreports, hsession⟩ := r.undecodable_eq quiet n
      dsimp only
      rw [ih, hreports, hsession, hcons, Session.visits, List.append_assoc, ← List.map_append,
        ← reported_cons]
    | command text =>
      have hcons : activeLines n (l :: ls) = (.command text, n) :: activeLines (n + 1) ls := by
        simp [activeLines, hl]
      obtain ⟨hreports, hsession⟩ := r.command_eq quiet n text
      dsimp only
      rw [ih, hreports, hsession, hcons, Session.visits, List.append_assoc, ← List.map_append,
        ← reported_cons]

end Run

end Formats

/-! ## 2. Line breaks -/

def lineBreaks (s : String) : Nat := s.toList.count '\n'

theorem lineBreaks_append (s t : String) : lineBreaks (s ++ t) = lineBreaks s + lineBreaks t := by
  unfold lineBreaks
  rw [String.toList_append, List.count_append]

theorem lineBreaks_eq_zero {s : String} : lineBreaks s = 0 ↔ OneLine s := List.count_eq_zero

theorem lineBreaks_successReport (n : Nat) (k : Keyword) : lineBreaks (successReport n k) = 1 := by
  have hnumber : lineBreaks (toString n) = 0 := lineBreaks_eq_zero.2 (oneLine_repr n)
  have hkeyword : lineBreaks k.text = 0 :=
    lineBreaks_eq_zero.2 (oneLine_of_isName (isName_keyword k))
  show lineBreaks ("Line " ++ toString n ++ ": " ++ k.text ++ " done\n") = 1
  rw [lineBreaks_append, lineBreaks_append, lineBreaks_append, lineBreaks_append, hnumber, hkeyword]
  decide

theorem lineBreaks_failureReport (n : Nat) (reason : String) :
    lineBreaks (failureReport n reason) = lineBreaks reason + 1 := by
  have hnumber : lineBreaks (toString n) = 0 := lineBreaks_eq_zero.2 (oneLine_repr n)
  have hstart : lineBreaks "Invalid line " = 0 := by decide
  have hcolon : lineBreaks ": " = 0 := by decide
  have hend : lineBreaks "\n" = 1 := by decide
  show lineBreaks ("Invalid line " ++ toString n ++ ": " ++ reason ++ "\n") = _
  rw [lineBreaks_append, lineBreaks_append, lineBreaks_append, lineBreaks_append, hnumber, hstart,
    hcolon, hend]
  omega

/-- Texts that each have a line break are as many as the line breaks of them all if and only if
each has just the one. -/
theorem length_le_lineBreaks_join {ts : List String} (h : ∀ t ∈ ts, 1 ≤ lineBreaks t) :
    ts.length ≤ lineBreaks (String.join ts) ∧
      (lineBreaks (String.join ts) = ts.length ↔ ∀ t ∈ ts, lineBreaks t = 1) := by
  induction ts with
  | nil => exact ⟨Nat.zero_le _, fun _ _ => (absurd · List.not_mem_nil), fun _ => rfl⟩
  | cons t ts ih =>
    obtain ⟨ht, hts⟩ := List.forall_mem_cons.1 h
    obtain ⟨hle, hiff⟩ := ih hts
    rw [String.join_cons, lineBreaks_append, List.length_cons, List.forall_mem_cons, ← hiff]
    omega

/-! ## 3. Reports of one line -/

section Formats

variable [PictureCodec] [ManifestFormat]

namespace Visit

/-- The line imports a directory and fails at a layer file for which the manifest there gives a name
with a line break. -/
def FailsAtFile (v : Visit) : Prop := ∃ text c f s, v.line = .command text ∧
  v.session.runLine text = (.error f, s) ∧ Command.parseLine v.session.cursor text = .ok c ∧
    c.FailsAtFile v.session.world.files f

theorem one_le_lineBreaks (v : Visit) : 1 ≤ lineBreaks v.report := by
  unfold report
  split
  · exact Nat.le_of_eq (lineBreaks_successReport _ _).symm
  · rw [lineBreaks_failureReport]
    exact Nat.le_add_left 1 _

theorem lineBreaks_of_succeeded {v : Visit} (h : v.succeeded = true) : lineBreaks v.report = 1 := by
  unfold succeeded at h
  unfold report
  cases hr : v.result.1 with
  | ok k => exact lineBreaks_successReport _ k
  | error reason =>
    rw [hr] at h
    cases h

/-- The report of a line has one line break if and only if the reason in it has none. -/
theorem lineBreaks_report_of_error {v : Visit} {reason : String} (h : v.result.1 = .error reason) :
    lineBreaks v.report = 1 ↔ OneLine reason := by
  unfold report
  rw [h]
  dsimp only
  rw [lineBreaks_failureReport, ← lineBreaks_eq_zero]
  omega

theorem result_of_command {v : Visit} {text : String} {f : Failure} {s : Session}
    (hline : v.line = .command text) (hrun : v.session.runLine text = (.error f, s)) :
    v.result.1 = .error f.message := by
  unfold result
  rw [hline]
  dsimp only
  rw [hrun]

theorem lineBreaks_report (v : Visit) : lineBreaks v.report = 1 ↔ ¬ v.FailsAtFile := by
  constructor
  · rintro h ⟨text, c, f, s, hline, hrun, -, name, dir, loc, m, r, -, -, -, -, hshows⟩
    have hreason := (lineBreaks_report_of_error (result_of_command hline hrun)).1 h
    exact hshows.not_plain (Failure.oneLine_message.1 hreason)
  · intro h
    cases hline : v.line with
    | command text =>
      cases hrun : v.session.runLine text with
      | mk result s =>
        cases result with
        | ok c =>
          apply lineBreaks_of_succeeded
          unfold succeeded Visit.result
          rw [hline]
          dsimp only
          rw [hrun]
          rfl
        | error f =>
          apply (lineBreaks_report_of_error (result_of_command hline hrun)).2
          apply Failure.oneLine_message.2
          rcases Command.fails_runLine hrun with hplain | ⟨c, hc, hfile⟩
          · exact hplain
          · exact absurd ⟨text, c, f, s, hline, hrun, hc, hfile⟩ h
    -- no other line is carried out
    | _ =>
      have hresult : v.result.1 = .error undecodableReason := by
        unfold result
        rw [hline]
      exact (lineBreaks_report_of_error hresult).2 (by decide)

end Visit

/-- A run reports its lines in their order, each of them or each that failed.  What it writes has
as many line breaks as there are reports, unless an import fails at a layer file for which the
manifest gives a name with a line break; then it has more. -/
theorem line_breaks_of_runScript (s : Session) (quiet : Bool) (input : Bytes) :
    let visits := s.visits (activeLines 1 (physicalLines input))
    (visits.map fun v => (v.line, v.number)) = activeLines 1 (physicalLines input) ∧
    (s.runScript quiet input).reports = (reported quiet visits).map Visit.report ∧
    (reported quiet visits).length ≤ lineBreaks (s.runScript quiet input).output ∧
    (lineBreaks (s.runScript quiet input).output = (reported quiet visits).length ↔
      ∀ v ∈ visits, ¬ v.FailsAtFile) := by
  intro visits
  have hreports : (s.runScript quiet input).reports = (reported quiet visits).map Visit.report :=
    Run.reports_lines quiet 1 (physicalLines input) (.start s)
  have hpos : ∀ t ∈ (reported quiet visits).map Visit.report, 1 ≤ lineBreaks t :=
    List.forall_mem_map.2 fun v _ => v.one_le_lineBreaks
  obtain ⟨hle, hiff⟩ := length_le_lineBreaks_join hpos
  rw [List.length_map] at hle hiff
  have houtput : (s.runScript quiet input).output =
      String.join ((reported quiet visits).map Visit.report) := congrArg String.join hreports
  rw [houtput, hiff, List.forall_mem_map]
  refine ⟨s.lines_visits _, hreports, hle, ?_⟩
  constructor
  · intro h v hv
    rw [← v.lineBreaks_report]
    -- a line that is not reported has succeeded
    cases hreported : (!quiet || !v.succeeded) with
    | true => exact h v (List.mem_filter.2 ⟨hv, hreported⟩)
    | false =>
      rw [Bool.or_eq_false_iff, Bool.not_eq_false'] at hreported
      exact Visit.lineBreaks_of_succeeded (by simpa using hreported.2)
  · intro h v hv
    exact v.lineBreaks_report.2 (h v (List.mem_filter.1 hv).1)

end Formats

/-- A directory `d` with a manifest that lists a layer file with a line break in its name. -/
def brokenName : FileStore :=
  (FileStore.put ⟨∅, [], none⟩ ["d"] .directory).put ["d", "manifest.pgl"]
    (.file (Manifest.encode ⟨"PGL1", 1, 1, [⟨"a", true, "x\ny"⟩]⟩))

/-- One line of a script can be reported with two lines. -/
theorem exists_report_of_two_lines : ∃ (s : Session) (input : Bytes),
    (activeLines 1 (physicalLines input)).length = 1 ∧
      lineBreaks (s.runScript false input).output = 2 :=
  ⟨⟨⟨.new .standard, brokenName⟩, .unset⟩, encodeUtf8 "create-layered-image import s d\n",
    by decide +kernel, by decide +kernel⟩

end RasterScript
