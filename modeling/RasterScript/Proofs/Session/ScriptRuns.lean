import Mathlib.Data.List.Basic
import Mathlib.Data.List.TakeWhile
import RasterScript.Proofs.Files.Paths
import RasterScript.Shell

/-!
# ScriptRuns — what a script does, line by line

A run is a fold over the lines before the first quit word.  `Run.afterLine` is what one line adds:
its report, its count, and the session after its command, if it has one.  From that step follow, for
whole runs, the session, the tally and the reports, each as a formula over the lines.
-/

namespace RasterScript

/-! ## 1. Lines -/

/-- The bytes are a text with nothing but a quit word on it. -/
def isQuitLine (line : Bytes) : Bool :=
  (decodeUtf8? line).any fun text => (trimmed text).toLower ∈ quitWords

/-- What is to be carried out: the text of a line without the blanks around it, unless it is blank,
a comment, or no text at all. -/
def commandText? (line : Bytes) : Option String :=
  ((decodeUtf8? line).map trimmed).filter fun text => text ≠ "" ∧ text.toList.head? ≠ some '#'

theorem commandText?_of_undecodable {line : Bytes} (h : decodeUtf8? line = none) :
    commandText? line = none := by
  unfold commandText?
  rw [h]
  rfl

/-- No quit word is blank or a comment, so it does not matter which of these is looked for first. -/
theorem not_quit_of_idle {text : String} (h : text = "" ∨ text.toList.head? = some '#') :
    text.toLower ∉ quitWords := by
  rcases h with rfl | hhash
  · decide +kernel
  · obtain ⟨rest, hrest⟩ := List.head?_eq_some_iff.1 hhash
    have hlower : text.toLower.toList.head? = some '#' := by
      unfold String.toLower
      rw [String.toList_map, hrest]
      rfl
    intro hquit
    have hheads : ∀ word ∈ quitWords, word.toList.head? ≠ some '#' := by decide
    exact hheads _ hquit hlower

theorem ofBytes_eq (line : Bytes) : ScriptLine.ofBytes line =
    if decodeUtf8? line = none then .undecodable
    else if isQuitLine line then .quit
    else match commandText? line with
      | some text => .command text
      | none => .idle := by
  unfold ScriptLine.ofBytes isQuitLine commandText?
  cases decodeUtf8? line with
  | none => rfl
  | some text =>
    by_cases hidle : trimmed text = "" ∨ (trimmed text).toList.head? = some '#'
    · have hnot := not_quit_of_idle hidle
      have hnone : ¬(trimmed text ≠ "" ∧ (trimmed text).toList.head? ≠ some '#') :=
        fun hsome => not_or.2 hsome hidle
      simp [hidle, hnot, hnone, Option.filter]
    · have hsome : trimmed text ≠ "" ∧ (trimmed text).toList.head? ≠ some '#' := not_or.1 hidle
      simp [hsome, Option.filter]

/-- The lines before the first one that ends the run. -/
def linesBeforeQuit (ls : List Bytes) : List Bytes := ls.takeWhile fun line => !isQuitLine line

/-- The commands on some lines. -/
def commandTexts (ls : List Bytes) : List String := ls.filterMap commandText?

theorem linesBeforeQuit_cons (l : Bytes) (ls : List Bytes) :
    linesBeforeQuit (l :: ls) = if isQuitLine l then [] else l :: linesBeforeQuit ls := by
  unfold linesBeforeQuit
  rw [List.takeWhile_cons]
  cases isQuitLine l <;> rfl

theorem commandTexts_cons (l : Bytes) (ls : List Bytes) :
    commandTexts (l :: ls) = (commandText? l).toList ++ commandTexts ls := by
  unfold commandTexts
  rw [List.filterMap_cons]
  cases commandText? l <;> rfl

/-! ## 2. One line -/

variable [PictureCodec] [ManifestFormat]

/-- The session after some commands, each carried out or refused. -/
def Session.runLines (s : Session) (texts : List String) : Session :=
  texts.foldl (fun s text => (s.runLine text).2) s

/-- What comes of each of some commands. -/
def Session.results : Session → List String → List (Except Failure Command)
  | _, [] => []
  | s, text :: texts => (s.runLine text).1 :: results (s.runLine text).2 texts

/-- The report of line `n` where the session is `s` before it; a quiet run tells of no success. -/
def lineReport (quiet : Bool) (s : Session) (n : Nat) (line : Bytes) : Option String :=
  if decodeUtf8? line = none then some (failureReport n undecodableReason)
  else match (commandText? line).map fun text => (s.runLine text).1 with
    | some (.ok c) => if quiet then none else some (successReport n c.keyword)
    | some (.error f) => some (failureReport n f.message)
    | none => none

namespace Run

/-- The run with line `n` passed over, reported or carried out. -/
def afterLine (quiet : Bool) (n : Nat) (line : Bytes) (r : Run) : Run :=
  let texts := (commandText? line).toList
  let results := r.session.results texts
  { reports := r.reports ++ (lineReport quiet r.session n line).toList
    tally :=
      { r.tally with
        succeeded := r.tally.succeeded + results.countP Except.isOk
        failed := r.tally.failed + results.countP (!Except.isOk ·) +
          [line].countP (decodeUtf8? · = none) }
    session := r.session.runLines texts }

section AfterLine

variable {quiet : Bool} {n : Nat} {line : Bytes} {r : Run}

theorem afterLine_of_undecodable (h : decodeUtf8? line = none) :
    afterLine quiet n line r = r.undecodable n := by
  simp [afterLine, undecodable, lineReport, commandText?_of_undecodable h, h, Session.results,
    Session.runLines]

theorem afterLine_of_idle (hdecoded : decodeUtf8? line ≠ none) (h : commandText? line = none) :
    afterLine quiet n line r = r := by
  simp [afterLine, lineReport, h, hdecoded, Session.results, Session.runLines]

theorem afterLine_of_command (hdecoded : decodeUtf8? line ≠ none) {text : String}
    (h : commandText? line = some text) : afterLine quiet n line r = r.command quiet n text := by
  unfold afterLine command lineReport
  cases hrun : r.session.runLine text with
  | mk result s =>
    cases result with
    | error f =>
      simp [h, hdecoded, hrun, Session.results, Session.runLines, Except.isOk, Except.toBool]
    | ok c =>
      cases quiet <;>
        simp [h, hdecoded, hrun, Session.results, Session.runLines, Except.isOk, Except.toBool]

end AfterLine

theorem lines_cons (quiet : Bool) (n : Nat) (l : Bytes) (ls : List Bytes) (r : Run) :
    lines quiet n (l :: ls) r =
      if isQuitLine l then { r with tally := { r.tally with quit := true } }
      else lines quiet (n + 1) ls (afterLine quiet n l r) := by
  rw [lines, ofBytes_eq]
  by_cases hnone : decodeUtf8? l = none
  · have hquit : isQuitLine l = false := by
      unfold isQuitLine
      rw [hnone]
      rfl
    rw [if_pos hnone, hquit, afterLine_of_undecodable hnone]
    rfl
  · rw [if_neg hnone]
    by_cases hquit : isQuitLine l = true
    · rw [if_pos hquit, if_pos hquit]
    · rw [if_neg hquit, if_neg hquit]
      cases htext : commandText? l with
      | none => rw [afterLine_of_idle hnone htext]
      | some text => rw [afterLine_of_command hnone htext]

end Run

/-! ## 3. Whole runs -/

/-- The reports of some lines of which the first has number `n`, each from the session that the
commands before it have led to. -/
def lineReports (quiet : Bool) (s : Session) (n : Nat) (ls : List Bytes) : List String :=
  (ls.zipIdx n).filterMap fun (line, m) =>
    lineReport quiet (s.runLines (commandTexts (ls.take (m - n)))) m line

namespace Session

theorem runLines_append (s : Session) (ts us : List String) :
    s.runLines (ts ++ us) = (s.runLines ts).runLines us := List.foldl_append

theorem results_append (s : Session) (ts us : List String) :
    s.results (ts ++ us) = s.results ts ++ (s.runLines ts).results us := by
  induction ts generalizing s with
  | nil => rfl
  | cons t ts ih =>
    rw [List.cons_append, results, results, ih, List.cons_append]
    rfl

end Session

theorem lineReports_cons (quiet : Bool) (s : Session) (n : Nat) (l : Bytes) (ls : List Bytes) :
    lineReports quiet s n (l :: ls) = (lineReport quiet s n l).toList ++
      lineReports quiet (s.runLines (commandText? l).toList) (n + 1) ls := by
  have htail : ∀ x ∈ ls.zipIdx (n + 1),
      s.runLines (commandTexts ((l :: ls).take (x.2 - n))) =
        (s.runLines (commandText? l).toList).runLines
          (commandTexts (ls.take (x.2 - (n + 1)))) := by
    intro x hx
    have hle : n + 1 ≤ x.2 := List.le_snd_of_mem_zipIdx hx
    have hsub : x.2 - n = x.2 - (n + 1) + 1 := by omega
    rw [hsub, List.take_succ_cons, commandTexts_cons, Session.runLines_append]
  have hhead : s.runLines (commandTexts ((l :: ls).take (n - n))) = s := by
    rw [Nat.sub_self]
    rfl
  unfold lineReports
  rw [List.zipIdx_cons, List.filterMap_cons]
  dsimp only
  rw [hhead, List.filterMap_congr fun x hx => congrArg (lineReport quiet · x.2 x.1) (htail x hx)]
  cases lineReport quiet s n l <;> rfl

namespace Run

/-- A run continues as the lines before the next quit word say. -/
theorem lines_eq (quiet : Bool) (n : Nat) (ls : List Bytes) (r : Run) :
    let kept := linesBeforeQuit ls
    let texts := commandTexts kept
    let results := r.session.results texts
    lines quiet n ls r =
      { reports := r.reports ++ lineReports quiet r.session n kept
        tally :=
          { succeeded := r.tally.succeeded + results.countP Except.isOk
            failed := r.tally.failed + results.countP (!Except.isOk ·) +
              kept.countP (decodeUtf8? · = none)
            quit := r.tally.quit || ls.any isQuitLine }
        session := r.session.runLines texts } := by
  induction ls generalizing n r with
  | nil => simp [lines, linesBeforeQuit, commandTexts, lineReports, Session.results,
      Session.runLines]
  | cons l ls ih =>
    dsimp only at ih ⊢
    rw [lines_cons, linesBeforeQuit_cons]
    by_cases hquit : isQuitLine l = true
    · simp [hquit, commandTexts, lineReports, Session.results, Session.runLines]
    · rw [if_neg hquit, if_neg hquit, ih]
      have hnot : isQuitLine l = false := by simpa using hquit
      unfold afterLine
      rw [commandTexts_cons, lineReports_cons, Session.results_append, Session.runLines_append]
      simp [hnot, List.countP_append, List.countP_cons, Nat.add_assoc, Nat.add_comm,
        Nat.add_left_comm]

end Run

end RasterScript
