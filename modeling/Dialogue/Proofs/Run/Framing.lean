import Dialogue.CommandLine.Reply
import Dialogue.Proofs.Text.Quoting

/-!
What the program prints for a report. Only the first line starts at the margin; what the verdict
says and what was logged stand below it line by line, each line behind blanks, so that no text of a
scenario or of the program under test can look like a first line. The status tells the verdict.
-/

namespace Dialogue

/-- A verdict that is not passed, and the status with which the program then ends. -/
inductive Verdict.Fails : Verdict → Nat → Prop
  | mismatch (number : Nat) (stream : Stream) (expected actual : String)
    : Fails (.mismatch number stream expected actual) 4
  | noOutput (number : Nat) (stream : Stream) : Fails (.noOutput number stream) 4
  | timeout (number : Nat) (stream : Stream) (expected received : String)
    : Fails (.timeout number stream expected received) 6
  | broken (number : Nat) (cause : String) : Fails (.broken number cause) 255

/-- A verdict is passed or has a status of failure. -/
theorem Verdict.passed_or_fails (verdict : Verdict)
    : (∃ code, verdict = .passed code) ∨ ∃ status, verdict.Fails status := by
  cases verdict with
  | passed code => exact .inl ⟨code, rfl⟩
  | mismatch | noOutput | timeout | broken => exact .inr ⟨_, by constructor⟩

namespace Verdict.Fails

variable {verdict : Verdict} {status : Nat}

/-- The status of a failure is what is left of it when the program ends. -/
theorem keptStatus_eq (fails : verdict.Fails status)
    : CommandLine.keptStatus verdict.status = status := by
  cases fails <;> rfl

/-- What fails does not count as passed. -/
theorem isPassed_eq_false (fails : verdict.Fails status)
    : verdict.isPassed = false := by
  cases fails <;> rfl

/-- What fails has not passed, whatever the exit code. -/
theorem ne_passed (fails : verdict.Fails status) (code : Option Int)
    : verdict ≠ .passed code := by
  rintro rfl
  cases fails

/-- No failure has the status zero. -/
theorem ne_zero (fails : verdict.Fails status)
    : status ≠ 0 := by
  cases fails <;> decide

end Verdict.Fails

namespace Report

/-- How the print of a report begins: its first line, the lines that say what went wrong, and the
status.
-/
inductive Opens (report : Report) (milliseconds : Nat)
    : List Char → List (List Char) → Nat → Prop
  | passed {code : Option Int} (came : report.verdict = .passed code)
    : Opens report milliseconds s!"PASS  {report.name} ({milliseconds}ms)".toList [] 0
  | failed {details : List (List Char)} {status : Nat} (fails : report.verdict.Fails status)
    (told : Text.HasLines report.verdict.text.toList details)
    : Opens report milliseconds s!"FAIL  {report.name}".toList details status

/-- The lines that show the log of a report: a heading and the lines of the log, if there is a log
and the scenario did not pass or the log is asked for.
-/
inductive ShowsLog (report : Report) (verbose : Bool) : List (List Char) → Prop
  | shown {lines : List (List Char)} (nonempty : report.log ≠ "")
    (asked : verbose = true ∨ ∀ code, report.verdict ≠ .passed code)
    (logged : Text.HasLines report.log.toList lines)
    : ShowsLog report verbose ("--- log ---".toList :: lines)
  | absent (empty : report.log = "") : ShowsLog report verbose []
  | unasked {code : Option Int} (quiet : verbose = false) (came : report.verdict = .passed code)
    : ShowsLog report verbose []

/-- The log is shown, indented, wherever it is to be shown. -/
theorem showsLog_logLines (report : Report) {verbose : Bool}
    (asked : verbose = true ∨ ∀ code, report.verdict ≠ .passed code)
    : ∃ log, report.logLines = log.map (indentation ++ ·) ∧ report.ShowsLog verbose log := by
  by_cases empty : report.log = ""
  · exact ⟨[], by rw [logLines, if_pos empty]; rfl, .absent empty⟩
  · have heading : Text.lines logHeading.toList = ["--- log ---".toList] := by decide
    refine ⟨_, ?_, .shown empty asked (Text.hasLines_lines _)⟩
    rw [logLines, if_neg empty, indented, heading]
    rfl

variable {report : Report} {milliseconds : Nat}

/-- A report of a scenario that passed has its log below the first line, if it is asked for. -/
theorem lines_of_passed (verbose : Bool) {code : Option Int}
    (came : report.verdict = .passed code)
    : ∃ log,
        report.lines verbose milliseconds
            = s!"PASS  {report.name} ({milliseconds}ms)".toList :: log.map (indentation ++ ·)
          ∧ report.ShowsLog verbose log := by
  have passes : report.verdict.isPassed = true := came ▸ rfl
  cases verbose with
  | false => exact ⟨[], by rw [lines, passes]; rfl, .unasked rfl came⟩
  | true =>
      obtain ⟨log, same, shows⟩ := report.showsLog_logLines (.inl rfl)
      exact ⟨log, by rw [lines, passes, same]; rfl, shows⟩

/-- A report of a scenario that did not pass has the lines of its verdict below the first line, and
then its log.
-/
theorem lines_of_fails (verbose : Bool) {status : Nat} (fails : report.verdict.Fails status)
    : ∃ details log,
        report.lines verbose milliseconds
            = s!"FAIL  {report.name}".toList :: (details ++ log).map (indentation ++ ·)
          ∧ Text.HasLines report.verdict.text.toList details
          ∧ report.ShowsLog verbose log := by
  obtain ⟨log, same, shows⟩ :=
    report.showsLog_logLines (.inr fails.ne_passed)
  refine ⟨_, log, ?_, Text.hasLines_lines _, shows⟩
  rw [lines, fails.isPassed_eq_false, same, List.map_append]
  rfl

/-- The first line of a scenario that passed, piece by piece. -/
theorem toList_passed_line (name : String) (milliseconds : Nat)
    : s!"PASS  {name} ({milliseconds}ms)".toList
      = "PASS  ".toList
        ++ (name.toList ++ (" (".toList ++ (Nat.toDigits 10 milliseconds ++ "ms)".toList))) := by
  have whole
      : s!"PASS  {name} ({milliseconds}ms)"
        = "PASS  " ++ name ++ " (" ++ toString milliseconds ++ "ms)" :=
    rfl
  rw [whole]
  simp only [String.toList_append, List.append_assoc, Nat.toString_eq_ofList_toDigits,
    String.toList_ofList]

/-- The first line of a scenario that did not pass, piece by piece. -/
theorem toList_failed_line (name : String)
    : s!"FAIL  {name}".toList = "FAIL  ".toList ++ name.toList := by
  have whole : s!"FAIL  {name}" = "FAIL  " ++ name := rfl
  rw [whole, String.toList_append]

/-- A name on one line leaves the first line and the lines of the verdict whole. -/
theorem Opens.newline_not_mem {first : List Char} {details : List (List Char)} {status : Nat}
    (opens : report.Opens milliseconds first details status)
    (single : '\n' ∉ report.name.toList)
    : '\n' ∉ first ∧ ∀ line ∈ details, '\n' ∉ line := by
  cases opens with
  | passed =>
      have digits := Text.not_mem_toDigits_ten (c := '\n') (by decide) milliseconds
      refine ⟨?_, fun _ member => absurd member List.not_mem_nil⟩
      rw [toList_passed_line]
      simp [single, digits]
  | failed _ told =>
      refine ⟨?_, fun _ member => told.newline_not_mem member⟩
      rw [toList_failed_line]
      simp [single]

/-- The status is zero just if the first line says that the scenario passed. -/
theorem Opens.status_eq_zero_iff {first : List Char} {details : List (List Char)}
    {status : Nat} (opens : report.Opens milliseconds first details status)
    : status = 0 ↔ "PASS  ".toList <+: first := by
  cases opens with
  | passed =>
      rw [toList_passed_line]
      exact ⟨fun _ => List.prefix_append _ _, fun _ => rfl⟩
  | failed fails =>
      rw [toList_failed_line]
      refine ⟨fun zero => absurd zero fails.ne_zero, fun begins => ?_⟩
      exact absurd begins (by simp)

/-- No line that shows the log has a newline in it. -/
theorem ShowsLog.newline_not_mem {verbose : Bool} {log : List (List Char)} {line : List Char}
    (shows : report.ShowsLog verbose log) (member : line ∈ log)
    : '\n' ∉ line := by
  cases shows with
  | shown _ _ logged =>
      rcases List.mem_cons.mp member with rfl | member
      · decide
      · exact logged.newline_not_mem member
  | absent | unasked => exact absurd member List.not_mem_nil

/-- A report is its first line and, indented, the lines of its verdict and of its log; by cases on
whether the scenario passed.
-/
theorem lines_framed (report : Report) (verbose : Bool) (milliseconds : Nat)
    : ∃ first details log,
        report.lines verbose milliseconds = first :: (details ++ log).map (indentation ++ ·)
          ∧ report.Opens milliseconds first details
              (CommandLine.keptStatus report.verdict.status)
          ∧ report.ShowsLog verbose log := by
  rcases report.verdict.passed_or_fails with ⟨code, came⟩ | ⟨status, fails⟩
  · obtain ⟨log, same, shows⟩ := lines_of_passed verbose came
    have zero : CommandLine.keptStatus report.verdict.status = 0 := came ▸ rfl
    exact ⟨_, [], log, same, zero ▸ .passed came, shows⟩
  · obtain ⟨details, log, same, told, shows⟩ := lines_of_fails verbose fails
    exact ⟨_, details, log, same, fails.keptStatus_eq.symm ▸ .failed fails told, shows⟩

end Report

open CommandLine in
/-- What the program prints for a report is one line that begins with how the scenario came out and
with its name, and behind six blanks each line of what the verdict says, if it did not pass, and of
what was logged, if that is shown. The status is zero just if the first line says that it passed.
-/
theorem report_framed (report : Report) (verbose : Bool) (milliseconds : Nat)
    (single : '\n' ∉ report.name.toList)
    : ∃ first details log,
        let reply := (Outcome.reported report verbose).reply milliseconds
        reply.stdout.toList.splitOn '\n'
            = first :: (details ++ log).map (List.replicate 6 ' ' ++ ·) ++ [[]]
          ∧ report.Opens milliseconds first details reply.status
          ∧ report.ShowsLog verbose log
          ∧ (reply.status = 0 ↔ "PASS  ".toList <+: first) := by
  obtain ⟨first, details, log, same, opens, shows⟩ :=
    report.lines_framed verbose milliseconds
  obtain ⟨head, detailed⟩ := opens.newline_not_mem single
  have lined : ∀ line ∈ report.lines verbose milliseconds, '\n' ∉ line := by
    rw [same]
    intro line member
    rcases List.mem_cons.mp member with rfl | member
    · exact head
    · obtain ⟨below, shown, rfl⟩ := List.mem_map.mp member
      have bare : '\n' ∉ below := by
        rcases List.mem_append.mp shown with detail | logged
        · exact detailed below detail
        · exact shows.newline_not_mem logged
      simpa [Report.indentation] using bare
  refine ⟨first, details, log, ?_, opens, shows, ?_⟩
  · change (report.text verbose milliseconds).toList.splitOn '\n' = _
    rw [Report.text, String.toList_ofList, ← Text.pieces_eq_splitOn, Text.pieces_flatMap lined,
      same]
    rfl
  · exact opens.status_eq_zero_iff

open CommandLine in
/-- A cause and a log that imitate first lines and the heading of a log stay behind blanks. -/
theorem report_framed_of_imitations
    : let report : Report := {
        name := "t.lunit"
        file := Path.ofText "t.lunit"
        verdict := .broken 1 "gone\nPASS  u (1ms)\n--- log ---"
        log := "PASS  u (1ms)\r\n> a"
      }
      let reply := (Outcome.reported report false).reply 5
      '\n' ∉ report.name.toList
        ∧ reply.stdout
          = "FAIL  t.lunit\n      step 1: process error: gone\n      PASS  u (1ms)\n"
            ++ "      --- log ---\n      --- log ---\n      PASS  u (1ms)\n      > a\n"
        ∧ ∃ first details log,
            reply.stdout.toList.splitOn '\n'
                = first :: (details ++ log).map (List.replicate 6 ' ' ++ ·) ++ [[]]
              ∧ report.Opens 5 first details reply.status
              ∧ report.ShowsLog false log
              ∧ (reply.status = 0 ↔ "PASS  ".toList <+: first) := by
  intro report reply
  have single : '\n' ∉ report.name.toList := by decide
  exact ⟨single, by decide +kernel, report_framed report false 5 single⟩

end Dialogue
