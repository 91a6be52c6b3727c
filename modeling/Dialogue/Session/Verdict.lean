import Dialogue.Scenario.Basic
import Dialogue.Text.Unprintable

/-!
Verdicts: how a played scenario came out, with the texts and statuses under which it is reported.
-/

namespace Dialogue

/-- How a scenario came out. Steps are counted from 1. -/
inductive Verdict
  /-- Every expectation was met. -/
  | passed (exitCode : Option Int)
  /-- Other output came than the expected text. -/
  | mismatch (step : Nat) (stream : Stream) (expected actual : String)
  /-- Any output would have done, but the stream ended without any. -/
  | noOutput (step : Nat) (stream : Stream)
  /-- The expected output did not come in time. -/
  | timeout (step : Nat) (stream : Stream) (expected received : String)
  /-- The program could not be written to, read from or waited for. -/
  | broken (step : Nat) (cause : String)
deriving Repr, DecidableEq

namespace Verdict

/-- Whether a scenario passed. -/
def isPassed : Verdict → Bool
  | .passed _ => true
  | _ => false

/-- A text between quotes, on one line. -/
def quoted (text : String) : String :=
  String.ofList (Text.quote text.toList)

/-- The text of a verdict. -/
def text : Verdict → String
  | .passed (some code) => s!"passed (exit code {code})"
  | .passed none => "passed"
  | .mismatch step stream expected actual =>
    s!"step {step}: {stream.name} mismatch\nexpected: {quoted expected}\nactual:   {quoted actual}"
  | .noOutput step stream => s!"step {step}: expected output on {stream.name}, stream closed"
  | .timeout step stream expected received =>
    s!"step {step}: timed out waiting for {stream.name}\nexpected: {quoted expected}\n" ++
      s!"received: {quoted received}"
  | .broken step cause => s!"step {step}: process error: {cause}"

/-- The status with which a run that came to a verdict ends. -/
def status : Verdict → Int
  | .passed _ => 0
  | .mismatch .. => 4
  | .noOutput .. => 4
  | .timeout .. => 6
  | .broken .. => -1

end Verdict

end Dialogue
