import Dialogue.Machine.Standard
import Dialogue.Proofs.CommandLine.Arranging
import Dialogue.Proofs.Number.Rounding

/-!
The two ways to limit reads. The option of the command line and the variable of the environment turn
the same texts into the same limits; a text that gives none is refused by the one, before anything
is asked of the surroundings, and left aside by the other. What is above zero counts as a limit even
where nothing is left of it after rounding.
-/

namespace Dialogue

open Number (Binary64 Nearest Unfit Gives)

-----------------------------------------------------------------------------------------
-- The variable
-----------------------------------------------------------------------------------------

/-- A text gives a length of time if it is a number and the number gives a limit. -/
theorem Duration.ofText?_eq (text : List Char)
    : Duration.ofText? text = (Binary64.ofText? text).bind (·.limit?) := by
  unfold Duration.ofText?
  cases Binary64.ofText? text <;> rfl

/-- The limit that the variable gives to settings without one is what its text gives without the
blanks around it.
-/
theorem Settings.timeout_withEnvironment {settings : Settings} {environment : Environment}
    {text : String} (unlimited : settings.timeout = none)
    (set : environment.lookup "LUNIT_TIMEOUT" = some text)
    : (settings.withEnvironment environment).timeout
      = (Binary64.ofText? (Text.trim text.toList)).bind (·.limit?) := by
  rw [← Duration.ofText?_eq]
  unfold withEnvironment environmentTimeout timeoutVariable
  dsimp only
  rw [unlimited, set, Option.orElse_eq_orElse, Option.orElse_eq_or, Option.none_or]

/-- The same environment adds nothing a second time, by cases on whether there was a limit. -/
theorem Settings.withEnvironment_twice (settings : Settings) (environment : Environment)
    : (settings.withEnvironment environment).withEnvironment environment
      = settings.withEnvironment environment := by
  unfold withEnvironment
  cases settings.timeout with
  | none => cases environmentTimeout environment <;> simp
  | some limit => simp

namespace CommandLine

-----------------------------------------------------------------------------------------
-- The option
-----------------------------------------------------------------------------------------

/-- A command line sets up a run: it asks for one, with a limit or without, and the environment adds
to the settings.
-/
structure SetsUp (arguments : List String) (environment : Environment) (directory : Path)
    (request : Request) (settings : Settings) : Prop where
  asked : Request.ofArguments arguments = .ok request
  made
    : ∃ limit,
        request.limit = .ok limit
          ∧ settings = (request.settings directory limit).withEnvironment environment

/-- A command line goes on to run with settings: it sets the run up, and what comes of the run is
what comes of the command line.
-/
inductive GoesOn {η σ : Type} [Host η σ] [Peer σ] (arguments : List String)
    (environment : Environment) (directory : Path) (host : η) (settings : Settings)
    : Outcome × η → Prop
  | failed {request : Request} {failure : Failure} {after : η}
    (sets : SetsUp arguments environment directory request settings)
    (ran : Run.run { settings } request.entry request.script host = (.error failure, after))
    : GoesOn arguments environment directory host settings (.failed failure, after)
  | reported {request : Request} {report : Report} {after : η}
    (sets : SetsUp arguments environment directory request settings)
    (ran : Run.run { settings } request.entry request.script host = (.ok report, after))
    : GoesOn arguments environment directory host settings
        (.reported report settings.verbose, after)

/-- A command line comes to an outcome by itself: whatever the surroundings are, it does, and it
leaves them as they are.
-/
def ComesTo (arguments : List String) (environment : Environment) (directory : Path)
    (outcome : Outcome) : Prop :=
  ∀ {η σ : Type} [Host η σ] [Peer σ] (host : η),
    perform arguments environment directory host = (outcome, host)

/-- The outcome for a text that gives no limit, and its status. -/
inductive Rejects (text : String) : Outcome → Nat → Prop
  | notNumber (none : Binary64.ofText? text.toList = none)
    : Rejects text (.stopped (.refused (.badValue "--timeout" text))) 2
  | unfit {seconds : Binary64} (number : Binary64.ofText? text.toList = some seconds)
    (unfit : Unfit seconds)
    : Rejects text (.noLimit ⟨seconds⟩) 255

/-- A text that is rejected gives no limit. -/
theorem Rejects.limit?_eq_none {text : String} {outcome : Outcome} {status : Nat}
    (rejects : Rejects text outcome status)
    : (Binary64.ofText? text.toList).bind (·.limit?) = none := by
  cases rejects with
  | notNumber none => rw [none]; rfl
  | unfit number unfit => rw [number]; exact unfit.determines

/-- A rejected text ends the program with its status, and nothing is printed to stdout. -/
theorem Rejects.reply {text : String} {outcome : Outcome} {status : Nat}
    (rejects : Rejects text outcome status) (milliseconds : Nat)
    : (outcome.reply milliseconds).status = status
      ∧ (outcome.reply milliseconds).stdout = "" := by
  cases rejects <;> exact ⟨rfl, rfl⟩

/-- A number in a request is the limit of the run, or the request is refused for it. -/
theorem Request.limit_eq {request : Request} {seconds : Binary64}
    (given : request.timeout = some seconds)
    : request.limit
      = match seconds.limit? with
        | some limit => .ok (some limit)
        | none => .error ⟨seconds⟩ := by
  unfold Request.limit
  rw [given]
  rfl

/-- A command line that goes on to run has set the run up. -/
theorem GoesOn.setsUp {η σ : Type} [Host η σ] [Peer σ] {arguments : List String}
    {environment : Environment} {directory : Path} {host : η} {settings : Settings}
    {answer : Outcome × η} (goes : GoesOn arguments environment directory host settings answer)
    : ∃ request, SetsUp arguments environment directory request settings := by
  cases goes with
  | failed sets ran | reported sets ran => exact ⟨_, sets⟩

/-- A command line that sets a run up goes on to it, whatever the surroundings are. -/
theorem SetsUp.goesOn {η σ : Type} [Host η σ] [Peer σ] {arguments : List String}
    {environment : Environment} {directory : Path} {request : Request} {settings : Settings}
    (sets : SetsUp arguments environment directory request settings) (host : η)
    : GoesOn arguments environment directory host settings
        (perform arguments environment directory host) := by
  obtain ⟨limit, limited, made⟩ := sets.made
  unfold perform Request.perform
  rw [sets.asked]
  dsimp only
  rw [limited]
  dsimp only
  rw [← made]
  rcases ran : Run.run { settings } request.entry request.script host with ⟨failure | report, after⟩
  · exact .failed sets ran
  · exact .reported sets ran

/-- The number in a request gives the limit of the run that it sets up: the environment adds none
beside it.
-/
theorem SetsUp.timeout_of_given {arguments : List String} {environment : Environment}
    {directory : Path} {request : Request} {settings : Settings}
    (sets : SetsUp arguments environment directory request settings) {seconds : Binary64}
    (given : request.timeout = some seconds)
    : seconds.limit? = settings.timeout := by
  obtain ⟨asked, limit, limited, rfl⟩ := sets
  rw [Request.limit_eq given] at limited
  cases fits : seconds.limit? with
  | none =>
      rw [fits] at limited
      cases limited
  | some limit =>
      rw [fits] at limited
      cases limited
      rfl

section Option

variable {front back written : List String} {text : String} {environment : Environment}
  {directory : Path} (opening : Opening front) (spells : Spells text written)
include opening spells

/-- The limit of a run with the option is what the text of the option gives. -/
theorem SetsUp.timeout_eq {request : Request} {settings : Settings}
    (sets : SetsUp (front ++ (written ++ back)) environment directory request settings)
    : (Binary64.ofText? text.toList).bind (·.limit?) = settings.timeout := by
  have read := ofArguments_timeout opening spells sets.asked spells
  rw [sets.asked] at read
  cases number : Binary64.ofText? text.toList with
  | none =>
      rw [number] at read
      cases read
  | some seconds =>
      rw [number] at read
      exact sets.timeout_of_given (congrArg Request.timeout (Except.ok.inj read))

variable {first : String} {before : List String} {request : Request}
  (spellsFirst : Spells first before)
  (orderly : Request.ofArguments (front ++ (before ++ back)) = .ok request)
include spellsFirst orderly

/-- With a text that gives a limit an orderly command line sets a run up. -/
theorem setsUp_of_limit {limit : Duration}
    (fits : (Binary64.ofText? text.toList).bind (·.limit?) = some limit)
    : ∃ asked settings,
        SetsUp (front ++ (written ++ back)) environment directory asked settings := by
  obtain ⟨seconds, number, fits⟩ := Option.bind_eq_some_iff.mp fits
  have read := ofArguments_timeout opening spellsFirst orderly spells
  rw [number] at read
  have limited : ({ request with timeout := some seconds } : Request).limit = _ :=
    Request.limit_eq rfl
  rw [fits] at limited
  exact ⟨_, _, read, _, limited, rfl⟩

/-- With a text that gives no limit an orderly command line comes to an end by itself. -/
theorem comesTo_of_no_limit
    (unlimited : (Binary64.ofText? text.toList).bind (·.limit?) = none)
    : ∃ outcome status,
        Rejects text outcome status
          ∧ ComesTo (front ++ (written ++ back)) environment directory outcome := by
  have read := ofArguments_timeout opening spellsFirst orderly spells
  cases number : Binary64.ofText? text.toList with
  | none =>
      rw [number] at read
      refine ⟨_, _, .notNumber number, fun host => ?_⟩
      rw [perform, read]
  | some seconds =>
      rw [number] at read unlimited
      have unfit : seconds.limit? = none := unlimited
      refine ⟨_, _, .unfit number (Number.limit?_eq_none_iff.mp unfit), fun host => ?_⟩
      rw [perform, read]
      dsimp only
      rw [Request.perform, Request.limit_eq rfl, unfit]

end Option

end CommandLine

open CommandLine

-----------------------------------------------------------------------------------------
-- Both ways
-----------------------------------------------------------------------------------------

/-- The option and the variable agree on every text without blanks around it. A command line with
the option goes on to run with a limit just if the variable gives that limit to settings without
one. It comes to an end by itself just if the variable gives none, with a status that tells a text
that is no number from a number that is no limit. The variable does not count beside the option, and
settings take no more from an environment than once.
-/
theorem option_limits_as_variable {front back before written : List String}
    {first text : String} {request : Request} (opening : Opening front)
    (spellsFirst : Spells first before)
    (orderly : Request.ofArguments (front ++ (before ++ back)) = .ok request)
    (spells : Spells text written) (trimmed : Text.trim text.toList = text.toList)
    {settings : Settings} {other : Environment} (unlimited : settings.timeout = none)
    (set : other.lookup "LUNIT_TIMEOUT" = some text) (environment : Environment)
    (directory : Path) {η σ : Type} [Host η σ] [Peer σ] (host : η)
    : let arguments := front ++ (written ++ back)
      (∀ limit,
        (∃ made,
          GoesOn arguments environment directory host made
              (perform arguments environment directory host)
            ∧ ({ settings := made } : Setup).limit = some limit)
          ↔ (settings.withEnvironment other).timeout = some limit)
        ∧ ((∃ outcome status,
            Rejects text outcome status
              ∧ ComesTo arguments environment directory outcome
              ∧ ∀ milliseconds,
                  (outcome.reply milliseconds).status = status
                    ∧ (outcome.reply milliseconds).stdout = "")
          ↔ (settings.withEnvironment other).timeout = none)
        ∧ (∀ others environment' asked made made',
            asked.timeout.isSome
            → SetsUp others environment directory asked made
            → SetsUp others environment' directory asked made'
            → ({ settings := made } : Setup).limit = ({ settings := made' } : Setup).limit)
        ∧ ∀ (settings : Settings) environment,
            (settings.withEnvironment environment).withEnvironment environment
              = settings.withEnvironment environment := by
  intro arguments
  have limit_eq (made : Settings) : ({ settings := made } : Setup).limit = made.timeout := by
    unfold Setup.limit
    cases made.timeout <;> rfl
  rw [Settings.timeout_withEnvironment unlimited set, trimmed]
  refine ⟨fun limit => ⟨?_, fun fits => ?_⟩, ⟨?_, fun none => ?_⟩, ?_,
    Settings.withEnvironment_twice⟩
  · rintro ⟨made, goes, limited⟩
    obtain ⟨asked, sets⟩ := goes.setsUp
    rw [sets.timeout_eq opening spells, ← limit_eq, limited]
  · obtain ⟨asked, made, sets⟩ := setsUp_of_limit opening spells spellsFirst orderly fits
    refine ⟨made, sets.goesOn host, ?_⟩
    rw [limit_eq, ← sets.timeout_eq opening spells, fits]
  · rintro ⟨outcome, status, rejects, -, -⟩
    exact rejects.limit?_eq_none
  · obtain ⟨outcome, status, rejects, comes⟩ :=
      comesTo_of_no_limit opening spells spellsFirst orderly none
    exact ⟨outcome, status, rejects, comes, rejects.reply⟩
  · intro others environment' asked made made' given sets sets'
    obtain ⟨seconds, given⟩ := Option.isSome_iff_exists.mp given
    rw [limit_eq, limit_eq, ← sets.timeout_of_given given, sets'.timeout_of_given given]

/-- Half a second is a limit and minus zero is none, whichever way they are given, also between an
option that takes whatever is behind it and a switch.
-/
theorem option_limits_as_variable_of_signs
    : let line (text : String) :=
        ["-v", "test", "--launcher-arg", "--", "Main"]
          ++ (["--timeout=" ++ text] ++ ["--native", "t.lunit"])
      let environment := [("LUNIT_TIMEOUT", "9")]
      let home := Path.ofText "/work"
      let station : Machine.Station := {}
      (∃ made,
        GoesOn (line "+.5") environment home station made
            (perform (line "+.5") environment home station)
          ∧ ({ settings := made } : Setup).limit = some ⟨500000000⟩)
        ∧ ∃ outcome status,
            Rejects "-0" outcome status
              ∧ ComesTo (line "-0") environment home outcome
              ∧ ∀ milliseconds,
                  (outcome.reply milliseconds).status = status
                    ∧ (outcome.reply milliseconds).stdout = "" := by
  intro line environment home station
  have awaits : awaiting? "--launcher-arg" = some .launcherArg := by decide
  have settled : Settled ["--launcher-arg", "--", "Main"] :=
    .valued awaits (by decide) (.alone (by decide) (by decide) .nil)
  have opening : Opening ["-v", "test", "--launcher-arg", "--", "Main"] :=
    .general (by decide) (by decide) (.activity settled)
  have orderly
      : Request.ofArguments (line "1")
        = .ok {
            entry := "Main"
            script := Path.ofText "t.lunit"
            targetDir := Path.ofText "target/classes"
            extension := "class"
            launcher := none
            launcherArgs := ["--"]
            timeout := some (.finite false (2 ^ 52) (-52))
            verbose := true
          } := by
    decide +kernel
  have unlimited : ({} : Settings).timeout = none := rfl
  have set (text : String)
      : List.lookup "LUNIT_TIMEOUT" [("LUNIT_TIMEOUT", text)] = some text :=
    rfl
  have agree (text : String) (trimmed : Text.trim text.toList = text.toList) :=
    option_limits_as_variable opening .joined orderly .joined trimmed unlimited (set text)
      environment home station
  exact ⟨((agree "+.5" (by decide)).1 _).mpr (by decide +kernel),
    (agree "-0" (by decide)).2.1.mpr (by decide +kernel)⟩

-----------------------------------------------------------------------------------------
-- Limits without length
-----------------------------------------------------------------------------------------

/-- A text is accepted as a limit: by the variable, for settings without one, where it may have
blanks around it, or by the option.
-/
inductive Accepted (text : String) (limit : Duration) : Prop
  | byVariable {settings : Settings} {environment : Environment} {value : String}
    (unlimited : settings.timeout = none)
    (set : environment.lookup "LUNIT_TIMEOUT" = some value)
    (trimmed : Text.trim value.toList = text.toList)
    (made : (settings.withEnvironment environment).timeout = some limit)
  | byOption {front back written : List String} {environment : Environment} {directory : Path}
    {asked : Request} {settings : Settings} (opening : Opening front)
    (spells : Spells text written)
    (sets : SetsUp (front ++ (written ++ back)) environment directory asked settings)
    (made : settings.timeout = some limit)

/-- An accepted limit comes from a number of seconds above zero, and is the nearest count of
nanoseconds. The number is compared with zero before it is rounded: up to half a nanosecond the
limit is zero.
-/
theorem accepted_limit_zero_iff {text : String} {limit : Duration} (accepted : Accepted text limit)
    : ∃ seconds q,
        Binary64.ofText? text.toList = some seconds
          ∧ seconds.value? = some q
          ∧ 0 < q
          ∧ Nearest (q * 10 ^ 9) limit.nanoseconds
          ∧ (limit.nanoseconds = 0 ↔ q * 10 ^ 9 ≤ 1 / 2) := by
  have fits : (Binary64.ofText? text.toList).bind (·.limit?) = some limit := by
    cases accepted with
    | byVariable unlimited set trimmed made =>
        rw [← trimmed, ← Settings.timeout_withEnvironment unlimited set, made]
    | byOption opening spells sets made => rw [sets.timeout_eq opening spells, made]
  obtain ⟨seconds, number, fits⟩ := Option.bind_eq_some_iff.mp fits
  obtain ⟨value, positive, nearest, short⟩ := Number.limit?_eq_some_iff.mp fits
  have positive' := mul_pos positive (pow_pos (by norm_num : (0 : ℚ) < 10) 9)
  exact ⟨seconds, _, number, value, positive, nearest, nearest.eq_zero_iff positive'⟩

/-- A short command line takes every limit. -/
theorem setsUp_short {text : String} {limit : Duration}
    (fits : (Binary64.ofText? text.toList).bind (·.limit?) = some limit)
    (environment : Environment) (directory : Path)
    : ∃ asked made,
        SetsUp (["test"] ++ (["--timeout=" ++ text] ++ ["Main", "t.lunit"])) environment directory
            asked made
          ∧ made.timeout = some limit := by
  have opening : Opening ["test"] := .activity .nil
  have orderly
      : Request.ofArguments (["test"] ++ (["--timeout=" ++ "1"] ++ ["Main", "t.lunit"]))
        = .ok {
            entry := "Main"
            script := Path.ofText "t.lunit"
            targetDir := Path.ofText "target/classes"
            extension := "class"
            launcher := some "java"
            launcherArgs := []
            timeout := some (.finite false (2 ^ 52) (-52))
            verbose := false
          } := by
    decide +kernel
  obtain ⟨asked, made, sets⟩ := setsUp_of_limit opening .joined .joined orderly fits
  exact ⟨asked, made, sets, (sets.timeout_eq opening .joined).symm.trans fits⟩

/-- Four tenths of a nanosecond are a limit of nothing, and five, which are held as a little more
than a half, of a whole one.
-/
theorem accepted_limit_zero_iff_around_half
    : let nothing : Duration := ⟨0⟩
      let least : Duration := ⟨1⟩
      (Accepted "4e-10" nothing
          ∧ ∃ seconds q,
              Binary64.ofText? "4e-10".toList = some seconds
                ∧ seconds.value? = some q
                ∧ 0 < q
                ∧ Nearest (q * 10 ^ 9) nothing.nanoseconds
                ∧ (nothing.nanoseconds = 0 ↔ q * 10 ^ 9 ≤ 1 / 2))
        ∧ Accepted "5e-10" least
        ∧ ∃ seconds q,
            Binary64.ofText? "5e-10".toList = some seconds
              ∧ seconds.value? = some q
              ∧ 0 < q
              ∧ Nearest (q * 10 ^ 9) least.nanoseconds
              ∧ (least.nanoseconds = 0 ↔ q * 10 ^ 9 ≤ 1 / 2) := by
  intro nothing least
  have unlimited : ({} : Settings).timeout = none := rfl
  have set
      : List.lookup "LUNIT_TIMEOUT" [("LUNIT_TIMEOUT", " 4e-10\n")]
        = some " 4e-10\n" :=
    rfl
  have less : Accepted "4e-10" nothing :=
    .byVariable unlimited set (by decide) (by decide +kernel)
  have fits : (Binary64.ofText? "5e-10".toList).bind (·.limit?) = some least := by decide +kernel
  obtain ⟨asked, made, sets, limited⟩ :=
    setsUp_short fits [] (Path.ofText "/work")
  have more : Accepted "5e-10" least := .byOption (.activity .nil) .joined sets limited
  exact ⟨⟨less, accepted_limit_zero_iff less⟩, more, accepted_limit_zero_iff more⟩

/-- A tenth of a nanosecond is accepted both ways, and leaves no time for a read. -/
theorem accepted_limit_without_length
    : let settings := ({} : Settings).withEnvironment [("LUNIT_TIMEOUT", "1e-10")]
      let line := ["test"] ++ (["--timeout=" ++ "1e-10"] ++ ["Main", "t.lunit"])
      settings.timeout = some ⟨0⟩
        ∧ ∃ asked made,
            SetsUp line [] (Path.ofText "/work") asked made ∧ made.timeout = some ⟨0⟩ := by
  have fits : (Binary64.ofText? "1e-10".toList).bind (·.limit?) = some ⟨0⟩ := by decide +kernel
  exact ⟨by decide +kernel, setsUp_short fits [] (Path.ofText "/work")⟩

end Dialogue
