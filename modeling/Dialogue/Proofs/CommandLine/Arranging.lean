import Dialogue.CommandLine.Reply

/-!
Command lines with a limit. A limit may be given anywhere behind the name of the activity where no
option waits for its value; whatever text it is given, everything else is read as before, and a
number is the only change of what is asked for.
-/

namespace Dialogue.CommandLine

open Number (Binary64)

-----------------------------------------------------------------------------------------
-- Reading one argument after the other
-----------------------------------------------------------------------------------------

/-- The option that waits for its value behind an argument. -/
def awaiting? (argument : String) : Option Valued :=
  match Argument.of argument with
  | .named name none => (Valued.allowed .test).find? (·.name == name)
  | _ => none

namespace Given

/-- What an argument of the activity adds by itself. -/
def addOne (given : Given) (argument : String) : Except Stop Given :=
  match Argument.of argument with
  | .word => given.addWord argument
  | .onlyWords => .ok given
  | .letters letters => given.addLetters .test letters
  | .named name value =>
    match (Valued.allowed .test).find? (·.name == name), value with
    | some option, some value => given.addValue option value
    | _, value => given.addNamedSwitch .test name value

/-- What an option before the name of the activity adds. -/
def addGeneral (given : Given) (argument : String) : Except Stop Given :=
  match Argument.of argument with
  | .letters letters => given.addLetters .general letters
  | .named name value => given.addNamedSwitch .general name value
  | .word | .onlyWords => .ok given

variable {given : Given} {argument : String} {rest : List String}

/-- A letter that is known adds its switch, and the letters behind it are read on. -/
theorem addLetters_cons {level : Level} {letter : Char} {letters : List Char} {switch : Switch}
    (found : (Switch.allowed level).find? (·.letter? == some letter) = some switch)
    : given.addLetters level (letter :: letters)
      = (given.addSwitch level switch).bind (·.addLetters level letters) := by
  rw [addLetters, found]
  dsimp only
  cases given.addSwitch level switch <;> rfl

/-- A word is added before those behind it. -/
theorem addWords_cons (word : String)
    : given.addWords (word :: rest) = (given.addWord word).bind (·.addWords rest) := by
  rw [addWords]
  cases given.addWord word <;> rfl

/-- Behind the argument that says so there are only words. -/
theorem addAll_onlyWords (only : Argument.of argument = .onlyWords)
    : given.addAll (argument :: rest) = given.addWords rest := by
  rw [addAll, only]

/-- An argument that waits for nothing adds what it adds by itself, by cases on what it is. -/
theorem addAll_alone (options : Argument.of argument ≠ .onlyWords)
    (complete : awaiting? argument = none)
    : given.addAll (argument :: rest) = (given.addOne argument).bind (·.addAll rest) := by
  rw [addAll, addOne]
  unfold awaiting? at complete
  generalize Argument.of argument = what at *
  cases what with
  | word => cases given.addWord argument <;> rfl
  | onlyWords => exact absurd rfl options
  | letters letters =>
      dsimp only
      cases given.addLetters .test letters <;> rfl
  | named name value =>
      dsimp only
      cases found : (Valued.allowed .test).find? (·.name == name) with
      | none =>
          dsimp only
          cases given.addNamedSwitch .test name value <;> rfl
      | some option =>
          cases value with
          | none => cases complete.symm.trans found
          | some value =>
              dsimp only
              cases given.addValue option value <;> rfl

/-- An option that waits for its value takes the argument behind it. -/
theorem addAll_valued {value : String} {option : Valued} (awaits : awaiting? argument = some option)
    (takes : isValueFor option value = true)
    : given.addAll (argument :: value :: rest)
      = (given.addValue option value).bind (·.addAll rest) := by
  rw [addAll]
  unfold awaiting? at awaits
  split at awaits
  · next name named =>
      rw [named]
      dsimp only
      rw [awaits]
      dsimp only
      rw [if_pos takes]
      cases given.addValue option value <;> rfl
  · cases awaits

/-- An option without a value that it can take is refused. -/
theorem addAll_waiting {option : Valued} (awaits : awaiting? argument = some option)
    (refuses : ∀ value ∈ rest.head?, isValueFor option value = false)
    : given.addAll (argument :: rest) = .error (.refused (.noValue option.name)) := by
  rw [addAll]
  unfold awaiting? at awaits
  split at awaits
  · next name named =>
      rw [named]
      dsimp only
      rw [awaits]
      cases rest with
      | nil => rfl
      | cons value rest =>
          dsimp only
          rw [refuses value rfl]
          rfl
  · cases awaits

end Given

variable {given : Given} {argument : String} {rest : List String}

/-- An option before the name of the activity is read before what is behind it, by cases on what it
is.
-/
theorem readGeneral_option (word : Argument.of argument ≠ .word)
    (options : Argument.of argument ≠ .onlyWords)
    : readGeneral given (argument :: rest)
      = (given.addGeneral argument).bind (readGeneral · rest) := by
  rw [readGeneral.eq_def given (argument :: rest), Given.addGeneral]
  dsimp only
  generalize Argument.of argument = what at *
  cases what with
  | word => exact absurd rfl word
  | onlyWords => exact absurd rfl options
  | letters letters =>
      dsimp only
      cases given.addLetters .general letters <;> rfl
  | named name value =>
      dsimp only
      cases given.addNamedSwitch .general name value <;> rfl

/-- Behind the name of the activity its arguments are read, and then the request is made of them. -/
theorem readGeneral_activity (given : Given) (rest : List String)
    : readGeneral given ("test" :: rest)
      = (Given.addAll {} rest).bind (·.request (given.switches.contains .verbose)) := by
  have word : Argument.of "test" = .word := by decide
  unfold readGeneral
  rw [word]
  dsimp only
  rw [if_pos rfl]
  cases Given.addAll {} rest <;> rfl

-----------------------------------------------------------------------------------------
-- Beginnings of command lines
-----------------------------------------------------------------------------------------

/-- Arguments of the activity behind which another argument is read: none of them said that there
are only words, and no option waits for its value.
-/
inductive Settled : List String → Prop
  | nil : Settled []
  | alone {argument : String} {rest : List String} (options : Argument.of argument ≠ .onlyWords)
    (complete : awaiting? argument = none) (behind : Settled rest)
    : Settled (argument :: rest)
  | valued {argument value : String} {option : Valued} {rest : List String}
    (awaits : awaiting? argument = some option)
    (takes : Given.isValueFor option value = true) (behind : Settled rest)
    : Settled (argument :: value :: rest)

/-- Arguments up to some place behind the name of the activity at which another one is read. -/
inductive Opening : List String → Prop
  | activity {arguments : List String} (settled : Settled arguments)
    : Opening ("test" :: arguments)
  | general {argument : String} {rest : List String} (word : Argument.of argument ≠ .word)
    (options : Argument.of argument ≠ .onlyWords) (behind : Opening rest)
    : Opening (argument :: rest)

/-- Reading goes through arguments that leave nothing open and then on as if it began there, by
induction on them.
-/
theorem Settled.addAll_append {front : List String} (settled : Settled front) (given : Given)
    (rest : List String)
    : given.addAll (front ++ rest) = (given.addAll front).bind (·.addAll rest) := by
  induction settled generalizing given with
  | nil =>
      rw [Given.addAll]
      rfl
  | @alone argument inner options complete behind ih =>
      rw [List.cons_append, Given.addAll_alone options complete,
        Given.addAll_alone options complete, funext ih]
      exact (bind_assoc (given.addOne argument) (·.addAll inner) (·.addAll rest)).symm
  | @valued argument value option inner awaits takes behind ih =>
      rw [List.cons_append, List.cons_append, Given.addAll_valued awaits takes,
        Given.addAll_valued awaits takes, funext ih]
      exact (bind_assoc (given.addValue option value) (·.addAll inner) (·.addAll rest)).symm

/-- Reading goes through an opening, or stops in it, whatever comes behind. -/
theorem Opening.reads {front : List String} (opening : Opening front) (given : Given)
    : (∃ stop, ∀ rest, readGeneral given (front ++ rest) = .error stop)
      ∨ ∃ found verbose, ∀ rest,
          readGeneral given (front ++ rest)
            = (Given.addAll found rest).bind (·.request verbose) := by
  induction opening generalizing given with
  | @activity arguments settled =>
      have read (rest : List String)
          : readGeneral given ("test" :: arguments ++ rest)
            = ((Given.addAll {} arguments).bind (·.addAll rest)).bind
                (·.request (given.switches.contains .verbose)) := by
        rw [List.cons_append, readGeneral_activity, settled.addAll_append]
      cases added : Given.addAll {} arguments with
      | error stop => exact .inl ⟨stop, fun rest => by rw [read, added]; rfl⟩
      | ok found => exact .inr ⟨found, _, fun rest => by rw [read, added]; rfl⟩
  | @general argument inner word options behind ih =>
      have read (rest : List String)
          : readGeneral given (argument :: inner ++ rest)
            = (given.addGeneral argument).bind (readGeneral · (inner ++ rest)) := by
        rw [List.cons_append, readGeneral_option word options]
      cases added : given.addGeneral argument with
      | error stop => exact .inl ⟨stop, fun rest => by rw [read, added]; rfl⟩
      | ok before =>
          rcases ih before with ⟨stop, stops⟩ | ⟨found, verbose, reads⟩
          · exact .inl ⟨stop, fun rest => by rw [read, added]; exact stops rest⟩
          · exact .inr ⟨found, verbose, fun rest => by rw [read, added]; exact reads rest⟩

-----------------------------------------------------------------------------------------
-- Another limit
-----------------------------------------------------------------------------------------

/-- What arguments have given, with another text for the limit. -/
def Given.withLimit (given : Given) (text : String) : Given :=
  { given with
    values := given.values.map fun (option, value) =>
      (option, if option = .timeout then text else value) }

/-- Readings that come out alike but for the text of the limit, which both have. -/
inductive Alike (text : String) : Except Stop Given → Except Stop Given → Prop
  | ok {given : Given} (limited : given.has .timeout = true)
    : Alike text (.ok given) (.ok (given.withLimit text))
  | error (stop : Stop) : Alike text (.error stop) (.error stop)

/-- What is done next to readings that come out alike leaves them alike, if it does so with what
they have given.
-/
theorem Alike.bind {text : String} {x y : Except Stop Given} (alike : Alike text x y)
    {next : Given → Except Stop Given}
    (nextAlike
      : ∀ given : Given,
          given.has .timeout = true → Alike text (next given) (next (given.withLimit text)))
    : Alike text (x.bind next) (y.bind next) := by
  cases alike with
  | ok limited => exact nextAlike _ limited
  | error stop => exact .error stop

namespace Given

variable {given : Given} {text : String}

/-- Another text for the limit gives no option and takes none away. -/
theorem has_withLimit (option : Valued)
    : (given.withLimit text).has option = given.has option := by
  simp [has, withLimit, List.any_map, Function.comp_def]

/-- With another text for the limit an option has its value, and the limit that text; by induction
on the values.
-/
theorem value?_withLimit (option : Valued)
    : (given.withLimit text).value? option
      = (given.value? option).map fun value => if option = .timeout then text else value := by
  unfold value? withLimit
  dsimp only
  induction given.values with
  | nil => rfl
  | cons first rest ih =>
      rw [List.map_cons, List.lookup_cons, List.lookup_cons]
      split
      · next same =>
          rw [eq_of_beq same]
          rfl
      · exact ih

/-- With another text for the limit every other option has its value. -/
theorem value?_other {option : Valued} (other : option ≠ .timeout)
    : (given.withLimit text).value? option = given.value? option := by
  rw [value?_withLimit]
  simp [other]

/-- With another text for the limit every other option has all its values. -/
theorem valuesOf_other {option : Valued} (other : option ≠ .timeout)
    : (given.withLimit text).valuesOf option = given.valuesOf option := by
  unfold valuesOf withLimit
  rw [List.filter_map, List.map_map]
  refine List.map_congr_left fun pair found => ?_
  have same : pair.1 = option := by simpa using (List.mem_filter.mp found).2
  exact if_neg (same ▸ other)

section Limited

variable (limited : given.has .timeout = true)
include limited

/-- With another text for the limit that text is its value. -/
theorem value?_timeout
    : (given.withLimit text).value? .timeout = some text := by
  have known : (given.value? .timeout).isSome := by
    obtain ⟨pair, member, same⟩ := List.any_eq_true.mp limited
    exact List.lookup_isSome_iff.mpr ⟨pair, member, BEq.symm same⟩
  obtain ⟨value, found⟩ := Option.isSome_iff_exists.mp known
  rw [value?_withLimit, found]
  rfl

/-- With another limit the same is asked for, but for the limit. -/
theorem request_withLimit (verbose : Bool)
    : (given.withLimit text).request verbose
      = (given.request verbose).map fun request =>
          { request with timeout := Binary64.ofText? text.toList } := by
  have words : (given.withLimit text).words = given.words := rfl
  have switches : (given.withLimit text).switches = given.switches := rfl
  unfold request
  rw [words, switches, has_withLimit, value?_timeout limited, value?_other (by decide),
    value?_other (by decide), value?_other (by decide), valuesOf_other (by decide)]
  split
  · dsimp only
    split <;> rfl
  · rfl
  · rfl

-- From here on every way to add to what is given is shown to keep both readings alike.

/-- A word is added whatever the limit is. -/
theorem addWord_alike (word : String)
    : Alike text (given.addWord word) ((given.withLimit text).addWord word) := by
  have same : (given.withLimit text).words = given.words := rfl
  unfold addWord
  rw [same]
  split
  · exact .ok limited
  · split
    · exact .error _
    · exact .ok limited
  · exact .error _

/-- Words are added whatever the limit is, by induction on them. -/
theorem addWords_alike (words : List String)
    : Alike text (given.addWords words) ((given.withLimit text).addWords words) := by
  induction words generalizing given with
  | nil => exact .ok limited
  | cons word rest ih =>
      rw [addWords_cons, addWords_cons]
      exact (addWord_alike limited word).bind fun _ limited => ih limited

/-- A switch is added, or refused, whatever the limit is. -/
theorem addSwitch_alike (level : Level) (switch : Switch)
    : Alike text (given.addSwitch level switch)
        ((given.withLimit text).addSwitch level switch) := by
  have same : (given.withLimit text).switches = given.switches := rfl
  unfold addSwitch
  rw [same]
  split
  · exact .error _
  · exact .error _
  · exact .error _
  · split
    · exact .error _
    · exact .ok limited

/-- Letters are read whatever the limit is, by induction on them. -/
theorem addLetters_alike (level : Level) (letters : List Char)
    : Alike text (given.addLetters level letters)
        ((given.withLimit text).addLetters level letters) := by
  induction letters generalizing given with
  | nil => exact .ok limited
  | cons letter rest ih =>
      cases found : (Switch.allowed level).find? (·.letter? == some letter) with
      | none =>
          unfold addLetters
          rw [found]
          exact .error _
      | some switch =>
          rw [addLetters_cons found, addLetters_cons found]
          exact (addSwitch_alike limited level switch).bind fun _ limited => ih limited

/-- A switch with a name is added, or refused, whatever the limit is. -/
theorem addNamedSwitch_alike (level : Level) (name : String) (value : Option String)
    : Alike text (given.addNamedSwitch level name value)
        ((given.withLimit text).addNamedSwitch level name value) := by
  unfold addNamedSwitch
  split
  · exact addSwitch_alike limited level _
  · exact .error _
  · exact .error _

/-- A second limit is refused whatever its text, so what else is added is no limit. -/
theorem addValue_alike (option : Valued) (value : String)
    : Alike text (given.addValue option value)
        ((given.withLimit text).addValue option value) := by
  unfold addValue
  rw [has_withLimit]
  split
  · exact .error _
  · next single =>
      split
      · have other : option ≠ .timeout := by
          rintro rfl
          exact single (by rw [limited]; rfl)
        let added : Given := { given with values := given.values ++ [(option, value)] }
        have limited : added.has .timeout = true := by
          unfold has at *
          rw [List.any_append, limited, Bool.true_or]
        have same
            : added.withLimit text
              = { given.withLimit text with
                  values := (given.withLimit text).values ++ [(option, value)] } := by
          simp [added, withLimit, other]
        exact same ▸ .ok limited
      · exact .error _

/-- An argument adds what it adds whatever the limit is, by cases on what it is. -/
theorem addOne_alike (argument : String)
    : Alike text (given.addOne argument) ((given.withLimit text).addOne argument) := by
  unfold addOne
  split
  · exact addWord_alike limited argument
  · exact .ok limited
  · exact addLetters_alike limited .test _
  · split
    · exact addValue_alike limited _ _
    · exact addNamedSwitch_alike limited .test _ _

/-- By induction on the number of arguments, as an option may take the argument behind it. -/
theorem addAll_alike (arguments : List String)
    : Alike text (given.addAll arguments) ((given.withLimit text).addAll arguments) := by
  induction length : arguments.length using Nat.strongRecOn generalizing given arguments with
  | ind n ih =>
      subst length
      cases arguments with
      | nil =>
          rw [addAll, addAll]
          exact .ok limited
      | cons argument rest =>
          by_cases only : Argument.of argument = .onlyWords
          · rw [addAll_onlyWords only, addAll_onlyWords only]
            exact addWords_alike limited rest
          cases awaits : awaiting? argument with
          | none =>
              rw [addAll_alone only awaits, addAll_alone only awaits]
              refine (addOne_alike limited argument).bind fun found limited => ?_
              exact ih rest.length (Nat.lt_succ_self _) limited rest rfl
          | some option =>
              by_cases refuses : ∀ value ∈ rest.head?, isValueFor option value = false
              · rw [addAll_waiting awaits refuses, addAll_waiting awaits refuses]
                exact .error _
              cases rest with
              | nil => simp at refuses
              | cons value rest =>
                  have takes : isValueFor option value = true := by simpa using refuses
                  rw [addAll_valued awaits takes, addAll_valued awaits takes]
                  refine (addValue_alike limited option value).bind fun found limited => ?_
                  exact ih rest.length (Nat.lt_add_of_pos_right Nat.two_pos) limited rest rfl

end Limited

-----------------------------------------------------------------------------------------
-- The first limit
-----------------------------------------------------------------------------------------

/-- What arguments have given, and a first limit. -/
def withFirstLimit (found : Given) (text : String) : Given :=
  { found with values := found.values ++ [(.timeout, text)] }

/-- A first limit is given. -/
theorem has_withFirstLimit (found : Given) (text : String)
    : (found.withFirstLimit text).has .timeout = true := by
  simp [withFirstLimit, has]

variable {found : Given} (fresh : ¬found.has .timeout)
include fresh

/-- Another text for a first limit makes a first limit of it. -/
theorem withFirstLimit_withLimit (first : String)
    : (found.withFirstLimit first).withLimit text = found.withFirstLimit text := by
  have kept
      : (found.values.map fun (option, value) =>
          (option, if option = .timeout then text else value)) = found.values := by
    refine (List.map_congr_left fun pair member => ?_).trans (List.map_id _)
    have other : pair.1 ≠ .timeout := fun same =>
      fresh (List.any_eq_true.mpr ⟨pair, member, by simp [same]⟩)
    exact Prod.ext rfl (if_neg other)
  unfold withLimit withFirstLimit
  dsimp only
  rw [List.map_append, kept]
  rfl

/-- A limit is added where there was none, if its text is a number. -/
theorem addValue_timeout
    : found.addValue .timeout text
      = if (Binary64.ofText? text.toList).isSome then .ok (found.withFirstLimit text)
        else .error (.refused (.badValue "--timeout" text)) := by
  rw [addValue, Bool.eq_false_iff.mpr fresh]
  rfl

end Given

/-- Readings that come out alike ask for the same, but for the limit. -/
theorem Alike.request {text : String} {x y : Except Stop Given} (alike : Alike text x y)
    (verbose : Bool)
    : y.bind (·.request verbose)
      = (x.bind (·.request verbose)).map fun request =>
          { request with timeout := Binary64.ofText? text.toList } := by
  cases alike with
  | ok limited => exact Given.request_withLimit limited verbose
  | error stop => rfl

/-- The arguments that give a text for the limit: it stands behind an equals sign or by itself. -/
inductive Spells (text : String) : List String → Prop
  | joined : Spells text ["--timeout=" ++ text]
  | apart (word : Argument.of text = .word) : Spells text ["--timeout", text]

/-- The option of the limit with its text behind an equals sign is an option with a value. -/
theorem of_timeout (text : String)
    : Argument.of ("--timeout=" ++ text) = .named "timeout" (some text) := by
  have letters : ("--timeout=" ++ text).toList
      = '-' :: '-' :: 't' :: 'i' :: 'm' :: 'e' :: 'o' :: 'u' :: 't' :: '=' :: text.toList := by
    rw [String.toList_append]
    rfl
  unfold Argument.of
  rw [letters]
  simp

/-- The arguments that give a text for the limit add it, whichever way they do. -/
theorem Spells.addAll {text : String} {spelled : List String} (spells : Spells text spelled)
    : given.addAll (spelled ++ rest) = (given.addValue .timeout text).bind (·.addAll rest) := by
  cases spells with
  | joined =>
      have alone : awaiting? ("--timeout=" ++ text) = none := by rw [awaiting?, of_timeout]
      rw [List.singleton_append, Given.addAll_alone (by simp [of_timeout]) alone, Given.addOne,
        of_timeout]
      rfl
  | apart word =>
      have awaits : awaiting? "--timeout" = some .timeout := by decide
      have takes : Given.isValueFor .timeout text = true := by rw [Given.isValueFor, word]; rfl
      exact Given.addAll_valued awaits takes

/-- Another text for the limit of an orderly command line: if it is no number it is refused, and
otherwise it is the only change of the request.
-/
theorem ofArguments_timeout {front back before after : List String} {first text : String}
    {request : Request} (opening : Opening front) (spellsFirst : Spells first before)
    (orderly : Request.ofArguments (front ++ (before ++ back)) = .ok request)
    (spells : Spells text after)
    : Request.ofArguments (front ++ (after ++ back))
      = match Binary64.ofText? text.toList with
        | some seconds => .ok { request with timeout := some seconds }
        | none => .error (.refused (.badValue "--timeout" text)) := by
  unfold Request.ofArguments at *
  rcases opening.reads {} with ⟨stop, stops⟩ | ⟨found, verbose, reads⟩
  · cases (stops _).symm.trans orderly
  rw [reads] at *
  rw [spellsFirst.addAll] at orderly
  rw [spells.addAll]
  have fresh : ¬found.has .timeout := by
    intro repeated
    rw [Given.addValue, repeated] at orderly
    cases orderly
  rw [Given.addValue_timeout fresh] at *
  split at orderly
  · cases number : Binary64.ofText? text.toList with
    | none => rfl
    | some seconds =>
        have alike : Alike text ((found.withFirstLimit first).addAll back) _ :=
          Given.addAll_alike (Given.has_withFirstLimit found first) back
        rw [Given.withFirstLimit_withLimit fresh] at alike
        change ((found.withFirstLimit first).addAll back).bind (·.request verbose) = _ at orderly
        change ((found.withFirstLimit text).addAll back).bind (·.request verbose) = _
        rw [alike.request, orderly, number]
        rfl
  · cases orderly

end Dialogue.CommandLine
