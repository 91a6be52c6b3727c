import Dialogue.Shell.WordReading

/-!
Reading commands. Whether a word is a keyword or an alias depends on where it stands, so each token
is read for a place. A list of commands reaches to the end of a line, or to a token that ends it.
-/

namespace Dialogue.Shell

open Reading

/-- What a token is read for: which tokens are passed over or looked up. -/
structure Place where
  /-- Newlines are passed over. -/
  skipsNewlines : Bool := false
  keywords : Bool := false
  aliases : Bool := false

namespace Place

/-- A place where a token stands as it is. -/
def plain : Place := {}

/-- A place where a command begins, perhaps on a later line. -/
def fresh : Place := { skipsNewlines := true, keywords := true, aliases := true }

/-- A place where a command begins on the same line. -/
def onLine : Place := { keywords := true, aliases := true }

/-- A place where an arm begins. -/
def arm : Place := { skipsNewlines := true, keywords := true }

end Place

/-- Puts a token back. -/
def putBack (token : Token) : Reading Unit :=
  modify fun s => { s with ahead := some token }

/-- Refuses a token, and says which one would be right. -/
def unexpected {α : Type} (token : Token) (expected : Option Token) : Reading α :=
  let hint :=
    match expected with
    | some token => s!" (expecting {token.name})"
    | none => ""
  refuse s!"{token.name} unexpected{hint}"

/-- Reads the next token, which may have been put back. -/
def nextToken (inner : Inner) (purpose : Purpose) : Reading Token := do
  match (← get).ahead with
  | some token =>
    modify fun s => { s with ahead := none }
    return token
  | none => scanToken inner purpose mostCharacters

/-- Reads tokens until one is no newline. The first argument bounds them. -/
def skipNewlines (inner : Inner) : Nat → Token → Reading Token
  | 0, token => pure token
  | bound + 1, token =>
    match token with
    | .newline => do
      readTexts inner
      modify fun s => { s with leftBlank := false }
      skipNewlines inner bound (← nextToken inner {})
    | token => pure token

/-- Reads a token for a place. The first argument bounds the aliases that are looked up. -/
def readTokenFrom (inner : Inner) (purpose : Purpose) : Nat → Place → Reading Token
  | 0, _ => pure .endOfFile
  | bound + 1, place => do
    let token ← nextToken inner purpose
    let token ← if place.skipsNewlines then skipNewlines inner mostLines token else pure token
    let s ← get
    let aliases := place.aliases || s.leftBlank
    set { s with leftBlank := false }
    match token with
    | .word word false =>
      match bareText? word with
      | none => return token
      | some text =>
        match if place.keywords then Keyword.ofText? text else none with
        | some keyword => return .keyword keyword
        | none =>
          match if aliases then s.alias? text else none with
          | some replacement => do
            modify (·.useAlias text replacement)
            readTokenFrom inner purpose bound { place with aliases }
          | none => return token
    | token => return token

/-- How many aliases may stand for one token. -/
def mostAliases : Nat := 1000000

/-- Reads a token for a place. -/
def readToken (inner : Inner) (place : Place) : Reading Token :=
  readTokenFrom inner {} mostAliases place

/-- Reads the keyword that must come next. -/
def expectKeyword (inner : Inner) (place : Place) (k : Keyword) : Reading Unit := do
  let token ← readToken inner place
  if !token.isKeyword k then unexpected token (some (.keyword k))

/-- Reads what the sign of a redirection needs. -/
def readTarget (inner : Inner) (descriptor : Nat) (sign : RedirectionSign) :
    Reading Redirection := do
  let isText :=
    match sign with
    | .text _ => true
    | _ => false
  match ← readTokenFrom inner { isMark := isText } mostAliases .plain with
  | .word word isQuoted =>
    match sign with
    | .file mode => return .file descriptor mode word
    | .duplicate => return .duplicate descriptor word
    | .text stripsTabs =>
      let s ← get
      let pending : PendingText :=
        { number := s.nextText, mark := plainText word, stripsTabs, isExpanded := !isQuoted }
      set { s with pending := s.pending ++ [pending], nextText := s.nextText + 1 }
      return .text descriptor s.nextText
  | token => unexpected token none

/-- Reads redirections as long as there are any. The first argument bounds them. -/
def readRedirections (inner : Inner) : Nat → Place → Reading (List Redirection)
  | 0, _ => pure []
  | bound + 1, place => do
    match ← readToken inner place with
    | .redirection descriptor sign =>
      let first ← readTarget inner descriptor sign
      return first :: (← readRedirections inner bound .plain)
    | token =>
      putBack token
      return []

/-- The word that stands for all arguments. -/
def allArguments : Word := [.quote, .parameter ['@'] .plain false [], .quote]

/-- Reads the words that a loop runs over, and the token after them. The first argument bounds
them. -/
def readLoopWords (inner : Inner) : Nat → Reading (List Word × Token)
  | 0 => pure ([], .endOfFile)
  | bound + 1 => do
    match ← readToken inner .plain with
    | .word word _ =>
      let (words, token) ← readLoopWords inner bound
      return (word :: words, token)
    | token => return ([], token)

/-- Reads the patterns of an arm, of which the first token has been read, and the token after
them. The first argument bounds them. -/
def readPatterns (inner : Inner) : Nat → Reading (List Word × Token)
  | 0 => pure ([], .endOfFile)
  | bound + 1 => do
    let word := (← get).lastWord
    match ← readToken inner .plain with
    | .pipe =>
      let _ ← readToken inner .plain
      let (words, token) ← readPatterns inner bound
      return (word :: words, token)
    | token => return ([word], token)

/-- How a list of commands ends. -/
inductive ListEnd
  /-- With the line. -/
  | line
  /-- With a token that ends lists; it may hold no command if the flag says so. -/
  | token (mayBeEmpty : Bool)

/-- A command that runs in the background. -/
def Command.inBackground : Command → Command
  | .pipeline commands _ => .pipeline commands true
  | command => .background command

/-- Whether a name may be that of a function. -/
def isFunctionName (name : Chars) : Bool :=
  isName name && !specialCommands.any (·.toList == name)

mutual

/-- Reads commands within words. -/
def innerOf : Nat → Inner
  | 0 => { command := pure none, script := fun _ => pure none }
  | depth + 1 =>
    { command := do
        let pending := (← get).pending
        modify fun s => { s with pending := [] }
        let command ← readList depth (.token true) none
        match ← readToken (innerOf depth) .plain with
        | .closeParen => pure ()
        | token => unexpected token (some .closeParen)
        modify fun s => { s with pending }
        return command
      script := fun text => do
        let s ← get
        let uses := s.uses.map fun use => { use with left := text.length + 1 }
        let start : Source :=
          { unread := text, aliases := s.aliases, uses, texts := s.texts, nextText := s.nextText }
        match (readList depth (.token true) none).run start with
        | .ok (command, rest) => do
          set { s with texts := rest.texts, nextText := rest.nextText }
          return command
        | .error fault => throw fault }

/-- Reads a list of commands, of which some have been read. The first argument bounds the depth. -/
def readList : Nat → ListEnd → Option Command → Reading (Option Command)
  | 0, _, before => pure before
  | depth + 1, listEnd, before => do
    let inner := innerOf depth
    let isLine :=
      match listEnd with
      | .line => true
      | .token _ => false
    let endOfFile (commands : Option Command) : Reading (Option Command) := do
      readTexts inner
      putBack .endOfFile
      return commands
    match ← readToken inner (if isLine then .onLine else .fresh) with
    | .newline => do
      readTexts inner
      return before
    | .endOfFile => endOfFile before
    | token => do
      putBack token
      let mayEnd :=
        match listEnd with
        | .line => false
        | .token mayBeEmpty => mayBeEmpty
      if mayEnd && token.endsList then return before
      else
        let command ← readAndOr depth
        let after ← readToken inner .plain
        let command :=
          match after with
          | .ampersand => command.inBackground
          | _ => command
        let commands :=
          match before with
          | some before => Command.sequence before command
          | none => command
        let onward := readList depth (if isLine then .line else .token true) (some commands)
        match after with
        | .endOfFile => endOfFile (some commands)
        | .newline => do
          putBack .newline
          onward
        | .ampersand => onward
        | .semicolon => onward
        | token => do
          if isLine then unexpected token none
          putBack token
          return some commands

/-- Reads commands of which each is run depending on how the one before it came out. -/
def readAndOr : Nat → Reading Command
  | 0 => refuse "nested too deep"
  | depth + 1 => do readAndOrFrom depth (← readPipeline depth .plain)

/-- Goes on reading such commands after some. -/
def readAndOrFrom : Nat → Command → Reading Command
  | 0, before => pure before
  | depth + 1, before => do
    match ← readToken (innerOf depth) .plain with
    | .andIf => readAndOrFrom depth (.andThen before (← readPipeline depth .fresh))
    | .orIf => readAndOrFrom depth (.orElse before (← readPipeline depth .fresh))
    | token => do
      putBack token
      return before

/-- Reads a pipeline, which may be negated. -/
def readPipeline : Nat → Place → Reading Command
  | 0, _ => refuse "nested too deep"
  | depth + 1, place => do
    let token ← readToken (innerOf depth) place
    let isNegated := token.isKeyword .bang
    if !isNegated then putBack token
    let first ← readCommand depth (if isNegated then .onLine else .plain)
    let rest ← readPiped depth
    let command := if rest.isEmpty then first else .pipeline (first :: rest) false
    return if isNegated then .negated command else command

/-- Reads the commands that read what the ones before them write. -/
def readPiped : Nat → Reading (List Command)
  | 0 => pure []
  | depth + 1 => do
    match ← readToken (innerOf depth) .plain with
    | .pipe =>
      let command ← readCommand depth .fresh
      return command :: (← readPiped depth)
    | token =>
      putBack token
      return []

/-- Reads a list that holds a command. It holds none only at the end of the script, where what
should follow it is missing too. -/
def readBody : Nat → Reading Command
  | 0 => refuse "nested too deep"
  | depth + 1 => do
    return (← readList depth (.token false) none).getD (.simple 0 [] [] [])

/-- Reads the end of a compound command and the redirections after it. -/
def readClosing : Nat → Option Token → Reading (List Redirection)
  | 0, _ => pure []
  | depth + 1, closing => do
    let inner := innerOf depth
    match closing with
    | none => pure ()
    | some closing =>
      let token ← readToken inner .plain
      if token.name ≠ closing.name then unexpected token (some closing)
    readRedirections inner mostCharacters .onLine

/-- Reads the arms of a choice, up to its end. -/
def readArms : Nat → Reading (List (List Word × Option Command))
  | 0 => pure []
  | depth + 1 => do
    let inner := innerOf depth
    let token ← readToken inner .arm
    if token.isKeyword .esacWord then return []
    else
      match token with
      | .openParen =>
        let _ ← readToken inner .plain
      | _ => pure ()
      let (patterns, after) ← readPatterns inner mostCharacters
      match after with
      | .closeParen => pure ()
      | token => unexpected token (some .closeParen)
      let body ← readList depth (.token true) none
      let token ← readToken inner .arm
      if token.isKeyword .esacWord then return [(patterns, body)]
      else
        match token with
        | .endArm => return (patterns, body) :: (← readArms depth)
        | token => unexpected token (some .endArm)

/-- Reads a condition, what is done if it holds, and the rest of a choice between commands. -/
def readChoice : Nat → Reading Command
  | 0 => refuse "nested too deep"
  | depth + 1 => do
    let inner := innerOf depth
    let condition ← readBody depth
    expectKeyword inner .plain .thenWord
    let yes ← readBody depth
    let token ← readToken inner .plain
    if token.isKeyword .elifWord then return .ifElse condition yes (some (← readChoice depth))
    else if token.isKeyword .elseWord then return .ifElse condition yes (some (← readBody depth))
    else
      putBack token
      return .ifElse condition yes none

/-- Reads a command. -/
def readCommand : Nat → Place → Reading Command
  | 0, _ => refuse "nested too deep"
  | depth + 1, place => do
    let inner := innerOf depth
    let line := (← get).line
    let close (closing : Token) (command : Command) : Reading Command := do
      match ← readClosing depth (some closing) with
      | [] => return command
      | redirections => return .redirected line command redirections
    match ← readToken inner place with
    | .keyword .ifWord => do
      let command ← readChoice depth
      close (.keyword .fiWord) command
    | .keyword .whileWord => do
      let condition ← readBody depth
      expectKeyword inner .plain .doWord
      let body ← readBody depth
      close (.keyword .doneWord) (.loop false condition body)
    | .keyword .untilWord => do
      let condition ← readBody depth
      expectKeyword inner .plain .doWord
      let body ← readBody depth
      close (.keyword .doneWord) (.loop true condition body)
    | .keyword .forWord => do
      let name ←
        match ← readToken inner .plain with
        | .word word false =>
          match bareText? word with
          | some text => if isName text then pure text else refuse "Bad for loop variable"
          | none => refuse "Bad for loop variable"
        | _ => refuse "Bad for loop variable"
      let token ← readToken inner .fresh
      let words ←
        if token.isKeyword .inWord then
          let (words, after) ← readLoopWords inner mostCharacters
          match after with
          | .newline => pure words
          | .semicolon => pure words
          | token => unexpected token none
        else
          match token with
          | .semicolon => pure [allArguments]
          | token => do
            putBack token
            pure [allArguments]
      expectKeyword inner .fresh .doWord
      let body ← readBody depth
      close (.keyword .doneWord) (.forEach line name words body)
    | .keyword .caseWord => do
      let word ←
        match ← readToken inner .plain with
        | .word word _ => pure word
        | token => unexpected token (some (.word [] false))
      expectKeyword inner .fresh .inWord
      let arms ← readArms depth
      match ← readClosing depth none with
      | [] => return .caseOf line word arms
      | redirections => return .redirected line (.caseOf line word arms) redirections
    | .openParen => do
      let body ← readBody depth
      return .subshell line body (← readClosing depth (some .closeParen))
    | .keyword .openBrace => do
      let body ← readBody depth
      close (.keyword .closeBrace) body
    | .word word isQuoted => do
      putBack (.word word isQuoted)
      readSimple depth (← get).line [] [] [] true
    | .redirection descriptor sign => do
      putBack (.redirection descriptor sign)
      readSimple depth (← get).line [] [] [] true
    | token => unexpected token none

/-- Goes on reading a simple command: its assignments, its words and its redirections, the latest
first. The flag says that no word came yet but assignments. -/
def readSimple (depth line : Nat) (assignments : List (Chars × Word)) (words : List Word)
    (redirections : List Redirection) (early : Bool) : Reading Command :=
  match depth with
  | 0 => refuse "nested too deep"
  | depth + 1 => do
    let inner := innerOf depth
    match ← readToken inner { aliases := early } with
    | .word word _ =>
      match if early then assignment? word else none with
      | some assignment =>
        readSimple depth line (assignment :: assignments) words redirections early
      | none => readSimple depth line assignments (word :: words) redirections false
    | .redirection descriptor sign => do
      let redirection ← readTarget inner descriptor sign
      readSimple depth line assignments words (redirection :: redirections) early
    | token => do
      let name? : Option Word :=
        match token, assignments, words, redirections with
        | .openParen, [], [name], [] => some name
        | _, _, _, _ => none
      match name? with
      | some name => do
        match ← readToken inner .plain with
        | .closeParen => pure ()
        | token => unexpected token (some .closeParen)
        match bareText? name with
        | some name =>
          if isFunctionName name then return .define name (← readCommand depth .fresh)
          else refuse "Bad function name"
        | none => refuse "Bad function name"
      | none => do
        putBack token
        return .simple line assignments.reverse words.reverse redirections.reverse

end

/-- How deep commands may stand in one another. -/
def mostDepth : Nat := 100000000

/-- Reads all there is as a text in a script, in which something is to be worked out. -/
def readWholeText : Reading HereText :=
  readText (innerOf mostDepth)
    { number := 0, mark := ['\x00'], stripsTabs := false, isExpanded := true }

/-- What the next line of a script holds. -/
inductive ScriptLine
  /-- A command, or nothing. The flag says that nothing comes after it. -/
  | command (command : Option Command) (isLast : Bool)
  | endOfScript

/-- Reads the next line of a script, with all the lines that its commands need. -/
def readLine : Reading ScriptLine := do
  modify fun s => { s with ahead := none, pending := [], leftBlank := false }
  let command ← readList mostDepth .line none
  let isLast :=
    match (← get).ahead with
    | some .endOfFile => true
    | _ => false
  return if isLast && command.isNone then .endOfScript else .command command isLast

end Dialogue.Shell
