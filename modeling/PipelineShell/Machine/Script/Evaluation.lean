/-
# Machine.Script.Evaluation -- doing what commands say

Every command comes to a status.  What a command contains is left to the evaluator of
the next level (`Evaluator`), so each kind of command is an ordinary function here;
`Evaluation.evaluatorAt` ties them together, down to a depth at which the process has
no room left and dies.

A simple command goes through fixed stages: its words are expanded, as far as is
needed to know what it is (`Resolution`); redirections and assignments are made; it is
traced, found and run; and what was only for its time is undone.
-/
import PipelineShell.Machine.Script.Builtin

namespace PipelineShell.Machine.Script

set_option autoImplicit false

namespace Evaluation

open Sh (ask attempt change look raise)

/-! ## Traps -/

/-- Evaluates the traps of signals that have come, in the order of their numbers, as
long as nothing is skipped.  They do not change the status, unless they set one for
a function. -/
def runTraps (evaluator : Evaluator) (status : Nat) : List Nat → Sh Unit
  | [] => pure ()
  | number :: rest => do
      let shell ← look id
      if !shell.pending.contains number then runTraps evaluator status rest
      else if shell.skip != .nothing then pure ()
      else
        change fun shell => { shell with pending := shell.pending.filter (· != number) }
        match shell.traps.lookup number with
        | none => runTraps evaluator status rest
        | some text =>
            let _ ← evaluator.text text .usual
            if (← look (·.skip)) != .function then
              change fun shell => { shell with status }
            runTraps evaluator status rest

def takeTraps (evaluator : Evaluator) : Sh Unit := do
  Job.collectSignals
  let shell ← look id
  if !shell.pending.isEmpty then
    let status := shell.kept.getD shell.status
    change fun shell => { shell with kept := some status }
    runTraps evaluator status ((List.range Signal.last).map (· + 1))
    change fun now => { now with kept := shell.kept }

def hasTraps : Sh Bool := look (·.traps.any (!·.2.isEmpty))

/-! ## What a simple command is -/

/-- The words of a command: the fields that they have come to so far, and words that
have yet to be expanded. -/
structure Feed where
  fields : List Bytes
  rest : List Word

/-- Expands words until there is a field of a number, if there ever is. -/
def fill (evaluator : Evaluator) (number : Nat) (fields : List Bytes) : List Word → Sh Feed
  | [] => pure ⟨fields, []⟩
  | word :: rest => do
      if number < fields.length then pure ⟨fields, word :: rest⟩
      else
        let more ← Expansion.fields evaluator word
        fill evaluator number (fields ++ more) rest

/-- What is known of a simple command before all its words are expanded. -/
structure Resolution where
  feed : Feed
  /-- Which field is the name of the command. -/
  start : Nat
  finding : Search.Finding
  /-- Whether the first builtin command is a special one, if there is one. -/
  isSpecial : Option Bool
  /-- Assignments in front of the command do not last. -/
  isLocal : Bool
  /-- Assignments among the words are not split. -/
  assigns : Bool
  /-- The shell is replaced. -/
  isExec : Bool
  skipsFunctions : Bool
  list? : Option Bytes

def Resolution.of (feed : Feed) : Resolution where
  feed := feed
  start := 0
  finding := .entry .builtin
  isSpecial := none
  isLocal := false
  assigns := false
  isExec := false
  skipsFunctions := false
  list? := none

/-- Takes the options behind the word `command`.  Answers where the command behind
them begins, unless there is none or something else is asked for. -/
def commandOptions (evaluator : Evaluator) :
    Nat → Nat → Resolution → Sh (Resolution × Option Nat)
  | 0, _, resolution => pure (resolution, none)
  | fuel + 1, position, resolution => do
      let feed ← fill evaluator (position + 1) resolution.feed.fields resolution.feed.rest
      let resolution := { resolution with feed }
      match feed.fields[position + 1]? with
      | none => pure (resolution, none)
      | some word =>
          if word.head? != some (byteOf '-') || word.length == 1 then
            pure (resolution, some (position + 1))
          else if word == ascii "--" then
            let feed ← fill evaluator (position + 2) feed.fields feed.rest
            pure ({ resolution with feed },
              if position + 2 < feed.fields.length then some (position + 2) else none)
          else if word.tail.all (· == byteOf 'p') then
            commandOptions evaluator fuel (position + 1)
              { resolution with list? := some Search.usualList }
          else pure (resolution, none)

/-- Looks what a command is, through any number of words `command` in front. -/
def resolve (evaluator : Evaluator) : Nat → Resolution → Sh Resolution
  | 0, resolution => pure resolution
  | fuel + 1, resolution => do
      let name := resolution.feed.fields[resolution.start]?.getD []
      let finding ← Search.find name { Search.How.usual with
        isQuick := true, skipsFunctions := resolution.skipsFunctions }
      match finding with
      | .entry .builtin => do
          let trait := (Search.builtin? name).getD .other
          let resolution := { resolution with
            finding
            isSpecial := some (resolution.isSpecial.getD trait.isSpecial)
            isLocal := resolution.isSpecial.isSome || !trait.isSpecial
            assigns := trait.assigns
            isExec := name == ascii "exec" }
          if name != ascii "command" then pure resolution
          else
            match ← commandOptions evaluator fuel resolution.start resolution with
            | (resolution, none) => pure resolution
            | (resolution, some start) =>
                resolve evaluator fuel { resolution with start, skipsFunctions := true }
      | _ => pure { resolution with finding, isLocal := true }

def expandRest (evaluator : Evaluator) (assigns : Bool) : List Word → Sh (List Bytes)
  | [] => pure []
  | word :: rest => do
      let fields ←
        if assigns && Word.isAssignment word then do
          pure [← Expansion.single evaluator word .assignment]
        else Expansion.fields evaluator word
      let others ← expandRest evaluator assigns rest
      pure (fields ++ others)

/-! ## Running simple commands -/

/-- Makes the assignments in front of a command.  Answers them as they come out. -/
def makeAssignments (evaluator : Evaluator) (isLocal exports : Bool) :
    List Word → Sh (List Bytes)
  | [] => pure []
  | word :: rest => do
      let text ← Expansion.single evaluator word .assignment
      if isLocal then Sh.makeLocal text true else Sh.makeAssignment text exports
      let others ← makeAssignments evaluator isLocal exports rest
      pure (text :: others)

def trace (evaluator : Evaluator) (words : List Bytes) : Sh Unit := do
  let isTracing ← look (·.isTracing)
  if (← Sh.hasOption 'x') && !isTracing then
    change fun shell => { shell with isTracing := true }
    let front ← Expansion.text evaluator ((← Sh.setting? "PS4").getD [])
    change fun shell => { shell with isTracing := false }
    let _ ← Sh.lift (Action.writeAll (← look (·.traceTo))
      (front ++ (ascii " ").intercalate words ++ ascii "\n"))

/-- Runs a builtin command, or none at all.  Answers why it was broken off, if it
was. -/
def runBuiltin (evaluator : Evaluator) (manner : Manner) (words : List Bytes) :
    Sh (Option Raise) := do
  let before ← look (·.command)
  change fun shell => { shell with command := words.head? }
  let outcome ← attempt do
    let status ← match words with
      | [] => look (·.substituted)
      | name :: words => Builtin.perform evaluator manner name words
    Sh.flush
    let shell ← look id
    if shell.writeFailed then
      Sh.warn (shell.command.getD [] ++ ascii ": I/O error")
    change fun shell => { shell with status := if shell.writeFailed then status ||| 1 else status }
  change fun shell => { shell with command := before, printed := [], writeFailed := false }
  match outcome with
  | .ok () => pure none
  | .error why => pure (some why)

/-- So many functions may be under way. -/
def mostCalls : Nat := 1000

/-- Counts a call of a function.  A call too many is not taken back. -/
def countCall : Sh Unit := do
  change fun shell => { shell with callDepth := shell.callDepth + 1 }
  if mostCalls < (← look (·.callDepth)) then
    Sh.fail (ascii "Maximum function recursion depth (" ++ Ascii.decimal mostCalls ++
      ascii ") reached")

/-- Runs a function.  Answers why it was broken off, if it was. -/
def runFunction (evaluator : Evaluator) (manner : Manner) (body : Command)
    (parameters : List Bytes) : Sh (Option Raise) := do
  countCall
  let before ← look id
  change fun shell => { shell with parameters := ⟨parameters, 1, none⟩, loopDepth := 0 }
  let outcome ← attempt (evaluator.command body { manner with exits := false })
  change fun shell => { shell with
    parameters := before.parameters
    loopDepth := before.loopDepth
    callDepth := shell.callDepth - 1
    skip := if shell.skip == .function || shell.skip == .functionAsIs then .nothing
      else shell.skip }
  match outcome with
  | .ok _ => pure none
  | .error why => pure (some why)

/-- Runs a program from a place in a search list on: instead of the shell if nothing
follows, otherwise in a process of its own. -/
def runProgram (manner : Manner) (list? : Option Bytes) (first : Nat) (words : List Bytes) :
    Sh Nat := do
  let list ← match list? with
    | some list => pure list
    | none => Search.list
  if manner.exits && !(← hasTraps) then Search.run list first words
  else
    let job ← Search.start list first words
    Job.awaitEnd job

/-- Runs a command that has been found.  Answers its status. -/
def runFound (evaluator : Evaluator) (manner : Manner) (resolution : Resolution)
    (finding : Search.Finding) (words : List Bytes) : Sh Nat := do
  let isFatal (why : Raise) : Bool := why != .error || resolution.isSpecial == some true
  let finish (why : Option Raise) : Sh Nat := do
    match why with
    | some why => raise why
    | none => do
        Job.reap none
        look (·.status)
  match finding with
  | .nothing => do
      change fun shell => { shell with status := 127 }
      if resolution.isSpecial == some true then raise .error else pure 127
  | .path => runProgram manner resolution.list? 0 words
  | .entry (.program index) => runProgram manner resolution.list? index words
  | .entry .builtin => do
      let why ← runBuiltin evaluator manner words
      finish (why.filter isFatal)
  | .entry (.function _ body) => do
      let why ← runFunction evaluator manner body words.tail
      finish why

/-- Undoes what was only for the time of a command: redirections and scopes beyond
those that there were before. -/
def tidyUp (before : Shell) (redirects stays : Bool) : Sh Unit := do
  if redirects then Redirection.undo stays
  let shell ← look id
  Redirection.undoTo before.redirected.length shell.redirected.length
  Sh.closeScopes before.scopes.length shell.scopes.length
  change fun shell => { shell with readTo := before.readTo }

def simple (evaluator : Evaluator) (manner : Manner) (line : Nat) (assignments words : List Word)
    (redirections : List Redirection) : Sh Nat := do
  let before ← look id
  change fun shell => { shell with line, substituted := 0 }
  let feed ← fill evaluator 0 [] words
  let resolution := Resolution.of feed
  let resolution ←
    if feed.fields.isEmpty then pure resolution
    else resolve evaluator (words.length + feed.fields.length + 1) resolution
  let others ← expandRest evaluator resolution.assigns resolution.feed.rest
  let fields := resolution.feed.fields ++ others
  let called := fields.drop resolution.start
  if resolution.isLocal then Sh.openScope
  change fun shell => { shell with traceTo := 2 }
  let ready ← Redirection.prepareAll evaluator redirections
  let redirects := !redirections.isEmpty
  if redirects then Redirection.start
  let isPossible ← Redirection.tryAll evaluator ready
  if !isPossible then
    change fun shell => { shell with status := 2 }
    if resolution.isSpecial == some true then raise .error
    else
      tidyUp before redirects false
      pure 2
  else
    if redirects then
      match ← Redirection.keptCopy? 2 with
      | some spare => change fun shell => { shell with traceTo := spare }
      | none => pure ()
    let made ← makeAssignments evaluator resolution.isLocal
      (resolution.isExec && 1 < called.length) assignments
    trace evaluator (made ++ fields)
    let isFound : Bool := match resolution.finding with
      | .entry .builtin =>
          called.isEmpty || (Search.builtin? (called.headD [])).any (·.isRegular)
      | _ => false
    let finding ←
      if isFound then pure resolution.finding
      else Search.find (called.headD []) { Search.How.usual with
        complains := true, skipsFunctions := resolution.skipsFunctions, list? := resolution.list? }
    let status ← runFound evaluator manner resolution finding called
    tidyUp before redirects resolution.isExec
    pure status

/-! ## Processes -/

/-- Evaluates a command in a shell of its own, or in this one if nothing follows. -/
def subshell (evaluator : Evaluator) (manner : Manner) (line : Nat) (inner : Command)
    (redirections : List Redirection) (isBackground : Bool) : Sh Nat := do
  change fun shell => { shell with line }
  let ready ← Redirection.prepareAll evaluator redirections
  if !isBackground && manner.exits && !(← hasTraps) then
    Redirection.applyAll evaluator false ready
    evaluator.command inner manner
  else
    let number ← Job.make
    let pid ← Job.split evaluator (some inner)
      (if isBackground then .background else .foreground) true do
        Redirection.applyAll evaluator false ready
        evaluator.command inner ⟨true, manner.isTested && !isBackground⟩
    Job.add number pid
    if isBackground then pure 0 else Job.awaitEnd number

/-- Starts the stages of a pipeline, the first of which reads from `input` if there is
one. -/
def startStages (evaluator : Evaluator) (manner : Manner) (isBackground : Bool) (number : Nat) :
    Bool → Option Nat → List Command → Sh Unit
  | _, _, [] => pure ()
  | isFirst, input, stage :: rest => do
      Search.foresee stage
      let pipe : Option (Nat × Nat) ←
        if rest.isEmpty then pure none else do pure (some (← ask .openPipe))
      let pid ← Job.split evaluator (some stage)
        (if isBackground then .background else .foreground) isFirst do
          match pipe with
          | some (reader, _) =>
              let _ ← ask (.close reader)
          | none => pure ()
          match input.filter (0 < ·) with
          | some input => do
              let _ ← ask (.copyOnto input 0)
              let _ ← ask (.close input)
          | none => pure ()
          match pipe with
          | some (_, writer) =>
              if 1 < writer then
                let _ ← ask (.copyOnto writer 1)
                let _ ← ask (.close writer)
          | none => pure ()
          evaluator.command stage ⟨true, manner.isTested⟩
      Job.add number pid
      match input with
      | some input =>
          let _ ← ask (.close input)
      | none => pure ()
      match pipe with
      | some (_, writer) =>
          let _ ← ask (.close writer)
      | none => pure ()
      startStages evaluator manner isBackground number false (pipe.map (·.1)) rest

def pipeline (evaluator : Evaluator) (manner : Manner) (stages : List Command)
    (isBackground : Bool) : Sh Nat := do
  let number ← Job.make
  startStages evaluator manner isBackground number true none stages
  if isBackground then pure 0 else Job.awaitEnd number

/-! ## Loops -/

/-- Takes account of what is skipped at the end of a round.  Answers what this loop
has to skip. -/
def afterRound : Sh Skip := do
  let shell ← look id
  if shell.skip != .break && shell.skip != .continue then pure shell.skip
  else
    let left := shell.skipCount - 1
    change fun shell => { shell with
      skipCount := left, skip := if left == 0 then .nothing else shell.skip }
    pure (if left == 0 then shell.skip else .break)

def goesOn (skip : Skip) : Bool := skip == .nothing || skip == .continue

def loop (evaluator : Evaluator) (manner : Manner) (expected : Bool) (test body : Command) :
    Sh Nat := do
  let inner : Manner := { manner with exits := false }
  change fun shell => { shell with loopDepth := shell.loopDepth + 1 }
  let status ← Sh.rounds 0 0 fun status => do
    let tested ← evaluator.command test ⟨false, true⟩
    let skip ← afterRound
    if skip != .nothing then
      let status := if skip == .function then tested else status
      pure (if goesOn skip then .inl status else .inr status)
    else if (tested == 0) != expected then pure (.inr status)
    else
      let status ← evaluator.command body inner
      let skip ← afterRound
      pure (if goesOn skip then .inl status else .inr status)
  change fun shell => { shell with loopDepth := shell.loopDepth - 1 }
  pure status

/-- Evaluates a command for each of some fields. -/
def forEach (evaluator : Evaluator) (manner : Manner) (name : Bytes) (body : Command) :
    List Bytes → Nat → Sh Nat
  | [], status => pure status
  | field :: rest, _ => do
      Sh.setVariable name field
      let status ← evaluator.command body { manner with exits := false }
      if goesOn (← afterRound) then forEach evaluator manner name body rest status
      else pure status

/-- Evaluates a loop over words. -/
def iteration (evaluator : Evaluator) (manner : Manner) (line : Nat) (name : Bytes)
    (words : List Word) (body : Command) : Sh Nat := do
  change fun shell => { shell with line }
  let fields ← Expansion.allFields evaluator words
  change fun shell => { shell with loopDepth := shell.loopDepth + 1 }
  let status ← forEach evaluator manner name body fields 0
  change fun shell => { shell with loopDepth := shell.loopDepth - 1 }
  pure status

/-! ## Choices -/

/-- Whether a text fits one of some patterns, which are expanded one by one. -/
def fitsOne (evaluator : Evaluator) (text : Bytes) : List Word → Sh Bool
  | [] => pure false
  | word :: rest => do
      let pattern ← Expansion.pattern evaluator word
      if Pattern.fits pattern text then pure true else fitsOne evaluator text rest

/-- Evaluates the first choice that fits. -/
def choose (evaluator : Evaluator) (manner : Manner) (text : Bytes) : List Choice → Sh Nat
  | [] => pure 0
  | .mk patterns body :: rest => do
      if ← fitsOne evaluator text patterns then
        match body with
        | some body => evaluator.command body manner
        | none => pure 0
      else choose evaluator manner text rest

/-! ## All commands -/

/-- Evaluates a command whose redirections are undone after it. -/
def redirected (evaluator : Evaluator) (manner : Manner) (line : Nat) (inner : Command)
    (redirections : List Redirection) : Sh Nat := do
  change fun shell => { shell with line }
  let ready ← Redirection.prepareAll evaluator redirections
  Redirection.start
  let status ←
    if ← Redirection.tryAll evaluator ready then
      evaluator.command inner { manner with exits := false }
    else pure 2
  Redirection.undo false
  pure status

/-- What evaluating a command comes to: its status, if that is to be set, and whether
failing may end the shell. -/
structure Outcome where
  status : Option Nat
  isChecked : Bool

def perform (evaluator : Evaluator) (manner : Manner) : Command → Sh Outcome
  | .nothing => pure ⟨none, false⟩
  | .simple line assignments words redirections => do
      pure ⟨some (← simple evaluator manner line assignments words redirections), true⟩
  | .pipeline stages isBackground => do
      pure ⟨some (← pipeline evaluator manner stages isBackground), true⟩
  | .subshell line inner redirections => do
      pure ⟨some (← subshell evaluator manner line inner redirections false), true⟩
  | .background line inner redirections => do
      pure ⟨some (← subshell evaluator manner line inner redirections true), true⟩
  | .redirected line inner redirections => do
      pure ⟨some (← redirected evaluator manner line inner redirections), false⟩
  | .negation inner => do
      let status ← evaluator.command inner ⟨false, true⟩
      pure ⟨some (if status == 0 then 1 else 0), false⟩
  | .join junction first second => do
      let status ← evaluator.command first ⟨false, manner.isTested || junction != .next⟩
      let isOver := match junction with
        | .both => status != 0
        | .either => status == 0
        | .next => false
      if isOver || (← look (·.skip)) != .nothing then pure ⟨none, false⟩
      else pure ⟨some (← evaluator.command second manner), false⟩
  | .choice test yes no => do
      let status ← evaluator.command test ⟨false, true⟩
      if (← look (·.skip)) != .nothing then pure ⟨none, false⟩
      else if status == 0 then pure ⟨some (← evaluator.command yes manner), false⟩
      else
        match no with
        | some no => pure ⟨some (← evaluator.command no manner), false⟩
        | none => pure ⟨some 0, false⟩
  | .loop expected test body => do
      pure ⟨some (← loop evaluator manner expected test body), false⟩
  | .iteration line name words body => do
      pure ⟨some (← iteration evaluator manner line name words body), false⟩
  | .selection line word choices => do
      change fun shell => { shell with line }
      let text ← Expansion.single evaluator word .fileName
      pure ⟨some (← choose evaluator manner text choices), false⟩
  | .definition line name body => do
      Sh.remember name (.function line body)
      pure ⟨some 0, false⟩

def command (evaluator : Evaluator) (command? : Option Command) (manner : Manner) : Sh Nat := do
  let isIdle ← match command? with
    | none => pure true
    | some _ => do
        takeTraps evaluator
        Sh.hasOption 'n'
  let outcome ← match command?.filter fun _ => !isIdle with
    | some command => perform evaluator manner command
    | none => pure ⟨none, false⟩
  match outcome.status with
  | some status => change fun shell => { shell with status }
  | none => pure ()
  takeTraps evaluator
  let isFatal := outcome.isChecked && !manner.isTested && outcome.status.any (· != 0)
  if manner.exits || (isFatal && (← Sh.hasOption 'e')) then raise .done
  else look (·.status)

/-! ## Texts and files -/

def refuse {α : Type} (line : Nat) (message : Bytes) : Sh α := do
  change fun shell => { shell with line }
  Sh.fail (ascii "Syntax error: " ++ message)

def readLine (source : Source) : Sh Grammar.Line := do
  let shell ← look id
  match Grammar.readLine source shell.aliases shell.documents with
  | .error (.wrong line message, _) => refuse line message
  | .error (.starved, rest) => refuse rest.line []
  | .ok line =>
      change fun shell => { shell with
        documents := line.documents, readTo := line.source.line, isAtEnd := line.isLast }
      pure line

def text (evaluator : Evaluator) (source : Bytes) (manner : Manner) : Sh Nat := do
  let readTo ← look (·.readTo)
  let status ← Sh.rounds 0 (Source.ofText source, 0) fun (source, status) => do
    let line ← readLine source
    if line.isEnd then pure (.inr status)
    else
      let answer ← command evaluator line.command
        { manner with exits := manner.exits && line.isLast }
      let status := if line.command.isSome then answer else status
      if (← look (·.skip)) != .nothing then pure (.inr status)
      else pure (.inl (line.source, status))
  change fun shell => { shell with readTo }
  pure status

/-- How far the reading of a file has come. -/
structure Reader where
  source : Source
  /-- So much of it has been shown. -/
  shown : Nat
  status : Nat

def Reader.start : Reader := ⟨.empty, 0, 0⟩

/-- How much of a file is read at once. -/
def blockSize : Nat := 8192

def readMore (descriptor : Nat) (source : Source) : Sh Source := do
  match ← Sh.lift (Action.readOnce descriptor blockSize) with
  | .ok (b :: bytes) =>
      pure { source with text := source.text ++ (b :: bytes).filter (· != 0) }
  | _ => pure { source with isWhole := true }

def showLines (script : Reader) (used : Nat) : Sh Reader := do
  let isNew (n : Nat) : Bool := script.shown ≤ n
  let touched := used - script.source.used
  let line := (script.source.text.drop (touched - 1)).takeWhile (· != byteOf '\n')
  let stop := min script.source.text.length (touched - 1 + line.length + 1)
  let first := script.shown - script.source.used
  if touched == 0 || !isNew (script.source.used + stop) then pure script
  else
    if ← Sh.hasOption 'v' then
      Sh.writeError ((script.source.text.take stop).drop first)
    pure { script with shown := max script.shown (script.source.used + stop) }

def readFileLine (descriptor : Nat) (script : Reader) : Sh (Reader × Grammar.Line) := do
  let given : Grammar.Line := ⟨none, true, true, script.source, #[]⟩
  Sh.rounds (script, given) script fun script => do
    let shell ← look id
    match Grammar.readLine script.source shell.aliases shell.documents with
    | .error (.starved, _) => do
        let source ← readMore descriptor script.source
        pure (.inl { script with source })
    | .error (.wrong line message, rest) => do
        let _ ← showLines script rest.used
        refuse line message
    | .ok line => do
        let script ← showLines script line.source.used
        let readTo := line.source.line
        change fun shell => { shell with
          documents := line.documents
          readTo
          mainReadTo := if shell.command.isNone then readTo else shell.mainReadTo
          isAtEnd := line.isLast }
        pure (.inr ({ script with source := line.source }, line))

def file (evaluator : Evaluator) (descriptor : Nat) : Sh Nat := do
  let readTo ← look (·.readTo)
  let status ← Sh.rounds 0 Reader.start fun script => do
    let (script, line) ← readFileLine descriptor script
    if line.isEnd then pure (.inr script.status)
    else
      let answer ← command evaluator line.command .usual
      let status := if line.command.isSome then answer else script.status
      let skip ← look (·.skip)
      if skip == .nothing then pure (.inl { script with status })
      else
        if skip == .function || skip == .functionAsIs then
          change fun shell => { shell with skip := .nothing }
        pure (.inr status)
  change fun shell => { shell with readTo }
  pure status

/-! ## Levels -/

def collapse {α : Type} : Sh α := do
  let _ ← ask (.signal (← ask .self) Signal.segment)
  raise .done

/-- The evaluator of commands nested so deep at most. -/
def evaluatorAt : Nat → Evaluator
  | 0 => ⟨fun _ _ => collapse, fun _ _ => collapse, fun _ => collapse⟩
  | depth + 1 =>
      { command := fun inner manner => command (evaluatorAt depth) (some inner) manner
        text := fun source manner => text (evaluatorAt depth) source manner
        file := fun descriptor => file (evaluatorAt depth) descriptor }

/-- How deep commands may be nested, calls of functions included. -/
def depth : Nat := 20000

def evaluator : Evaluator := evaluatorAt depth

end Evaluation

end PipelineShell.Machine.Script
