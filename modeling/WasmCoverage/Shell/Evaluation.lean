import WasmCoverage.Path.Search
import WasmCoverage.Program.Image
import WasmCoverage.Program.Utility
import WasmCoverage.Shell.Arithmetic
import WasmCoverage.Shell.Builtin
import WasmCoverage.Shell.Opening
import WasmCoverage.Shell.Reader

/-!
# Running shell scripts

Words become fields, commands act on the state of the shell, and programs that are called become
processes, whose scripts are run by shells of their own.  All of this depends on each other, so it
is one recursion, bounded by fuel that every call and every turn of a loop takes from.

This is as much of a shell as small scripts in the place of tools need.  There are no commands in
the background, no backquotes, no names of files for patterns, and no options but `-c` and `-e`; of
the traps there is only the one at the end.  A line that is no script ends the shell, without a word
on where it goes wrong.

Main statement: `endingOf_killed`, only a signal kills a shell.
-/

namespace WasmCoverage.Shell

open WasmCoverage.Text

/-- Something done with other channels, which are as before afterwards. -/
def withChannels (channels : List (Nat × Channel)) (act : Act Unit) : Act Unit := do
  let before := (← get).channels
  modify fun state => { state with channels }
  try act
  catch stop =>
    modify fun state => { state with channels := before }
    throw stop
  modify fun state => { state with channels := before }

/-- How a shell ends that has come to a stop or to its end. -/
def endingOf (result : Except Stop Unit) (state : State) : Ending :=
  match result with
  | .ok () => .exited (state.status % 256)
  | .error (.exit status) | .error (.back status) => .exited (status % 256)
  | .error (.killed signal) => .killed signal
  | .error (.leave _) | .error (.again _) => .exited (state.status % 256)

/-- **Only a signal kills a shell.** -/
theorem endingOf_killed {result : Except Stop Unit} {state : State} {signal : Nat} :
    endingOf result state = .killed signal ↔ result = .error (.killed signal) := by
  cases result with
  | ok _ => simp [endingOf]
  | error stop => cases stop <;> simp [endingOf]

/-- Something done in a loop. -/
def inLoop (act : Act Unit) : Act Unit := do
  let loops := (← get).loops
  modify fun state => { state with loops := loops + 1 }
  try act
  catch stop =>
    modify fun state => { state with loops }
    throw stop
  modify fun state => { state with loops }

/-- A loop's body, and whether the loop goes on after it. -/
def turn (body : Act Unit) : Act Bool := do
  try
    body
    return true
  catch stop =>
    match stop with
    | .leave levels => if levels > 1 then throw (.leave (levels - 1)) else return false
    | .again levels => if levels > 1 then throw (.again (levels - 1)) else return true
    | stop => throw stop

/-- Is there the output of a command in a word? -/
def hasOutput (word : Word) : Bool :=
  word.any (· matches .output _ _)

/-- The state of the shell of a new process. -/
def State.child (before : State) (name : String) (arguments : List String) (strict : Bool) :
    State :=
  { disk := before.disk
    pipes := before.pipes
    channels := before.channels
    vars := before.vars.filter fun entry => entry.2.exported
    name
    arguments
    process := before.process + 1
    strict }

/-- What a shell is asked to run. -/
inductive Asked where
  | text (script : String) (name : String) (arguments : List String)
  | file (path : String) (arguments : List String)
  | input

/-- What the words behind the name of a shell ask for, and whether the shell is to be strict. -/
def askedOf (name : String) : Bool → List String → Bool × Asked
  | strict, [] => (strict, .input)
  | strict, "-e" :: words => (true, (askedOf name strict words).2)
  | strict, "-c" :: script :: name :: arguments => (strict, .text script name arguments)
  | strict, ["-c", script] => (strict, .text script name [])
  | strict, path :: arguments => (strict, .file path arguments)

/-- The octets without line feeds at the end. -/
def withoutLastLines (octets : Octets) : Octets :=
  dropEndWhile (· = 10) octets

/-- The path that is executed for a program's name, or why none can be. -/
def programPath (disk : Disk) : List String → Except Disk.Cause String
  | [] => .error .missing
  | path :: rest =>
    match Program.image disk path with
    | .ok _ => .ok path
    | .error cause =>
      match programPath disk rest with
      | .ok path => .ok path
      | .error later => .error (if later = .missing then cause else later)

/-- The places where a program with a name may stand. -/
def State.places (state : State) (name : String) : List String :=
  let searchPath := (state.value? SearchPath.variableName).getD ""
  SearchPath.places (SearchPath.directories searchPath) name

mutual

/-- Something done to its end, with what is to be done when the shell ends. -/
def concluded : Nat → Act Unit → Act Unit
  | 0, _ => return ()
  | fuel + 1, act => do
    let (result, after) := act.run.run (← get)
    set after
    match endingOf result after with
    | .killed signal => throw (.killed signal)
    | .exited status =>
      if let some action := after.atEnd then
        set { after with atEnd := none, status }
        scriptText fuel action
      throw (.exit status)

/-- Something done in a subordinate shell. -/
def subordinate : Nat → Act Unit → Act Unit
  | 0, _ => return ()
  | fuel + 1, act => do
    let before ← get
    let (result, after) := (concluded fuel act).run.run { before with atEnd := none }
    set (before.rejoin after)
    setStatus (endingOf result after).status

/-- The atoms of a word.  Text inside the braces of a parameter may be split. -/
def atoms : Nat → Bool → Word → Act (List Atom)
  | 0, _, _ => return []
  | _ + 1, _, [] => return []
  | fuel + 1, inBraces, piece :: rest => do
    let first ← pieceAtoms fuel inBraces piece
    let more ← atoms fuel inBraces rest
    return first ++ more

/-- The atoms of a piece. -/
def pieceAtoms : Nat → Bool → Piece → Act (List Atom)
  | 0, _, _ => return []
  | _ + 1, inBraces, .text s quoted => return atomsOf s quoted (inBraces && !quoted)
  | fuel + 1, _, .output command quoted => do
    let number ← newPipe []
    let channels := Table.insert 1 (.pipe number) (← get).channels
    withChannels channels (subordinate fuel (run fuel false command))
    let state ← get
    let octets := withoutLastLines (state.pipes[number]?.getD [])
    set { state with pipes := state.pipes.take number }
    return atomsOf ((decodeLossy octets).toList.filter (· ≠ '\x00')) quoted (!quoted)
  | fuel + 1, _, .arithmetic term quoted => do
    let text ← textOf fuel term
    match Arithmetic.evaluate (← get).value? text with
    | .error fault =>
      complain (fault.message text)
      throw (.exit 2)
    | .ok n => return atomsOf (toString n.toInt).toList quoted (!quoted)
  | fuel + 1, _, .parameter name use quoted => do
    let state ← get
    let value := if name = "@" || name = "*" then
        if state.arguments.isEmpty then none
        else some (String.intercalate state.joint state.arguments)
      else state.parameter? name
    let own : List Atom :=
      if name = "@" || (name = "*" && !quoted) then atomsOfArguments quoted state.arguments
      else
        match value with
        | some text => atomsOf text.toList quoted (!quoted)
        | none => if quoted then [.empty] else []
    let counts (orEmpty : Bool) : Bool := value.any fun text => !(orEmpty && text = "")
    let other (word : Word) : Act (List Atom) := do
      let found ← atoms fuel true word
      return if quoted && found.isEmpty then [.empty] else found
    match use with
    | .value => return own
    | .length => return atomsOf (toString (value.getD "").length).toList quoted false
    | .default orEmpty word => if counts orEmpty then return own else other word
    | .alternative orEmpty word =>
      if counts orEmpty then other word else return if quoted then [.empty] else []
    | .assign orEmpty word =>
      if counts orEmpty then return own
      else
        let text ← textIn fuel true word
        assign name text
        return atomsOf text.toList quoted (!quoted)
    | .demand orEmpty word =>
      if counts orEmpty then return own
      else
        let text ← textIn fuel true word
        complain (name ++ ": " ++ if text = "" then "parameter not set" else text)
        throw (.exit 2)
    | .without atEnd longest pattern =>
      let found ← atoms fuel false pattern
      let signs := patternOf (joinAtoms found)
      let text := (value.getD "").toList
      let kept := if atEnd then withoutEnd signs longest text else withoutStart signs longest text
      return atomsOf kept quoted (!quoted)
    | .malformed =>
      complain "Bad substitution"
      throw (.exit 2)

/-- The fields of words. -/
def fields : Nat → List Word → Act (List String)
  | 0, _ => return []
  | _ + 1, [] => return []
  | fuel + 1, word :: rest => do
    let found ← atoms fuel false word
    let first := splitFields (← get).separators false none found
    let more ← fields fuel rest
    return first.map plain ++ more

/-- The text of a word that is not split. -/
def textIn : Nat → Bool → Word → Act String
  | 0, _, _ => return ""
  | fuel + 1, inBraces, word => do
    let found ← atoms fuel inBraces word
    return plain (joinAtoms found)

/-- The same outside of braces. -/
def textOf : Nat → Word → Act String
  | 0, _ => return ""
  | fuel + 1, word => textIn fuel false word

/-- Assignments, in turn. -/
def assignments : Nat → Bool → List (String × Word) → Act Unit
  | 0, _, _ => return ()
  | _ + 1, _, [] => return ()
  | fuel + 1, exported, (name, word) :: rest => do
    let value ← textOf fuel word
    assign name value exported
    assignments fuel exported rest

/-- Redirections, in turn.  The complaint about the first that fails is given. -/
def redirections : Nat → List Redirection → Act (Option String)
  | 0, _ => return none
  | _ + 1, [] => return none
  | fuel + 1, first :: rest => do
    let (number, opened) ← match first with
      | .read number target =>
        pure (number, (← openForReading (← textOf fuel target)).map some)
      | .write number append target =>
        pure (number, (← openForWriting (← textOf fuel target) append).map some)
      | .duplicate number target => pure (number, ← duplicateOf (← textOf fuel target))
      | .here number body =>
        pure (number, .ok (some (.pipe (← newPipe (octetsOf (← textOf fuel body))))))
    match opened with
    | .error text => return some text
    | .ok channel =>
      redirect number channel
      redirections fuel rest

/-- Something done under redirections. -/
def redirected : Nat → List Redirection → Bool → Act Unit → Act Unit
  | 0, _, _, _ => return ()
  | fuel + 1, list, endsShell, act => do
    withChannels (← get).channels do
      match ← redirections fuel list with
      | none => act
      | some text =>
        complain text
        if endsShell then throw (.exit 2) else setStatus 2

/-- A script with some lines, line by line. -/
def script : Nat → Nat → List Char → Act Unit
  | 0, _, _ => return ()
  | fuel + 1, lines, chars => do
    let left := (skipLines (chars.length + 1) chars).count '\n'
    modify fun state => { state with line := lines - left }
    match nextLine chars with
    | .done => return ()
    | .malformed =>
      complain "Syntax error"
      throw (.exit 2)
    | .line command rest =>
      run fuel false command
      script fuel lines rest

/-- A text as a script. -/
def scriptText : Nat → String → Act Unit
  | 0, _ => return ()
  | fuel + 1, text => script fuel (text.toList.count '\n' + 1) text.toList

/-- A shell as a process of its own. -/
def shell : Nat → List String → Act Ending
  | 0, _ => return .exited 0
  | fuel + 1, argv => do
    let own := argv.headD ""
    let before ← get
    let (strict, asked) := askedOf own false (argv.drop 1)
    let start (name : String) (arguments : List String) (text : String) : Act Ending := do
      let (result, after) := (concluded fuel (scriptText fuel text)).run.run
        (before.child name arguments strict)
      set (before.rejoin after)
      return endingOf result after
    match asked with
    | .text text name arguments => start name arguments text
    | .input => start own [] (decodeLossy (← takeInput 0))
    | .file path arguments =>
      match ← onDiskOf (Disk.read (.ofText path)) with
      | .ok data => start path arguments (decodeLossy data)
      | .error error =>
        let reason := reasonFor false error
        emit 2 (octetsOf (own ++ ": 0: cannot open " ++ path ++ ": " ++ reason ++ "\n"))
        return .exited 2

/-- A program of the system as a process of its own. -/
def program : Nat → String → List String → Act Ending
  | 0, _, _ => return .exited 0
  | fuel + 1, name, argv => do
    if name = "sh" then shell fuel argv
    else
      let words := argv.drop 1
      let input ← if name = "cat" && words.isEmpty then takeInput 0 else pure []
      let result := Program.utility name (argv.headD name) words input (← get).disk
      modify fun state => { state with disk := result.disk }
      emit 1 result.out
      emit 2 result.err
      return .exited result.status

/-- A path executed as a process.  A file that names no interpreter is a script of the shell. -/
def execute : Nat → String → List String → Act (Except Disk.Cause Ending)
  | 0, _, _ => return .ok (.exited 0)
  | fuel + 1, path, argv => do
    match Program.interpreted (← get).disk Program.interpreterLimit path argv with
    | .ok (name, argv) => return .ok (← program fuel name argv)
    | .error .badFormat => return .ok (← shell fuel ("sh" :: path :: argv.drop 1))
    | .error cause => return .error cause

/-- How a program that is called by its name ends. -/
def called : Nat → String → List String → Act Ending
  | 0, _, _ => return .exited 0
  | fuel + 1, name, arguments => do
    let state ← get
    let ended ← match programPath state.disk (state.places name) with
      | .ok path => execute fuel path (name :: arguments)
      | .error cause => pure (.error cause)
    match ended with
    | .ok ending => return ending
    | .error cause =>
      let isMissing := cause = .missing ∨ cause = .notDirectory
      complain (name ++ ": " ++ if isMissing then "not found" else cause.text)
      return .exited (if isMissing then 127 else 126)

/-- A function called with arguments. -/
def callFunction : Nat → Bool → Command → List String → Act Unit
  | 0, _, _, _ => return ()
  | fuel + 1, tested, body, arguments => do
    let before ← get
    set { before with arguments, loops := 0 }
    let stopped ← try
        run fuel tested body
        pure none
      catch stop => pure (some stop)
    modify fun state => { state with arguments := before.arguments, loops := before.loops }
    match stopped with
    | none => return ()
    | some (.back status) => setStatus status
    | some stop => throw stop

/-- A command by its name: a function, a command of the shell or a program. -/
def call : Nat → Bool → String → List String → Act Unit
  | 0, _, _, _ => return ()
  | fuel + 1, tested, name, arguments => do
    match Table.get? name (← get).functions, name, arguments with
    | some body, _, _ => callFunction fuel tested body arguments
    | none, "eval", words =>
      setStatus 0
      scriptText fuel (String.intercalate " " words)
    | none, "exec", program :: words =>
      match ← called fuel program words with
      | .exited status => throw (.exit status)
      | .killed signal => throw (.killed signal)
    | none, name, words =>
      match builtin? name words with
      | some act => act
      | none => setStatus (← called fuel name words).status

/-- A simple command. -/
def simple : Nat → Bool → List (String × Word) → List Word → List Redirection → Act Unit
  | 0, _, _, _, _ => return ()
  | fuel + 1, tested, assigned, words, list => do
    match ← fields fuel words with
    | [] =>
      let keeps := assigned.any (fun entry => hasOutput entry.2) || words.any hasOutput
      redirected fuel list false do
        assignments fuel false assigned
        unless keeps do setStatus 0
    | ["exec"] =>
      if let some text ← redirections fuel list then
        complain text
        throw (.exit 2)
      setStatus 0
    | name :: arguments =>
      let isSpecial := special.contains name
      redirected fuel list isSpecial do
        let before := (← get).vars
        assignments fuel true assigned
        let restore : Act Unit := do
          unless isSpecial || assigned.isEmpty do
            modify fun state => { state with vars := assigned.foldl (fun vars entry =>
              restoreVariable vars entry.1 (Table.get? entry.1 before)) state.vars }
        try call fuel tested name arguments
        catch stop =>
          restore
          throw stop
        restore

/-- A loop; `last` is the status of the last turn. -/
def loop : Nat → Bool → Bool → Command → Command → Nat → Act Unit
  | 0, _, _, _, _, _ => return ()
  | fuel + 1, tested, until_, condition, body, last => do
    if ← turn (run fuel true condition) then
      if ((← get).status = 0) != until_ then
        if ← turn (run fuel tested body) then
          loop fuel tested until_ condition body (← get).status
      else setStatus last

/-- A body for every text in turn. -/
def each : Nat → Bool → String → List String → Command → Act Unit
  | 0, _, _, _, _ => return ()
  | _ + 1, _, _, [], _ => return ()
  | fuel + 1, tested, name, text :: rest, body => do
    assign name text
    if ← turn (run fuel tested body) then each fuel tested name rest body

/-- The first choice of which a pattern fits a text. -/
def choose : Nat → Bool → List Char → List (List Word × Command) → Act Unit
  | 0, _, _, _ => return ()
  | _ + 1, _, _, [] => setStatus 0
  | fuel + 1, tested, text, (patterns, body) :: rest => do
    if ← anyFits fuel text patterns then
      setStatus 0
      run fuel tested body
    else choose fuel tested text rest

/-- Does one of some patterns fit a text? -/
def anyFits : Nat → List Char → List Word → Act Bool
  | 0, _, _ => return false
  | _ + 1, _, [] => return false
  | fuel + 1, text, pattern :: rest => do
    let found ← atoms fuel false pattern
    if fits (patternOf (joinAtoms found)) text then return true
    else anyFits fuel text rest

/-- The stages of a pipeline, each in a subordinate shell with the output of the one before. -/
def stages : Nat → List Command → Act Unit
  | 0, _ => return ()
  | _ + 1, [] => return ()
  | fuel + 1, [last] => subordinate fuel (run fuel false last)
  | fuel + 1, first :: rest => do
    let number ← newPipe []
    let channels := (← get).channels
    withChannels (Table.insert 1 (.pipe number) channels)
      (subordinate fuel (run fuel false first))
    withChannels (Table.insert 0 (.pipe number) channels) (stages fuel rest)

/-- Commands one after the other. -/
def inTurn : Nat → Bool → List Command → Act Unit
  | 0, _, _ => return ()
  | _ + 1, _, [] => return ()
  | fuel + 1, tested, first :: rest => do
    run fuel tested first
    inTurn fuel tested rest

/-- A command; `tested` tells that its status is somebody's condition, so that a strict shell goes
on after it. -/
def run : Nat → Bool → Command → Act Unit
  | 0, _, _ => return ()
  | fuel + 1, tested, command => do
    let checked (act : Act Unit) : Act Unit := do
      act
      let state ← get
      if state.strict && !tested && state.status ≠ 0 then throw (.exit state.status)
    match command with
    | .simple assigned words list => checked (simple fuel tested assigned words list)
    | .sequence commands => inTurn fuel tested commands
    | .both first second =>
      run fuel true first
      if (← get).status = 0 then run fuel tested second
    | .either first second =>
      run fuel true first
      if (← get).status ≠ 0 then run fuel tested second
    | .negated command =>
      run fuel true command
      setStatus (if (← get).status = 0 then 1 else 0)
    | .pipeline commands => checked (stages fuel commands)
    | .subshell body => checked (subordinate fuel (run fuel tested body))
    | .conditional condition body otherwise =>
      run fuel true condition
      if (← get).status = 0 then run fuel tested body
      else
        setStatus 0
        run fuel tested otherwise
    | .loop until_ condition body => inLoop (loop fuel tested until_ condition body 0)
    | .each name words body =>
      let texts ← match words with
        | some words => fields fuel words
        | none => pure (← get).arguments
      setStatus 0
      inLoop (each fuel tested name texts body)
    | .select word choices =>
      let text ← textOf fuel word
      choose fuel tested text.toList choices
    | .define name body =>
      modify fun state => { state with functions := Table.insert name body state.functions }
      setStatus 0
    | .redirected body list => redirected fuel list false (run fuel tested body)

end

end WasmCoverage.Shell
