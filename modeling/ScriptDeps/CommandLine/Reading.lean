import ScriptDeps.CommandLine.Word

namespace ScriptDeps.CommandLine

open Text (lit)

/-! # Reading command lines

The words of the program come first, up to the command; all words from there on are those of the
command. Words that nothing can be done with are kept until everything else has been read.
-/

/-! ## What a command line asks for -/

/-- The values of the switches. -/
structure Settings where
  level : Log.Level := .warning
  profile : Text := lit "default"
deriving DecidableEq, Repr

/-- Something that the program does for a cluster. -/
inductive Task where
  | modules
  | analyze (files : List Text)
deriving DecidableEq, Repr

/-- What a command line asks for. -/
inductive Reading where
  | help (p : Page)
  | version
  | task (s : Settings) (t : Task)
deriving DecidableEq, Repr

/-- An error with the page that it is about. -/
structure UsageError where
  page : Page
  error : LineError
deriving DecidableEq, Repr

/-- What is written for an error: the usage and then the error. -/
def UsageError.text (e : UsageError) : Text :=
  e.page.usage ++ lit e.page.title ++ lit ": error: " ++ e.error.message ++ [0x0A]

/-! ## Switches -/

/-- What is wrong with letters behind a switch of one letter: each of them must be such a switch
itself. Letters that are none are not looked at, because the help has been asked for by then. -/
def lettersError? : Text → Option LineError
  | [] => none
  | c :: rest =>
    if c = dash then some (.unexpectedValue .help (c :: rest))
    else if Switch.help.names.any fun n => lit n == [dash, c] then
      match rest with
      | 0x3D :: value => some (.unexpectedValue .help value)
      | _ => lettersError? rest
    else none

/-- What is wrong with something attached to a switch without a value. -/
def flagError? (s : Switch) : Attached → Option LineError
  | .nothing => none
  | .value t => some (.unexpectedValue s t)
  | .letters t => lettersError? t

/-- What a switch with that value leads to. -/
def applyValue (st : Settings) (s : Switch) (value : Text) : Except LineError Settings :=
  match s with
  | .logLevel =>
    match Log.Level.all.find? fun l => lit l.name == value with
    | some level => .ok { st with level }
    | none => .error (.unknownLevel value)
  | .profile => .ok { st with profile := value }
  | _ => .ok st

/-! ## Words of a page -/

/-- What becomes of the operands of a page. -/
inductive Operands where
  /-- The first one is a command. -/
  | command
  /-- They are files, but there was none yet. -/
  | files
  /-- They are files, and these came right before. -/
  | moreFiles (before : List Text)
  /-- Nothing can be done with more of them. -/
  | closed (before : List Text)

/-- The files so far. -/
def Operands.list : Operands → List Text
  | moreFiles fs => fs
  | closed fs => fs
  | _ => []

/-- Files that are parted by a switch do not belong together. -/
def Operands.close : Operands → Operands
  | moreFiles fs => closed fs
  | o => o

/-- What the words of a page amount to. -/
inductive Scanned where
  | help
  | version
  /-- There may be a command, with the words behind it. -/
  | words (s : Settings) (unknown files : List Text) (command : Option (Text × List Text))

/-- A page that a switch asks for, unless something is wrong with that. -/
def showing (s : Switch) (a : Attached) (page : Scanned) : Except LineError Scanned :=
  match flagError? s a with
  | some e => .error e
  | none => .ok page

/-- Takes the words of a page one after the other. -/
def scan (st : Settings) (unknown : List Text) (o : Operands) :
    List Word → Except LineError Scanned
  | [] => .ok (.words st unknown o.list none)
  | ⟨_, .switch .help a⟩ :: _ => showing .help a .help
  | ⟨_, .switch .version a⟩ :: _ => showing .version a .version
  | ⟨_, .switch s (.value v)⟩ :: rest => do scan (← applyValue st s v) unknown o.close rest
  | ⟨_, .switch s _⟩ :: ⟨v, .operand⟩ :: rest => do
    scan (← applyValue st s v) unknown o.close rest
  | ⟨_, .switch s _⟩ :: _ => .error (.missingValue s)
  | ⟨t, .unknown⟩ :: rest => scan st (unknown ++ [t]) o.close rest
  | ⟨t, .separator⟩ :: rest =>
    match o with
    | .command =>
      if rest.isEmpty then scan st (unknown ++ [t]) o rest
      else .ok (.words st unknown [] (some (t, rest.map (·.text))))
    | .files => scan st (if rest.isEmpty then unknown ++ [t] else unknown) o rest
    | .moreFiles _ => scan st unknown o rest
    | .closed _ => scan st (unknown ++ [t]) o rest
  | ⟨t, .operand⟩ :: rest =>
    match o with
    | .command => .ok (.words st unknown [] (some (t, rest.map (·.text))))
    | .files => scan st unknown (.moreFiles [t]) rest
    | .moreFiles fs => scan st unknown (.moreFiles (fs ++ [t])) rest
    | .closed _ => scan st (unknown ++ [t]) o rest

/-! ## The whole line -/

/-- Reads the words of a page. -/
def scanPage (p : Page) (st : Settings) (unknown : List Text) (o : Operands) (ts : List Text) :
    Except UsageError Scanned :=
  match wordsOf p ts with
  | .error e => .error ⟨p, e⟩
  | .ok ws =>
    match scan st unknown o ws with
    | .error e => .error ⟨p, e⟩
    | .ok s => .ok s

/-- The task of a command with these files. -/
def taskOf (c : Command) (files : List Text) : Except UsageError Task :=
  match c with
  | .modules => .ok .modules
  | .analyze =>
    if files.isEmpty then .error ⟨.command c, .missingFiles⟩ else .ok (.analyze files)

/-- Nothing may be left over. -/
def noneLeft (unknown : List Text) : Except UsageError Unit :=
  if unknown.isEmpty then .ok () else .error ⟨.program, .unrecognized unknown⟩

/-- What becomes of the words behind a command. -/
def readCommand (st : Settings) (unknown : List Text) (c : Command) (ts : List Text) :
    Except UsageError Reading := do
  let operands := if c.takesFiles then Operands.files else .closed []
  match ← scanPage (.command c) st unknown operands ts with
  | .help => return .help (.command c)
  | .version => return .version
  | .words st unknown files _ =>
    let task ← taskOf c files
    noneLeft unknown
    return .task st task

/-- Reads a command line. -/
def read (ts : List Text) : Except UsageError Reading := do
  match ← scanPage .program {} [] .command ts with
  | .help => return .help .program
  | .version => return .version
  | .words _ unknown _ none =>
    noneLeft unknown
    throw ⟨.program, .missingCommand⟩
  | .words st unknown _ (some (word, rest)) =>
    match Command.ofWord? word with
    | none => throw ⟨.program, .unknownCommand word⟩
    | some c => readCommand st unknown c rest

example : (read [lit "--log-l", lit "INFO", lit "analyze", lit "a", lit "--", lit "-b"]).toOption =
    some (.task { level := .info } (.analyze [lit "a", lit "-b"])) := by decide +kernel

end ScriptDeps.CommandLine
