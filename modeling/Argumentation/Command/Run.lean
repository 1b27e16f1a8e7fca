import Argumentation.Command.Arguments
import Argumentation.Record.Listing
import Argumentation.Session.Files

/-!
# Commands

The command line checks a description, prints it in canonical form or exports it as
a project.  A file whose extension is `apx` holds a description, one whose extension
is `json` a project document.

The faults of a description are printed one on each line by `check`.  Every other
error is printed as a listing.
-/

namespace Argumentation

namespace Command

/-! ## What is asked for -/

/-- What the user asks for. -/
inductive Task where
  /-- The kind of framework that a description has, or its faults. -/
  | check (path : String) (verbose : Bool)
  /-- The canonical text of a description. -/
  | format (path : String)
  /-- A project file for a description. -/
  | project (path : String) (projectName layout output : Option String)
  /-- How the commands are used. -/
  | help
  /-- The name and the version of the program. -/
  | version
  deriving DecidableEq

/-- A task and the configuration file for it. -/
structure Request where
  /-- The path of the configuration file. -/
  config : Option String := none
  /-- The task. -/
  task : Task
  deriving DecidableEq

/-- The options of every command. -/
def commonRules : List OptionRule :=
  [⟨"config", some 'c', true, false, false⟩, ⟨"help", some 'h', false, false, true⟩]

/-- The options in front of the command. -/
def leadRules : List OptionRule := commonRules ++ [⟨"version", some 'V', false, false, true⟩]

/-- The further options of a command, if there is a command of this name. -/
def rules? : String → Option (List OptionRule)
  | "check" => some [⟨"verbose", some 'v', false, false, false⟩]
  | "format" => some []
  | "export" => some [⟨"project-name", none, true, true, false⟩,
      ⟨"layout", none, true, true, false⟩, ⟨"output", some 'o', true, false, false⟩]
  | _ => none

/-- The task of a command with its options and operands. -/
def task (command : String) (items : List Item) : Except UsageError Task := do
  if ← flag items "help" then .ok .help
  else
    match command with
    | "check" => .ok (.check (← path items) (← flag items "verbose"))
    | "format" => .ok (.format (← path items))
    | _ =>
      .ok (.project (← path items) (← value? items "project-name") (← value? items "layout")
        (← value? items "output"))

/-- What a command line asks for.  A configuration file that is given behind the
command counts more than one that is given in front of it. -/
def parse (words : List String) : Except UsageError Request := do
  let (lead, words) ← scanLead leadRules words
  let config ← value? lead "config"
  if ← flag lead "help" then .ok { task := .help }
  else if ← flag lead "version" then .ok { task := .version }
  else
    match words with
    | [] => .error .missingCommand
    | command :: words =>
      match rules? command with
      | none => .error (.unknownCommand command)
      | some rules =>
        let items ← scan (commonRules ++ rules) words
        .ok ⟨(← value? items "config").or config, ← task command items⟩

example : (parse ["check", "-vc", "c.toml", "x.apx"]).toOption =
    some ⟨some "c.toml", .check "x.apx" true⟩ := by decide +kernel
example : (parse ["export", "-oy.apx", "--layout=", "--", "-x.apx"]).toOption =
    some ⟨none, .project "-x.apx" none (some "") (some "y.apx")⟩ := by decide +kernel
example : (parse ["-c", "c.toml", "format"]).toOption = none := by decide +kernel
example : (parse ["-c", "c.toml", "-V", "-x"]).toOption = some ⟨none, .version⟩ := by
  decide +kernel

/-! ## Reports -/

/-- What a command leaves to its user. -/
structure Report where
  /-- The exit code. -/
  code : UInt8 := 0
  /-- What is printed. -/
  output : String := ""
  /-- What is printed as an error. -/
  errors : String := ""

/-- The report of an error. -/
def failure (e : Error) : Report := ⟨1, "", "Error: " ++ e.listing ++ "\n"⟩

/-- Lines as a text. -/
def linesText (lines : List String) : String := String.join (lines.map (· ++ "\n"))

/-- The line of an argument. -/
def argumentLine (a : Argument) : String :=
  "  " ++ a.id ++ " " ++ Listing.option (a.weight.map Binary64.listing)

/-- The line of a relation. -/
def relationLine (r : Relation) : String := "  " ++ r.id.toText ++ " " ++ r.key.toText

/-- What `check` prints about a description without faults. -/
def checkText (s : Session) (verbose : Bool) : String :=
  linesText (["", "=== Check Results ===",
    "Arguments: " ++ Nat.repr s.graph.nodes.length,
    "Relations: " ++ Nat.repr s.graph.relations.length,
    "Classification: " ++ s.graph.features.toText] ++
    if verbose then s.graph.arguments.map argumentLine ++ s.graph.relations.map relationLine
    else [])

/-- The name of the program. -/
def programName : String := "argdesigner"

/-- The version of the program. -/
def version : String := "0.0.0"

/-- How the commands are used. -/
def usage : String :=
  linesText ["Usage: " ++ programName ++ " [-c FILE] COMMAND", "", "Commands:",
    "  check [-v] PATH    print the category of a description or its faults",
    "  format PATH        print a description in canonical form",
    "  export [--project-name NAME] [--layout NAME] [-o PATH] PATH",
    "                     write a description as a project file"]

/-! ## Running commands -/

variable {m : Type → Type} [Monad m] [Files m]

/-- The session of a file. -/
def loadSession (config : Option String) (path : String) : m (Except Error Session) := do
  let loaded ← match config with
    | some file => Config.load file
    | none => pure (.ok {})
  match loaded with
  | .error e => return .error e
  | .ok c =>
    match ← (Session.new c).importFile path with
    | (s, .ok _) => return .ok s
    | (_, .error e) => return .error e

/-- The report of a check. -/
def checkReport (verbose : Bool) : Except Error Session → Report
  | .ok s => { output := checkText s verbose }
  | .error (.description ds) => { code := 1, errors := Diagnostic.messages ds ++ "\n" }
  | .error e => failure e

/-- The report of a description in canonical form. -/
def formatReport (loaded : Except Error Session) : Report :=
  match loaded.bind fun s => s.checkDescription s.description with
  | .ok f => { output := f.toText ++ "\n" }
  | .error e => failure e

/-- Exports a session that comes from a file. -/
def exportSession (date : String) (s : Session) (source : String)
    (projectName layout output : Option String) : m Report := do
  let s := (projectName.map s.setProjectName).getD s
  let s := (layout.map s.setLayout).getD s
  match ← s.exportDestination source output with
  | .error e => return failure e
  | .ok target =>
    match ← s.exportFile date target with
    | .error e => return failure e
    | .ok () => return { output := "Exported to " ++ target ++ "\n" }

/-- Does what is asked for at a date. -/
def Request.run (date : String) (r : Request) : m Report := do
  match r.task with
  | .help => return { output := usage }
  | .version => return { output := programName ++ " " ++ version ++ "\n" }
  | .check path verbose => return checkReport verbose (← loadSession r.config path)
  | .format path => return formatReport (← loadSession r.config path)
  | .project path projectName layout output =>
    match ← loadSession r.config path with
    | .error e => return failure e
    | .ok s => exportSession date s path projectName layout output

/-- Does what a command line asks for at a date. -/
def run (date : String) (words : List String) : m Report :=
  match parse words with
  | .ok r => r.run date
  | .error e => pure { code := 2, errors := "error: " ++ e.message ++ "\n\n" ++ usage }

end Command

end Argumentation
