import Dialogue.Library

/-!
# Command line arguments

The arguments of the command line. They are taken one after another, and the first that settles the
matter does so: a mistake, or a question for the version or for help.
-/

namespace Dialogue.Command

/-- What the program can be told to do. -/
inductive Task where
  | play
  | list
  | check
  deriving DecidableEq

def Task.name : Task → String
  | .play => "play"
  | .list => "list"
  | .check => "check"

def Task.all : List Task := [.play, .list, .check]

/-- What can be said of a task besides its operand. -/
inductive Setting where
  | directory
  | profile
  | save
  | scope
  | noPacing
  deriving DecidableEq

namespace Setting

/-- The settings of a task. -/
def ofTask : Task → List Setting
  | .play => [.directory, .profile, .save, .scope, .noPacing]
  | .list => [.directory]
  | .check => [.directory, .scope]

def long : Setting → String
  | .directory => "dir"
  | .profile => "profile"
  | .save => "save"
  | .scope => "scope"
  | .noPacing => "no-pacing"

def letter? : Setting → Option Char
  | .directory => some 'd'
  | .profile => some 'p'
  | .save => some 's'
  | .scope | .noPacing => none

/-- Whether the setting has a value. -/
def takesValue : Setting → Bool
  | .noPacing => false
  | _ => true

/-- Whether a value is one that the setting can have. -/
def admits (value : String) : Setting → Bool
  | .directory | .profile | .save => !value.isEmpty
  | .scope => value == "global" || value == "tree"
  | .noPacing => true

end Setting

/-- The arguments taken so far. -/
structure Given where
  settings : List (Setting × String) := []
  /-- The operand, which is the tree to play. -/
  operand : Option String := none

/-- What an argument that begins with a hyphen says. -/
inductive Word where
  | mistake
  | version
  | help
  /-- A setting that the next argument is the value of. -/
  | awaiting (setting : Setting)
  | closed (setting : Setting) (value : String)

/-- An argument that begins with two hyphens, after them. -/
def Word.ofLong (task : Task) (cs : List Char) : Word :=
  let name := String.ofList (cs.takeWhile (· != '='))
  let value? := (cs.dropWhile (· != '=')).tail?
  match (Setting.ofTask task).find? (·.long == name), value? with
  | some s, some value =>
    if s.takesValue then .closed s (String.ofList value) else .mistake
  | some s, none => if s.takesValue then .awaiting s else .closed s ""
  | none, some _ => .mistake
  | none, none =>
    if name == "version" then .version else if name == "help" then .help else .mistake

/-- An argument that begins with one hyphen, after it. -/
def Word.ofShort (task : Task) : List Char → Word
  | [] => .mistake
  | c :: cs =>
    match (Setting.ofTask task).find? (·.letter? == some c), cs with
    | some s, [] => .awaiting s
    | some s, '=' :: value => .closed s (String.ofList value)
    | some s, value => .closed s (String.ofList value)
    | none, _ => if c == 'V' then .version else if c == 'h' then .help else .mistake

/-- What the command line asks for. -/
inductive Request where
  | play (tree directory : String) (profile save : Option String) (scope : Scope) (pacing : Bool)
  | list (directory : String)
  | check (directory : String) (scope : Scope)
  /-- The version of the program or of one task. -/
  | version (task : Option Task)
  | help
  | mistake
  deriving DecidableEq

namespace Given

def value? (g : Given) (s : Setting) : Option String := g.settings.lookup s

/-- Adds a setting, if it is new and has a proper value. -/
def add? (g : Given) (s : Setting) (value : String) : Option Given :=
  if (g.value? s).isSome || !s.admits value then none
  else some { g with settings := (s, value) :: g.settings }

/-- Adds an operand, which only playing has. -/
def addOperand? (g : Given) (task : Task) (value : String) : Option Given :=
  if task == .play && g.operand.isNone then some { g with operand := some value } else none

def directory (g : Given) : String := (g.value? .directory).getD "."

def scope (g : Given) : Scope := if g.value? .scope == some "tree" then .tree else .global

/-- What all arguments together ask for. -/
def request (g : Given) : Task → Request
  | .play =>
    match g.operand with
    | some tree =>
      .play tree g.directory (g.value? .profile) (g.value? .save) g.scope
        (g.value? .noPacing).isNone
    | none => .mistake
  | .list => .list g.directory
  | .check => .check g.directory g.scope

end Given

/-- Takes the arguments of a task. After a lone pair of hyphens all are operands; a lone hyphen is
one always. -/
def takeArguments (task : Task) (literal : Bool) (g : Given) : List String → Request
  | [] => g.request task
  | arg :: args =>
    let operand (_ : Unit) : Option Given := g.addOperand? task arg
    let word : Option Word :=
      if literal then none
      else
        match arg.toList with
        | ['-'] => none
        | '-' :: '-' :: cs => some (.ofLong task cs)
        | '-' :: cs => some (.ofShort task cs)
        | _ => none
    if !literal && arg == "--" then takeArguments task true g args
    else
      match word with
      | none =>
        match operand () with
        | some g => takeArguments task literal g args
        | none => .mistake
      | some .mistake => .mistake
      | some .version => .version (some task)
      | some .help => .help
      | some (.closed s value) =>
        match g.add? s value with
        | some g => takeArguments task literal g args
        | none => .mistake
      | some (.awaiting s) =>
        match args with
        | [] => .mistake
        | value :: args =>
          if value != "-" && value.toList.head? == some '-' then .mistake
          else
            match g.add? s value with
            | some g => takeArguments task literal g args
            | none => .mistake

/-- What the word `help` asks for: help on the program, on a task or on itself. -/
def Request.ofTopics (topics : List String) : Request :=
  match topics with
  | [] => .help
  | [topic] => if topic == "help" || Task.all.any (·.name == topic) then .help else .mistake
  | _ => .mistake

/-- What the arguments of the program ask for. -/
def Request.ofArguments : List String → Request
  | [] => .mistake
  | arg :: args =>
    match Task.all.find? (·.name == arg) with
    | some task => takeArguments task false {} args
    | none =>
      match arg.toList with
      | '-' :: 'V' :: _ => .version none
      | '-' :: 'h' :: _ => .help
      | _ =>
        if arg == "help" then .ofTopics args
        else if arg == "--version" then .version none
        else if arg == "--help" then .help
        else .mistake

/-- The answer to the question for the version. -/
def versionText : Option Task → String
  | none => "parley 0.1.0"
  | some task => "parley-" ++ task.name ++ " 0.1.0"

end Dialogue.Command
