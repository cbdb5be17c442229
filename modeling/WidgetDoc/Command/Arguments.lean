import WidgetDoc.Command

/-!
# Reading command lines

Arguments are read from left to right, and the first one that asks for help, for the version or for
something unknown decides. An option takes its value after an equals sign or from the next argument;
after two dashes nothing is an option.
-/

namespace WidgetDoc

/-- Why a command line names no command to run. -/
inductive Stop where
  | usage
  | help
  | version
  deriving DecidableEq

/-- What an argument looks like before its meaning is known. -/
inductive Argument where
  | escape
  | long (name : String) (value : Option String)
  | short (letter : Char)
  | plain (text : String)

namespace Argument

/-- A single dash is a plain argument. -/
def ofString (s : String) : Argument :=
  match s.toList with
  | ['-', '-'] => escape
  | '-' :: '-' :: rest =>
    match rest.span (· != '=') with
    | (name, []) => long (String.ofList name) none
    | (name, _ :: value) => long (String.ofList name) (some (String.ofList value))
  | '-' :: letter :: _ => short letter
  | _ => plain s

end Argument

structure OptionShape where
  name : String
  isPath : Bool
  repeats : Bool

/-- The options and positional arguments of a command; each positional argument is a path or not. -/
structure CommandShape where
  options : List OptionShape
  arePaths : List Bool

/-- The arguments that a command was given. -/
structure Given where
  options : List (String × String)
  positionals : List String

namespace Given

def empty : Given := ⟨[], []⟩

def option? (g : Given) (name : String) : Option String :=
  g.options.lookup name

/-- Takes the value of an option. Paths are never empty, and most options are given once. -/
def takeOption (g : Given) (o : OptionShape) (value : String) : Except Stop Given :=
  if o.isPath ∧ value = "" then .error .usage
  else if !o.repeats ∧ (g.option? o.name).isSome then .error .usage
  else .ok { g with options := g.options ++ [(o.name, value)] }

/-- Takes a positional argument if there is room for one more. -/
def takePositional (shape : CommandShape) (g : Given) (text : String) : Except Stop Given :=
  match shape.arePaths[g.positionals.length]? with
  | none => .error .usage
  | some isPath =>
    if isPath ∧ text = "" then .error .usage
    else .ok { g with positionals := g.positionals ++ [text] }

end Given

namespace CommandShape

/-- Reads the arguments of a command. -/
def scan (shape : CommandShape) (g : Given) : List String → Except Stop Given
  | [] => .ok g
  | arg :: rest =>
    match Argument.ofString arg with
    | .escape => rest.foldlM (Given.takePositional shape) g
    | .plain text => (g.takePositional shape text).bind fun g => scan shape g rest
    | .short letter => .error (if letter = 'h' then .help else .usage)
    | .long "help" none => .error .help
    | .long name value =>
      match shape.options.find? fun o => o.name == name with
      | none => .error .usage
      | some o =>
        match value, rest with
        | some value, rest => (g.takeOption o value).bind fun g => scan shape g rest
        | none, next :: rest =>
          match Argument.ofString next with
          | .plain value => (g.takeOption o value).bind fun g => scan shape g rest
          | _ => .error .usage
        | none, [] => .error .usage

def config : OptionShape := ⟨"config", true, false⟩

def node : OptionShape := ⟨"node", false, false⟩

def uiState : OptionShape := ⟨"ui-state", false, false⟩

def event : OptionShape := ⟨"event", false, false⟩

def id : OptionShape := ⟨"id", false, true⟩

/-- The shape of every command. -/
def all : List (String × CommandShape) := [
  ("check", ⟨[config], [true]⟩),
  ("eval", ⟨[config, node, uiState, event], [false]⟩),
  ("render", ⟨[config, node, uiState], [true]⟩),
  ("query", ⟨[config, id, node, uiState], [true]⟩),
  ("dispatch", ⟨[config, event, node, uiState], [true, false]⟩)]

end CommandShape

namespace Command

/-- The command with a name on its arguments, unless a required one is missing. -/
def ofGiven? (name : String) (g : Given) : Option Command :=
  let state : StateArguments := ⟨g.option? "node", g.option? "ui-state"⟩
  let ids := (g.options.filter fun o => o.1 == "id").map (·.2)
  match name, g.positionals with
  | "check", [document] => some (check document)
  | "eval", [expr] => some (eval expr state (g.option? "event"))
  | "render", [document] => some (render document state)
  | "query", [document] => if ids = [] then none else some (query document ids state)
  | "dispatch", [document, action] => some (dispatch document action state (g.option? "event"))
  | _, _ => none

end Command

namespace Invocation

/-- The configuration file named before the command. A value from an argument of its own is pending
until the next option or the end of the command. -/
structure Leading where
  config : Option String
  pending : Option String

/-- Takes over the pending value. -/
def Leading.settle (l : Leading) : Except Stop (Option String) :=
  match l.pending with
  | none => .ok l.config
  | some value => if value = "" ∨ l.config.isSome then .error .usage else .ok (some value)

/-- What help is asked for, given the arguments after `help`. -/
def helpOn : List String → Stop
  | [] => .help
  | [name] => if name = "help" ∨ (CommandShape.all.lookup name).isSome then .help else .usage
  | _ => .usage

/-- Reads the command and its arguments. -/
def ofCommand (leading : Leading) (name : String) (args : List String) : Except Stop Invocation :=
  match CommandShape.all.lookup name with
  | none => .error .usage
  | some shape =>
    (shape.scan .empty args).bind fun g =>
      match Command.ofGiven? name g with
      | none => .error .usage
      | some command =>
        leading.settle.map fun config => ⟨(g.option? "config").or config, command⟩

/-- Reads arguments from the front of a command line on. -/
def scan (leading : Leading) : List String → Except Stop Invocation
  | [] => .error .usage
  | arg :: rest =>
    match Argument.ofString arg with
    | .escape => .error .usage
    | .plain "help" => .error (helpOn rest)
    | .plain name => ofCommand leading name rest
    | option =>
      leading.settle.bind fun config =>
        match option, rest with
        | .short 'h', _ => .error .help
        | .short 'V', _ => .error .version
        | .long "help" none, _ => .error .help
        | .long "version" none, _ => .error .version
        | .long "config" (some value), rest =>
          (Leading.settle ⟨config, some value⟩).bind fun config => scan ⟨config, none⟩ rest
        | .long "config" none, next :: rest =>
          match Argument.ofString next with
          | .plain value => scan ⟨config, some value⟩ rest
          | _ => .error .usage
        | _, _ => .error .usage

/-- The invocation that a command line spells. -/
def ofArguments (args : List String) : Except Stop Invocation :=
  scan ⟨none, none⟩ args

end Invocation

end WidgetDoc
