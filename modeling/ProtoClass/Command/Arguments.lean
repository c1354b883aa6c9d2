import ProtoClass.Schema.Scalar

/-!
# Command line arguments

The commands and their options.  An option takes its value from the same argument or from the next one, short flags
can be bundled, and only schema files can be given more than once.
-/

namespace ProtoClass.Command

/-- How classes are shown. -/
inductive Style where
  | text | json
  deriving DecidableEq

/-- The commands: write modules, or show classes. -/
inductive Verb where
  | codegen | analyze
  deriving DecidableEq

/-- The options given. -/
structure Options where
  files : List String := []
  output : Option String := none
  config : Option String := none
  discriminator : Option String := none
  longForm : Option LongForm := none
  style : Option Style := none
  verbose : Bool := false

/-- A command with its options. -/
structure Invocation where
  verb : Verb
  options : Options

/-- Why no command is run. -/
inductive Refusal where
  /-- the arguments ask for help -/
  | help
  /-- the arguments cannot be understood -/
  | usage
  deriving DecidableEq

/-- The names of options. -/
inductive OptionName where
  | files | output | config | discriminator | longForm | style | verbose | help
  deriving DecidableEq

namespace OptionName

/-- An option that a command knows. -/
def belongsTo (verb : Verb) : OptionName → Bool
  | output => verb = .codegen
  | style => verb = .analyze
  | _ => true

def ofLong? (verb : Verb) (word : String) : Option OptionName :=
  let name := [("files", files), ("output", output), ("config", config), ("discriminator", discriminator),
    ("long-repr", longForm), ("format", style), ("verbose", verbose), ("help", help)].lookup word
  name.filter (·.belongsTo verb)

def ofShort? (verb : Verb) (c : Char) : Option OptionName :=
  let name := [('f', files), ('o', output), ('c', config), ('v', verbose), ('h', help)].lookup c
  name.filter (·.belongsTo verb)

def takesValue : OptionName → Bool
  | verbose | help => false
  | _ => true

end OptionName

namespace Options

/-- Sets an option that must not have been set before. -/
private def once {α : Type} (old : Option α) (value : Option α) : Except Refusal (Option α) :=
  match old, value with
  | none, some a => .ok (some a)
  | _, _ => .error .usage

/-- A path; it cannot be empty. -/
private def path? (value : String) : Option String :=
  if value.isEmpty then none else some value

private def style? (word : String) : Option Style :=
  if word = "text" then some .text else if word = "json" then some .json else none

/-- Gives an option its value. -/
def set (options : Options) (name : OptionName) (value : String) : Except Refusal Options := do
  match name with
  | .files =>
    match path? value with
    | some path => return { options with files := options.files ++ [path] }
    | none => throw .usage
  | .output => return { options with output := ← once options.output (path? value) }
  | .config => return { options with config := ← once options.config (path? value) }
  | .discriminator => return { options with discriminator := ← once options.discriminator (some value) }
  | .longForm => return { options with longForm := ← once options.longForm (LongForm.ofKeyword? value) }
  | .style => return { options with style := ← once options.style (style? value) }
  | .verbose | .help => throw .usage

/-- Switches a flag on. -/
def switch (options : Options) : OptionName → Except Refusal Options
  | .verbose => if options.verbose then .error .usage else .ok { options with verbose := true }
  | .help => .error .help
  | _ => .error .usage

end Options

/-- An argument that can be the value of the option in front of it. -/
def isValue (arg : String) : Bool :=
  arg == "-" || arg.toList.head? != some '-'

/-- An option that waits for its value, which is the next argument. -/
abbrev Waiting := Option OptionName

/-- Reads a bundle of short options after its hyphen.  The last of them may take the rest of the bundle as value, or
wait for one. -/
def readBundle (verb : Verb) (options : Options) : List Char → Except Refusal (Options × Waiting)
  | [] => .ok (options, none)
  | c :: rest =>
    match OptionName.ofShort? verb c with
    | none => .error .usage
    | some name =>
      if name.takesValue then
        match rest with
        | [] => .ok (options, some name)
        | '=' :: value => (options.set name (String.ofList value)).map (·, none)
        | value => (options.set name (String.ofList value)).map (·, none)
      else
        match options.switch name with
        | .error refusal => .error refusal
        | .ok options => readBundle verb options rest

/-- Reads a long option after its hyphens. -/
def readLong (verb : Verb) (options : Options) (text : List Char) : Except Refusal (Options × Waiting) :=
  let word := String.ofList (text.takeWhile (· != '='))
  match OptionName.ofLong? verb word, text.dropWhile (· != '=') with
  | none, _ => .error .usage
  | some name, [] => if name.takesValue then .ok (options, some name) else (options.switch name).map (·, none)
  | some name, _ :: value => (options.set name (String.ofList value)).map (·, none)

/-- Reads the arguments of a command.  Two hyphens end the options, and nothing may follow them. -/
def readOptions (verb : Verb) : Options → Waiting → List String → Except Refusal Options
  | options, none, [] => .ok options
  | _, some _, [] => .error .usage
  | options, some name, arg :: rest =>
    if isValue arg then do
      let options ← options.set name arg
      readOptions verb options none rest
    else .error .usage
  | options, none, arg :: rest =>
    match arg.toList with
    | ['-', '-'] => if rest.isEmpty then .ok options else .error .usage
    | '-' :: '-' :: text => do
      let (options, waiting) ← readLong verb options text
      readOptions verb options waiting rest
    | '-' :: c :: bundle => do
      let (options, waiting) ← readBundle verb options (c :: bundle)
      readOptions verb options waiting rest
    | _ => .error .usage

/-- Reads the options of a command, among which there must be a schema file. -/
def Invocation.read (verb : Verb) (args : List String) : Except Refusal Invocation := do
  let options ← readOptions verb {} none args
  if options.files.isEmpty then throw .usage
  return ⟨verb, options⟩

/-- Reads the arguments of the program: a command, then its options. -/
def Invocation.ofArguments : List String → Except Refusal Invocation
  | "codegen" :: args => Invocation.read .codegen args
  | "analyze" :: args => Invocation.read .analyze args
  | "--help" :: _ => .error .help
  | ["help"] | ["help", "codegen"] | ["help", "analyze"] | ["help", "help"] => .error .help
  | first :: _ =>
    match first.toList with
    | '-' :: 'h' :: _ => .error .help
    | _ => .error .usage
  | [] => .error .usage

end ProtoClass.Command
