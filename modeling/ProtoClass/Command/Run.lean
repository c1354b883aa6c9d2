import ProtoClass.Class.Document
import ProtoClass.Command.Arguments
import ProtoClass.Json.Printer
import ProtoClass.Load
import ProtoClass.Module.Emission
import ProtoClass.Settings

/-!
# Running commands

A command reads its settings first and its schema files second.  A failure is reported with what was being done and the
reasons behind it.
-/

namespace ProtoClass.Command

/-- What was being done when a command failed, and the reasons, the nearest first. -/
structure Failure where
  context : String
  causes : List String

namespace Failure

/-- A reason behind a mark; its further lines are indented as far as the mark goes. -/
private def causeText (mark margin cause : String) : String :=
  mark ++ Text.joinWith ("\n" ++ margin) (linesOf cause)
where
  linesOf (text : String) : List String := cut [] text.toList
  cut (current : List Char) : List Char → List String
    | [] => [String.ofList current.reverse]
    | c :: rest => if c = '\n' then String.ofList current.reverse :: cut [] rest else cut (c :: current) rest

/-- A number, right-aligned in five columns. -/
private def numberMark (n : Nat) : String :=
  let digits := (toString n).toList
  String.ofList (List.replicate (5 - digits.length) ' ' ++ digits) ++ ": "

/-- The report of a failure.  A single reason is only indented, several are numbered. -/
def report (failure : Failure) : String :=
  let causes :=
    match failure.causes with
    | [] => []
    | [cause] => ["", "Caused by:", causeText "    " "    " cause]
    | causes => "" :: "Caused by:" :: causes.zipIdx.map fun (cause, n) => causeText (numberMark n) "       " cause
  "Error: " ++ Text.joinWith "\n" (failure.context :: causes) ++ "\n"

def ofLoad (e : LoadError) : Failure := ⟨"failed to load schema inputs", e.message :: e.causes⟩

def ofConfig (context : String) (e : ConfigError) : Failure := ⟨context, e.message :: e.causes⟩

def ofEmit (dir : String) (e : EmitError) : Failure :=
  ⟨"code generation into " ++ dir ++ " failed", e.message :: e.causes⟩

def ofGen (e : GenError) : Failure := ⟨"failed to build class shapes", [e.message]⟩

end Failure

/-- What a run of the program shows. -/
structure Outcome where
  exitCode : Nat
  output : String
  errors : String

/-- The text that shows classes. -/
def analysisText (fileCount : Nat) (classes : List ClassDecl) : String :=
  "Schema Analysis\n===============\n\n"
    ++ "[~] " ++ toString fileCount ++ " file(s), " ++ toString classes.length ++ " message(s)\n\n"
    ++ Text.concat (classes.map fun decl => "// " ++ decl.identity.name ++ "\n" ++ decl.render ++ "\n")

/-- Classes in the style asked for. -/
def showClasses (style : Style) (fileCount : Nat) (classes : List ClassDecl) : String :=
  match style with
  | .text => analysisText fileCount classes
  | .json => (Json.arr (classes.map ClassDecl.toJson)).pretty ++ "\n"

/-- The output directory if none is given. -/
def defaultOutput : String := "generated"

variable {m : Type → Type} [Monad m] [FileStore m]

/-- The settings that the options ask for. -/
def settings (options : Options) : m (Except Failure Config) := do
  let base : Except Failure Config ←
    match options.config with
    | none => pure (.ok {})
    | some path => do
      match ← Config.load path with
      | .ok config => pure (.ok config)
      | .error e => pure (.error (.ofConfig ("failed to load config " ++ path) e))
  return base.bind fun config =>
    match config.withOverrides options.discriminator options.longForm with
    | .ok config => .ok config
    | .error e => .error (.ofConfig "invalid generator configuration" e)

/-- Generates the modules and tells how many were written. -/
def codegen (generator : Generator) (dir : String) : m (Except Failure String) := do
  match ← generator.emit dir {} with
  | (.ok written, _) =>
    return .ok ("[✓] Generated " ++ toString written.length ++ " TypeScript file(s) in " ++ dir ++ "\n")
  | (.error e, _) => return .error (.ofEmit dir e)

/-- Shows the classes. -/
def analyze (generator : Generator) (style : Style) : Except Failure String :=
  match (generator.classes.run {}).1 with
  | .ok classes => .ok (showClasses style generator.schema.files.length classes)
  | .error e => .error (.ofGen e)

/-- Runs a command; the result is what it prints. -/
def Invocation.run (invocation : Invocation) : m (Except Failure String) := do
  let options := invocation.options
  match ← settings options with
  | .error failure => return .error failure
  | .ok config =>
    match ← loadFiles options.files with
    | .error e => return .error (.ofLoad e)
    | .ok schema =>
      match invocation.verb with
      | .codegen => codegen ⟨schema, config⟩ (options.output.getD defaultOutput)
      | .analyze => return analyze ⟨schema, config⟩ (options.style.getD .text)

/-- How the program is used. -/
def usage : String :=
  "Usage: proto-gen codegen -f FILE... [-o DIR] [-c FILE] [--discriminator NAME] [--long-repr FORM] [-v]\n"
    ++ "       proto-gen analyze -f FILE... [-c FILE] [--discriminator NAME] [--long-repr FORM] [--format STYLE] [-v]\n"

/-- Runs the program with its arguments. -/
def execute (args : List String) : m Outcome := do
  match Invocation.ofArguments args with
  | .error .help => return ⟨0, usage, ""⟩
  | .error .usage => return ⟨2, "", usage⟩
  | .ok invocation =>
    match ← invocation.run with
    | .ok output => return ⟨0, output, ""⟩
    | .error failure => return ⟨1, "", failure.report⟩

end ProtoClass.Command
