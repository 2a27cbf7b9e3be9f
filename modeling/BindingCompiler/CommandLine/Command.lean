import BindingCompiler.CommandLine.Arguments
import BindingCompiler.Kind

/-!
# `BindingCompiler.CommandLine.Command`: commands

A command line names one command, with its options and operands after
it. The options for the amount and the form of what is printed can stand
on both sides of the name; what stands after it counts more.
-/

set_option autoImplicit false

namespace BindingCompiler.CommandLine

/-- The form in which results are printed. -/
inductive Format where
  | text
  | json
  deriving DecidableEq, Repr

/-- The form that a word names. -/
def Format.ofWord? : String → Option Format
  | "text" => some .text
  | "json" => some .json
  | _ => none

/-- A command. A configuration that is optional adds to the built-in kinds. -/
inductive Command where
  /-- Lists the kinds. -/
  | kinds (config? : Option String)
  /-- Says what a kind stands for. -/
  | describe (kind : Kind) (config? : Option String)
  /-- Validates the marked classes. -/
  | check (config : String)
  /-- Writes the bindings of the marked classes. -/
  | generate (config out : String) (withPlans : Bool)
  deriving DecidableEq, Repr

namespace Command

/-- The configuration of a command. -/
def config? : Command → Option String
  | .kinds config? | .describe _ config? => config?
  | .check config | .generate config _ _ => some config

/-- The directory that a command writes to. -/
def out? : Command → Option String
  | .generate _ out _ => some out
  | .kinds _ | .describe _ _ | .check _ => none

end Command

/-- A command and how its results are printed. -/
structure Invocation where
  command : Command
  format : Format
  isVerbose : Bool
  deriving DecidableEq, Repr

/-- The names of the commands. -/
inductive CommandName where
  | kinds
  | describe
  | check
  | generate
  deriving DecidableEq, Repr

/-- The configuration that is meant when none is given. -/
def defaultConfig : String := "sento.lua"

/-- The options that every command takes. -/
def commonOptions : List OptionName := [.verbose, .format, .help]

/-- What stands before the name of a command. -/
def outerSignature : Signature where
  options := commonOptions ++ [.version]
  operands := []
  hasCommands := true

namespace CommandName

/-- The word for a command. -/
def word : CommandName → String
  | .kinds => "kinds"
  | .describe => "describe"
  | .check => "check"
  | .generate => "generate"

/-- All commands. -/
def all : List CommandName := [.kinds, .describe, .check, .generate]

/-- The command that a word names. -/
def ofWord? (word : String) : Option CommandName := all.find? fun name => name.word == word

/-- What a command takes. -/
def signature : CommandName → Signature
  | .kinds => { options := .config :: commonOptions, operands := [] }
  | .describe => { options := .config :: commonOptions, operands := [.kind] }
  | .check => { options := commonOptions, operands := [.config] }
  | .generate => { options := .out :: .plan :: commonOptions, operands := [.config] }

/-- The command of some arguments. -/
def command (name : CommandName) (a : Arguments) : Except UsageFault Command :=
  let config := (a.operand? .config).getD defaultConfig
  match name with
  | .kinds => .ok (.kinds (a.option? .config))
  | .describe =>
    match a.operand? .kind with
    | some kind => .ok (.describe ⟨kind⟩ (a.option? .config))
    | none => .error (.missing Operand.kind.word)
  | .check => .ok (.check config)
  | .generate =>
    match a.option? .out with
    | some out => .ok (.generate config out (a.has .plan))
    | none => .error (.missing ("--" ++ OptionName.out.word))

end CommandName

namespace Invocation

/-- The invocation of a command by its arguments and those before its name. -/
def ofArguments (name : CommandName) (outer inner : Arguments) :
    Except UsageFault Invocation := do
  -- The format nearest to the command counts; being verbose is never taken back.
  let format? := (inner.option? .format <|> outer.option? .format).bind Format.ofWord?
  return {
    command := ← name.command inner
    format := format?.getD .text
    isVerbose := inner.has .verbose || outer.has .verbose }

/-- Help for a command, or for all. -/
def helpFor : List String → Interruption
  | [] => .help
  | word :: rest =>
    match CommandName.ofWord? word, rest with
    | some _, [] => .help
    | some _, word :: _ => .misuse (.unknownCommand word)
    | none, _ => if word = "help" ∧ rest = [] then .help else .misuse (.unknownCommand word)

/-- The invocation that the words of a command line stand for. -/
def parse (words : List String) : Except Interruption Invocation := do
  match ← Arguments.scan outerSignature none {} words with
  | (_, []) => throw (.misuse .missingCommand)
  | (_, "help" :: rest) => throw (helpFor rest)
  | (outer, word :: rest) =>
    match CommandName.ofWord? word with
    | none => throw (.misuse (.unknownCommand word))
    | some name =>
      let (inner, _) ← Arguments.scan name.signature none {} rest
      (ofArguments name outer inner).mapError .misuse

end Invocation

end BindingCompiler.CommandLine
