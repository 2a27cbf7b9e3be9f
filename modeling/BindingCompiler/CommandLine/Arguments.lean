import BindingCompiler.CommandLine.Word

/-!
# `BindingCompiler.CommandLine.Arguments`: options and operands

A signature lists the options and the operands that a command takes.
The words are read from the left; the first that does not fit ends the
reading. An option is given once at most. Its value stands in its word,
or is the next word if that is plain.

* `give_options`: an option that is accepted was not given before and
  has a fitting value.
* `scan_suffix`: the words that reading leaves are the last ones.
-/

set_option autoImplicit false

namespace BindingCompiler.CommandLine

/-! ### What can be given -/

/-- The options of the commands. -/
inductive OptionName where
  | help
  | version
  | verbose
  | format
  | config
  | out
  | plan
  deriving DecidableEq, Repr

namespace OptionName

/-- The name after two dashes. -/
def word : OptionName → String
  | .help => "help"
  | .version => "version"
  | .verbose => "verbose"
  | .format => "format"
  | .config => "config"
  | .out => "out"
  | .plan => "plan"

/-- The letter after one dash. -/
def letter? : OptionName → Option Char
  | .help => some 'h'
  | .version => some 'V'
  | .verbose => some 'v'
  | .config => some 'c'
  | .out => some 'o'
  | .format | .plan => none

/-- Whether the option has a value. -/
def takesValue : OptionName → Bool
  | .format | .config | .out => true
  | .help | .version | .verbose | .plan => false

/-- Whether a value fits: formats are known ones, paths are not empty. -/
def accepts : OptionName → String → Bool
  | .format, value => value == "text" || value == "json"
  | .config, value | .out, value => !value.isEmpty
  | _, _ => true

end OptionName

/-- What is given without an option. -/
inductive Operand where
  | kind
  | config
  deriving DecidableEq, Repr

namespace Operand

/-- The word for an operand. -/
def word : Operand → String
  | .kind => "kind"
  | .config => "config"

/-- Whether a value fits: paths are not empty. -/
def accepts : Operand → String → Bool
  | .kind, _ => true
  | .config, value => !value.isEmpty

end Operand

/-- What a command takes. -/
structure Signature where
  options : List OptionName
  operands : List Operand
  /-- Whether a plain word begins a command of its own. -/
  hasCommands : Bool := false
  deriving DecidableEq, Repr

/-! ### What is wrong -/

/-- How a command line fails to be one. -/
inductive UsageFault where
  | unknownOption (word : String)
  | repeated (option : OptionName)
  | missingValue (option : OptionName)
  | needlessValue (option : OptionName)
  | unfitValue (name value : String)
  | unexpected (word : String)
  | unknownCommand (word : String)
  | missingCommand
  | missing (name : String)
  deriving DecidableEq, Repr

/-- A fault in words. -/
def UsageFault.message : UsageFault → String
  | .unknownOption word => s!"unexpected argument '{word}' found"
  | .repeated option => s!"the argument '--{option.word}' cannot be used multiple times"
  | .missingValue option => s!"a value is required for '--{option.word}' but none was supplied"
  | .needlessValue option => s!"the argument '--{option.word}' takes no value"
  | .unfitValue name value => s!"invalid value '{value}' for '{name}'"
  | .unexpected word => s!"unexpected argument '{word}' found"
  | .unknownCommand word => s!"unrecognized subcommand '{word}'"
  | .missingCommand => "a subcommand is required but none was supplied"
  | .missing name => s!"the required argument '{name}' was not provided"

/-- Why the reading of a command line ends without a command to run. -/
inductive Interruption where
  | help
  | version
  | misuse (fault : UsageFault)
  deriving DecidableEq, Repr

/-! ### Reading -/

/-- What was given so far. -/
structure Arguments where
  options : List (OptionName × String) := []
  operands : List (Operand × String) := []
  deriving DecidableEq, Repr

namespace Arguments

/-- The value of an option. -/
def option? (a : Arguments) (name : OptionName) : Option String := a.options.lookup name

/-- Whether an option is given. -/
def has (a : Arguments) (name : OptionName) : Bool := (a.option? name).isSome

/-- The value of an operand. -/
def operand? (a : Arguments) (name : Operand) : Option String := a.operands.lookup name

/-- Takes an option; options without values have an empty one. -/
def give (a : Arguments) (name : OptionName) (value : String) : Except Interruption Arguments :=
  match name with
  | .help => .error .help
  | .version => .error .version
  | name =>
    if a.has name then .error (.misuse (.repeated name))
    else if name.accepts value then .ok { a with options := (name, value) :: a.options }
    else .error (.misuse (.unfitValue ("--" ++ name.word) value))

/-- Takes an operand, the next one of the signature. -/
def add (a : Arguments) (s : Signature) (value : String) : Except Interruption Arguments :=
  match s.operands[a.operands.length]? with
  | none => .error (.misuse (.unexpected value))
  | some name =>
    if name.accepts value then .ok { a with operands := a.operands ++ [(name, value)] }
    else .error (.misuse (.unfitValue name.word value))

/-- Takes operands in a row. -/
def addAll (a : Arguments) (s : Signature) (values : List String) :
    Except Interruption Arguments :=
  values.foldlM (fun a value => a.add s value) a

/-- Takes a cluster of letters; also the option whose value is still to come. -/
def giveCluster (s : Signature) : Arguments → List Char →
    Except Interruption (Arguments × Option OptionName)
  | a, [] => .ok (a, none)
  | a, c :: rest =>
    match s.options.find? fun name => name.letter? == some c with
    | none => .error (.misuse (.unknownOption ("-" ++ String.singleton c)))
    | some name =>
      if name.takesValue then
        -- The rest of the word is the value, an equals sign before it dropped.
        match rest with
        | [] => .ok (a, some name)
        | '=' :: value => (a.give name (String.ofList value)).map fun a => (a, none)
        | value => (a.give name (String.ofList value)).map fun a => (a, none)
      else do giveCluster s (← a.give name "") rest

/-- Takes an option by its name; also the option if its value is still to come. -/
def giveNamed (a : Arguments) (s : Signature) (word : String) (value? : Option String) :
    Except Interruption (Arguments × Option OptionName) :=
  match s.options.find? fun name => name.word == word with
  | none => .error (.misuse (.unknownOption ("--" ++ word)))
  | some name =>
    match name.takesValue, value? with
    | true, some value => (a.give name value).map fun a => (a, none)
    | true, none => .ok (a, some name)
    | false, some _ => .error (.misuse (.needlessValue name))
    | false, none => (a.give name "").map fun a => (a, none)

/-- Reads words; `pending?` is the option whose value comes next. Gives
the words that are left to a command in the line too. -/
def scan (s : Signature) (pending? : Option OptionName) (a : Arguments) :
    List String → Except Interruption (Arguments × List String)
  | [] =>
    match pending? with
    | some name => .error (.misuse (.missingValue name))
    | none => .ok (a, [])
  | text :: rest =>
    match pending?, Word.ofString text with
    -- Nothing that begins with a dash is the value of another word.
    | some name, .plain value => do scan s none (← a.give name value) rest
    | some name, _ => .error (.misuse (.missingValue name))
    | none, .plain value =>
      if s.hasCommands then .ok (a, text :: rest) else do scan s none (← a.add s value) rest
    | none, .endOfOptions => (a.addAll s rest).map fun a => (a, [])
    | none, .option name value? => do
      let (a, pending?) ← a.giveNamed s name value?
      scan s pending? a rest
    | none, .cluster letters => do
      let (a, pending?) ← giveCluster s a letters
      scan s pending? a rest

/-! ### What reading keeps -/

/-- An option that is accepted was not given before and has a fitting value. -/
theorem give_options {a b : Arguments} {name : OptionName} {value : String}
    (h : a.give name value = .ok b) :
    b.options = (name, value) :: a.options ∧ a.has name = false ∧ name.accepts value = true := by
  unfold give at h
  split at h
  · exact absurd h (by simp)
  · exact absurd h (by simp)
  · split at h
    · exact absurd h (by simp)
    · rename_i hnew
      split at h
      · rename_i hfit
        simp only [Except.ok.injEq] at h
        subst h
        exact ⟨rfl, by simpa using hnew, hfit⟩
      · exact absurd h (by simp)

/-- Two steps succeed if the first does, and the second from its result. -/
theorem exists_ok_of_bind {α β : Type} {x : Except Interruption α}
    {f : α → Except Interruption β} {b : β} (h : x >>= f = .ok b) : ∃ a, f a = .ok b := by
  cases x with
  | error e => exact absurd h (by simp [bind, Except.bind])
  | ok a => exact ⟨a, h⟩

/-- The words that reading leaves are the last ones. -/
theorem scan_suffix {s : Signature} {pending? : Option OptionName} {a b : Arguments}
    {words rest : List String} (h : scan s pending? a words = .ok (b, rest)) :
    rest <:+ words := by
  induction words generalizing pending? a with
  | nil =>
      unfold scan at h
      split at h
      · exact absurd h (by simp)
      · simp only [Except.ok.injEq, Prod.mk.injEq] at h
        simp [← h.2]
  | cons text words ih =>
      have later {pending? : Option OptionName} {a : Arguments}
          (h : scan s pending? a words = .ok (b, rest)) : rest <:+ text :: words :=
        (ih h).trans (List.suffix_cons text words)
      unfold scan at h
      split at h
      · obtain ⟨_, hc⟩ := exists_ok_of_bind h
        exact later hc
      · exact absurd h (by simp)
      · split at h
        · simp only [Except.ok.injEq, Prod.mk.injEq] at h
          simp [← h.2]
        · obtain ⟨_, hc⟩ := exists_ok_of_bind h
          exact later hc
      · cases hall : a.addAll s words with
        | error e =>
            rw [hall] at h
            exact absurd h (by simp [Except.map])
        | ok c =>
            rw [hall] at h
            simp only [Except.map, Except.ok.injEq, Prod.mk.injEq] at h
            simp [← h.2]
      · obtain ⟨_, hc⟩ := exists_ok_of_bind h
        exact later hc
      · obtain ⟨_, hc⟩ := exists_ok_of_bind h
        exact later hc

end Arguments

end BindingCompiler.CommandLine
