import ControlPlane.Identity.AccountType
import ControlPlane.Number.Extended
import ControlPlane.Number.Words

/-!
# Command-line arguments

Arguments are options, the name of a command, and the operands of that command. Options that
hold for every command may stand before or after its name, and count there if given twice. An
option may be given once at each of the two places; its value follows it as the next argument or
after an equals sign, and with a short name also at once. After `--` there are only operands.

Arguments are read one by one (`Reading.next`), and the result is checked for what is missing
(`Reading.finish`).

Main statements: a usage error is never undone by what follows (`read_error`), and no arguments
are a usage error (`read_nil`).
-/
namespace ControlPlane.CommandLine

/-- A command that is to be called. -/
structure CallRequest where
  command : String
  /-- Texts `name=value`. -/
  pairs : List String
  isAsync : Bool
  /-- How often the command is submitted. -/
  times : Nat
  workers : Option Nat
  /-- Seconds between submissions. -/
  interval : Number.Extended
  deriving DecidableEq, Repr

/-- What the program is asked to do. -/
inductive Invocation where
  | whoami
  | userKeys (account domain : String) (accountType : AccountType) (showSecret : Bool)
  | call (request : CallRequest)
  | completions (shell : String)
  deriving DecidableEq, Repr

/-- Arguments that make sense. -/
structure Arguments where
  configPath : Option String
  output : String
  invocation : Invocation
  deriving DecidableEq, Repr

/-- Why arguments are not carried out. -/
inductive Refusal where
  /-- They make no sense. -/
  | usage
  /-- They ask for help, or for the version. -/
  | information
  deriving DecidableEq, Repr

/-- The names of commands. -/
inductive CommandName where
  | whoami
  | userKeys
  | call
  | completions
  | help
  deriving DecidableEq, Repr

/-- The command of a name. -/
def CommandName.ofText? : String → Option CommandName
  | "whoami" => some .whoami
  | "user-keys" => some .userKeys
  | "call" => some .call
  | "completions" => some .completions
  | "help" => some .help
  | _ => none

/-- The options. -/
inductive OptionName where
  | config
  | output
  | logLevel
  | logDirectory
  | account
  | domain
  | accountType
  | showSecret
  | asynchronous
  | times
  | workers
  | interval
  | information
  deriving DecidableEq, Repr

namespace OptionName

/-- Whether an option is followed by a value. -/
def takesValue : OptionName → Bool
  | .showSecret | .asynchronous | .information => false
  | _ => true

/-- The long names of options, with the command they belong to if they do not hold for all. -/
def longNames : List (String × Option CommandName × OptionName) :=
  [("config", none, .config), ("output", none, .output), ("log-level", none, .logLevel),
    ("log-dir", none, .logDirectory), ("help", none, .information),
    ("version", none, .information), ("account", some .userKeys, .account),
    ("domain", some .userKeys, .domain), ("account-type", some .userKeys, .accountType),
    ("show-secret", some .userKeys, .showSecret), ("async", some .call, .asynchronous),
    ("repeat", some .call, .times), ("workers", some .call, .workers),
    ("interval", some .call, .interval)]

/-- The short names of options. -/
def shortNames : List (Char × Option CommandName × OptionName) :=
  [('c', none, .config), ('o', none, .output), ('h', none, .information),
    ('V', none, .information), ('a', some .userKeys, .account), ('d', some .userKeys, .domain),
    ('t', some .userKeys, .accountType), ('r', some .call, .times), ('w', some .call, .workers),
    ('i', some .call, .interval)]

/-- The option of a name where a command, or none yet, has been named. -/
def find? {α : Type} [DecidableEq α] (names : List (α × Option CommandName × OptionName))
    (command : Option CommandName) (name : α) : Option OptionName :=
  (names.find? fun (known, owner, _) => known = name && (owner.isNone || owner == command)).map
    fun (_, _, option) => option

end OptionName

/-- The greatest count. -/
def countLimit : Nat := Number.greatest64

/-- The shells that completions can be written for. -/
def shells : List String := ["bash", "elvish", "fish", "powershell", "zsh"]

/-- Whether a text is a value for an option. -/
def accepts : OptionName → String → Bool
  | .config, value | .logDirectory, value => !value.isEmpty
  | .accountType, value => (AccountType.named? value).isSome
  | .times, value | .workers, value => (Number.readUnsigned countLimit value.toList).isSome
  | .interval, value => (Number.Extended.read value).isSome
  | _, _ => true

/-- Options with their values. -/
abbrev Given := List (OptionName × String)

/-- How far the arguments have been read. -/
structure Reading where
  command : Option CommandName := none
  /-- The options before the name of the command. -/
  outer : Given := []
  /-- The options read since. -/
  given : Given := []
  /-- The operands, the last one first. -/
  operands : List String := []
  /-- An option whose value comes next. -/
  pending : Option OptionName := none
  onlyOperands : Bool := false

namespace Reading

/-- Adds an option with its value. -/
def addOption (state : Reading) (option : OptionName) (value : String) :
    Except Refusal Reading :=
  if option = .information then throw .information
  else if state.given.any (fun given => given.1 = option) || !accepts option value then
    throw .usage
  else return { state with given := (option, value) :: state.given, pending := none }

/-- The greatest number of operands of a command. -/
def operandLimit : Option CommandName → Option Nat
  | some .call | some .help => none
  | some .completions => some 1
  | _ => some 0

/-- Adds an operand. -/
def addOperand (state : Reading) (operand : String) : Except Refusal Reading :=
  let isFull := match operandLimit state.command with
    | some limit => decide (limit ≤ state.operands.length)
    | none => false
  let isUnknownShell := state.command = some .completions && !shells.contains operand
  if isFull || isUnknownShell then throw .usage
  else return { state with operands := operand :: state.operands }

/-- Goes on with an option that stands alone or takes a value. -/
def openOption (state : Reading) (option : OptionName) (value : Option String) :
    Except Refusal Reading :=
  if option.takesValue then
    match value with
    | some value => state.addOption option value
    | none =>
      if state.given.any (fun given => given.1 = option) then throw .usage
      else return { state with pending := some option }
  else
    match value with
    | some _ => throw .usage
    | none => state.addOption option ""

/-- Reads an option with a long name. -/
def readLong (state : Reading) (body : List Char) : Except Refusal Reading :=
  let (name, value) := (body.takeWhile (· != '='), body.dropWhile (· != '='))
  match OptionName.find? OptionName.longNames state.command (String.ofList name) with
  | none => throw .usage
  | some option =>
    state.openOption option <| match value with
      | _ :: rest => some (String.ofList rest)
      | [] => none

/-- A value that follows a short name at once. -/
def attachedValue (cs : List Char) : String :=
  match cs with
  | '=' :: rest => String.ofList rest
  | _ => String.ofList cs

/-- Reads options with short names. -/
def readShort (state : Reading) : List Char → Except Refusal Reading
  | [] => return state
  | c :: rest =>
    match OptionName.find? OptionName.shortNames state.command c with
    | none => throw .usage
    | some option =>
      if option.takesValue then
        state.openOption option (if rest.isEmpty then none else some (attachedValue rest))
      else do
        let state ← state.addOption option ""
        state.readShort rest

/-- Reads an argument that is no option. -/
def readWord (state : Reading) (word : String) : Except Refusal Reading :=
  match state.command with
  | some _ => state.addOperand word
  | none =>
    match CommandName.ofText? word with
    | some command =>
      return { state with command := some command, outer := state.given, given := [] }
    | none => throw .usage

/-- Reads one argument. -/
def next (state : Reading) (argument : String) : Except Refusal Reading :=
  if state.onlyOperands then
    if state.command.isNone then throw .usage else state.addOperand argument
  else if state.command = some .help then state.addOperand argument
  else
    match argument.toList, state.pending with
    | ['-', '-'], none => return { state with onlyOperands := true }
    | '-' :: '-' :: _, some _ => throw .usage
    | '-' :: '-' :: body, none => state.readLong body
    | '-' :: _ :: _, some _ => throw .usage
    | '-' :: body@(_ :: _), none => state.readShort body
    | _, some option => state.addOption option argument
    | _, none => state.readWord argument

/-- The value of an option: the one after the name of the command wins. -/
def value? (state : Reading) (option : OptionName) : Option String :=
  ((state.given ++ state.outer).find? fun given => given.1 = option).map (·.2)

/-- Whether an option is given. -/
def has (state : Reading) (option : OptionName) : Bool :=
  (state.value? option).isSome

/-- A count that is given. -/
def count? (state : Reading) (option : OptionName) : Option Nat :=
  (state.value? option).bind fun value => Number.readUnsigned countLimit value.toList

/-- What the program is asked to do, when nothing is missing. -/
def invocation? (state : Reading) : Except Refusal Invocation :=
  match state.command, state.operands.reverse with
  | some .whoami, _ => return .whoami
  | some .userKeys, _ =>
    match state.value? .account, state.value? .domain with
    | some account, some domain =>
      let accountType := ((state.value? .accountType).bind AccountType.named?).getD .normal
      return .userKeys account domain accountType (state.has .showSecret)
    | _, _ => throw .usage
  | some .call, command :: pairs =>
    return .call
      { command, pairs
        isAsync := state.has .asynchronous
        times := (state.count? .times).getD 1
        workers := state.count? .workers
        interval := ((state.value? .interval).bind Number.Extended.read).getD
          (.finite (Number.Binary64.zero false)) }
  | some .completions, shell :: _ => return .completions shell
  | some .help, [] => throw .information
  | some .help, [name] =>
    if (CommandName.ofText? name).isSome then throw .information else throw .usage
  | _, _ => throw .usage

/-- The arguments, when nothing is missing. -/
def finish (state : Reading) : Except Refusal Arguments := do
  if state.pending.isSome then throw .usage
  let invocation ← state.invocation?
  return { configPath := state.value? .config, output := (state.value? .output).getD "table",
           invocation }

end Reading

/-- Reads arguments. -/
def Arguments.read (arguments : List String) : Except Refusal Arguments := do
  let state ← arguments.foldlM Reading.next {}
  state.finish

/-! ## Refusals -/

theorem read_nil : Arguments.read [] = .error .usage := rfl

theorem foldlM_error {state : Reading} {argument : String} {rest : List String}
    {refusal : Refusal} (h : state.next argument = .error refusal) :
    (argument :: rest).foldlM Reading.next state = .error refusal := by
  simp [List.foldlM, h, bind, Except.bind]

theorem read_error {argument : String} {rest : List String} {refusal : Refusal}
    (h : Reading.next {} argument = .error refusal) :
    Arguments.read (argument :: rest) = .error refusal := by
  unfold Arguments.read
  rw [foldlM_error h]
  rfl

end ControlPlane.CommandLine
