import KernelTrace.Command.Options

namespace KernelTrace

inductive Command
  | dump (options : Options)
  | tasks (trace : String)
  | stats (trace : String)
  deriving DecidableEq, Repr

structure Invocation where
  config : Option String
  command : Command
  deriving DecidableEq, Repr

inductive Halt
  | usage
  | help
  | version
  deriving DecidableEq, Repr

/-- What is read so far. `outer` holds the options before the command's name. -/
structure ArgumentState where
  command : Option CommandName := none
  outer : Options := {}
  options : Options := {}
  waiting : Option OptionSpec := none
  /-- Set by `--`, after which there are no options. -/
  closed : Bool := false
  topics : Option (List String) := none
  deriving DecidableEq, Repr

namespace ArgumentState

def isOption (arg : List Char) : Bool := arg.head? = some '-' && arg ≠ ['-']

def isNegative : List Char → Bool
  | '-' :: digits => !digits.isEmpty && digits.all Char.isDigit
  | _ => false

def give (state : ArgumentState) (spec : OptionSpec) (value : List Char) :
    Except Halt ArgumentState :=
  match state.options.add? state.command spec.name value with
  | none => .error .usage
  | some options => .ok { state with options, waiting := none }

def specs (state : ArgumentState) : List OptionSpec := optionSpecs state.command

/-- Letters after a single dash: options without values, the last of them with one or not. -/
def letters (state : ArgumentState) : List Char → Except Halt ArgumentState
  | [] => .ok state
  | letter :: rest =>
    match state.specs.find? (·.short = some letter) with
    | none =>
      if letter = 'h' then .error .help
      else if letter = 'V' && state.command.isNone then .error .version
      else .error .usage
    | some spec =>
      if spec.takesValue then
        match rest with
        | [] => .ok { state with waiting := some spec }
        | '=' :: value => state.give spec value
        | value => state.give spec value
      else (state.give spec []).bind fun state => state.letters rest

def named (state : ArgumentState) (word : List Char) : Except Halt ArgumentState :=
  let name := word.takeWhile (· ≠ '=')
  let value := (word.dropWhile (· ≠ '=')).tail?
  match state.specs.find? (·.long.toList = name) with
  | none =>
    if value.isSome then .error .usage
    else if name = "help".toList then .error .help
    else if name = "version".toList && state.command.isNone then .error .version
    else .error .usage
  | some spec =>
    match spec.takesValue, value with
    | true, some value => state.give spec value
    | true, none => .ok { state with waiting := some spec }
    | false, some _ => .error .usage
    | false, none => state.give spec []

def word (state : ArgumentState) (arg : List Char) : Except Halt ArgumentState :=
  match state.command with
  | some _ => .error .usage
  | none =>
    if state.closed then .error .usage
    else if arg = "help".toList then .ok { state with topics := some [] }
    else
      match CommandName.ofWord? (String.ofList arg) with
      | none => .error .usage
      | some command =>
        .ok { state with command := some command, outer := state.options, options := {} }

def step (state : ArgumentState) (arg : List Char) : Except Halt ArgumentState :=
  match state.topics, state.waiting with
  | some topics, _ => .ok { state with topics := some (topics ++ [String.ofList arg]) }
  | none, some spec =>
    if isOption arg && !(spec.allowsNegative && isNegative arg) then .error .usage
    else state.give spec arg
  | none, none =>
    if state.closed || !isOption arg then state.word arg
    else
      match arg with
      | ['-', '-'] => .ok { state with closed := true }
      | '-' :: '-' :: name => state.named name
      | _ => state.letters arg.tail

def isTopic (topic : String) : Bool := topic = "help" || (CommandName.ofWord? topic).isSome

def finish (state : ArgumentState) : Except Halt Invocation :=
  match state.topics with
  | some [] => .error .help
  | some [topic] => if isTopic topic then .error .help else .error .usage
  | some _ => .error .usage
  | none =>
    if state.waiting.isSome then .error .usage
    else
      let config := state.options.config <|> state.outer.config
      match state.command, state.options.traces with
      | some .dump, _ :: _ => .ok ⟨config, .dump state.options⟩
      | some .tasks, [trace] => .ok ⟨config, .tasks trace⟩
      | some .stats, [trace] => .ok ⟨config, .stats trace⟩
      | _, _ => .error .usage

end ArgumentState

def Invocation.ofArguments (args : List String) : Except Halt Invocation :=
  ((args.map String.toList).foldlM ArgumentState.step {}).bind ArgumentState.finish

def Invocation.paths (invocation : Invocation) : List String :=
  let traces := match invocation.command with
    | .dump options => options.traces
    | .tasks trace => [trace]
    | .stats trace => [trace]
  invocation.config.toList ++ traces

end KernelTrace
