import RadioData.Settings
import RadioData.Text
/-!
# The command line of the server

Arguments are read from left to right. Options can be given once each. A short option may have its
value attached, with or without an equals sign, and short options without values may be joined; a
long option takes its value after an equals sign or from the next argument. An argument that begins
with a minus sign is never taken for the value of the option before it. Asking for help or for the
version ends the reading at once, a mistake refuses the whole line.
-/

namespace RadioData

/-- What can be said about settings on the command line. -/
structure Options where
  listen : Option SocketAddress := none
  device : Option String := none
  /-- The file that settings are read from. -/
  config : Option String := none
  pollIntervalMs : Option UInt64 := none
  simulate : Bool := false
  /-- Whether the settings are printed and nothing is served. -/
  printConfig : Bool := false
  verbose : Bool := false
  deriving DecidableEq, Repr

/-- What a command line asks for. -/
inductive Invocation where
  | help
  | version
  | run (o : Options)
  deriving DecidableEq, Repr

/-- An option with a value. -/
inductive ValueOption where
  | listen
  | device
  | config
  | pollIntervalMs
  deriving DecidableEq, Repr

/-- An option without a value. -/
inductive FlagOption where
  | simulate
  | printConfig
  | verbose
  | help
  | version
  deriving DecidableEq, Repr

/-- Either kind of option. -/
inductive OptionName where
  | value (o : ValueOption)
  | flag (o : FlagOption)
  deriving DecidableEq, Repr

namespace CommandLine

/-- The name of the program with its version. -/
def versionText : String := "rds-server 0.3.0\n"

/-- The text that explains the options. -/
def helpText : String :=
  "rds-server - stream RDS data and control an FM tuner over TCP\n\n" ++
  "Usage: rds-server [OPTIONS]\n\n" ++
  "Options:\n" ++
  "  -l, --listen <LISTEN>                      Address to listen on\n" ++
  "  -d, --device <DEVICE>                      Radio device node\n" ++
  "  -f, --config <CONFIG>                      Settings file (JSON)\n" ++
  "      --poll-interval-ms <POLL_INTERVAL_MS>  " ++
  "Upper bound on one session wait, in milliseconds\n" ++
  "      --simulate                             Serve a simulated tuner instead of hardware\n" ++
  "      --print-config                         " ++
  "Print the effective settings as JSON and exit\n" ++
  "  -v, --verbose                              Enable verbose logging\n" ++
  "  -h, --help                                 Print help\n" ++
  "  -V, --version                              Print version\n"

/-- The option with a long name. -/
def long? (name : List Char) : Option OptionName :=
  match String.ofList name with
  | "listen" => some (.value .listen)
  | "device" => some (.value .device)
  | "config" => some (.value .config)
  | "poll-interval-ms" => some (.value .pollIntervalMs)
  | "simulate" => some (.flag .simulate)
  | "print-config" => some (.flag .printConfig)
  | "verbose" => some (.flag .verbose)
  | "help" => some (.flag .help)
  | "version" => some (.flag .version)
  | _ => none

/-- The option with a short name. -/
def short? : Char → Option OptionName
  | 'l' => some (.value .listen)
  | 'd' => some (.value .device)
  | 'f' => some (.value .config)
  | 'v' => some (.flag .verbose)
  | 'h' => some (.flag .help)
  | 'V' => some (.flag .version)
  | _ => none

/-- Takes a value for an option that has none yet. -/
def setOnce {α : Type} (old : Option α) (new : Option α) (set : Option α → Options) :
    Option Options :=
  match old, new with
  | none, some a => some (set (some a))
  | _, _ => none

/-- A path, which is never empty. -/
def path? (value : List Char) : Option String :=
  if value = [] then none else some (String.ofList value)

/-- Gives an option its value; nothing if it has one already or the value does not suit it. -/
def giveValue (o : Options) (option : ValueOption) (value : List Char) : Option Options :=
  match option with
  | .listen =>
    setOnce o.listen (SocketAddress.ofText? (String.ofList value)) fun listen => { o with listen }
  | .device => setOnce o.device (path? value) fun device => { o with device }
  | .config => setOnce o.config (path? value) fun config => { o with config }
  | .pollIntervalMs =>
    setOnce o.pollIntervalMs ((Numeral.readUpTo? (UInt64.size - 1) value).map Nat.toUInt64)
      fun pollIntervalMs => { o with pollIntervalMs }

/-- What a step of the reading comes to. -/
inductive Step where
  | refused
  /-- Help or the version was asked for. -/
  | done (i : Invocation)
  /-- The reading goes on with the next argument. -/
  | next (o : Options)
  /-- The next argument is the value of an option. -/
  | value (o : Options) (option : ValueOption)
  deriving DecidableEq, Repr

/-- Sets a flag; a flag that is set already is refused. -/
def giveFlag (o : Options) : FlagOption → Step
  | .simulate => if o.simulate then .refused else .next { o with simulate := true }
  | .printConfig => if o.printConfig then .refused else .next { o with printConfig := true }
  | .verbose => if o.verbose then .refused else .next { o with verbose := true }
  | .help => .done .help
  | .version => .done .version

/-- The step of an option with a value that may not suit it. -/
def Step.ofOption : Option Options → Step
  | some o => .next o
  | none => .refused

/-- Reads a long option without the minus signs before it. -/
def readLong (o : Options) (argument : List Char) : Step :=
  let name := argument.takeWhile (· != '=')
  match argument.dropWhile (· != '='), long? name with
  | _, none => .refused
  | [], some (.flag f) => giveFlag o f
  | [], some (.value v) => .value o v
  | _ :: _, some (.flag _) => .refused
  | _ :: value, some (.value v) => .ofOption (giveValue o v value)

/-- Reads short options without the minus sign before them. -/
def readShort (o : Options) : List Char → Step
  | [] => .next o
  | c :: cs =>
    match short? c with
    | none => .refused
    | some (.value v) =>
      match cs with
      | [] => .value o v
      | '=' :: value => .ofOption (giveValue o v value)
      | value => .ofOption (giveValue o v value)
    | some (.flag f) =>
      match giveFlag o f with
      | .next o => readShort o cs
      | s => s

/-- Reads one argument that is no value. Anything but an option is refused. -/
def readArgument (o : Options) : List Char → Step
  | '-' :: '-' :: argument => readLong o argument
  | '-' :: c :: argument => readShort o (c :: argument)
  | _ => .refused

/-- Whether an argument cannot be the value of the option before it. -/
def isOption : List Char → Bool
  | '-' :: _ :: _ => true
  | _ => false

/-- Reads arguments. Two minus signs say that no more options follow; since nothing but options is
admitted, nothing may follow them at all. -/
def readAll (o : Options) : List (List Char) → Option Invocation
  | [] => some (.run o)
  | ['-', '-'] :: rest => if rest = [] then some (.run o) else none
  | argument :: rest =>
    match readArgument o argument, rest with
    | .refused, _ => none
    | .done i, _ => some i
    | .next o, rest => readAll o rest
    | .value _ _, [] => none
    | .value o option, value :: rest =>
      if isOption value then none
      else
        match giveValue o option value with
        | none => none
        | some o => readAll o rest

/-- Reads a command line; nothing if there is a mistake in it. -/
def parse (arguments : List String) : Option Invocation :=
  readAll {} (arguments.map String.toList)

end CommandLine

/-- Settings with what was said on the command line in place of what they say. Simulation can only
be asked for, not be forbidden. -/
def Options.apply (o : Options) (s : Settings) : Settings :=
  { s with
    listen := o.listen.getD s.listen
    device := o.device.getD s.device
    pollIntervalMs := o.pollIntervalMs.getD s.pollIntervalMs
    simulate := s.simulate || o.simulate }

end RadioData
