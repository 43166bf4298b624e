import RadioData.CommandLine
import RadioData.Settings
/-!
# What the server does when it is started

`plan` is the whole decision: print something and leave, fail with a report, or serve with certain
settings. The file that the command line names is the only thing it needs to know of the world, and
it is asked for only when there is one. `Settings.cannotBind` is the report when the address to
listen on cannot be had.
-/

namespace RadioData

/-- What is to be done. -/
inductive Plan where
  /-- The command line is mistaken. -/
  | usage
  /-- Print a text and leave. -/
  | print (text : String)
  /-- Report a failure and leave. -/
  | fail (report : String)
  /-- Serve clients. -/
  | serve (s : Settings)
  deriving DecidableEq, Repr

/-- The settings that options lead to, given what the named file holds. -/
def Options.settings (o : Options) (content : String → Except SystemError ByteArray) :
    Except SettingsError Settings :=
  match o.config with
  | none => .ok (o.apply {})
  | some path => (Settings.ofFile path (content path)).map o.apply

/-- The settings file that an invocation names. -/
def Invocation.config? : Invocation → Option String
  | .run o => o.config
  | .help | .version => none

/-- What an invocation asks for. -/
def Invocation.plan (content : String → Except SystemError ByteArray) : Invocation → Plan
  | .help => .print CommandLine.helpText
  | .version => .print CommandLine.versionText
  | .run o =>
    match o.settings content with
    | .error e => .fail e.report
    | .ok s => if o.printConfig then .print (s.text ++ "\n") else .serve s

/-- What a command line asks for. -/
def plan (arguments : List String) (content : String → Except SystemError ByteArray) : Plan :=
  match CommandLine.parse arguments with
  | none => .usage
  | some i => i.plan content

/-- The report when the address to listen on cannot be had. -/
def Settings.cannotBind (s : Settings) (cause : SystemError) : String :=
  s!"Error: Failed to bind {s.listen.text}: {cause.message}"

/-- The report when requests to the device cannot be made from here. -/
def Settings.cannotServeDevice (s : Settings) : String :=
  s!"Error: radio device {s.device} is only supported on Linux; use --simulate"

end RadioData
