import RadioData.Frequency
import RadioData.Text
/-!
# The command language and its replies

A command line is read as words in upper case: a verb and its arguments.

| verb | arguments | meaning |
|---|---|---|
| `QUIT` | | end the session |
| `SET_FREQ` | kHz | tune to a channel of the band |
| `GET_FREQ` | | report the tuned frequency |
| `GET_SIGNAL` | | report the signal strength |
| `SEEK` | `DOWN`, or none | let the device look for a station, upwards unless told otherwise |
| `UP`, `DOWN` | | move one channel, wrapping at the ends of the band |
| `ID` | | report the name of the device |

Only `SET_FREQ` minds the number of its arguments; the other verbs ignore what follows them.

A reply is one line that starts with a percent sign and a space, so that a client can tell it from
the group lines, which hold hexadecimal digits, dashes and spaces only. `CommandError.reply?` says
which mistakes the client is told about.
-/

namespace RadioData

/-! ## Replies -/

/-- What a client is told in answer to a command. -/
inductive Reply where
  /-- The frequency that the device reports, in kHz. -/
  | frequency (khz : UInt32)
  /-- The strength of the signal, in the device's own measure. -/
  | signal (level : Int32)
  /-- The name of the device. -/
  | identity (name : String)
  /-- The argument that is no channel of the band. -/
  | invalidFrequency (argument : String)
  /-- A frequency command came without its one argument. -/
  | missingArgument
  deriving DecidableEq, Repr

namespace Reply

/-- The wording of a reply. -/
def text : Reply → String
  | .frequency khz => s!"Freq: {khz}"
  | .signal level => s!"Signal: {level}"
  | .identity name => s!"Id: {name}"
  | .invalidFrequency argument => s!"Invalid frequency: {argument}"
  | .missingArgument => "Command FREQ requires one argument."

/-- The line that the client receives. -/
def line (r : Reply) : String := s!"% {r.text}\n"

end Reply

/-! ## Commands -/

/-- A command that a client can give. -/
inductive Command where
  | quit
  | setFrequency (f : Frequency)
  | getFrequency
  | getSignal
  | seek (d : Direction)
  | step (d : Direction)
  | identify
  deriving DecidableEq, Repr

/-- Why a line is no command. -/
inductive CommandError where
  /-- The line holds no word. -/
  | empty
  /-- `SET_FREQ` came with no argument or with several. -/
  | missingArgument
  /-- The argument is no channel of the band. -/
  | invalidFrequency (argument : String)
  /-- The first word is none of the verbs. -/
  | unknownVerb (verb : String)
  deriving DecidableEq, Repr

namespace CommandError

/-- The wording of a mistake. -/
def message : CommandError → String
  | .empty => "empty command line"
  | .missingArgument => "command FREQ requires one argument"
  | .invalidFrequency argument => s!"invalid frequency: {argument}"
  | .unknownVerb verb => s!"unknown command: {verb}"

/-- What the client is told. Blank lines and unknown verbs go without an answer. -/
def reply? : CommandError → Option Reply
  | .missingArgument => some .missingArgument
  | .invalidFrequency argument => some (.invalidFrequency argument)
  | .empty | .unknownVerb _ => none

end CommandError

namespace Command

/-- The verb of a command. -/
def verb : Command → String
  | .quit => "QUIT"
  | .setFrequency _ => "SET_FREQ"
  | .getFrequency => "GET_FREQ"
  | .getSignal => "GET_SIGNAL"
  | .seek _ => "SEEK"
  | .step .up => "UP"
  | .step .down => "DOWN"
  | .identify => "ID"

/-- The words of a line in upper case. -/
def tokens (line : String) : List (List Char) := Text.words (UpperCase.upper line.toList)

/-- The form in which a refused argument is quoted back: a numeral below 2 ^ 64 as the plain number,
anything else as it stands. -/
def quotedArgument (argument : List Char) : String :=
  match Numeral.readUpTo? (UInt64.size - 1) argument with
  | some n => toString n
  | none => String.ofList argument

/-- The channel that an argument names. -/
def argumentFrequency? (argument : List Char) : Option Frequency :=
  match Numeral.readUpTo? (UInt32.size - 1) argument with
  | some khz => (Frequency.ofKhz khz.toUInt32).toOption
  | none => none

/-- The command that a verb and its arguments make up. -/
def ofTokens (verb : List Char) (arguments : List (List Char)) : Except CommandError Command :=
  if verb = "QUIT".toList then .ok .quit
  else if verb = "SET_FREQ".toList then
    match arguments with
    | [argument] =>
      match argumentFrequency? argument with
      | some f => .ok (.setFrequency f)
      | none => .error (.invalidFrequency (quotedArgument argument))
    | _ => .error .missingArgument
  else if verb = "GET_FREQ".toList then .ok .getFrequency
  else if verb = "GET_SIGNAL".toList then .ok .getSignal
  else if verb = "SEEK".toList then
    .ok (.seek (if arguments = ["DOWN".toList] then .down else .up))
  else if verb = "UP".toList then .ok (.step .up)
  else if verb = "DOWN".toList then .ok (.step .down)
  else if verb = "ID".toList then .ok .identify
  else .error (.unknownVerb (String.ofList verb))

/-- Reads a command line. -/
def parse (line : String) : Except CommandError Command :=
  match tokens line with
  | [] => .error .empty
  | verb :: arguments => ofTokens verb arguments

end Command

end RadioData
