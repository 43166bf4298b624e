import RadioData.Command
import RadioData.Tuner
/-!
# Answering command lines

`Command.script` says which calls a command makes and what the client is told; after every change of
frequency the device is asked where it ended up, and that is what the reply reports. `lineScript`
does the same for a line of text: a line that is no command makes no calls, and
`CommandError.reply?` decides whether it is answered at all.
-/

namespace RadioData

/-- What a command line leads to. -/
inductive Response where
  /-- The client is told something. -/
  | reply (r : Reply)
  /-- The client is told nothing. -/
  | silence
  /-- The client wants to leave. -/
  | farewell
  deriving DecidableEq, Repr

/-- Asks for the tuned frequency and reports it in whole kilohertz. -/
def reportFrequency : Script Response :=
  .call .frequency fun units => .done (.reply (.frequency (khzOfUnits units)))

/-- The calls that a command makes and what the client is told. -/
def Command.script : Command → Script Response
  | .quit => .done .farewell
  | .setFrequency f => .call (.tune f.units) fun _ => reportFrequency
  | .getFrequency => reportFrequency
  | .getSignal => .call .signal fun level => .done (.reply (.signal level))
  | .seek d => .call (.seek d) fun _ => reportFrequency
  | .step d =>
    .call .frequency fun units =>
      .call (.tune (stepChannel d (khzOfUnits units) * unitsPerKhz)) fun _ => reportFrequency
  | .identify => .call .name fun name => .done (.reply (.identity name))

/-- What a line leads to that is no command. -/
def CommandError.response (e : CommandError) : Response :=
  match e.reply? with
  | some r => .reply r
  | none => .silence

/-- The calls that a line makes and what the client is told. -/
def lineScript (line : String) : Script Response :=
  match Command.parse line with
  | .ok command => command.script
  | .error e => .done e.response

/-- Carries out a line on a tuner. -/
def answerLine {σ : Type} (t : Tuner σ) (line : String) : σ → Except TunerError Response × σ :=
  (lineScript line).run t

end RadioData
