import RadioData.Text
import RadioData.Tuner
/-!
# Radio devices of the kernel

A radio device is a file that answers the requests of the Video4Linux interface. A request has a
code, made of its number, the size of its argument and the way the data goes, and an argument of
that size: little-endian words and byte fields at fixed places. The kernel writes its answer into
the argument. `RadioDevice.tuner` is the tuner that makes one request for each call;
`RadioDevice.opened` says whether a file that could be opened is a tuner at all.
-/

namespace RadioData.RadioDevice

/-- A word as four bytes, low byte first. -/
def wordBytes (w : UInt32) : List UInt8 :=
  [w.toUInt8, (w >>> 8).toUInt8, (w >>> 16).toUInt8, (w >>> 24).toUInt8]

/-- The word at a place of an argument, low byte first. -/
def wordAt (argument : List UInt8) (offset : Nat) : UInt32 :=
  let byte (i : Nat) : UInt32 := (argument.getD (offset + i) 0).toUInt32
  byte 0 ||| (byte 1 <<< 8) ||| (byte 2 <<< 16) ||| (byte 3 <<< 24)

/-- The text of a byte field that ends at its first zero byte. -/
def fieldText (field : List UInt8) : String := Utf8.decode (field.takeWhile (· != 0))

/-- A request to a radio device. -/
inductive Request where
  | queryCapability
  | getTuner
  | getFrequency
  | setFrequency (units : UInt32)
  | seek (d : Direction)
  deriving DecidableEq, Repr

namespace Request

/-- The name that error messages give the request. -/
def name : Request → String
  | .queryCapability => "VIDIOC_QUERYCAP"
  | .getTuner => "VIDIOC_G_TUNER"
  | .getFrequency => "VIDIOC_G_FREQUENCY"
  | .setFrequency _ => "VIDIOC_S_FREQUENCY"
  | .seek _ => "VIDIOC_S_HW_FREQ_SEEK"

/-- The number of the request within the interface. -/
def number : Request → UInt32
  | .queryCapability => 0
  | .getTuner => 29
  | .getFrequency => 56
  | .setFrequency _ => 57
  | .seek _ => 82

/-- Which way data goes: 1 to the kernel, 2 from it, 3 both. -/
def transfer : Request → UInt32
  | .queryCapability => 2
  | .getTuner | .getFrequency => 3
  | .setFrequency _ | .seek _ => 1

/-- The words of the argument as they are passed in. Device 0 of kind 1 is the radio; a seek wraps
around at the end of the band. -/
def words : Request → List UInt32
  | .queryCapability => List.replicate 26 0
  | .getTuner => List.replicate 21 0
  | .getFrequency => [0, 1] ++ List.replicate 9 0
  | .setFrequency units => [0, 1, units] ++ List.replicate 8 0
  | .seek d => [0, 1, match d with | .up => 1 | .down => 0, 1] ++ List.replicate 8 0

/-- The argument as it is passed in. -/
def argument (r : Request) : List UInt8 := r.words.flatMap wordBytes

/-- The letter that all requests of the interface carry. -/
def interfaceLetter : UInt32 := 0x56

/-- The code of the request. -/
def code (r : Request) : UInt32 :=
  (r.transfer <<< 30) ||| (r.argument.length.toUInt32 <<< 16) ||| (interfaceLetter <<< 8) |||
    r.number

end Request

/-- The kernel's side of an open device: to each request an error number, or the argument as the
kernel left it. -/
abbrev Kernel (σ : Type) : Type := Request → σ → Except Nat (List UInt8) × σ

/-- Makes a request and reads its answer. -/
def request {σ α : Type} (k : Kernel σ) (r : Request) (read : List UInt8 → α) (s : σ) :
    Except TunerError α × σ :=
  match k r s with
  | (.ok argument, s) => (.ok (read argument), s)
  | (.error number, s) => (.error (.requestFailed r.name number), s)

/-- The card's name in the answer to `queryCapability`. -/
def cardName (argument : List UInt8) : String := fieldText ((argument.drop 16).take 32)

/-- The capabilities in the answer to `queryCapability`. -/
def capabilities (argument : List UInt8) : UInt32 := wordAt argument 84

/-- The capability to be tuned. -/
def tunerCapability : UInt32 := 0x10000

/-- One request for each call. -/
def tuner {σ : Type} (k : Kernel σ) : Tuner σ
  | .frequency => request k .getFrequency fun a => wordAt a 8
  | .tune units => request k (.setFrequency units) fun _ => ()
  | .seek d => request k (.seek d) fun _ => ()
  | .signal => request k .getTuner fun a => (wordAt a 60).toInt32
  | .name => request k .queryCapability cardName

/-- Whether a device whose file has been opened, or not, is ready as a tuner. The file comes first,
then the device's answer to `queryCapability`, then what it says. -/
def opened {σ : Type} (path : String) (file : Except SystemError Unit) (k : Kernel σ) (s : σ) :
    Except TunerError Unit × σ :=
  match file with
  | .error cause => (.error (.cannotOpen path cause), s)
  | .ok () =>
    match request k .queryCapability capabilities s with
    | (.error e, s) => (.error e, s)
    | (.ok c, s) =>
      (if c &&& tunerCapability = 0 then .error (.notATuner path) else .ok (), s)

/-- How a device is named to operators. -/
def describe (path : String) : String := s!"V4L2 device {path}"

end RadioData.RadioDevice
