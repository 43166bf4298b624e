import RadioData.Bench
import RadioData.Block
import RadioData.Broadcast
import RadioData.Command
import RadioData.CommandLine
import RadioData.Decimal
import RadioData.Dialogue
import RadioData.Frequency
import RadioData.Group
import RadioData.Group.Carousel
import RadioData.Json.Document
import RadioData.Json.Fault
import RadioData.Json.Number
import RadioData.Json.Printer
import RadioData.Json.Quoted
import RadioData.Json.Reader
import RadioData.Json.Shape
import RadioData.Json.Value
import RadioData.Line
import RadioData.Main
import RadioData.Net.Address
import RadioData.Proofs.Block.Framing
import RadioData.Proofs.Block.Parts
import RadioData.Proofs.Broadcast.Framing
import RadioData.Proofs.Broadcast.Pace
import RadioData.Proofs.Broadcast.Programme
import RadioData.Proofs.Broadcast.SharedIdentification
import RadioData.Proofs.Broadcast.Transmission
import RadioData.Proofs.Command.Argument
import RadioData.Proofs.Command.Grammar
import RadioData.Proofs.CommandLine.Written
import RadioData.Proofs.Group.Accounts
import RadioData.Proofs.Group.Assembly
import RadioData.Proofs.Group.Buffer
import RadioData.Proofs.Group.Damage
import RadioData.Proofs.Group.Delivery
import RadioData.Proofs.Group.Greedy
import RadioData.Proofs.Group.Indifference
import RadioData.Proofs.Group.OnAir
import RadioData.Proofs.Group.Reading
import RadioData.Proofs.Group.Reception
import RadioData.Proofs.Group.Recovery
import RadioData.Proofs.Json.Printed
import RadioData.Proofs.Json.Record
import RadioData.Proofs.Json.Variation
import RadioData.Proofs.Json.Written
import RadioData.Proofs.Line.Framing
import RadioData.Proofs.Line.Overrun
import RadioData.Proofs.Line.Retention
import RadioData.Proofs.Line.Segmentation
import RadioData.Proofs.Line.Split
import RadioData.Proofs.Net.Address
import RadioData.Proofs.Session.Ending
import RadioData.Proofs.Session.Indifference
import RadioData.Proofs.Session.Lines
import RadioData.Proofs.Session.Memory
import RadioData.Proofs.Session.Multiplex
import RadioData.Proofs.Session.Output
import RadioData.Proofs.Session.Run
import RadioData.Proofs.Settings.Checkpoint
import RadioData.Proofs.Settings.Omission
import RadioData.Proofs.Settings.Reload
import RadioData.Proofs.Text.LineFeed
import RadioData.Proofs.Text.Numeral
import RadioData.Proofs.Text.UpperCase
import RadioData.Proofs.Text.Words
import RadioData.Proofs.Tuner.Channel
import RadioData.Proofs.Tuner.Conduct
import RadioData.Proofs.Tuner.Dial
import RadioData.Proofs.Tuner.Exchange
import RadioData.Proofs.Tuner.Failing
import RadioData.Proofs.Tuner.Seeking
import RadioData.Proofs.Tuner.Sharing
import RadioData.Proofs.Tuner.Stations
import RadioData.Proofs.Tuner.Stepping
import RadioData.Proofs.Tuner.Table
import RadioData.Server
import RadioData.Session
import RadioData.Settings
import RadioData.Station
import RadioData.SystemError
import RadioData.Text
import RadioData.Text.Quoted
import RadioData.Tuner
import RadioData.Tuner.RadioDevice
import RadioData.Tuner.Simulated
