import GamePak.Banks
import GamePak.Bytes
import GamePak.Cartridge.Basic
import GamePak.Cartridge.Battery
import GamePak.Cartridge.Debugger
import GamePak.Cartridge.Load
import GamePak.CartridgeType
import GamePak.Checksum
import GamePak.CommandLine.Arguments
import GamePak.CommandLine.Command
import GamePak.CommandLine.Dump
import GamePak.CommandLine.Item
import GamePak.CommandLine.Report
import GamePak.CommandLine.SaveStatus
import GamePak.CommandLine.Usage
import GamePak.CommandLine.Value
import GamePak.Controller
import GamePak.Disk
import GamePak.Error
import GamePak.Geometry
import GamePak.Header
import GamePak.Header.Size
import GamePak.Log
import GamePak.Main
import GamePak.Path
import GamePak.Path.SaveFile
import GamePak.SaveFile
import GamePak.Session
import GamePak.Text.Hex
import GamePak.Text.Numeral
import GamePak.Text.Terminal
import GamePak.Proofs.Cartridge.Battery
import GamePak.Proofs.Cartridge.Load
import GamePak.Proofs.Controller.Decode
import GamePak.Proofs.Cartridge.WellFormed
import GamePak.Proofs.Cartridge.Access
import GamePak.Proofs.Session.Invariant
import GamePak.Proofs.Controller.Mbc1
import GamePak.Proofs.Session.Debugging
import GamePak.Proofs.Disk
import GamePak.Proofs.Session.PowerCycle
import GamePak.Proofs.Cartridge.Physical
import GamePak.Proofs.Session.Memory
import GamePak.Proofs.Session.ExternalRam
import GamePak.Proofs.Session.Patching
import GamePak.Proofs.Session.Override
import GamePak.Proofs.Controller.Mbc5
import GamePak.Proofs.Cartridge.LoadEvents
import GamePak.Proofs.Checksum
import GamePak.Proofs.Cartridge.Decision
import GamePak.Proofs.CommandLine.ChecksumVerdict
import GamePak.Proofs.Session.Persistence
import GamePak.Proofs.Session.Unloading
import GamePak.Proofs.Path
import GamePak.Proofs.Path.SaveFile
import GamePak.Proofs.Controller.Mbc2
import GamePak.Proofs.CommandLine.Inspection
import GamePak.Proofs.CommandLine.SaveStatus
import GamePak.Proofs.Session.Confinement
import GamePak.Proofs.Session.Sealing
import GamePak.Proofs.Session.Snapshot
import GamePak.Proofs.Log
import GamePak.Proofs.Text.Hex
import GamePak.Proofs.CommandLine.Dump
import GamePak.Proofs.CommandLine.Value
import GamePak.Proofs.CommandLine.Arguments
import GamePak.Proofs.Header
import GamePak.Proofs.CommandLine.HexWord
import GamePak.Proofs.CommandLine.DumpExtent
import GamePak.Proofs.Session.MapInfo
