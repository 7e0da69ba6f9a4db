import Chip8.Main
import Chip8.Diagnostics.Message
import Chip8.Proofs.App.Console
import Chip8.Proofs.App.Halt
import Chip8.Proofs.App.Schedule
import Chip8.Proofs.App.Transparency
import Chip8.Proofs.App.Views
import Chip8.Proofs.Keypad
import Chip8.Proofs.Machine.Disassembly
import Chip8.Proofs.Machine.Effect
import Chip8.Proofs.Machine.Hosts
import Chip8.Proofs.Machine.KeyWait
import Chip8.Proofs.Machine.Mirror
import Chip8.Proofs.Machine.Picture
import Chip8.Proofs.Machine.Restart
import Chip8.Proofs.Machine.ToneEdges
import Chip8.Proofs.Opcode.Registration
import Chip8.Proofs.Rom
import Chip8.Proofs.Machine.Drawing
import Chip8.Proofs.Display.Watched
import Chip8.Proofs.Machine.DisplayCalls
import Chip8.Proofs.Beeper
import Chip8.Proofs.Display.Showing
import Chip8.Proofs.App.HostKeys
import Chip8.Proofs.Machine.KeySkips
import Chip8.Proofs.Machine.SavedRegisters
import Chip8.Proofs.Memory.Block
import Chip8.Proofs.Machine.Arithmetic
import Chip8.Proofs.Machine.Glyphs
import Chip8.Proofs.Machine.RandomStream
import Chip8.Proofs.Machine.RowOrder
import Chip8.Proofs.App.MemoryRows
import Chip8.Proofs.Display.Views
import Chip8.Proofs.Diagnostics
