/-
  What the sound timer drives: a counter of requests, or the beeper.
-/
import Chip8.Audio.Beeper

namespace Chip8

/-- Counts the requests instead of sounding. -/
structure ToneCounter where
  playing : Bool := false
  starts : Nat := 0
  stops : Nat := 0
deriving DecidableEq, Repr, Inhabited

namespace ToneCounter

def powerOn (t : ToneCounter) : ToneCounter := { t with playing := false }

def start (t : ToneCounter) : ToneCounter := { t with playing := true, starts := t.starts + 1 }

def stop (t : ToneCounter) : ToneCounter := { t with playing := false, stops := t.stops + 1 }

end ToneCounter

inductive Audio where
  | counter (t : ToneCounter)
  | beeper (b : Beeper)
deriving DecidableEq, Repr

namespace Audio

def powerOn : Act (Audio × Host) Unit := fun
  | (counter t, h) => .ok () (counter t.powerOn, h)
  | (beeper b, h) => resultWithin (fun s => (beeper s.1, s.2)) (Beeper.powerOn (b, h))

def start : Audio × Host → Audio × Host
  | (counter t, h) => (counter t.start, h)
  | (beeper b, h) => let s := Beeper.start (b, h); (beeper s.1, s.2)

def stop : Audio × Host → Audio × Host
  | (counter t, h) => (counter t.stop, h)
  | (beeper b, h) => let s := Beeper.stop (b, h); (beeper s.1, s.2)

/-- Silences a beeper and gives its channel back. -/
def shutdown : Audio × Host → Audio × Host
  | (beeper b, h) => let s := Beeper.shutdown (b, h); (beeper s.1, s.2)
  | s => s

end Audio

end Chip8
