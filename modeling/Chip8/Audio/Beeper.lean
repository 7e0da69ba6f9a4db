/-
  A tone on a channel of the host's mixer. Starting a tone that sounds, and stopping one that
  does not, do nothing, so that both may be asked for at every tick.
-/
import Chip8.Binary64.Decimal
import Chip8.Host

namespace Chip8

structure Beeper where
  frequency : Number
  /-- Between zero and one. -/
  volume : Binary64
  sound : Option SquareWave := none
  /-- Whether the beeper has been given a channel. -/
  channel : Bool := false
  playing : Bool := false
deriving DecidableEq, Repr

namespace Beeper

def standardFrequency : Number := .real (Binary64.ofInt 440)

/-- A quarter of full loudness. -/
def standardVolume : Number := .real (Binary64.ofRatio false 1 4)

/-- A beeper of the given tone; a frequency of zero or below is refused. -/
def ofTone (frequency volume : Number) : Except Fault Beeper :=
  if frequency.isAtMostZero then .error .toneFrequency
  else .ok { frequency, volume := volume.clampUnit }

def standard : Beeper :=
  { frequency := standardFrequency, volume := standardVolume.clampUnit }

def rateText (rate : Number) (b : Beeper) : Except Fault String := do
  return "beeper sample_rate=" ++ (← decimalText (← rate.truncate)) ++ " freq=" ++
    (← b.frequency.toReal).fixed 1

/-- Says which tone was made, if audio messages are on. -/
def logRate (rate : Number) : Act (Beeper × Host) Unit := do
  let (b, h) ← get
  if h.isLogging "audio" then set (b, h.log "audio" (← Act.ofExcept (b.rateText rate)))

/-- The sample rate that the mixer tells. -/
def sampleRate (b : Beeper) : MixerRate → Except Fault Number
  | .notReady => .error .mixerNotReady
  | .untold => .error .mixerUntold
  | .unfit kind => .error (.rateUnfit kind b.frequency.kind)
  | .rate samples => .ok samples

/-- Makes the sound for the mixer's sample rate. -/
def powerOn : Act (Beeper × Host) Unit := do
  let (b, h) ← get
  if !h.toolkit then throw .audioUnavailable
  let rate ← Act.ofExcept (b.sampleRate h.mixerRate)
  let wave ← Act.ofExcept (SquareWave.ofFrequency rate b.frequency)
  set ({ b with sound := some wave, playing := false }, h.call (.makeSound wave))
  logRate rate

def start (s : Beeper × Host) : Beeper × Host :=
  let (b, h) := s
  if b.playing || b.sound.isNone then (b, h)
  else
    let (found, h) := if b.channel then (true, h) else h.findChannel
    if found then
      ({ b with channel := true, playing := true },
       (h.call .playLooped).call (.volume b.volume))
    else (b, h)

def stop (s : Beeper × Host) : Beeper × Host :=
  let (b, h) := s
  if b.playing then
    ({ b with playing := false }, if b.channel then h.call .stopChannel else h)
  else (b, h)

/-- Stops the tone and gives the channel back. -/
def shutdown (s : Beeper × Host) : Beeper × Host :=
  let (b, h) := stop s
  ({ b with channel := false }, h)

end Beeper

end Chip8
