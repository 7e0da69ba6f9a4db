/-
  Host keys on their way to the keypad. An application that has set its machine up passes every
  stroke of a host key on of which the host can be told, and its keypad shows the strokes so far
  (`ShowsKeys.strokes`); those that the host cannot be told of have no digit. So the latch goes by
  digits: it shows the key pressed last of those that are down, exactly if no key of its digit was
  released since (`latches_of_strokes`). A digit that two keys of a real keyboard hold down is lost
  when the first of them goes up (`exists_lost_key`).
-/
import Chip8.Proofs.App.Schedule
import Chip8.Proofs.KeyStroke

namespace Chip8

/-- A stroke as an act of the application. -/
def KeyStroke.act {κ : Type} (nameOf : κ → Text) (stroke : KeyStroke κ) : Act App Unit :=
  App.hostKey (nameOf stroke.key) stroke.isPress

namespace App

open KeyStroke

variable {a : App} {pad : Keypad} {events : List PadEvent} {κ : Type}

/-- The application after strokes, some of which may have failed. -/
def afterStrokes (nameOf : κ → Text) (a : App) (strokes : List (KeyStroke κ)) : App :=
  strokes.foldl (fun a stroke => stateOf (stroke.act nameOf a)) a

/-- The host can be told of the strokes. -/
def AreTold (nameOf : κ → Text) (h : Host) (strokes : List (KeyStroke κ)) : Prop :=
  ∀ stroke ∈ strokes, h.CanTell "input" (keyText (nameOf stroke.key) stroke.isPress)

/-! ## Strokes -/

/-- The application has a keypad of its own, and the keypad shows the events. It prints as a host
does. -/
structure ShowsKeys (start : Host) (events : List PadEvent) (pad : Keypad) (a : App) : Prop where
  owner : a.owner = true
  keyboard : a.emulator.machine.keyboard = .keypad pad
  output : start.SameOutput a.host
  shows : Keypad.Shows (PadEvent.sinceReset events) pad

namespace ShowsKeys

variable {start : Host}

/-- A host key reaches the keypad, or it would not have changed it. -/
theorem hostKey (h : a.ShowsKeys start events pad) (name : Text) (pressed : Bool) :
    let event : PadEvent := if pressed then .press name else .release name
    ∃ pad', (stateOf (App.hostKey name pressed a)).ShowsKeys start (events ++ [event]) pad' ∧
      (start.CanTell "input" (keyText name pressed) →
        App.hostKey name pressed a = .ok () (stateOf (App.hostKey name pressed a))) := by
  intro event
  by_cases hcan : a.host.CanTell "input" (keyText name pressed)
  · let told : App := a.mapHost (·.logged "input" (keyText name pressed))
    have hlogged : a.host.SameOutput told.host := a.host.sameOutput_logged _ _
    obtain ⟨pad', host, -, hact, hsame, hshows⟩ := h.shows.step event told.host
    have htold : event.IsTold told.host := by
      cases pressed with
      | true => exact (Keypad.canTellPress_congr hlogged).mp (canTellPress_of_canTell hcan)
      | false => trivial
    have hpassed : App.hostKey name pressed a =
        onEmulator (Emulator.onKeyboard event.act) told := by
      rw [hostKey_of_canTell h.owner hcan]
      cases pressed <;> rfl
    have hkey : onEmulator (Emulator.onKeyboard event.act) told =
        .ok () { told with emulator := told.emulator.withKeyboard (.keypad pad', host) } := by
      unfold onEmulator Emulator.onKeyboard Act.within
      change resultWithin _
        (resultWithin _ (event.act (a.emulator.machine.keyboard, told.host))) = _
      rw [h.keyboard, hact htold]
      rfl
    rw [hpassed.trans hkey]
    exact ⟨pad', ⟨h.owner, rfl, (h.output.trans hlogged).trans hsame, hshows⟩, fun _ => rfl⟩
  · obtain ⟨fault, hfails, -⟩ := hostKey_of_not_canTell h.owner hcan
    obtain ⟨pad', host, hact, -, -, hshows⟩ := h.shows.step event a.host
    have hname := ofName?_of_not_canTell hcan
    have hsame : (stateOf (event.act (.keypad pad, a.host))).1 = .keypad pad := by
      cases pressed with
      | true => exact Keyboard.fst_press_of_unmapped hname _
      | false => exact Keyboard.fst_release_of_unmapped hname _
    rw [hact] at hsame
    cases hsame
    rw [hfails]
    exact ⟨pad, ⟨h.owner, h.keyboard, h.output, hshows⟩,
      fun htold => absurd (h.output.canTell_iff.mp htold) hcan⟩

theorem strokes (h : a.ShowsKeys start events pad) (nameOf : κ → Text)
    (strokes : List (KeyStroke κ)) :
    ∃ pad', (a.afterStrokes nameOf strokes).ShowsKeys start
        (events ++ strokes.map (toPad nameOf)) pad' ∧
      (AreTold nameOf start strokes →
        strokes.forM (KeyStroke.act nameOf) a = .ok () (a.afterStrokes nameOf strokes)) := by
  induction strokes generalizing a pad events with
  | nil =>
    refine ⟨pad, ?_, fun _ => rfl⟩
    rw [List.map_nil, List.append_nil]
    exact h
  | cons stroke rest ih =>
    obtain ⟨pad₁, h₁, hstroke⟩ := h.hostKey (nameOf stroke.key) stroke.isPress
    obtain ⟨pad', h', hrest⟩ := ih h₁
    refine ⟨pad', ?_, fun htold => ?_⟩
    · rw [List.map_cons, List.append_cons]
      exact h'
    · obtain ⟨hfirst, hbehind⟩ := List.forall_mem_cons.mp htold
      exact (Act.bind_ok (hstroke hfirst)).trans (hrest hbehind)

end ShowsKeys

section

variable {settings : AppSettings} {rom : List Byte} {host host' : Host}

theorem showsKeys_of_create (h : create settings rom host = .ok a host') :
    a.ShowsKeys a.host [] {} := by
  obtain ⟨config, ready, hparts, -, hmachine, happ⟩ := of_create_ok h
  obtain ⟨-, hkeypad⟩ := of_parts_ok hparts
  refine ⟨by rw [happ]; rfl, ?_, .refl _, Keypad.Shows.reset⟩
  rw [(Machine.quietly_create hmachine).2.2, hkeypad]
  rfl

/-- After any strokes, an application that was set up goes by digits. -/
theorem exists_strokes (h : create settings rom host = .ok a host') (nameOf : κ → Text)
    (strokes : List (KeyStroke κ)) :
    ∃ pad, (a.afterStrokes nameOf strokes).emulator.machine.keyboard = .keypad pad ∧
      (AreTold nameOf a.host strokes →
        strokes.forM (KeyStroke.act nameOf) a = .ok () (a.afterStrokes nameOf strokes)) ∧
      Latches (SameDigit (digitBy nameOf)) (digitBy nameOf) strokes pad.key := by
  obtain ⟨pad, h', hrun⟩ := (showsKeys_of_create h).strokes nameOf strokes
  have hshows := h'.shows
  rw [List.nil_append, PadEvent.sinceReset_eq_self reset_not_mem_toPad] at hshows
  exact ⟨pad, h'.keyboard, hrun, latches_of_pad hshows.latches⟩

/-- Whatever strokes an application gets after it was set up, of whatever host keys, it takes all of
those that the host can be told of, and its latch shows the last press whose digit was not released
since. This is the key pressed last of those that are down exactly if no key of the same digit was
released since its press; so it is on a real keyboard where no two keys of one digit are ever down
together. -/
theorem latches_of_strokes (h : create settings rom host = .ok a host') (nameOf : κ → Text)
    (strokes : List (KeyStroke κ)) :
    let digitOf := digitBy nameOf
    let a' := a.afterStrokes nameOf strokes
    ∃ pad, a'.emulator.machine.keyboard = .keypad pad ∧
      (AreTold nameOf a.host strokes → strokes.forM (KeyStroke.act nameOf) a = .ok () a') ∧
      Latches (SameDigit digitOf) digitOf strokes pad.key ∧
      (Latches Eq digitOf strokes pad.key ↔
        ∀ key k behind, IsLast Eq digitOf strokes key k behind →
          ∀ other, digitOf other = some k → ⟨other, false⟩ ∉ behind) ∧
      (AreReal strokes → AreApart digitOf strokes → Latches Eq digitOf strokes pad.key) := by
  intro digitOf a'
  obtain ⟨pad, hkeyboard, hrun, hlatches⟩ := exists_strokes h nameOf strokes
  exact ⟨pad, hkeyboard, hrun, hlatches, latches_eq_iff hlatches,
    fun hreal hapart => hreal.latches_eq hapart hlatches⟩

end

theorem exists_create_standard : ∃ a host', create {} [] {} = .ok a host' := by
  obtain ⟨e, host', hmachine, -⟩ := Machine.exists_create
    { display := .window (Window.ofScale 10), keyboard := .keypad {}, audio := .beeper .standard }
    {} rfl rfl rfl (by decide)
  exact ⟨_, host', create_of_ok rfl rfl hmachine⟩

/-- Names without surrogates can be told. -/
theorem areTold_of_takes {nameOf : κ → Text} {h : Host} {strokes : List (KeyStroke κ)}
    (htakes : ∀ stroke ∈ strokes, h.outlet.Takes (nameOf stroke.key)) :
    AreTold nameOf h strokes := fun stroke hmem => canTell_keyText (htakes stroke hmem) _

/-- Two keys go down and none goes up, so the latch shows the second one. -/
theorem latches_of_strokes_two : ∃ a host' a' pad, create {} [] {} = .ok a host' ∧
    [⟨"1", true⟩, ⟨"a", true⟩].forM (KeyStroke.act (id : Text → Text)) a = .ok () a' ∧
    a'.emulator.machine.keyboard = .keypad pad ∧ pad.key = 0xA := by
  obtain ⟨a, host', h⟩ := exists_create_standard
  obtain ⟨pad, hkeyboard, hrun, -, hiff, -⟩ :=
    latches_of_strokes h (id : Text → Text) [⟨"1", true⟩, ⟨"a", true⟩]
  have htold : AreTold id a.host [⟨("1" : Text), true⟩, ⟨"a", true⟩] := by
    refine areTold_of_takes fun stroke hmem => ?_
    simp only [List.mem_cons, List.not_mem_nil, or_false] at hmem
    rcases hmem with rfl | rfl <;> exact Outlet.takes_ofString _ _
  have hlatches := hiff.mpr fun key k behind hlast other _ hmem => by
    have hstroke := hlast.suffix.subset (List.mem_cons_of_mem _ hmem)
    simp at hstroke
  have hlast : IsLast Eq (digitBy id) [⟨("1" : Text), true⟩, ⟨"a", true⟩] "a" ⟨9⟩ [] :=
    { suffix := List.suffix_cons _ _
      digit := by decide
      held := fun _ _ => List.not_mem_nil
      last := fun _ _ _ => not_isHeld_nil }
  exact ⟨a, host', _, pad, h, hrun htold, hkeyboard, hlatches.of_isLast hlast⟩

/-- A digit of the digit row goes down, the same one of the number pad goes down and up. -/
def sharedDigit : List (KeyStroke Text) := [⟨"1", true⟩, ⟨"[1]", true⟩, ⟨"[1]", false⟩]

theorem areReal_sharedDigit : AreReal sharedDigit := by
  have hup : ¬ IsDown ([] ++ [⟨"1", true⟩]) ("[1]" : Text) := by
    intro hdown
    rcases isHeld_append_iff.mp hdown with heq | ⟨hheld, -⟩
    · exact absurd heq (by decide)
    · exact not_isHeld_nil hheld
  exact ((areReal_nil.press not_isHeld_nil).press hup).release isHeld_append_press

/-- On a real keyboard the first key is still down at the end, but the latch is zero. -/
theorem exists_lost_key : ∃ a host' a', create {} [] {} = .ok a host' ∧
    AreReal sharedDigit ∧ IsDown sharedDigit "1" ∧ digitBy id ("1" : Text) = some ⟨0⟩ ∧
    sharedDigit.forM (KeyStroke.act id) a = .ok () a' ∧
    a'.emulator.machine.keyboard.key = 0 := by
  obtain ⟨a, host', h⟩ := exists_create_standard
  obtain ⟨pad, hkeyboard, hrun, hlatches⟩ := exists_strokes h (id : Text → Text) sharedDigit
  have htold : AreTold id a.host sharedDigit := by
    refine areTold_of_takes fun stroke hmem => ?_
    simp only [sharedDigit, List.mem_cons, List.not_mem_nil, or_false] at hmem
    rcases hmem with rfl | rfl | rfl <;> exact Outlet.takes_ofString _ _
  have hdown : IsDown sharedDigit "1" := by
    refine ⟨_, List.suffix_rfl, ?_⟩
    rintro _ rfl
    decide
  refine ⟨a, host', _, h, areReal_sharedDigit, hdown, by decide, hrun htold, ?_⟩
  rw [hkeyboard]
  cases hlatches with
  | idle _ hlatch => exact hlatch
  | last key k behind hlast =>
    -- the release ends both presses
    have hmem : ⟨key, true⟩ ∈ sharedDigit := hlast.suffix.subset List.mem_cons_self
    have hsame : SameDigit (digitBy id) key "[1]" := by
      simp only [sharedDigit, List.mem_cons, List.not_mem_nil, or_false] at hmem
      rcases hmem with heq | heq | heq <;> cases heq <;> rfl
    have hheld : IsHeld (SameDigit (digitBy id))
        ([⟨"1", true⟩, ⟨"[1]", true⟩] ++ [⟨"[1]", false⟩]) key := hlast.isHeld
    rcases isHeld_append_iff.mp hheld with heq | ⟨-, hends⟩
    · cases heq
    · exact absurd rfl (hends "[1]" hsame)

end App

end Chip8
