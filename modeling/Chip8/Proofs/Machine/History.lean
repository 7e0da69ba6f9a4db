/-
  Runs of a machine. From outside, a machine is stepped, ticked, reset, given keys and given
  programs; an event may fail, and the run goes on from the state that is left. The moments of
  a run are its events, each with the state it finds. A property that every event keeps holds
  after every run (`run_induction`), also when it speaks of the moments so far
  (`history_induction`). Machines that the events of a run answer alike are run alike
  (`matching_run`).
-/
import Chip8.Machine.Control
import Chip8.Proofs.Act
import Mathlib.Data.List.DropRight

namespace Chip8

/-- What can happen to a machine. -/
inductive Event where
  | step
  | tick
  | press (name : Text)
  | release (name : Text)
  | setKey (code : Int)
  | reset
  | loadRom (data : List Byte)
deriving DecidableEq, Repr

namespace Event

variable {δ : Type} [Screen δ]

/-- An event as an act. A step answers its word. -/
def act : Event → Act (Emulator δ) (Option Word)
  | step => do return some (← Emulator.step)
  | tick => do modify Emulator.tick; return none
  | press name => do Emulator.press name; return none
  | release name => do Emulator.release name; return none
  | setKey code => do modify (Emulator.setKey code); return none
  | reset => do Emulator.reset; return none
  | loadRom data => do Emulator.loadRom data; return none

end Event

/-- An event with the state it finds. -/
structure Moment (δ : Type) where
  event : Event
  before : Emulator δ

namespace Moment

variable {δ : Type}

/-- The moments after the last reset. -/
def sinceReset (moments : List (Moment δ)) : List (Moment δ) :=
  moments.rtakeWhile fun m => m.event != .reset

theorem sinceReset_append (moments : List (Moment δ)) (m : Moment δ) :
    sinceReset (moments ++ [m]) =
      if m.event = .reset then [] else sinceReset moments ++ [m] := by
  rw [sinceReset, List.rtakeWhile_concat]
  by_cases h : m.event = .reset <;> simp [h, sinceReset]

/-- What the event answered. -/
def answer [Screen δ] (m : Moment δ) : Except Fault (Option Word) :=
  answerOf (m.event.act m.before)

end Moment

namespace Emulator

theorem stateOf_onKeyboard {δ α : Type} (act : Act (Keyboard × Host) α) (e : Emulator δ) :
    stateOf (onKeyboard act e) = e.withKeyboard (stateOf (act (e.machine.keyboard, e.host))) :=
  stateOf_resultWithin ..

variable {δ : Type} [Screen δ]

/-- The state after an event. -/
def after (e : Emulator δ) (event : Event) : Emulator δ := stateOf (event.act e)

/-- The state after a run. -/
def run (e : Emulator δ) (events : List Event) : Emulator δ := events.foldl after e

theorem after_step (e : Emulator δ) : e.after .step = stateOf (step e) :=
  Act.stateOf_bind_pure step some e

theorem after_press (e : Emulator δ) (name : Text) :
    e.after (.press name) = stateOf (press name e) :=
  Act.stateOf_bind_pure (press name) (fun _ => none) e

theorem after_release (e : Emulator δ) (name : Text) :
    e.after (.release name) = stateOf (release name e) :=
  Act.stateOf_bind_pure (release name) (fun _ => none) e

/-- Host keys reach the keyboard alone. -/
theorem exists_after_press (e : Emulator δ) (name : Text) :
    ∃ s, e.after (.press name) = e.withKeyboard s :=
  ⟨_, (after_press e name).trans (stateOf_onKeyboard _ e)⟩

theorem exists_after_release (e : Emulator δ) (name : Text) :
    ∃ s, e.after (.release name) = e.withKeyboard s :=
  ⟨_, (after_release e name).trans (stateOf_onKeyboard _ e)⟩

theorem after_reset (e : Emulator δ) : e.after .reset = stateOf (reset e) :=
  Act.stateOf_bind_pure reset (fun _ => none) e

theorem after_loadRom (e : Emulator δ) (data : List Byte) :
    e.after (.loadRom data) = stateOf (loadRom data e) :=
  Act.stateOf_bind_pure (loadRom data) (fun _ => none) e

theorem answer_step (e : Emulator δ) :
    (⟨.step, e⟩ : Moment δ).answer = (answerOf (step e)).map some :=
  Act.answerOf_bind_pure step some e

/-- The moments of a run. -/
def moments (e : Emulator δ) : List Event → List (Moment δ)
  | [] => []
  | event :: rest => ⟨event, e⟩ :: moments (e.after event) rest

theorem run_append (e : Emulator δ) (events : List Event) (event : Event) :
    e.run (events ++ [event]) = (e.run events).after event := by
  rw [run, List.foldl_append]
  rfl

theorem moments_append (e : Emulator δ) (events : List Event) (event : Event) :
    e.moments (events ++ [event]) = e.moments events ++ [⟨event, e.run events⟩] := by
  induction events generalizing e with
  | nil => rfl
  | cons first rest ih => exact congrArg (_ :: ·) (ih (e.after first))

theorem history_induction {P : List (Moment δ) → Emulator δ → Prop} {e : Emulator δ}
    (hstart : P [] e)
    (hnext : ∀ moments s event, P moments s → P (moments ++ [⟨event, s⟩]) (s.after event))
    (events : List Event) : P (e.moments events) (e.run events) := by
  induction events using List.reverseRecOn with
  | nil => exact hstart
  | append_singleton events event ih =>
    rw [moments_append, run_append]
    exact hnext _ _ _ ih

theorem run_induction {P : Emulator δ → Prop} {e : Emulator δ} (hstart : P e)
    (hnext : ∀ s event, P s → P (s.after event)) (events : List Event) : P (e.run events) :=
  history_induction (P := fun _ s => P s) hstart (fun _ s event => hnext s event) events

/-- Where every event keeps a relation between emulators, so does every run. -/
theorem related_run {δ' : Type} [Screen δ'] {R : Emulator δ → Emulator δ' → Prop}
    (hevent : ∀ s t (event : Event), R s t → R (s.after event) (t.after event))
    {e : Emulator δ} {e' : Emulator δ'} (h : R e e') (events : List Event) :
    R (e.run events) (e'.run events) := by
  induction events generalizing e e' with
  | nil => exact h
  | cons event rest ih => exact ih (hevent e e' event h)

/-- Where the events of a run match on related emulators, their answers are the same, and what they
end in is related. -/
theorem matching_run {δ' : Type} [Screen δ'] {R : Emulator δ → Emulator δ' → Prop}
    {events : List Event}
    (hevent : ∀ event ∈ events, ∀ s t, R s t → Matching R (event.act s) (event.act t))
    {e : Emulator δ} {e' : Emulator δ'} (h : R e e') :
    (e.moments events).map Moment.answer = (e'.moments events).map Moment.answer ∧
      R (e.run events) (e'.run events) := by
  induction events generalizing e e' with
  | nil => exact ⟨rfl, h⟩
  | cons event rest ih =>
    have hmatch := hevent event List.mem_cons_self e e' h
    obtain ⟨hanswers, hrun⟩ :=
      ih (fun event hmem => hevent event (List.mem_cons_of_mem _ hmem)) hmatch.state
    exact ⟨congrArg₂ (· :: ·) hmatch.answer hanswers, hrun⟩

/-! ## Runs in parts -/

variable {e : Emulator δ}

/-- Every event of the run succeeds. -/
def Succeeds (e : Emulator δ) (events : List Event) : Prop :=
  ∀ m ∈ e.moments events, ∃ answer, m.answer = .ok answer

theorem succeeds_nil (e : Emulator δ) : e.Succeeds [] := by
  intro m hm
  cases hm

theorem succeeds_cons {event : Event} {rest : List Event}
    (h : ∃ answer, (⟨event, e⟩ : Moment δ).answer = .ok answer)
    (hrest : (e.after event).Succeeds rest) : e.Succeeds (event :: rest) := by
  intro m hm
  rcases List.mem_cons.mp hm with rfl | hm
  · exact h
  · exact hrest m hm

theorem succeeds_append {front behind : List Event} (h : e.Succeeds front)
    (h' : (e.run front).Succeeds behind) : e.Succeeds (front ++ behind) := by
  induction front generalizing e with
  | nil => exact h'
  | cons event rest ih =>
    exact succeeds_cons (h _ List.mem_cons_self)
      (ih (fun m hm => h m (List.mem_cons_of_mem _ hm)) h')

theorem run_append_list (e : Emulator δ) (front behind : List Event) :
    e.run (front ++ behind) = (e.run front).run behind := List.foldl_append

theorem moments_append_list (e : Emulator δ) (front behind : List Event) :
    e.moments (front ++ behind) = e.moments front ++ (e.run front).moments behind := by
  induction front generalizing e with
  | nil => rfl
  | cons event rest ih => exact congrArg (_ :: ·) (ih (e.after event))

end Emulator

end Chip8
