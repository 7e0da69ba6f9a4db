/-
  The keypad after any history of host events. A key of the pad is down (`PadEvent.IsDown`) if it
  was pressed since the last reset, under any of its names, and not released since its last press.
  The held keys are the keys that are down, in the order of their last presses, and the latch shows
  the one pressed last (`Keypad.Shows`); a press, a release and a reset each keep this
  (`Keypad.Shows.press`, `Keypad.Shows.release`), and so does every history. The main statement is
  `latch_of_history`.
-/
import Chip8.Proofs.Host
import Chip8.Proofs.Text.Lowercase
import Mathlib.Data.List.DropRight

namespace Chip8

/-! ## Names of keys -/

namespace PadKey

variable {name : Text} {k : PadKey}

/-- The character on the key. -/
def char (k : PadKey) : Char := Char.ofNat (if k.index < 9 then k.index + 49 else k.index + 88)

theorem name_eq (k : PadKey) : (k.name : Text) = [.char k.char] := by
  have hall : ∀ i : Fin 15, Text.ofString (PadKey.name ⟨i⟩) = [.char (PadKey.char ⟨i⟩)] := by decide
  exact hall k.index

theorem toNat_char (k : PadKey) :
    k.char.toNat = if k.index.val < 9 then k.index.val + 49 else k.index.val + 88 := by
  have hall : ∀ i : Fin 15,
      (PadKey.char ⟨i⟩).toNat = if i.val < 9 then i.val + 49 else i.val + 88 := by decide
  exact hall k.index

theorem ofChar?_eq_some_iff {c : Char} : ofChar? c = some k ↔ c = k.char := by
  have hone : '1'.toNat = 49 := rfl
  have hnine : '9'.toNat = 57 := rfl
  have ha : 'a'.toNat = 97 := rfl
  have hf : 'f'.toNat = 102 := rfl
  constructor
  · intro h
    unfold ofChar? at h
    apply Char.toNat_inj.mp
    rw [toNat_char]
    split at h
    · cases h
      dsimp only
      split <;> omega
    · split at h
      · cases h
        dsimp only
        split <;> omega
      · cases h
  · rintro rfl
    have hall : ∀ i : Fin 15, ofChar? (PadKey.char ⟨i⟩) = some ⟨i⟩ := by decide
    exact hall k.index

/-- A host key stands for the key whose name its canonical name is. -/
theorem ofName?_eq_some_iff : ofName? name = some k ↔ canonical name = (k.name : Text) := by
  rw [name_eq]
  unfold ofName?
  constructor
  · intro h
    split at h
    · rename_i c hc
      rw [hc, ofChar?_eq_some_iff.mp h]
    · cases h
  · intro h
    rw [h]
    exact ofChar?_eq_some_iff.mpr rfl

/-- A name with a surrogate stands for no key. -/
theorem ofName?_of_surrogate {d : Fin 2048} (h : .surrogate d ∈ name) : ofName? name = none := by
  have hlower := Text.surrogate_mem_lower h
  unfold ofName? canonical
  split
  · rename_i c hc
    split at hc
    · rename_i c' hname
      rw [hname] at hlower
      simp at hlower
    · rw [hc] at hlower
      simp at hlower
  · rfl

end PadKey

/-! ## Histories -/

/-- What happens to a keypad. -/
inductive PadEvent where
  | reset
  | press (name : Text)
  | release (name : Text)
deriving DecidableEq, Repr

namespace PadEvent

/-- An event as an act on the keyboard. -/
def act : PadEvent → Act (Keyboard × Host) Unit
  | reset => modify fun s => (s.1.reset, s.2)
  | press name => Keyboard.press name
  | release name => Keyboard.release name

/-- The keyboard and the host after the events, some of which may have failed. -/
def afterAll (events : List PadEvent) (s : Keyboard × Host) : Keyboard × Host :=
  events.foldl (fun s event => stateOf (event.act s)) s

/-- What the host is told of the event can be told: only a press without a key may have a name that
is refused. -/
def IsTold (host : Host) : PadEvent → Prop
  | press name => Keypad.CanTellPress name host
  | _ => True

/-- Whether the event presses a key, under any of its names. -/
def presses (k : PadKey) : PadEvent → Bool
  | press name => PadKey.ofName? name == some k
  | _ => false

/-- Whether the event releases a key, under any of its names. -/
def releases (k : PadKey) : PadEvent → Bool
  | release name => PadKey.ofName? name == some k
  | _ => false

/-- The events since the last reset. -/
def sinceReset (events : List PadEvent) : List PadEvent := events.rtakeWhile (· != reset)

/-- The events since a key was last pressed; all of them if it was not. -/
def sincePress (k : PadKey) (events : List PadEvent) : List PadEvent :=
  events.rtakeWhile fun event => !event.presses k

/-- The number of events up to the last press of a key; zero if it was not pressed. -/
def lastPress (k : PadKey) (events : List PadEvent) : Nat :=
  (events.rdropWhile fun event => !event.presses k).length

/-- The key was pressed, and not released since its last press. -/
def IsDown (events : List PadEvent) (k : PadKey) : Prop :=
  (∃ event ∈ events, event.presses k = true) ∧
    ∀ event ∈ sincePress k events, event.releases k = false

variable {events : List PadEvent} {event : PadEvent} {k : PadKey}

theorem sinceReset_append (events : List PadEvent) (event : PadEvent) :
    sinceReset (events ++ [event]) =
      if event = reset then [] else sinceReset events ++ [event] := by
  rw [sinceReset, List.rtakeWhile_concat]
  by_cases h : event = reset <;> simp [h, sinceReset]

theorem sinceReset_eq_self (h : reset ∉ events) : sinceReset events = events := by
  apply List.rtakeWhile_eq_self_iff.mpr
  intro event hmem
  rw [bne_iff_ne]
  rintro rfl
  exact h hmem

theorem not_isDown_nil (k : PadKey) : ¬ IsDown [] k := by
  rintro ⟨⟨event, hevent, -⟩, -⟩
  cases hevent

theorem lastPress_le (k : PadKey) (events : List PadEvent) : lastPress k events ≤ events.length :=
  (List.rdropWhile_prefix (fun event => !presses k event) events).length_le

theorem lastPress_append_of_presses (h : event.presses k = true) :
    lastPress k (events ++ [event]) = events.length + 1 := by
  rw [lastPress, List.rdropWhile_concat_neg _ _ _ (by simp [h]), List.length_append]
  rfl

theorem lastPress_append_of_not (h : event.presses k = false) :
    lastPress k (events ++ [event]) = lastPress k events := by
  rw [lastPress, List.rdropWhile_concat_pos _ _ _ (by simp [h]), lastPress]

theorem isDown_append_of_presses (h : event.presses k = true) : IsDown (events ++ [event]) k := by
  constructor
  · exact ⟨event, List.mem_append_right _ List.mem_cons_self, h⟩
  · rw [sincePress, List.rtakeWhile_concat_neg _ _ _ (by simp [h])]
    intro event hevent
    cases hevent

theorem isDown_append_of_not (h : event.presses k = false) :
    IsDown (events ++ [event]) k ↔ IsDown events k ∧ event.releases k = false := by
  unfold IsDown sincePress
  rw [List.rtakeWhile_concat_pos _ _ _ (by simp [h])]
  simp only [List.mem_append, List.mem_singleton, or_imp, forall_and, forall_eq, or_and_right,
    exists_or, exists_eq_left, h, Bool.false_eq_true, or_false, and_assoc]

@[simp]
theorem presses_release (name : Text) : (release name).presses k = false := rfl

@[simp]
theorem releases_press (name : Text) : (press name).releases k = false := rfl

theorem isTold_congr {host host' : Host} (h : host.SameOutput host') (event : PadEvent) :
    event.IsTold host ↔ event.IsTold host' := by
  cases event with
  | press name => exact Keypad.canTellPress_congr h
  | reset | release => exact Iff.rfl

theorem presses_press_iff {name : Text} :
    (press name).presses k = true ↔ PadKey.ofName? name = some k := by
  simp [presses]

end PadEvent

/-! ## The keypad and its history -/

namespace Keypad

open PadEvent

variable {recent : List PadEvent} {pad : Keypad} {host : Host} {name : Text} {k l : PadKey}

/-- The pad holds the keys that are down, in the order of their last presses, and latches the last
of them. -/
structure Shows (recent : List PadEvent) (pad : Keypad) : Prop where
  mem_held_iff : ∀ k, k ∈ pad.held ↔ IsDown recent k
  sorted : pad.held.Pairwise fun k l => lastPress k recent < lastPress l recent
  key_eq : pad.key = latchOf pad.held

/-- What the latch shows: the key that was pressed last of those that are down, or nothing. -/
inductive Latches (recent : List PadEvent) (key : Byte) : Prop
  | down (k : PadKey) (hdown : IsDown recent k)
      (hlast : ∀ l, IsDown recent l → l = k ∨ lastPress l recent < lastPress k recent)
      (hkey : key = k.code)
  | idle (hup : ∀ k, ¬ IsDown recent k) (hkey : key = 0)

theorem release_of_unmapped (h : PadKey.ofName? name = none) :
    release name (pad, host) = (pad, host) := by
  simp only [release, h]

theorem release_of_not_mem (h : PadKey.ofName? name = some k) (hk : k ∉ pad.held) :
    release name (pad, host) = (pad, host) := by
  simp only [release, h, if_neg hk]

/-- A release takes the key away and latches the last of the others. -/
theorem release_of_mapped (h : PadKey.ofName? name = some k) (hpad : pad.key = latchOf pad.held) :
    (release name (pad, host)).1 = ⟨latchOf (pad.held.erase k), pad.held.erase k⟩ := by
  by_cases hk : k ∈ pad.held
  · simp only [release, h, if_pos hk]
  · rw [release_of_not_mem h hk, List.erase_of_not_mem hk, ← hpad]

theorem latchOf_append (held : List PadKey) (k : PadKey) : latchOf (held ++ [k]) = k.code := by
  simp [latchOf]

/-- A key without a digit is only told of. -/
theorem stateOf_press_of_unmapped (hk : PadKey.ofName? name = none) :
    stateOf (Keyboard.press name (.keypad pad, host)) =
      (.keypad pad, host.logged "input" (unmappedText name)) := by
  rw [Keyboard.press, Keyboard.onKeypad, press_of_unmapped hk, stateOf_resultWithin,
    stateOf_resultWithin, Host.stateOf_tryLog]

theorem press_of_canTell (hk : PadKey.ofName? name = none)
    (hcan : host.CanTell "input" (unmappedText name)) :
    Keyboard.press name (.keypad pad, host) =
      .ok () (.keypad pad, host.logged "input" (unmappedText name)) := by
  rw [Keyboard.press, Keyboard.onKeypad, press_of_unmapped hk, Host.tryLog_of_canTell hcan]
  rfl

theorem release_keypad (name : Text) (pad : Keypad) (host : Host) :
    Keyboard.release name (.keypad pad, host) = .ok ()
      (.keypad (Keypad.release name (pad, host)).1, (Keypad.release name (pad, host)).2) := rfl

namespace Shows

theorem nodup (h : Shows recent pad) : pad.held.Nodup :=
  h.sorted.imp fun hlt heq => by simp [heq] at hlt

theorem reset : Shows [] {} where
  mem_held_iff k := by simp [not_isDown_nil]
  sorted := List.Pairwise.nil
  key_eq := rfl

/-- An event that neither presses nor releases a key changes nothing. -/
theorem unmapped (h : Shows recent pad) {event : PadEvent}
    (hpress : ∀ k, event.presses k = false) (hrelease : ∀ k, event.releases k = false) :
    Shows (recent ++ [event]) pad where
  mem_held_iff k := by
    rw [h.mem_held_iff, isDown_append_of_not (hpress k)]
    simp [hrelease k]
  sorted := by
    simp only [lastPress_append_of_not (hpress _)]
    exact h.sorted
  key_eq := h.key_eq

/-- The pressed key goes to the end: its last press is now the latest of all. -/
theorem press (h : Shows recent pad) (hk : PadKey.ofName? name = some k) :
    Shows (recent ++ [.press name]) ⟨k.code, pad.held.erase k ++ [k]⟩ := by
  have hself : (PadEvent.press name).presses k = true := presses_press_iff.mpr hk
  have hother : ∀ l, l ≠ k → (PadEvent.press name).presses l = false := by
    intro l hl
    simpa [presses, hk] using Ne.symm hl
  have hmem : ∀ l, l ∈ pad.held.erase k ↔ l ≠ k ∧ IsDown recent l := by
    intro l
    rw [h.nodup.mem_erase_iff, h.mem_held_iff]
  constructor
  · intro l
    simp only [List.mem_append, List.mem_singleton, hmem]
    by_cases hl : l = k
    · subst hl
      simp [isDown_append_of_presses hself]
    · rw [isDown_append_of_not (hother l hl)]
      simp [hl]
  · rw [List.pairwise_append]
    refine ⟨?_, List.pairwise_singleton _ _, ?_⟩
    · refine (h.sorted.sublist (List.erase_sublist)).imp_of_mem ?_
      intro l m hl hm hlt
      rw [lastPress_append_of_not (hother l ((hmem l).mp hl).1),
        lastPress_append_of_not (hother m ((hmem m).mp hm).1)]
      exact hlt
    · intro l hl m hm
      rw [List.mem_singleton] at hm
      subst hm
      rw [lastPress_append_of_not (hother l ((hmem l).mp hl).1), lastPress_append_of_presses hself]
      have hle := lastPress_le l recent
      omega
  · exact (latchOf_append _ k).symm

/-- A released key is gone, and the others keep their order. -/
theorem release (h : Shows recent pad) (hk : PadKey.ofName? name = some k) :
    Shows (recent ++ [.release name]) ⟨latchOf (pad.held.erase k), pad.held.erase k⟩ := by
  constructor
  · intro l
    rw [h.nodup.mem_erase_iff, h.mem_held_iff, isDown_append_of_not (presses_release name)]
    by_cases hl : l = k
    · subst hl
      simp [releases, hk]
    · simp [releases, hk, hl, Ne.symm hl]
  · simp only [lastPress_append_of_not (presses_release name)]
    exact h.sorted.sublist List.erase_sublist
  · rfl

/-- One event: the keyboard stays a keypad that shows its history. -/
theorem step {events : List PadEvent} (h : Shows (sinceReset events) pad) (event : PadEvent)
    (host : Host) :
    ∃ pad' host', stateOf (event.act (.keypad pad, host)) = (.keypad pad', host') ∧
      (event.IsTold host → event.act (.keypad pad, host) = .ok () (.keypad pad', host')) ∧
      host.SameOutput host' ∧ Shows (sinceReset (events ++ [event])) pad' := by
  rw [sinceReset_append]
  cases event with
  | reset => exact ⟨{}, host, rfl, fun _ => rfl, .refl _, by simpa using Shows.reset⟩
  | press name =>
    simp only [reduceCtorEq, if_false]
    cases hk : PadKey.ofName? name with
    | none =>
      exact ⟨pad, _, stateOf_press_of_unmapped hk, fun htold => press_of_canTell hk (htold hk),
        host.sameOutput_logged _ _, h.unmapped (fun k => by simp [presses, hk]) fun k => rfl⟩
    | some k =>
      have hpress : Keyboard.press name (.keypad pad, host) =
          .ok () (.keypad ⟨k.code, pad.held.erase k ++ [k]⟩,
            host.log "input" (keyText "press" k k.code)) := by
        rw [Keyboard.press, Keyboard.onKeypad, press_of_mapped hk]
        rfl
      exact ⟨_, _, congrArg stateOf hpress, fun _ => hpress, host.sameOutput_logged _ _,
        h.press hk⟩
  | release name =>
    have hlogged := Keyboard.exists_logged_of_release name (.keypad pad, host)
    rw [release_keypad] at hlogged
    refine ⟨_, _, rfl, fun _ => release_keypad name pad host, ?_, ?_⟩
    · dsimp only [stateOf] at hlogged
      rcases hlogged with heq | ⟨category, message, heq⟩
      · rw [heq]
        exact .refl _
      · rw [heq]
        exact host.sameOutput_logged _ _
    · simp only [reduceCtorEq, if_false]
      cases hk : PadKey.ofName? name with
      | none =>
        rw [release_of_unmapped hk]
        exact h.unmapped (fun k => rfl) fun k => by simp [releases, hk]
      | some k =>
        rw [release_of_mapped hk h.key_eq]
        exact h.release hk

/-- Any history, from a keypad just made. -/
theorem run (events : List PadEvent) (host : Host) :
    ∃ pad host', PadEvent.afterAll events (.keypad {}, host) = (.keypad pad, host') ∧
      ((∀ event ∈ events, event.IsTold host) →
        events.forM PadEvent.act (.keypad {}, host) = .ok () (.keypad pad, host')) ∧
      host.SameOutput host' ∧ Shows (sinceReset events) pad := by
  induction events using List.reverseRecOn with
  | nil => exact ⟨{}, host, rfl, fun _ => rfl, .refl _, Shows.reset⟩
  | append_singleton front event ih =>
    obtain ⟨pad, host₁, hfront, hforM, hsame, hshows⟩ := ih
    obtain ⟨pad', host', hlast, hact, hsame', hshows'⟩ := hshows.step event host₁
    refine ⟨pad', host', ?_, fun htold => ?_, hsame.trans hsame', hshows'⟩
    · rw [PadEvent.afterAll, List.foldl_concat]
      exact (congrArg (fun s => stateOf (event.act s)) hfront).trans hlast
    · rw [List.forall_mem_append, List.forall_mem_singleton] at htold
      rw [Act.forM_concat, Act.bind_ok (hforM htold.1)]
      exact hact ((isTold_congr hsame event).mp htold.2)

/-- The last of the held keys is the one pressed last. -/
theorem latches (h : Shows recent pad) : Latches recent pad.key := by
  rw [h.key_eq]
  rcases List.eq_nil_or_concat pad.held with hnil | ⟨front, k, hlast⟩
  · refine .idle (fun k hdown => ?_) (by rw [hnil]; rfl)
    have hk := (h.mem_held_iff k).mpr hdown
    simp [hnil] at hk
  · rw [List.concat_eq_append] at hlast
    have hsorted := h.sorted
    rw [hlast, List.pairwise_append] at hsorted
    refine .down k ((h.mem_held_iff k).mp (by simp [hlast])) (fun l hdown => ?_) ?_
    · have hl := (h.mem_held_iff l).mpr hdown
      rw [hlast, List.mem_append, List.mem_singleton] at hl
      exact hl.symm.imp_right fun hfront => hsorted.2.2 l hfront k List.mem_cons_self
    · rw [hlast, latchOf_append]

end Shows

end Keypad

/-- After any history of a keypad just made, with any names, the held keys are exactly the keys that
are down since the last reset, without duplicates and in the order of their last presses; the latch
shows the one of them pressed last, or zero. A key counts as pressed or released when the canonical
name of the host key is its name. Names without a key, and releases of keys that are not held, then
leave the keyboard as it is. Only such a name can fail to be told, and no other event ever fails. -/
theorem latch_of_history (events : List PadEvent) (host : Host) :
    let recent := PadEvent.sinceReset events
    ∃ pad host', PadEvent.afterAll events (.keypad {}, host) = (.keypad pad, host') ∧
      ((∀ event ∈ events, event.IsTold host) →
        events.forM PadEvent.act (.keypad {}, host) = .ok () (.keypad pad, host')) ∧
      pad.held.Nodup ∧
      (∀ k, k ∈ pad.held ↔ PadEvent.IsDown recent k) ∧
      (pad.held.Pairwise fun k l => PadEvent.lastPress k recent < PadEvent.lastPress l recent) ∧
      Keypad.Latches recent (Keyboard.keypad pad).key ∧
      (∀ name k, PadKey.ofName? name = some k ↔ PadKey.canonical name = (k.name : Text)) ∧
      (∀ name, PadKey.ofName? name = none →
        (stateOf (Keyboard.press name (.keypad pad, host'))).1 = .keypad pad ∧
          (host.CanTell "input" (Keypad.unmappedText name) →
            ∃ told, Keyboard.press name (.keypad pad, host') = .ok () (.keypad pad, told)) ∧
          Keyboard.release name (.keypad pad, host') = .ok () (.keypad pad, host')) ∧
      ∀ name k, PadKey.ofName? name = some k → k ∉ pad.held →
        Keyboard.release name (.keypad pad, host') = .ok () (.keypad pad, host') := by
  intro recent
  obtain ⟨pad, host', hrun, hforM, hsame, hshows⟩ := Keypad.Shows.run events host
  have hname : ∀ name k, PadKey.ofName? name = some k ↔ PadKey.canonical name = (k.name : Text) :=
    fun name k => PadKey.ofName?_eq_some_iff
  have hrelease {name : Text} (h : Keypad.release name (pad, host') = (pad, host')) :
      Keyboard.release name (.keypad pad, host') = .ok () (.keypad pad, host') := by
    rw [Keypad.release_keypad, h]
  refine ⟨pad, host', hrun, hforM, hshows.nodup, hshows.mem_held_iff, hshows.sorted,
    hshows.latches, hname, fun name hnone => ⟨?_, fun hcan => ?_, ?_⟩, fun name k hk hheld => ?_⟩
  · rw [Keypad.stateOf_press_of_unmapped hnone]
  · exact ⟨_, Keypad.press_of_canTell hnone (hsame.canTell_iff.mp hcan)⟩
  · exact hrelease (Keypad.release_of_unmapped hnone)
  · exact hrelease (Keypad.release_of_not_mem hk hheld)

end Chip8
