/-
  Strokes of host keys. A host key is down if it was pressed and not released since, and a keypad
  should show the digit of the key pressed last of those that are down (`Latches Eq`). Several host
  keys may have one digit, and the keypad remembers digits only: for it a release of any key of a
  digit ends all of them (`Latches SameDigit`, by `latches_of_pad`). The two agree unless a key of
  the same digit was released since the last key that is down was pressed (`latches_eq_iff`), which
  does not happen on a real keyboard without two keys of one digit down together
  (`AreReal.latches_eq`).
-/
import Chip8.Proofs.Keypad

namespace Chip8

theorem PadKey.code_injective {k l : PadKey} (h : k.code = l.code) : k = l := by
  have hall : ∀ i j : Fin 15, PadKey.code ⟨i⟩ = PadKey.code ⟨j⟩ → i = j := by decide
  exact congrArg PadKey.mk (hall k.index l.index h)

/-- A host key goes down or up. -/
structure KeyStroke (κ : Type) where
  key : κ
  isPress : Bool
deriving DecidableEq, Repr

namespace KeyStroke

variable {κ : Type}

/-- The key was pressed, and no key that ends it was released since. -/
def IsHeld (ends : κ → κ → Prop) (strokes : List (KeyStroke κ)) (key : κ) : Prop :=
  ∃ behind, ⟨key, true⟩ :: behind <:+ strokes ∧ ∀ other, ends key other → ⟨other, false⟩ ∉ behind

/-- The key is down: its own release is what ends it. -/
abbrev IsDown (strokes : List (KeyStroke κ)) (key : κ) : Prop := IsHeld Eq strokes key

/-- Both keys have the same digit, or both none. -/
def SameDigit (digitOf : κ → Option PadKey) (key other : κ) : Prop := digitOf other = digitOf key

/-- The press of a key that has a digit and is held, with no such press behind it. -/
structure IsLast (ends : κ → κ → Prop) (digitOf : κ → Option PadKey)
    (strokes : List (KeyStroke κ)) (key : κ) (k : PadKey) (behind : List (KeyStroke κ)) : Prop where
  suffix : ⟨key, true⟩ :: behind <:+ strokes
  digit : digitOf key = some k
  held : ∀ other, ends key other → ⟨other, false⟩ ∉ behind
  last : ∀ other l, digitOf other = some l → ¬ IsHeld ends behind other

/-- What the latch should show: the digit of the last press that is held, or nothing. -/
inductive Latches (ends : κ → κ → Prop) (digitOf : κ → Option PadKey)
    (strokes : List (KeyStroke κ)) (latch : Byte) : Prop
  | last (key : κ) (k : PadKey) (behind : List (KeyStroke κ))
      (hlast : IsLast ends digitOf strokes key k behind) (hlatch : latch = k.code)
  | idle (hup : ∀ key k, digitOf key = some k → ¬ IsHeld ends strokes key) (hlatch : latch = 0)

/-- The strokes of a real keyboard: a key is released if it is down, and pressed if it is not. -/
def AreReal (strokes : List (KeyStroke κ)) : Prop :=
  ∀ front stroke behind, strokes = front ++ stroke :: behind →
    (IsDown front stroke.key ↔ stroke.isPress = false)

/-- No two keys of one digit are ever down together. -/
def AreApart (digitOf : κ → Option PadKey) (strokes : List (KeyStroke κ)) : Prop :=
  ∀ front, front <+: strokes → ∀ key other k, digitOf key = some k → digitOf other = some k →
    IsDown front key → IsDown front other → key = other

variable {ends ends' : κ → κ → Prop} {digitOf : κ → Option PadKey}
  {strokes behind behind' : List (KeyStroke κ)} {stroke : KeyStroke κ} {key key' : κ}
  {k k' : PadKey} {latch : Byte}

/-! ## Held keys -/

/-- A press and what is behind it, when a stroke is appended: the press is this stroke, or the
stroke is the last one behind it. -/
theorem cons_suffix_append_iff {press : KeyStroke κ} : press :: behind <:+ strokes ++ [stroke] ↔
    (behind = [] ∧ stroke = press) ∨
      ∃ rest, behind = rest ++ [stroke] ∧ press :: rest <:+ strokes := by
  rw [List.suffix_concat_iff]
  constructor
  · rintro (hnil | ⟨front, heq, hsuffix⟩)
    · cases hnil
    · cases front with
      | nil =>
        cases heq
        exact .inl ⟨rfl, rfl⟩
      | cons first rest =>
        cases heq
        exact .inr ⟨rest, rfl, hsuffix⟩
  · rintro (⟨rfl, rfl⟩ | ⟨rest, rfl, hsuffix⟩)
    · exact .inr ⟨[], rfl, List.nil_suffix⟩
    · exact .inr ⟨press :: rest, rfl, hsuffix⟩

theorem not_isHeld_nil : ¬ IsHeld ends [] key := by
  rintro ⟨behind, hsuffix, -⟩
  cases List.suffix_nil.mp hsuffix

theorem isHeld_append_iff : IsHeld ends (strokes ++ [stroke]) key ↔
    stroke = ⟨key, true⟩ ∨
      IsHeld ends strokes key ∧ ∀ other, ends key other → stroke ≠ ⟨other, false⟩ := by
  constructor
  · rintro ⟨behind, hsuffix, hends⟩
    rcases cons_suffix_append_iff.mp hsuffix with ⟨-, hpress⟩ | ⟨rest, rfl, hrest⟩
    · exact .inl hpress
    · refine .inr ⟨⟨rest, hrest, fun other ho hmem => ?_⟩, fun other ho heq => ?_⟩
      · exact hends other ho (List.mem_append_left _ hmem)
      · exact hends other ho (List.mem_append_right _ (List.mem_singleton.mpr heq.symm))
  · rintro (rfl | ⟨⟨rest, hrest, hends⟩, hstroke⟩)
    · exact ⟨[], List.suffix_append _ _, fun _ _ => List.not_mem_nil⟩
    · refine ⟨rest ++ [stroke], cons_suffix_append_iff.mpr (.inr ⟨rest, rfl, hrest⟩), ?_⟩
      intro other ho hmem
      rcases List.mem_append.mp hmem with hmem | hmem
      · exact hends other ho hmem
      · exact hstroke other ho (List.mem_singleton.mp hmem).symm

theorem isHeld_append_press : IsHeld ends (strokes ++ [⟨key, true⟩]) key :=
  isHeld_append_iff.mpr (.inl rfl)

theorem IsHeld.mono (h : IsHeld ends strokes key)
    (hle : ∀ other, ends' key other → ends key other) : IsHeld ends' strokes key := by
  obtain ⟨rest, hrest, hends⟩ := h
  exact ⟨rest, hrest, fun other ho => hends other (hle other ho)⟩

/-- What a release of any key of the digit has not ended, its own release has not ended. -/
theorem IsHeld.isDown (h : IsHeld (SameDigit digitOf) strokes key) : IsDown strokes key :=
  h.mono fun _ heq => heq ▸ rfl

/-! ## The last of them -/

theorem IsLast.of_suffix (h : IsLast ends digitOf behind key k behind')
    (hsuffix : behind <:+ strokes) : IsLast ends digitOf strokes key k behind' :=
  { h with suffix := h.suffix.trans hsuffix }

theorem IsLast.isHeld (h : IsLast ends digitOf strokes key k behind) : IsHeld ends strokes key :=
  ⟨behind, h.suffix, h.held⟩

/-- Where a key with a digit is held there is a last one. -/
theorem exists_isLast (hdigit : digitOf key = some k) (h : IsHeld ends strokes key) :
    ∃ key k behind, IsLast ends digitOf strokes key k behind := by
  induction strokes generalizing key k with
  | nil => exact absurd h not_isHeld_nil
  | cons first rest ih =>
    by_cases hlater : ∃ other l, digitOf other = some l ∧ IsHeld ends rest other
    · obtain ⟨other, l, hl, hother⟩ := hlater
      obtain ⟨key, k, behind, hlast⟩ := ih hl hother
      exact ⟨key, k, behind, hlast.of_suffix (List.suffix_cons _ _)⟩
    · obtain ⟨behind, hsuffix, hends⟩ := h
      rcases List.suffix_cons_iff.mp hsuffix with heq | hrest
      · cases heq
        exact ⟨key, k, rest, hsuffix, hdigit, hends,
          fun other l hl hother => hlater ⟨other, l, hl, hother⟩⟩
      · exact absurd ⟨key, k, hdigit, behind, hrest, hends⟩ hlater

/-- Two presses: one of them is behind the other, or they are the same. -/
theorem suffix_cases {press press' : KeyStroke κ} (h : press :: behind <:+ strokes)
    (h' : press' :: behind' <:+ strokes) :
    press :: behind <:+ behind' ∨ press' :: behind' <:+ behind ∨
      (press = press' ∧ behind = behind') := by
  rcases List.suffix_or_suffix_of_suffix h h' with hs | hs
  · rcases List.suffix_cons_iff.mp hs with heq | hs
    · exact .inr (.inr (List.cons.inj heq))
    · exact .inl hs
  · rcases List.suffix_cons_iff.mp hs with heq | hs
    · exact .inr (.inr (List.cons.inj heq.symm))
    · exact .inr (.inl hs)

/-- The last press is behind every other key that is held. -/
theorem IsLast.suffix_or_eq (h : IsLast ends digitOf strokes key k behind)
    (h' : IsLast ends' digitOf strokes key' k' behind')
    (hle : ∀ other, ends key' other → ends' key' other) :
    ⟨key, true⟩ :: behind <:+ behind' ∨ key = key' ∧ behind = behind' := by
  rcases suffix_cases h.suffix h'.suffix with hs | hs | ⟨heq, hbehind⟩
  · exact .inl hs
  · exact absurd ⟨behind', hs, fun other ho => h'.held other (hle other ho)⟩
      (h.last key' k' h'.digit)
  · exact .inr ⟨congrArg KeyStroke.key heq, hbehind⟩

theorem IsLast.unique (h : IsLast ends digitOf strokes key k behind)
    (h' : IsLast ends digitOf strokes key' k' behind') : k = k' := by
  rcases h.suffix_or_eq h' fun _ => id with hs | ⟨rfl, -⟩
  · exact absurd ⟨behind, hs, h.held⟩ (h'.last key k h.digit)
  · exact Option.some.inj (h.digit.symm.trans h'.digit)

theorem Latches.of_isLast (h : Latches ends digitOf strokes latch)
    (hlast : IsLast ends digitOf strokes key k behind) : latch = k.code := by
  cases h with
  | last key' k' behind' hlast' hlatch => rw [hlatch, hlast'.unique hlast]
  | idle hup => exact absurd hlast.isHeld (hup key k hlast.digit)

/-! ## Digits instead of keys -/

/-- A latch that goes by digits shows the key pressed last of those that are down, exactly if no
key of its digit was released since. -/
theorem latches_eq_iff (h : Latches (SameDigit digitOf) digitOf strokes latch) :
    Latches Eq digitOf strokes latch ↔ ∀ key k behind, IsLast Eq digitOf strokes key k behind →
      ∀ other, digitOf other = some k → ⟨other, false⟩ ∉ behind := by
  constructor
  · intro heq key k behind hlast other hother hmem
    have hcode := heq.of_isLast hlast
    cases h with
    | idle _ hlatch => exact k.code_ne_zero (hcode.symm.trans hlatch)
    | last key' k' behind' hlast' hlatch =>
      obtain rfl := PadKey.code_injective (hcode.symm.trans hlatch)
      have hsame : SameDigit digitOf key' other := hother.trans hlast'.digit.symm
      rcases hlast.suffix_or_eq hlast' fun _ heq => heq ▸ rfl with hs | ⟨-, rfl⟩
      · exact hlast'.held other hsame (hs.subset (List.mem_cons_of_mem _ hmem))
      · exact hlast'.held other hsame hmem
  · intro hnone
    by_cases hdown : ∃ key k, digitOf key = some k ∧ IsDown strokes key
    · obtain ⟨key, k, hdigit, hdown⟩ := hdown
      obtain ⟨key, k, behind, hlast⟩ := exists_isLast hdigit hdown
      refine .last key k behind hlast (h.of_isLast
        { suffix := hlast.suffix
          digit := hlast.digit
          held := fun other ho => hnone key k behind hlast other (ho.trans hlast.digit)
          last := fun other l hl hheld => hlast.last other l hl hheld.isDown })
    · cases h with
      | idle _ hlatch => exact .idle (fun key k hk hheld => hdown ⟨key, k, hk, hheld⟩) hlatch
      | last key k behind hlast =>
        exact absurd ⟨key, k, hlast.digit, hlast.isHeld.isDown⟩ hdown

/-! ## Real keyboards -/

theorem areReal_nil : AreReal ([] : List (KeyStroke κ)) := by
  intro front stroke behind h
  simp at h

theorem AreReal.append (h : AreReal strokes)
    (hlast : IsDown strokes stroke.key ↔ stroke.isPress = false) :
    AreReal (strokes ++ [stroke]) := by
  intro front first behind heq
  rcases List.eq_nil_or_concat behind with rfl | ⟨rest, last, rfl⟩
  · obtain ⟨rfl, hfirst⟩ := List.append_inj' heq rfl
    cases hfirst
    exact hlast
  · rw [List.concat_eq_append, ← List.cons_append, ← List.append_assoc] at heq
    exact h front first rest (List.append_inj_left' heq rfl)

theorem AreReal.press (h : AreReal strokes) (hup : ¬ IsDown strokes key) :
    AreReal (strokes ++ [⟨key, true⟩]) :=
  h.append ⟨fun hdown => absurd hdown hup, nofun⟩

theorem AreReal.release (h : AreReal strokes) (hdown : IsDown strokes key) :
    AreReal (strokes ++ [⟨key, false⟩]) :=
  h.append ⟨fun _ => rfl, fun _ => hdown⟩

/-- On a real keyboard without two keys of one digit down together, digits are as good as keys. -/
theorem AreReal.latches_eq (hreal : AreReal strokes) (hapart : AreApart digitOf strokes)
    (h : Latches (SameDigit digitOf) digitOf strokes latch) : Latches Eq digitOf strokes latch := by
  refine (latches_eq_iff h).mpr fun key k behind hlast other hother hmem => ?_
  obtain ⟨front, rfl⟩ := hlast.suffix
  obtain ⟨before, after, rfl⟩ := List.append_of_mem hmem
  have hsplit : front ++ ⟨key, true⟩ :: (before ++ ⟨other, false⟩ :: after) =
      (front ++ ⟨key, true⟩ :: before) ++ ⟨other, false⟩ :: after := by simp
  have hotherDown : IsDown (front ++ ⟨key, true⟩ :: before) other :=
    (hreal _ _ _ hsplit).mpr rfl
  have hkeyDown : IsDown (front ++ ⟨key, true⟩ :: before) key :=
    ⟨before, List.suffix_append _ _, fun other ho hbefore =>
      hlast.held other ho (List.mem_append_left _ hbefore)⟩
  have hsame : key = other :=
    hapart _ (hsplit ▸ List.prefix_append _ _) key other k hlast.digit hother hkeyDown hotherDown
  exact hlast.held other hsame hmem

/-! ## What a keypad shows -/

/-- The digit of a key, by the name that the host has for it. -/
def digitBy (nameOf : κ → Text) (key : κ) : Option PadKey := PadKey.ofName? (nameOf key)

/-- The stroke as an event of a keypad, by the name of its key. -/
def toPad (nameOf : κ → Text) (stroke : KeyStroke κ) : PadEvent :=
  if stroke.isPress then .press (nameOf stroke.key) else .release (nameOf stroke.key)

section

open PadEvent

variable {nameOf : κ → Text}

theorem reset_not_mem_toPad : PadEvent.reset ∉ strokes.map (toPad nameOf) := by
  intro hmem
  obtain ⟨stroke, -, hreset⟩ := List.mem_map.mp hmem
  unfold toPad at hreset
  split at hreset <;> cases hreset

theorem presses_toPad_iff : (toPad nameOf stroke).presses k = true ↔
    stroke.isPress = true ∧ digitBy nameOf stroke.key = some k := by
  cases hpress : stroke.isPress <;> simp [toPad, hpress, presses, digitBy]

theorem releases_toPad_iff : (toPad nameOf stroke).releases k = true ↔
    stroke.isPress = false ∧ digitBy nameOf stroke.key = some k := by
  cases hpress : stroke.isPress <;> simp [toPad, hpress, releases, digitBy]

/-- A press of the digit with no release of it behind is a press that is down, and the last press
of the digit is no earlier. -/
theorem isDown_of_suffix (hsuffix : ⟨key, true⟩ :: behind <:+ strokes)
    (hdigit : digitBy nameOf key = some k)
    (hup : ∀ other, digitBy nameOf other = some k → ⟨other, false⟩ ∉ behind) :
    PadEvent.IsDown (strokes.map (toPad nameOf)) k ∧
      strokes.length ≤ lastPress k (strokes.map (toPad nameOf)) + behind.length := by
  induction strokes using List.reverseRecOn generalizing behind with
  | nil => cases List.suffix_nil.mp hsuffix
  | append_singleton strokes stroke ih =>
    rw [List.map_append, List.map_singleton, List.length_append, List.length_singleton]
    by_cases hpress : (toPad nameOf stroke).presses k = true
    · rw [lastPress_append_of_presses hpress, List.length_map]
      exact ⟨isDown_append_of_presses hpress, by omega⟩
    · rcases cons_suffix_append_iff.mp hsuffix with ⟨-, rfl⟩ | ⟨rest, rfl, hrest⟩
      · exact absurd (presses_toPad_iff.mpr ⟨rfl, hdigit⟩) hpress
      · obtain ⟨hdown, hle⟩ := ih hrest fun other ho hmem =>
          hup other ho (List.mem_append_left _ hmem)
        rw [Bool.not_eq_true] at hpress
        rw [lastPress_append_of_not hpress, isDown_append_of_not hpress, List.length_append,
          List.length_singleton]
        refine ⟨⟨hdown, Bool.eq_false_iff.mpr fun hrelease => ?_⟩, by omega⟩
        obtain ⟨hfalse, hother⟩ := releases_toPad_iff.mp hrelease
        refine hup stroke.key hother (List.mem_append_right _ (List.mem_singleton.mpr ?_))
        rw [← hfalse]

/-- A digit that is down was last pressed by some key, and not released since. -/
theorem exists_suffix_of_isDown (h : PadEvent.IsDown (strokes.map (toPad nameOf)) k) :
    ∃ key behind, ⟨key, true⟩ :: behind <:+ strokes ∧
      digitBy nameOf key = some k ∧
      (∀ other, digitBy nameOf other = some k → ⟨other, false⟩ ∉ behind) ∧
      strokes.length = lastPress k (strokes.map (toPad nameOf)) + behind.length := by
  induction strokes using List.reverseRecOn with
  | nil => exact absurd h (not_isDown_nil k)
  | append_singleton strokes stroke ih =>
    rw [List.map_append, List.map_singleton] at h ⊢
    by_cases hpress : (toPad nameOf stroke).presses k = true
    · obtain ⟨htrue, hdigit⟩ := presses_toPad_iff.mp hpress
      refine ⟨stroke.key, [], cons_suffix_append_iff.mpr (.inl ⟨rfl, ?_⟩), hdigit,
        fun _ _ => List.not_mem_nil, ?_⟩
      · rw [← htrue]
      · rw [lastPress_append_of_presses hpress, List.length_map, List.length_append]
        rfl
    · rw [Bool.not_eq_true] at hpress
      obtain ⟨hdown, hrelease⟩ := (isDown_append_of_not hpress).mp h
      obtain ⟨key, rest, hrest, hdigit, hup, hlength⟩ := ih hdown
      refine ⟨key, rest ++ [stroke], cons_suffix_append_iff.mpr (.inr ⟨rest, rfl, hrest⟩), hdigit,
        fun other ho hmem => ?_, ?_⟩
      · rcases List.mem_append.mp hmem with hmem | hmem
        · exact hup other ho hmem
        · obtain rfl := List.mem_singleton.mp hmem
          exact Bool.false_ne_true (hrelease.symm.trans (releases_toPad_iff.mpr ⟨rfl, ho⟩))
      · rw [lastPress_append_of_not hpress, List.length_append, List.length_append, hlength]
        omega

/-- A keypad goes by digits: it shows the last press whose digit was not released since. -/
theorem latches_of_pad (h : Keypad.Latches (strokes.map (toPad nameOf)) latch) :
    Latches (SameDigit (digitBy nameOf)) (digitBy nameOf) strokes latch := by
  cases h with
  | down k hdown hlast hkey =>
    obtain ⟨key, behind, hsuffix, hdigit, hup, hlength⟩ := exists_suffix_of_isDown hdown
    refine .last key k behind ⟨hsuffix, hdigit, fun other ho => hup other (ho.trans hdigit),
      fun other l hl hheld => ?_⟩ hkey
    obtain ⟨rest, hrest, hends⟩ := hheld
    obtain ⟨hlater, hle⟩ := isDown_of_suffix (hrest.trans ((List.suffix_cons _ _).trans hsuffix)) hl
      fun other' ho => hends other' (ho.trans hl.symm)
    have hshorter : rest.length + 1 ≤ behind.length := hrest.length_le
    rcases hlast l hlater with rfl | hlt <;> omega
  | idle hup hkey =>
    refine .idle (fun key k hdigit hheld => ?_) hkey
    obtain ⟨behind, hsuffix, hends⟩ := hheld
    have hdown := isDown_of_suffix hsuffix hdigit fun other ho =>
      hends other (ho.trans hdigit.symm)
    exact hup k hdown.1

end

end KeyStroke

end Chip8
