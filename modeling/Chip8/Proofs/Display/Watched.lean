/-
  Displays that are watched. A watched display does what the display does and keeps every call, in
  their order, with the answers about cells. Drawing does the same whether it is watched or not
  (`agree_draw_watched`). Flipping places one after the other asks about each place and then
  draws the contrary of the answer there, whatever the display answers. It is cut short only by a
  call that the display itself refuses, and that is the last one made (`endsIn_forM_flipAt`).
-/
import Chip8.Proofs.Sprite

namespace Chip8

/-- What a display can be asked to do. -/
inductive DisplayCall where
  | powerOn
  | clear
  | getPixel (x y : Int)
  | drawPixel (x y : Int) (hint : Number) (on : Bool)
deriving DecidableEq, Repr

namespace DisplayCall

/-- The call on a display, without the answer. -/
def act {δ : Type} [Screen δ] : DisplayCall → Act (δ × Host) Unit
  | powerOn => Screen.powerOn
  | clear => modify Screen.clear
  | getPixel x y => do let _ ← Screen.getPixel x y
  | drawPixel x y hint on => Screen.drawPixel x y hint on

/-- Displays of a type can refuse the call with the fault. -/
def Raises (δ : Type) [Screen δ] (call : DisplayCall) (fault : Fault) : Prop :=
  ∃ s t : δ × Host, call.act s = .error fault t

/-- The two calls that flip a cell of which the display says whether it is lit. -/
def exchange (hint : Number) (place : Nat × Nat) (lit : Bool) : List DisplayCall :=
  [getPixel place.1 place.2, drawPixel place.1 place.2 hint (!lit)]

/-- The calls that flip places, with an answer about each. -/
def exchanges (hint : Number) (places : List (Nat × Nat)) (answers : List Bool) :
    List DisplayCall :=
  (places.zip answers).flatMap fun (place, lit) => exchange hint place lit

theorem exchanges_cons (hint : Number) (place : Nat × Nat) (places : List (Nat × Nat)) (lit : Bool)
    (answers : List Bool) : exchanges hint (place :: places) (lit :: answers) =
      exchange hint place lit ++ exchanges hint places answers := rfl

theorem length_exchanges (hint : Number) {places : List (Nat × Nat)} {answers : List Bool}
    (h : answers.length = places.length) :
    (exchanges hint places answers).length = 2 * places.length := by
  induction places generalizing answers with
  | nil => rfl
  | cons place places ih =>
    cases answers with
    | nil => cases h
    | cons lit answers =>
      rw [exchanges_cons, List.length_append, ih (Nat.succ.inj h), List.length_cons]
      change 2 + _ = _
      omega

end DisplayCall

/-- A display that keeps what it is asked to do. -/
structure Watched (δ : Type) where
  display : δ
  calls : List DisplayCall := []
  /-- The answers about cells, in the order of the questions. -/
  answers : List Bool := []

namespace Watched

variable {δ : Type}

/-- The display itself, with the host. -/
def unwatched (s : Watched δ × Host) : δ × Host := (s.1.display, s.2)

/-- A call is entered, and has led to the given display and host. -/
def entered (call : DisplayCall) (s : Watched δ × Host) (t : δ × Host) : Watched δ × Host :=
  ({ s.1 with display := t.1, calls := s.1.calls ++ [call] }, t.2)

/-- The last call was answered. -/
def answered (lit : Bool) (s : Watched δ × Host) : Watched δ × Host :=
  ({ s.1 with answers := s.1.answers ++ [lit] }, s.2)

variable [Screen δ]

instance : Screen (Watched δ) where
  powerOn := fun s => resultWithin (entered .powerOn s) (Screen.powerOn (unwatched s))
  clear s := entered .clear s (Screen.clear (unwatched s))
  width w := Screen.width w.display
  height w := Screen.height w.display
  getPixel x y := fun s =>
    match Screen.getPixel x y (unwatched s) with
    | .ok lit t => .ok lit (answered lit (entered (.getPixel x y) s t))
    | .error fault t => .error fault (entered (.getPixel x y) s t)
  drawPixel x y hint on := fun s =>
    resultWithin (entered (.drawPixel x y hint on) s)
      (Screen.drawPixel x y hint on (unwatched s))

end Watched

namespace Sprite

open DisplayCall

/-! ## What was asked for -/

variable {δ : Type} {hint : Number} {place : Nat × Nat} {places : List (Nat × Nat)}
  {fault : Fault} {c c' c'' : Canvas (Watched δ)} {made made' : List DisplayCall}
  {given given' : List Bool}

/-- What was asked for and answered from one canvas to the other. A lit cell was met if an answer
says so. -/
structure Tells (c c' : Canvas (Watched δ)) (made : List DisplayCall) (given : List Bool) :
    Prop where
  calls : c'.screen.1.calls = c.screen.1.calls ++ made
  answers : c'.screen.1.answers = c.screen.1.answers ++ given
  hit : c'.hit = (c.hit || decide (true ∈ given))

theorem Tells.refl (c : Canvas (Watched δ)) : Tells c c [] [] where
  calls := (List.append_nil _).symm
  answers := (List.append_nil _).symm
  hit := (Bool.or_false _).symm

theorem Tells.trans (h : Tells c c' made given) (h' : Tells c' c'' made' given') :
    Tells c c'' (made ++ made') (given ++ given') where
  calls := by rw [h'.calls, h.calls, List.append_assoc]
  answers := by rw [h'.answers, h.answers, List.append_assoc]
  hit := by
    rw [h'.hit, h.hit, Bool.or_assoc, ← Bool.decide_or]
    simp only [List.mem_append]

variable [Screen δ]

/-! ## Watched and not watched -/

/-- The same canvas, watched and not watched. -/
def IsWatched (c : Canvas δ) (c' : Canvas (Watched δ)) : Prop :=
  c = ⟨Watched.unwatched c'.screen, c'.hit⟩

theorem agree_flipCell_watched (hint : Number) (x y : Nat) :
    Act.Agree (IsWatched (δ := δ)) (flipCell hint x y) (flipCell hint x y) := by
  rintro _ ⟨s, hit⟩ rfl
  unfold flipCell
  simp only [Screen.getPixel, Screen.drawPixel]
  cases Screen.getPixel (x : Int) (y : Int) (Watched.unwatched s) with
  | error fault t => exact .error rfl
  | ok lit t =>
    dsimp only [Watched.unwatched, Watched.answered, Watched.entered]
    cases Screen.drawPixel (x : Int) (y : Int) hint (!lit) t with
    | error fault u => exact .error rfl
    | ok a u => exact .ok rfl

/-- Drawing does the same whether it is watched or not. -/
theorem agree_draw_watched (hint : Number) (row : Nat → Except Fault Byte) (left top count : Nat) :
    Act.Agree (IsWatched (δ := δ)) (draw hint row left top count)
      (draw hint row left top count) := by
  rintro _ c rfl
  rw [draw_def, draw_def]
  exact Act.agree_forM _ (fun i _ => Act.agree_bind (Act.agree_ofExcept _) fun dots =>
    Act.agree_forM _ fun col _ => agree_flipCell_watched hint _ _) _ _ rfl

/-! ## The calls that flip places -/

/-- The calls that flip places, up to one that the display refuses. What would have been answered
later is left open. -/
def IsCut (δ : Type) [Screen δ] (hint : Number) (places : List (Nat × Nat)) (fault : Fault)
    (made : List DisplayCall) (given : List Bool) : Prop :=
  (∃ answers, answers.length = places.length ∧ made <+: exchanges hint places answers ∧
    given <+: answers) ∧
  given.length = made.length / 2 ∧ ∃ call, made.getLast? = some call ∧ call.Raises δ fault

/-- Flipping a place is an exchange of two calls, or ends with the one that is refused. -/
theorem endsIn_flipAt (hint : Number) (place : Nat × Nat) (c : Canvas (Watched δ)) :
    EndsIn (fun _ c' => ∃ lit, Tells c c' (exchange hint place lit) [lit])
      (fun fault c' => ∃ made given, Tells c c' made given ∧ IsCut δ hint [place] fault made given)
      (flipAt hint place c) := by
  obtain ⟨s, hit⟩ := c
  unfold flipAt flipCell
  simp only [Screen.getPixel, Screen.drawPixel]
  cases hread : Screen.getPixel (place.1 : Int) (place.2 : Int) (Watched.unwatched s) with
  | error fault t =>
    refine ⟨[getPixel place.1 place.2], [], ⟨rfl, (List.append_nil _).symm, (Bool.or_false _).symm⟩,
      ⟨[false], rfl, ⟨_, rfl⟩, ⟨_, rfl⟩⟩, by simp, getPixel place.1 place.2, rfl,
      Watched.unwatched s, t, ?_⟩
    exact Act.bind_error hread
  | ok lit t =>
    have htells (u : δ × Host) : Tells ⟨s, hit⟩
        ⟨Watched.entered (drawPixel place.1 place.2 hint (!lit))
          (Watched.answered lit (Watched.entered (getPixel place.1 place.2) s t)) u, hit || lit⟩
        (exchange hint place lit) [lit] :=
      ⟨List.append_assoc .., rfl, by cases lit <;> rfl⟩
    dsimp only [Watched.unwatched, Watched.answered, Watched.entered]
    cases hdraw : Screen.drawPixel (place.1 : Int) (place.2 : Int) hint (!lit) t with
    | error fault u =>
      exact ⟨_, _, htells u, ⟨[lit], rfl, ⟨_, List.append_nil _⟩, ⟨_, rfl⟩⟩, by simp [exchange], _,
        rfl, t, u, hdraw⟩
    | ok a u => exact ⟨lit, htells u⟩

/-- A cut in what is left after the first exchange is a cut of the whole. -/
theorem IsCut.cons (h : IsCut δ hint places fault made given)
    (place : Nat × Nat) (lit : Bool) :
    IsCut δ hint (place :: places) fault (exchange hint place lit ++ made) (lit :: given) := by
  obtain ⟨⟨answers, hlength, hmade, hgiven⟩, hhalf, call, hlast, hraises⟩ := h
  refine ⟨⟨lit :: answers, congrArg (· + 1) hlength, ?_, ?_⟩, ?_, call, ?_, hraises⟩
  · rw [exchanges_cons]
    exact (List.prefix_append_right_inj _).mpr hmade
  · exact List.cons_prefix_cons.mpr ⟨rfl, hgiven⟩
  · rw [List.length_append, List.length_cons, hhalf]
    change _ = (2 + _) / 2
    omega
  · rw [List.getLast?_append, hlast]
    rfl

/-- A cut at the first place is a cut of the whole. -/
theorem IsCut.append (h : IsCut δ hint [place] fault made given)
    (places : List (Nat × Nat)) : IsCut δ hint (place :: places) fault made given := by
  obtain ⟨⟨answers, hlength, hmade, hgiven⟩, hrest⟩ := h
  obtain ⟨lit, rfl⟩ := List.length_eq_one_iff.mp hlength
  refine ⟨⟨lit :: List.replicate places.length false, ?_, ?_, ?_⟩, hrest⟩
  · rw [List.length_cons, List.length_replicate, List.length_cons]
  · exact hmade.trans (List.prefix_append _ _)
  · exact hgiven.trans (List.prefix_append [lit] _)

/-- Flipping places makes an exchange for each of them, one after the other, or ends with a call
that is refused. -/
theorem endsIn_forM_flipAt (hint : Number) (places : List (Nat × Nat)) (c : Canvas (Watched δ)) :
    EndsIn (fun _ c' => ∃ given, given.length = places.length ∧
        Tells c c' (exchanges hint places given) given)
      (fun fault c' => ∃ made given, Tells c c' made given ∧ IsCut δ hint places fault made given)
      (places.forM (flipAt hint) c) := by
  induction places generalizing c with
  | nil => exact ⟨[], rfl, .refl c⟩
  | cons place rest ih =>
    have hfirst : EndsIn (fun _ c' => ∃ lit, Tells c c' (exchange hint place lit) [lit])
        (fun fault c' => ∃ made given, Tells c c' made given ∧
          IsCut δ hint (place :: rest) fault made given) (flipAt hint place c) := by
      refine (endsIn_flipAt hint place c).mono (fun _ _ h => h) ?_
      rintro fault c₁ ⟨made, given, htells, hcut⟩
      exact ⟨made, given, htells, hcut.append rest⟩
    refine hfirst.bind ?_
    rintro _ c₁ ⟨lit, htells⟩
    refine (ih c₁).mono ?_ ?_
    · rintro _ c₂ ⟨given, hlength, hrest⟩
      exact ⟨lit :: given, congrArg (· + 1) hlength, htells.trans hrest⟩
    · rintro fault c₂ ⟨made, given, hrest, hcut⟩
      exact ⟨_, _, htells.trans hrest, hcut.cons place lit⟩

end Sprite

end Chip8
