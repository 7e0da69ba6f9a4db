/-
  What drawing asks of a display, whatever the display is. The bits of a word's sprite that lie on
  the screen have places, row by row and each row from the left (`Machine.bitPlaces`). A word that
  draws asks about each place and draws the contrary of the answer there, and asks for nothing else
  (`calls_of_draw`). The flag register tells whether an answer was yes. Only the display itself can
  cut this short, as an open window does whose cells are too large to paint (`exists_draw_cut`).
-/
import Chip8.Proofs.Display.Watched
import Chip8.Proofs.Machine.Addresses
import Chip8.Proofs.Machine.Drawing
import Chip8.Proofs.Machine.Failure

namespace Chip8

namespace Machine

variable {δ : Type} [Screen δ] {m : Machine δ} {w : Word}

/-- The places on the screen where a row of the word's sprite has a bit, from the most significant
bit on. -/
def rowPlaces (m : Machine δ) (w : Word) (row : Nat) : List (Nat × Nat) :=
  let left := (m.cpu.get w.x).toNat
  let top := (m.cpu.get w.y).toNat
  ((List.range 8).filter fun col : Nat => m.spriteBit w row col &&
    decide (left + col < Screen.width m.display ∧ top + row < Screen.height m.display)).map
      fun col => (left + col, top + row)

/-- The places on the screen where the word's sprite has a bit, row by row. -/
def bitPlaces (m : Machine δ) (w : Word) : List (Nat × Nat) :=
  (List.range w.n).flatMap (m.rowPlaces w)

/-- The rows of the word's sprite that lie on the screen can be read. -/
def HoldsSprite (m : Machine δ) (w : Word) : Prop :=
  ∀ row < w.n, (m.cpu.get w.y).toNat + row < Screen.height m.display →
    ∃ byte, m.memory.load (m.cpu.i + row) = .ok byte

/-- Rows below the screen have no places. -/
theorem rowPlaces_of_le {row : Nat}
    (h : Screen.height m.display ≤ (m.cpu.get w.y).toNat + row) : m.rowPlaces w row = [] := by
  unfold rowPlaces
  rw [List.map_eq_nil_iff, List.filter_eq_nil_iff]
  intro col _ hbit
  have := (decide_eq_true_iff.mp (Bool.and_eq_true_iff.mp hbit).2).2
  omega

/-- The places of a row that can be read are those of the dots that drawing goes through. -/
theorem rowPlaces_of_load {row : Nat} {byte : Byte} (hrow : row < w.n)
    (hheight : (m.cpu.get w.y).toNat + row < Screen.height m.display)
    (h : m.memory.load (m.cpu.i + row) = .ok byte) :
    m.rowPlaces w row = Sprite.rowDots byte (m.cpu.get w.x).toNat ((m.cpu.get w.y).toNat + row)
      (Screen.width m.display) := by
  unfold rowPlaces Sprite.rowDots Sprite.visibleDots
  dsimp only
  congr 1
  refine List.filter_congr fun col hcol => ?_
  rw [spriteBit_of_load hrow (List.mem_range.mp hcol) h,
    decide_eq_decide.mpr (and_iff_left hheight)]

/-- The places of the sprite are those of its dots in the rows on the screen. -/
theorem bitPlaces_eq {bytes : Nat → Byte}
    (h : ∀ row < Sprite.visibleRows w.n (m.cpu.get w.y).toNat (Screen.height m.display),
      m.memory.load (m.cpu.i + row) = .ok (bytes row)) :
    m.bitPlaces w = Sprite.dots bytes (m.cpu.get w.x).toNat (m.cpu.get w.y).toNat
      (Screen.width m.display)
      (Sprite.visibleRows w.n (m.cpu.get w.y).toNat (Screen.height m.display)) := by
  unfold bitPlaces Sprite.dots
  generalize hrows : Sprite.visibleRows w.n (m.cpu.get w.y).toNat (Screen.height m.display) = rows
    at h ⊢
  unfold Sprite.visibleRows at hrows
  obtain ⟨below, hn⟩ := Nat.exists_eq_add_of_le (show rows ≤ w.n by omega)
  have hfront : (List.range rows).flatMap (m.rowPlaces w) =
      (List.range rows).flatMap fun row => Sprite.rowDots (bytes row) (m.cpu.get w.x).toNat
        ((m.cpu.get w.y).toNat + row) (Screen.width m.display) := by
    refine List.flatMap_congr fun row hrow => ?_
    have hlt := List.mem_range.mp hrow
    exact rowPlaces_of_load (by omega) (by omega) (h row hlt)
  have hbelow : ((List.range below).map (rows + ·)).flatMap (m.rowPlaces w) = [] := by
    refine List.flatMap_eq_nil_iff.mpr fun row hrow => ?_
    obtain ⟨k, hk, rfl⟩ := List.mem_map.mp hrow
    have hlt := List.mem_range.mp hk
    exact rowPlaces_of_le (by omega)
  rw [hn, List.range_add, List.flatMap_append, hfront, hbelow, List.append_nil]

/-- The rows that can be read, row by row. -/
theorem HoldsSprite.exists_bytes (h : m.HoldsSprite w) : ∃ bytes : Nat → Byte,
    ∀ row < Sprite.visibleRows w.n (m.cpu.get w.y).toNat (Screen.height m.display),
      m.memory.load (m.cpu.i + row) = .ok (bytes row) := by
  have hrows : ∀ row < Sprite.visibleRows w.n (m.cpu.get w.y).toNat (Screen.height m.display),
      ∃ byte, m.memory.load (m.cpu.i + row) = .ok byte := by
    intro row hrow
    unfold Sprite.visibleRows at hrow
    exact h row (by omega) (by omega)
  choose! bytes hbytes using hrows
  exact ⟨bytes, hbytes⟩

/-- No place is met twice. -/
theorem nodup_bitPlaces (m : Machine δ) (h : m.HoldsSprite w) : (m.bitPlaces w).Nodup := by
  obtain ⟨bytes, hbytes⟩ := h.exists_bytes
  rw [bitPlaces_eq hbytes]
  exact Sprite.nodup_dots ..

theorem mem_bitPlaces {place : Nat × Nat} : place ∈ m.bitPlaces w ↔
    (place.1 < Screen.width m.display ∧ place.2 < Screen.height m.display) ∧
      m.spriteBit w (place.2 - (m.cpu.get w.y).toNat) (place.1 - (m.cpu.get w.x).toNat) = true := by
  obtain ⟨px, py⟩ := place
  unfold bitPlaces rowPlaces
  simp only [List.mem_flatMap, List.mem_range, List.mem_map, List.mem_filter, Bool.and_eq_true,
    decide_eq_true_eq, Prod.mk.injEq]
  constructor
  · rintro ⟨row, -, col, ⟨-, hbit, hhas⟩, rfl, rfl⟩
    simp only [Int.natCast_add, add_sub_cancel_left]
    exact ⟨hhas, hbit⟩
  · rintro ⟨hhas, hbit⟩
    have hin := decide_eq_true_iff.mp (Bool.and_eq_true_iff.mp hbit).1
    have hrow : ((py - (m.cpu.get w.y).toNat : Nat) : Int) = py - (m.cpu.get w.y).toNat := by omega
    have hcol : ((px - (m.cpu.get w.x).toNat : Nat) : Int) = px - (m.cpu.get w.x).toNat := by omega
    refine ⟨py - (m.cpu.get w.y).toNat, by omega, px - (m.cpu.get w.x).toNat,
      ⟨by omega, by rwa [hrow, hcol], by omega, by omega⟩, by omega, by omega⟩

/-- All places lie on the screen. -/
theorem lt_of_mem_bitPlaces (m : Machine δ) {place : Nat × Nat} (h : place ∈ m.bitPlaces w) :
    place.1 < Screen.width m.display ∧ place.2 < Screen.height m.display :=
  (mem_bitPlaces.mp h).1

/-! ## Sprites that lie in memory -/

section

variable {m : Machine Display} {limit : Int}

theorem IsBounded.holdsSprite (hm : m.IsBounded limit) (h : m.cpu.i + w.n ≤ 0x1000) :
    m.HoldsSprite w := by
  have hsize := hm.memory
  have hi := hm.cpu.i_nonneg
  unfold Memory.standardSize at hsize
  exact fun row hrow _ => ⟨_, hm.canTransfer.load_of_lt (by unfold base; omega)⟩

/-- All rows on the screen can be read. -/
theorem IsBounded.readableRows_eq (hm : m.IsBounded limit) (h : m.cpu.i + w.n ≤ 0x1000) :
    m.readableRows w = m.spriteRows w := by
  have hsize := hm.memory
  have hi := hm.cpu.i_nonneg
  have hle : m.spriteRows w ≤ w.n := Nat.min_le_left ..
  unfold Memory.standardSize at hsize
  unfold readableRows base
  omega

theorem IsBounded.bitPlaces_eq_spriteDots (hm : m.IsBounded limit) (h : m.cpu.i + w.n ≤ 0x1000) :
    m.bitPlaces w = m.spriteDots w := by
  rw [spriteDots, hm.readableRows_eq h]
  refine bitPlaces_eq fun row hrow => hm.canTransfer.load_of_lt ?_
  have hrows := hm.readableRows_eq h
  unfold readableRows at hrows
  have hspriteRows : row < m.spriteRows w := hrow
  omega

end

end Machine

namespace Emulator

variable {δ δ' : Type}

/-! ## Watched and not watched -/

/-- The emulator with another display. -/
def withDisplay (d : δ') (e : Emulator δ) : Emulator δ' where
  machine :=
    { cpu := e.machine.cpu
      executed := e.machine.executed
      memory := e.machine.memory
      display := d
      keyboard := e.machine.keyboard
      audio := e.machine.audio
      random := e.machine.random
      table := e.machine.table
      hint := e.machine.hint }
  host := e.host

/-- The emulator with its display watched from here on. -/
def watched (e : Emulator δ) : Emulator (Watched δ) := e.withDisplay ⟨e.machine.display, [], []⟩

/-- The emulator with its display no longer watched. -/
def unwatched (e : Emulator (Watched δ)) : Emulator δ := e.withDisplay e.machine.display.display

theorem sharesMemory_watched :
    SharesMemory fun (e : Emulator δ) (e' : Emulator (Watched δ)) => e = e'.unwatched where
  cpu := by rintro _ _ rfl; rfl
  key := by rintro _ _ rfl; rfl
  random := by rintro _ _ rfl; rfl
  withCpu := by rintro _ _ rfl _; rfl
  withRandom := by rintro _ _ rfl _; rfl
  counted := by rintro _ _ rfl; rfl
  log := by rintro _ _ rfl _ _; rfl
  memory := by rintro _ _ rfl; rfl
  withMemory := by rintro _ _ rfl _; rfl

variable [Screen δ] {e : Emulator δ} {w : Word}

theorem agree_drawSprite_watched (x y : Register) (count : Nat) :
    Act.Agree (fun (e : Emulator δ) (e' : Emulator (Watched δ)) => e = e'.unwatched)
      (drawSprite x y count) (drawSprite x y count) := by
  rintro _ e rfl
  have hdraw := Sprite.agree_draw_watched (δ := δ) e.machine.hint
    (fun row => e.machine.memory.load (e.machine.cpu.i + row)) (e.machine.cpu.get x).toNat
    (e.machine.cpu.get y).toNat count ⟨e.unwatched.stage, false⟩ ⟨e.stage, false⟩ rfl
  refine hdraw.resultWithin fun c c' hc => ?_
  subst hc
  rfl

/-- A word does the same whether the display is watched or not. -/
theorem execute_watched (htable : e.machine.table = some standardTable) (w : Word) :
    execute w e = resultWithin unwatched (execute w e.watched) := by
  have hmatch : Matching (fun e e' => e = e'.unwatched) (execute w e) (execute w e.watched) := by
    have hstart : e = e.watched.unwatched := rfl
    refine matching_execute sharesMemory_watched.toShares hstart htable htable
      fun op _ e₁ e₁' h _ _ => ?_
    by_cases hdraw : op = .draw
    · subst hdraw
      exact agree_drawSprite_watched w.x w.y w.n e₁ e₁' h
    · by_cases hclear : op = .clearScreen
      · subst hclear h
        exact .ok rfl
      · exact sharesMemory_watched.agree_perform hclear hdraw w e₁ e₁' h
  generalize execute w e = r at hmatch
  generalize execute w e.watched = r' at hmatch
  cases hmatch with
  | ok h => rw [h]; rfl
  | error h => rw [h]; rfl

/-! ## Drawing on a watched display -/

open DisplayCall Sprite

/-- Drawing rows that can be read flips the places of the sprite's bits. -/
theorem perform_draw_of_holdsSprite (hread : e.machine.HoldsSprite w) :
    perform .draw w e = resultWithin (fun c =>
        (e.withStage c.screen).mapCpu (·.set flagRegister (if c.hit then 1 else 0)))
      ((e.machine.bitPlaces w).forM (flipAt e.machine.hint) ⟨e.stage, false⟩) := by
  obtain ⟨bytes, hbytes⟩ := hread.exists_bytes
  rw [Machine.bitPlaces_eq hbytes, ← forM_drawnRow hbytes]
  rfl

theorem perform_draw_withMemory {memory : Memory}
    (hsame : ∀ row < w.n, (e.machine.cpu.get w.y).toNat + row < Screen.height e.machine.display →
      memory.load (e.machine.cpu.i + row) = e.machine.memory.load (e.machine.cpu.i + row)) :
    perform .draw w (e.withMemory memory) =
      resultWithin (withMemory memory) (perform .draw w e) := by
  let drawn (source : Memory) : EStateM.Result Fault (Canvas δ) Unit :=
    draw e.machine.hint (fun row => source.load (e.machine.cpu.i + row))
      (e.machine.cpu.get w.x).toNat (e.machine.cpu.get w.y).toNat w.n ⟨e.stage, false⟩
  have hdrawn : drawn memory = drawn e.machine.memory := by
    refine draw_congr _ _ _ _ _ _ _ fun row hrow => ?_
    change row < min _ (Screen.height e.machine.display - _) at hrow
    exact hsame row (by omega) (by omega)
  change resultWithin _ (drawn memory) = resultWithin _ (resultWithin _ (drawn e.machine.memory))
  rw [hdrawn]
  cases drawn e.machine.memory <;> rfl

/-- Drawing does not depend on memory outside the rows on the screen. -/
theorem execute_draw_withMemory (htable : e.machine.table = some standardTable)
    (hdraw : w.IsDraw) {memory : Memory}
    (hsame : ∀ row < w.n, (e.machine.cpu.get w.y).toNat + row < Screen.height e.machine.display →
      memory.load (e.machine.cpu.i + row) = e.machine.memory.load (e.machine.cpu.i + row)) :
    execute w (e.withMemory memory) = resultWithin (withMemory memory) (execute w e) := by
  have hop := Word.operation?_eq_draw_iff.mpr hdraw
  have hperform := perform_draw_withMemory (e := e.announce .draw w) hsame
  have hstart : (e.withMemory memory).announce .draw w = (e.announce .draw w).withMemory memory :=
    rfl
  rw [execute_of_operation? (e := e.withMemory memory) htable hop, hstart,
    execute_of_operation? htable hop]
  cases hp : perform .draw w (e.announce .draw w) with
  | error fault e₁ =>
    rw [hp] at hperform
    rw [Act.bind_error hp, Act.bind_error hperform]
    rfl
  | ok a e₁ =>
    rw [hp] at hperform
    rw [Act.bind_ok hp, Act.bind_ok hperform]
    exact congrArg (EStateM.Result.ok ()) (complete_withMemory _ memory e₁)

/-- What a watched display is asked for to draw a sprite whose rows can be read. -/
theorem endsIn_perform_draw {e : Emulator (Watched δ)} (hcalls : e.machine.display.calls = [])
    (hanswers : e.machine.display.answers = []) (hread : e.machine.HoldsSprite w) :
    EndsIn
      (fun _ e' => e'.machine.display.answers.length = (e.machine.bitPlaces w).length ∧
        e'.machine.display.calls =
          exchanges e.machine.hint (e.machine.bitPlaces w) e'.machine.display.answers ∧
        e'.machine.cpu.get flagRegister = if true ∈ e'.machine.display.answers then 1 else 0)
      (fun fault e' => IsCut δ e.machine.hint (e.machine.bitPlaces w) fault
          e'.machine.display.calls e'.machine.display.answers ∧
        e'.machine.cpu.get flagRegister = if true ∈ e'.machine.display.answers then 1 else 0)
      (perform .draw w e) := by
  have hmade {c : Canvas (Watched δ)} {made : List DisplayCall} {given : List Bool}
      (h : Tells ⟨e.stage, false⟩ c made given) :
      c.screen.1.calls = made ∧ c.screen.1.answers = given ∧
        ((e.withStage c.screen).mapCpu
            (·.set flagRegister (if c.hit then 1 else 0))).machine.cpu.get flagRegister =
          if true ∈ given then 1 else 0 := by
    refine ⟨?_, ?_, (Cpu.get_set_same ..).trans ?_⟩
    · exact h.calls.trans (congrArg (· ++ made) hcalls)
    · exact h.answers.trans (congrArg (· ++ given) hanswers)
    · rw [h.hit]
      simp only [Bool.false_or, decide_eq_true_eq]
  rw [perform_draw_of_holdsSprite hread]
  refine EndsIn.resultWithin _ ((endsIn_forM_flipAt _ _ _).mono ?_ ?_)
  · rintro _ c ⟨given, hlength, htells⟩
    obtain ⟨hcalls', rfl, hflag⟩ := hmade htells
    exact ⟨hlength, hcalls', hflag⟩
  · rintro fault c ⟨made, given, htells, hcut⟩
    obtain ⟨rfl, rfl, hflag⟩ := hmade htells
    exact ⟨hcut, hflag⟩

end Emulator

open DisplayCall Emulator

variable {δ : Type} [Screen δ] {e : Emulator δ} {w : Word}

/-- A word that draws, on any display, whose rows on the screen can be read. The places of its
bits are met once each and lie on the screen. Watched, the word does what it does otherwise, and
the calls are a question about each place, in their order, with the contrary of the answer drawn
there; if it fails, they are these calls up to the one that the display refuses. The flag register
is one if a cell was said to be lit and zero if none was. Memory outside the rows on the screen
does not matter. -/
theorem calls_of_draw (htable : e.machine.table = some standardTable) (hdraw : w.IsDraw)
    (hread : ∀ row < w.n, (e.machine.cpu.get w.y).toNat + row < Screen.height e.machine.display →
      ∃ byte, e.machine.memory.load (e.machine.cpu.i + row) = .ok byte) :
    let places := e.machine.bitPlaces w
    (places.Nodup ∧ ∀ place ∈ places,
      place.1 < Screen.width e.machine.display ∧ place.2 < Screen.height e.machine.display) ∧
    execute w e = resultWithin unwatched (execute w e.watched) ∧
    EndsIn
      (fun _ e' => e'.machine.display.answers.length = places.length ∧
        e'.machine.display.calls =
          exchanges e.machine.hint places e'.machine.display.answers ∧
        e'.machine.cpu.get flagRegister = if true ∈ e'.machine.display.answers then 1 else 0)
      (fun fault e' => Sprite.IsCut δ e.machine.hint places fault
          e'.machine.display.calls e'.machine.display.answers ∧
        e'.machine.cpu.get flagRegister = if true ∈ e'.machine.display.answers then 1 else 0)
      (execute w e.watched) ∧
    ∀ memory, (∀ row < w.n,
        (e.machine.cpu.get w.y).toNat + row < Screen.height e.machine.display →
        memory.load (e.machine.cpu.i + row) = e.machine.memory.load (e.machine.cpu.i + row)) →
      execute w (e.withMemory memory) = resultWithin (withMemory memory) (execute w e) := by
  refine ⟨⟨e.machine.nodup_bitPlaces hread, fun _ => e.machine.lt_of_mem_bitPlaces⟩,
    execute_watched htable w, ?_, fun memory hsame => execute_draw_withMemory htable hdraw hsame⟩
  rw [execute_of_operation? (e := e.watched) htable (Word.operation?_eq_draw_iff.mpr hdraw)]
  have hperform := endsIn_perform_draw (e := e.watched.announce .draw w) rfl rfl hread
  refine hperform.bind fun _ e₁ h => ?_
  change EndsIn _ _ (.ok () (complete _ e₁))
  unfold complete
  split
  · exact h
  · exact h

/-- Two rows at the lower edge of a display that keeps nothing, with the column in the flag
register. Only the first of them lies in memory, and only the first is on the screen. -/
theorem calls_of_draw_edge : ∃ (e : Emulator NullDisplay) (e' : Emulator (Watched NullDisplay)),
    e.machine.cpu.get flagRegister = 62 ∧ e.machine.memory = ⟨#[0xC0]⟩ ∧
    execute 0xDF12 e.watched = .ok () e' ∧
    e'.machine.display.calls =
      [getPixel 62 31, drawPixel 62 31 Number.one true,
        getPixel 63 31, drawPixel 63 31 Number.one true] ∧
    e'.machine.cpu.get flagRegister = 0 := by
  obtain ⟨e, hcolumn, hmemory, htable, hhint, hread, hplaces⟩ : ∃ e : Emulator NullDisplay,
      e.machine.cpu.get flagRegister = 62 ∧ e.machine.memory = ⟨#[0xC0]⟩ ∧
      e.machine.table = some standardTable ∧ e.machine.hint = Number.one ∧
      e.machine.HoldsSprite 0xDF12 ∧ e.machine.bitPlaces 0xDF12 = [(62, 31), (63, 31)] := by
    let e : Emulator NullDisplay :=
      { machine :=
          { cpu := (({} : Cpu).set flagRegister 62).set 1 31
            memory := ⟨#[0xC0]⟩
            display := {}
            keyboard := .latch 0
            audio := .counter {} }
        host := {} }
    refine ⟨e, rfl, rfl, rfl, rfl, fun row hrow hheight => ?_, by decide⟩
    have hlt : 31 + row < 32 := hheight
    obtain rfl : row = 0 := by omega
    exact ⟨0xC0, rfl⟩
  have hdraw : Word.IsDraw 0xDF12 := by decide
  obtain ⟨e₁, hp, hanswers⟩ : ∃ e₁, perform .draw 0xDF12 (e.watched.announce .draw 0xDF12) =
      .ok () e₁ ∧ e₁.machine.display.answers = [false, false] := by
    have hperform := perform_draw_of_holdsSprite (e := e.watched.announce .draw 0xDF12) hread
    have hsame : (e.watched.announce .draw 0xDF12).machine.bitPlaces 0xDF12 =
      [(62, 31), (63, 31)] := hplaces
    rw [hsame] at hperform
    exact ⟨_, hperform, rfl⟩
  have h : execute 0xDF12 e.watched = .ok () (complete Operation.draw.row e₁) :=
    (execute_of_operation? (e := e.watched) htable
      (Word.operation?_eq_draw_iff.mpr hdraw)).trans (Act.bind_ok hp)
  rw [← display_complete Operation.draw.row] at hanswers
  obtain ⟨-, hcalls, hflag⟩ := (calls_of_draw htable hdraw hread).2.2.1.of_ok h
  rw [hanswers] at hcalls hflag
  rw [hplaces, hhint] at hcalls
  exact ⟨e, _, hcolumn, hmemory, h, hcalls, hflag⟩

namespace Emulator

/-- Where the first cell is refused, drawing ends with at most two calls. -/
theorem perform_draw_of_refused {e : Emulator (Watched δ)} {place : Nat × Nat}
    {rest : List (Nat × Nat)} {fault : Fault} {c : Sprite.Canvas (Watched δ)}
    (hcalls : e.machine.display.calls = []) (hread : e.machine.HoldsSprite w)
    (hplaces : e.machine.bitPlaces w = place :: rest)
    (hfirst : Sprite.flipAt e.machine.hint place ⟨e.stage, false⟩ = .error fault c) :
    ∃ e', perform .draw w e = .error fault e' ∧ e'.machine.display.calls.length ≤ 2 := by
  have hflips : (e.machine.bitPlaces w).forM (Sprite.flipAt e.machine.hint) ⟨e.stage, false⟩ =
      .error fault c := by
    rw [hplaces]
    exact Act.bind_error hfirst
  have hperform := perform_draw_of_holdsSprite hread
  rw [hflips] at hperform
  refine ⟨_, hperform, ?_⟩
  obtain ⟨made, given, htells, ⟨answers, hlength, hmade, -⟩, -⟩ :=
    (Sprite.endsIn_flipAt e.machine.hint place _).of_error hfirst
  have hsame : c.screen.1.calls = made := htells.calls.trans (congrArg (· ++ made) hcalls)
  have hle := hmade.length_le
  rw [length_exchanges _ hlength] at hle
  exact hsame ▸ hle

/-- In the window with cells too large to paint the whole sprite lies in memory. -/
theorem exists_oversized_places : ∃ (e : Emulator Display) (host' : Host),
    Machine.create { display := .window Window.oversized, rom := [0xD0, 0x05] } {} =
      .ok e host' ∧
    e.IsReachable ∧ e.machine.fetch = .ok 0xD005 ∧ e.machine.display.isOversized = true ∧
    e.machine.HoldsSprite 0xD005 ∧
    ∃ rest, e.machine.bitPlaces 0xD005 = (0, 0) :: (1, 0) :: rest := by
  obtain ⟨e, host', hcreate, hreach, hcpu, hfetch, hover, -, rest, hdots⟩ := exists_oversized
  have hm := hreach.isBounded
  have hroom : e.machine.cpu.i + Word.n 0xD005 ≤ 0x1000 := by
    rw [hcpu]
    decide
  exact ⟨e, host', hcreate, hreach, hfetch, hover, hm.holdsSprite hroom, rest,
    (hm.bitPlaces_eq_spriteDots hroom).trans hdots⟩

end Emulator

/-- There the first cell ends the calls, although the sprite goes on. -/
theorem exists_draw_cut : ∃ (e : Emulator Display) (e' : Emulator (Watched Display)) (host' : Host),
    Machine.create { display := .window Window.oversized, rom := [0xD0, 0x05] } {} =
      .ok e host' ∧
    e.machine.fetch = .ok 0xD005 ∧ e.machine.HoldsSprite 0xD005 ∧
    execute 0xD005 e.watched = .error .numberTooLarge e' ∧
    ∀ answers : List Bool, answers.length = (e.machine.bitPlaces 0xD005).length →
      e'.machine.display.calls ≠
        exchanges e.machine.hint (e.machine.bitPlaces 0xD005) answers := by
  obtain ⟨e, host', hcreate, hreach, hfetch, hover, hread, rest, hplaces⟩ :=
    exists_oversized_places
  have hm := hreach.isBounded
  have hhas : e.machine.display.Has (0, 0) :=
    e.machine.lt_of_mem_bitPlaces (hplaces ▸ List.mem_cons_self)
  -- the first flip fails without being watched, hence also when it is
  obtain ⟨c, -, -, hflip⟩ := Sprite.flipCell_eq (c := ⟨(e.announce .draw 0xD005).stage, false⟩)
    hreach.isCountable hhas
  have hpaint : e.machine.display.paintFault? = some .numberTooLarge := if_pos hover
  have hfails : Sprite.flipCell Number.one 0 0 ⟨(e.announce .draw 0xD005).stage, false⟩ =
      .error .numberTooLarge c :=
    hflip.trans (congrArg (ended · c) hpaint)
  obtain ⟨c', -, hfirst⟩ := (Sprite.agree_flipCell_watched Number.one 0 0 _
    ⟨(e.watched.announce .draw 0xD005).stage, false⟩ rfl).of_error hfails
  rw [← hm.hint] at hfirst
  obtain ⟨e', hp, hshort⟩ := perform_draw_of_refused (e := e.watched.announce .draw 0xD005) rfl
    hread hplaces hfirst
  have hop : Word.operation? 0xD005 = some .draw := Word.operation?_eq_draw_iff.mpr (by decide)
  refine ⟨e, e', host', hcreate, hfetch, hread,
    (execute_of_operation? (e := e.watched) hm.table hop).trans (Act.bind_error hp),
    fun answers hlength hsame => ?_⟩
  rw [hsame, length_exchanges _ hlength, hplaces, List.length_cons, List.length_cons] at hshort
  omega

end Chip8
