/-
  Which arguments go into a message. Its pieces take their arguments one behind the other
  (`Piece.Takes`, `TakesAll`), and a message is filled if they take every argument there is
  (`exists_fill_iff`). Otherwise the first piece that does not take its argument decides. An
  overflow (`Piece.Overflows`) is a fault: a code that no character has, an infinite number or a
  precision out of range for an integer, an integer beyond all numbers with places, or a width or
  a precision out of range from an argument. So is a place that is too wide for any memory. All
  else is a misfit (`isUnconvertible_fill_iff`), and the message is shown with its arguments behind
  it.
-/
import Chip8.Diagnostics.Message
import Chip8.Proofs.Binary64

namespace Chip8

namespace Message

/-! ## Places -/

/-- The letters of integers in base ten, which take whole parts as well. -/
def decimalLetters : List CodePoint := ['d', 'i', 'u']

/-- The letters of integers in another base. -/
def baseLetters : List CodePoint := ['o', 'x', 'X']

/-- The letters of numbers with places. -/
def realLetters : List CodePoint := ['e', 'E', 'f', 'F', 'g', 'G']

/-- A value cannot be converted as its letter asks. -/
inductive Layout.Overflows (l : Layout) : CodePoint → MessageArg → Prop where
  /-- No character has the code. -/
  | code {a : MessageArg} {n : Int} (hvalue : a.int? = some n) (hn : n < 0 ∨ 0x110000 ≤ n) :
      l.Overflows 'c' a
  /-- An infinite number has no whole part. -/
  | infinite {letter : CodePoint} (hletter : letter ∈ decimalLetters) (negative : Bool) :
      l.Overflows letter (.real (.infinite negative))
  /-- An integer cannot be given as many digits. -/
  | digits {letter : CodePoint} {a : MessageArg} {n : Int}
      (hletter : letter ∈ decimalLetters ++ baseLetters) (hvalue : a.int? = some n) {count : Nat}
      (hprecision : l.precision = some count) (hcount : Layout.mostDigits < count) :
      l.Overflows letter a
  /-- Nor can the whole part of a number. -/
  | wholeDigits {letter : CodePoint} (hletter : letter ∈ decimalLetters) (negative : Bool)
      (mantissa : Nat) (exponent : Int) {count : Nat} (hprecision : l.precision = some count)
      (hcount : Layout.mostDigits < count) :
      l.Overflows letter (.real (.finite negative mantissa exponent))
  /-- An integer is beyond all numbers with places. -/
  | large {letter : CodePoint} {a : MessageArg} {n : Int} (hletter : letter ∈ realLetters)
      (hvalue : a.int? = some n) (hn : Binary64.overflowBound ≤ n.natAbs) : l.Overflows letter a

/-- A width or a precision that an argument gives is out of range. -/
inductive Directive.Overflows (d : Directive) : List MessageArg → Prop where
  | width {a : MessageArg} {n : Int} (hd : d.width = .argument) (hvalue : a.int? = some n)
      (hn : isWithin greatestIndex n = false) (args : List MessageArg) : d.Overflows (a :: args)
  | precision {width : Option Int} {a : MessageArg} {n : Int} {args rest : List MessageArg}
      (hwidth : extent greatestIndex .countTooWide d.width args = .ok (width, a :: rest))
      (hd : d.precision = .argument) (hvalue : a.int? = some n)
      (hn : isWithin greatestShortCount n = false) : d.Overflows args

/-- A piece takes its arguments from a row and leaves the others. -/
inductive Piece.Takes : Piece → List MessageArg → List MessageArg → Prop where
  | text (p : CodePoint) (args : List MessageArg) : (Piece.text p).Takes args args
  | place {d : Directive} {letter : CodePoint} {l : Layout} {a : MessageArg} {w : Written}
      {args rest : List MessageArg} (hlayout : layout d args = .ok (l, a :: rest))
      (hput : put l letter a = .ok w) (hwidth : l.width ≤ greatestLength) :
      (Piece.place d letter).Takes args rest

/-- What a piece is to take cannot be converted. -/
inductive Piece.Overflows : Piece → List MessageArg → Prop where
  | directive {d : Directive} {args : List MessageArg} (letter : CodePoint)
      (h : d.Overflows args) : (Piece.place d letter).Overflows args
  | unfinished {d : Directive} {args : List MessageArg} (h : d.Overflows args) :
      (Piece.unfinished d).Overflows args
  | value {d : Directive} {letter : CodePoint} {l : Layout} {a : MessageArg}
      {args rest : List MessageArg} (hlayout : layout d args = .ok (l, a :: rest))
      (h : l.Overflows letter a) : (Piece.place d letter).Overflows args

/-- A place with its argument is wider than what a host can address. -/
inductive Piece.IsTooWide : Piece → List MessageArg → Prop where
  | place {d : Directive} {letter : CodePoint} {l : Layout} {a : MessageArg} {w : Written}
      {args rest : List MessageArg} (hlayout : layout d args = .ok (l, a :: rest))
      (hput : put l letter a = .ok w) (hwidth : greatestLength < l.width) :
      (Piece.place d letter).IsTooWide args

/-- Pieces take their arguments one behind the other and leave the rest of them. -/
inductive TakesAll : List Piece → List MessageArg → List MessageArg → Prop where
  | nil (args : List MessageArg) : TakesAll [] args args
  | cons {piece : Piece} {pieces : List Piece} {args left rest : List MessageArg}
      (h : piece.Takes args left) (h' : TakesAll pieces left rest) :
      TakesAll (piece :: pieces) args rest

/-- The pieces before one take their arguments, and of it and those left something holds. -/
def StopsAt (P : Piece → List MessageArg → Prop) (pieces : List Piece) (args : List MessageArg) :
    Prop :=
  ∃ before piece behind left, pieces = before ++ piece :: behind ∧ TakesAll before args left ∧
    P piece left

/-! ## Faults -/

/-- What cannot be converted is a fault, and no misfit. -/
def IsUnconvertible {α : Type} (r : Except Misfit α) : Prop :=
  ∃ fault, r = .error (.unconvertible fault)

section IsUnconvertible

variable {α β : Type}

@[simp]
theorem not_isUnconvertible_ok (a : α) : ¬ IsUnconvertible (.ok a : Except Misfit α) :=
  fun ⟨_, h⟩ => nomatch h

@[simp]
theorem not_isUnconvertible_unsuitable : ¬ IsUnconvertible (.error .unsuitable : Except Misfit α) :=
  fun ⟨_, h⟩ => nomatch Except.error.inj h

@[simp]
theorem isUnconvertible_error (fault : Fault) :
    IsUnconvertible (.error (.unconvertible fault) : Except Misfit α) := ⟨fault, rfl⟩

theorem isUnconvertible_bind {x : Except Misfit α} {f : α → Except Misfit β} :
    IsUnconvertible (x >>= f) ↔ IsUnconvertible x ∨ ∃ a, x = .ok a ∧ IsUnconvertible (f a) := by
  cases x with
  | ok a =>
    change IsUnconvertible (f a) ↔ _
    simp
  | error misfit =>
    change IsUnconvertible (.error misfit) ↔ _
    cases misfit <;> simp

theorem bind_eq_ok_iff {x : Except Misfit α} {f : α → Except Misfit β} {b : β} :
    x >>= f = .ok b ↔ ∃ a, x = .ok a ∧ f a = .ok b := by
  cases x with
  | ok a =>
    change f a = _ ↔ _
    simp
  | error misfit => exact iff_of_false nofun fun ⟨_, h, _⟩ => nomatch h

theorem isUnconvertible_map {x : Except Misfit α} {f : α → β} :
    IsUnconvertible (x.map f) ↔ IsUnconvertible x := by
  rcases x with (_ | fault) | a <;> simp [Except.map]

end IsUnconvertible

/-! ## Values -/

variable {a : MessageArg}

theorem integer_eq_ok_iff {n : Int} : integer a = .ok n ↔ a.int? = some n := by
  rw [integer]
  cases a.int? <;> simp

theorem not_isUnconvertible_integer (a : MessageArg) : ¬ IsUnconvertible (integer a) := by
  rw [integer]
  cases a.int? <;> simp

theorem isUnconvertible_character_iff :
    IsUnconvertible (character a) ↔ ∃ n, a.int? = some n ∧ (n < 0 ∨ 0x110000 ≤ n) := by
  by_cases htext : ∃ t, a = .text t
  · obtain ⟨t, rfl⟩ := htext
    refine iff_of_false ?_ fun ⟨_, hn, _⟩ => nomatch hn
    unfold character
    split <;> simp_all
  · have hcharacter : character a = (do
        let n ← integer a
        if 0 ≤ n ∧ n < 0x110000 then return CodePoint.ofCode n.toNat
        else throw (.unconvertible .characterCode)) := by
      cases a with
      | text t => exact absurd ⟨t, rfl⟩ htext
      | _ => rfl
    rw [hcharacter, isUnconvertible_bind, or_iff_right (not_isUnconvertible_integer a)]
    refine exists_congr fun n => and_congr integer_eq_ok_iff ?_
    split
    · exact iff_of_false (not_isUnconvertible_ok _) (by omega)
    · exact iff_of_true (isUnconvertible_error _) (by omega)

theorem isUnconvertible_wholePart_iff :
    IsUnconvertible (wholePart a) ↔ ∃ negative, a = .real (.infinite negative) := by
  cases a with
  | real x =>
    cases x with
    | infinite negative => exact iff_of_true (isUnconvertible_error _) ⟨negative, rfl⟩
    | _ => simp [wholePart, Binary64.truncate?]
  | _ => simp [wholePart, MessageArg.int?]

theorem exists_wholePart_iff : (∃ n, wholePart a = .ok n) ↔
    (∃ n, a.int? = some n) ∨
      ∃ negative mantissa exponent, a = .real (.finite negative mantissa exponent) := by
  cases a with
  | real x => cases x <;> simp [wholePart, Binary64.truncate?, MessageArg.int?]
  | _ => simp [wholePart, MessageArg.int?]

theorem isUnconvertible_real?_of_int? {n : Int} (hn : a.int? = some n) :
    IsUnconvertible (real? a) ↔ Binary64.overflowBound ≤ n.natAbs := by
  rw [← Binary64.exists_ofInt_infinite_iff]
  cases a with
  | int m =>
    obtain rfl : m = n := Option.some.inj hn
    cases h : Binary64.ofInt m <;> simp [real?, MessageArg.int?, h]
  | flag on =>
    rw [MessageArg.int?, Option.some_inj] at hn
    cases h : Binary64.ofInt n <;> simp [real?, MessageArg.int?, hn, h]
  | _ => simp [MessageArg.int?] at hn

theorem isUnconvertible_real?_iff : IsUnconvertible (real? a) ↔
    ∃ n, a.int? = some n ∧ Binary64.overflowBound ≤ n.natAbs := by
  cases hint : a.int? with
  | some n =>
    rw [isUnconvertible_real?_of_int? hint]
    simp
  | none =>
    refine iff_of_false ?_ (by simp)
    unfold real?
    split <;> simp [hint]

theorem isUnconvertible_int_iff {l : Layout} {base : Nat} {upper : Bool} {n : Int} :
    IsUnconvertible (l.int base upper n) ↔
      ∃ count, l.precision = some count ∧ Layout.mostDigits < count := by
  have hcount : Layout.mostDigits < l.precision.getD 0 ↔
      ∃ count, l.precision = some count ∧ Layout.mostDigits < count := by
    cases l.precision <;> simp
  rw [← hcount, Layout.int]
  split
  · next h => exact iff_of_true (isUnconvertible_error _) h
  · next h =>
    refine iff_of_false ?_ h
    split <;> simp

/-! ## A value in its place -/

section Put

variable {l : Layout} {letter : CodePoint}

theorem put_decimal (h : letter ∈ decimalLetters) :
    put l letter a = wholePart a >>= l.int 10 false := by
  simp only [decimalLetters, List.mem_cons, List.not_mem_nil, or_false] at h
  obtain rfl | rfl | rfl := h <;> rfl

theorem put_base (h : letter ∈ baseLetters) :
    ∃ base upper, put l letter a = integer a >>= l.int base upper := by
  simp only [baseLetters, List.mem_cons, List.not_mem_nil, or_false] at h
  obtain rfl | rfl | rfl := h
  · exact ⟨8, false, rfl⟩
  · exact ⟨16, false, rfl⟩
  · exact ⟨16, true, rfl⟩

theorem put_real (h : letter ∈ realLetters) :
    ∃ form upper, put l letter a = (real? a).map (l.real form upper) := by
  simp only [realLetters, List.mem_cons, List.not_mem_nil, or_false] at h
  obtain rfl | rfl | rfl | rfl | rfl | rfl := h <;> exact ⟨_, _, rfl⟩

theorem isUnconvertible_put_character_iff : IsUnconvertible (put l 'c' a) ↔
    ∃ n, a.int? = some n ∧ (n < 0 ∨ 0x110000 ≤ n) :=
  isUnconvertible_map.trans isUnconvertible_character_iff

/-- Under every other letter a value is written as text, or there is no such letter. -/
theorem not_isUnconvertible_put (hdecimal : letter ∉ decimalLetters) (hbase : letter ∉ baseLetters)
    (hreal : letter ∉ realLetters) (hcharacter : letter ≠ 'c') :
    ¬ IsUnconvertible (put l letter a) := by
  simp only [decimalLetters, baseLetters, realLetters, List.mem_cons, List.not_mem_nil, or_false,
    not_or] at hdecimal hbase hreal
  have hwritten (t : Text) : ¬ IsUnconvertible
      (if a.isWritable then .ok (l.text t) else .error .unsuitable : Except Misfit Written) := by
    split <;> simp
  fun_cases put l letter a
  case case1 written => exact hwritten _
  case case2 written => exact hwritten _
  case case3 written => exact hwritten _
  all_goals simp_all

theorem isUnconvertible_put_decimal_iff (h : letter ∈ decimalLetters) :
    IsUnconvertible (put l letter a) ↔ (∃ negative, a = .real (.infinite negative)) ∨
      (∃ n, wholePart a = .ok n) ∧
        ∃ count, l.precision = some count ∧ Layout.mostDigits < count := by
  rw [put_decimal h, isUnconvertible_bind, isUnconvertible_wholePart_iff]
  simp only [isUnconvertible_int_iff, exists_and_right]

theorem isUnconvertible_put_base_iff (h : letter ∈ baseLetters) :
    IsUnconvertible (put l letter a) ↔ (∃ n, a.int? = some n) ∧
      ∃ count, l.precision = some count ∧ Layout.mostDigits < count := by
  obtain ⟨base, upper, hput⟩ := put_base (l := l) (a := a) h
  rw [hput, isUnconvertible_bind, or_iff_right (not_isUnconvertible_integer a)]
  simp only [isUnconvertible_int_iff, integer_eq_ok_iff, exists_and_right]

theorem isUnconvertible_put_real_iff (h : letter ∈ realLetters) :
    IsUnconvertible (put l letter a) ↔
      ∃ n, a.int? = some n ∧ Binary64.overflowBound ≤ n.natAbs := by
  obtain ⟨form, upper, hput⟩ := put_real (l := l) (a := a) h
  rw [hput, isUnconvertible_map, isUnconvertible_real?_iff]

/-- A value cannot be converted exactly if it overflows its place. -/
theorem isUnconvertible_put_iff : IsUnconvertible (put l letter a) ↔ l.Overflows letter a := by
  constructor
  · intro h
    by_cases hdecimal : letter ∈ decimalLetters
    · obtain ⟨negative, rfl⟩ | ⟨hwhole, count, hprecision, hcount⟩ :=
        (isUnconvertible_put_decimal_iff hdecimal).mp h
      · exact .infinite hdecimal negative
      · obtain ⟨n, hn⟩ | ⟨negative, m, e, rfl⟩ := exists_wholePart_iff.mp hwhole
        · exact .digits (List.mem_append_left _ hdecimal) hn hprecision hcount
        · exact .wholeDigits hdecimal negative m e hprecision hcount
    by_cases hbase : letter ∈ baseLetters
    · obtain ⟨⟨n, hn⟩, count, hprecision, hcount⟩ := (isUnconvertible_put_base_iff hbase).mp h
      exact .digits (List.mem_append_right _ hbase) hn hprecision hcount
    by_cases hreal : letter ∈ realLetters
    · obtain ⟨n, hvalue, hn⟩ := (isUnconvertible_put_real_iff hreal).mp h
      exact .large hreal hvalue hn
    by_cases hcharacter : letter = 'c'
    · subst hcharacter
      obtain ⟨n, hvalue, hn⟩ := isUnconvertible_put_character_iff.mp h
      exact .code hvalue hn
    · exact absurd h (not_isUnconvertible_put hdecimal hbase hreal hcharacter)
  · intro h
    cases h with
    | code hvalue hn => exact isUnconvertible_put_character_iff.mpr ⟨_, hvalue, hn⟩
    | infinite hletter negative =>
      exact (isUnconvertible_put_decimal_iff hletter).mpr (.inl ⟨negative, rfl⟩)
    | digits hletter hvalue hprecision hcount =>
      obtain hdecimal | hbase := List.mem_append.mp hletter
      · have hwhole := exists_wholePart_iff.mpr (.inl ⟨_, hvalue⟩)
        exact (isUnconvertible_put_decimal_iff hdecimal).mpr
          (.inr ⟨hwhole, _, hprecision, hcount⟩)
      · exact (isUnconvertible_put_base_iff hbase).mpr ⟨⟨_, hvalue⟩, _, hprecision, hcount⟩
    | wholeDigits hletter negative m e hprecision hcount =>
      have hwhole := exists_wholePart_iff.mpr (.inr ⟨negative, m, e, rfl⟩)
      exact (isUnconvertible_put_decimal_iff hletter).mpr (.inr ⟨hwhole, _, hprecision, hcount⟩)
    | large hletter hvalue hn => exact (isUnconvertible_put_real_iff hletter).mpr ⟨_, hvalue, hn⟩

end Put

/-! ## Widths and precisions -/

variable {args : List MessageArg}

theorem isUnconvertible_extent_iff {greatest : Nat} {beyond : Fault} {e : Extent} :
    IsUnconvertible (extent greatest beyond e args) ↔ e = .argument ∧ ∃ a rest n,
      args = a :: rest ∧ a.int? = some n ∧ isWithin greatest n = false := by
  cases e with
  | absent => simp [extent]
  | fixed n =>
    rw [extent]
    split <;> simp
  | argument =>
    cases args with
    | nil => simp [extent]
    | cons a rest =>
      have hextent : extent greatest beyond .argument (a :: rest) = (do
        let n ← integer a
        if isWithin greatest n then return (some n, rest) else throw (.unconvertible beyond)) := rfl
      simp only [hextent, isUnconvertible_bind, not_isUnconvertible_integer, false_or,
        integer_eq_ok_iff, true_and, List.cons.injEq]
      constructor
      · rintro ⟨n, hn, hwithin⟩
        refine ⟨a, rest, n, ⟨rfl, rfl⟩, hn, ?_⟩
        by_contra hin
        rw [Bool.not_eq_false] at hin
        rw [if_pos hin] at hwithin
        exact not_isUnconvertible_ok _ hwithin
      · rintro ⟨_, _, n, ⟨rfl, rfl⟩, hn, hout⟩
        exact ⟨n, hn, by rw [hout]; exact isUnconvertible_error _⟩

theorem isUnconvertible_layout_iff {d : Directive} :
    IsUnconvertible (layout d args) ↔ d.Overflows args := by
  have hlayout : IsUnconvertible (layout d args) ↔
      IsUnconvertible (extent greatestIndex .countTooWide d.width args) ∨
        ∃ width rest, extent greatestIndex .countTooWide d.width args = .ok (width, rest) ∧
          IsUnconvertible (extent greatestShortCount .smallCountTooWide d.precision rest) := by
    rw [layout, isUnconvertible_bind, Prod.exists]
    refine or_congr_right (exists_congr fun width => exists_congr fun rest =>
      and_congr_right fun _ => ?_)
    rw [isUnconvertible_bind, or_iff_left]
    exact fun ⟨_, _, hpure⟩ => not_isUnconvertible_ok _ hpure
  simp only [hlayout, isUnconvertible_extent_iff]
  constructor
  · rintro (⟨hd, a, rest, n, rfl, hn, hout⟩ | ⟨width, _, hwidth, hd, a, rest, n, rfl, hn, hout⟩)
    · exact .width hd hn hout rest
    · exact .precision hwidth hd hn hout
  · intro h
    cases h with
    | width hd hvalue hn args => exact .inl ⟨hd, _, args, _, rfl, hvalue, hn⟩
    | precision hwidth hd hvalue hn =>
      exact .inr ⟨_, _, hwidth, hd, _, _, _, rfl, hvalue, hn⟩

/-! ## Pieces -/

/-- What a piece leaves of a row of arguments. -/
def Piece.take : Piece → List MessageArg → Except Misfit (List MessageArg)
  | .text _, args => .ok args
  | .unfinished d, args => layout d args >>= fun _ => .error .unsuitable
  | .place d letter, args =>
    layout d args >>= fun
      | (_, []) => .error .unsuitable
      | (l, a :: rest) => (put l letter a >>= l.fill) >>= fun _ => .ok rest

theorem fill_cons (piece : Piece) (pieces : List Piece) (args : List MessageArg) :
    (fill (piece :: pieces) args).map (fun _ => ()) = (do
      let left ← piece.take args
      (fill pieces left).map fun _ => ()) := by
  cases piece with
  | text p =>
    change _ = (fill pieces args).map fun _ => ()
    rw [fill]
    cases fill pieces args <;> rfl
  | unfinished d =>
    rw [fill, Piece.take]
    cases layout d args <;> rfl
  | place d letter =>
    simp only [fill, Piece.take]
    rcases layout d args with _ | ⟨l, _ | ⟨a, rest⟩⟩
    · rfl
    · rfl
    · simp only [bind, Except.bind, pure, Except.pure]
      rcases put l letter a with _ | w
      · rfl
      · dsimp only
        rcases l.fill w with _ | front
        · rfl
        · change _ = (fill pieces rest).map fun _ => ()
          cases fill pieces rest <;> rfl

section Place

variable {d : Directive} {letter : CodePoint} {l : Layout} {rest : List MessageArg}

theorem take_place (hlayout : layout d args = .ok (l, a :: rest)) :
    (Piece.place d letter).take args =
      (put l letter a >>= l.fill) >>= fun _ => Except.ok rest := by
  rw [Piece.take, hlayout]
  rfl

theorem isUnconvertible_layout_fill_iff {w : Written} :
    IsUnconvertible (l.fill w) ↔ greatestLength < l.width := by
  rw [Layout.fill]
  split
  · next h => exact iff_of_true (isUnconvertible_error _) h
  · next h => exact iff_of_false (not_isUnconvertible_ok _) h

theorem exists_layout_fill_iff {w : Written} :
    (∃ filled, l.fill w = .ok filled) ↔ l.width ≤ greatestLength := by
  rw [Layout.fill]
  split
  · next h => exact iff_of_false (fun ⟨_, hfill⟩ => nomatch hfill) (Nat.not_le.mpr h)
  · next h => exact iff_of_true ⟨_, rfl⟩ (Nat.not_lt.mp h)

theorem take_of_layout_error {misfit : Misfit} (hlayout : layout d args = .error misfit) :
    (Piece.place d letter).take args = .error misfit := by
  rw [Piece.take, hlayout]
  rfl

theorem take_of_layout_nil (hlayout : layout d args = .ok (l, [])) :
    (Piece.place d letter).take args = .error .unsuitable := by
  rw [Piece.take, hlayout]
  rfl

theorem isUnconvertible_take_unfinished_iff :
    IsUnconvertible ((Piece.unfinished d).take args) ↔ d.Overflows args := by
  rw [Piece.take, isUnconvertible_bind, isUnconvertible_layout_iff, or_iff_left]
  exact fun ⟨_, _, hstop⟩ => not_isUnconvertible_unsuitable hstop

theorem isUnconvertible_take_place_iff (hlayout : layout d args = .ok (l, a :: rest)) :
    IsUnconvertible ((Piece.place d letter).take args) ↔ l.Overflows letter a ∨
      ∃ w, put l letter a = .ok w ∧ greatestLength < l.width := by
  rw [take_place hlayout, isUnconvertible_bind, or_iff_left, isUnconvertible_bind,
    isUnconvertible_put_iff]
  · simp only [isUnconvertible_layout_fill_iff]
  · exact fun ⟨_, _, hpure⟩ => not_isUnconvertible_ok _ hpure

end Place

theorem take_eq_ok_iff {piece : Piece} {left : List MessageArg} :
    piece.take args = .ok left ↔ piece.Takes args left := by
  constructor
  · intro h
    cases piece with
    | text p =>
      cases h
      exact .text p args
    | unfinished d =>
      obtain ⟨_, -, hstop⟩ := bind_eq_ok_iff.mp h
      cases hstop
    | place d letter =>
      rcases hlayout : layout d args with misfit | ⟨l, _ | ⟨a, rest⟩⟩
      · rw [take_of_layout_error hlayout] at h
        cases h
      · rw [take_of_layout_nil hlayout] at h
        cases h
      · rw [take_place hlayout, bind_eq_ok_iff] at h
        obtain ⟨filled, hfilled, h⟩ := h
        obtain ⟨w, hput, hfill⟩ := bind_eq_ok_iff.mp hfilled
        cases h
        exact .place hlayout hput (exists_layout_fill_iff.mp ⟨filled, hfill⟩)
  · intro h
    cases h with
    | text p => rfl
    | place hlayout hput hwidth =>
      obtain ⟨filled, hfill⟩ := exists_layout_fill_iff.mpr hwidth
      rw [take_place hlayout, hput]
      exact bind_eq_ok_iff.mpr ⟨filled, hfill, rfl⟩

theorem isUnconvertible_take_iff {piece : Piece} :
    IsUnconvertible (piece.take args) ↔ piece.Overflows args ∨ piece.IsTooWide args := by
  constructor
  · intro h
    cases piece with
    | text p => exact absurd h (not_isUnconvertible_ok args)
    | unfinished d => exact .inl (.unfinished (isUnconvertible_take_unfinished_iff.mp h))
    | place d letter =>
      rcases hlayout : layout d args with misfit | ⟨l, _ | ⟨a, rest⟩⟩
      · rw [take_of_layout_error hlayout] at h
        obtain ⟨fault, hfault⟩ := h
        obtain rfl := Except.error.inj hfault
        exact .inl (.directive letter (isUnconvertible_layout_iff.mp ⟨fault, hlayout⟩))
      · rw [take_of_layout_nil hlayout] at h
        exact absurd h not_isUnconvertible_unsuitable
      · obtain hover | ⟨w, hput, hwidth⟩ := (isUnconvertible_take_place_iff hlayout).mp h
        · exact .inl (.value hlayout hover)
        · exact .inr (.place hlayout hput hwidth)
  · rintro (h | h)
    · cases h with
      | directive letter h =>
        obtain ⟨fault, hlayout⟩ := isUnconvertible_layout_iff.mpr h
        exact ⟨fault, take_of_layout_error hlayout⟩
      | unfinished h => exact isUnconvertible_take_unfinished_iff.mpr h
      | value hlayout h => exact (isUnconvertible_take_place_iff hlayout).mpr (.inl h)
    · cases h with
      | place hlayout hput hwidth =>
        exact (isUnconvertible_take_place_iff hlayout).mpr (.inr ⟨_, hput, hwidth⟩)

/-! ## Messages -/

section Fill

variable {pieces : List Piece}

theorem takesAll_cons_iff {piece : Piece} {rest : List MessageArg} :
    TakesAll (piece :: pieces) args rest ↔
      ∃ left, piece.Takes args left ∧ TakesAll pieces left rest :=
  ⟨fun h => by cases h with | cons h h' => exact ⟨_, h, h'⟩, fun ⟨_, h, h'⟩ => .cons h h'⟩

theorem stopsAt_cons_iff {P : Piece → List MessageArg → Prop} {piece : Piece} :
    StopsAt P (piece :: pieces) args ↔
      P piece args ∨ ∃ left, piece.Takes args left ∧ StopsAt P pieces left := by
  constructor
  · rintro ⟨before, stop, behind, left, hpieces, htakes, hstop⟩
    cases htakes with
    | nil args =>
      cases hpieces
      exact .inl hstop
    | cons h h' =>
      cases hpieces
      exact .inr ⟨_, h, _, stop, behind, left, rfl, h', hstop⟩
  · rintro (h | ⟨left, h, before, stop, behind, left', rfl, htakes, hstop⟩)
    · exact ⟨[], piece, pieces, args, rfl, .nil args, h⟩
    · exact ⟨piece :: before, stop, behind, left', rfl, .cons h htakes, hstop⟩

theorem exists_fill_cons_iff {piece : Piece} :
    (∃ filled, fill (piece :: pieces) args = .ok filled) ↔
      ∃ left, piece.take args = .ok left ∧ ∃ filled, fill pieces left = .ok filled := by
  have hunit {x : Except Misfit (Thunk Text)} :
      (∃ filled, x = .ok filled) ↔ (x.map fun _ => ()) = .ok () := by
    cases x <;> simp [Except.map]
  simp only [hunit, fill_cons, bind_eq_ok_iff]

theorem isUnconvertible_fill_cons_iff {piece : Piece} :
    IsUnconvertible (fill (piece :: pieces) args) ↔ IsUnconvertible (piece.take args) ∨
      ∃ left, piece.take args = .ok left ∧ IsUnconvertible (fill pieces left) := by
  rw [← isUnconvertible_map (f := fun _ => ()), fill_cons, isUnconvertible_bind]
  simp only [isUnconvertible_map]

/-- Pieces are filled exactly if they take all of the arguments. -/
theorem exists_fill_iff : (∃ filled, fill pieces args = .ok filled) ↔ TakesAll pieces args [] := by
  induction pieces generalizing args with
  | nil =>
    cases args with
    | nil => exact iff_of_true ⟨_, rfl⟩ (.nil [])
    | cons a rest => exact iff_of_false (fun ⟨_, h⟩ => nomatch h) nofun
  | cons piece pieces ih =>
    rw [exists_fill_cons_iff, takesAll_cons_iff]
    simp only [take_eq_ok_iff, ih]

/-- Pieces cannot be filled, and it is no misfit, exactly if one overflows or is too wide where
those before it have taken their arguments. -/
theorem isUnconvertible_fill_iff : IsUnconvertible (fill pieces args) ↔
    StopsAt Piece.Overflows pieces args ∨ StopsAt Piece.IsTooWide pieces args := by
  induction pieces generalizing args with
  | nil =>
    have hstop (P : Piece → List MessageArg → Prop) : ¬ StopsAt P [] args :=
      fun ⟨before, _, _, _, hpieces, _⟩ => by cases before <;> cases hpieces
    refine iff_of_false ?_ (not_or_intro (hstop _) (hstop _))
    cases args with
    | nil => exact not_isUnconvertible_ok _
    | cons a rest => exact not_isUnconvertible_unsuitable
  | cons piece pieces ih =>
    rw [isUnconvertible_fill_cons_iff, isUnconvertible_take_iff, stopsAt_cons_iff, stopsAt_cons_iff]
    simp only [take_eq_ok_iff, ih, and_or_left, exists_or]
    exact or_or_or_comm

end Fill

/-! ## What is shown -/

/-- The places of a message take all of the arguments. -/
def Fits (message : Text) (args : List MessageArg) : Prop := TakesAll (pieces message) args []

def Overflows (message : Text) (args : List MessageArg) : Prop :=
  StopsAt Piece.Overflows (pieces message) args

def IsTooWide (message : Text) (args : List MessageArg) : Prop :=
  StopsAt Piece.IsTooWide (pieces message) args

/-- There are no arguments, or they go into the message, or they do not fit and can be written
behind it. -/
def IsShowable (message : Text) (args : List MessageArg) : Prop :=
  args = [] ∨ Fits message args ∨
    ¬ Overflows message args ∧ ¬ IsTooWide message args ∧ MessageArg.areWritable args = true

/-- An argument overflows its place, or they do not fit and cannot be written behind the message
either. -/
def IsUnshowable (message : Text) (args : List MessageArg) : Prop :=
  args ≠ [] ∧ (Overflows message args ∨
    ¬ Fits message args ∧ ¬ IsTooWide message args ∧ MessageArg.areWritable args = false)

variable {message : Text}

theorem text_of_args (hargs : args ≠ []) : text (.text message) args =
    match fill (pieces message) args with
    | .ok filled => .ok filled.get
    | .error .unsuitable => beside (.text message) args
    | .error (.unconvertible fault) => .error fault :=
  if_neg (by simpa using hargs)

theorem beside_eq (message : Text) (args : List MessageArg) : beside (.text message) args =
    if MessageArg.areWritable args then .ok (message ++ " " ++ MessageArg.listing args)
    else .error .numeralTooLong := rfl

theorem exists_text_of_isShowable (h : IsShowable message args) :
    ∃ shown, text (.text message) args = .ok shown := by
  rcases eq_or_ne args [] with rfl | hargs
  · exact ⟨message, rfl⟩
  obtain h | ⟨hover, hwide, hwrite⟩ := h.resolve_left hargs
  · obtain ⟨filled, hfill⟩ := exists_fill_iff.mpr h
    exact ⟨filled.get, by rw [text_of_args hargs, hfill]⟩
  · rw [text_of_args hargs]
    rcases hfill : fill (pieces message) args with (_ | fault) | filled
    · exact ⟨_, by rw [beside_eq, if_pos hwrite]⟩
    · exact absurd (isUnconvertible_fill_iff.mp ⟨fault, hfill⟩) (not_or_intro hover hwide)
    · exact ⟨filled.get, rfl⟩

theorem exists_text_error_of_isUnshowable (h : IsUnshowable message args) :
    ∃ fault, text (.text message) args = .error fault := by
  obtain ⟨hargs, hover | ⟨hfits, -, hwrite⟩⟩ := h
  · obtain ⟨fault, hfill⟩ := isUnconvertible_fill_iff.mpr (.inl hover)
    exact ⟨fault, by rw [text_of_args hargs, hfill]⟩
  · rw [text_of_args hargs]
    rcases hfill : fill (pieces message) args with (_ | fault) | filled
    · exact ⟨.numeralTooLong, by rw [beside_eq, if_neg (by simp [hwrite])]⟩
    · exact ⟨fault, rfl⟩
    · exact absurd (exists_fill_iff.mp ⟨filled, hfill⟩) hfits

end Message

end Chip8
