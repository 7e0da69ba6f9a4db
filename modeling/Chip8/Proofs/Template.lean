/-
  Templates made from pieces. A piece is plain when it is text without braces, or a field with a
  style and nothing else between its braces. The reader puts neighbouring texts together but
  renders what the pieces render, one behind the other (`render_ofParts`).
-/
import Chip8.Template
import Mathlib.Tactic.Common

namespace Chip8

/-- A code point that opens or closes a field. -/
def CodePoint.isBrace (p : CodePoint) : Bool := p == '\x7b' || p == '\x7d'

/-- A code point that ends a field's name or goes on behind it. -/
def CodePoint.isNameMark (p : CodePoint) : Bool := p.isBrace || p == '[' || p == '!' || p == ':'

/-- Text without braces, or a field that has a name, a style and no conversion. -/
def TemplatePart.isPlain : TemplatePart → Bool
  | .text t => t.all (!·.isBrace)
  | .field name none style =>
    !name.isEmpty && name.all (!·.isNameMark) && !style.isEmpty && style.all (!·.isBrace)
  | _ => false

namespace Template

/-! ## Reading plain pieces -/

theorem readFrom_text_cons {p : CodePoint} (h : p.isBrace = false) (seen rest : Text) :
    readFrom (.text seen) (p :: rest) = readFrom (.text (p :: seen)) rest := by
  rw [readFrom.eq_def]
  split <;> simp_all [CodePoint.isBrace]

theorem readFrom_name_cons {p : CodePoint} (h : p.isNameMark = false) (seen rest : Text) :
    readFrom (.name seen) (p :: rest) = readFrom (.name (p :: seen)) rest := by
  rw [readFrom.eq_def]
  split <;> simp_all [CodePoint.isNameMark, CodePoint.isBrace]

theorem readFrom_style_cons {p : CodePoint} (h : p.isBrace = false) (name seen rest : Text) :
    readFrom (.style name none seen 0) (p :: rest) =
      readFrom (.style name none (p :: seen) 0) rest := by
  rw [readFrom.eq_def]
  split <;> simp_all [CodePoint.isBrace]

/-- A place that collects each code point of a text collects the text. -/
theorem readFrom_append (place : Text → Place) {t : Text}
    (h : ∀ p ∈ t, ∀ seen rest,
      readFrom (place seen) (p :: rest) = readFrom (place (p :: seen)) rest)
    (seen rest : Text) :
    readFrom (place seen) (t ++ rest) = readFrom (place (t.reverse ++ seen)) rest := by
  induction t generalizing seen with
  | nil => rfl
  | cons p t ih =>
    rw [List.cons_append, h p List.mem_cons_self, ih fun q hq => h q (List.mem_cons_of_mem p hq)]
    simp

theorem readFrom_text {t : Text} (h : ∀ p ∈ t, p.isBrace = false) (seen rest : Text) :
    readFrom (.text seen) (t ++ rest) = readFrom (.text (t.reverse ++ seen)) rest :=
  readFrom_append .text (fun p hp => readFrom_text_cons (h p hp)) seen rest

theorem readFrom_name {name : Text} (h : ∀ p ∈ name, p.isNameMark = false) (seen rest : Text) :
    readFrom (.name seen) (name ++ rest) = readFrom (.name (name.reverse ++ seen)) rest :=
  readFrom_append .name (fun p hp => readFrom_name_cons (h p hp)) seen rest

theorem readFrom_style {style : Text} (h : ∀ p ∈ style, p.isBrace = false)
    (name seen rest : Text) :
    readFrom (.style name none seen 0) (style ++ rest) =
      readFrom (.style name none (style.reverse ++ seen) 0) rest :=
  readFrom_append (.style name none · 0) (fun p hp => readFrom_style_cons (h p hp) name) seen rest

/-- An opening brace before anything but another one starts a field. -/
theorem readFrom_opening {p : CodePoint} (h : p.isBrace = false) (seen rest : Text) :
    readFrom (.text seen) ('\x7b' :: p :: rest) =
      textPart seen ++ readFrom (.name []) (p :: rest) := by
  rw [readFrom.eq_def]
  split <;> simp_all [CodePoint.isBrace]

theorem source_text {t : Text} (h : ∀ p ∈ t, p.isBrace = false) : source (.text t) = t := by
  induction t with
  | nil => rfl
  | cons p t ih =>
    have hcons : source (.text (p :: t)) =
        (if p.isBrace then [p, p] else [p]) ++ source (.text t) := rfl
    rw [hcons, ih fun q hq => h q (List.mem_cons_of_mem p hq), h p List.mem_cons_self]
    rfl

/-- A plain field is read as it was written. -/
theorem readFrom_field {name style : Text} (hname : name ≠ [])
    (hn : ∀ p ∈ name, p.isNameMark = false) (hstyle : style ≠ [])
    (hs : ∀ p ∈ style, p.isBrace = false) (seen rest : Text) :
    readFrom (.text seen) (source (.field name none style) ++ rest) =
      textPart seen ++ .field name none style :: readFrom (.text []) rest := by
  obtain ⟨p, name', rfl⟩ := List.exists_cons_of_ne_nil hname
  have hp : p.isBrace = false := by
    have := hn p List.mem_cons_self
    simp only [CodePoint.isNameMark, Bool.or_eq_false_iff] at this
    exact this.1.1.1
  have hsource : source (.field (p :: name') none style) ++ rest =
      .char '\x7b' :: ((p :: name') ++ (.char ':' :: (style ++ (.char '\x7d' :: rest)))) := by
    have : style.isEmpty = false := by simp [hstyle]
    simp [source, manner, this, Text.ofString, Text.ofChars]
  have hread :
      readFrom (.name []) ((p :: name') ++ (.char ':' :: (style ++ (.char '\x7d' :: rest)))) =
        .field (p :: name') none style :: readFrom (.text []) rest := by
    rw [readFrom_name hn, List.append_nil]
    change readFrom (.style (p :: name').reverse.reverse none [] 0) _ = _
    rw [readFrom_style hs, List.reverse_reverse, List.append_nil]
    change TemplatePart.field _ none style.reverse.reverse :: _ = _
    rw [List.reverse_reverse]
  rw [hsource, List.cons_append, readFrom_opening hp, ← List.cons_append, hread]

/-! ## Rendering plain pieces -/

variable {value? : String → Option Int} {expand : Text → Except TemplateFault Text}

theorem renderParts_cons (part : TemplatePart) (rest : List TemplatePart) :
    (renderParts value? expand (part :: rest)).map Thunk.get = (do
      let front ← (renderPart value? expand part).map Thunk.get
      let behind ← (renderParts value? expand rest).map Thunk.get
      return front ++ behind) := by
  simp only [renderParts]
  cases renderPart value? expand part with
  | error fault => rfl
  | ok front => cases renderParts value? expand rest <;> rfl

theorem renderParts_textPart_append (seen : Text) (rest : List TemplatePart) :
    (renderParts value? expand (textPart seen ++ rest)).map Thunk.get =
      ((renderParts value? expand rest).map Thunk.get).map (seen.reverse ++ ·) := by
  unfold textPart
  split
  · next h =>
    rw [List.isEmpty_iff.mp h, List.nil_append]
    cases renderParts value? expand rest <;> rfl
  · rw [List.singleton_append, renderParts_cons]
    cases renderParts value? expand rest <;> rfl

theorem renderParts_readFrom {parts : List TemplatePart} (h : ∀ part ∈ parts, part.isPlain = true)
    (seen : Text) :
    (renderParts value? expand (readFrom (.text seen) (ofParts parts))).map Thunk.get =
      ((renderParts value? expand parts).map Thunk.get).map (seen.reverse ++ ·) := by
  induction parts generalizing seen with
  | nil =>
    change (renderParts value? expand (readFrom (.text seen) [])).map Thunk.get = _
    rw [readFrom, ← List.append_nil (textPart seen), renderParts_textPart_append]
  | cons part rest ih =>
    have hrest := ih fun q hq => h q (List.mem_cons_of_mem part hq)
    have hpart := h part List.mem_cons_self
    have hparts : ofParts (part :: rest) = source part ++ ofParts rest := by
      simp [ofParts]
    rw [hparts, renderParts_cons]
    match part, hpart with
    | .text t, hpart =>
      have ht : ∀ p ∈ t, p.isBrace = false := by simpa [TemplatePart.isPlain] using hpart
      rw [source_text ht, readFrom_text ht, hrest]
      cases renderParts value? expand rest with
      | error fault => rfl
      | ok behind =>
        change Except.ok _ = Except.ok _
        simp [Thunk.get]
    | .field name none style, hpart =>
      simp only [TemplatePart.isPlain, Bool.and_eq_true, Bool.not_eq_true',
        List.isEmpty_eq_false_iff, List.all_eq_true] at hpart
      obtain ⟨⟨⟨hname, hn⟩, hstyle⟩, hs⟩ := hpart
      rw [readFrom_field hname hn hstyle hs, renderParts_textPart_append, renderParts_cons, hrest]
      cases renderPart value? expand (.field name none style) with
      | error fault => rfl
      | ok front => cases renderParts value? expand rest <;> rfl

/-- A template made from plain pieces renders what the pieces render. -/
theorem render_ofParts {parts : List TemplatePart} (h : ∀ part ∈ parts, part.isPlain = true) :
    render value? (ofParts parts) =
      (renderParts value? (nestedStyle value?) parts).map Thunk.get := by
  rw [render, parse, renderParts_readFrom h]
  cases renderParts value? (nestedStyle value?) parts <;> rfl

end Template

end Chip8
