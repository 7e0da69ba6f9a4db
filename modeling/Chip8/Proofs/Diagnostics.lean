/-
  Categories over a history. The setting changes, is forgotten and is looked up, by a question or
  by a message, in any order. What decides is the setting at the first lookup after the last
  reload (`inForce`), and of it only which names its items spell (`Enables`). The main statement is
  `answers_of_history`: questions and messages follow that setting, and settings that spell the
  same names in another way cannot be told apart. A message of a category that is on is printed if
  its arguments go into it or can be written behind it (`Message.IsShowable`) and the outlet takes
  its line.
-/
import Chip8.Proofs.Message
import Chip8.Proofs.Printing
import Chip8.Proofs.Text.Lowercase

namespace Chip8

/-! ## Settings -/

/-- A name is spelled by one of the items that are not blank, without the blanks around it and in
lower case. -/
def Spells (items : List Text) (name : Text) : Prop :=
  ∃ item ∈ items, ¬ item.IsBlank ∧ item.trim.lower = name

/-- Whether items switch a category on; without a category, whether they switch on any. -/
def Enables (items : List Text) (category : Option Text) : Prop :=
  (∃ item ∈ items, ¬ item.IsBlank) ∧
    (category = none ∨ Spells items "all" ∨ Spells items "*" ∨
      ∃ name, category = some name ∧ Spells items name.lower)

/-- Items in another order, repeated, with other blanks around them or with ASCII letters in
another case. -/
inductive Respelled : List Text → List Text → Prop where
  | reordered {items items' : List Text} (h : items.Perm items') : Respelled items items'
  | repeated {item : Text} {items : List Text} (h : item ∈ items) : Respelled items (item :: items)
  | padded {before behind : Text} (hbefore : before.IsBlank) (hbehind : behind.IsBlank)
      (item : Text) (items : List Text) :
      Respelled (item :: items) ((before ++ item ++ behind) :: items)
  | recased {item item' : Text} (h : item.Recased item') (items : List Text) :
      Respelled (item :: items) (item' :: items)
  | symm {items items' : List Text} (h : Respelled items items') : Respelled items' items
  | trans {items items' items'' : List Text} (h : Respelled items items')
      (h' : Respelled items' items'') : Respelled items items''

namespace Respelled

theorem refl (items : List Text) : Respelled items items := reordered (List.Perm.refl items)

/-- However they are spelled, the names are the same. -/
theorem spells_iff {items items' : List Text} (h : Respelled items items') (name : Text) :
    Spells items name ↔ Spells items' name := by
  induction h with
  | reordered h => simp only [Spells, h.mem_iff]
  | @repeated item items h =>
    refine ⟨fun ⟨other, hother, hname⟩ => ⟨other, List.mem_cons_of_mem _ hother, hname⟩, ?_⟩
    rintro ⟨other, hother, hname⟩
    obtain rfl | hother := List.mem_cons.mp hother
    · exact ⟨other, h, hname⟩
    · exact ⟨other, hother, hname⟩
  | padded hbefore hbehind item items =>
    simp only [Spells, List.exists_mem_cons_iff, Text.isBlank_padded hbefore hbehind,
      Text.trim_padded hbefore hbehind]
  | recased h items =>
    simp only [Spells, List.exists_mem_cons_iff, h.isBlank_iff, Text.lower_eq_of_recased h.trim]
  | symm h ih => exact ih.symm
  | trans h h' ih ih' => exact ih.trans ih'

end Respelled

namespace Categories

variable {c c' : Categories}

theorem mem_names_parse {setting name : Text} :
    name ∈ (parse setting).names ↔ Spells (items setting) name := by
  have hempty (item : Text) : item.trim.lower.isEmpty = true ↔ item.IsBlank := by
    rw [List.isEmpty_iff, Text.lower_eq_nil_iff, Text.trim_eq_nil_iff]
  rw [parse, List.mem_filter, List.mem_map]
  constructor
  · rintro ⟨⟨item, hitem, rfl⟩, hnot⟩
    exact ⟨item, hitem, fun h => by simp [(hempty item).mpr h] at hnot, rfl⟩
  · rintro ⟨item, hitem, hnot, rfl⟩
    refine ⟨⟨item, hitem, rfl⟩, ?_⟩
    rw [Bool.not_eq_true', Bool.eq_false_iff]
    exact fun h => hnot ((hempty item).mp h)

theorem isEmpty_parse {setting : Text} :
    (parse setting).isEmpty = false ↔ ∃ item ∈ items setting, ¬ item.IsBlank := by
  rw [isEmpty, List.isEmpty_eq_false_iff_exists_mem]
  simp only [mem_names_parse]
  exact ⟨fun ⟨_, item, hitem, hnot, _⟩ => ⟨item, hitem, hnot⟩,
    fun ⟨item, hitem, hnot⟩ => ⟨_, item, hitem, hnot, rfl⟩⟩

theorem isEnabled_parse_iff {setting : Text} {category : Option Text} :
    (parse setting).isEnabled category = true ↔ Enables (items setting) category := by
  rw [Enables, ← isEmpty_parse]
  cases category with
  | none => simp [isEnabled]
  | some name =>
    simp [isEnabled, isOn, isWild, mem_names_parse, or_assoc]

/-- The same names are on. -/
def Alike (c c' : Categories) : Prop := ∀ name, name ∈ c.names ↔ name ∈ c'.names

namespace Alike

theorem isEmpty_eq (h : c.Alike c') : c.isEmpty = c'.isEmpty := by
  rw [Bool.eq_iff_iff, isEmpty, isEmpty, List.isEmpty_iff, List.isEmpty_iff,
    List.eq_nil_iff_forall_not_mem, List.eq_nil_iff_forall_not_mem]
  exact forall_congr' fun name => not_congr (h name)

theorem contains_eq (h : c.Alike c') (name : Text) :
    c.names.contains name = c'.names.contains name := by
  rw [Bool.eq_iff_iff, List.contains_iff_mem, List.contains_iff_mem]
  exact h name

theorem isEnabled_eq (h : c.Alike c') (category : Option Text) :
    c.isEnabled category = c'.isEnabled category := by
  cases category <;> simp only [isEnabled, isOn, isWild, h.isEmpty_eq, h.contains_eq]

theorem isEnabledFor_eq (h : c.Alike c') (category : MessageArg) :
    c.isEnabledFor category = c'.isEnabledFor category := by
  have hwild : c.isWild = c'.isWild := by simp only [isWild, h.contains_eq]
  cases category with
  | null => exact congrArg Except.ok (h.isEnabled_eq none)
  | text name => exact congrArg Except.ok (h.isEnabled_eq (some name))
  | _ =>
    simp only [isEnabledFor]
    rw [h.isEmpty_eq, hwild]

end Alike

theorem alike_parse {setting setting' : Text} (h : Respelled (items setting) (items setting')) :
    (parse setting).Alike (parse setting') := fun name => by
  rw [mem_names_parse, mem_names_parse, h.spells_iff]

end Categories

/-! ## History -/

/-- What happens to the diagnostics. -/
inductive DiagnosticsEvent where
  /-- The setting is changed or, without a text, taken away. -/
  | assign (setting : Option Text)
  | reload
  | ask (category : Option Text)
  | log (outlet : Outlet) (category message : Text) (args : List MessageArg)

namespace DiagnosticsEvent

def isReload : DiagnosticsEvent → Bool
  | reload => true
  | _ => false

/-- Whether the event looks at the categories. -/
def isLookup : DiagnosticsEvent → Bool
  | ask _ | log .. => true
  | _ => false

/-- The setting that the event leaves, as it is read back. An event that is no change leaves none,
and neither does a text that no host can keep. -/
def kept? : DiagnosticsEvent → Option (Option Text)
  | assign none => some none
  | assign (some text) => if Fault.ofHostText? text = none then some (some text.joinBytes) else none
  | _ => none

/-- The same event, or a change to a setting that spells the same names. -/
inductive Respelled : DiagnosticsEvent → DiagnosticsEvent → Prop where
  | same (e : DiagnosticsEvent) : Respelled e e
  | assign {text text' : Text} (hkept : Fault.ofHostText? text = none)
      (hkept' : Fault.ofHostText? text' = none)
      (h : Chip8.Respelled (Categories.items text.joinBytes) (Categories.items text'.joinBytes)) :
      Respelled (.assign (some text)) (.assign (some text'))

end DiagnosticsEvent

namespace Diagnostics

open DiagnosticsEvent

variable {d d' : Diagnostics} {e e' : DiagnosticsEvent} {events events' : List DiagnosticsEvent}
  {initial initial' : Option Text}

/-- The diagnostics after an event. A change that the host refuses changes nothing. -/
def after (d : Diagnostics) : DiagnosticsEvent → Diagnostics
  | .assign setting =>
    match d.assign setting with
    | .ok changed => changed
    | .error _ => d
  | .reload => d.reload
  | .ask category => (d.ask category).2
  | .log outlet category message args => (d.report outlet (.text category) (.text message) args).2

/-- The diagnostics after a history that starts with nothing remembered. -/
def afterAll (initial : Option Text) (events : List DiagnosticsEvent) : Diagnostics :=
  events.foldl after { setting := initial }

/-- The setting that a history leaves. -/
def settingAfter (initial : Option Text) (events : List DiagnosticsEvent) : Option Text :=
  (events.filterMap kept?).getLast?.getD initial

/-- The events since the last reload. -/
def sinceReload (events : List DiagnosticsEvent) : List DiagnosticsEvent :=
  events.rtakeWhile (!·.isReload)

/-- The events before the first lookup since the last reload: all of them, if there is none. -/
def beforeLookup (events : List DiagnosticsEvent) : List DiagnosticsEvent :=
  events.rdropWhile (!·.isReload) ++ (sinceReload events).takeWhile (!·.isLookup)

/-- The setting that decides about a lookup after a history. -/
def inForce (initial : Option Text) (events : List DiagnosticsEvent) : Text :=
  (settingAfter initial (beforeLookup events)).getD ""

/-- Whether the setting was looked up since the last reload. -/
def isLookedUp (events : List DiagnosticsEvent) : Bool := (sinceReload events).any isLookup

theorem setting_after (d : Diagnostics) (e : DiagnosticsEvent) :
    (d.after e).setting = e.kept?.getD d.setting := by
  cases e with
  | reload => rfl
  | ask category => rfl
  | log outlet category message args => rfl
  | assign setting =>
    cases setting with
    | none => rfl
    | some text =>
      cases htext : Fault.ofHostText? text <;> simp [after, Diagnostics.assign, kept?, htext]

theorem remembered_after (d : Diagnostics) (e : DiagnosticsEvent) : (d.after e).remembered =
    if e.isReload then none else if e.isLookup then some d.current else d.remembered := by
  cases e with
  | reload => rfl
  | ask category => rfl
  | log outlet category message args => rfl
  | assign setting =>
    simp only [after, isReload, isLookup, Bool.false_eq_true, if_false, Diagnostics.assign]
    cases setting.bind Fault.ofHostText? <;> rfl

theorem afterAll_concat :
    afterAll initial (events ++ [e]) = (afterAll initial events).after e := by
  rw [afterAll, List.foldl_concat]
  rfl

theorem settingAfter_concat :
    settingAfter initial (events ++ [e]) = e.kept?.getD (settingAfter initial events) := by
  rw [settingAfter, List.filterMap_append, settingAfter]
  cases h : e.kept? <;> simp [h]

theorem sinceReload_concat :
    sinceReload (events ++ [e]) = if e.isReload then [] else sinceReload events ++ [e] := by
  cases h : e.isReload <;> simp [sinceReload, h]

theorem isLookedUp_concat :
    isLookedUp (events ++ [e]) = (!e.isReload && (isLookedUp events || e.isLookup)) := by
  rw [isLookedUp, sinceReload_concat]
  cases h : e.isReload <;> simp [isLookedUp]

theorem takeWhile_sinceReload (h : isLookedUp events = false) :
    (sinceReload events).takeWhile (!·.isLookup) = sinceReload events := by
  rw [List.takeWhile_eq_self_iff]
  simpa [isLookedUp] using h

/-- Without a lookup nothing is left out. -/
theorem beforeLookup_of_not (h : isLookedUp events = false) : beforeLookup events = events := by
  rw [beforeLookup, takeWhile_sinceReload h, sinceReload, List.rdropWhile_append_rtakeWhile]

/-- Once the setting was looked up, only a reload changes what stands before that. -/
theorem beforeLookup_concat (h : isLookedUp events = true) (he : e.isReload = false) :
    beforeLookup (events ++ [e]) = beforeLookup events := by
  obtain ⟨looked, hlooked, hlookup⟩ := List.any_eq_true.mp h
  have htake : ((sinceReload events).takeWhile (!·.isLookup)).length ≠
      (sinceReload events).length := fun hlength => by
    have hall := (List.takeWhile_prefix _).eq_of_length hlength
    rw [List.takeWhile_eq_self_iff] at hall
    simpa [hlookup] using hall looked hlooked
  rw [beforeLookup, List.rdropWhile_concat_pos _ _ _ (by simp [he]), sinceReload_concat, he,
    if_neg Bool.false_ne_true, List.takeWhile_append, if_neg htake, beforeLookup]

/-- The first lookup leaves out itself and what comes behind it. -/
theorem beforeLookup_concat_first (h : isLookedUp events = false) (hreload : e.isReload = false)
    (he : e.isLookup = true) : beforeLookup (events ++ [e]) = events := by
  rw [beforeLookup, List.rdropWhile_concat_pos _ _ _ (by simp [hreload]), sinceReload_concat,
    hreload, if_neg Bool.false_ne_true, List.takeWhile_append, takeWhile_sinceReload h,
    if_pos rfl, List.takeWhile_cons_of_neg (by simp [he]), List.append_nil, sinceReload,
    List.rdropWhile_append_rtakeWhile]

theorem setting_afterAll :
    (afterAll initial events).setting = settingAfter initial events := by
  induction events using List.reverseRecOn with
  | nil => rfl
  | append_singleton events e ih =>
    rw [afterAll_concat, setting_after, ih, settingAfter_concat]

/-- What is remembered is what the setting said at the first lookup. -/
def Remembers (initial : Option Text) (events : List DiagnosticsEvent) : Prop :=
  (afterAll initial events).remembered =
    if isLookedUp events then some (Categories.parse (inForce initial events)) else none

theorem current_of_remembers (h : Remembers initial events) :
    (afterAll initial events).current = Categories.parse (inForce initial events) := by
  rw [current, h, setting_afterAll]
  cases hlooked : isLookedUp events with
  | true => rfl
  | false =>
    rw [inForce, beforeLookup_of_not hlooked]
    rfl

theorem remembers_concat (h : Remembers initial events) (e : DiagnosticsEvent) :
    Remembers initial (events ++ [e]) := by
  rw [Remembers, afterAll_concat, remembered_after, current_of_remembers h, h, isLookedUp_concat]
  cases hreload : e.isReload with
  | true => rfl
  | false =>
    cases hlooked : isLookedUp events with
    | true => simp [inForce, beforeLookup_concat hlooked hreload]
    | false =>
      cases hlookup : e.isLookup with
      | true =>
        simp [inForce, beforeLookup_concat_first hlooked hreload hlookup,
          beforeLookup_of_not hlooked]
      | false => rfl

theorem remembers_afterAll (initial : Option Text) (events : List DiagnosticsEvent) :
    Remembers initial events := by
  induction events using List.reverseRecOn with
  | nil => rfl
  | append_singleton events e ih => exact remembers_concat ih e

/-! ## Settings that spell the same names -/

/-- The settings spell the same names, and the same names are remembered. -/
structure Alike (d d' : Diagnostics) : Prop where
  setting : Respelled (Categories.items (d.setting.getD "")) (Categories.items (d'.setting.getD ""))
  remembered : Option.Rel Categories.Alike d.remembered d'.remembered

namespace Alike

theorem current (h : d.Alike d') : d.current.Alike d'.current := by
  have hremembered := h.remembered
  rw [Diagnostics.current, Diagnostics.current]
  generalize d.remembered = names at hremembered ⊢
  generalize d'.remembered = names' at hremembered ⊢
  cases hremembered with
  | some hnames => exact hnames
  | none => exact Categories.alike_parse h.setting

theorem ask_eq (h : d.Alike d') (category : Option Text) :
    (d.ask category).1 = (d'.ask category).1 :=
  h.current.isEnabled_eq category

theorem report_eq (h : d.Alike d') (outlet : Outlet) (category message : MessageArg)
    (args : List MessageArg) :
    (d.report outlet category message args).1 = (d'.report outlet category message args).1 := by
  simp only [report, askFor, h.current.isEnabledFor_eq]

theorem after (h : d.Alike d') (he : e.Respelled e') : (d.after e).Alike (d'.after e') := by
  cases he with
  | assign hkept hkept' hsame =>
    exact ⟨by simpa [setting_after, kept?, hkept, hkept'] using hsame,
      by simpa [remembered_after, isReload, isLookup] using h.remembered⟩
  | same e =>
    refine ⟨?_, ?_⟩
    · rw [setting_after, setting_after]
      cases e.kept? with
      | none => exact h.setting
      | some setting => exact Respelled.refl _
    · rw [remembered_after, remembered_after]
      split
      · exact Option.Rel.none
      · split
        · exact Option.Rel.some h.current
        · exact h.remembered

end Alike

theorem alike_afterAll
    (hinitial :
      Respelled (Categories.items (initial.getD "")) (Categories.items (initial'.getD "")))
    (h : List.Forall₂ DiagnosticsEvent.Respelled events events') :
    (afterAll initial events).Alike (afterAll initial' events') := by
  have hrun {d d' : Diagnostics} (hd : d.Alike d') :
      (events.foldl after d).Alike (events'.foldl after d') := by
    induction h generalizing d d' with
    | nil => exact hd
    | cons he _ ih => exact ih (hd.after he)
  exact hrun ⟨hinitial, Option.Rel.none⟩

/-! ## Answers -/

/-- A setting decides what is answered and what is printed. -/
structure Answers (setting : Text) (d : Diagnostics) : Prop where
  asked : ∀ category, (d.ask category).1 = true ↔ Enables (Categories.items setting) category
  silent : ∀ outlet category message args,
    ¬ Enables (Categories.items setting) (some category) →
      (d.report outlet (.text category) (.text message) args).1 = .ok none
  /-- What can be shown is printed, unless the outlet refuses its line. -/
  printed : ∀ outlet category message args,
    Enables (Categories.items setting) (some category) → Message.IsShowable message args →
      ∃ shown, Message.text (.text message) args = .ok shown ∧
        (Outlet.Takes outlet (Categories.line category shown) →
          (d.report outlet (.text category) (.text message) args).1 =
            .ok (some (Categories.line category shown))) ∧
        (¬ Outlet.Takes outlet (Categories.line category shown) →
          ∃ fault, Fault.IsRefusal fault ∧
            (d.report outlet (.text category) (.text message) args).1 = .error fault)
  failed : ∀ outlet category message args,
    Enables (Categories.items setting) (some category) → Message.IsUnshowable message args →
      ∃ fault, (d.report outlet (.text category) (.text message) args).1 = .error fault

/-- What a message of a category that is on comes to. -/
theorem report_of_enabled {category : Text} (h : (d.ask (some category)).1 = true)
    (outlet : Outlet) (message : Text) (args : List MessageArg) :
    (d.report outlet (.text category) (.text message) args).1 = (do
      let shown ← Message.text (.text message) args
      match outlet.refusal? (Categories.line category shown) with
      | none => return some (Categories.line category shown)
      | some fault => throw fault) := by
  have hon : d.current.isEnabledFor (.text category) = .ok true := congrArg Except.ok h
  simp only [report, askFor, hon]
  rfl

theorem report_of_not_enabled {category : Text} (h : (d.ask (some category)).1 ≠ true)
    (outlet : Outlet) (message : Text) (args : List MessageArg) :
    (d.report outlet (.text category) (.text message) args).1 = .ok none := by
  have hoff : d.current.isEnabledFor (.text category) = .ok false :=
    congrArg Except.ok (Bool.not_eq_true _ ▸ h)
  simp only [report, askFor, hoff]
  rfl

theorem answers_of_current {setting : Text} (h : d.current = Categories.parse setting) :
    Answers setting d := by
  have hasked (category : Option Text) :
      (d.ask category).1 = true ↔ Enables (Categories.items setting) category := by
    rw [ask, h, Categories.isEnabled_parse_iff]
  constructor
  case asked => exact hasked
  case silent =>
    intro outlet category message args hoff
    exact report_of_not_enabled (hoff ∘ (hasked _).mp) outlet message args
  case printed =>
    intro outlet category message args hon hshow
    obtain ⟨shown, htext⟩ := Message.exists_text_of_isShowable hshow
    have hreport := report_of_enabled ((hasked _).mpr hon) outlet message args
    rw [htext] at hreport
    refine ⟨shown, htext, fun htakes => ?_, fun htakes => ?_⟩
    · rw [hreport]
      simp only [bind, Except.bind, Outlet.refusal?_eq_none_iff.mpr htakes]
      rfl
    · cases hrefused : outlet.refusal? (Categories.line category shown) with
      | none => exact absurd (Outlet.refusal?_eq_none_iff.mp hrefused) htakes
      | some fault =>
        refine ⟨fault, Outlet.isRefusal_of_refusal? hrefused, ?_⟩
        rw [hreport]
        simp only [bind, Except.bind, hrefused]
        rfl
  case failed =>
    intro outlet category message args hon hshow
    obtain ⟨fault, htext⟩ := Message.exists_text_error_of_isUnshowable hshow
    exact ⟨fault, by rw [report_of_enabled ((hasked _).mpr hon), htext]; rfl⟩

/-- After any history a question is answered by the setting that was in force at the first lookup
since the last reload, whatever it was changed to later. A message of a category that is off prints
nothing. One of a category that is on prints its line if it can be shown and the outlet takes the
line, and fails if it cannot be shown or the line is refused. Settings that spell the same names in
another way give the same answers and the same lines. -/
theorem answers_of_history (initial : Option Text) (events : List DiagnosticsEvent) :
    Answers (inForce initial events) (afterAll initial events) ∧
    ∀ initial' events',
      Respelled (Categories.items (initial.getD "")) (Categories.items (initial'.getD "")) →
      List.Forall₂ DiagnosticsEvent.Respelled events events' →
      (∀ category, ((afterAll initial events).ask category).1 =
        ((afterAll initial' events').ask category).1) ∧
      ∀ outlet category message args,
        ((afterAll initial events).report outlet category message args).1 =
          ((afterAll initial' events').report outlet category message args).1 := by
  refine ⟨answers_of_current (current_of_remembers (remembers_afterAll initial events)),
    fun initial' events' hinitial hevents => ?_⟩
  have halike := alike_afterAll hinitial hevents
  exact ⟨halike.ask_eq, halike.report_eq⟩

/-- Two spellings of the same names. What the setting is changed to after the question plays no
part. -/
theorem answers_of_history_spellings :
    let asked := afterAll (some "cpu, timer") [.ask none, .assign (some "audio")]
    let respelled := afterAll (some "CPU , timer,cpu") [.ask none, .assign (some "AUDIO")]
    (asked.ask (some "Cpu")).1 = true ∧ (respelled.ask (some "Cpu")).1 = true ∧
      (respelled.ask (some "audio")).1 = false := by
  have hrepeated : Respelled [Text.ofString "cpu", Text.ofString " timer"]
      [Text.ofString "cpu", Text.ofString "cpu", Text.ofString " timer"] :=
    .repeated (by decide)
  have hrecased : Respelled [Text.ofString "cpu", Text.ofString "cpu", Text.ofString " timer"]
      [Text.ofString "CPU", Text.ofString "cpu", Text.ofString " timer"] :=
    .recased (by rw [Text.Recased]; decide) _
  have hpadded : Respelled [Text.ofString "CPU", Text.ofString "cpu", Text.ofString " timer"]
      [Text.ofString "CPU ", Text.ofString "cpu", Text.ofString " timer"] :=
    @Respelled.padded [] (Text.ofString " ") (by simp [Text.IsBlank])
      (by rw [Text.IsBlank]; decide) _ _
  have hinitial : Respelled [Text.ofString "cpu", Text.ofString " timer"]
      [Text.ofString "CPU ", Text.ofString " timer", Text.ofString "cpu"] :=
    ((hrepeated.trans hrecased).trans hpadded).trans (.reordered (by decide))
  have hevents : List.Forall₂ DiagnosticsEvent.Respelled [.ask none, .assign (some "audio")]
      [.ask none, .assign (some "AUDIO")] :=
    .cons (.same _) (.cons (.assign (by decide) (by decide)
      (Respelled.recased (by rw [Text.Recased]; decide) _)) .nil)
  obtain ⟨-, hsame⟩ := answers_of_history (some "cpu, timer") [.ask none, .assign (some "audio")]
  obtain ⟨hask, -⟩ := hsame (some "CPU , timer,cpu") _ hinitial hevents
  have hcpu : ((afterAll (some "cpu, timer") [.ask none, .assign (some "audio")]).ask
      (some "Cpu")).1 = true := by decide
  have haudio : ((afterAll (some "cpu, timer") [.ask none, .assign (some "audio")]).ask
      (some "audio")).1 = false := by decide
  exact ⟨hcpu, hask _ ▸ hcpu, hask _ ▸ haudio⟩

/-- A category is on, and still a message of it prints no line: a code that no character has is no
misfit to be written behind the message, but a fault. -/
theorem exists_unprinted_line : ∃ d : Diagnostics, d = afterAll (some "cpu") [] ∧
    (d.ask (some "cpu")).1 = true ∧
    (d.report .characters (.text "cpu") (.text "%c") [.int 0x110000]).1 = .error .characterCode :=
  ⟨_, rfl, by decide, rfl⟩

end Diagnostics

end Chip8
