/-
  Displays do not look at the host. All that clearing, reading and drawing do with it is to ask it
  for something. So if a relation between hosts does not mind when both are asked for the same
  (`Host.KeptByCalls`), the acts on a display answer the same from hosts in this relation, leave
  the same display and keep the relation (`agree_getPixel`, `agree_drawPixel`); so does drawing a
  sprite (`agree_draw_sameOn`). One such relation is that the same paintings were asked for
  (`agree_draw_sameStage`).
-/
import Chip8.Proofs.Host
import Chip8.Proofs.Sprite

namespace Chip8

namespace Host

/-- The paintings that were asked for, in order. -/
def paintings (h : Host) : List HostCall := h.calls.toList.filter HostCall.isPainting

theorem paintings_call (h : Host) (c : HostCall) :
    (h.call c).paintings = h.paintings ++ [c].filter HostCall.isPainting := by
  simp [paintings, call]

theorem paintings_log (h : Host) (category message : Text) :
    (h.logged category message).paintings = h.paintings := by
  rw [paintings, calls_logged, paintings]

theorem keptByCalls_paintings (kind : HostCall → Bool) :
    KeptByCalls kind fun h h' => h.paintings = h'.paintings := by
  intro h h' c _ hsame
  rw [paintings_call, paintings_call, hsame]

end Host

namespace Display

/-- The same display, on hosts that were asked for the same paintings. -/
def SameStage (s t : Display × Host) : Prop := s.1 = t.1 ∧ s.2.paintings = t.2.paintings

variable {H : Host → Host → Prop}

theorem sameOn_clear (hH : Host.KeptByCalls HostCall.isShowing H) {s t : Display × Host}
    (hst : Host.SameOn H s t) :
    Host.SameOn H (Screen.clear s) (Screen.clear t) := by
  obtain ⟨d, h⟩ := s
  obtain ⟨_, h'⟩ := t
  obtain ⟨rfl, hsame⟩ := hst
  cases d with
  | bitmap f => exact ⟨rfl, hsame⟩
  | null d => exact ⟨rfl, hsame⟩
  | recorded r => exact ⟨rfl, hH _ _ .displayCleared rfl hsame⟩
  | window w =>
    change Host.SameOn H (_, if w.opened then h.call _ else h)
      (_, if w.opened then h'.call _ else h')
    split
    · exact ⟨rfl, hH _ _ _ rfl hsame⟩
    · exact ⟨rfl, hsame⟩

theorem agree_getPixel (hH : Host.KeptByCalls HostCall.isShowing H) (x y : Int) :
    Act.Agree (Host.SameOn H) (Screen.getPixel x y : Act (Display × Host) Bool)
      (Screen.getPixel x y) := by
  rintro ⟨d, h⟩ ⟨_, h'⟩ ⟨rfl, hsame⟩
  cases d with
  | bitmap f =>
    simp only [Screen.getPixel, lift]
    cases f.getPixel x y with
    | ok on => exact .ok ⟨rfl, hsame⟩
    | error fault => exact .error ⟨rfl, hsame⟩
  | null d => exact .ok ⟨rfl, hsame⟩
  | recorded r =>
    simp only [Screen.getPixel, lift]
    cases r.bitmap.getPixel x y with
    | ok on => exact .ok ⟨rfl, hH _ _ _ rfl hsame⟩
    | error fault => exact .error ⟨rfl, hH _ _ _ rfl hsame⟩
  | window w =>
    simp only [Screen.getPixel, lift]
    cases w.bitmap.getPixel x y with
    | ok on => exact .ok ⟨rfl, hsame⟩
    | error fault => exact .error ⟨rfl, hsame⟩

theorem agree_drawPixel (hH : Host.KeptByCalls HostCall.isShowing H) (x y : Int) (hint : Number)
    (on : Bool) :
    Act.Agree (Host.SameOn H) (Screen.drawPixel x y hint on : Act (Display × Host) Unit)
      (Screen.drawPixel x y hint on) := by
  rintro ⟨d, h⟩ ⟨_, h'⟩ ⟨rfl, hsame⟩
  cases d with
  | bitmap f =>
    simp only [Screen.drawPixel, lift]
    cases f.drawPixel x y on with
    | ok f' => exact .ok ⟨rfl, hsame⟩
    | error fault => exact .error ⟨rfl, hsame⟩
  | null d => exact .ok ⟨rfl, hsame⟩
  | recorded r =>
    simp only [Screen.drawPixel, lift]
    cases hint.toReal with
    | error fault => exact .error ⟨rfl, hsame⟩
    | ok hint =>
      dsimp only
      cases r.bitmap.drawPixel x y on with
      | ok f => exact .ok ⟨rfl, hH _ _ _ rfl hsame⟩
      | error fault => exact .error ⟨rfl, hH _ _ _ rfl hsame⟩
  | window w =>
    simp only [Screen.drawPixel, lift, Window.drawPixel]
    cases w.bitmap.drawPixel x y on with
    | error fault => exact .error ⟨rfl, hsame⟩
    | ok f =>
      dsimp only
      split
      · cases Window.pixelSize w.scale hint with
        | error fault => exact .error ⟨rfl, hsame⟩
        | ok side => exact .ok ⟨rfl, hH _ _ _ rfl hsame⟩
      · exact .ok ⟨rfl, hsame⟩

theorem sameOn_present (hH : Host.KeptByCalls HostCall.isShowing H) {s t : Display × Host}
    (hst : Host.SameOn H s t) :
    Host.SameOn H (present s) (present t) := by
  obtain ⟨d, h⟩ := s
  obtain ⟨_, h'⟩ := t
  obtain ⟨rfl, hsame⟩ := hst
  cases d with
  | bitmap f => exact ⟨rfl, hsame⟩
  | null d => exact ⟨rfl, hsame⟩
  | recorded r => exact ⟨rfl, hsame⟩
  | window w =>
    simp only [present, mapHost, Window.present]
    split
    · exact ⟨rfl, hH _ _ .flip rfl hsame⟩
    · exact ⟨rfl, hsame⟩

/-- What holds of hosts, whatever a display asks of them, holds after clearing and showing. -/
theorem holds_clear {P : Host → Prop} (hP : ∀ h c, HostCall.isShowing c = true → P h → P (h.call c))
    (s : Display × Host) (h : P s.2) : P (Screen.clear s).2 :=
  (sameOn_clear (H := fun h _ => P h) (fun h _ c hc => hP h c hc) ⟨rfl, h⟩ : Host.SameOn _ _ _).2

theorem holds_present {P : Host → Prop}
    (hP : ∀ h c, HostCall.isShowing c = true → P h → P (h.call c)) (s : Display × Host)
    (h : P s.2) : P (present s).2 :=
  (sameOn_present (H := fun h _ => P h) (fun h _ c hc => hP h c hc) ⟨rfl, h⟩ : Host.SameOn _ _ _).2

theorem sameStage_clear {s t : Display × Host} (hst : SameStage s t) :
    SameStage (Screen.clear s) (Screen.clear t) :=
  sameOn_clear (H := fun h h' => h.paintings = h'.paintings) (Host.keptByCalls_paintings _) hst

end Display

/-- What is left of the host when a window was opened. -/
theorem Window.holds_powerOn {P : Host → Prop}
    (hlog : ∀ h category message, P h → P (h.logged category message))
    (hshow : ∀ h c, HostCall.isShowing c = true → P h → P (h.call c))
    (hcaption : ∀ h text, P h → P (h.call (.caption text))) (s : Window × Host) (h : P s.2) :
    P (stateOf (powerOn s)).2 := by
  let kept (t : Window × Host) : Prop := P t.2
  have hsize : Act.Keeps kept logSize := by
    intro t ht
    rw [logSize_eq]
    exact Host.holds_tell _ (fun h text => hlog h _ text) ht
  have hclear : Act.Keeps kept (modify clear) :=
    Act.keeps_modify fun t ht => Display.holds_clear hshow (.window t.1, t.2) ht
  have hopen : P ((s.2.call (.openWindow s.1.size.1 s.1.size.2 s.1.fullscreen)).call
      (.caption s.1.caption)) := hcaption _ _ (hshow _ _ rfl h)
  unfold powerOn
  rw [Act.get_bind]
  dsimp only
  split
  · exact h
  · refine (?_ : Act.Keeps kept _) s h
    exact Act.keeps_bind (Act.keeps_set hopen) fun _ => Act.keeps_bind hsize fun _ => hclear

/-- What is left of the host when a display was readied. -/
theorem Display.holds_powerOn {P : Host → Prop}
    (hlog : ∀ h category message, P h → P (h.logged category message))
    (hshow : ∀ h c, HostCall.isShowing c = true → P h → P (h.call c))
    (hcaption : ∀ h text, P h → P (h.call (.caption text))) (s : Display × Host) (h : P s.2) :
    P (stateOf (Screen.powerOn s)).2 := by
  obtain ⟨d, host⟩ := s
  cases d with
  | bitmap f => exact h
  | null d => exact h
  | recorded r => exact hshow host _ rfl h
  | window w =>
    change P (stateOf (resultWithin (fun t => (Display.window t.1, t.2))
      (Window.powerOn (w, host)))).2
    rw [stateOf_resultWithin]
    exact Window.holds_powerOn hlog hshow hcaption (w, host) h

namespace Sprite

variable {H : Host → Host → Prop}

/-- The same canvas, on hosts in the relation. -/
def SameCanvasOn (H : Host → Host → Prop) (c c' : Canvas Display) : Prop :=
  Host.SameOn H c.screen c'.screen ∧ c.hit = c'.hit

/-- The same canvas, on hosts that were asked for the same paintings. -/
def SameCanvas (c c' : Canvas Display) : Prop :=
  Display.SameStage c.screen c'.screen ∧ c.hit = c'.hit

theorem agree_flipCell_sameOn (hH : Host.KeptByCalls HostCall.isShowing H) (hint : Number)
    (x y : Nat) :
    Act.Agree (SameCanvasOn H) (flipCell hint x y) (flipCell hint x y) := by
  rintro ⟨s, hit⟩ ⟨t, _⟩ ⟨hst, rfl⟩
  have hread := Display.agree_getPixel hH (x : Int) (y : Int) s t hst
  unfold flipCell
  dsimp only
  generalize Screen.getPixel (x : Int) (y : Int) s = r at hread ⊢
  generalize Screen.getPixel (x : Int) (y : Int) t = r' at hread ⊢
  cases hread with
  | error hst => exact .error ⟨hst, rfl⟩
  | @ok lit s t hst =>
    have hdraw := Display.agree_drawPixel hH (x : Int) (y : Int) hint (!lit) s t hst
    dsimp only
    generalize Screen.drawPixel (x : Int) (y : Int) hint (!lit) s = r at hdraw ⊢
    generalize Screen.drawPixel (x : Int) (y : Int) hint (!lit) t = r' at hdraw ⊢
    cases hdraw with
    | error hst => exact .error ⟨hst, rfl⟩
    | ok hst => exact .ok ⟨hst, rfl⟩

theorem agree_draw_sameOn (hH : Host.KeptByCalls HostCall.isShowing H) (hint : Number)
    (row : Nat → Except Fault Byte)
    (left top count : Nat) :
    Act.Agree (SameCanvasOn H) (draw hint row left top count) (draw hint row left top count) := by
  intro c c' hc
  rw [draw_def, draw_def, hc.1.1]
  exact Act.agree_forM _ (fun i _ => Act.agree_bind (Act.agree_ofExcept _) fun dots =>
    Act.agree_forM _ fun col _ => agree_flipCell_sameOn hH hint _ _) c c' hc

theorem agree_draw_sameStage (hint : Number) (row : Nat → Except Fault Byte)
    (left top count : Nat) :
    Act.Agree SameCanvas (draw hint row left top count) (draw hint row left top count) :=
  agree_draw_sameOn (H := fun h h' => h.paintings = h'.paintings) (Host.keptByCalls_paintings _)
    hint row
    left top count

end Sprite

end Chip8
