/-
  What printing does. A line is printed as a whole, or it is refused and nothing is printed. A host
  can be told a message (`Host.CanTell`) if its category is off or the output takes its line: then
  telling it succeeds (`Host.tryLog_of_canTell`), and otherwise it fails (`Host.tryLog_of_not`). A
  string can always be told. In every case nothing of the host is changed but what it printed
  (`Host.logged_cases`).
-/
import Chip8.Host
import Chip8.Proofs.Act

namespace Chip8

/-- A fault of output that refuses a text. -/
def Fault.IsRefusal (fault : Fault) : Prop := ∃ run, fault = .unencodable run

theorem Outlet.isRefusal_of_refusal? {o : Outlet} {t : Text} {fault : Fault}
    (h : o.refusal? t = some fault) : fault.IsRefusal := by
  obtain ⟨run, -, hrun⟩ := Option.map_eq_some_iff.mp h
  exact ⟨run, hrun.symm⟩

/-- Only surrogates are ever refused. -/
theorem Outlet.exists_surrogate_of_not_takes {o : Outlet} {t : Text} (h : ¬ o.Takes t) :
    ∃ d, CodePoint.surrogate d ∈ t := by
  unfold Takes at h
  push Not at h
  obtain ⟨p, hp, hrefused⟩ := h
  cases p with
  | char c => exact absurd (o.takes_char c) hrefused
  | surrogate d => exact ⟨d, hp⟩

namespace Host

variable {h : Host} {category message text : Text}

/-! ## Lines -/

theorem tryPrintLine_of_takes (htakes : h.outlet.Takes text) :
    tryPrintLine text h = .ok () (h.put (text ++ "\n")) := by
  rw [tryPrintLine, Outlet.refusal?_eq_none_iff.mpr htakes]

/-- A line that is refused is not printed. -/
theorem tryPrintLine_of_not (htakes : ¬ h.outlet.Takes text) :
    ∃ fault, tryPrintLine text h = .error fault h ∧ h.outlet.refusal? text = some fault ∧
      fault.IsRefusal := by
  cases hfault : h.outlet.refusal? text with
  | none => exact absurd (Outlet.refusal?_eq_none_iff.mp hfault) htakes
  | some fault =>
    exact ⟨fault, by rw [tryPrintLine, hfault], rfl, Outlet.isRefusal_of_refusal? hfault⟩

theorem tryPrintLine_ofString (h : Host) (s : String) :
    tryPrintLine s h = .ok () (h.printLine s) := by
  rw [tryPrintLine_of_takes (h.outlet.takes_ofString s), printLine, print, Text.ofString_append]

/-! ## Messages -/

/-- A message of the category can be printed, or nobody wants to hear of it. -/
def CanTell (h : Host) (category message : Text) : Prop :=
  h.isLogging category = true → h.outlet.Takes (Categories.line category message)

instance : Decidable (h.CanTell category message) :=
  inferInstanceAs (Decidable (_ = true → h.outlet.Takes _))

theorem takes_line {o : Outlet} :
    o.Takes (Categories.line category message) ↔ o.Takes category ∧ o.Takes message := by
  simp only [Categories.line, Outlet.takes_append, Outlet.takes_ofString, true_and, and_true]

theorem canTell_of_takes (hcategory : h.outlet.Takes category) (hmessage : h.outlet.Takes message) :
    h.CanTell category message := fun _ => takes_line.mpr ⟨hcategory, hmessage⟩

/-- The same categories are on, and what is printed goes to the same kind of output. -/
def SameOutput (h h' : Host) : Prop := h.categories = h'.categories ∧ h.outlet = h'.outlet

theorem SameOutput.refl (h : Host) : h.SameOutput h := ⟨rfl, rfl⟩

theorem SameOutput.symm {h' : Host} (hsame : h.SameOutput h') : h'.SameOutput h :=
  ⟨hsame.1.symm, hsame.2.symm⟩

theorem SameOutput.trans {h' h'' : Host} (hsame : h.SameOutput h') (hsame' : h'.SameOutput h'') :
    h.SameOutput h'' := ⟨hsame.1.trans hsame'.1, hsame.2.trans hsame'.2⟩

theorem SameOutput.canTell_iff {h' : Host} (hsame : h.SameOutput h') :
    h.CanTell category message ↔ h'.CanTell category message := by
  rw [CanTell, CanTell, isLogging, isLogging, hsame.1, hsame.2]

theorem canTell_ofString (h : Host) (category message : String) : h.CanTell category message :=
  canTell_of_takes (h.outlet.takes_ofString _) (h.outlet.takes_ofString _)

theorem tryLog_eq (h : Host) (category message : Text) : tryLog category message h =
    if h.isLogging category then tryPrintLine (Categories.line category message) h
    else .ok () h := by
  rw [tryLog, Act.get_bind]
  split <;> rfl

theorem stateOf_tryLog (h : Host) (category message : Text) :
    stateOf (tryLog category message h) = h.logged category message := by
  rw [logged]
  cases tryLog category message h <;> rfl

/-- A message is printed on a line of its own, or nothing is. -/
theorem logged_eq (h : Host) (category message : Text) : h.logged category message =
    if h.isLogging category = true ∧ h.outlet.Takes (Categories.line category message) then
      h.put (Categories.line category message ++ "\n")
    else h := by
  rw [← stateOf_tryLog, tryLog_eq]
  by_cases hon : h.isLogging category = true
  · by_cases htakes : h.outlet.Takes (Categories.line category message)
    · rw [if_pos hon, if_pos ⟨hon, htakes⟩, tryPrintLine_of_takes htakes]
      rfl
    · obtain ⟨fault, hfault, -⟩ := tryPrintLine_of_not htakes
      rw [if_pos hon, if_neg fun h => htakes h.2, hfault]
      rfl
  · rw [if_neg hon, if_neg fun h => hon h.1]
    rfl

theorem tryLog_of_canTell (hcan : h.CanTell category message) :
    tryLog category message h = .ok () (h.logged category message) := by
  rw [tryLog_eq, logged_eq]
  by_cases hon : h.isLogging category = true
  · rw [if_pos hon, if_pos ⟨hon, hcan hon⟩, tryPrintLine_of_takes (hcan hon)]
  · rw [if_neg hon, if_neg fun h => hon h.1]

/-- A message that cannot be told is refused, and nothing is printed. -/
theorem tryLog_of_not (hcan : ¬ h.CanTell category message) :
    ∃ fault, tryLog category message h = .error fault h ∧ fault.IsRefusal := by
  rw [CanTell, Classical.not_imp] at hcan
  obtain ⟨fault, hfault, -, hrefusal⟩ := tryPrintLine_of_not hcan.2
  exact ⟨fault, by rw [tryLog_eq, if_pos hcan.1, hfault], hrefusal⟩

theorem tryLog_ofString (h : Host) (category message : String) :
    tryLog category message h = .ok () (h.logged category message) :=
  tryLog_of_canTell (h.canTell_ofString category message)

/-- What a message is answered depends on where it goes, and on whether its category is on. -/
theorem answerOf_tryLog_congr {h' : Host} (houtlet : h.outlet = h'.outlet)
    (hlogging : h.isLogging category = h'.isLogging category) :
    answerOf (tryLog category message h) = answerOf (tryLog category message h') := by
  rw [tryLog_eq, tryLog_eq, hlogging]
  split
  · unfold tryPrintLine
    rw [houtlet]
    cases h'.outlet.refusal? (Categories.line category message) <;> rfl
  · rfl

theorem logged_cases (h : Host) (category message : Text) : h.logged category message = h ∨
    h.logged category message = h.put (Categories.line category message ++ "\n") := by
  rw [logged_eq]
  split
  · exact .inr rfl
  · exact .inl rfl

/-- What is not changed by printing is not changed by messages. -/
theorem of_logged {α : Type} {f : Host → α} (hput : ∀ h text, f (put h text) = f h) (h : Host)
    (category message : Text) : f (h.logged category message) = f h := by
  rcases h.logged_cases category message with heq | heq
  · rw [heq]
  · rw [heq, hput]

theorem calls_logged (h : Host) (category message : Text) :
    (h.logged category message).calls = h.calls := of_logged (fun _ _ => rfl) h category message

theorem categories_logged (h : Host) (category message : Text) :
    (h.logged category message).categories = h.categories :=
  of_logged (fun _ _ => rfl) h category message

theorem outlet_logged (h : Host) (category message : Text) :
    (h.logged category message).outlet = h.outlet := of_logged (fun _ _ => rfl) h category message

theorem sameOutput_logged (h : Host) (category message : Text) :
    h.SameOutput (h.logged category message) :=
  ⟨(h.categories_logged _ _).symm, (h.outlet_logged _ _).symm⟩

theorem flush_logged (h : Host) (category message : Text) :
    (h.logged category message).flush = h.flush := of_logged (fun _ _ => rfl) h category message

/-- Messages that can be told are printed one behind the other, or none of them is. -/
theorem tryLog_forM_of_canTell {messages : List Text}
    (hcan : ∀ message ∈ messages, h.CanTell category message) :
    messages.forM (tryLog category) h = .ok () { h with
      printed := h.printed ++ if h.isLogging category then
        (messages.map fun message => Categories.line category message ++ "\n").toArray
        else #[] } := by
  induction messages generalizing h with
  | nil => simp [pure, EStateM.pure]
  | cons message rest ih =>
    have hnext : ∀ m ∈ rest, (h.logged category message).CanTell category m := fun m hm =>
      (h.sameOutput_logged _ _).canTell_iff.mp (hcan m (List.mem_cons_of_mem message hm))
    have htold := tryLog_of_canTell (hcan message List.mem_cons_self)
    change (tryLog category message >>= fun _ => rest.forM (tryLog category)) h = _
    rw [Act.bind_ok htold, ih hnext, isLogging, categories_logged, ← isLogging, logged_eq]
    by_cases hon : h.isLogging category = true
    · rw [if_pos ⟨hon, hcan message List.mem_cons_self hon⟩]
      simp [hon, put]
    · rw [if_neg fun h => hon h.1]
      simp [hon]

/-- A row of messages ends at the first one that cannot be told. -/
theorem exists_tryLog_forM_error {messages : List Text}
    (hcan : ¬ ∀ message ∈ messages, h.CanTell category message) :
    ∃ fault h', messages.forM (tryLog category) h = .error fault h' ∧ fault.IsRefusal := by
  induction messages generalizing h with
  | nil => exact absurd (List.forall_mem_nil _) hcan
  | cons message rest ih =>
    change ∃ fault h', (tryLog category message >>= fun _ => rest.forM (tryLog category)) h = _ ∧ _
    by_cases hfirst : h.CanTell category message
    · rw [Act.bind_ok (tryLog_of_canTell hfirst)]
      refine ih fun hrest => hcan (List.forall_mem_cons.mpr ⟨hfirst, fun m hm => ?_⟩)
      exact (h.sameOutput_logged category message).canTell_iff.mpr (hrest m hm)
    · obtain ⟨fault, hfault, hrefusal⟩ := tryLog_of_not hfirst
      exact ⟨fault, h, Act.bind_error hfault, hrefusal⟩

/-! ## Beside something else -/

theorem beside_eq {σ α : Type} (act : Act Host α) (s : σ × Host) :
    beside act s = resultWithin (fun h => (s.1, h)) (act s.2) := rfl

/-- The message of a category by name is the message of the text that names it. -/
theorem logFor_text (category message : Text) : logFor (.text category) message =
    tryLog category message := rfl

end Host

end Chip8
