/-
  Results of acts. An act leaves a state behind whether it fails or not, so a result has an
  answer (`answerOf`) and a state (`stateOf`). `Act.Keeps P act` says that `act` leaves `P`
  true in either case; it goes through binds and loops. A loop over `0, 1, …` whose states
  are known one by one is followed to its end (`forM_range_ok`) or to the step that fails
  (`forM_range_error`), and one that ends itself early goes over a part of its list
  (`forIn_eq_forM`). `Act.FailsIn faults act` says which faults the act can fail with, and
  `Act.Agree R act act'` that from states related by `R` the two acts answer the same and go on to
  related states.
-/
import Chip8.Fault
import Mathlib.Tactic.Common

namespace Chip8

variable {σ τ α β : Type}

/-- What an act answers, apart from the state it leaves. -/
def answerOf : EStateM.Result Fault σ α → Except Fault α
  | .ok a _ => .ok a
  | .error fault _ => .error fault

/-- The state that an act leaves, whether it fails or not. -/
def stateOf : EStateM.Result Fault σ α → σ
  | .ok _ s => s
  | .error _ s => s

theorem stateOf_resultWithin (put : σ → τ) (r : EStateM.Result Fault σ α) :
    stateOf (resultWithin put r) = put (stateOf r) := by
  cases r <;> rfl

theorem answerOf_resultWithin (put : σ → τ) (r : EStateM.Result Fault σ α) :
    answerOf (resultWithin put r) = answerOf r := by
  cases r <;> rfl

/-- The result of an act that ends in the state `s`, with a fault or without. -/
def ended (fault? : Option Fault) (s : σ) : EStateM.Result Fault σ Unit :=
  match fault? with
  | none => .ok () s
  | some fault => .error fault s

theorem ended_eq_ok_iff {fault? : Option Fault} {s t : σ} :
    ended fault? s = .ok () t ↔ fault? = none ∧ s = t := by
  cases fault? <;> simp [ended]

theorem resultWithin_ended (put : σ → τ) (fault? : Option Fault) (s : σ) :
    resultWithin put (ended fault? s) = ended fault? (put s) := by
  cases fault? <;> rfl

namespace Act

theorem bind_ok {act : Act σ α} {next : α → Act σ β} {s t : σ} {a : α}
    (h : act s = .ok a t) : (act >>= next) s = next a t := by
  change EStateM.bind act next s = _
  simp only [EStateM.bind, h]

theorem bind_error {act : Act σ α} {next : α → Act σ β} {s t : σ} {fault : Fault}
    (h : act s = .error fault t) : (act >>= next) s = .error fault t := by
  change EStateM.bind act next s = _
  simp only [EStateM.bind, h]

theorem of_bind_ok {act : Act σ α} {next : α → Act σ β} {s u : σ} {b : β}
    (h : (act >>= next) s = .ok b u) : ∃ a t, act s = .ok a t ∧ next a t = .ok b u := by
  cases hr : act s with
  | ok a t => exact ⟨a, t, rfl, (bind_ok hr).symm.trans h⟩
  | error fault t => rw [bind_error hr] at h; cases h

/-- An act and what follows it succeed where the act does and what follows goes on from there. -/
theorem bind_eq_ok_iff {act : Act σ Unit} {next : Act σ β} {s u : σ} {b : β} :
    (act >>= fun _ => next) s = .ok b u ↔ ∃ t, act s = .ok () t ∧ next t = .ok b u := by
  constructor
  · intro h
    obtain ⟨_, t, hact, hnext⟩ := of_bind_ok h
    exact ⟨t, hact, hnext⟩
  · rintro ⟨t, hact, hnext⟩
    exact (bind_ok hact).trans hnext

theorem get_bind (next : σ → Act σ β) (s : σ) : (get >>= next) s = next s s := rfl

theorem modify_bind (change : σ → σ) (next : PUnit → Act σ β) (s : σ) :
    (modify change >>= next) s = next ⟨⟩ (change s) := rfl

theorem stateOf_bind_pure (act : Act σ α) (f : α → β) (s : σ) :
    stateOf ((act >>= fun a => pure (f a)) s) = stateOf (act s) := by
  cases h : act s with
  | ok a t => rw [bind_ok h]; rfl
  | error fault t => rw [bind_error h]; rfl

theorem answerOf_bind_pure (act : Act σ α) (f : α → β) (s : σ) :
    answerOf ((act >>= fun a => pure (f a)) s) = (answerOf (act s)).map f := by
  cases h : act s with
  | ok a t => rw [bind_ok h]; rfl
  | error fault t => rw [bind_error h]; rfl

/-- A change after an act comes about if the act succeeds. -/
theorem stateOf_bind_modify {P Q : σ → Prop} {act : Act σ α} {change : σ → σ} {s : σ}
    (h : P (stateOf (act s))) (hok : ∀ t, P t → Q (change t)) (herror : ∀ t, P t → Q t) :
    Q (stateOf ((act >>= fun _ => modify change) s)) := by
  cases hr : act s with
  | ok a t =>
    rw [hr] at h
    rw [bind_ok hr]
    exact hok t h
  | error fault t =>
    rw [hr] at h
    rw [bind_error hr]
    exact herror t h

/-! ## What acts keep -/

/-- The act leaves `kept` true of the state, whether it fails or not. -/
def Keeps (kept : σ → Prop) (act : Act σ α) : Prop :=
  ∀ s, kept s → kept (stateOf (act s))

variable {kept : σ → Prop}

theorem Keeps.of_ok {act : Act σ α} (h : Keeps kept act) {s t : σ} {a : α} (hs : kept s)
    (hr : act s = .ok a t) : kept t := by
  have ht := h s hs
  rwa [hr] at ht

theorem keeps_pure (a : α) : Keeps kept (pure a : Act σ α) := fun _ h => h

theorem keeps_throw (fault : Fault) : Keeps kept (throw fault : Act σ α) := fun _ h => h

theorem keeps_get : Keeps kept (get : Act σ σ) := fun _ h => h

theorem keeps_modify {change : σ → σ} (h : ∀ s, kept s → kept (change s)) :
    Keeps kept (modify change : Act σ Unit) := h

theorem keeps_set {t : σ} (h : kept t) : Keeps kept (set t : Act σ PUnit) := fun _ _ => h

theorem keeps_ofExcept (r : Except Fault α) : Keeps kept (ofExcept r : Act σ α) := by
  cases r with
  | ok a => exact keeps_pure a
  | error fault => exact keeps_throw fault

theorem keeps_bind {act : Act σ α} {next : α → Act σ β} (h : Keeps kept act)
    (h' : ∀ a, Keeps kept (next a)) : Keeps kept (act >>= next) := by
  intro s hs
  have ht := h s hs
  cases hr : act s with
  | ok a t =>
    rw [hr] at ht
    rw [bind_ok hr]
    exact h' a t ht
  | error fault t =>
    rw [hr] at ht
    rw [bind_error hr]
    exact ht

theorem keeps_forM {act : α → Act σ Unit} (items : List α)
    (h : ∀ a ∈ items, Keeps kept (act a)) : Keeps kept (items.forM act) := by
  induction items with
  | nil => exact keeps_pure ()
  | cons a rest ih =>
    exact keeps_bind (h a List.mem_cons_self) fun _ =>
      ih fun b hb => h b (List.mem_cons_of_mem a hb)

/-! ## Loops -/

theorem forM_congr {act act' : α → Act σ Unit} (items : List α)
    (h : ∀ a ∈ items, act a = act' a) : items.forM act = items.forM act' := by
  induction items with
  | nil => rfl
  | cons a rest ih =>
    change (act a >>= fun _ => rest.forM act) = (act' a >>= fun _ => rest.forM act')
    rw [h a List.mem_cons_self, ih fun b hb => h b (List.mem_cons_of_mem a hb)]

theorem forM_append (act : α → Act σ Unit) (front behind : List α) :
    (front ++ behind).forM act = (front.forM act >>= fun _ => behind.forM act) := by
  induction front with
  | nil => rfl
  | cons a rest ih =>
    change (act a >>= fun _ => (rest ++ behind).forM act) =
      ((act a >>= fun _ => rest.forM act) >>= fun _ => behind.forM act)
    rw [ih, bind_assoc]

theorem forM_concat (act : α → Act σ Unit) (front : List α) (a : α) :
    (front ++ [a]).forM act = (front.forM act >>= fun _ => act a) := by
  rw [forM_append]
  congr 1
  funext _
  exact bind_pure_unit

theorem forM_range_succ (act : Nat → Act σ Unit) (n : Nat) :
    (List.range (n + 1)).forM act = ((List.range n).forM act >>= fun _ => act n) := by
  rw [List.range_succ, forM_concat]

/-- A loop that goes from each of the given states to the next one ends in the last. -/
theorem forM_range_ok (act : Nat → Act σ Unit) (states : Nat → σ) (n : Nat)
    (h : ∀ k < n, act k (states k) = .ok () (states (k + 1))) :
    (List.range n).forM act (states 0) = .ok () (states n) := by
  induction n with
  | zero => rfl
  | succ n ih =>
    rw [forM_range_succ, bind_ok (ih fun k hk => h k (by omega))]
    exact h n (by omega)

/-- A loop ends where the first part of it fails. -/
theorem forM_range_error_of_le (act : Nat → Act σ Unit) {s u : σ} {j n : Nat} {fault : Fault}
    (hj : j ≤ n) (h : (List.range j).forM act s = .error fault u) :
    (List.range n).forM act s = .error fault u := by
  induction n with
  | zero =>
    obtain rfl : j = 0 := by omega
    exact h
  | succ n ih =>
    rcases Nat.lt_or_eq_of_le hj with hj | rfl
    · rw [forM_range_succ]
      exact bind_error (ih (by omega))
    · exact h

/-- A loop ends where a step of it fails. -/
theorem forM_range_error (act : Nat → Act σ Unit) {s t u : σ} {j n : Nat} {fault : Fault}
    (hj : j < n) (hs : (List.range j).forM act s = .ok () t) (h : act j t = .error fault u) :
    (List.range n).forM act s = .error fault u := by
  apply forM_range_error_of_le act hj
  rw [forM_range_succ, bind_ok hs, h]

/-- A loop that leaves some elements out and ends at others, behind which it would end at all of
them, is a loop over the rest. -/
theorem forIn_eq_forM {xs : List α} (act : α → Act σ Unit)
    {body : α → PUnit → Act σ (ForInStep PUnit)} (skip stop : α → Bool)
    (hstop : xs.Pairwise fun a b => stop a = true → stop b = true)
    (hskip : ∀ a, skip a = true → body a ⟨⟩ = pure (.yield ⟨⟩))
    (hdone : ∀ a, skip a = false → stop a = true → body a ⟨⟩ = pure (.done ⟨⟩))
    (hgo : ∀ a, skip a = false → stop a = false →
      body a ⟨⟩ = (act a >>= fun _ => pure (.yield ⟨⟩))) :
    forIn xs PUnit.unit body = (xs.filter fun a => !skip a && !stop a).forM act := by
  induction xs with
  | nil => rfl
  | cons a rest ih =>
    rw [List.pairwise_cons] at hstop
    rw [List.forIn_cons, List.filter_cons]
    cases hs : skip a with
    | true =>
      rw [hskip a hs, pure_bind]
      exact ih hstop.2
    | false =>
      cases hd : stop a with
      | true =>
        have hnone : (rest.filter fun b => !skip b && !stop b) = [] :=
          List.filter_eq_nil_iff.mpr fun b hb => by simp [hstop.1 b hb hd]
        rw [hdone a hs hd, pure_bind, hnone]
        rfl
      | false =>
        rw [hgo a hs hd, bind_assoc]
        simp only [pure_bind, ih hstop.2]
        rfl

end Act

/-! ## How acts end -/

/-- What holds of a result that is an answer, and of one that is a fault. -/
def EndsIn (good : α → σ → Prop) (bad : Fault → σ → Prop) : EStateM.Result Fault σ α → Prop
  | .ok a s => good a s
  | .error fault s => bad fault s

theorem EndsIn.bind {good : α → σ → Prop} {good' : β → σ → Prop} {bad : Fault → σ → Prop}
    {act : Act σ α} {next : α → Act σ β} {s : σ} (h : EndsIn good bad (act s))
    (h' : ∀ a t, good a t → EndsIn good' bad (next a t)) :
    EndsIn good' bad ((act >>= next) s) := by
  cases hr : act s with
  | ok a t =>
    rw [hr] at h
    rw [Act.bind_ok hr]
    exact h' a t h
  | error fault t =>
    rw [hr] at h
    rw [Act.bind_error hr]
    exact h

theorem EndsIn.mono {good good' : α → σ → Prop} {bad bad' : Fault → σ → Prop}
    {r : EStateM.Result Fault σ α} (h : EndsIn good bad r) (hgood : ∀ a s, good a s → good' a s)
    (hbad : ∀ fault s, bad fault s → bad' fault s) : EndsIn good' bad' r := by
  cases r with
  | ok a s => exact hgood a s h
  | error fault s => exact hbad fault s h

theorem EndsIn.of_ok {good : α → σ → Prop} {bad : Fault → σ → Prop} {act : Act σ α} {s t : σ}
    {a : α} (h : EndsIn good bad (act s)) (hr : act s = .ok a t) : good a t := by
  rwa [hr] at h

theorem EndsIn.of_error {good : α → σ → Prop} {bad : Fault → σ → Prop} {act : Act σ α} {s t : σ}
    {fault : Fault} (h : EndsIn good bad (act s)) (hr : act s = .error fault t) : bad fault t := by
  rwa [hr] at h

theorem endsIn_ofExcept (r : Except Fault α) (s : σ) :
    EndsIn (fun a t => r = .ok a ∧ t = s) (fun fault t => r = .error fault ∧ t = s)
      (Act.ofExcept r s) := by
  cases r with
  | ok a => exact ⟨rfl, rfl⟩
  | error fault => exact ⟨rfl, rfl⟩

theorem EndsIn.resultWithin {τ : Type} {good : α → τ → Prop} {bad : Fault → τ → Prop} (put : σ → τ)
    {r : EStateM.Result Fault σ α}
    (h : EndsIn (fun a s => good a (put s)) (fun fault s => bad fault (put s)) r) :
    EndsIn good bad (resultWithin put r) := by
  cases r with
  | ok a s => exact h
  | error fault s => exact h

namespace Act

/-- Wherever the act starts, it fails with one of the given faults, if it does. -/
def FailsIn (faults : Fault → Prop) (act : Act σ α) : Prop :=
  ∀ s, EndsIn (fun _ _ => True) (fun fault _ => faults fault) (act s)

variable {faults : Fault → Prop}

theorem failsIn_modify (change : σ → σ) : FailsIn faults (modify change) := fun _ => trivial

theorem failsIn_ofExcept {r : Except Fault α} (h : ∀ fault, r = .error fault → faults fault) :
    FailsIn faults (ofExcept r : Act σ α) := by
  cases r with
  | ok a => exact fun _ => trivial
  | error fault => exact fun _ => h fault rfl

theorem failsIn_bind {act : Act σ α} {next : α → Act σ β} (h : FailsIn faults act)
    (h' : ∀ a, FailsIn faults (next a)) : FailsIn faults (act >>= next) :=
  fun s => (h s).bind fun a t _ => h' a t

theorem failsIn_forM {act : α → Act σ Unit} (items : List α)
    (h : ∀ a ∈ items, FailsIn faults (act a)) : FailsIn faults (items.forM act) := by
  induction items with
  | nil => exact fun _ => trivial
  | cons a rest ih =>
    exact failsIn_bind (h a List.mem_cons_self) fun _ =>
      ih fun b hb => h b (List.mem_cons_of_mem a hb)

theorem FailsIn.of_error {act : Act σ α} (h : FailsIn faults act) {s t : σ} {fault : Fault}
    (hr : act s = .error fault t) : faults fault :=
  (h s).of_error hr

end Act

/-! ## Acts side by side -/

/-- Two results with the same answer, and with related states. -/
inductive Matching (R : σ → τ → Prop) :
    EStateM.Result Fault σ α → EStateM.Result Fault τ α → Prop
  | ok {a : α} {s : σ} {t : τ} (h : R s t) : Matching R (.ok a s) (.ok a t)
  | error {fault : Fault} {s : σ} {t : τ} (h : R s t) :
    Matching R (.error fault s) (.error fault t)

namespace Matching

variable {R : σ → τ → Prop} {r : EStateM.Result Fault σ α} {r' : EStateM.Result Fault τ α}

theorem answer (h : Matching R r r') : answerOf r = answerOf r' := by
  cases h <;> rfl

theorem state (h : Matching R r r') : R (stateOf r) (stateOf r') := by
  cases h <;> assumption

protected theorem iff :
    Matching R r r' ↔ answerOf r = answerOf r' ∧ R (stateOf r) (stateOf r') := by
  refine ⟨fun h => ⟨h.answer, h.state⟩, fun ⟨hanswer, hstate⟩ => ?_⟩
  cases r with
  | ok a s =>
    cases r' with
    | ok b t => cases hanswer; exact .ok hstate
    | error fault t => cases hanswer
  | error fault s =>
    cases r' with
    | ok b t => cases hanswer
    | error fault' t => cases hanswer; exact .error hstate

theorem refl (r : EStateM.Result Fault σ α) : Matching Eq r r := by
  cases r with
  | ok a s => exact .ok rfl
  | error fault s => exact .error rfl

theorem mono {R' : σ → τ → Prop} (h : Matching R r r') (h' : ∀ s t, R s t → R' s t) :
    Matching R' r r' := by
  cases h with
  | ok h => exact .ok (h' _ _ h)
  | error h => exact .error (h' _ _ h)

/-- What is known of the two states besides. -/
theorem and_states (h : Matching R r r') {P : σ → Prop} {P' : τ → Prop} (hP : P (stateOf r))
    (hP' : P' (stateOf r')) : Matching (fun s t => R s t ∧ P s ∧ P' t) r r' := by
  cases h with
  | ok h => exact .ok ⟨h, hP, hP'⟩
  | error h => exact .error ⟨h, hP, hP'⟩

theorem of_ok {a : α} {s : σ} (h : Matching R r r') (hr : r = .ok a s) :
    ∃ t, R s t ∧ r' = .ok a t := by
  subst hr
  cases h with
  | ok h => exact ⟨_, h, rfl⟩

theorem of_error {fault : Fault} {s : σ} (h : Matching R r r') (hr : r = .error fault s) :
    ∃ t, R s t ∧ r' = .error fault t := by
  subst hr
  cases h with
  | error h => exact ⟨_, h, rfl⟩

/-- The relation may become weaker on the way. -/
theorem bind_mono {R' : σ → τ → Prop} {act : Act σ α} {act' : Act τ α} {next : α → Act σ β}
    {next' : α → Act τ β} {s : σ} {t : τ} (h : Matching R (act s) (act' t))
    (hweak : ∀ s t, R s t → R' s t)
    (h' : ∀ a s t, R s t → Matching R' (next a s) (next' a t)) :
    Matching R' ((act >>= next) s) ((act' >>= next') t) := by
  generalize hr : act s = r at h
  generalize hr' : act' t = r' at h
  cases h with
  | ok h =>
    rw [Act.bind_ok hr, Act.bind_ok hr']
    exact h' _ _ _ h
  | error h =>
    rw [Act.bind_error hr, Act.bind_error hr']
    exact .error (hweak _ _ h)

theorem bind {act : Act σ α} {act' : Act τ α} {next : α → Act σ β} {next' : α → Act τ β} {s : σ}
    {t : τ} (h : Matching R (act s) (act' t))
    (h' : ∀ a s t, R s t → Matching R (next a s) (next' a t)) :
    Matching R ((act >>= next) s) ((act' >>= next') t) :=
  h.bind_mono (fun _ _ h => h) h'

theorem resultWithin {σ' τ' : Type} {R' : σ' → τ' → Prop} {put : σ → σ'} {put' : τ → τ'}
    (h : Matching R r r') (h' : ∀ s t, R s t → R' (put s) (put' t)) :
    Matching R' (Chip8.resultWithin put r) (Chip8.resultWithin put' r') := by
  cases h with
  | ok h => exact .ok (h' _ _ h)
  | error h => exact .error (h' _ _ h)

end Matching

namespace Act

/-- From related states the acts answer the same and go on to related states. -/
def Agree (R : σ → τ → Prop) (act : Act σ α) (act' : Act τ α) : Prop :=
  ∀ s t, R s t → Matching R (act s) (act' t)

variable {R : σ → τ → Prop}

theorem agree_pure (a : α) : Agree R (pure a) (pure a) := fun _ _ h => .ok h

theorem agree_ofExcept (r : Except Fault α) : Agree R (ofExcept r) (ofExcept r) := by
  cases r with
  | ok a => exact agree_pure a
  | error fault => exact fun _ _ h => .error h

theorem agree_modify {change : σ → σ} {change' : τ → τ}
    (h : ∀ s t, R s t → R (change s) (change' t)) : Agree R (modify change) (modify change') :=
  fun s t hst => .ok (h s t hst)

theorem agree_bind {act : Act σ α} {act' : Act τ α} {next : α → Act σ β} {next' : α → Act τ β}
    (h : Agree R act act') (h' : ∀ a, Agree R (next a) (next' a)) :
    Agree R (act >>= next) (act' >>= next') :=
  fun s t hst => (h s t hst).bind h'

theorem agree_forM {act : α → Act σ Unit} {act' : α → Act τ Unit} (items : List α)
    (h : ∀ a ∈ items, Agree R (act a) (act' a)) : Agree R (items.forM act) (items.forM act') := by
  induction items with
  | nil => exact agree_pure ()
  | cons a rest ih =>
    exact agree_bind (h a List.mem_cons_self) fun _ =>
      ih fun b hb => h b (List.mem_cons_of_mem a hb)

/-- Acts on parts of states agree if the acts on the parts do. -/
theorem agree_within {σ' τ' : Type} {R' : σ' → τ' → Prop} {part : σ' → σ} {put : σ → σ' → σ'}
    {part' : τ' → τ} {put' : τ → τ' → τ'} {act : Act σ α} {act' : Act τ α} (h : Agree R act act')
    (split : ∀ s t, R' s t → R (part s) (part' t))
    (join : ∀ s t a b, R' s t → R a b → R' (put a s) (put' b t)) :
    Agree R' (within part put act) (within part' put' act') :=
  fun s t hst => (h _ _ (split s t hst)).resultWithin fun a b hab => join s t a b hst hab

end Act

end Chip8
