/-
  Calls and returns. `Nested d ws` is the grammar of words in which every return has its call and
  every call its return, at most `d` calls deep. A call, a body that gives the stack back and the
  return lead to the word behind the call (`restores_of_call`): the body uses the slots above the
  one that the call filled, and these are other slots as long as fewer than sixteen calls are open.
  `returns_of_nested` is the whole of it: every return of a nested list goes back behind the call
  that matches it, and the list gives back the stack pointer and all slots but `d`.
-/
import Chip8.Proofs.Machine.Frame

namespace Chip8

/-! ## Nested words -/

/-- Words in which calls and returns are well nested, with calls `d` deep. -/
inductive Nested : Nat → List Word → Prop
  | nil : Nested 0 []
  | other {d : Nat} {w : Word} {rest : List Word} (hcall : ¬ w.IsCall) (hret : w ≠ 0x00EE)
    (hrest : Nested d rest) : Nested d (w :: rest)
  | call {d d' : Nat} {c : Word} {body rest : List Word} (hcall : c.IsCall)
    (hbody : Nested d body) (hrest : Nested d' rest) :
    Nested (max (d + 1) d') (c :: body ++ 0x00EE :: rest)

/-- How many more calls than returns there are. -/
def openCalls : List Word → Int
  | [] => 0
  | w :: rest => w.stackChange + openCalls rest

theorem openCalls_append (front behind : List Word) :
    openCalls (front ++ behind) = openCalls front + openCalls behind := by
  induction front with
  | nil => exact (Int.zero_add _).symm
  | cons w rest ih => rw [List.cons_append, openCalls, ih, openCalls, Int.add_assoc]

/-- The call at the end of the words `before` is the one that a return after `front` goes back
to: what lies between them is nested. -/
def IsMatch (before front : List Word) : Prop :=
  ∃ c body d, front = before ++ c :: body ∧ c.IsCall ∧ Nested d body

/-- Where a call with its body and return can be cut in two: in front of it, in the body, or in what
follows. -/
theorem cut_call {c r : Word} {body rest front behind : List Word}
    (h : c :: body ++ r :: rest = front ++ behind) :
    front = [] ∨ (∃ t u, front = c :: t ∧ body = t ++ u ∧ behind = u ++ r :: rest) ∨
      ∃ t, front = c :: body ++ r :: t ∧ rest = t ++ behind := by
  cases front with
  | nil => exact Or.inl rfl
  | cons first t =>
    have hparts : c = first ∧ body ++ r :: rest = t ++ behind := List.cons_eq_cons.mp h
    obtain ⟨rfl, hrest⟩ := hparts
    right
    obtain ⟨u, rfl, hu⟩ | ⟨u, rfl, hu⟩ := List.append_eq_append_iff.mp hrest
    · cases u with
      | nil => exact Or.inl ⟨body, [], by simp, by simp, by simpa using hu.symm⟩
      | cons second t =>
        obtain ⟨rfl, rfl⟩ := List.cons_eq_cons.mp hu
        exact Or.inr ⟨t, rfl, rfl⟩
    · exact Or.inl ⟨t, u, rfl, rfl, hu⟩

namespace Nested

variable {d : Nat} {ws front behind : List Word}

theorem openCalls_eq (h : Nested d ws) : openCalls ws = 0 := by
  induction h with
  | nil => rfl
  | other hcall hret _ ih => rw [openCalls, Word.stackChange_other hcall hret, ih]; rfl
  | call hcall _ _ ihbody ihrest =>
    rw [openCalls_append, openCalls, openCalls, hcall.stackChange, Word.stackChange_ret,
      ihbody, ihrest]
    rfl

/-- Behind every point of nested words there are no more calls than returns. -/
theorem openCalls_le (h : Nested d ws) (hws : ws = front ++ behind) : openCalls behind ≤ 0 := by
  induction h generalizing front behind with
  | nil =>
    have hnil : behind = [] := (List.append_eq_nil_iff.mp hws.symm).2
    exact Int.le_of_eq (congrArg openCalls hnil)
  | other hcall hret hrest ih =>
    cases front with
    | nil =>
      have hall := (Nested.other hcall hret hrest).openCalls_eq
      rw [hws, List.nil_append] at hall
      exact Int.le_of_eq hall
    | cons first front => exact ih (List.cons_eq_cons.mp hws).2
  | @call _ _ c body rest hcall hbody hrest ihbody ihrest =>
    obtain rfl | ⟨t, u, rfl, hu, rfl⟩ | ⟨t, rfl, ht⟩ := cut_call hws
    · have hall := (Nested.call hcall hbody hrest).openCalls_eq
      rw [hws, List.nil_append] at hall
      exact Int.le_of_eq hall
    · have hle := ihbody hu
      rw [openCalls_append, openCalls, Word.stackChange_ret, hrest.openCalls_eq]
      omega
    · exact ihrest ht

/-- A call with its body cannot end nested words: its return is missing. -/
theorem not_call_last {before body : List Word} {c : Word} {d' : Nat} (hcall : c.IsCall)
    (hbody : Nested d' body) : ¬ Nested d (before ++ c :: body) := by
  intro h
  have hle := h.openCalls_le rfl
  rw [openCalls, hcall.stackChange, hbody.openCalls_eq] at hle
  omega

/-- Every return has its call, with a body that is less deep. -/
theorem exists_call {after : List Word} (h : Nested d ws) (hws : ws = front ++ 0x00EE :: after) :
    ∃ before c body d', d' < d ∧ front = before ++ c :: body ∧ c.IsCall ∧ Nested d' body := by
  induction h generalizing front after with
  | nil => simp at hws
  | other hcall hret hrest ih =>
    cases front with
    | nil => exact absurd (List.cons_eq_cons.mp hws).1 hret
    | cons first front =>
      obtain ⟨before, c, body, d', hd, rfl, hbody⟩ := ih (List.cons_eq_cons.mp hws).2
      exact ⟨first :: before, c, body, d', hd, rfl, hbody⟩
  | @call _ _ c body rest hcall hbody hrest ihbody ihrest =>
    obtain rfl | ⟨t, u, rfl, hu, hbehind⟩ | ⟨t, rfl, ht⟩ := cut_call hws
    · exact absurd (List.cons_eq_cons.mp hws).1 hcall.ne_ret
    · cases u with
      | nil =>
        rw [List.append_nil] at hu
        subst hu
        exact ⟨[], c, body, _, by omega, rfl, hcall, hbody⟩
      | cons second u =>
        obtain ⟨rfl, -⟩ := List.cons_eq_cons.mp hbehind
        obtain ⟨before, c', body', d', hd, rfl, hbody'⟩ := ihbody hu
        exact ⟨c :: before, c', body', d', by omega, rfl, hbody'⟩
    · obtain ⟨before, c', body', d', hd, rfl, hbody'⟩ := ihrest ht
      refine ⟨c :: body ++ 0x00EE :: before, c', body', d', by omega, ?_, hbody'⟩
      simp

end Nested

theorem IsMatch.eq_nil_of_append {before t front : List Word} (h : IsMatch before front)
    (h' : IsMatch (before ++ t) front) : t = [] := by
  obtain ⟨c, body, d, rfl, hcall, hbody⟩ := h
  obtain ⟨c', body', d', hfront, hcall', hbody'⟩ := h'
  rw [List.append_assoc, List.append_cancel_left_eq] at hfront
  cases t with
  | nil => rfl
  | cons first t =>
    obtain ⟨rfl, rfl⟩ := List.cons_eq_cons.mp hfront
    exact absurd hbody (Nested.not_call_last hcall' hbody')

/-- A return has one call only that it goes back to. -/
theorem IsMatch.eq {before before' front : List Word} (h : IsMatch before front)
    (h' : IsMatch before' front) : before = before' := by
  obtain ⟨c, body, d, hfront, -⟩ := id h
  obtain ⟨c', body', d', hfront', -⟩ := id h'
  obtain ⟨t, rfl, -⟩ | ⟨t, rfl, -⟩ := List.append_eq_append_iff.mp (hfront.symm.trans hfront')
  · rw [h.eq_nil_of_append h', List.append_nil]
  · rw [h'.eq_nil_of_append h, List.append_nil]

/-! ## The stack along nested words -/

variable {δ : Type}

/-- The stack pointer is where it was, and of the stack slots only the `d` from the stack pointer on
may have changed, with slot 0 behind slot 15. -/
structure Machine.Restores (d : Nat) (m m' : Machine δ) : Prop where
  sp : m'.cpu.sp = m.cpu.sp
  slot : ∀ s : Fin 16, (∀ k < d, (s.val : Int) ≠ (m.cpu.sp + (k : Nat)) % 16) →
    readCell m'.cpu.stack s = readCell m.cpu.stack s

namespace Machine.Restores

variable {m m' m'' : Machine δ} {d d' : Nat}

theorem refl (m : Machine δ) : Restores 0 m m := ⟨rfl, fun _ _ => rfl⟩

theorem trans (h : Restores d m m') (h' : Restores d' m' m'') : Restores (max d d') m m'' where
  sp := h'.sp.trans h.sp
  slot := by
    intro s hs
    have hfirst := h.slot s fun k hk => hs k (by omega)
    have hsecond := h'.slot s fun k hk => by
      rw [h.sp]
      exact hs k (by omega)
    exact hsecond.trans hfirst

end Machine.Restores

namespace Emulator

open Machine

variable [Screen δ] {e e' e₁ e₂ e₃ : Emulator δ} {d : Nat} {w c : Word}
  {ws front behind : List Word}

/-- Executes words one after the other. -/
def executeAll (ws : List Word) : Act (Emulator δ) Unit := ws.forM execute

theorem executeAll_cons_iff : executeAll (w :: ws) e = .ok () e' ↔
    ∃ e₁, execute w e = .ok () e₁ ∧ executeAll ws e₁ = .ok () e' :=
  Act.bind_eq_ok_iff

theorem executeAll_append_iff : executeAll (front ++ behind) e = .ok () e' ↔
    ∃ e₁, executeAll front e = .ok () e₁ ∧ executeAll behind e₁ = .ok () e' := by
  unfold executeAll
  rw [Act.forM_append]
  exact Act.bind_eq_ok_iff

/-- A call, its body and its return, and what follows. -/
theorem of_executeAll_call {body rest : List Word}
    (h : executeAll (c :: body ++ 0x00EE :: rest) e = .ok () e') :
    ∃ e₁ e₂ e₃, execute c e = .ok () e₁ ∧ executeAll body e₁ = .ok () e₂ ∧
      execute 0x00EE e₂ = .ok () e₃ ∧ executeAll rest e₃ = .ok () e' := by
  obtain ⟨e₂, hfront, hbehind⟩ := executeAll_append_iff.mp h
  obtain ⟨e₁, hcall, hbody⟩ := executeAll_cons_iff.mp hfront
  obtain ⟨e₃, hret, hrest⟩ := executeAll_cons_iff.mp hbehind
  exact ⟨e₁, e₂, e₃, hcall, hbody, hret, hrest⟩

theorem table_of_execute (htable : e.machine.table = some standardTable)
    (h : execute w e = .ok () e') : e'.machine.table = some standardTable := by
  obtain ⟨op, -, honly⟩ := changesOnly_of_execute_ok htable h
  have hsame : e'.machine.table = e.machine.table := honly .table id
  exact hsame.trans htable

theorem table_of_executeAll (htable : e.machine.table = some standardTable)
    (h : executeAll ws e = .ok () e') : e'.machine.table = some standardTable := by
  induction ws generalizing e with
  | nil =>
    cases h
    exact htable
  | cons w rest ih =>
    obtain ⟨e₁, hw, hrest⟩ := executeAll_cons_iff.mp h
    exact ih (table_of_execute htable hw) hrest

/-- Words that are neither calls nor returns leave the stack alone. -/
theorem restores_of_execute (htable : e.machine.table = some standardTable) (hcall : ¬ w.IsCall)
    (hret : w ≠ 0x00EE) (h : execute w e = .ok () e') : Restores 0 e.machine e'.machine := by
  have hsp := sp_of_execute htable h
  rw [Word.stackChange_other hcall hret, Int.add_zero] at hsp
  obtain ⟨op, hop, honly⟩ := changesOnly_of_execute_ok htable h
  refine ⟨hsp, fun s _ => honly (.slot s) fun hslot => hcall ?_⟩
  exact Word.operation?_eq_call_iff.mp (hslot.1 ▸ hop)

/-- A return goes back behind its call if what lies between them gave the stack back and left the
call's slot alone. -/
theorem restores_of_call (htable : e.machine.table = some standardTable)
    (htable₂ : e₂.machine.table = some standardTable) (hcall : c.IsCall)
    (hc : execute c e = .ok () e₁) (hbody : Restores d e₁.machine e₂.machine) (hd : d < 16)
    (hret : execute 0x00EE e₂ = .ok () e₃) :
    Restores (d + 1) e.machine e₃.machine ∧
      e₃.machine.cpu.pc = wrap16 (e.machine.cpu.pc + 2) := by
  obtain ⟨slot, hslot, hcpu₁⟩ := of_execute_call htable hcall hc
  obtain ⟨slot', hslot', hcpu₃⟩ := of_execute_ret htable₂ hret
  have hval : (slot.val : Int) = e.machine.cpu.sp % 16 := val_of_cell? hslot
  have hsp₁ : e₁.machine.cpu.sp = e.machine.cpu.sp + 1 := by rw [hcpu₁]
  have hsp₂ : e₂.machine.cpu.sp = e.machine.cpu.sp + 1 := hbody.sp.trans hsp₁
  -- the return reads the slot that the call filled, and the body uses fewer than sixteen others
  have hsame : slot' = slot := by
    rw [hsp₂, Int.add_sub_cancel, hslot] at hslot'
    exact (Option.some_inj.mp hslot').symm
  have hstack₁ (s : Fin 16) : readCell e₁.machine.cpu.stack s =
      if slot = s then wrap16 (e.machine.cpu.pc + 2) else readCell e.machine.cpu.stack s := by
    rw [hcpu₁]
    exact readCell_writeCell ..
  have hkept : readCell e₂.machine.cpu.stack slot = wrap16 (e.machine.cpu.pc + 2) := by
    rw [hbody.slot slot fun k hk => by rw [hsp₁, hval]; omega, hstack₁, if_pos rfl]
  refine ⟨⟨?_, ?_⟩, ?_⟩
  · rw [hcpu₃]
    change e₂.machine.cpu.sp - 1 = _
    omega
  · intro s hs
    have hne : slot ≠ s := by
      intro heq
      have hfirst := hs 0 (by omega)
      rw [← heq, hval] at hfirst
      omega
    have hs₂ := hbody.slot s fun k hk => by
      have hnext := hs (k + 1) (by omega)
      rw [hsp₁]
      omega
    rw [hstack₁, if_neg hne] at hs₂
    rw [hcpu₃]
    exact hs₂
  · rw [hcpu₃, hsame]
    exact hkept

/-- Nested words give the stack back. -/
theorem restores_of_executeAll (hws : Nested d ws) (hd : d ≤ 16)
    (htable : e.machine.table = some standardTable) (h : executeAll ws e = .ok () e') :
    Restores d e.machine e'.machine := by
  induction hws generalizing e e' with
  | nil =>
    cases h
    exact .refl e.machine
  | other hcall hret _ ih =>
    obtain ⟨e₁, hw, hrest⟩ := executeAll_cons_iff.mp h
    have hfirst := restores_of_execute htable hcall hret hw
    have hlater := ih hd (table_of_execute htable hw) hrest
    simpa using hfirst.trans hlater
  | call hcall _ _ ihbody ihrest =>
    obtain ⟨e₁, e₂, e₃, hc, hbody, hret, hrest⟩ := of_executeAll_call h
    have htable₁ := table_of_execute htable hc
    have htable₂ := table_of_executeAll htable₁ hbody
    have hinner := ihbody (by omega) htable₁ hbody
    have hround := (restores_of_call htable htable₂ hcall hc hinner (by omega) hret).1
    exact hround.trans (ihrest (by omega) (table_of_execute htable₂ hret) hrest)

/-- Every return of nested words goes back behind the one call that matches it, and at the end the
stack pointer and all but `d` of the stack slots are as they were. -/
theorem returns_of_nested (hws : Nested d ws) (hd : d ≤ 16)
    (htable : e.machine.table = some standardTable) (h : executeAll ws e = .ok () e') :
    (∀ front after, ws = front ++ 0x00EE :: after →
      ∃ before, IsMatch before front ∧ (∀ other, IsMatch other front → other = before) ∧
        ∃ e₁ e₂, executeAll before e = .ok () e₁ ∧
          executeAll (front ++ [0x00EE]) e = .ok () e₂ ∧
          e₂.machine.cpu.pc = wrap16 (e₁.machine.cpu.pc + 2)) ∧
    e'.machine.cpu.sp = e.machine.cpu.sp ∧
    ∀ s : Fin 16, (∀ k < d, (s.val : Int) ≠ (e.machine.cpu.sp + (k : Nat)) % 16) →
      readCell e'.machine.cpu.stack s = readCell e.machine.cpu.stack s := by
  have hrestored := restores_of_executeAll hws hd htable h
  refine ⟨fun front after hsplit => ?_, hrestored.sp, hrestored.slot⟩
  obtain ⟨before, c, body, d', hd', rfl, hcall, hbody⟩ := hws.exists_call hsplit
  have hmatch : IsMatch before (before ++ c :: body) := ⟨c, body, d', rfl, hcall, hbody⟩
  refine ⟨before, hmatch, fun other hother => hother.eq hmatch, ?_⟩
  rw [hsplit, List.append_assoc] at h
  obtain ⟨e₁, hbefore, hbehind⟩ := executeAll_append_iff.mp h
  obtain ⟨e₂, e₃, e₄, hc, hrun, hret, -⟩ := of_executeAll_call hbehind
  have htable₁ := table_of_executeAll htable hbefore
  have htable₂ := table_of_execute htable₁ hc
  have hinner := restores_of_executeAll hbody (by omega) htable₂ hrun
  have hround := restores_of_call htable₁ (table_of_executeAll htable₂ hrun) hcall hc hinner
    (by omega) hret
  refine ⟨e₁, e₄, hbefore, ?_, hround.2⟩
  have hfront := executeAll_append_iff.mpr ⟨e₁, hbefore, executeAll_cons_iff.mpr ⟨e₂, hc, hrun⟩⟩
  exact executeAll_append_iff.mpr ⟨e₃, hfront, executeAll_cons_iff.mpr ⟨e₄, hret, rfl⟩⟩

/-- A call from a negative stack pointer, with an instruction in its body. -/
theorem returns_of_nested_once : ∃ e e' : Emulator FrameBuffer,
    e.machine.cpu.sp = -1 ∧ Nested 1 [0x2300, 0x6A05, 0x00EE] ∧
    executeAll [0x2300, 0x6A05, 0x00EE] e = .ok () e' ∧
    e'.machine.cpu.sp = -1 ∧ e'.machine.cpu.pc = 0x202 := by
  have hbody : Nested 0 [0x6A05] := .other (by decide) (by decide) .nil
  have hws : Nested 1 [0x2300, 0x6A05, 0x00EE] :=
    @Nested.call 0 0 0x2300 [0x6A05] [] (by decide) hbody .nil
  let e : Emulator FrameBuffer :=
    { machine :=
        { cpu := { sp := -1 }
          display := FrameBuffer.blank 8 4
          keyboard := .latch 0
          audio := .counter {} }
      host := {} }
  have hload : (0x6A05 : Word).operation? = some .loadByte :=
    Word.operation?_eq_some_iff.mpr (by decide)
  obtain ⟨e', hrun⟩ : ∃ e', executeAll [0x2300, 0x6A05, 0x00EE] e = .ok () e' :=
    ⟨_, executeAll_cons_iff.mpr ⟨_, execute_of_call_ok rfl (by decide) rfl,
      executeAll_cons_iff.mpr ⟨_, execute_of_operation? rfl hload,
      executeAll_cons_iff.mpr ⟨_, execute_of_ret_ok rfl rfl, rfl⟩⟩⟩⟩
  obtain ⟨hreturns, hsp, -⟩ := returns_of_nested hws (by decide) rfl hrun
  obtain ⟨before, -, hunique, e₁, e₂, hbefore, hfront, hpc⟩ := hreturns [0x2300, 0x6A05] [] rfl
  obtain rfl : [] = before := hunique [] ⟨0x2300, [0x6A05], 0, rfl, by decide, hbody⟩
  cases hbefore
  cases hrun.symm.trans hfront
  exact ⟨e, e', rfl, hws, hrun, hsp, hpc⟩

end Emulator

end Chip8
