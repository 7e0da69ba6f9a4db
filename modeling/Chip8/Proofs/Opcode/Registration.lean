/-
  Tables by their history. A table is registered to row by row or list by list, and registrations
  may fail. What it then holds is known without its buckets: `accepted` goes through the history
  with one list of rows, takes a row unless an earlier one has the same mask and pattern, and leaves
  a list at the first row that it does not take. After every history the table lists these rows
  (`lists_after`), so looking a word up is a scan of them (`table_of_registrations`).
-/
import Chip8.Proofs.Opcode.Lookup

namespace Chip8

/-! ## One list of rows -/

/-- No earlier row has the same mask and pattern. -/
def Opcode.IsNewTo (rows : List Opcode) (o : Opcode) : Prop :=
  ∀ earlier ∈ rows, ¬ (earlier.mask = o.mask ∧ earlier.pattern = o.pattern)

instance (rows : List Opcode) (o : Opcode) : Decidable (o.IsNewTo rows) :=
  inferInstanceAs (Decidable (∀ earlier ∈ rows, ¬ _))

/-- The rows with those of a list that are new, up to the first one that is not. -/
def acceptedFrom (rows : List Opcode) : List Opcode → List Opcode
  | [] => rows
  | o :: rest => if o.IsNewTo rows then acceptedFrom (rows ++ [o]) rest else rows

/-- A call that registers to a table. -/
inductive Registration where
  | one (o : Opcode)
  | many (rows : List Opcode)

namespace Registration

def rows : Registration → List Opcode
  | one o => [o]
  | many rows => rows

def act : Registration → Act OpcodeTable Unit
  | one o => do set (← Act.ofExcept ((← get).register o))
  | many rows => OpcodeTable.registerAll rows

end Registration

/-- The rows that a history of registrations has had accepted. -/
def accepted (history : List Registration) : List Opcode :=
  history.foldl (fun rows r => acceptedFrom rows r.rows) []

/-- The table after a history of registrations, of which any may fail. -/
def OpcodeTable.after (history : List Registration) : OpcodeTable :=
  history.foldl (fun t r => stateOf (r.act t)) empty

/-! ## Registering to a table of known rows -/

theorem Opcode.sameBits_iff (a b : Opcode) :
    a.sameBits b = true ↔ a.mask = b.mask ∧ a.pattern = b.pattern := by
  simp [sameBits]

theorem Opcode.family_eq_of_sameBits {a b : Opcode} (h : a.sameBits b = true) :
    a.family = b.family := by
  rw [family, family, ((sameBits_iff a b).mp h).2]

namespace OpcodeTable

variable {t t' : OpcodeTable} {rows new : List Opcode} {o : Opcode} {fault : Fault}

/-- The bucket of a row holds all rows that could be in its way. -/
theorem find?_sameBits_of_lists (h : t.Lists rows) (o : Opcode) :
    (t.bucket o.family).find? (·.sameBits o) = rows.find? (·.sameBits o) := by
  rw [h, List.find?_filter]
  congr 1
  funext earlier
  cases hs : earlier.sameBits o with
  | false => simp
  | true => simp [Opcode.family_eq_of_sameBits hs]

/-- A row that is new is accepted, and comes behind the others. -/
theorem register_of_isNewTo (h : t.Lists rows) (hnew : o.IsNewTo rows) :
    ∃ t', t.register o = .ok t' ∧ t'.Lists (rows ++ [o]) := by
  obtain ⟨t', ht'⟩ : ∃ t', t.register o = .ok t' := by
    apply exists_register
    intro earlier he
    rw [h] at he
    have hdiffers := hnew earlier (List.mem_filter.mp he).1
    rwa [← Opcode.sameBits_iff, Bool.not_eq_true] at hdiffers
  refine ⟨t', ht', fun family => ?_⟩
  rw [bucket_register ht', h, List.filter_append]
  by_cases hf : family = o.family
  · simp [hf]
  · simp [hf, Ne.symm hf]

/-- A row that is not new is refused, and the message names the earlier row. -/
theorem register_of_not_isNewTo (h : t.Lists rows) (hnew : ¬ o.IsNewTo rows) :
    ∃ earlier, rows.find? (·.sameBits o) = some earlier ∧
      t.register o = .error (.opcode (.taken o.pattern earlier.handler)) := by
  cases hfind : rows.find? (·.sameBits o) with
  | none =>
    refine absurd (fun earlier he hsame => ?_) hnew
    exact List.find?_eq_none.mp hfind earlier he ((Opcode.sameBits_iff earlier o).mpr hsame)
  | some earlier =>
    have hbucket := (find?_sameBits_of_lists h o).trans hfind
    refine ⟨earlier, rfl, ?_⟩
    unfold register
    dsimp only
    rw [hbucket]

/-! ## Whole histories -/

theorem acceptedFrom_cons_of_isNewTo (hnew : o.IsNewTo rows) (rest : List Opcode) :
    acceptedFrom rows (o :: rest) = acceptedFrom (rows ++ [o]) rest := if_pos hnew

theorem acceptedFrom_cons_of_not (hnew : ¬ o.IsNewTo rows) (rest : List Opcode) :
    acceptedFrom rows (o :: rest) = rows := if_neg hnew

theorem lists_registerAll (h : t.Lists rows) (new : List Opcode) :
    (stateOf (registerAll new t)).Lists (acceptedFrom rows new) := by
  induction new generalizing t rows with
  | nil => exact h
  | cons o rest ih =>
    by_cases hnew : o.IsNewTo rows
    · obtain ⟨t', ht', hlists⟩ := register_of_isNewTo h hnew
      rw [registerAll_cons_ok rest ht', acceptedFrom_cons_of_isNewTo hnew]
      exact ih hlists
    · obtain ⟨earlier, -, herror⟩ := register_of_not_isNewTo h hnew
      rw [registerAll_cons_error rest herror, acceptedFrom_cons_of_not hnew]
      exact h

/-- A registration that succeeds has had all its rows accepted. -/
theorem acceptedFrom_of_ok (h : t.Lists rows) (hok : registerAll new t = .ok () t') :
    acceptedFrom rows new = rows ++ new := by
  induction new generalizing t rows with
  | nil => exact (List.append_nil rows).symm
  | cons o rest ih =>
    by_cases hnew : o.IsNewTo rows
    · obtain ⟨u, hu, hlists⟩ := register_of_isNewTo h hnew
      rw [registerAll_cons_ok rest hu] at hok
      rw [acceptedFrom_cons_of_isNewTo hnew, ih hlists hok, List.append_assoc]
      rfl
    · obtain ⟨earlier, -, herror⟩ := register_of_not_isNewTo h hnew
      rw [registerAll_cons_error rest herror] at hok
      cases hok

/-- A registration that fails has met a row that is not new, and has had the rows before it
accepted. -/
theorem acceptedFrom_of_error (h : t.Lists rows) (herror : registerAll new t = .error fault t') :
    ∃ front o rest, new = front ++ o :: rest ∧ ¬ o.IsNewTo (rows ++ front) ∧
      acceptedFrom rows new = rows ++ front := by
  induction new generalizing t rows with
  | nil => cases herror
  | cons o rest ih =>
    by_cases hnew : o.IsNewTo rows
    · obtain ⟨u, hu, hlists⟩ := register_of_isNewTo h hnew
      rw [registerAll_cons_ok rest hu] at herror
      obtain ⟨front, bad, behind, rfl, hbad, haccepted⟩ := ih hlists herror
      rw [List.append_assoc] at hbad haccepted
      exact ⟨o :: front, bad, behind, rfl, hbad,
        (acceptedFrom_cons_of_isNewTo hnew _).trans haccepted⟩
    · refine ⟨[], o, rest, rfl, ?_, ?_⟩
      · rwa [List.append_nil]
      · rw [acceptedFrom_cons_of_not hnew, List.append_nil]

theorem act_one_of_ok (h : t.register o = .ok t') : (Registration.one o).act t = .ok () t' := by
  change (Act.ofExcept (t.register o) >>= fun u => set u) t = _
  rw [h]
  rfl

theorem act_one_of_error (h : t.register o = .error fault) :
    (Registration.one o).act t = .error fault t := by
  change (Act.ofExcept (t.register o) >>= fun u => set u) t = _
  rw [h]
  rfl

/-- A single row is a list of one. -/
theorem act_eq (r : Registration) (t : OpcodeTable) : r.act t = registerAll r.rows t := by
  cases r with
  | many rows => rfl
  | one o =>
    cases hr : t.register o with
    | ok u => rw [act_one_of_ok hr, Registration.rows, registerAll_cons_ok [] hr]; rfl
    | error fault => rw [act_one_of_error hr, Registration.rows, registerAll_cons_error [] hr]

theorem lists_after (history : List Registration) : (after history).Lists (accepted history) := by
  suffices hfold : ∀ (t : OpcodeTable) (rows : List Opcode), t.Lists rows →
      (history.foldl (fun t r => stateOf (r.act t)) t).Lists
        (history.foldl (fun rows r => acceptedFrom rows r.rows) rows) from
    hfold empty [] lists_empty
  induction history with
  | nil => exact fun t rows h => h
  | cons r rest ih =>
    intro t rows h
    have hnext := lists_registerAll h r.rows
    rw [← act_eq] at hnext
    exact ih _ _ hnext

end OpcodeTable

/-- Matching a number of any size by its low sixteen bits. -/
theorem Opcode.isMatch_ofInt (o : Opcode) (raw : Int) :
    o.isMatch (Word.ofInt raw) = ((raw % 65536).toNat &&& o.mask.toNat == o.pattern.toNat) := by
  rw [Bool.eq_iff_iff, isMatch_iff, beq_iff_eq, ← BitVec.toNat_inj, BitVec.toNat_and,
    Word.toNat_ofInt]

/-- After every history of registrations, looking a number up finds the first row accepted that its
low sixteen bits match. A row is accepted if it is new, and else nothing changes; a list is accepted
up to the first row that is not new. -/
theorem table_of_registrations (history : List Registration) :
    let t := OpcodeTable.after history
    let rows := accepted history
    (∀ raw : Int, t.lookupRaw raw =
      rows.find? fun o => (raw % 65536).toNat &&& o.mask.toNat == o.pattern.toNat) ∧
    (∀ o, match (Registration.one o).act t with
      | .ok _ t' => o.IsNewTo rows ∧ t'.Lists (rows ++ [o])
      | .error _ t' => ¬ o.IsNewTo rows ∧ t' = t) ∧
    (∀ new, match (Registration.many new).act t with
      | .ok _ t' => acceptedFrom rows new = rows ++ new ∧ t'.Lists (rows ++ new)
      | .error _ t' => ∃ front o rest, new = front ++ o :: rest ∧ ¬ o.IsNewTo (rows ++ front) ∧
          acceptedFrom rows new = rows ++ front ∧ t'.Lists (rows ++ front)) := by
  intro t rows
  have hlists : t.Lists rows := OpcodeTable.lists_after history
  refine ⟨fun raw => ?_, fun o => ?_, fun new => ?_⟩
  · rw [OpcodeTable.lookupRaw, OpcodeTable.lookup_of_lists hlists]
    congr 1
    funext o
    exact o.isMatch_ofInt raw
  · by_cases hnew : o.IsNewTo rows
    · obtain ⟨t', ht', hnext⟩ := OpcodeTable.register_of_isNewTo hlists hnew
      rw [OpcodeTable.act_one_of_ok ht']
      exact ⟨hnew, hnext⟩
    · obtain ⟨earlier, -, herror⟩ := OpcodeTable.register_of_not_isNewTo hlists hnew
      rw [OpcodeTable.act_one_of_error herror]
      exact ⟨hnew, rfl⟩
  · have hnext := OpcodeTable.lists_registerAll hlists new
    rw [OpcodeTable.act_eq, Registration.rows]
    cases hr : OpcodeTable.registerAll new t with
    | ok _ t' =>
      have haccepted := OpcodeTable.acceptedFrom_of_ok hlists hr
      rw [hr, haccepted] at hnext
      exact ⟨haccepted, hnext⟩
    | error fault t' =>
      obtain ⟨front, bad, rest, hsplit, hbad, haccepted⟩ :=
        OpcodeTable.acceptedFrom_of_error hlists hr
      rw [hr, haccepted] at hnext
      exact ⟨front, bad, rest, hsplit, hbad, haccepted, hnext⟩

end Chip8
