/-
  Lower case and the letters of ASCII. Texts that differ only in the case of these letters are the
  same in lower case (`lower_eq_of_recased`): to the letters around it, a letter is the same in
  either case.
-/
import Chip8.Proofs.Text.Blank
import Chip8.Text.Lowercase

namespace Chip8

namespace CodePoint

/-- The small letter of a capital letter of ASCII, and every other code point as it is. -/
def fold : CodePoint → CodePoint
  | .char c => .char c.toLower
  | .surrogate d => .surrogate d

/-- A capital letter of ASCII, by its distance from the first. -/
def capital (n : Nat) : CodePoint := .char (Char.ofNat ('A'.toNat + n))

/-- What does not tell a capital letter from its small letter does not see the change. -/
theorem apply_fold {α : Type} {f : CodePoint → α}
    (h : ∀ n < 26, f (capital n).fold = f (capital n)) (p : CodePoint) : f p.fold = f p := by
  cases p with
  | surrogate d => rfl
  | char c =>
    by_cases hc : 'A'.val ≤ c.val ∧ c.val ≤ 'Z'.val
    · have hlow : 'A'.toNat ≤ c.toNat := hc.1
      have hhigh : c.toNat ≤ 'Z'.toNat := hc.2
      have hcapital : CodePoint.char c = capital (c.toNat - 'A'.toNat) := by
        rw [capital, Nat.add_sub_cancel' hlow, Char.ofNat_toNat]
      rw [hcapital]
      exact h _ (by simp at hlow hhigh ⊢; omega)
    · have hsame : c.toLower = c := by
        unfold Char.toLower
        exact dif_neg hc
      rw [fold, hsame]

end CodePoint

namespace Text

variable {t t' : Text}

theorem lowerPoint_ne_nil (p : CodePoint) : lowerPoint p ≠ [] := by
  cases p with
  | surrogate d => exact List.cons_ne_nil _ _
  | char c =>
    change ofChars (lowerChar c) ≠ []
    unfold lowerChar
    split
    · exact List.cons_ne_nil _ _
    · split <;> exact List.cons_ne_nil _ _

/-- Text does not vanish in lower case. -/
theorem lower_eq_nil_iff : t.lower = [] ↔ t = [] := by
  refine ⟨fun h => ?_, fun h => by rw [h]; rfl⟩
  cases t with
  | nil => rfl
  | cons p rest =>
    exfalso
    unfold lower at h
    split at h
    · unfold lowerFrom at h
      have hfirst := (List.append_eq_nil_iff.mp h).1
      split at hfirst
      · exact List.cons_ne_nil _ _ hfirst
      · exact lowerPoint_ne_nil p hfirst
    · rw [List.flatMap_cons] at h
      exact lowerPoint_ne_nil p (List.append_eq_nil_iff.mp h).1

theorem surrogate_mem_lowerFrom {d : Fin 2048} (h : .surrogate d ∈ t) (afterLetter : Bool) :
    .surrogate d ∈ lowerFrom afterLetter t := by
  induction t generalizing afterLetter with
  | nil => cases h
  | cons p rest ih =>
    unfold lowerFrom
    refine List.mem_append.mpr ?_
    rcases List.mem_cons.mp h with rfl | hrest
    · exact Or.inl List.mem_cons_self
    · exact Or.inr (ih hrest _)

/-- Surrogates have no other case. -/
theorem surrogate_mem_lower {d : Fin 2048} (h : .surrogate d ∈ t) : .surrogate d ∈ t.lower := by
  unfold lower
  split
  · exact surrogate_mem_lowerFrom h false
  · exact List.mem_flatMap.mpr ⟨_, h, List.mem_cons_self⟩

/-- The texts are the same but for the case of the letters of ASCII. -/
def Recased (t t' : Text) : Prop := t.map CodePoint.fold = t'.map CodePoint.fold

theorem isBlank_fold (p : CodePoint) : isBlank p.fold = isBlank p :=
  CodePoint.apply_fold (by decide +kernel) p

theorem isCased_fold (p : CodePoint) : isCased p.fold = isCased p :=
  CodePoint.apply_fold (by decide +kernel) p

/-- Ranges that leave out the letters of ASCII hold no letter in either case. -/
theorem isWithin_fold {ranges : List (Nat × Nat)}
    (h : ∀ range ∈ ranges, (range.2 < 65 ∨ 90 < range.1) ∧ (range.2 < 97 ∨ 122 < range.1))
    (p : CodePoint) : isWithin ranges p.fold = isWithin ranges p := by
  refine CodePoint.apply_fold (f := isWithin ranges) (fun n hn => ?_) p
  have hcodes : ∀ n < 26, (CodePoint.capital n).code = 65 + n ∧
      (CodePoint.capital n).fold.code = 97 + n := by decide +kernel
  obtain ⟨hcapital, hsmall⟩ := hcodes n hn
  have houtside {q : CodePoint} (hq : 65 ≤ q.code ∧ q.code ≤ 90 ∨ 97 ≤ q.code ∧ q.code ≤ 122) :
      isWithin ranges q = false := by
    rw [isWithin, List.any_eq_false]
    rintro ⟨first, last⟩ hrange
    have hrange := h _ hrange
    simp only [Bool.and_eq_true, decide_eq_true_eq]
    omega
  rw [houtside (by omega), houtside (by omega)]

theorem isMark_fold (p : CodePoint) : isMark p.fold = isMark p := by
  rw [isMark, isMark, isWithin_fold (by decide +kernel), isWithin_fold (by decide +kernel)]

theorem lowerPoint_fold (p : CodePoint) : lowerPoint p.fold = lowerPoint p :=
  CodePoint.apply_fold (by decide +kernel) p

theorem beq_capitalSigma_fold (p : CodePoint) : (p.fold == capitalSigma) = (p == capitalSigma) :=
  CodePoint.apply_fold (f := (· == capitalSigma)) (by decide +kernel) p

theorem hasLetterAhead_map_fold (t : Text) :
    hasLetterAhead (t.map CodePoint.fold) = hasLetterAhead t := by
  have hmark : isMark ∘ CodePoint.fold = isMark := funext isMark_fold
  rw [hasLetterAhead, hasLetterAhead, List.dropWhile_map, List.head?_map, Option.any_map, hmark]
  simp only [isCased_fold]

theorem lowerFrom_map_fold (afterLetter : Bool) (t : Text) :
    lowerFrom afterLetter (t.map CodePoint.fold) = lowerFrom afterLetter t := by
  induction t generalizing afterLetter with
  | nil => rfl
  | cons p rest ih =>
    rw [List.map_cons, lowerFrom, lowerFrom, ih, beq_capitalSigma_fold, hasLetterAhead_map_fold,
      lowerPoint_fold, isMark_fold, isCased_fold]

theorem lower_map_fold (t : Text) : lower (t.map CodePoint.fold) = lower t := by
  have hsigma : (t.map CodePoint.fold).contains capitalSigma = t.contains capitalSigma := by
    rw [List.contains_eq_any_beq, List.contains_eq_any_beq, List.any_map]
    congr 1
    funext p
    have hp := beq_capitalSigma_fold p
    rw [Function.comp_apply]
    grind
  rw [lower, lower, hsigma, lowerFrom_map_fold, List.flatMap_map]
  simp only [lowerPoint_fold]

theorem lower_eq_of_recased (h : t.Recased t') : t.lower = t'.lower := by
  rw [← lower_map_fold t, h, lower_map_fold]

theorem trim_map_fold (t : Text) : trim (t.map CodePoint.fold) = (trim t).map CodePoint.fold := by
  have hblank : isBlank ∘ CodePoint.fold = isBlank := funext isBlank_fold
  rw [trim, trimWhere_map, hblank, trim]

namespace Recased

theorem trim (h : t.Recased t') : t.trim.Recased t'.trim := by
  rw [Recased, ← trim_map_fold, h, trim_map_fold]

theorem isBlank_iff (h : t.Recased t') : t.IsBlank ↔ t'.IsBlank := by
  have hmap := congrArg (· = []) h.trim
  rw [← trim_eq_nil_iff, ← trim_eq_nil_iff]
  simpa using hmap

end Recased

end Text

end Chip8
