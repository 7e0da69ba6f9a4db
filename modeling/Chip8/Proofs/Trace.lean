/-
  The record against its history. Of the entries that were recorded since the last clearing
  (`RecorderEvent.sinceClear`) a recorder shows the newest ones, as many as its capacity, whatever
  it still holds behind them. The main statement is `newest_of_recordings`: this is so after any
  recordings and clearings, and of what is shown a limit leaves the newest entries again, which are
  written and dumped one by one.
-/
import Chip8.Proofs.Printing
import Chip8.Trace
import Mathlib.Data.List.DropRight

namespace Chip8

/-- The elements at the end of a list, as many as there may be. -/
structure IsNewest {α : Type} (count : Nat) (part whole : List α) : Prop where
  suffix : part <:+ whole
  length : part.length = min count whole.length

/-! ## Histories -/

/-- What is done with a recorder. -/
inductive RecorderEvent where
  /-- A step is recorded, whatever its processor, word and texts are. -/
  | record (entry : TraceEntry)
  | clear
deriving DecidableEq, Repr

namespace RecorderEvent

def apply (r : TraceRecorder) : RecorderEvent → TraceRecorder
  | record entry => r.record entry
  | clear => r.clear

/-- The entry that is recorded, if one is. -/
def entry? : RecorderEvent → Option TraceEntry
  | record entry => some entry
  | clear => none

/-- The entries recorded since the last clearing, in their order. -/
def sinceClear (events : List RecorderEvent) : List TraceEntry :=
  (events.rtakeWhile (· != clear)).filterMap entry?

theorem sinceClear_append_record (events : List RecorderEvent) (entry : TraceEntry) :
    sinceClear (events ++ [record entry]) = sinceClear events ++ [entry] := by
  rw [sinceClear, List.rtakeWhile_concat_pos _ _ _ rfl, List.filterMap_append]
  rfl

theorem sinceClear_append_clear (events : List RecorderEvent) :
    sinceClear (events ++ [clear]) = [] := by
  rw [sinceClear, List.rtakeWhile_concat_neg _ _ _ (by simp)]
  rfl

end RecorderEvent

/-! ## Entries -/

namespace TraceEntry

variable {o : Outlet} {t : TraceEntry}

theorem mnemonic_capture (c : Cpu) (opcode : Option Word) (text : Text) :
    (capture c opcode text).mnemonic = text := rfl

theorem note_capture (c : Cpu) (opcode : Option Word) (text : Text) :
    (capture c opcode text).note = [] := rfl

theorem takes_padded {width : Nat} {text : Text} : o.Takes (padded width text) ↔ o.Takes text := by
  rw [padded, Outlet.takes_append, and_iff_left_iff_imp]
  intro _ p hp
  rw [List.eq_of_mem_replicate hp]
  exact o.takes_char ' '

/-- Of an entry only the text of the instruction and the note can be refused. -/
theorem takes_format : o.Takes t.format ↔ o.Takes t.mnemonic ∧ o.Takes t.note := by
  have hmnemonic : o.Takes (if t.mnemonic.isEmpty then "?" else t.mnemonic) ↔
      o.Takes t.mnemonic := by
    split
    · rename_i hempty
      rw [List.isEmpty_iff.mp hempty]
      exact iff_of_true (o.takes_ofString "?") (List.forall_mem_nil _)
    · exact Iff.rfl
  have hnote : o.Takes (if t.note.isEmpty then [] else "  ; " ++ t.note) ↔ o.Takes t.note := by
    split
    · rename_i hempty
      simp [List.isEmpty_iff.mp hempty]
    · simp
  simp only [format, Outlet.takes_append, Outlet.takes_ofString, takes_padded, hmnemonic, hnote,
    true_and, and_true]
  refine and_congr_left' (and_iff_right ?_)
  cases t.opcode <;> exact o.takes_ofString _

/-- Every output takes the entry's text. -/
def IsPlain (t : TraceEntry) : Prop := ∀ o : Outlet, o.Takes t.format

end TraceEntry

namespace TraceRecorder

/-- The recorder after events. -/
def afterAll (r : TraceRecorder) (events : List RecorderEvent) : TraceRecorder :=
  events.foldl RecorderEvent.apply r

variable {r : TraceRecorder}

theorem afterAll_append (r : TraceRecorder) (events : List RecorderEvent) (event : RecorderEvent) :
    r.afterAll (events ++ [event]) = event.apply (r.afterAll events) := by
  rw [afterAll, List.foldl_append]
  rfl

theorem capacity_record (r : TraceRecorder) (t : TraceEntry) :
    (r.record t).capacity = r.capacity := by
  unfold record
  split <;> rfl

theorem capacity_afterAll (r : TraceRecorder) (events : List RecorderEvent) :
    (r.afterAll events).capacity = r.capacity := by
  induction events using List.reverseRecOn with
  | nil => rfl
  | append_singleton events event ih =>
    rw [afterAll_append]
    cases event with
    | record t => rw [RecorderEvent.apply, capacity_record, ih]
    | clear => exact ih

theorem mem_entries_record {t u : TraceEntry} (h : t ∈ (r.record u).entries) :
    t ∈ r.entries ∨ t = u := by
  rw [entries_record] at h
  exact (List.mem_append.mp (List.mem_of_mem_drop h)).imp_right List.mem_singleton.mp

theorem lastOf_nil {α : Type} (count : Nat) : lastOf count ([] : List α) = [] := List.drop_nil

/-- A recorder that was empty shows the last of the entries recorded since the last clearing. -/
theorem entries_afterAll (hempty : r.entries = []) (events : List RecorderEvent) :
    (r.afterAll events).entries = lastOf r.capacity (RecorderEvent.sinceClear events) := by
  -- from the right: an event meets the record of those before it
  induction events using List.reverseRecOn with
  | nil => exact hempty.trans (lastOf_nil _).symm
  | append_singleton events event ih =>
    rw [afterAll_append]
    cases event with
    | record t =>
      rw [RecorderEvent.apply, entries_record, capacity_afterAll, ih, lastOf_lastOf_append,
        RecorderEvent.sinceClear_append_record]
    | clear =>
      rw [RecorderEvent.apply, entries_clear, RecorderEvent.sinceClear_append_clear, lastOf_nil]

theorem of_ofCapacity {capacity : Int} (h : ofCapacity capacity = .ok r) :
    r.capacity = capacity.toNat ∧ r.entries = [] := by
  unfold ofCapacity at h
  split at h
  · cases h
  · split at h
    · cases h
      exact ⟨rfl, entries_empty _⟩
    · cases h

theorem isNewest_lastOf {α : Type} (count : Nat) (l : List α) :
    IsNewest count (lastOf count l) l where
  suffix := List.drop_suffix _ l
  length := length_lastOf count l

theorem eq_of_isNewest {α : Type} {count : Nat} {part whole : List α}
    (h : IsNewest count part whole) : part = lastOf count whole := by
  rw [List.suffix_iff_eq_drop.mp h.suffix, h.length, lastOf]
  congr 1
  omega

/-! ## What a recorder tells -/

theorem isNewest_latest (r : TraceRecorder) (limit : Int) :
    IsNewest (max limit 0).toNat (r.latest (some limit)) r.entries := by
  have hlimit : (max limit 0).toNat = limit.toNat := by omega
  rw [hlimit]
  exact isNewest_lastOf ..

theorem last?_eq_none_iff : r.last? = none ↔ r.size = 0 := by
  rw [last?, List.getLast?_eq_none_iff, size, List.length_eq_zero_iff]

theorem last?_eq_some_iff {t : TraceEntry} : r.last? = some t ↔ r.latest (some 1) = [t] := by
  change r.entries.getLast? = some t ↔ lastOf 1 r.entries = [t]
  rcases List.eq_nil_or_concat r.entries with h | ⟨front, last, h⟩
  · simp [h, lastOf]
  · simp [h, lastOf]

/-- A dump logs the entries one after the other. -/
theorem dump_eq_forM (r : TraceRecorder) (category : MessageArg) (limit : Option Int) :
    r.dump category limit = (r.latest limit).forM fun t => Host.logFor category t.format := by
  unfold dump formatLatest
  exact List.forM_map

theorem dump_text (r : TraceRecorder) (category : Text) (limit : Option Int) :
    r.dump (.text category) limit = (r.formatLatest limit).forM (Host.tryLog category) :=
  congrArg (r.formatLatest limit).forM (funext (Host.logFor_text category))

theorem dump_of_canTell (r : TraceRecorder) {category : Text} {limit : Option Int} {h : Host}
    (hcan : ∀ t ∈ r.latest limit, h.CanTell category t.format) :
    r.dump (.text category) limit h = .ok () { h with
      printed := h.printed ++ if h.isLogging category then
        ((r.latest limit).map fun t => Categories.line category t.format ++ "\n").toArray
        else #[] } := by
  rw [dump_text, formatLatest, Host.tryLog_forM_of_canTell (List.forall_mem_map.mpr hcan),
    List.map_map]
  rfl

end TraceRecorder

/-- A recorder can be made for every capacity that can be counted with. After any recordings and
clearings it holds of the entries recorded since the last clearing the newest ones, as many as its
capacity, the oldest of them first; and of these a limit leaves the newest ones, none if it is
below zero. Each entry is written as one text, and dumping logs each entry once in the same order,
which is seen if messages of the category are printed, provided that the output takes the texts.
The last entry is there unless nothing is held, and is what a limit of one leaves. -/
theorem newest_of_recordings {capacity : Int} (hcapacity : 1 ≤ capacity) :
    (capacity ≤ greatestIndex → ∃ start, TraceRecorder.ofCapacity capacity = .ok start) ∧
    ∀ start, TraceRecorder.ofCapacity capacity = .ok start → ∀ events : List RecorderEvent,
      let r := start.afterAll events
      let past := RecorderEvent.sinceClear events
      IsNewest capacity.toNat r.entries past ∧
      (r.size : Int) = min capacity past.length ∧
      r.latest none = r.entries ∧
      (∀ limit : Int, IsNewest (max limit 0).toNat (r.latest (some limit)) r.entries) ∧
      (∀ limit, r.formatLatest limit = (r.latest limit).map TraceEntry.format) ∧
      (∀ category limit, r.dump category limit =
        (r.latest limit).forM fun t => Host.logFor category t.format) ∧
      (∀ category limit (host : Host),
        (∀ t ∈ r.latest limit, host.CanTell category t.format) →
        r.dump (.text category) limit host =
          .ok () { host with printed := host.printed ++
            if host.isLogging category then
              ((r.latest limit).map fun t => Categories.line category t.format ++ "\n").toArray
            else #[] }) ∧
      (r.last? = none ↔ r.size = 0) ∧
      ∀ t, r.last? = some t ↔ r.latest (some 1) = [t] := by
  have hcount : 0 < capacity := by omega
  refine ⟨fun hindex => ⟨.empty capacity.toNat, ?_⟩, fun start hstart events => ?_⟩
  · have hfits : isMachineIndex capacity = true := isMachineIndex_iff.mpr ⟨by omega, hindex⟩
    rw [TraceRecorder.ofCapacity, if_neg (by omega), if_pos hfits]
  intro r past
  obtain ⟨hcap, hempty⟩ := TraceRecorder.of_ofCapacity hstart
  have hnewest : IsNewest capacity.toNat r.entries past := by
    rw [TraceRecorder.entries_afterAll hempty events, hcap]
    exact TraceRecorder.isNewest_lastOf ..
  have hsize : r.size = min capacity.toNat past.length := hnewest.length
  exact ⟨hnewest, by omega, rfl, r.isNewest_latest, fun _ => rfl, r.dump_eq_forM,
    fun _ _ _ hcan => r.dump_of_canTell hcan, TraceRecorder.last?_eq_none_iff,
    fun t => TraceRecorder.last?_eq_some_iff⟩

/-- With room for two entries the first of three is dropped, and so is what was recorded before a
clearing. -/
theorem newest_of_recordings_three :
    let entry (pc : Int) : TraceEntry := .ofValues pc 0 0 0 0 [] none [] []
    let events : List RecorderEvent :=
      [.record (entry 0x200), .clear, .record (entry 0x202), .record (entry 0x204),
        .record (entry 0x206)]
    (1 : Int) ≤ 2 ∧ ∃ start, TraceRecorder.ofCapacity 2 = .ok start ∧
      (start.afterAll events).entries = [entry 0x204, entry 0x206] ∧
      (start.afterAll events).latest (some 1) = [entry 0x206] ∧
      (start.afterAll events).last? = some (entry 0x206) := by
  intro entry events
  obtain ⟨hmade, htells⟩ := newest_of_recordings (show (1 : Int) ≤ 2 by decide)
  obtain ⟨start, hstart⟩ := hmade (by decide)
  obtain ⟨hentries, -, -, hlatest, -, -, -, -, hlast⟩ := htells start hstart events
  have htwo := TraceRecorder.eq_of_isNewest hentries
  have hone := TraceRecorder.eq_of_isNewest (hlatest 1)
  rw [htwo] at hone
  exact ⟨by decide, start, hstart, htwo, hone, (hlast _).mpr hone⟩

end Chip8
