import Mathlib.Data.List.DropRight
import Mathlib.Data.List.Infix
import OrgService.Log.FlightRecorder

/-!
# When the flight recorder writes

A flight recorder writes when an event of its level arrives, but also when as many events have come
in a row as it can keep. So it stays silent until trouble as long as trouble is never that far off.
Whenever it writes, it writes the events that it has handled since it last wrote.
-/

namespace OrgService.Log.FlightRecorder

variable {r : FlightRecorder} {e : Event} {events : List Event}

/-! ## One event -/

/-- The next event makes the recorder write. -/
def WritesAt (r : FlightRecorder) (e : Event) : Prop :=
  r.capacity ≤ r.kept.length + 1 ∨ r.flushLevel ≤ e.level

theorem handle_of_writesAt (h : r.WritesAt e) :
    r.handle e = { r with kept := [], written := r.written ++ (r.kept ++ [e]) } := by
  unfold WritesAt at h
  simp [handle, flush, h]

theorem handle_of_not_writesAt (h : ¬r.WritesAt e) :
    r.handle e = { r with kept := r.kept ++ [e] } := by
  unfold WritesAt at h
  simp [handle, h]

@[simp] theorem capacity_handle (r : FlightRecorder) (e : Event) :
    (r.handle e).capacity = r.capacity := by
  by_cases h : r.WritesAt e
  · rw [handle_of_writesAt h]
  · rw [handle_of_not_writesAt h]

@[simp] theorem flushLevel_handle (r : FlightRecorder) (e : Event) :
    (r.handle e).flushLevel = r.flushLevel := by
  by_cases h : r.WritesAt e
  · rw [handle_of_writesAt h]
  · rw [handle_of_not_writesAt h]

@[simp] theorem flushOnClose_handle (r : FlightRecorder) (e : Event) :
    (r.handle e).flushOnClose = r.flushOnClose := by
  by_cases h : r.WritesAt e
  · rw [handle_of_writesAt h]
  · rw [handle_of_not_writesAt h]

/-- The file grows at an event if and only if the event makes the recorder write. -/
theorem written_handle_eq_iff : (r.handle e).written = r.written ↔ ¬r.WritesAt e := by
  by_cases h : r.WritesAt e
  · simp [handle_of_writesAt h, h]
  · simp [handle_of_not_writesAt h, h]

/-! ## Any number of events -/

/-- What is true of a recorder that has handled some events since it was made: it has written or
kept all of them in order, it has room for another one, and it keeps none of its level. -/
structure HasHandled (r : FlightRecorder) (events : List Event) : Prop where
  all : r.written ++ r.kept = events
  room : r.kept.length < r.capacity
  calm : ∀ e ∈ r.kept, e.level < r.flushLevel

theorem HasHandled.handle (h : r.HasHandled events) (e : Event) :
    (r.handle e).HasHandled (events ++ [e]) := by
  by_cases hwrites : r.WritesAt e
  · rw [handle_of_writesAt hwrites]
    have hpositive : 0 < r.capacity := by
      have hroom := h.room
      omega
    exact ⟨by simp [← h.all], by simpa using hpositive, by simp⟩
  · rw [handle_of_not_writesAt hwrites]
    obtain ⟨hroom, hbelow⟩ := not_or.mp hwrites
    refine ⟨by simp [← h.all], by simpa using hroom, ?_⟩
    rintro d hd
    obtain hd | hd := List.mem_append.mp hd
    · exact h.calm d hd
    · rw [List.mem_singleton.mp hd]
      exact Int.not_le.mp hbelow

theorem HasHandled.handleAll {earlier : List Event} (h : r.HasHandled earlier)
    (events : List Event) : (r.handleAll events).HasHandled (earlier ++ events) := by
  induction events generalizing r earlier with
  | nil => simpa [FlightRecorder.handleAll] using h
  | cons e events ih => simpa [FlightRecorder.handleAll] using ih (h.handle e)

/-- A recorder with room for some events below its level only keeps them. -/
theorem written_handleAll_of_calm (hcalm : ∀ e ∈ events, e.level < r.flushLevel)
    (hroom : (r.kept.length + events.length : ℤ) < r.capacity) :
    (r.handleAll events).written = r.written := by
  induction events generalizing r with
  | nil => rfl
  | cons e events ih =>
      obtain ⟨he, hevents⟩ := List.forall_mem_cons.mp hcalm
      rw [List.length_cons] at hroom
      have hkeeps : ¬r.WritesAt e := by
        rintro (hfull | hlevel) <;> omega
      have hrest : ((r.handle e).handleAll events).written = (r.handle e).written := by
        apply ih
        · simpa using hevents
        · rw [capacity_handle, handle_of_not_writesAt hkeeps, List.length_append,
            List.length_singleton]
          omega
      exact hrest.trans (written_handle_eq_iff.mpr hkeeps)

/-! ## Recorders from the start -/

/-- A new recorder that has handled some events. -/
def after (capacity : ℕ) (level : ℤ) (flushOnClose : Bool) (events : List Event) :
    FlightRecorder :=
  (new capacity level flushOnClose).handleAll events

/-- The recorder wrote at the last of some events, or there are none. -/
def HasJustWritten (capacity : ℕ) (level : ℤ) (flushOnClose : Bool) (events : List Event) : Prop :=
  events = [] ∨ ∃ earlier e, events = earlier ++ [e] ∧
    (after capacity level flushOnClose events).written ≠
      (after capacity level flushOnClose earlier).written

/-- What is expected of a recorder that has handled some events. If none of them was of its level,
it has written nothing, even when it is closed, unless it is told to write then. If the last one
was, it has written the latest of those since it last wrote, as many as it can keep. -/
structure WaitsForTrouble (capacity : ℕ) (level : ℤ) (flushOnClose : Bool) (events : List Event) :
    Prop where
  silent : (∀ e ∈ events, e.level < level) →
    (after capacity level flushOnClose events).written = [] ∧
      (flushOnClose = false → (after capacity level flushOnClose events).close.written = [])
  dumps : ∀ before since e, events = before ++ since ++ [e] →
    HasJustWritten capacity level flushOnClose before →
    (after capacity level flushOnClose (before ++ since)).written =
      (after capacity level flushOnClose before).written →
    level ≤ e.level →
    (after capacity level flushOnClose events).written =
      (after capacity level flushOnClose (before ++ since)).written ++
        (since ++ [e]).rtake capacity

section

variable {capacity : ℕ} {level : ℤ} {flushOnClose : Bool}

theorem after_append_singleton (events : List Event) (e : Event) :
    after capacity level flushOnClose (events ++ [e]) =
      (after capacity level flushOnClose events).handle e := by
  simp [after, handleAll]

@[simp] theorem capacity_after (events : List Event) :
    (after capacity level flushOnClose events).capacity = capacity := by
  induction events using List.reverseRecOn with
  | nil => rfl
  | append_singleton events e ih => rw [after_append_singleton, capacity_handle, ih]

@[simp] theorem flushLevel_after (events : List Event) :
    (after capacity level flushOnClose events).flushLevel = level := by
  induction events using List.reverseRecOn with
  | nil => rfl
  | append_singleton events e ih => rw [after_append_singleton, flushLevel_handle, ih]

@[simp] theorem flushOnClose_after (events : List Event) :
    (after capacity level flushOnClose events).flushOnClose = flushOnClose := by
  induction events using List.reverseRecOn with
  | nil => rfl
  | append_singleton events e ih => rw [after_append_singleton, flushOnClose_handle, ih]

theorem hasHandled_after (hcapacity : 1 ≤ capacity) (level : ℤ) (flushOnClose : Bool)
    (events : List Event) : (after capacity level flushOnClose events).HasHandled events := by
  have hnew : (new capacity level flushOnClose).HasHandled [] :=
    ⟨rfl, by simpa [new] using Nat.lt_of_lt_of_le Nat.zero_lt_one hcapacity, by simp [new]⟩
  exact hnew.handleAll events

theorem HasJustWritten.kept_eq_nil (h : HasJustWritten capacity level flushOnClose events) :
    (after capacity level flushOnClose events).kept = [] := by
  obtain rfl | ⟨earlier, e, rfl, hgrows⟩ := h
  · rfl
  · rw [after_append_singleton] at hgrows ⊢
    rw [handle_of_writesAt (not_not.mp (mt written_handle_eq_iff.mpr hgrows))]

/-- Without a write all further events are kept. -/
theorem kept_append_of_silent (hcapacity : 1 ≤ capacity) {earlier since : List Event}
    (hsilent : (after capacity level flushOnClose (earlier ++ since)).written =
      (after capacity level flushOnClose earlier).written) :
    (after capacity level flushOnClose (earlier ++ since)).kept =
      (after capacity level flushOnClose earlier).kept ++ since := by
  have hearlier := (hasHandled_after hcapacity level flushOnClose earlier).all
  have hall := (hasHandled_after hcapacity level flushOnClose (earlier ++ since)).all
  rw [hsilent] at hall
  apply List.append_cancel_left (hall.trans _)
  rw [← List.append_assoc, hearlier]

/-- At an event of its level the recorder writes what it has handled since it last wrote, and that
is never more than it can keep. -/
theorem written_of_trouble (hcapacity : 1 ≤ capacity) {before since : List Event}
    (hwrote : HasJustWritten capacity level flushOnClose before)
    (hsilent : (after capacity level flushOnClose (before ++ since)).written =
      (after capacity level flushOnClose before).written) (he : level ≤ e.level) :
    (after capacity level flushOnClose (before ++ since ++ [e])).written =
      (after capacity level flushOnClose (before ++ since)).written ++
        (since ++ [e]).rtake capacity := by
  have hkept := kept_append_of_silent hcapacity hsilent
  rw [hwrote.kept_eq_nil, List.nil_append] at hkept
  have hwrites : (after capacity level flushOnClose (before ++ since)).WritesAt e :=
    .inr (by simpa using he)
  have hroom := (hasHandled_after hcapacity level flushOnClose (before ++ since)).room
  rw [hkept, capacity_after, Int.ofNat_lt] at hroom
  have hall : (since ++ [e]).rtake capacity = since ++ [e] := by
    rw [List.rtake, List.length_append, List.length_singleton, Nat.sub_eq_zero_of_le hroom,
      List.drop_zero]
  rw [after_append_singleton, handle_of_writesAt hwrites, hkept, hall]

/-- As long as trouble has not come, the file is empty if and only if there was room for all. -/
theorem written_eq_nil_iff (hcapacity : 1 ≤ capacity) (hcalm : ∀ e ∈ events, e.level < level) :
    (after capacity level flushOnClose events).written = [] ↔ events.length < capacity := by
  constructor
  · intro hempty
    have hhandled := hasHandled_after hcapacity level flushOnClose events
    have hkept := hhandled.all
    rw [hempty, List.nil_append] at hkept
    simpa [hkept] using hhandled.room
  · intro hroom
    exact written_handleAll_of_calm (r := new capacity level flushOnClose) hcalm
      (by simpa [new] using hroom)

theorem close_of_not_flushOnClose (h : flushOnClose = false) :
    (after capacity level flushOnClose events).close =
      after capacity level flushOnClose events := by
  rw [close, flushOnClose_after, h, if_neg Bool.false_ne_true]

theorem waitsForTrouble_iff_room (hcapacity : 1 ≤ capacity) :
    WaitsForTrouble capacity level flushOnClose events ↔
      ((∀ e ∈ events, e.level < level) → events.length < capacity) := by
  constructor
  · exact fun h hcalm ↦ (written_eq_nil_iff hcapacity hcalm).mp (h.silent hcalm).1
  · intro hroom
    constructor
    · intro hcalm
      have hempty : (after capacity level flushOnClose events).written = [] :=
        (written_eq_nil_iff hcapacity hcalm).mpr (hroom hcalm)
      exact ⟨hempty, fun h ↦ by rw [close_of_not_flushOnClose h, hempty]⟩
    · rintro before since e rfl hwrote hsilent he
      exact written_of_trouble hcapacity hwrote hsilent he

/-! ## Writing without trouble -/

/-- The recorder writes at an event only if the event is of its level. -/
def WritesOnlyAtTrouble (capacity : ℕ) (level : ℤ) (flushOnClose : Bool) (events : List Event) :
    Prop :=
  ∀ earlier e, earlier ++ [e] <+: events → e.level < level →
    (after capacity level flushOnClose (earlier ++ [e])).written =
      (after capacity level flushOnClose earlier).written

theorem WritesOnlyAtTrouble.silent_run (h : WritesOnlyAtTrouble capacity level flushOnClose events)
    {earlier run : List Event} (hrun : earlier ++ run <+: events)
    (hcalm : ∀ e ∈ run, e.level < level) :
    (after capacity level flushOnClose (earlier ++ run)).written =
      (after capacity level flushOnClose earlier).written := by
  induction run using List.reverseRecOn with
  | nil => rw [List.append_nil]
  | append_singleton run e ih =>
      obtain ⟨hbefore, he⟩ := List.forall_mem_append.mp hcalm
      rw [← List.append_assoc] at hrun ⊢
      rw [h _ _ hrun (he e List.mem_cons_self)]
      exact ih ((List.prefix_append _ _).trans hrun) hbefore

/-- The recorder writes without trouble if and only if as many events as it can keep come in a row
without any of its level among them. -/
theorem writesOnlyAtTrouble_iff (hcapacity : 1 ≤ capacity) :
    WritesOnlyAtTrouble capacity level flushOnClose events ↔
      ∀ run, run <:+: events → (∀ e ∈ run, e.level < level) → run.length < capacity := by
  constructor
  · rintro h run ⟨earlier, later, rfl⟩ hcalm
    have hsilent := h.silent_run (List.prefix_append (earlier ++ run) later) hcalm
    have hroom := (hasHandled_after hcapacity level flushOnClose (earlier ++ run)).room
    rw [kept_append_of_silent hcapacity hsilent, List.length_append, capacity_after] at hroom
    omega
  · intro h earlier e hprefix he
    rw [after_append_singleton, written_handle_eq_iff]
    rintro (hfull | hlevel)
    · -- All that is kept lies below the level, and the event would fill the memory up.
      have hhandled := hasHandled_after hcapacity level flushOnClose earlier
      have hrun := h ((after capacity level flushOnClose earlier).kept ++ [e]) ?_ ?_
      · rw [capacity_after] at hfull
        rw [List.length_append, List.length_singleton] at hrun
        omega
      · refine List.IsInfix.trans (List.IsSuffix.isInfix ?_) hprefix.isInfix
        refine ⟨(after capacity level flushOnClose earlier).written, ?_⟩
        rw [← List.append_assoc, hhandled.all]
      · refine List.forall_mem_append.mpr ⟨?_, by simpa using he⟩
        simpa using hhandled.calm
    · rw [flushLevel_after] at hlevel
      omega

end

/-- A recorder waits for trouble just as long as it has room for all events before, and in between
it writes without trouble just when as many events as it can keep come in a row below its level. -/
theorem waitsForTrouble_iff {capacity : ℕ} (hcapacity : 1 ≤ capacity) (level : ℤ)
    (flushOnClose : Bool) (events : List Event) :
    (WaitsForTrouble capacity level flushOnClose events ↔
        ((∀ e ∈ events, e.level < level) → events.length < capacity)) ∧
      (WritesOnlyAtTrouble capacity level flushOnClose events ↔
        ∀ run, run <:+: events → (∀ e ∈ run, e.level < level) → run.length < capacity) :=
  ⟨waitsForTrouble_iff_room hcapacity, writesOnlyAtTrouble_iff hcapacity⟩

/-- With room for three, two details and a warning come to the file together, and the next three
details come there without any trouble. -/
theorem waitsForTrouble_iff_example :
    let detail : Event := ⟨"fakeorg.a", 10, "detail", 0, 1⟩
    let trouble : Event := ⟨"fakeorg.a", 30, "trouble", 0, 1⟩
    let calm := [detail, detail, trouble, detail, detail]
    WaitsForTrouble 3 30 false calm ∧ WritesOnlyAtTrouble 3 30 false calm ∧
      WaitsForTrouble 3 30 false (calm ++ [detail]) ∧
      ¬WritesOnlyAtTrouble 3 30 false (calm ++ [detail]) := by
  intro detail trouble calm
  have hroom : 1 ≤ 3 := by decide
  have hcalm := waitsForTrouble_iff hroom 30 false calm
  have hlonger := waitsForTrouble_iff hroom 30 false (calm ++ [detail])
  refine ⟨hcalm.1.mpr ?_, hcalm.2.mpr ?_, hlonger.1.mpr ?_, mt hlonger.2.mp ?_⟩
  · exact fun h ↦ absurd (h trouble (by simp [calm])) (by decide)
  · intro run hrun
    obtain ⟨rest, hprefix, hsuffix⟩ := List.infix_iff_prefix_suffix.mp hrun
    have hall : ∀ rest ∈ calm.tails, ∀ run ∈ rest.inits,
        (∀ e ∈ run, e.level < 30) → run.length < 3 := by decide
    exact hall rest ((List.mem_tails _ _).mpr hsuffix) run ((List.mem_inits _ _).mpr hprefix)
  · exact fun h ↦ absurd (h trouble (by simp [calm])) (by decide)
  · intro h
    exact absurd (h [detail, detail, detail] ⟨[detail, detail, trouble], [], rfl⟩ (by decide))
      (by decide)

/-- With room for two, a second event is written without any trouble. -/
theorem not_waitsForTrouble_fullMemory :
    ¬WaitsForTrouble 2 30 false
      [⟨"fakeorg.a", 10, "one", 0, 1⟩, ⟨"fakeorg.b", 20, "two", 0, 1⟩] := by
  intro h
  exact absurd (h.silent (by decide)).1 (by decide)

end OrgService.Log.FlightRecorder
