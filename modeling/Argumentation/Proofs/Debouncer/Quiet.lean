import Argumentation.Proofs.Debouncer
import Mathlib.Data.List.Chain

/-!
# Texts that are followed by a quiet window

A debouncer stands on a clock: each text is submitted at its time, the reader takes what waits at
once and asks again as soon as it was answered, and a window that is not opened anew ends on time.
`Runs` leaves open what comes first among things that happen at the same time.

The reader gets those texts that no newer one follows within the window, each when its window ends
(`settles`).  In the middle of a run the text that is held back, the texts that wait and the texts
that will come make one list of submissions (`Waits`), and each move either keeps what this list
settles or takes off its first reading (`Waits.readings_eq`).

Main statement: `readings_iff_quiet`.
-/

namespace Argumentation.Debouncer

/-! ## Quiet windows -/

/-- The submissions that no other follows within the window. -/
def quiet (window : Nat) : List Submission → List Submission
  | [] => []
  | s :: ss =>
    if ss.head?.all (s.time + window < ·.time) then s :: quiet window ss else quiet window ss

/-- What the reader gets from submissions, and when. -/
def settles (window : Nat) (ss : List Submission) : List (Nat × Reading) :=
  (quiet window ss).map fun s => (s.time + window, .settled s.text)

/-- Whether a submission comes after another, but not when the window of the other ends. -/
def Apart (window : Nat) (s t : Submission) : Prop := s.time ≤ t.time ∧ s.time + window ≠ t.time

instance (window : Nat) (s t : Submission) : Decidable (Apart window s t) :=
  inferInstanceAs (Decidable (s.time ≤ t.time ∧ s.time + window ≠ t.time))

variable {window now closing : Nat} {due : Option Nat} {d d' : Debouncer} {s m : Submission}
  {ss queue : List Submission} {held : Option Submission} {readings : List (Nat × Reading)}

theorem settles_cons_of_lt (h : ∀ t ∈ ss.head?, s.time + window < t.time) :
    settles window (s :: ss) = (s.time + window, .settled s.text) :: settles window ss := by
  have hall : ss.head?.all (s.time + window < ·.time) = true := by
    cases hhead : ss.head? with
    | none => rfl
    | some t => simpa using h t hhead
  rw [settles, quiet, if_pos hall, List.map_cons, settles]

/-- A text that is followed within the window is superseded. -/
theorem settles_cons_of_le (h : s.time ≤ m.time + window) :
    settles window (m :: s :: ss) = settles window (s :: ss) := by
  have hall : ¬(s :: ss).head?.all (m.time + window < ·.time) = true := by
    simp only [List.head?_cons, Option.all_some, decide_eq_true_eq]
    omega
  rw [settles, quiet, if_neg hall, settles]

/-! ## Runs on a clock -/

/-- The runs of a debouncer from a time on, with the end of the window that is open and the
submissions to come. -/
inductive Runs (window : Nat) :
    Nat → Option Nat → Debouncer → List Submission → List (Nat × Reading) → Prop
  /-- Nothing is held back and nothing comes any more. -/
  | idle {now : Nat} {d : Debouncer} : d.queue = [] → d.latest = none → Runs window now none d [] []
  /-- A text is submitted at its time. -/
  | submit {due : Option Nat} {d d' : Debouncer} {s : Submission} {ss : List Submission}
      {readings : List (Nat × Reading)} :
    d.step (.submit s.text) = some (d', none) → Runs window s.time due d' ss readings →
      Runs window s.time due d (s :: ss) readings
  /-- The reader takes a text, and a window is opened. -/
  | receive {now : Nat} {due : Option Nat} {d d' : Debouncer} {ss : List Submission}
      {readings : List (Nat × Reading)} :
    d.step .receive = some (d', none) → Runs window now (some (now + window)) d' ss readings →
      Runs window now due d ss readings
  /-- A window ends, and the reader is answered. -/
  | expire {now : Nat} {d d' : Debouncer} {ss : List Submission} {reading : Reading}
      {readings : List (Nat × Reading)} :
    d.step .expire = some (d', some reading) → Runs window now none d' ss readings →
      Runs window now (some now) d ss ((now, reading) :: readings)
  /-- Nothing waits, and the clock moves on, but not beyond what has to happen next. -/
  | wait {now later : Nat} {due : Option Nat} {d : Debouncer} {ss : List Submission}
      {readings : List (Nat × Reading)} :
    now ≤ later → d.queue = [] → (∀ time ∈ due, later ≤ time) →
      (∀ s ∈ ss.head?, later ≤ s.time) → Runs window later due d ss readings →
        Runs window now due d ss readings

/-- Where the submissions are in the middle of a run: one is held back, some wait and some are to
come. -/
structure Waits (window now : Nat) (due : Option Nat) (d : Debouncer) (held : Option Submission)
    (queue ss : List Submission) : Prop where
  /-- The texts that wait. -/
  queue_eq : d.queue = queue.map (·.text)
  /-- The text that is held back. -/
  latest_eq : d.latest = held.map (·.text)
  /-- Its window. -/
  due_eq : due = held.map (·.time + window)
  /-- The texts that wait were submitted just now. -/
  fresh : ∀ s ∈ queue, s.time = now
  /-- The window has not ended before. -/
  unexpired : ∀ time ∈ due, now ≤ time
  /-- No submission to come has been missed. -/
  ahead : ∀ s ∈ ss.head?, now ≤ s.time

theorem le_head_of_isChain (apart : (s :: ss).IsChain (Apart window)) :
    ∀ t ∈ ss.head?, s.time ≤ t.time := by
  cases ss with
  | nil => simp
  | cons t ss =>
    rintro _ ⟨⟩
    exact (List.isChain_cons_cons.1 apart).1.1

/-- A submission joins the texts that wait. -/
theorem Waits.submit (waits : Waits window s.time due d held queue (s :: ss))
    (apart : (s :: ss).IsChain (Apart window)) :
    Waits window s.time due { d with queue := d.queue ++ [s.text] } held (queue ++ [s]) ss where
  queue_eq := by simp [waits.queue_eq]
  latest_eq := waits.latest_eq
  due_eq := waits.due_eq
  fresh := by
    intro t ht
    rcases List.mem_append.1 ht with ht | ht
    · exact waits.fresh t ht
    · rw [List.mem_singleton.1 ht]
  unexpired := waits.unexpired
  ahead := le_head_of_isChain apart

/-- The first text that waits is held back from now on. -/
theorem Waits.receive (waits : Waits window now due d held (s :: queue) ss) :
    Waits window now (some (now + window))
      { d with queue := queue.map (·.text), latest := some s.text } (some s) queue ss where
  queue_eq := rfl
  latest_eq := rfl
  due_eq := by simp [waits.fresh s List.mem_cons_self]
  fresh := fun t ht => waits.fresh t (List.mem_cons_of_mem s ht)
  unexpired := by
    rintro _ ⟨⟩
    exact Nat.le_add_right now window
  ahead := waits.ahead

/-- Nothing is held back any more. -/
theorem Waits.expire (waits : Waits window now due d held queue ss) :
    Waits window now none { d with latest := none } none queue ss where
  queue_eq := waits.queue_eq
  latest_eq := rfl
  due_eq := rfl
  fresh := waits.fresh
  unexpired := nofun
  ahead := waits.ahead

/-- When a window ends, no other submission lies within it. -/
theorem Waits.lt_head (waits : Waits window now (some now) d (some m) queue ss)
    (apart : (m :: (queue ++ ss)).IsChain (Apart window)) :
    ∀ t ∈ (queue ++ ss).head?, m.time + window < t.time := by
  have hnow : now = m.time + window := by simpa using waits.due_eq
  cases hrest : queue ++ ss with
  | nil => simp
  | cons t rest =>
    rintro _ ⟨⟩
    rw [hrest] at apart
    obtain ⟨-, hne⟩ := (List.isChain_cons_cons.1 apart).1
    have hle : now ≤ t.time := by
      cases queue with
      | nil =>
        rw [List.nil_append] at hrest
        exact waits.ahead t (by simp [hrest])
      | cons q queue =>
        cases hrest
        exact (waits.fresh t List.mem_cons_self).ge
    omega

/-- Every run gives what is settled by the submissions that are held back, wait or come. -/
theorem Waits.readings_eq (waits : Waits window now due d held queue ss)
    (apart : (held.toList ++ queue ++ ss).IsChain (Apart window))
    (runs : Runs window now due d ss readings) :
    readings = settles window (held.toList ++ queue ++ ss) := by
  induction runs generalizing held queue with
  | idle hqueue hlatest =>
    obtain rfl : queue = [] := List.map_eq_nil_iff.1 (waits.queue_eq.symm.trans hqueue)
    obtain rfl : held = none := Option.map_eq_none_iff.1 (waits.latest_eq.symm.trans hlatest)
    rfl
  | @submit due d d' s ss readings hstep _ ih =>
    cases moves_of_step hstep
    have hlist : held.toList ++ (queue ++ [s]) ++ ss = held.toList ++ queue ++ (s :: ss) := by simp
    rw [← hlist]
    exact ih (waits.submit apart.right_of_append) (hlist ▸ apart)
  | @receive now due d d' ss readings hstep _ ih =>
    cases moves_of_step hstep with
    | @receive text texts hqueue =>
      obtain ⟨s, queue, rfl, rfl, rfl⟩ := List.map_eq_cons_iff.1 (waits.queue_eq.symm.trans hqueue)
      have hrest := ih waits.receive (apart.suffix (by simp))
      cases held with
      | none => exact hrest
      | some m =>
        have hle : s.time ≤ m.time + window := by
          rw [waits.fresh s List.mem_cons_self]
          exact waits.unexpired _ (by simp [waits.due_eq])
        exact hrest.trans (settles_cons_of_le hle).symm
  | @expire now d d' ss reading readings hstep _ ih =>
    cases moves_of_step hstep with
    | @expire text hlatest =>
      obtain ⟨m, rfl, rfl⟩ := Option.map_eq_some_iff.1 (waits.latest_eq.symm.trans hlatest)
      have hnow : now = m.time + window := by simpa using waits.due_eq
      have hrest := ih waits.expire (apart.suffix (by simp))
      have hlt := waits.lt_head (by simpa using apart)
      have hcons : (some m).toList ++ queue ++ ss = m :: (queue ++ ss) := rfl
      rw [hcons, settles_cons_of_lt hlt, hrest, hnow]
      rfl
  | wait hle hqueue hdue hahead _ ih =>
    obtain rfl : queue = [] := List.map_eq_nil_iff.1 (waits.queue_eq.symm.trans hqueue)
    exact ih ⟨waits.queue_eq, waits.latest_eq, waits.due_eq, nofun, hdue, hahead⟩ apart

/-! ## A run for all submissions -/

/-- A text is submitted and taken at once. -/
theorem Runs.take {latest : Option String}
    (runs : Runs window s.time (some (s.time + window)) { latest := some s.text } ss readings) :
    Runs window s.time due { latest } (s :: ss) readings :=
  .submit rfl (.receive rfl runs)

theorem runs_held (apart : (m :: ss).IsChain (Apart window)) :
    Runs window m.time (some (m.time + window)) { latest := some m.text } ss
      (settles window (m :: ss)) := by
  have hstep : ({ latest := some m.text } : Debouncer).step .expire =
    some ({}, some (.settled m.text)) := rfl
  induction ss generalizing m with
  | nil =>
    exact .wait (Nat.le_add_right _ _) rfl (by simp) (by simp) (.expire rfl (.idle rfl rfl))
  | cons s ss ih =>
    have hahead : ∀ t ∈ (s :: ss).head?, s.time ≤ t.time := by simp
    have hle : m.time ≤ s.time := (List.isChain_cons_cons.1 apart).1.1
    have hrest := ih (List.isChain_cons_cons.1 apart).2 rfl
    by_cases hquiet : m.time + window < s.time
    · rw [settles_cons_of_lt (by simpa using hquiet)]
      have hopen : ∀ t ∈ (s :: ss).head?, m.time + window ≤ t.time := by
        simpa using Nat.le_of_lt hquiet
      have hexpire := Runs.expire hstep (.wait (Nat.le_of_lt hquiet) rfl nofun hahead hrest.take)
      exact .wait (Nat.le_add_right _ _) rfl (by simp) hopen hexpire
    · have hwithin : s.time ≤ m.time + window := by omega
      rw [settles_cons_of_le hwithin]
      exact .wait hle rfl (by simpa using hwithin) hahead hrest.take

theorem runs_start (apart : ss.IsChain (Apart window)) :
    Runs window 0 none {} ss (settles window ss) := by
  cases ss with
  | nil => exact .idle rfl rfl
  | cons s ss => exact .wait (Nat.zero_le _) rfl nofun (by simp) (runs_held apart).take

/-! ## The timeline -/

/-- What a single sender and a reader who takes every text at once make of submissions. -/
theorem run_timeline (apart : (held.toList ++ ss).IsChain (Apart window))
    (alive : ∀ s ∈ held.toList ++ ss, s.time + window < closing) :
    run { latest := held.map (·.text) }
      (timeline window closing (held.map (·.time + window)) ss) =
        settles window (held.toList ++ ss) ++ [(closing, .finished)] := by
  induction ss generalizing held with
  | nil =>
    cases held with
    | none => rfl
    | some m =>
      have hlapse : m.time + window ≤ closing := Nat.le_of_lt (alive m (by simp))
      simp [timeline, lapse, hlapse, run, step, drained, settles, quiet]
  | cons s ss ih =>
    have apart' : ((some s).toList ++ ss).IsChain (Apart window) :=
      apart.suffix (List.suffix_append _ _)
    have htake (latest : Option String) : run { latest } ((s.time, .submit s.text) ::
        (s.time, .receive) :: timeline window closing (some (s.time + window)) ss) =
          settles window (s :: ss) ++ [(closing, .finished)] :=
      ih apart' fun t ht => alive t (List.mem_append_right _ ht)
    cases held with
    | none => exact htake none
    | some m =>
      have hne : m.time + window ≠ s.time := (List.isChain_cons_cons.1 apart).1.2
      by_cases hquiet : m.time + window < s.time
      · have hlapse : lapse (some (m.time + window)) s.time = [(m.time + window, .expire)] := by
          simp [lapse, Nat.le_of_lt hquiet]
        have hnext : ∀ t ∈ (s :: ss).head?, m.time + window < t.time := by simpa using hquiet
        simp only [Option.toList_some, List.singleton_append]
        rw [settles_cons_of_lt hnext, List.cons_append, ← htake none]
        simp [timeline, hlapse, run, step]
      · have hlapse : lapse (some (m.time + window)) s.time = [] := by
          simp [lapse]
          omega
        simp only [Option.toList_some, List.singleton_append]
        rw [settles_cons_of_le (by omega), ← htake (some m.text)]
        simp [timeline, hlapse]

/-! ## All submissions -/

/-- The reader gets exactly the texts that no other follows within the window, in their order and
each when its window ends, if no text comes just when a window ends and the sender stays.  This is
what the timeline gives, and it is what every run on a clock gives, whatever comes first among
things that happen at the same time. -/
theorem readings_iff_quiet (window closing : Nat) (ss : List Submission)
    (apart : ss.IsChain fun s t => s.time ≤ t.time ∧ s.time + window ≠ t.time)
    (alive : ∀ s ∈ ss, s.time + window < closing) :
    Debouncer.readings window closing ss =
        ((quiet window ss).map fun s => (s.time + window, .settled s.text)) ++
          [(closing, .finished)] ∧
      ∀ readings, Runs window 0 none {} ss readings ↔
        readings = (quiet window ss).map fun s => (s.time + window, .settled s.text) := by
  have timed : Debouncer.readings window closing ss =
      settles window ss ++ [(closing, .finished)] :=
    @run_timeline window closing ss none apart alive
  refine ⟨timed, fun readings => ⟨fun runs => ?_, ?_⟩⟩
  · have waits : Waits window 0 none {} none [] ss :=
      ⟨rfl, rfl, rfl, nofun, nofun, fun s _ => Nat.zero_le s.time⟩
    exact waits.readings_eq apart runs
  · rintro rfl
    exact runs_start apart

/-- Two texts at once, one within the window of the second and one behind the window of the third. -/
theorem readings_iff_quiet_burst :
    let ss : List Submission := [⟨0, "a"⟩, ⟨0, "b"⟩, ⟨60, "c"⟩, ⟨170, "d"⟩]
    Debouncer.readings 100 300 ss =
        [(160, .settled "c"), (270, .settled "d"), (300, .finished)] ∧
      ∀ readings, Runs 100 0 none {} ss readings ↔
        readings = [(160, .settled "c"), (270, .settled "d")] := by
  intro ss
  have apart : ss.IsChain fun s t => s.time ≤ t.time ∧ s.time + 100 ≠ t.time := by decide
  have alive : ∀ s ∈ ss, s.time + 100 < 300 := by decide
  exact readings_iff_quiet 100 300 ss apart alive

end Argumentation.Debouncer
