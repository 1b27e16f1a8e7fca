import Argumentation.Session.Debounced
import Mathlib.Data.List.Basic

/-!
# A debouncer never loses the final text

A reader asks a debouncer for one text after the other.  Meanwhile texts are submitted, senders
come and go, and windows pass, in any order in which each move is possible when it comes
(`follow?`).  No clock is assumed: a window may pass at any moment after a text was received,
whether or not a newer text waits already.

`History` is what the reader sees: the calls that have returned, each with the texts that it
received, and the texts that the call under way has received so far.  Every move keeps a history
`Faithful` to the texts that were submitted (`Faithful.after`), and so does every run of moves
(`Faithful.follow`).  That the texts of a history are a subsequence of the submitted ones, and that
none of them is missing at the end, is then a fact about lists of bursts.

Main statement: `follow_settles`.
-/

namespace Argumentation

/-- The text of a reading, if it has one. -/
def Reading.text? : Reading → Option String
  | .settled text => some text
  | .finished => none

namespace Debouncer

/-! ## What a move does -/

/-- What a move does to a debouncer, and what its reader gets. -/
inductive Moves (d : Debouncer) : Move → Debouncer → Option Reading → Prop where
  /-- A text goes to the end of the queue. -/
  | submit {text : String} : d.senders ≠ 0 →
    Moves d (.submit text) { d with queue := d.queue ++ [text] } none
  /-- There is a sender more. -/
  | join : d.senders ≠ 0 → Moves d .join { d with senders := d.senders + 1 } none
  /-- There is a sender less. -/
  | leave : d.senders ≠ 0 → Moves d .leave { d with senders := d.senders - 1 } none
  /-- The oldest text supersedes the one that is held back. -/
  | receive {text : String} {queue : List String} : d.queue = text :: queue →
    Moves d .receive { d with queue, latest := some text } none
  /-- The text that is held back is given out when nothing more can come. -/
  | close {text : String} : d.queue = [] → d.senders = 0 → d.latest = some text →
    Moves d .receive { d with latest := none } (some (.settled text))
  /-- Nothing is held back, and nothing more can come. -/
  | finish : d.queue = [] → d.senders = 0 → d.latest = none →
    Moves d .receive d (some .finished)
  /-- The text that is held back is given out when its window has passed. -/
  | expire {text : String} : d.latest = some text →
    Moves d .expire { d with latest := none } (some (.settled text))

variable {d d' : Debouncer} {m : Move} {r : Option Reading}

theorem moves_of_step (h : d.step m = some (d', r)) : Moves d m d' r := by
  cases m with
  | submit text =>
    simp only [step, submit] at h
    split at h
    · cases h
    · next hsenders =>
      by_cases hreading : d.reading = true
      · rw [if_pos hreading] at h
        cases h
        exact .submit hsenders
      · rw [if_neg hreading] at h
        cases h
  | join =>
    simp only [step] at h
    split at h
    · cases h
    · next hsenders =>
      cases h
      exact .join hsenders
  | leave =>
    simp only [step] at h
    split at h
    · cases h
    · next hsenders =>
      cases h
      exact .leave hsenders
  | receive =>
    simp only [step] at h
    cases hqueue : d.queue with
    | cons text queue =>
      rw [hqueue] at h
      cases h
      exact .receive hqueue
    | nil =>
      rw [hqueue] at h
      simp only at h
      split at h
      · next hsenders =>
        cases hlatest : d.latest with
        | none =>
          simp only [drained, hlatest] at h
          cases h
          exact .finish hqueue hsenders hlatest
        | some text =>
          simp only [drained, hlatest] at h
          cases h
          exact .close hqueue hsenders hlatest
      · cases h
  | expire =>
    obtain ⟨text, hlatest, heq⟩ := Option.map_eq_some_iff.1 h
    cases heq
    exact .expire hlatest

/-! ## Histories -/

/-- A call of the reader that has returned. -/
structure Call where
  /-- The texts that it received, oldest first. -/
  received : List String
  /-- What it returned. -/
  reading : Reading
  deriving DecidableEq

/-- What the reader of a debouncer has seen. -/
structure History where
  /-- The calls that have returned, oldest first. -/
  calls : List Call := []
  /-- The texts that the call under way has received, oldest first. -/
  received : List String := []
  deriving DecidableEq

namespace History

/-- The texts that were returned, oldest first. -/
def settled (h : History) : List String := h.calls.filterMap (·.reading.text?)

/-- The texts that the calls received that have returned, oldest first. -/
def consumed (h : History) : List String := h.calls.flatMap (·.received)

/-- The history after a move of a debouncer. -/
def after (h : History) (d : Debouncer) (m : Move) : Option Reading → History
  | some reading => { calls := h.calls ++ [⟨h.received, reading⟩] }
  | none =>
    match m with
    | .receive => { h with received := h.received ++ d.queue.head?.toList }
    | _ => h

end History

/-- The debouncer and the history after some moves, if each of them is possible when it comes. -/
def follow? (d : Debouncer) (h : History) : List Move → Option (Debouncer × History)
  | [] => some (d, h)
  | m :: ms => (d.step m).bind fun r => follow? r.1 (h.after d m r.2) ms

/-- The text that a move submits. -/
def Move.submitted? : Move → Option String
  | .submit text => some text
  | _ => none

/-- The texts that some moves submit, oldest first. -/
def submitted (ms : List Move) : List String := ms.filterMap (·.submitted?)

/-! ## Histories that lose nothing -/

/-- A history that fits the texts that were submitted. -/
structure Faithful (texts : List String) (d : Debouncer) (h : History) : Prop where
  /-- What was submitted has been received, or it waits in the queue. -/
  texts_eq : texts = h.consumed ++ h.received ++ d.queue
  /-- The text that is held back is the last one that the call under way received. -/
  latest_eq : d.latest = h.received.getLast?
  /-- A call returns the last text that it received. -/
  returned : ∀ c ∈ h.calls, c.received.getLast? = c.reading.text?
  /-- When a call has found the end, nothing waits and nothing more can come. -/
  ended : ∀ c ∈ h.calls, c.reading = .finished →
    d.senders = 0 ∧ d.queue = [] ∧ h.received = []

theorem faithful_start : Faithful [] {} {} where
  texts_eq := rfl
  latest_eq := rfl
  returned _ hc := nomatch hc
  ended _ hc := nomatch hc

variable {texts : List String} {h h' : History}

/-- A call returns what is held back. -/
theorem Faithful.concat_call (faithful : Faithful texts d h) {reading : Reading}
    (htext : d.latest = reading.text?)
    (hended : reading = .finished → d.senders = 0 ∧ d.queue = []) :
    Faithful texts { d with latest := none } { calls := h.calls ++ [⟨h.received, reading⟩] } where
  texts_eq := by
    rw [faithful.texts_eq, History.consumed, History.consumed, List.flatMap_append,
      List.flatMap_singleton, List.append_nil]
  latest_eq := rfl
  returned c hc := by
    cases List.mem_append.1 hc with
    | inl hold => exact faithful.returned c hold
    | inr hnew =>
      cases List.mem_singleton.1 hnew
      exact faithful.latest_eq.symm.trans htext
  ended c hc hfinished := by
    cases List.mem_append.1 hc with
    | inl hold =>
      obtain ⟨hsenders, hqueue, -⟩ := faithful.ended c hold hfinished
      exact ⟨hsenders, hqueue, rfl⟩
    | inr hnew =>
      cases List.mem_singleton.1 hnew
      obtain ⟨hsenders, hqueue⟩ := hended hfinished
      exact ⟨hsenders, hqueue, rfl⟩

/-- Every move keeps a history faithful. -/
theorem Faithful.after (faithful : Faithful texts d h) (moves : Moves d m d' r) :
    Faithful (texts ++ m.submitted?.toList) d' (h.after d m r) := by
  cases moves with
  | @submit text hsenders =>
    refine ⟨?_, faithful.latest_eq, faithful.returned, ?_⟩
    · rw [faithful.texts_eq, List.append_assoc]
      rfl
    · intro c hc hfinished
      exact absurd (faithful.ended c hc hfinished).1 hsenders
  | join hsenders =>
    refine ⟨?_, faithful.latest_eq, faithful.returned, ?_⟩
    · exact (List.append_nil texts).trans faithful.texts_eq
    · intro c hc hfinished
      exact absurd (faithful.ended c hc hfinished).1 hsenders
  | leave hsenders =>
    refine ⟨?_, faithful.latest_eq, faithful.returned, ?_⟩
    · exact (List.append_nil texts).trans faithful.texts_eq
    · intro c hc hfinished
      exact absurd (faithful.ended c hc hfinished).1 hsenders
  | @receive text queue hqueue =>
    have hafter : h.after d .receive none = { h with received := h.received ++ [text] } := by
      rw [History.after, hqueue]
      rfl
    rw [hafter]
    refine ⟨?_, ?_, faithful.returned, ?_⟩
    · have htexts := (List.append_nil texts).trans faithful.texts_eq
      rw [hqueue, List.append_cons, List.append_assoc h.consumed] at htexts
      exact htexts
    · exact List.getLast?_concat.symm
    · intro c hc hfinished
      obtain ⟨-, hempty, -⟩ := faithful.ended c hc hfinished
      rw [hqueue] at hempty
      cases hempty
  | close hqueue hsenders hlatest =>
    have hnone : texts ++ Move.receive.submitted?.toList = texts := List.append_nil texts
    rw [hnone]
    exact faithful.concat_call hlatest fun hfinished => nomatch hfinished
  | finish hqueue hsenders hlatest =>
    have hnone : texts ++ Move.receive.submitted?.toList = texts := List.append_nil texts
    have hsame : { d with latest := none } = d := by rw [← hlatest]
    rw [hnone, ← hsame]
    exact faithful.concat_call hlatest fun _ => ⟨hsenders, hqueue⟩
  | expire hlatest =>
    have hnone : texts ++ Move.expire.submitted?.toList = texts := List.append_nil texts
    rw [hnone]
    exact faithful.concat_call hlatest fun hfinished => nomatch hfinished

/-- Every run of moves keeps a history faithful. -/
theorem Faithful.follow (faithful : Faithful texts d h) {ms : List Move}
    (hfollow : follow? d h ms = some (d', h')) : Faithful (texts ++ submitted ms) d' h' := by
  induction ms generalizing texts d h with
  | nil =>
    cases hfollow
    rwa [submitted, List.filterMap_nil, List.append_nil]
  | cons m ms ih =>
    obtain ⟨⟨e, r⟩, hstep, hrest⟩ := Option.bind_eq_some_iff.1 hfollow
    have hsubmitted : submitted (m :: ms) = m.submitted?.toList ++ submitted ms := by
      rw [submitted, submitted, List.filterMap_cons]
      cases m.submitted? <;> rfl
    rw [hsubmitted, ← List.append_assoc]
    exact ih (faithful.after (moves_of_step hstep)) hrest

/-! ## The last texts of bursts -/

/-- The last texts of some bursts are a subsequence of all texts. -/
theorem filterMap_getLast?_sublist (bursts : List (List String)) :
    (bursts.filterMap List.getLast?).Sublist bursts.flatten := by
  induction bursts with
  | nil => exact .refl _
  | cons burst bursts ih =>
    rw [List.flatten_cons, List.filterMap_cons]
    cases hlast : burst.getLast? with
    | none => exact ih.trans (List.sublist_append_right _ _)
    | some text =>
      have hmem := List.singleton_sublist.2 (List.mem_of_getLast? hlast)
      exact hmem.append ih

/-- The last of the last texts of some bursts is the last of all texts. -/
theorem getLast?_filterMap_getLast? (bursts : List (List String)) :
    (bursts.filterMap List.getLast?).getLast? = bursts.flatten.getLast? := by
  rw [List.getLast?_filterMap, List.getLast?_flatten]

theorem Faithful.settled_eq (faithful : Faithful texts d h) :
    h.settled = (h.calls.map (·.received)).filterMap List.getLast? := by
  rw [History.settled, List.filterMap_map]
  exact List.filterMap_congr fun c hc => (faithful.returned c hc).symm

theorem Faithful.settled_sublist (faithful : Faithful texts d h) : h.settled.Sublist texts := by
  rw [faithful.settled_eq, faithful.texts_eq, List.append_assoc, History.consumed,
    List.flatMap_def]
  exact (filterMap_getLast?_sublist _).trans (List.sublist_append_left _ _)

theorem Faithful.getLast?_settled (faithful : Faithful texts d h) :
    h.settled.getLast? = h.consumed.getLast? := by
  rw [faithful.settled_eq, getLast?_filterMap_getLast?, History.consumed, List.flatMap_def]

theorem Faithful.consumed_eq (faithful : Faithful texts d h) {c : Call} (hc : c ∈ h.calls)
    (hfinished : c.reading = .finished) : h.consumed = texts := by
  obtain ⟨-, hqueue, hreceived⟩ := faithful.ended c hc hfinished
  rw [faithful.texts_eq, hqueue, hreceived, List.append_nil, List.append_nil]

/-! ## The end is reached -/

/-- Once no sender is left, a reader that goes on gets to the end. -/
theorem exists_follow_finished (d : Debouncer) (h : History) (hsenders : d.senders = 0) :
    ∃ n d' h', follow? d h (List.replicate n .receive) = some (d', h') ∧
      ∃ c ∈ h'.calls, c.reading = .finished := by
  obtain ⟨queue, latest, senders, reading⟩ := d
  cases hsenders
  induction queue generalizing latest h with
  | cons text queue ih =>
    obtain ⟨n, d', h', hfollow, hend⟩ := ih (h.after ⟨text :: queue, latest, 0, reading⟩ .receive none)
      (some text)
    exact ⟨n + 1, d', h', hfollow, hend⟩
  | nil =>
    cases latest with
    | none => exact ⟨1, _, _, rfl, _, List.mem_concat_self, rfl⟩
    | some text => exact ⟨2, _, _, rfl, _, List.mem_concat_self, rfl⟩

/-! ## All moves -/

/-- Whatever the order of submissions, receptions, windows that pass, and senders that come and
go: the texts that are returned are a subsequence of the submitted ones, each of them the last one
that its call received, and at the end, which is reached once no sender is left, every text has
been received and the last one was returned. -/
theorem follow_settles (moves : List Move) (d : Debouncer) (h : History)
    (followed : follow? {} {} moves = some (d, h)) :
    submitted moves = h.consumed ++ h.received ++ d.queue ∧
    h.settled.Sublist (submitted moves) ∧
    (∀ c ∈ h.calls, c.received.getLast? = c.reading.text?) ∧
    (∀ c ∈ h.calls, c.reading = .finished →
      h.consumed = submitted moves ∧ h.settled.getLast? = (submitted moves).getLast?) ∧
    (d.senders = 0 → ∃ n d' h', follow? d h (List.replicate n .receive) = some (d', h') ∧
      ∃ c ∈ h'.calls, c.reading = .finished) := by
  have faithful : Faithful (submitted moves) d h := faithful_start.follow followed
  refine ⟨faithful.texts_eq, faithful.settled_sublist, faithful.returned, ?_,
    exists_follow_finished d h⟩
  intro c hc hfinished
  have hconsumed := faithful.consumed_eq hc hfinished
  exact ⟨hconsumed, hconsumed ▸ faithful.getLast?_settled⟩

/-- Two senders: a window passes although a newer text waits, and the channel is closed in the
middle of the second burst. -/
theorem follow_settles_closed :
    let moves : List Move := [.join, .submit "a", .receive, .submit "b", .submit "c", .receive,
      .submit "d", .expire, .receive, .leave, .receive, .submit "e", .leave, .receive, .receive,
      .receive]
    let h : History := { calls := [⟨["a", "b"], .settled "b"⟩,
      ⟨["c", "d", "e"], .settled "e"⟩, ⟨[], .finished⟩] }
    follow? {} {} moves = some ({ senders := 0 }, h) ∧
      h.consumed = submitted moves ∧ h.settled.getLast? = (submitted moves).getLast? := by
  intro moves h
  have followed : follow? {} {} moves = some ({ senders := 0 }, h) := by decide
  obtain ⟨-, -, -, hend, -⟩ := follow_settles moves _ h followed
  exact ⟨followed, hend ⟨[], .finished⟩ (by decide) rfl⟩

end Debouncer

end Argumentation
