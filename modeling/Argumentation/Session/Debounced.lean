import Argumentation.Session.Basic

/-!
# Debounced descriptions

While a description is being typed it is submitted over and over.  A debouncer
holds the latest text back until no newer one has come for a whole window, so that
only the last text of a burst is read.

`Debouncer.step` says what a single move does, in whatever order the moves come.
`timeline` is the order in which they come when the reader takes every text at
once and the clock moves on between the submissions.  A session that takes its
descriptions from a debouncer applies what it reads with `applyReading`.
-/

namespace Argumentation

/-! ## The debouncer -/

/-- A debouncer. -/
structure Debouncer where
  /-- The texts that were submitted and not yet received, oldest first. -/
  queue : List String := []
  /-- The text that was received last and is held back. -/
  latest : Option String := none
  /-- The number of senders. -/
  senders : Nat := 1
  /-- Whether there is a reader. -/
  reading : Bool := true
  deriving DecidableEq

/-- What a debouncer gives to its reader. -/
inductive Reading where
  /-- A text for which the window has passed. -/
  | settled (text : String)
  /-- Nothing will come any more. -/
  | finished
  deriving DecidableEq

namespace Debouncer

/-! ## Moves -/

/-- What can happen to a debouncer. -/
inductive Move where
  /-- A sender submits a text. -/
  | submit (text : String)
  /-- A sender joins the others. -/
  | join
  /-- A sender goes. -/
  | leave
  /-- The reader looks for the next text. -/
  | receive
  /-- The window has passed since the latest text was received. -/
  | expire
  deriving DecidableEq

/-- Submits a text, if there is a reader. -/
def submit (d : Debouncer) (text : String) : Except Error Debouncer :=
  if d.reading then .ok { d with queue := d.queue ++ [text] }
  else .error (.file "Description channel closed, could not submit text")

/-- What is left to read when the queue is empty and no sender is left. -/
def drained (d : Debouncer) : Debouncer × Reading :=
  match d.latest with
  | some text => ({ d with latest := none }, .settled text)
  | none => (d, .finished)

/-- The debouncer after a move and what its reader gets, if the move is possible. -/
def step (d : Debouncer) : Move → Option (Debouncer × Option Reading)
  | .submit text =>
    if d.senders = 0 then none
    else
      match d.submit text with
      | .ok d => some (d, none)
      | .error _ => none
  | .join => if d.senders = 0 then none else some ({ d with senders := d.senders + 1 }, none)
  | .leave => if d.senders = 0 then none else some ({ d with senders := d.senders - 1 }, none)
  | .receive =>
    match d.queue with
    | text :: queue => some ({ d with queue, latest := some text }, none)
    | [] => if d.senders = 0 then some (d.drained.1, some d.drained.2) else none
  | .expire =>
    d.latest.map fun text => ({ d with latest := none }, some (.settled text))

/-! ## Moves on a clock -/

/-- A text that is submitted at a time. -/
structure Submission where
  /-- The time. -/
  time : Nat
  /-- The text. -/
  text : String
  deriving DecidableEq

/-- The end of a window, unless something else happens before. -/
def lapse (due : Option Nat) (stop : Nat) : List (Nat × Move) :=
  match due with
  | some time => if time ≤ stop then [(time, .expire)] else []
  | none => []

/-- The moves of a single sender, who goes at a closing time, and of a reader who
takes every text at once.  A window that is open ends at the given time. -/
def timeline (window closing : Nat) : Option Nat → List Submission → List (Nat × Move)
  | due, [] =>
    lapse due closing ++ [(closing, .leave), (closing, .receive), (closing, .receive)]
  | due, s :: ss =>
    lapse due s.time ++ (s.time, .submit s.text) :: (s.time, .receive) ::
      timeline window closing (some (s.time + window)) ss

/-- What the reader gets from moves and when, up to the end.  A move that is not
possible is passed over. -/
def run (d : Debouncer) : List (Nat × Move) → List (Nat × Reading)
  | [] => []
  | (time, move) :: moves =>
    match d.step move with
    | none => run d moves
    | some (d, none) => run d moves
    | some (_, some .finished) => [(time, .finished)]
    | some (d, some reading) => (time, reading) :: run d moves

/-- What the reader gets from submissions and when. -/
def readings (window closing : Nat) (submissions : List Submission) : List (Nat × Reading) :=
  run {} (timeline window closing none submissions)

example : readings 100 300 [⟨0, "a"⟩, ⟨60, "b"⟩, ⟨170, "c"⟩] =
    [(160, .settled "b"), (270, .settled "c"), (300, .finished)] := by decide +kernel
example : readings 100 20 [⟨0, "a"⟩] = [(20, .settled "a"), (20, .finished)] := by decide +kernel

end Debouncer

/-! ## Readings in a session -/

/-- Applies what a debouncer gives.  There is no outcome once nothing comes any
more. -/
def Session.applyReading (s : Session) : Reading → Session × Option (Except Error Outcome)
  | .settled text =>
    let (s, applied) := s.applyDescription text
    (s, some applied)
  | .finished => (s, none)

end Argumentation
