import RadioData.Group.Carousel
/-!
# A broadcast under a virtual clock

A `Broadcast` sends the groups of whatever station is tuned, one at each tick, into a pipe that a
session reads from. Ticks are due at time zero and then at intervals. The clock counts whole
milliseconds, so a tick is handled at the first millisecond that is not before it is due.

The pipe holds `Broadcast.capacity` bytes. What does not fit of a group waits until room is made,
and meanwhile no tick is handled. A tick that is handled more than `Broadcast.patience` late skips
the ticks that have been missed: the next one is due at the next multiple of the interval still to
come.

A group belongs to the station that is tuned when the tick is handled. Another identification, or a
tick without a station, starts the station's name anew.
-/

namespace RadioData

/-- The first whole millisecond that is not before a time in microseconds. -/
def wholeMs (us : Nat) : Nat := (us + 999) / 1000

theorem le_of_wholeMs_le {us ms : Nat} (h : wholeMs us ≤ ms) : us ≤ 1000 * ms := by
  unfold wholeMs at h
  omega

/-- A tick that has been handled. -/
structure Tick where
  /-- When it was due, in microseconds. -/
  due : Nat
  /-- When it was handled, in milliseconds. -/
  handled : Nat
  /-- The group that was sent, if a station was tuned. -/
  group : Option (List Block)
  deriving DecidableEq, Repr

/-- A broadcast between two ticks or reads. -/
structure Broadcast where
  /-- The time between two ticks, in microseconds. -/
  interval : Nat
  interval_pos : 0 < interval
  /-- How often a block is damaged. -/
  damageEvery : Option UInt32 := none
  /-- What the station of the last tick sends next. -/
  carousel : Option GroupCarousel := none
  /-- When the next tick is due, in microseconds. -/
  due : Nat := 0
  /-- The bytes that can be read. -/
  pipe : List UInt8 := []
  /-- The bytes of the last group that found no room. -/
  unwritten : List UInt8 := []
  deriving Repr

namespace Broadcast

/-- The bytes that the pipe holds. -/
def capacity : Nat := 768

/-- How late a tick may be handled without consequence, in microseconds. -/
def patience : Nat := 5000

/-- The time between two groups at the rate of a real broadcast, in microseconds. -/
def standardInterval : Nat := 87579

/-- A broadcast that is about to begin. Without a positive interval there is none. -/
def start? (interval : Nat) (damageEvery : Option UInt32) : Option Broadcast :=
  if h : 0 < interval then some { interval, interval_pos := h, damageEvery } else none

/-- When the tick after one is due that was due at `due` and is handled at `now`, both in
microseconds. -/
def dueAfter (interval due now : Nat) : Nat :=
  if due + patience < now then now + interval - (now - due) % interval else due + interval

theorem lt_dueAfter {interval due now : Nat} (h : 0 < interval) :
    due < dueAfter interval due now := by
  unfold dueAfter
  split
  · have := Nat.mod_lt (now - due) h
    omega
  · omega

/-- The carousel that sends at a tick: none without a station, a new one when the identification has
changed, else the one of the last tick. -/
def carouselFor (b : Broadcast) : Option Station → Option GroupCarousel
  | none => none
  | some s =>
    match b.carousel with
    | some c => if c.pi = s.pi then some c else some (.ofStation s b.damageEvery)
    | none => some (.ofStation s b.damageEvery)

/-- Puts bytes into the pipe as far as there is room. -/
def write (b : Broadcast) (bytes : List UInt8) : Broadcast :=
  let room := capacity - b.pipe.length
  { b with pipe := b.pipe ++ bytes.take room, unwritten := bytes.drop room }

/-- Handles a tick at `now`, in milliseconds, with the station that is tuned. -/
def tick (b : Broadcast) (station : Option Station) (now : Nat) : Broadcast × Tick :=
  let due := dueAfter b.interval b.due (1000 * now)
  match b.carouselFor station with
  | none => ({ b with carousel := none, due }, ⟨b.due, now, none⟩)
  | some c =>
    let (blocks, c) := c.sendBlocks
    ({ b with carousel := some c, due }.write (blocksBytes blocks), ⟨b.due, now, some blocks⟩)

@[simp]
theorem due_write (b : Broadcast) (bytes : List UInt8) : (b.write bytes).due = b.due := rfl

@[simp]
theorem due_tick (b : Broadcast) (station : Option Station) (now : Nat) :
    (b.tick station now).1.due = dueAfter b.interval b.due (1000 * now) := by
  unfold tick
  split <;> rfl

theorem lt_due_tick (b : Broadcast) (station : Option Station) (now : Nat) :
    b.due < (b.tick station now).1.due := by
  rw [due_tick]
  exact lt_dueAfter b.interval_pos

/-- When the next tick can be handled, in milliseconds. While a group waits for room there is no
telling. -/
def ready? (b : Broadcast) : Option Nat := if b.unwritten = [] then some (wholeMs b.due) else none

/-- Handles the ticks that are due up to and including `horizon`, from `now` on, with the same
station tuned throughout. Times are in milliseconds. -/
def runUntil (b : Broadcast) (station : Option Station) (now horizon : Nat) :
    Broadcast × List Tick :=
  if b.unwritten = [] ∧ wholeMs b.due ≤ horizon then
    let handled := max now (wholeMs b.due)
    let next := b.tick station handled
    let (last, ticks) := runUntil next.1 station handled horizon
    (last, next.2 :: ticks)
  else (b, [])
termination_by 1000 * horizon + 1 - b.due
decreasing_by
  rename_i h
  have late := le_of_wholeMs_le h.2
  have rising := b.lt_due_tick station (max now (wholeMs b.due))
  omega

/-- Takes at most `count` bytes out of the pipe. The room is used for the group that waits. -/
def take (b : Broadcast) (count : Nat) : List UInt8 × Broadcast :=
  (b.pipe.take count, { b with pipe := b.pipe.drop count }.write b.unwritten)

@[simp]
theorem due_take (b : Broadcast) (count : Nat) : (b.take count).2.due = b.due := rfl

/-- What a reader gets: nothing as long as the pipe is empty. -/
def read? (b : Broadcast) (count : Nat) : Option (List UInt8 × Broadcast) :=
  if b.pipe = [] then none else some (b.take count)

end Broadcast

end RadioData
