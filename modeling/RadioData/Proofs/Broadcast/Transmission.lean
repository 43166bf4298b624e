import RadioData.Broadcast
import RadioData.Tuner.Simulated
/-!
# A broadcast in the course of time

A `Transmission` is a broadcast together with the band that it takes its station from and the clock,
and with a record of what has happened: ticks, reads, calls of the tuner by whoever shares the band,
and failures that are put in or taken away. Any of these can come in any order (`Deed`).

An advance of the clock handles all the ticks that fall due: it waits for each of them and handles
it, and what outlasts both outlasts an advance (`advance_induct`), so it is the same as single deeds
(`advance_eq_run`). A property lasts over every run as soon as it outlasts the five things that can
happen one at a time: `Lasting` and `Lasting.run`. For runs in which no tick is kept waiting, it has
to outlast only such waits as end by the next tick: `PromptlyLasting` and `PromptlyLasting.run`.
-/

namespace RadioData

/-- An entry in the record of a transmission. -/
inductive Transmission.Entry where
  /-- A tick was handled while this station was tuned. -/
  | ticked (station : Option Station) (tick : Tick)
  /-- A reader took these bytes out of the pipe. -/
  | read (data : List UInt8)
  /-- The tuner was called. -/
  | called (call : Call)
  /-- Calls were made to fail, or to succeed again. -/
  | failure (reason : Option String)
  deriving DecidableEq, Repr

/-- A broadcast, the band that it belongs to, the time in milliseconds and what has happened. -/
structure Transmission where
  band : SimulatedBand
  broadcast : Broadcast
  now : Nat := 0
  history : List Transmission.Entry := []
  deriving Repr

namespace Transmission

/-- Something that can be done to a transmission. -/
inductive Deed where
  /-- The time goes on, and every tick that falls due is handled. -/
  | advance (ms : Nat)
  /-- The time goes on, and the ticks have to wait. -/
  | wait (ms : Nat)
  /-- The next tick is handled, if it is due and no group waits for room. -/
  | tick
  /-- A reader takes at most so many bytes, if there are any. The group that waits gets the room;
  whether a tick is handled thereupon is left to what comes next. -/
  | read (count : Nat)
  | call (call : Call)
  | fail (reason : Option String)
  deriving DecidableEq, Repr

/-- Whether a deed is not made of others. -/
def Deed.Single : Deed → Prop
  | .advance _ => False
  | .wait _ | .tick | .read _ | .call _ | .fail _ => True

/-- Whether a deed keeps no tick waiting. -/
def Deed.Prompt : Deed → Prop
  | .wait _ => False
  | .advance _ | .tick | .read _ | .call _ | .fail _ => True

/-- How much time a deed takes, in milliseconds. -/
def Deed.lapse : Deed → Nat
  | .advance ms | .wait ms => ms
  | .tick | .read _ | .call _ | .fail _ => 0

/-- The transmission after its next tick has been handled. -/
def handleTick (a : Transmission) : Transmission :=
  let (next, t) := a.broadcast.tick a.band.station? a.now
  { a with broadcast := next, history := a.history ++ [.ticked a.band.station? t] }

/-- The transmission after a reader has taken what it got, and left the rest. -/
def handleRead (a : Transmission) (data : List UInt8) (left : Broadcast) : Transmission :=
  { a with broadcast := left, history := a.history ++ [.read data] }

/-- The transmission after a call of the tuner, by anyone. -/
def handleCall (a : Transmission) (call : Call) : Transmission :=
  { a with band := (SimulatedBand.tuner call a.band).2, history := a.history ++ [.called call] }

/-- The transmission after calls have been made to fail, or to succeed again. -/
def handleFailure (a : Transmission) (reason : Option String) : Transmission :=
  { a with band := a.band.withFailure reason, history := a.history ++ [.failure reason] }

/-- The transmission after a deed. -/
def act (a : Transmission) : Deed → Transmission
  | .advance ms =>
    let (last, ticks) := a.broadcast.runUntil a.band.station? a.now (a.now + ms)
    { a with
      broadcast := last
      now := a.now + ms
      history := a.history ++ ticks.map (.ticked a.band.station?) }
  | .wait ms => { a with now := a.now + ms }
  | .tick =>
    match a.broadcast.ready? with
    | some ms => if ms ≤ a.now then a.handleTick else a
    | none => a
  | .read count =>
    match a.broadcast.read? count with
    | some (data, left) => a.handleRead data left
    | none => a
  | .call call => a.handleCall call
  | .fail reason => a.handleFailure reason

/-- The transmission after several deeds. -/
def run (a : Transmission) (deeds : List Deed) : Transmission := deeds.foldl act a

theorem run_cons (a : Transmission) (d : Deed) (deeds : List Deed) :
    a.run (d :: deeds) = (a.act d).run deeds := rfl

/-- Only waiting takes time. -/
theorem now_act (a : Transmission) (d : Deed) : (a.act d).now = a.now + d.lapse := by
  cases d with
  | advance ms | wait ms | call call | fail reason => rfl
  | tick =>
    rw [act]
    split
    · split <;> rfl
    · rfl
  | read count =>
    rw [act]
    split <;> rfl

/-- Over a run the time that its deeds take goes by. -/
theorem now_run (a : Transmission) (deeds : List Deed) :
    (a.run deeds).now = deeds.foldl (fun now d => now + d.lapse) a.now := by
  induction deeds generalizing a with
  | nil => rfl
  | cons d deeds ih => rw [run_cons, ih, now_act, List.foldl_cons]

/-- A transmission that is about to begin. -/
def start (c : SimulatedBand.Config) (b : Broadcast) : Transmission :=
  { band := .ofConfig c, broadcast := b }

theorem run_concat (a : Transmission) (deeds : List Deed) (d : Deed) :
    a.run (deeds ++ [d]) = (a.run deeds).act d := by
  rw [run, List.foldl_append]
  rfl

/-! ## What the record says -/

/-- The tick that was handled, if any, and the station that was tuned. -/
def Entry.tick? : Entry → Option (Option Station × Tick)
  | .ticked station t => some (station, t)
  | .read _ | .called _ | .failure _ => none

/-- The group that was generated, if any. -/
def Entry.group? : Entry → Option (List Block)
  | .ticked _ t => t.group
  | .read _ | .called _ | .failure _ => none

/-- The ticks that have been handled, with the stations that were tuned. -/
def ticks (record : List Entry) : List (Option Station × Tick) := record.filterMap Entry.tick?

/-- The groups that have been generated. -/
def groups (record : List Entry) : List (List Block) := record.filterMap Entry.group?

theorem ticks_concat (record : List Entry) (e : Entry) :
    ticks (record ++ [e]) = ticks record ++ e.tick?.toList := by
  rw [ticks, List.filterMap_append]
  cases h : e.tick? <;> simp [ticks, h]

theorem groups_append (earlier later : List Entry) :
    groups (earlier ++ later) = groups earlier ++ groups later := List.filterMap_append

theorem groups_concat (record : List Entry) (e : Entry) :
    groups (record ++ [e]) = groups record ++ e.group?.toList := by
  rw [groups_append]
  cases h : e.group? <;> simp [groups, h]

/-- The groups that have been generated are those of the ticks. -/
theorem groups_eq (record : List Entry) :
    groups record = (ticks record).filterMap fun x => x.2.group := by
  rw [groups, ticks, List.filterMap_filterMap]
  congr 1
  funext e
  cases e <;> rfl

/-! ## Advances -/

/-- A wait that passes over no tick: it lasts no longer than until the next one can be handled. -/
def Uneventful (a : Transmission) (ms : Nat) : Prop :=
  ∀ ready, a.broadcast.ready? = some ready → ms ≤ ready - a.now

/-- **An advance waits for each tick and handles it**, so what outlasts waits between ticks and
ticks outlasts an advance. -/
theorem advance_induct {P : Transmission → Prop}
    (wait : ∀ {a : Transmission} (ms : Nat), P a → a.Uneventful ms →
      P { a with now := a.now + ms })
    (tick : ∀ {a : Transmission}, P a → a.broadcast.unwritten = [] →
      wholeMs a.broadcast.due ≤ a.now → P a.handleTick)
    {a : Transmission} (ha : P a) (ms : Nat) : P (a.act (.advance ms)) := by
  suffices h : ∀ (b : Broadcast) (station : Option Station) (now horizon : Nat)
      (history : List Entry), station = a.band.station? → now ≤ horizon →
      P { a with broadcast := b, now, history } →
      P { a with
          broadcast := (b.runUntil station now horizon).1
          now := horizon
          history := history ++ (b.runUntil station now horizon).2.map (.ticked station) } from
    h a.broadcast a.band.station? a.now (a.now + ms) a.history rfl (Nat.le_add_right ..) ha
  intro b station now horizon history hstation hnow hP
  fun_induction Broadcast.runUntil b station now horizon generalizing history with
  | case1 b now h handled next last ticks hlast ih =>
    -- the time until the tick, the tick, and what makes up the rest of the advance
    have htime : now + (handled - now) = handled := Nat.add_sub_cancel' (Nat.le_max_left ..)
    have hwaited := wait (handled - now) hP fun ready hready => by
      obtain rfl : wholeMs b.due = ready := Option.some.inj ((if_pos h.1).symm.trans hready)
      show max now (wholeMs b.due) - now ≤ wholeMs b.due - now
      omega
    simp only [htime] at hwaited
    have hticked := tick hwaited h.1 (Nat.le_max_right ..)
    simp only [handleTick, ← hstation] at hticked
    have hrest := ih (history ++ [.ticked station next.2]) (Nat.max_le.2 ⟨hnow, h.2⟩) hticked
    rw [hlast, List.append_assoc] at hrest
    exact hrest
  | case2 b now h =>
    have hwaited := wait (horizon - now) hP fun ready hready => by
      rw [Broadcast.ready?, Option.ite_none_right_eq_some] at hready
      obtain ⟨hfree, hdue⟩ := hready
      cases hdue
      show horizon - now ≤ wholeMs b.due - now
      have hlate : ¬wholeMs b.due ≤ horizon := fun hle => h ⟨hfree, hle⟩
      omega
    simp only [Nat.add_sub_cancel' hnow] at hwaited
    simpa using hwaited

/-- An advance is the same as single deeds. -/
theorem advance_eq_run (a : Transmission) (ms : Nat) :
    ∃ deeds : List Deed, (∀ d ∈ deeds, d.Single) ∧ a.act (.advance ms) = a.run deeds := by
  refine advance_induct (P := fun later => ∃ deeds : List Deed, (∀ d ∈ deeds, d.Single) ∧
    later = a.run deeds) ?_ ?_ ⟨[], nofun, rfl⟩ ms
  · rintro _ ms ⟨deeds, hsingle, rfl⟩ -
    refine ⟨deeds ++ [.wait ms], ?_, ?_⟩
    · exact List.forall_mem_append.2 ⟨hsingle, List.forall_mem_singleton.2 trivial⟩
    · rw [run_concat]
      rfl
  · rintro _ ⟨deeds, hsingle, rfl⟩ hfree hdue
    refine ⟨deeds ++ [.tick], ?_, ?_⟩
    · exact List.forall_mem_append.2 ⟨hsingle, List.forall_mem_singleton.2 trivial⟩
    · have hready : (a.run deeds).broadcast.ready? = some (wholeMs (a.run deeds).broadcast.due) :=
        if_pos hfree
      rw [run_concat, act, hready]
      exact (if_pos hdue).symm

/-! ## Lasting properties -/

/-- A property that outlasts all that takes no time. -/
structure Momentary (P : Transmission → Prop) : Prop where
  tick : ∀ {a : Transmission}, P a → a.broadcast.unwritten = [] →
    wholeMs a.broadcast.due ≤ a.now → P a.handleTick
  read : ∀ {a : Transmission} (count : Nat), P a →
    P (a.handleRead (a.broadcast.take count).1 (a.broadcast.take count).2)
  call : ∀ {a : Transmission} (call : Call), P a → P (a.handleCall call)
  failure : ∀ {a : Transmission} (reason : Option String), P a → P (a.handleFailure reason)

/-- A property that lasts as long as no tick is kept waiting. -/
structure PromptlyLasting (P : Transmission → Prop) : Prop extends Momentary P where
  wait : ∀ {a : Transmission} (ms : Nat), P a → a.Uneventful ms → P { a with now := a.now + ms }

/-- A property that lasts, whatever happens in a transmission. -/
structure Lasting (P : Transmission → Prop) : Prop extends Momentary P where
  wait : ∀ {a : Transmission} (ms : Nat), P a → P { a with now := a.now + ms }

variable {P : Transmission → Prop} {a : Transmission}

/-- What lasts promptly outlasts every deed that keeps no tick waiting. -/
theorem PromptlyLasting.act (h : PromptlyLasting P) (ha : P a) {d : Deed} (hd : d.Prompt) :
    P (a.act d) := by
  cases d with
  | advance ms => exact advance_induct h.wait h.tick ha ms
  | wait ms => cases hd
  | tick =>
    rw [Transmission.act]
    split
    · next ms hready =>
      obtain ⟨hfree, rfl⟩ : a.broadcast.unwritten = [] ∧ wholeMs a.broadcast.due = ms := by
        simpa [Broadcast.ready?] using hready
      split
      · next hdue => exact h.tick ha hfree hdue
      · exact ha
    · exact ha
  | read count =>
    rw [Transmission.act]
    split
    · next data left hread =>
      obtain ⟨-, htake⟩ : a.broadcast.pipe ≠ [] ∧ a.broadcast.take count = (data, left) := by
        simpa [Broadcast.read?] using hread
      have hkept := h.read count ha
      rwa [htake] at hkept
    · exact ha
  | call call => exact h.call call ha
  | fail reason => exact h.failure reason ha

/-- What lasts through every prompt deed lasts through a run of them. -/
theorem PromptlyLasting.run (h : PromptlyLasting P) (ha : P a) {deeds : List Deed}
    (hdeeds : ∀ d ∈ deeds, d.Prompt) : P (a.run deeds) := by
  induction deeds generalizing a with
  | nil => exact ha
  | cons d deeds ih =>
    obtain ⟨hd, hdeeds⟩ := List.forall_mem_cons.1 hdeeds
    exact ih (h.act ha hd) hdeeds

/-- A lasting property outlasts every deed. -/
theorem Lasting.act (h : Lasting P) (ha : P a) (d : Deed) : P (a.act d) := by
  have hprompt : PromptlyLasting P := ⟨h.toMomentary, fun ms ha _ => h.wait ms ha⟩
  cases d with
  | wait ms => exact h.wait ms ha
  | advance ms | tick | read count | call call | fail reason => exact hprompt.act ha trivial

/-- **A lasting property outlasts every run.** -/
theorem Lasting.run (h : Lasting P) (ha : P a) (deeds : List Deed) : P (a.run deeds) := by
  induction deeds generalizing a with
  | nil => exact ha
  | cons d deeds ih => exact ih (h.act ha d)

end Transmission

end RadioData
