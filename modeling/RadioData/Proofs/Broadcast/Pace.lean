import Mathlib.Data.List.Perm.Subperm
import RadioData.Proofs.Broadcast.Framing
/-!
# The pace of a broadcast

Whatever is done to a transmission, its ticks are due at rising multiples of the interval, and none
is handled before it is due (`Scheduled`). So there have never been more groups than intervals that
have begun.

Nor are there fewer ticks as long as none has to wait. Each is then handled in the first millisecond
that is not before it is due, which is too early to be late: the next one is due an interval after
it, not after the moment at which it was handled, so that no roundings add up (`OnTime`). That lasts
until a group finds no room in the pipe, of which the first sixty-four are in no danger
(`Scheduled.room`), and whatever happens from then on, the ticks before stay where they were
(`OnTimeBy`). `broadcast_keeps_pace` is the main statement.
-/

namespace RadioData

/-- A time rounded up is over by a whole millisecond just where the time itself is. -/
theorem wholeMs_le_iff {us ms : Nat} : wholeMs us ≤ ms ↔ us ≤ 1000 * ms := by
  unfold wholeMs
  omega

theorem wholeMs_le_wholeMs {us later : Nat} (h : us ≤ later) : wholeMs us ≤ wholeMs later :=
  wholeMs_le_iff.2 (Nat.le_trans h (wholeMs_le_iff.1 (Nat.le_refl _)))

namespace Broadcast

variable {interval due now : Nat}

/-- The next tick is due some whole intervals later. -/
theorem exists_dueAfter_eq (interval due now : Nat) :
    ∃ k, dueAfter interval due now = due + (k + 1) * interval := by
  rw [dueAfter]
  split
  · refine ⟨(now - due) / interval, ?_⟩
    have hsplit := Nat.div_add_mod' (now - due) interval
    rw [Nat.add_mul, Nat.one_mul]
    omega
  · exact ⟨0, by rw [Nat.zero_add, Nat.one_mul]⟩

/-- A tick in time is followed by one that is due an interval later. -/
theorem dueAfter_of_le (h : now ≤ due + patience) : dueAfter interval due now = due + interval :=
  if_neg (Nat.not_lt.2 h)

theorem interval_tick (b : Broadcast) (station : Option Station) (now : Nat) :
    (b.tick station now).1.interval = b.interval := by
  unfold tick
  split <;> rfl

/-- A tick is recorded with the time at which it was due and the time at which it was handled. -/
theorem entry_tick (b : Broadcast) (station : Option Station) (now : Nat) :
    (b.tick station now).2.due = b.due ∧ (b.tick station now).2.handled = now := by
  unfold tick
  split <;> exact ⟨rfl, rfl⟩

end Broadcast

namespace Transmission

variable {interval ms us : Nat} {record : List Entry} {a next : Transmission}

/-! ## What the record says -/

/-- The ticks that have been handled. -/
def handledTicks (record : List Entry) : List Tick := (ticks record).map Prod.snd

/-- The ticks that have been handled by a time in microseconds. -/
def ticksBy (record : List Entry) (us : Nat) : List Tick :=
  (handledTicks record).filter fun t => 1000 * t.handled ≤ us

/-- The groups that have been generated by a time in microseconds. -/
def groupsBy (record : List Entry) (us : Nat) : List (List Block) :=
  (ticksBy record us).filterMap Tick.group

theorem handledTicks_concat (record : List Entry) (e : Entry) :
    handledTicks (record ++ [e]) = handledTicks record ++ (e.tick?.map Prod.snd).toList := by
  rw [handledTicks, ticks_concat, List.map_append]
  cases e.tick? <;> rfl

/-- The groups of a record are those of its ticks. -/
theorem groups_eq_filterMap (record : List Entry) :
    groups record = (handledTicks record).filterMap Tick.group := by
  rw [groups_eq, handledTicks, List.filterMap_map]
  rfl

/-- Something is recorded that is no tick, at once, and the schedule stays as it is. -/
structure Quiet (a next : Transmission) : Prop where
  interval : next.broadcast.interval = a.broadcast.interval
  due : next.broadcast.due = a.broadcast.due
  now : next.now = a.now
  history : ∃ e : Entry, e.tick? = none ∧ next.history = a.history ++ [e]

theorem quiet_handleRead (a : Transmission) (count : Nat) :
    Quiet a (a.handleRead (a.broadcast.take count).1 (a.broadcast.take count).2) :=
  ⟨rfl, rfl, rfl, _, rfl, rfl⟩

theorem quiet_handleCall (a : Transmission) (call : Call) : Quiet a (a.handleCall call) :=
  ⟨rfl, rfl, rfl, _, rfl, rfl⟩

theorem quiet_handleFailure (a : Transmission) (reason : Option String) :
    Quiet a (a.handleFailure reason) := ⟨rfl, rfl, rfl, _, rfl, rfl⟩

/-- What is quiet adds no tick. -/
theorem Quiet.handledTicks_eq (h : Quiet a next) :
    handledTicks next.history = handledTicks a.history := by
  obtain ⟨e, htick, hhistory⟩ := h.history
  rw [hhistory, handledTicks_concat, htick, Option.map_none, Option.toList_none, List.append_nil]

/-! ## Ticks are never early -/

/-- What holds of the ticks of any transmission. -/
structure Scheduled (interval : Nat) (a : Transmission) : Prop where
  interval_eq : a.broadcast.interval = interval
  multiple : interval ∣ a.broadcast.due
  handled : ∀ t ∈ handledTicks a.history,
    interval ∣ t.due ∧ t.due ≤ 1000 * t.handled ∧ t.handled ≤ a.now ∧ t.due < a.broadcast.due
  inTurn : ((handledTicks a.history).map Tick.due).Pairwise (· < ·)

/-- What is quiet keeps to the schedule. -/
theorem Scheduled.quiet (h : Scheduled interval a) (hquiet : Quiet a next) :
    Scheduled interval next := by
  refine ⟨hquiet.interval.trans h.interval_eq, hquiet.due ▸ h.multiple, ?_, ?_⟩
  · rw [hquiet.handledTicks_eq, hquiet.due, hquiet.now]
    exact h.handled
  · rw [hquiet.handledTicks_eq]
    exact h.inTurn

/-- The ticks after another one has been handled. -/
theorem handledTicks_handleTick (a : Transmission) :
    ∃ t : Tick, handledTicks a.handleTick.history = handledTicks a.history ++ [t] ∧
      t.due = a.broadcast.due ∧ t.handled = a.now :=
  ⟨_, handledTicks_concat .., Broadcast.entry_tick ..⟩

/-- A tick is handled at or after the time at which it is due, and after all that were due before
it. -/
theorem Scheduled.tick (h : Scheduled interval a) (hdue : wholeMs a.broadcast.due ≤ a.now) :
    Scheduled interval a.handleTick := by
  obtain ⟨t, hticks, htdue, hthandled⟩ := a.handledTicks_handleTick
  obtain ⟨k, hk⟩ := Broadcast.exists_dueAfter_eq a.broadcast.interval a.broadcast.due (1000 * a.now)
  have hnext : a.handleTick.broadcast.due = a.broadcast.due + (k + 1) * a.broadcast.interval :=
    (Broadcast.due_tick ..).trans hk
  have hlater : a.broadcast.due < a.handleTick.broadcast.due := Broadcast.lt_due_tick ..
  refine ⟨(Broadcast.interval_tick ..).trans h.interval_eq, ?_, ?_, ?_⟩
  · rw [hnext, h.interval_eq]
    exact Nat.dvd_add h.multiple (Nat.dvd_mul_left ..)
  · rw [hticks]
    refine List.forall_mem_append.2 ⟨fun u hu => ?_, List.forall_mem_singleton.2 ?_⟩
    · obtain ⟨hmultiple, hearly, hnow, hbefore⟩ := h.handled u hu
      exact ⟨hmultiple, hearly, hnow, Nat.lt_trans hbefore hlater⟩
    · rw [htdue, hthandled]
      exact ⟨h.multiple, wholeMs_le_iff.1 hdue, Nat.le_refl _, hlater⟩
  · rw [hticks, List.map_append, List.pairwise_append]
    refine ⟨h.inTurn, List.pairwise_singleton .., fun due hmem last hlast => ?_⟩
    obtain ⟨u, hu, rfl⟩ := List.mem_map.1 hmem
    rw [List.map_singleton, List.mem_singleton] at hlast
    rw [hlast, htdue]
    exact (h.handled u hu).2.2.2

/-- Every deed keeps to the schedule. -/
theorem lasting_scheduled : Lasting (Scheduled interval) where
  wait ms h :=
    { h with
      handled := fun t ht => by
        obtain ⟨hmultiple, hearly, hnow, hbefore⟩ := h.handled t ht
        exact ⟨hmultiple, hearly, Nat.le_trans hnow (Nat.le_add_right ..), hbefore⟩ }
  tick h _ hdue := h.tick hdue
  read count h := h.quiet (quiet_handleRead _ count)
  call call h := h.quiet (quiet_handleCall _ call)
  failure reason h := h.quiet (quiet_handleFailure _ reason)

/-- A run from the start keeps to the schedule. -/
theorem scheduled_run {c : SimulatedBand.Config} {damageEvery : Option UInt32} {b : Broadcast}
    (hb : Broadcast.start? interval damageEvery = some b) (deeds : List Deed) :
    Scheduled interval ((start c b).run deeds) := by
  obtain ⟨hpos, rfl⟩ : ∃ _ : 0 < interval, _ = b := by simpa [Broadcast.start?] using hb
  have hnew : Scheduled interval (start c ⟨interval, hpos, damageEvery, none, 0, [], []⟩) :=
    ⟨rfl, Nat.dvd_zero _, fun _ ht => absurd ht List.not_mem_nil, .nil⟩
  exact lasting_scheduled.run hnew deeds

/-- There are no more multiples of an interval than intervals that have begun. -/
theorem length_le_of_multiples {dues : List Nat} (hpos : 0 < interval)
    (hinTurn : dues.Pairwise (· < ·)) (h : ∀ due ∈ dues, interval ∣ due ∧ due ≤ us) :
    dues.length ≤ us / interval + 1 := by
  have hnodup : dues.Nodup := hinTurn.imp Nat.ne_of_lt
  have hsubset : dues ⊆ (List.range (us / interval + 1)).map (interval * ·) := by
    intro due hdue
    obtain ⟨⟨k, rfl⟩, hle⟩ := h due hdue
    have hk : k ≤ us / interval := (Nat.le_div_iff_mul_le hpos).2 (Nat.mul_comm k _ ▸ hle)
    exact List.mem_map_of_mem (List.mem_range.2 (Nat.lt_succ_of_le hk))
  simpa using (hnodup.subperm hsubset).length_le

/-- Before a tick there have been no more ticks than intervals before it was due. -/
theorem Scheduled.length_le_of_due (h : Scheduled interval a) (hpos : 0 < interval)
    {earlier later : List Tick} {t : Tick}
    (hticks : handledTicks a.history = earlier ++ t :: later) :
    earlier.length ≤ t.due / interval := by
  have hsub : (earlier ++ [t]).Sublist (handledTicks a.history) := by
    rw [hticks]
    exact .append_left (.cons_cons t (List.nil_sublist later)) earlier
  have hinTurn : ((earlier ++ [t]).map Tick.due).Pairwise (· < ·) :=
    h.inTurn.sublist (hsub.map _)
  have hdues : ∀ due ∈ (earlier ++ [t]).map Tick.due, interval ∣ due ∧ due ≤ t.due := by
    intro due hdue
    obtain ⟨u, hu, rfl⟩ := List.mem_map.1 hdue
    refine ⟨(h.handled u (hsub.subset hu)).1, ?_⟩
    obtain hu | hu := List.mem_append.1 hu
    · rw [List.pairwise_map, List.pairwise_append] at hinTurn
      exact Nat.le_of_lt (hinTurn.2.2 u hu t (List.mem_singleton.2 rfl))
    · exact Nat.le_of_eq (congrArg Tick.due (List.mem_singleton.1 hu))
  have hcount := length_le_of_multiples hpos hinTurn hdues
  rw [List.length_map, List.length_append, List.length_singleton] at hcount
  exact Nat.le_of_succ_le_succ hcount

/-- By no time have there been more ticks than intervals that have begun. -/
theorem Scheduled.length_ticksBy_le (h : Scheduled interval a) (hpos : 0 < interval) (us : Nat) :
    (ticksBy a.history us).length ≤ us / interval + 1 := by
  rw [← List.length_map Tick.due]
  refine length_le_of_multiples hpos (h.inTurn.sublist (List.filter_sublist.map _)) ?_
  intro due hdue
  obtain ⟨t, ht, rfl⟩ := List.mem_map.1 hdue
  obtain ⟨hmem, hhandled⟩ := List.mem_filter.1 ht
  obtain ⟨hmultiple, hearly, -, -⟩ := h.handled t hmem
  exact ⟨hmultiple, Nat.le_trans hearly (of_decide_eq_true hhandled)⟩

/-! ## Ticks that do not have to wait are never late -/

/-- When ticks were due, in microseconds, and when they were handled, in milliseconds. -/
def times (handled : List Tick) : List (Nat × Nat) := handled.map fun t => (t.due, t.handled)

/-- The first ticks, each handled in the first millisecond that is not before it is due. -/
def timetable (interval count : Nat) : List (Nat × Nat) :=
  (List.range count).map fun k => (k * interval, wholeMs (k * interval))

/-- One more tick comes one interval after the ones before. -/
theorem timetable_succ (interval count : Nat) : timetable interval (count + 1) =
    timetable interval count ++ [(count * interval, wholeMs (count * interval))] := by
  rw [timetable, List.range_succ, List.map_append]
  rfl

/-- Of a timetable that is long enough, what lies at or before a time are the ticks of the intervals
that have begun. -/
theorem filter_timetable {count : Nat} (hpos : 0 < interval)
    (hlate : 1000 * ms < count * interval) :
    (timetable interval count).filter (fun x => 1000 * x.2 ≤ 1000 * ms) =
      timetable interval (1000 * ms / interval + 1) := by
  have hbegun (k : Nat) : wholeMs (k * interval) ≤ ms ↔ k < 1000 * ms / interval + 1 := by
    rw [wholeMs_le_iff, Nat.lt_succ_iff, Nat.le_div_iff_mul_le hpos]
  obtain ⟨more, rfl⟩ : ∃ more, count = 1000 * ms / interval + 1 + more := by
    have hcount : 1000 * ms / interval < count := (Nat.div_lt_iff_lt_mul hpos).2 hlate
    exact Nat.exists_eq_add_of_le hcount
  rw [timetable, List.range_add, List.map_append, List.filter_append, List.filter_eq_self.2,
    List.filter_eq_nil_iff.2, List.append_nil]
  · rfl
  · intro x hx
    rw [List.map_map] at hx
    obtain ⟨k, -, rfl⟩ := List.mem_map.1 hx
    have hk := (hbegun (1000 * ms / interval + 1 + k)).not.2 (by omega)
    simp only [Function.comp_apply, decide_eq_true_eq]
    omega
  · intro x hx
    obtain ⟨k, hk, rfl⟩ := List.mem_map.1 hx
    have hk := (hbegun k).2 (List.mem_range.1 hk)
    simp only [decide_eq_true_eq]
    omega

/-- The ticks so far are those of the timetable, and the next one has not been kept waiting. -/
structure OnTime (interval : Nat) (a : Transmission) : Prop where
  free : a.broadcast.unwritten = []
  interval_eq : a.broadcast.interval = interval
  due : a.broadcast.due = (handledTicks a.history).length * interval
  ahead : a.now ≤ wholeMs a.broadcast.due
  times : times (handledTicks a.history) =
    timetable interval (handledTicks a.history).length

/-- By a time before the next tick is due, the ticks of the intervals that have begun have been
handled. -/
theorem OnTime.times_ticksBy (h : OnTime interval a) (hpos : 0 < interval)
    (hlate : 1000 * ms < a.broadcast.due) :
    Transmission.times (ticksBy a.history (1000 * ms)) =
      timetable interval (1000 * ms / interval + 1) := by
  rw [h.due] at hlate
  rw [← filter_timetable hpos hlate, ← h.times, Transmission.times, Transmission.times,
    List.filter_map]
  rfl

/-- What is quiet keeps a broadcast on time if it leaves nothing unwritten. -/
theorem OnTime.quiet (h : OnTime interval a) (hquiet : Quiet a next)
    (hfree : next.broadcast.unwritten = []) : OnTime interval next := by
  refine ⟨hfree, hquiet.interval.trans h.interval_eq, ?_, ?_, ?_⟩
  · rw [hquiet.due, hquiet.handledTicks_eq, h.due]
  · rw [hquiet.due, hquiet.now]
    exact h.ahead
  · rw [hquiet.handledTicks_eq, h.times]

/-- A tick that is handled as soon as it can be is in time, and the next one is due an interval
later. -/
theorem OnTime.tick (h : OnTime interval a) (hdue : wholeMs a.broadcast.due ≤ a.now)
    (hfree : a.handleTick.broadcast.unwritten = []) : OnTime interval a.handleTick := by
  obtain ⟨t, hticks, htdue, hthandled⟩ := a.handledTicks_handleTick
  have hnow : a.now = wholeMs a.broadcast.due := Nat.le_antisymm h.ahead hdue
  have hintime : 1000 * a.now ≤ a.broadcast.due + Broadcast.patience := by
    rw [hnow, wholeMs, Broadcast.patience]
    omega
  have hnext : a.handleTick.broadcast.due = a.broadcast.due + interval := by
    refine (Broadcast.due_tick ..).trans ?_
    rw [Broadcast.dueAfter_of_le hintime, h.interval_eq]
  refine ⟨hfree, (Broadcast.interval_tick ..).trans h.interval_eq, ?_, ?_, ?_⟩
  · rw [hnext, hticks, h.due, List.length_append, List.length_singleton, Nat.add_mul, Nat.one_mul]
  · show a.now ≤ _
    rw [hnow, hnext]
    exact wholeMs_le_wholeMs (Nat.le_add_right ..)
  · rw [hticks, List.length_append, List.length_singleton, timetable_succ, ← h.times, ← h.due,
      ← hnow, Transmission.times, List.map_append, List.map_singleton, htdue, hthandled]
    rfl

/-! ## Room in the pipe -/

/-- The group of a tick finds room in the pipe, if the tick was handled by a time in microseconds:
all that is still to be read fits in together with it. -/
def RoomBy (us : Nat) (earlier : List Entry) : Entry → Prop
  | .ticked _ t => 1000 * t.handled ≤ us → t.group ≠ none →
    (backlog earlier).length + 12 ≤ Broadcast.capacity
  | .read _ | .called _ | .failure _ => True

/-- A group that is generated is still to be read. -/
theorem Conveys.backlog_tick {b : Broadcast} (h : Conveys b record) (station : Option Station)
    (t : Tick) : backlog (record ++ [.ticked station t]) =
      backlog record ++ t.group.toList.flatMap blocksBytes := by
  rw [backlog, sent_concat, received_concat, ← h.conserved]
  simp [Entry.data?, Entry.group?]

/-- The first sixty-four groups find room, even if nothing is read. -/
theorem Scheduled.room (h : Scheduled interval a) (hconveys : Conveys a.broadcast a.history)
    (hpos : 0 < interval) (hfew : us / interval < 64) : Throughout (RoomBy us) a.history := by
  rintro earlier (⟨station, t⟩ | _ | _ | _) later e
  case read | called | failure => trivial
  intro hby _
  have hticks : handledTicks a.history = handledTicks earlier ++ t :: handledTicks later := by
    simp [e, handledTicks, ticks, Entry.tick?]
  have hdue : t.due ≤ us := Nat.le_trans (h.handled t (hticks ▸ by simp)).2.1 hby
  have hcount : (groups earlier).length ≤ 63 := calc
    _ ≤ (handledTicks earlier).length := by
      rw [groups_eq_filterMap]
      exact List.length_filterMap_le ..
    _ ≤ t.due / interval := h.length_le_of_due hpos hticks
    _ ≤ us / interval := Nat.div_le_div_right hdue
    _ ≤ 63 := Nat.le_of_lt_succ hfew
  have hsent : (sent earlier).length = 12 * (groups earlier).length :=
    length_sent fun g hg => hconveys.length_group g (by
      rw [e, groups_append]
      exact List.mem_append_left _ hg)
  rw [backlog, List.length_drop, hsent, Broadcast.capacity]
  omega

/-- Nothing waits for room behind a group that finds some. -/
theorem unwritten_handleTick (h : Conveys a.broadcast a.history)
    (hfree : a.broadcast.unwritten = [])
    (hroom : Throughout (RoomBy us) a.handleTick.history) (hby : 1000 * a.now ≤ us) :
    a.handleTick.broadcast.unwritten = [] := by
  have hafter : Conveys a.handleTick.broadcast a.handleTick.history := h.tick hfree ..
  let t : Tick := (a.broadcast.tick a.band.station? a.now).2
  have hbacklog : backlog a.handleTick.history =
      backlog a.history ++ t.group.toList.flatMap blocksBytes := h.backlog_tick ..
  rw [hafter.unwritten, hbacklog]
  refine List.drop_eq_nil_of_le ?_
  rw [List.length_append]
  cases hgroup : t.group with
  | none =>
    have hfits := h.length_pipe
    rw [h.backlog_eq, hfree, List.append_nil]
    exact hfits
  | some g =>
    have hg : (blocksBytes g).length = 12 := by
      refine hafter.length_group g ?_
      show g ∈ groups (a.history ++ [.ticked a.band.station? t])
      simp [groups_concat, Entry.group?, hgroup]
    have hlast := hroom a.history (.ticked a.band.station? t) [] rfl
    have hhandled : t.handled = a.now := (Broadcast.entry_tick ..).2
    rw [Option.toList_some, List.flatMap_singleton, hg]
    exact hlast (hhandled ▸ hby) (by rw [hgroup]; exact Option.some_ne_none g)

/-! ## Runs in which no tick is kept waiting -/

/-- What holds of such a run, told by a time in milliseconds: if every group has found room by then,
the ticks are on time, or that time is past and the ticks handled by it are those of the intervals
that had begun. -/
structure OnTimeBy (interval ms : Nat) (a : Transmission) : Prop where
  conveys : Conveys a.broadcast a.history
  onTime : Throughout (RoomBy (1000 * ms)) a.history →
    OnTime interval a ∨ ms < a.now ∧
      times (ticksBy a.history (1000 * ms)) = timetable interval (1000 * ms / interval + 1)

/-- A wait in which nothing falls due keeps it on time. -/
theorem OnTimeBy.wait (h : OnTimeBy interval ms a) {lapse : Nat} (hwait : a.Uneventful lapse) :
    OnTimeBy interval ms { a with now := a.now + lapse } where
  conveys := h.conveys
  onTime hroom := by
    obtain hon | ⟨hpast, htimes⟩ := h.onTime hroom
    · have hlapse := hwait (wholeMs a.broadcast.due) (if_pos hon.free)
      have hahead := hon.ahead
      refine .inl { hon with ahead := ?_ }
      show a.now + lapse ≤ wholeMs a.broadcast.due
      omega
    · exact .inr ⟨Nat.lt_of_lt_of_le hpast (Nat.le_add_right ..), htimes⟩

/-- What is handled after a time is not among the ticks that have been handled by it. -/
theorem ticksBy_handleTick (hpast : ms < a.now) :
    ticksBy a.handleTick.history (1000 * ms) = ticksBy a.history (1000 * ms) := by
  obtain ⟨t, hticks, -, hthandled⟩ := a.handledTicks_handleTick
  have hlate : ¬1000 * t.handled ≤ 1000 * ms := by
    rw [hthandled]
    omega
  rw [ticksBy, hticks, List.filter_append, List.filter_singleton, decide_eq_false hlate]
  exact List.append_nil _

/-- As long as groups find room, another tick is on time; the first one without room is the last of
which this can be said. -/
theorem OnTimeBy.tick (h : OnTimeBy interval ms a) (hpos : 0 < interval)
    (hfree : a.broadcast.unwritten = []) (hdue : wholeMs a.broadcast.due ≤ a.now) :
    OnTimeBy interval ms a.handleTick where
  conveys := h.conveys.tick hfree ..
  onTime hroom := by
    obtain hon | ⟨hpast, htimes⟩ := h.onTime hroom.of_append
    · rcases Nat.lt_or_ge ms a.now with hpast | hby
      · have hlate : 1000 * ms < a.broadcast.due := by
          refine Nat.lt_of_not_le fun hle => ?_
          exact absurd (Nat.le_trans hon.ahead (wholeMs_le_iff.2 hle)) (Nat.not_le_of_lt hpast)
        exact .inr ⟨hpast, (ticksBy_handleTick hpast).symm ▸ hon.times_ticksBy hpos hlate⟩
      · have hby : 1000 * a.now ≤ 1000 * ms := Nat.mul_le_mul_left 1000 hby
        exact .inl (hon.tick hdue (unwritten_handleTick h.conveys hfree hroom hby))
    · exact .inr ⟨hpast, (ticksBy_handleTick hpast).symm ▸ htimes⟩

/-- So does what is quiet, if it leaves nothing unwritten unless something was before. -/
theorem OnTimeBy.quiet (h : OnTimeBy interval ms a) (hquiet : Quiet a next)
    (hconveys : Conveys next.broadcast next.history)
    (hfree : a.broadcast.unwritten = [] → next.broadcast.unwritten = []) :
    OnTimeBy interval ms next where
  conveys := hconveys
  onTime hroom := by
    obtain ⟨e, -, hhistory⟩ := hquiet.history
    rw [hhistory] at hroom
    obtain hon | ⟨hpast, htimes⟩ := h.onTime hroom.of_append
    · exact .inl (hon.quiet hquiet (hfree hon.free))
    · rw [ticksBy, hquiet.handledTicks_eq, hquiet.now]
      exact .inr ⟨hpast, htimes⟩

/-- The invariant lasts as long as no tick is kept waiting. -/
theorem promptlyLasting_onTimeBy (hpos : 0 < interval) :
    PromptlyLasting (OnTimeBy interval ms) where
  wait _ h hwait := h.wait hwait
  tick h hfree hdue := h.tick hpos hfree hdue
  read count h := by
    refine h.quiet (quiet_handleRead _ count) (h.conveys.take count) fun hfree => ?_
    show List.drop _ _ = []
    rw [hfree, List.drop_nil]
  call call h := h.quiet (quiet_handleCall _ call) (h.conveys.silent rfl rfl rfl rfl) id
  failure reason h :=
    h.quiet (quiet_handleFailure _ reason) (h.conveys.silent rfl rfl rfl rfl) id

/-- After an advance no tick is due any more, unless a group waits for room. -/
theorem lt_wholeMs_runUntil (b : Broadcast) (station : Option Station) (now horizon : Nat)
    (h : (b.runUntil station now horizon).1.unwritten = []) :
    horizon < wholeMs (b.runUntil station now horizon).1.due := by
  fun_induction Broadcast.runUntil b station now horizon with
  | case1 b now hready handled next last ticks hlast ih =>
    rw [hlast] at ih
    exact ih h
  | case2 b now hready => exact Nat.lt_of_not_le fun hdue => hready ⟨h, hdue⟩

/-- After an advance the ticks by any time up to now are known, if every group has found room by
then. -/
theorem OnTimeBy.times_ticksBy (h : OnTimeBy interval ms a) (hpos : 0 < interval) (lapse : Nat)
    (hby : ms ≤ a.now + lapse)
    (hroom : Throughout (RoomBy (1000 * ms)) (a.act (.advance lapse)).history) :
    times (ticksBy (a.act (.advance lapse)).history (1000 * ms)) =
      timetable interval (1000 * ms / interval + 1) := by
  have hafter := (promptlyLasting_onTimeBy hpos).act h (d := .advance lapse) trivial
  obtain hon | ⟨-, htimes⟩ := hafter.onTime hroom
  · refine hon.times_ticksBy hpos (Nat.lt_of_not_le fun hle => ?_)
    have hsettled := lt_wholeMs_runUntil a.broadcast a.band.station? a.now (a.now + lapse) hon.free
    exact absurd (Nat.lt_of_lt_of_le hsettled (wholeMs_le_iff.2 hle)) (Nat.not_lt_of_le hby)
  · exact htimes

/-- **A broadcast keeps pace.** Of any interval there is a broadcast. Whatever is done to it, its
ticks are due at rising multiples of the interval and none is handled before it is due; by no time
have there been more ticks, or more groups, than intervals that have begun. And if no tick is kept
waiting, by any whole millisecond by which every group has found room in the pipe there have been
just as many ticks as intervals that have begun, each of them handled in the first millisecond that
was not before it was due. -/
theorem broadcast_keeps_pace (c : SimulatedBand.Config) (hpos : 0 < interval)
    (damageEvery : Option UInt32) :
    ∃ b, Broadcast.start? interval damageEvery = some b ∧
      (∀ deeds, let a := (start c b).run deeds
        ((handledTicks a.history).map Tick.due).Pairwise (· < ·) ∧
        (∀ t ∈ handledTicks a.history,
          interval ∣ t.due ∧ t.due ≤ 1000 * t.handled ∧ t.handled ≤ a.now) ∧
        groupsBy a.history (1000 * a.now) = groups a.history ∧
        ∀ us, (ticksBy a.history us).length ≤ us / interval + 1 ∧
          (groupsBy a.history us).length ≤ us / interval + 1) ∧
      ∀ deeds lapse, (∀ d ∈ deeds, d.Prompt) →
        let a := (start c b).run (deeds ++ [.advance lapse])
        ∀ ms ≤ a.now, Throughout (RoomBy (1000 * ms)) a.history →
          (ticksBy a.history (1000 * ms)).length = 1000 * ms / interval + 1 ∧
          (ticksBy a.history (1000 * ms)).map (fun t => (t.due, t.handled)) =
            (List.range (1000 * ms / interval + 1)).map fun k =>
              (k * interval, wholeMs (k * interval)) := by
  have hb : Broadcast.start? interval damageEvery =
      some ⟨interval, hpos, damageEvery, none, 0, [], []⟩ := dif_pos hpos
  refine ⟨_, hb, fun deeds => ?_, fun deeds lapse hprompt => ?_⟩
  · intro a
    have h : Scheduled interval a := scheduled_run hb deeds
    refine ⟨h.inTurn, fun t ht => ?_, ?_, fun us => ?_⟩
    · obtain ⟨hmultiple, hearly, hnow, -⟩ := h.handled t ht
      exact ⟨hmultiple, hearly, hnow⟩
    · have hall : ticksBy a.history (1000 * a.now) = handledTicks a.history := by
        refine List.filter_eq_self.2 fun t ht => decide_eq_true ?_
        exact Nat.mul_le_mul_left 1000 (h.handled t ht).2.2.1
      rw [groupsBy, hall, groups_eq_filterMap]
    · have hticks := h.length_ticksBy_le hpos us
      exact ⟨hticks, Nat.le_trans (List.length_filterMap_le ..) hticks⟩
  · intro a ms hby hroom
    have hnew : OnTimeBy interval ms (start c ⟨interval, hpos, damageEvery, none, 0, [], []⟩) :=
      ⟨conveys_start rfl rfl, fun _ => .inl ⟨rfl, rfl, (Nat.zero_mul _).symm, Nat.zero_le _, rfl⟩⟩
    have hrun := (promptlyLasting_onTimeBy hpos).run hnew hprompt
    have ha : a = ((start c _).run deeds).act (.advance lapse) := run_concat ..
    rw [ha] at hby hroom ⊢
    have htimes := hrun.times_ticksBy hpos lapse hby hroom
    have hlength := congrArg List.length htimes
    rw [times, timetable, List.length_map, List.length_map, List.length_range] at hlength
    exact ⟨hlength, htimes⟩

/-- Over five and a half seconds in which the station is tuned, part of its first groups is read and
it is tuned again, the sixty-third tick of an interval of 87579 µs is handled at 5430 ms: had the
roundings of the ticks before added up, it would have been at 5456 ms. -/
theorem broadcast_keeps_pace_standard :
    ∃ b : Broadcast, ∃ deeds : List Deed,
      let a := (start .standard b).run deeds
      a.now = 5500 ∧ (ticksBy a.history (1000 * 5500)).length = 63 ∧
        ((ticksBy a.history (1000 * 5500)).map fun t => (t.due, t.handled))[62]? =
          some (5429898, 5430) := by
  let deeds : List Deed :=
    [.call (.seek .up), .advance 2750, .read 100, .fail (some "broken"), .call (.seek .down)]
  obtain ⟨b, hb, -, hpace⟩ := broadcast_keeps_pace .standard (by decide : 0 < 87579) (some 3)
  have hprompt : ∀ d ∈ deeds, d.Prompt := by simp [deeds, Deed.Prompt]
  have hnow : ((start .standard b).run (deeds ++ [.advance 2750])).now = 5500 := by
    rw [now_run]
    rfl
  have hroom := (scheduled_run (c := .standard) hb (deeds ++ [.advance 2750])).room
    (conveys_run hb _) (by decide) (show 1000 * 5500 / 87579 < 64 by decide)
  obtain ⟨hlength, htimes⟩ := hpace deeds 2750 hprompt 5500 (Nat.le_of_eq hnow.symm) hroom
  refine ⟨b, deeds ++ [.advance 2750], hnow, by omega, ?_⟩
  rw [htimes]
  decide +kernel

end Transmission

end RadioData
