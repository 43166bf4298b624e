import RadioData.Proofs.Tuner.Channel
import RadioData.Station
/-!
# Stations on the band

What a `StationTable` says about the list that it was made from. The station on a channel is the
first one of the list that is on it (`at?_ofList`). Seeking finds the first station further on in
the direction of the seek, or the first one of all (`seek?_cases`). From a channel that is the
station that is fewest channels away, counted around the ends of the band (`seek?_nearest`); a
station on the channel where the seek starts is a whole turn away.
-/

namespace RadioData

/-- Whether a direction meets a frequency before another. -/
def Direction.Before : Direction → UInt32 → UInt32 → Prop
  | .up, a, b => a < b
  | .down, a, b => b < a

instance : (d : Direction) → (a b : UInt32) → Decidable (d.Before a b)
  | .up, a, b => inferInstanceAs (Decidable (a < b))
  | .down, a, b => inferInstanceAs (Decidable (b < a))

/-- The channel of a station. -/
def Station.channel (s : Station) : Channel := s.frequency.channel

theorem Station.khz_eq (s : Station) : s.khz = s.channel.khz := s.frequency.khz_eq

namespace StationTable

open Channel (rank away)

/-! ## Looking up -/

/-- Placing a station adds it to what is found, unless its channel is taken. -/
theorem find?_place {s : Station} {l : List Station}
    (h : l.Pairwise fun s t => s.khz < t.khz) (khz : UInt32) :
    (place s l).find? (fun t => t.khz = khz) =
      (l.find? fun t => t.khz = khz).or (if s.khz = khz then some s else none) := by
  induction l with
  | nil => rw [place, List.find?_singleton, List.find?_nil, Option.none_or]; simp
  | cons t ts ih =>
    obtain ⟨hfirst, hrest⟩ := List.pairwise_cons.1 h
    rw [place]
    split
    · next hlt =>
      by_cases hs : s.khz = khz
      · -- all the others are above `s`
        have hnone : (t :: ts).find? (fun t => t.khz = khz) = none := by
          refine List.find?_eq_none.2 fun u hu => ?_
          have hsu : s.khz < u.khz := by
            rcases List.mem_cons.1 hu with rfl | hu
            · exact hlt
            · exact UInt32.lt_trans hlt (hfirst u hu)
          simpa using fun e : u.khz = khz => UInt32.lt_irrefl _ (hs.trans e.symm ▸ hsu)
        rw [hnone, List.find?_cons_of_pos (by simpa using hs), if_pos hs, Option.none_or]
      · rw [List.find?_cons_of_neg (by simpa using hs), if_neg hs, Option.or_none]
    · split
      · next heq =>
        by_cases hs : s.khz = khz
        · rw [List.find?_cons_of_pos (by simpa using heq ▸ hs), Option.some_or]
        · rw [if_neg hs, Option.or_none]
      · by_cases ht : t.khz = khz
        · rw [List.find?_cons_of_pos (by simpa using ht),
            List.find?_cons_of_pos (by simpa using ht), Option.some_or]
        · rw [List.find?_cons_of_neg (by simpa using ht),
            List.find?_cons_of_neg (by simpa using ht), ih hrest]

/-- The station on a channel stays the same, unless there was none. -/
theorem at?_insert (t : StationTable) (s : Station) (khz : UInt32) :
    (t.insert s).at? khz = (t.at? khz).or (if s.khz = khz then some s else none) :=
  find?_place t.rising khz

/-- **The station on a channel is the first one of the list.** -/
theorem at?_ofList (stations : List Station) (khz : UInt32) :
    (ofList stations).at? khz = stations.find? fun s => s.khz = khz := by
  suffices h : ∀ t : StationTable, (stations.foldl insert t).at? khz =
      (t.at? khz).or (stations.find? fun s => s.khz = khz) from h empty
  induction stations with
  | nil => intro t; exact Option.or_none.symm
  | cons s stations ih =>
    intro t
    rw [List.foldl_cons, ih, at?_insert, Option.or_assoc]
    congr 1
    by_cases hs : s.khz = khz
    · rw [if_pos hs, List.find?_cons_of_pos (by simpa using hs), Option.some_or]
    · rw [if_neg hs, List.find?_cons_of_neg (by simpa using hs), Option.none_or]

/-! ## Seeking -/

/-- The stations in the order in which a direction meets them, from the end of the band on. -/
def along (t : StationTable) : Direction → List Station
  | .up => t.stations
  | .down => t.stations.reverse

theorem mem_along {t : StationTable} {d : Direction} {s : Station} :
    s ∈ t.along d ↔ s ∈ t.stations := by
  cases d with
  | up => exact Iff.rfl
  | down => exact List.mem_reverse

/-- The stations stand in that order. -/
theorem pairwise_along (t : StationTable) (d : Direction) :
    (t.along d).Pairwise fun s u => d.Before s.khz u.khz := by
  cases d with
  | up => exact t.rising
  | down => exact List.pairwise_reverse.2 t.rising

/-- A seek takes the first station further on, or else the first one of all. -/
theorem seek?_eq_find? (t : StationTable) (d : Direction) (khz : UInt32) :
    t.seek? d khz = ((t.along d).find? fun s => d.Before khz s.khz).or (t.along d).head? := by
  cases d with
  | up => exact Option.orElse_eq_or
  | down =>
    rw [seek?, ← List.head?_reverse]
    exact Option.orElse_eq_or

/-- Of the elements of a list in order that have a property, the one that is found comes first. -/
theorem eq_or_rel_of_find? {α : Type} {R : α → α → Prop} {p : α → Bool} {l : List α} {x y : α}
    (hl : l.Pairwise R) (hx : l.find? p = some x) (hy : y ∈ l) (hp : p y = true) :
    y = x ∨ R x y := by
  obtain ⟨-, before, after, rfl, hbefore⟩ := List.find?_eq_some_iff_append.1 hx
  rcases List.mem_append.1 hy with hy | hy
  · have := hbefore y hy
    rw [hp] at this
    cases this
  · rcases List.mem_cons.1 hy with rfl | hy
    · exact .inl rfl
    · exact .inr ((List.pairwise_cons.1 (List.pairwise_append.1 hl).2.1).1 y hy)

/-- The station that is found among those with a property is met before the others. -/
theorem first_of_find? {t : StationTable} {d : Direction} {p : Station → Bool} {s : Station}
    (h : (t.along d).find? p = some s) :
    s ∈ t.stations ∧ ∀ u ∈ t.stations, p u = true → u = s ∨ d.Before s.khz u.khz :=
  ⟨mem_along.1 (List.mem_of_find?_eq_some h), fun _ hu hp =>
    eq_or_rel_of_find? (t.pairwise_along d) h (mem_along.2 hu) hp⟩

/-- **What a seek finds**: nothing only if there is no station, or else the first station of those
further on, or of all stations if none is further on. -/
theorem seek?_cases (t : StationTable) (d : Direction) (khz : UInt32) :
    (t.seek? d khz = none ∧ t.stations = []) ∨
      ∃ s ∈ t.stations, t.seek? d khz = some s ∧
        ((d.Before khz s.khz ∧
            ∀ u ∈ t.stations, d.Before khz u.khz → u = s ∨ d.Before s.khz u.khz) ∨
          (∀ u ∈ t.stations, ¬ d.Before khz u.khz) ∧
            ∀ u ∈ t.stations, u = s ∨ d.Before s.khz u.khz) := by
  rw [seek?_eq_find?]
  cases hfind : (t.along d).find? fun s => d.Before khz s.khz with
  | some s =>
    obtain ⟨hs, hfirst⟩ := first_of_find? hfind
    refine .inr ⟨s, hs, rfl, .inl ⟨?_, fun u hu hbehind => hfirst u hu (decide_eq_true hbehind)⟩⟩
    simpa using List.find?_some hfind
  | none =>
    have hnone : ∀ u ∈ t.stations, ¬ d.Before khz u.khz := fun u hu => by
      simpa using List.find?_eq_none.1 hfind u (mem_along.2 hu)
    cases halong : t.along d with
    | nil =>
      refine .inl ⟨rfl, List.eq_nil_iff_forall_not_mem.2 fun u hu => ?_⟩
      exact List.not_mem_nil (halong ▸ mem_along.2 hu : u ∈ [])
    | cons s further =>
      have hfind : (t.along d).find? (fun _ => true) = some s := by rw [halong]; rfl
      obtain ⟨hs, hfirst⟩ := first_of_find? hfind
      exact .inr ⟨s, hs, rfl, .inr ⟨hnone, fun u hu => hfirst u hu rfl⟩⟩

/-! ## The stations of a table -/

/-- A table has every one of its stations at its frequency. -/
theorem at?_of_mem {t : StationTable} {s : Station} (h : s ∈ t.stations) :
    t.at? s.khz = some s := by
  cases hfind : t.at? s.khz with
  | none => simpa using List.find?_eq_none.1 hfind s h
  | some u =>
    have hu : u.khz = s.khz := by simpa using List.find?_some hfind
    rcases eq_or_rel_of_find? t.rising hfind h (decide_eq_true rfl) with rfl | hlt
    · rfl
    · exact absurd (hu ▸ hlt) (UInt32.lt_irrefl _)

theorem mem_of_at? {t : StationTable} {s : Station} {khz : UInt32} (h : t.at? khz = some s) :
    s ∈ t.stations :=
  List.mem_of_find?_eq_some h

/-! ## The nearest station -/

/-- A direction meets the stations in the order of their distances from where it starts. -/
theorem before_khz_iff {d : Direction} {i : Channel} {s : Station} :
    d.Before i.khz s.khz ↔ rank d i < rank d s.channel := by
  rw [s.khz_eq]
  cases d with
  | up => exact Channel.khz_lt_khz
  | down =>
    refine Channel.khz_lt_khz.trans (Fin.lt_def.trans ?_)
    have := i.isLt
    have := s.channel.isLt
    simp only [rank]
    omega

/-- A station further on is nearer than one that is not, and of two that are both further on, or
both not, the one met first is nearer. -/
theorem away_le_away {d : Direction} {i j k : Channel}
    (hon : rank d i < rank d k → rank d i < rank d j ∧ rank d j ≤ rank d k)
    (hback : ¬ rank d i < rank d k → rank d i < rank d j ∨ rank d j ≤ rank d k) :
    away d i j ≤ away d i k := by
  have := Channel.rank_lt d j
  rw [away, away]
  split <;> split <;> omega

/-- **A seek finds the nearest station**, and finds none only if there is none. -/
theorem seek?_nearest (t : StationTable) (d : Direction) (i : Channel) :
    (t.seek? d i.khz = none ∧ t.stations = []) ∨
      ∃ s ∈ t.stations, t.seek? d i.khz = some s ∧
        ∀ u ∈ t.stations, away d i s.channel ≤ away d i u.channel := by
  refine (t.seek?_cases d i.khz).imp_right fun ⟨s, hs, hseek, hplace⟩ => ⟨s, hs, hseek, ?_⟩
  have hle {u : Station} (h : u = s ∨ d.Before s.khz u.khz) :
      rank d s.channel ≤ rank d u.channel := by
    rcases h with rfl | hbefore
    · exact Nat.le_refl _
    · exact Nat.le_of_lt (before_khz_iff.1 (s.khz_eq ▸ hbefore))
  intro u hu
  rcases hplace with ⟨hbehind, hfirst⟩ | ⟨hnone, hfirst⟩
  · have hlt := before_khz_iff.1 hbehind
    exact away_le_away (fun hu' => ⟨hlt, hle (hfirst u hu (before_khz_iff.2 hu'))⟩)
      fun _ => .inl hlt
  · exact away_le_away (fun hu' => absurd (before_khz_iff.2 hu') (hnone u hu))
      fun _ => .inr (hle (hfirst u hu))

end StationTable

end RadioData
