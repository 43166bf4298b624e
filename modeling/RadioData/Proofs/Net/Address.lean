import Mathlib.Algebra.Group.Nat.Defs
import Mathlib.Data.List.TakeWhile
import RadioData.Net.Address
import RadioData.Proofs.Block.Parts
import RadioData.Proofs.Text.Numeral
/-!
# Addresses are read as they were written

`SocketAddress.ofText?_text` is the main statement: every address, IPv4 or IPv6, with any port and
any scope, is read from its text. Readers take digits, groups and separators from the front of a
text, so each part has a lemma that says what it takes, given that what follows does not go on with
it: a number ends where no digit follows (`number_toDigits`), groups end where no further group
follows (`groupsAt_joined`). A group is never taken for the beginning of an IPv4 address, since
there is no dot behind its digits (`ipv4_eq_none`); and what two colons stand for is a run of zeros,
so they are read as what was left out (`zeros_longestZeros`).
-/

namespace RadioData.SocketAddress

open Text

/-! ## Numbers -/

variable {b : Nat}

/-- No digit of the base stands at the front of a text. -/
def NoDigit (b : Nat) (cs : List Char) : Prop :=
  ∀ c, cs.head? = some c → (hexValue? c).filter (· < b) = none

theorem digits_of_noDigit {cs : List Char} (h : NoDigit b cs) : digits b cs = ([], cs) := by
  cases cs with
  | nil => rfl
  | cons c cs => rw [digits, h c rfl]

/-- Digits are read up to the first character that is none. -/
theorem digits_append (hb : b ≤ 16) {ds : List Nat} (hds : ∀ d ∈ ds, d < b) {rest : List Char}
    (hrest : NoDigit b rest) : digits b (ds.map Nat.digitChar ++ rest) = (ds, rest) := by
  induction ds with
  | nil => exact digits_of_noDigit hrest
  | cons d ds ih =>
    obtain ⟨hd, hds⟩ := List.forall_mem_cons.1 hds
    have hvalue : (hexValue? d.digitChar).filter (· < b) = some d := by
      rw [hexValue?_digitChar (by omega)]
      simpa using hd
    rw [List.map_cons, List.cons_append, digits, hvalue, ih hds]

/-- **A number is read as it was written**, if there are not too many digits. -/
theorem number_toDigits (hb : 1 < b) (hb' : b ≤ 16) (n : Nat) (maxDigits : Option Nat)
    (hmax : ∀ m, maxDigits = some m → 0 < m ∧ n < b ^ m) (leadingZeros : Bool)
    {rest : List Char} (hrest : NoDigit b rest) :
    number b maxDigits leadingZeros (Nat.toDigits b n ++ rest) = some (n, rest) := by
  obtain ⟨ds, hds, hlt, hvalue, hzero⟩ := exists_digits hb n
  have hlength : (Nat.toDigits b n).length = ds.length := by rw [hds, List.length_map]
  have hne : ds ≠ [] := by
    rintro rfl
    exact Nat.toDigits_ne_nil hds
  have hfits : maxDigits.any (· < ds.length) = false := by
    cases maxDigits with
    | none => rfl
    | some m =>
      obtain ⟨hm, hn⟩ := hmax m rfl
      have hle := (Nat.length_toDigits_le_iff hb hm).2 hn
      simpa using hlength ▸ hle
  have hplain : ¬(ds.head? = some 0 ∧ 1 < ds.length) := by
    rintro ⟨hhead, hlong⟩
    obtain rfl := hzero hhead
    rw [← hlength, Nat.toDigits_zero] at hlong
    exact absurd hlong (by decide)
  rw [number, hds, digits_append hb' hlt hrest]
  simp only [hne, hfits, hplain, hvalue]
  simp

/-! ## IPv4 addresses, ports and scopes -/

theorem noDigit_nil : NoDigit b [] := by
  rintro c ⟨⟩

/-- A character that is no digit in base sixteen is none in any base. -/
theorem noDigit_cons {c : Char} (hc : hexValue? c = none) (cs : List Char) :
    NoDigit b (c :: cs) := by
  rintro d ⟨⟩
  rw [hc]
  rfl

/-- A byte is read from its digits. -/
theorem octet_toDigits (x : UInt8) {rest : List Char} (hrest : NoDigit 10 rest) :
    octet (Nat.toDigits 10 x.toNat ++ rest) = some (x, rest) := by
  have hx : x.toNat < 256 := x.toNat_lt
  have hnumber := number_toDigits (by decide) (by decide) x.toNat (some 3)
    (by rintro m ⟨⟩; omega) false hrest
  rw [octet, hnumber]
  dsimp only
  rw [if_pos (by omega)]
  simp

theorem chars_host (h : Ipv4) :
    h.text.toList = Nat.toDigits 10 h.a.toNat ++ '.' :: (Nat.toDigits 10 h.b.toNat ++
      '.' :: (Nat.toDigits 10 h.c.toNat ++ '.' :: Nat.toDigits 10 h.d.toNat)) := by
  have htext : h.text = toString h.a.toNat ++ "." ++ toString h.b.toNat ++ "." ++
      toString h.c.toNat ++ "." ++ toString h.d.toNat := rfl
  have hdot : ".".toList = ['.'] := rfl
  simp only [htext, String.toList_append, toList_toString, hdot, List.append_assoc,
    List.cons_append, List.nil_append]

/-- **An IPv4 address is read as it was written.** -/
theorem ipv4_chars (h : Ipv4) {rest : List Char} (hrest : NoDigit 10 rest) :
    ipv4 (h.text.toList ++ rest) = some (h, rest) := by
  have hdot (x : UInt8) (cs : List Char) :
      octet (Nat.toDigits 10 x.toNat ++ '.' :: cs) = some (x, '.' :: cs) :=
    octet_toDigits x (noDigit_cons rfl cs)
  have hafter (cs : List Char) : after? '.' ('.' :: cs) = some cs := rfl
  simp only [ipv4, chars_host, List.append_assoc, List.cons_append, Option.bind_eq_bind, hdot,
    hafter, octet_toDigits h.d hrest, Option.bind_some]

/-- A port is read as it was written. -/
theorem port_chars (p : UInt16) : port (':' :: Nat.toDigits 10 p.toNat) = some (p, []) := by
  have hp : p.toNat < 65536 := p.toNat_lt
  have hnumber := number_toDigits (b := 10) (by decide) (by decide) p.toNat none nofun true
    noDigit_nil
  rw [List.append_nil] at hnumber
  simp only [port, after?, Option.bind_eq_bind, Option.bind_some, if_true, hnumber]
  rw [if_pos (by omega)]
  simp

/-- A scope is read as it was written. -/
theorem scope_chars (s : UInt32) {rest : List Char} (hrest : NoDigit 10 rest) :
    scope ('%' :: (Nat.toDigits 10 s.toNat ++ rest)) = (s, rest) := by
  have hs : s.toNat < 4294967296 := s.toNat_lt
  have hnumber := number_toDigits (by decide) (by decide) s.toNat none nofun true hrest
  simp only [scope, after?, if_true, hnumber]
  rw [if_pos (by omega)]
  simp

/-! ## Groups -/

/-- No group stands at the front of a text, nor what would make an IPv4 address of one before. -/
structure NoGroup (cs : List Char) : Prop where
  noDigit : NoDigit 16 cs
  noDot : cs.head? ≠ some '.'

/-- What does not go on with the groups before it, not even with a colon. -/
structure Behind (rest : List Char) : Prop where
  ends : NoGroup rest
  noNext : ∀ cs, after? ':' rest = some cs → NoGroup cs

/-- A character that is neither a digit nor a dot is no part of a group. -/
theorem noGroup_cons {c : Char} (hc : hexValue? c = none) (hdot : c ≠ '.') (cs : List Char) :
    NoGroup (c :: cs) :=
  ⟨noDigit_cons hc cs, by simpa using hdot⟩

/-- Where the digits at the front of a text are not followed by a dot, no IPv4 address begins. -/
theorem ipv4_eq_none {cs : List Char} (h : (digits 10 cs).2.head? ≠ some '.') :
    ipv4 cs = none := by
  have hafter : after? '.' (digits 10 cs).2 = none := by
    cases hcs : (digits 10 cs).2 with
    | nil => rfl
    | cons c cs =>
      rw [hcs] at h
      rw [after?, if_neg (by rintro rfl; exact h rfl)]
  rcases hoctet : octet cs with _ | ⟨x, rest⟩
  · simp [ipv4, hoctet]
  · have hrest : rest = (digits 10 cs).2 := by
      rw [octet, number] at hoctet
      split at hoctet <;> simp_all
    simp [ipv4, hoctet, hrest, hafter]

theorem NoDigit.ten {cs : List Char} (h : NoDigit 16 cs) : NoDigit 10 cs := by
  intro c hc
  have hnone := h c hc
  rw [Option.filter_eq_none_iff] at hnone ⊢
  intro d hd hlt
  have hlt : d < 10 := by simpa using hlt
  exact hnone d hd (by simpa using by omega)

/-- Behind digits in base sixteen there is no dot. -/
theorem head?_digits_ne_dot {ds : List Nat} (hds : ∀ d ∈ ds, d < 16) {rest : List Char}
    (hrest : NoGroup rest) : (digits 10 (ds.map Nat.digitChar ++ rest)).2.head? ≠ some '.' := by
  induction ds with
  | nil =>
    rw [List.map_nil, List.nil_append, digits_of_noDigit hrest.noDigit.ten]
    exact hrest.noDot
  | cons d ds ih =>
    obtain ⟨hd, hds⟩ := List.forall_mem_cons.1 hds
    rw [List.map_cons, List.cons_append, digits]
    split
    · -- the digit is none in base ten, but still no dot
      intro hdot
      have hvalue := hexValue?_digitChar hd
      rw [Option.some.inj hdot] at hvalue
      cases hvalue
    · exact ih hds

/-- Where no group stands none is read. -/
theorem NoGroup.ipv4 {cs : List Char} (h : NoGroup cs) : ipv4 cs = none :=
  ipv4_eq_none (by rw [digits_of_noDigit h.noDigit.ten]; exact h.noDot)

theorem NoGroup.number {cs : List Char} (h : NoGroup cs) : number 16 (some 4) true cs = none := by
  rw [SocketAddress.number, digits_of_noDigit h.noDigit]
  rfl

/-- Where no group stands there are no groups. -/
theorem NoGroup.groupsAt {cs : List Char} (h : NoGroup cs) (count : Nat) :
    groupsAt count true cs = ([], false, cs) := by
  cases count with
  | zero => rfl
  | succ count => simp [SocketAddress.groupsAt, h.ipv4, h.number]

/-- Behind groups no further group is read. -/
theorem Behind.groupsAt {rest : List Char} (h : Behind rest) (count : Nat) :
    groupsAt count false rest = ([], false, rest) := by
  cases count with
  | zero => rfl
  | succ count =>
    cases hrest : after? ':' rest with
    | none => simp [SocketAddress.groupsAt, hrest]
    | some cs =>
      have hcs := h.noNext cs hrest
      simp [SocketAddress.groupsAt, hrest, hcs.ipv4, hcs.number]

/-- A group is read as it was written. -/
theorem groupsAt_group (count : Nat) (first : Bool) (g : UInt16) {cs more : List Char}
    (hcs : (if first then some cs else after? ':' cs) = some (groupChars g ++ more))
    (hmore : NoGroup more) :
    groupsAt (count + 1) first cs =
      (g :: (groupsAt count false more).1, (groupsAt count false more).2) := by
  have hg : g.toNat < 65536 := g.toNat_lt
  have hnumber := number_toDigits (by decide) (by decide) g.toNat (some 4)
    (by rintro m ⟨⟩; omega) true hmore.noDigit
  obtain ⟨ds, hds, hlt, -, -⟩ := exists_digits (b := 16) (by decide) g.toNat
  have hipv4 : ipv4 (groupChars g ++ more) = none := by
    rw [groupChars, hexDigits, hds]
    exact ipv4_eq_none (head?_digits_ne_dot hlt hmore)
  rw [groupsAt, hcs]
  simp only [hipv4, ite_self]
  rw [groupChars, hexDigits, hnumber]
  simp

/-- Groups, each with a colon in front. -/
def furtherChars (gs : List UInt16) : List Char := gs.flatMap fun g => ':' :: groupChars g

theorem joined_cons (g : UInt16) (gs : List UInt16) :
    joined (g :: gs) = groupChars g ++ furtherChars gs := by
  induction gs generalizing g with
  | nil => simp [joined, furtherChars]
  | cons g' gs ih =>
    have hnext : joined (g :: g' :: gs) = groupChars g ++ ':' :: joined (g' :: gs) := by
      simp [joined]
    rw [hnext, ih]
    simp [furtherChars]

theorem noGroup_further (gs : List UInt16) {rest : List Char} (hrest : Behind rest) :
    NoGroup (furtherChars gs ++ rest) := by
  cases gs with
  | nil => exact hrest.ends
  | cons g gs => exact noGroup_cons rfl (by decide) _

/-- **Groups are read as they were written**, up to what does not go on with them. -/
theorem groupsAt_further {count : Nat} {gs : List UInt16} (hcount : gs.length ≤ count)
    {rest : List Char} (hrest : Behind rest) :
    groupsAt count false (furtherChars gs ++ rest) = (gs, false, rest) := by
  induction gs generalizing count with
  | nil => exact hrest.groupsAt count
  | cons g gs ih =>
    obtain ⟨count, rfl⟩ : ∃ n, count = n + 1 := Nat.exists_eq_add_one.2 (by simp at hcount; omega)
    have hcs : after? ':' (furtherChars (g :: gs) ++ rest) =
        some (groupChars g ++ (furtherChars gs ++ rest)) := by
      simp [furtherChars, after?]
    rw [groupsAt_group count false g ((if_neg Bool.false_ne_true).trans hcs)
        (noGroup_further gs hrest), ih (by simpa using hcount)]

theorem groupsAt_joined {count : Nat} {gs : List UInt16} (hcount : gs.length ≤ count)
    {rest : List Char} (hrest : Behind rest) :
    groupsAt count true (joined gs ++ rest) = (gs, false, rest) := by
  cases gs with
  | nil => exact hrest.ends.groupsAt count
  | cons g gs =>
    obtain ⟨count, rfl⟩ : ∃ n, count = n + 1 := Nat.exists_eq_add_one.2 (by simp at hcount; omega)
    have hcs : joined (g :: gs) ++ rest = groupChars g ++ (furtherChars gs ++ rest) := by
      rw [joined_cons, List.append_assoc]
    rw [hcs, groupsAt_group count true g rfl (noGroup_further gs hrest),
      groupsAt_further (by simpa using hcount) hrest]

/-! ## IPv6 addresses -/

/-- The longest of some runs is one of them. -/
theorem foldl_longest_mem (runs : List (Nat × Nat)) (best : Nat × Nat) :
    runs.foldl (fun best run => if best.2 < run.2 then run else best) best = best ∨
      runs.foldl (fun best run => if best.2 < run.2 then run else best) best ∈ runs := by
  induction runs generalizing best with
  | nil => exact .inl rfl
  | cons run runs ih =>
    rw [List.foldl_cons]
    rcases ih (if best.2 < run.2 then run else best) with h | h
    · rw [h]
      split
      · exact .inr List.mem_cons_self
      · exact .inl rfl
    · exact .inr (List.mem_cons_of_mem _ h)

/-- What is left out is a run of zeros. -/
theorem zeros_longestZeros {gs : List UInt16} {start length : Nat}
    (h : longestZeros gs = (start, length)) (hlength : 1 < length) :
    gs.take start ++ List.replicate length 0 ++ gs.drop (start + length) = gs := by
  have hrun : length = ((gs.drop start).takeWhile (· == 0)).length := by
    rw [longestZeros] at h
    rcases foldl_longest_mem _ _ with hzero | hmem
    · rw [hzero] at h
      cases h
      exact absurd hlength (by decide)
    · rw [h] at hmem
      obtain ⟨i, -, hi⟩ := List.mem_map.1 hmem
      cases hi
      rfl
  have hzeros : (gs.drop start).takeWhile (· == 0) = List.replicate length 0 :=
    List.eq_replicate_iff.2 ⟨hrun.symm, fun g hg => by simpa using List.mem_takeWhile_imp hg⟩
  have hsplit : gs.drop start = List.replicate length 0 ++ (gs.drop start).dropWhile (· == 0) := by
    rw [← hzeros, List.takeWhile_append_dropWhile]
  have hdrop : gs.drop (start + length) = (gs.drop start).dropWhile (· == 0) := by
    rw [← List.drop_drop]
    conv => lhs; rw [hsplit]
    exact List.drop_left' List.length_replicate
  rw [List.append_assoc, hdrop, ← hsplit, List.take_append_drop]

/-- How groups are written. -/
theorem groupsText_cases (gs : List UInt16) :
    (∃ high low, gs = [0, 0, 0, 0, 0, 0xFFFF, high, low] ∧
      groupsText gs = "::ffff:".toList ++ (Ipv4.ofGroups high low).text.toList) ∨
    (∃ start length, longestZeros gs = (start, length) ∧ 1 < length ∧
      groupsText gs =
        joined (gs.take start) ++ ':' :: ':' :: joined (gs.drop (start + length))) ∨
    groupsText gs = joined gs := by
  unfold groupsText
  split
  · exact .inl ⟨_, _, rfl, rfl⟩
  · rcases hrun : longestZeros gs with ⟨start, length⟩
    dsimp only
    split_ifs with hlength
    · exact .inr (.inl ⟨start, length, rfl, hlength, List.append_assoc ..⟩)
    · exact .inr (.inr rfl)

theorem groups?_toList (gs : Vector UInt16 8) : groups? gs.toList = some gs := by
  rw [groups?, dif_pos (by simp)]
  simp [Vector.toList]

theorem groups_ofGroups (high low : UInt16) : (Ipv4.ofGroups high low).groups = [high, low] := by
  have hword (w : UInt16) : ((w >>> 8).toUInt8.toUInt16 <<< 8) ||| w.toUInt8.toUInt16 = w :=
    (UInt16.or_comm ..).trans (Block.payload_ofParts w .a .clean)
  simp only [Ipv4.groups, Ipv4.ofGroups, hword]

theorem behind_colons (cs : List Char) : Behind (':' :: ':' :: cs) :=
  ⟨noGroup_cons rfl (by decide) _, by rintro _ ⟨⟩; exact noGroup_cons rfl (by decide) cs⟩

/-- Where there are two colons, the groups before them and behind them are read, and zeros are put
in between. -/
theorem ipv6_colons (head : List UInt16) {tail : List UInt16} {embedded : Bool}
    {cs rest : List Char} (hhead : head.length < 8)
    (htail : groupsAt (7 - head.length) true cs = (tail, embedded, rest)) :
    ipv6 (joined head ++ ':' :: ':' :: cs) =
      (groups? (head ++ List.replicate (8 - head.length - tail.length) 0 ++ tail)).map
        (·, rest) := by
  have hread := groupsAt_joined (Nat.le_of_lt hhead) (behind_colons cs)
  simp only [ipv6, hread, Nat.ne_of_lt hhead, if_false, Bool.false_eq_true, after?, if_true, htail,
    Option.bind_eq_bind, Option.bind_some]
  cases groups? (head ++ List.replicate (8 - head.length - tail.length) 0 ++ tail) <;> rfl

/-- An IPv4 address is read in place of two groups. -/
theorem groupsAt_host {count : Nat} (hcount : count ≠ 0) (h : Ipv4) {rest : List Char}
    (hrest : NoDigit 10 rest) :
    groupsAt (count + 1) false (':' :: (h.text.toList ++ rest)) = (h.groups, true, rest) := by
  simp [groupsAt, after?, hcount, ipv4_chars h hrest]

/-- An IPv4 address behind the prefix that marks it is read as the groups that it stands for. -/
theorem ipv6_mapped (high low : UInt16) {rest : List Char} (hrest : Behind rest) :
    ipv6 ("::ffff:".toList ++ ((Ipv4.ofGroups high low).text.toList ++ rest)) =
      (groups? [0, 0, 0, 0, 0, 0xFFFF, high, low]).map (·, rest) := by
  let host := Ipv4.ofGroups high low
  have hhost :
      groupsAt 6 false (':' :: (host.text.toList ++ rest)) = ([high, low], true, rest) := by
    rw [groupsAt_host (by decide) host hrest.ends.noDigit.ten, groups_ofGroups]
  have htail : groupsAt 7 true (groupChars 0xFFFF ++ ':' :: (host.text.toList ++ rest)) =
      ([0xFFFF, high, low], true, rest) := by
    rw [groupsAt_group 6 true 0xFFFF rfl (noGroup_cons rfl (by decide) _), hhost]
  have hchars : "::ffff:".toList = ':' :: ':' :: (groupChars 0xFFFF ++ [':']) := by decide
  rw [hchars, List.cons_append, List.cons_append, List.append_assoc, List.singleton_append]
  exact ipv6_colons [] (by decide) htail

/-- A run of zeros that was left out is put in again. -/
theorem ipv6_compressed {gs : List UInt16} (hgs : gs.length = 8) {start length : Nat}
    (hrun : longestZeros gs = (start, length)) (hlong : 1 < length) {rest : List Char}
    (hrest : Behind rest) :
    ipv6 (joined (gs.take start) ++ ':' :: ':' :: (joined (gs.drop (start + length)) ++ rest)) =
      (groups? gs).map (·, rest) := by
  have hzeros := zeros_longestZeros hrun hlong
  have hsum : start + length ≤ 8 := by
    have hall := congrArg List.length hzeros
    simp only [List.length_append, List.length_take, List.length_replicate, List.length_drop,
      hgs] at hall
    omega
  have htail : groupsAt (7 - (gs.take start).length) true
      (joined (gs.drop (start + length)) ++ rest) = (gs.drop (start + length), false, rest) :=
    groupsAt_joined (by simp; omega) hrest
  have hcount : 8 - (gs.take start).length - (gs.drop (start + length)).length = length := by
    simp
    omega
  rw [ipv6_colons _ (by simp; omega) htail, hcount, hzeros]

/-- **An IPv6 address is read as it was written.** -/
theorem ipv6_groupsText (gs : Vector UInt16 8) {rest : List Char} (hrest : Behind rest) :
    ipv6 (groupsText gs.toList ++ rest) = some (gs, rest) := by
  have hlength : gs.toList.length = 8 := by simp
  obtain ⟨high, low, hgs, htext⟩ | ⟨start, length, hrun, hlong, htext⟩ | htext :=
    groupsText_cases gs.toList
  · rw [htext, List.append_assoc, ipv6_mapped high low hrest, ← hgs, groups?_toList]
    rfl
  · rw [htext, List.append_assoc, List.cons_append, List.cons_append,
      ipv6_compressed hlength hrun hlong hrest, groups?_toList]
    rfl
  · have hread := groupsAt_joined (Nat.le_of_eq hlength) hrest
    simp only [ipv6, htext, hread, hlength, if_true, groups?_toList, Option.map_some]

/-! ## Socket addresses -/

/-- A scope with the percent sign before it, unless it is zero. -/
def scopeChars (s : UInt32) : List Char := if s = 0 then [] else '%' :: Nat.toDigits 10 s.toNat

theorem chars_v4 (h : Ipv4) (p : UInt16) :
    (text (.v4 h p)).toList = h.text.toList ++ ':' :: Nat.toDigits 10 p.toNat := by
  have htext : text (.v4 h p) = h.text ++ ":" ++ toString p.toNat := rfl
  rw [htext, String.toList_append, String.toList_append, toList_toString, List.append_assoc]
  rfl

theorem chars_v6 (gs : Vector UInt16 8) (s : UInt32) (p : UInt16) :
    (text (.v6 gs s p)).toList =
      '[' :: (groupsText gs.toList ++ (scopeChars s ++ ']' :: ':' :: Nat.toDigits 10 p.toNat)) := by
  by_cases hs : s = 0
  · subst hs
    have htext : text (.v6 gs 0 p) =
        "[" ++ String.ofList (groupsText gs.toList) ++ "]:" ++ toString p.toNat := rfl
    simp only [htext, String.toList_append, String.toList_ofList, toList_toString, scopeChars]
    simp
  · have htext : text (.v6 gs s p) =
        "[" ++ String.ofList (groupsText gs.toList) ++ "%" ++ toString s.toNat ++ "]:" ++
          toString p.toNat := by
      unfold text
      split
      next e => cases e
      next e => cases e; exact absurd rfl hs
      next e => cases e; rfl
    simp only [htext, String.toList_append, String.toList_ofList, toList_toString, scopeChars, hs]
    simp

/-- A character that is neither a digit nor a dot nor a colon does not go on with groups. -/
theorem behind_cons {c : Char} (hc : hexValue? c = none) (hdot : c ≠ '.') (hcolon : c ≠ ':')
    (cs : List Char) : Behind (c :: cs) := by
  refine ⟨noGroup_cons hc hdot cs, fun rest hrest => ?_⟩
  rw [after?, if_neg hcolon] at hrest
  cases hrest

/-- **Every address is read as it was written.** -/
theorem ofText?_text (a : SocketAddress) : ofText? a.text = some a := by
  cases a with
  | v4 h p =>
    have hipv4 := ipv4_chars h (noDigit_cons (b := 10) (c := ':') rfl (Nat.toDigits 10 p.toNat))
    have hread : socketV4 (text (.v4 h p)).toList = some (.v4 h p, []) := by
      simp only [chars_v4, socketV4, hipv4, port_chars, Option.bind_eq_bind, Option.bind_some]
    rw [ofText?, hread]
    rfl
  | v6 gs s p =>
    have hv4 : socketV4 (text (.v6 gs s p)).toList = none := by
      have hbracket := (noGroup_cons (c := '[') rfl (by decide) (groupsText gs.toList ++
        (scopeChars s ++ ']' :: ':' :: Nat.toDigits 10 p.toNat))).ipv4
      rw [chars_v6, socketV4, hbracket]
      rfl
    have hbehind : Behind (scopeChars s ++ ']' :: ':' :: Nat.toDigits 10 p.toNat) := by
      rw [scopeChars]
      split
      · exact behind_cons rfl (by decide) (by decide) _
      · exact behind_cons rfl (by decide) (by decide) _
    have hscope : scope (scopeChars s ++ ']' :: ':' :: Nat.toDigits 10 p.toNat) =
        (s, ']' :: ':' :: Nat.toDigits 10 p.toNat) := by
      rw [scopeChars]
      split
      · simp_all [scope, after?]
      · exact scope_chars s (noDigit_cons rfl _)
    have hread : socketV6 (text (.v6 gs s p)).toList = some (.v6 gs s p, []) := by
      simp only [chars_v6, socketV6, after?, if_true, Option.bind_eq_bind, Option.bind_some,
        ipv6_groupsText gs hbehind, hscope, port_chars]
    rw [ofText?, hv4, hread]
    rfl

end RadioData.SocketAddress
