import RadioData.Text
/-!
# Socket addresses

A socket address is an IPv4 or IPv6 address with a port, and for IPv6 a scope. `SocketAddress.text`
writes it: four decimal numbers with dots, or in brackets eight groups of hexadecimal digits with
colons, where the first longest run of two or more zero groups is left out. `SocketAddress.ofText?`
reads it. It takes more forms than are written, such as an IPv4 address in place of the last two
groups, but no needless zeros in decimal numbers, where they once meant octal.
-/

namespace RadioData

/-- An IPv4 address. -/
structure Ipv4 where
  a : UInt8
  b : UInt8
  c : UInt8
  d : UInt8
  deriving DecidableEq, Repr

/-- The address and port of a socket. -/
inductive SocketAddress where
  | v4 (host : Ipv4) (port : UInt16)
  | v6 (groups : Vector UInt16 8) (scope : UInt32) (port : UInt16)
  deriving DecidableEq, Repr

namespace Ipv4

/-- The address as text. -/
def text (h : Ipv4) : String := s!"{h.a}.{h.b}.{h.c}.{h.d}"

/-- The address as two groups of an IPv6 address. -/
def groups (h : Ipv4) : List UInt16 :=
  [(h.a.toUInt16 <<< 8) ||| h.b.toUInt16, (h.c.toUInt16 <<< 8) ||| h.d.toUInt16]

/-- Two groups of an IPv6 address as an address. -/
def ofGroups (high low : UInt16) : Ipv4 :=
  ⟨(high >>> 8).toUInt8, high.toUInt8, (low >>> 8).toUInt8, low.toUInt8⟩

end Ipv4

namespace SocketAddress

/-- The values of the digits at the front of a text, and what follows them. -/
def digits (base : Nat) : List Char → List Nat × List Char
  | [] => ([], [])
  | c :: cs =>
    match (Text.hexValue? c).filter (· < base) with
    | none => ([], c :: cs)
    | some d =>
      let (ds, rest) := digits base cs
      (d :: ds, rest)

/-- The number at the front of a text, if it has an admitted form: some digits, at most `maxDigits`,
and zeros in front of others only if `leadingZeros` says so. -/
def number (base : Nat) (maxDigits : Option Nat) (leadingZeros : Bool) (cs : List Char) :
    Option (Nat × List Char) :=
  let (ds, rest) := digits base cs
  if ds = [] ∨ maxDigits.any (· < ds.length) ∨ (!leadingZeros ∧ ds.head? = some 0 ∧ 1 < ds.length)
  then none
  else some (ds.foldl (fun n d => base * n + d) 0, rest)

/-- What follows a character at the front of a text. -/
def after? (c : Char) : List Char → Option (List Char)
  | [] => none
  | d :: cs => if d = c then some cs else none

/-- A decimal number of at most three digits that fits in a byte. -/
def octet (cs : List Char) : Option (UInt8 × List Char) :=
  match number 10 (some 3) false cs with
  | some (n, rest) => if n ≤ 255 then some (n.toUInt8, rest) else none
  | none => none

/-- The IPv4 address at the front of a text. -/
def ipv4 (cs : List Char) : Option (Ipv4 × List Char) := do
  let (a, cs) ← octet cs
  let (b, cs) ← octet (← after? '.' cs)
  let (c, cs) ← octet (← after? '.' cs)
  let (d, cs) ← octet (← after? '.' cs)
  some (⟨a, b, c, d⟩, cs)

/-- The port at the front of a text, with the colon before it. -/
def port (cs : List Char) : Option (UInt16 × List Char) := do
  let (n, rest) ← number 10 none true (← after? ':' cs)
  if n ≤ 65535 then some (n.toUInt16, rest) else none

/-- The scope at the front of a text, with the percent sign before it; zero if there is none. -/
def scope (cs : List Char) : UInt32 × List Char :=
  match after? '%' cs with
  | none => (0, cs)
  | some inner =>
    match number 10 none true inner with
    | some (n, rest) => if n ≤ 4294967295 then (n.toUInt32, rest) else (0, cs)
    | none => (0, cs)

/-- At most `count` groups at the front of a text, with colons between them, and what follows. An
IPv4 address may stand for two groups; it is the last thing that is read, and the flag says that it
was. -/
def groupsAt : Nat → Bool → List Char → List UInt16 × Bool × List Char
  | 0, _, cs => ([], false, cs)
  | count + 1, first, cs =>
    match if first then some cs else after? ':' cs with
    | none => ([], false, cs)
    | some inner =>
      match if count = 0 then none else ipv4 inner with
      | some (host, rest) => (host.groups, true, rest)
      | none =>
        match number 16 (some 4) true inner with
        | none => ([], false, cs)
        | some (n, rest) =>
          let (gs, embedded, rest) := groupsAt count false rest
          (n.toUInt16 :: gs, embedded, rest)

/-- Eight groups. -/
def groups? (gs : List UInt16) : Option (Vector UInt16 8) :=
  if h : gs.length = 8 then some ⟨gs.toArray, by simpa using h⟩ else none

/-- The IPv6 address at the front of a text. Two colons stand for the zero groups that are missing,
one at least; an IPv4 address may only come after them. -/
def ipv6 (cs : List Char) : Option (Vector UInt16 8 × List Char) :=
  let (head, embedded, rest) := groupsAt 8 true cs
  if head.length = 8 then (groups? head).map (·, rest)
  else if embedded then none
  else do
    let rest ← after? ':' (← after? ':' rest)
    let (tail, _, rest) := groupsAt (7 - head.length) true rest
    let gs ← groups? (head ++ List.replicate (8 - head.length - tail.length) 0 ++ tail)
    some (gs, rest)

/-- The IPv4 address and port at the front of a text. -/
def socketV4 (cs : List Char) : Option (SocketAddress × List Char) := do
  let (host, cs) ← ipv4 cs
  let (p, cs) ← port cs
  some (.v4 host p, cs)

/-- The IPv6 address in brackets and the port at the front of a text. -/
def socketV6 (cs : List Char) : Option (SocketAddress × List Char) := do
  let (gs, cs) ← ipv6 (← after? '[' cs)
  let (s, cs) := scope cs
  let (p, cs) ← port (← after? ']' cs)
  some (.v6 gs s p, cs)

/-- Reads an address. -/
def ofText? (s : String) : Option SocketAddress :=
  match socketV4 s.toList <|> socketV6 s.toList with
  | some (address, []) => some address
  | _ => none

/-- A group in hexadecimal digits. -/
def groupChars (g : UInt16) : List Char := Text.hexDigits g.toNat

/-- Groups with colons between them. -/
def joined (gs : List UInt16) : List Char :=
  List.intercalate [':'] (gs.map groupChars)

/-- The first longest run of zero groups, as its start and its length. -/
def longestZeros (gs : List UInt16) : Nat × Nat :=
  let starts := (List.range gs.length).map fun i => (i, ((gs.drop i).takeWhile (· == 0)).length)
  starts.foldl (fun best run => if best.2 < run.2 then run else best) (0, 0)

/-- An IPv6 address as text. One that stands for an IPv4 address ends in that. -/
def groupsText (gs : List UInt16) : List Char :=
  match gs with
  | [0, 0, 0, 0, 0, 0xFFFF, high, low] => "::ffff:".toList ++ (Ipv4.ofGroups high low).text.toList
  | gs =>
    let (start, length) := longestZeros gs
    if 1 < length then joined (gs.take start) ++ [':', ':'] ++ joined (gs.drop (start + length))
    else joined gs

/-- The address as text. -/
def text : SocketAddress → String
  | .v4 host p => s!"{host.text}:{p}"
  | .v6 gs 0 p => s!"[{String.ofList (groupsText gs.toList)}]:{p}"
  | .v6 gs s p => s!"[{String.ofList (groupsText gs.toList)}%{s}]:{p}"

/-- Whether the address is an IPv4 address. -/
def isV4 : SocketAddress → Bool
  | .v4 .. => true
  | .v6 .. => false

end SocketAddress

end RadioData
