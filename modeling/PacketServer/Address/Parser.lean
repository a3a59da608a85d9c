import PacketServer.Address.Basic
import PacketServer.Bytes
import PacketServer.Fault

/-!
# Reading network addresses

Readers take a front part of the text and hand on the rest. Numbers of an
address of the fourth kind have no leading zeros; a port may have them. In an
address of the sixth kind two colons stand for at least one zero group, and
the last two groups may be written as an address of the fourth kind.

`Address.resolve` is what a listener's address given as text means: a
socket's address in its usual form, or else a numeric host and a port around
the last colon. Such a host may be written loosely: as one to four numbers
between dots, decimal, octal or hexadecimal, of which the last one fills all
bytes that the others leave; or as an address of the sixth kind with a zone
and without brackets. Hosts are not looked up by their names.
-/

namespace PacketServer

namespace Address

/-- A reader of a front part of a text. -/
abbrev Reader (α : Type) := List Char → Option (α × List Char)

/-- The value of a digit in the given base. -/
def digit? (base : Nat) (c : Char) : Option Nat :=
  let value :=
    if '0' ≤ c ∧ c ≤ '9' then some (c.toNat - '0'.toNat)
    else if 'a' ≤ c ∧ c ≤ 'z' then some (c.toNat - 'a'.toNat + 10)
    else if 'A' ≤ c ∧ c ≤ 'Z' then some (c.toNat - 'A'.toNat + 10)
    else none
  value.filter (· < base)

/-- The digits at the front of a text. -/
def digits (base : Nat) : List Char → List Nat × List Char
  | [] => ([], [])
  | c :: cs =>
    match digit? base c with
    | some d => let (ds, rest) := digits base cs; (d :: ds, rest)
    | none => ([], c :: cs)

/-- A number below `bound`, written with at least one digit, at most `longest`
of them where a longest form is given, and no needless zero in front unless
`padded`. -/
def number (base bound : Nat) (longest : Option Nat) (padded : Bool) : Reader Nat :=
  fun cs =>
    let (ds, rest) := digits base cs
    let value := ds.foldl (fun n d => n * base + d) 0
    if ds.isEmpty then none
    else if longest.any (· < ds.length) then none
    else if !padded && 1 < ds.length && ds.head? == some 0 then none
    else if bound ≤ value then none
    else some (value, rest)

/-- One given character. -/
def mark (c : Char) : Reader Unit
  | [] => none
  | d :: rest => if d = c then some ((), rest) else none

/-- One of the four numbers of an address of the fourth kind. -/
def octet : Reader UInt8 := fun cs => do
  let (n, rest) ← number 10 256 (some 3) false cs
  return (UInt8.ofNat n, rest)

/-- An address of the fourth kind. -/
def readV4 : Reader Ip := fun cs => do
  let (a, cs) ← octet cs
  let (_, cs) ← mark '.' cs
  let (b, cs) ← octet cs
  let (_, cs) ← mark '.' cs
  let (c, cs) ← octet cs
  let (_, cs) ← mark '.' cs
  let (d, cs) ← octet cs
  return (.v4 a b c d, cs)

/-- Up to `room` groups between colons, the colon before the first one left
out if `first`; whether they end with an address of the fourth kind, and the
rest of the text. -/
def groups : (room : Nat) → (first : Bool) → List Char → List UInt16 × Bool × List Char
  | 0, _, cs => ([], false, cs)
  | room + 1, first, cs =>
    let start : Option (List Char) := if first then some cs else (mark ':' cs).map (·.2)
    let embedded : Option (List UInt16 × List Char) :=
      if room = 0 then none
      else
        match start.bind readV4 with
        | some (.v4 a b c d, rest) =>
          some ([.ofNat (a.toNat * 256 + b.toNat), .ofNat (c.toNat * 256 + d.toNat)], rest)
        | _ => none
    match embedded with
    | some (gs, rest) => (gs, true, rest)
    | none =>
      match start.bind (number 16 65536 (some 4) true) with
      | some (g, rest) =>
        let (gs, dotted, rest) := groups room false rest
        (.ofNat g :: gs, dotted, rest)
      | none => ([], false, cs)

/-- Eight groups as an address. -/
def ofGroups? (gs : List UInt16) : Option Ip :=
  if h : gs.toArray.size = 8 then some (.v6 ⟨gs.toArray, h⟩) else none

/-- An address of the sixth kind. -/
def readV6 : Reader Ip := fun cs => do
  let (head, dotted, rest) := groups 8 true cs
  if head.length = 8 then
    let ip ← ofGroups? head
    return (ip, rest)
  else if dotted then none
  else
    let (_, rest) ← mark ':' rest
    let (_, rest) ← mark ':' rest
    let (tail, _, rest) := groups (7 - head.length) true rest
    let zeros := List.replicate (8 - head.length - tail.length) 0
    let ip ← ofGroups? (head ++ zeros ++ tail)
    return (ip, rest)

/-- What a reader makes of a whole text. -/
def whole {α : Type} (read : Reader α) (s : String) : Option α :=
  match read s.toList with
  | some (value, []) => some value
  | _ => none

/-- A network address. -/
def ip? (s : String) : Option Ip := (whole readV4 s).orElse fun _ => whole readV6 s

/-- The colon and the port behind an address. -/
def readPort : Reader Port := fun cs => do
  let (_, cs) ← mark ':' cs
  let (n, cs) ← number 10 65536 none true cs
  return (.number (.ofNat n), cs)

/-- A socket's address of the fourth kind. -/
def readSocket4 : Reader Address := fun cs => do
  let (ip, cs) ← readV4 cs
  let (port, cs) ← readPort cs
  return (.ofIp ip port, cs)

/-- The zone behind an address of the sixth kind, if one is named. -/
def readZone : Reader UInt32 := fun cs =>
  match mark '%' cs with
  | none => some (0, cs)
  | some (_, cs) => do
    let (n, cs) ← number 10 UInt32.size none true cs
    return (.ofNat n, cs)

/-- A socket's address of the sixth kind. -/
def readSocket6 : Reader Address := fun cs => do
  let (_, cs) ← mark '[' cs
  let (ip, cs) ← readV6 cs
  let (zone, cs) ← readZone cs
  let (_, cs) ← mark ']' cs
  let (port, cs) ← readPort cs
  return ({ ip := ip, port := port, zone := zone }, cs)

/-- A socket's address in its usual form. -/
def parse? (s : String) : Option Address :=
  (whole readSocket4 s).orElse fun _ => whole readSocket6 s

/-- A port on its own, which a plus sign may precede. -/
def port? (s : String) : Option Port :=
  let cs := match s.toList with
    | '+' :: cs => cs
    | cs => cs
  match number 10 65536 none true cs with
  | some (n, []) => some (.number (.ofNat n))
  | _ => none

/-- A number below `2 ^ 32`, hexadecimal behind `0x`, octal behind `0`, and
else decimal. -/
def looseNumber : Reader Nat := fun cs =>
  let bound := UInt32.size
  match cs with
  | '0' :: x :: c :: rest =>
    if (x = 'x' ∨ x = 'X') ∧ (digit? 16 c).isSome then number 16 bound none true (c :: rest)
    else number 8 bound none true cs
  | '0' :: _ => number 8 bound none true cs
  | _ => number 10 bound none true cs

/-- Between one and `room` numbers between dots. -/
def looseNumbers : (room : Nat) → Reader (List Nat)
  | 0, _ => none
  | room + 1, cs => do
    let (n, cs) ← looseNumber cs
    match mark '.' cs with
    | none => return ([n], cs)
    | some (_, cs) =>
      let (ns, cs) ← looseNumbers room cs
      return (n :: ns, cs)

/-- The address of the fourth kind that numbers stand for: a byte each, but
the last one stands for all bytes that are left. -/
def ofNumbers? (ns : List Nat) : Option Ip :=
  let front := ns.dropLast
  let last := Bytes.word (ns.getLast?.getD 0)
  if front.all (· < 256) && (last.take front.length).all (· == 0) then
    match front.map UInt8.ofNat ++ last.drop front.length with
    | [a, b, c, d] => some (.v4 a b c d)
    | _ => none
  else none

/-- A loosely written address of the fourth kind. -/
def looseV4 : Reader Ip := fun cs => do
  let (ns, cs) ← looseNumbers 4 cs
  let ip ← ofNumbers? ns
  return (ip, cs)

/-- The zone of an address that a text means: a number, or for an address that
has a meaning on one link only, the link by which the host reaches itself. -/
def zone? (ip : Ip) (s : String) : Option UInt32 :=
  if ip.isOfOneLink6 && s == "lo" then some 1
  else (whole (number 10 UInt32.size none true) s).map .ofNat

/-- A numeric host: its address and the zone. -/
def host? (s : String) : Option (Ip × UInt32) :=
  let plain := String.ofList (s.toList.takeWhile (· ≠ '%'))
  match whole looseV4 s, whole readV6 plain, s.toList.dropWhile (· ≠ '%') with
  | some ip, _, _ => some (ip, 0)
  | none, some ip, [] => some (ip, 0)
  | none, some ip, _ :: zone => (zone? ip (String.ofList zone)).map fun zone => (ip, zone)
  | none, none, _ => none

/-- The fault of a host that is not numeric. -/
def unknownHost : IoError :=
  ⟨.uncategorized, "failed to lookup address information: Name or service not known"⟩

/-- The fault of a host with a character that ends it early. -/
def cutHost : IoError := ⟨.invalidInput, "file name contained an unexpected NUL byte"⟩

/-- The parts of a text before and behind its last colon. -/
def aroundLastColon (s : String) : Option (String × String) :=
  let behind := s.toList.reverse.takeWhile (· ≠ ':')
  match s.toList.reverse.dropWhile (· ≠ ':') with
  | _ :: before => some (String.ofList before.reverse, String.ofList behind.reverse)
  | [] => none

/-- The socket's address that a text means. -/
def resolve (s : String) : Except IoError Address :=
  match parse? s with
  | some address => .ok address
  | none =>
    match aroundLastColon s with
    | none => .error ⟨.invalidInput, "invalid socket address"⟩
    | some (name, port) =>
      match port? port with
      | none => .error ⟨.invalidInput, "invalid port value"⟩
      | some port =>
        match host? name with
        | some (ip, zone) => .ok { ip := ip, port := port, zone := zone }
        | none => .error (if name.toList.contains '\x00' then cutHost else unknownHost)

end Address

end PacketServer
