import Mustache.Text.Charset.Japanese
import Mustache.Text.Charset.Pages

/-!
# Charsets that switch between sets

Some charsets stay within seven bits. The same bytes stand for characters of different sets, and
marks between them say which set is meant from there on.

* In HZ, a tilde and a brace switch between ASCII and GB 2312.
* In the others, an escape sequence assigns a set to one of three slots. The first slot is in use,
  unless the control character for shifting has put the second one in its place. The third slot
  serves for single characters.

## Main definitions

* `Mustache.Text.Hz.encode`, `Mustache.Text.Hz.decode` — HZ.
* `Mustache.Text.Repertory` — a charset with escape sequences, by the sets that it may assign.
* `Mustache.Text.Repertory.encode`, `Mustache.Text.Repertory.decode` — writing and reading.
-/

namespace Mustache.Text

/-! ## HZ -/

namespace Hz

/-- The byte of the tilde. -/
def tilde : Nat := 0x7E

/-- The mark that puts GB 2312 in use. -/
def opening : List Nat := [tilde, 0x7B]

/-- The mark that puts ASCII in use. -/
def closing : List Nat := [tilde, 0x7D]

/-- The bytes of a character of GB 2312. -/
def cellBytes? (c : Char) : Option (List Nat) := (Grid.gb2312.cell? c).map Layout.low.bytes

/-- The room into which bytes are written. -/
structure Room where
  capacity : Nat
  used : Nat

namespace Room

/-- The room for a text at the beginning: two bytes for a character, and some more. -/
def forText (size : Nat) : Room := ⟨size * 2 + 16, 0⟩

/-- The room, larger by a half, or by what is needed if that is more. -/
def grow (r : Room) (need : Nat) : Room :=
  { r with capacity := r.capacity + if need < r.capacity / 2 then (r.capacity / 2) ||| 1 else need }

/-- The room with so many bytes more in it. -/
def put (r : Room) (count : Nat) : Room :=
  let r := if r.used + count ≤ r.capacity then r else r.grow count
  { r with used := r.used + count }

/-- Whether nothing is left. -/
def isFull (r : Room) : Bool := r.used == r.capacity

end Room

/-- The bytes of a text, with substitutes for the characters that do not fit. The flag tells
whether GB 2312 is in use. A tilde is doubled, unless it fills the room. -/
def write (substitute : Char → List Char) (wide : Bool) (room : Room) : List Char → List Nat
  | [] => if wide then closing else []
  | c :: cs =>
    let mark := if wide then closing else []
    if c.toNat < 128 then
      let room := (room.put mark.length).put 1
      if c == '~' then
        if room.isFull then mark ++ tilde :: write substitute false (room.grow 0) cs
        else mark ++ [tilde, tilde] ++ write substitute false (room.put 1) cs
      else mark ++ c.toNat :: write substitute false room cs
    else
      match cellBytes? c with
      | some bs =>
        let bs := (if wide then [] else opening) ++ bs
        bs ++ write substitute true (room.put bs.length) cs
      | none =>
        let bs := mark ++ (substitute c).map Char.toNat
        bs ++ write substitute false (room.put bs.length) cs

/-- The bytes of a text, with substitutes in ASCII for the characters that do not fit. -/
def encode (substitute : Char → List Char) (text : List Char) : List Nat :=
  write substitute false (.forText text.length) text

/-- Reads bytes from their front for as long as `fuel` lasts. The flag tells whether GB 2312 is
in use. A tilde before the end of a line joins the line with the next. -/
def read (wide : Bool) : (fuel : Nat) → List Nat → Option (List Char)
  | _, [] => some []
  | 0, _ => none
  | fuel + 1, a :: rest =>
    if a == tilde then
      match wide, rest with
      | false, 0x7E :: rest => (read false fuel rest).map ('~' :: ·)
      | false, 0x7B :: rest => read true fuel rest
      | false, 0x0A :: rest => read false fuel rest
      | true, 0x7D :: rest => read false fuel rest
      | _, _ => none
    else if a ≥ 128 then none
    else
      match wide, rest with
      | false, _ => (read false fuel rest).map (Char.ofNat a :: ·)
      | true, b :: rest =>
        ((Layout.low.cell? a b).bind Grid.gb2312.char?).bind fun c =>
          (read true fuel rest).map (c :: ·)
      | true, [] => none

/-- The text that bytes stand for. -/
def decode (bs : List Nat) : Option (List Char) := read false bs.length bs

end Hz

/-! ## Sets that are assigned to slots -/

/-- The places for a set. -/
inductive Slot where
  | first | second | third
  deriving DecidableEq, Repr, Inhabited

/-- The name of a set in escape sequences: its last byte, and whether its characters take two
bytes. -/
structure SetName where
  final : Nat
  double : Bool
  deriving DecidableEq, Repr, Inhabited

/-- A set that can be assigned to a slot. -/
structure Assignable where
  name : SetName
  slot : Slot
  /-- The bytes of a unit of the set. -/
  write : List Char → Option (List Nat)
  /-- What a byte, or two, stand for. -/
  read : Nat → Nat → Option (List Char)

namespace Assignable

/-- A set of two bytes for a character. -/
def ofCells (final : Char) (slot : Slot) (cell? : List Char → Option Nat)
    (unit? : Nat → Option (List Char)) : Assignable where
  name := ⟨final.toNat, true⟩
  slot := slot
  write u := (cell? u).map Layout.low.bytes
  read a b := (Layout.low.cell? a b).bind unit?

/-- A set with the characters of a grid. -/
def ofGrid (final : Char) (slot : Slot) (g : Grid) : Assignable :=
  ofCells final slot
    (fun
      | [c] => g.cell? c
      | _ => none)
    fun cell => (g.char? cell).map ([·])

/-- A set of one byte for a character. -/
def ofBytes (final : Char) (slot : Slot) (byte? : Char → Option Nat)
    (char? : Nat → Option Char) : Assignable where
  name := ⟨final.toNat, false⟩
  slot := slot
  write
    | [c] => (byte? c).map ([·])
    | _ => none
  read a _ := (char? a).map ([·])

/-- JIS X 0208. -/
def jisx0208 : Assignable := ofGrid 'B' .first Grid.jisx0208

/-- JIS X 0208 in its edition of 1978, which counts as the same set. -/
def jisx0208Old : Assignable := ofGrid '@' .first Grid.jisx0208

/-- JIS X 0212. -/
def jisx0212 : Assignable := ofGrid 'D' .first Grid.jisx0212

/-- KS X 1001 in the first slot. -/
def ksx1001 : Assignable := ofGrid 'C' .first Grid.ksx1001

/-- KS X 1001 in the second slot. -/
def ksx1001Shifted : Assignable := ofGrid 'C' .second Grid.ksx1001

/-- GB 2312. -/
def gb2312 : Assignable := ofGrid 'A' .first Grid.gb2312

/-- The lower half of JIS X 0201. -/
def jisx0201Roman : Assignable := ofBytes 'J' .first romanByte? fun b => some (roman b)

/-- The upper half of JIS X 0201, without the high bit. -/
def jisx0201Kana : Assignable :=
  ofBytes 'I' .first (fun c => (halfWidthByte? c).map (· - 128)) fun b => halfWidth? (b + 128)

/-- A set whose characters are only read, one at a time. -/
def ofSingles (final : Char) (char? : Nat → Option Char) : Assignable :=
  ofBytes final .third (fun _ => none) char?

/-- The upper half of ISO 8859-1, without the high bit. -/
def latinUpper : Assignable :=
  ofSingles 'A' fun b => if b < 128 then some (Char.ofNat (b + 128)) else none

/-- The characters that the Greek set got later. -/
def laterGreek : List Char := ['€', '₯', '\u037a', '\uFFFD']

/-- The upper half of ISO 8859-7 in its first edition, without the high bit. With the high bit,
the bytes stand for ASCII. -/
def greekUpper : Assignable :=
  ofSingles 'F' fun b =>
    if b < 128 then (Pages.iso88597.toList[b]?).filter fun c => !laterGreek.contains c
    else some (Char.ofNat (b - 128))

/-- The letter of the first plane of JIS X 0213 in an edition. -/
def firstFinal : Edition → Char
  | .first => 'O'
  | .revised => 'Q'

/-- The cell of the first plane of JIS X 0213 that stands for the tilde of ASCII here. -/
def tildeCell : Nat := 111

/-- The characters in a cell of the first plane of JIS X 0213. -/
def firstUnit? (e : Edition) (cell : Nat) : Option (List Char) :=
  if cell == tildeCell then some ['~'] else e.unit? cell

/-- The first plane of JIS X 0213. -/
def jisx0213First (e : Edition) : Assignable :=
  ofCells (firstFinal e) .first
    (fun
      | [c] => (Grid.jisx0208.cell? c <|> e.firstCell? c).filter (· != tildeCell)
      | u => Edition.pairCell? u)
    (firstUnit? e)

/-- The first plane of JIS X 0213, for letters with their marks only. -/
def jisx0213Pairs (e : Edition) : Assignable :=
  ofCells (firstFinal e) .first Edition.pairCell? (firstUnit? e)

/-- The second plane of JIS X 0213. It is read as in the edition of 2004. -/
def jisx0213Second (e : Edition) : Assignable :=
  ofCells 'P' .first
    (fun
      | [c] => e.secondCell? c
      | _ => none)
    fun cell => (Edition.revised.second? cell).map ([·])

end Assignable

/-- A charset with escape sequences. -/
structure Repertory where
  /-- The sets, in the order in which they are tried for a unit. -/
  sets : List Assignable
  /-- Whether control characters shift between the first slot and the second. -/
  shifts : Bool
  /-- Whether the third slot is in use. -/
  singles : Bool
  /-- Whether an escape sequence may name the edition of JIS X 0208. -/
  editions : Bool

/-- What is in force between two characters. A slot without a name holds ASCII. -/
structure Shift where
  first : Option SetName
  second : Option SetName
  third : Option SetName
  /-- Whether the second slot is in use. -/
  shifted : Bool
  /-- Whether characters are taken as they are until an unknown sequence ends. -/
  verbatim : Bool

namespace Shift

/-- What is in force at the beginning. -/
def initial : Shift := ⟨none, none, none, false, false⟩

/-- The set in a slot. -/
def inSlot (s : Shift) : Slot → Option SetName
  | .first => s.first
  | .second => s.second
  | .third => s.third

/-- A set put into a slot. -/
def assign (s : Shift) (slot : Slot) (name : Option SetName) : Shift :=
  match slot with
  | .first => { s with first := name }
  | .second => { s with second := name }
  | .third => { s with third := name }

end Shift

namespace Repertory

/-- The escape character. -/
def escapeByte : Nat := 0x1B

/-- The control character that puts the first slot in use. -/
def shiftIn : Nat := 0x0F

/-- The control character that puts the second slot in use. -/
def shiftOut : Nat := 0x0E

/-! ### Writing -/

/-- The set in which a unit is written, and its bytes. -/
def find? (r : Repertory) (u : List Char) : Option (Assignable × List Nat) :=
  r.sets.findSome? fun set => (set.write u).map fun bs => (set, bs)

/-- Whether a unit fits. -/
def fits (r : Repertory) : List Char → Bool
  | [c] => c.toNat < 128 || (r.find? [c]).isSome
  | u => (r.find? u).isSome

/-- The escape sequence that assigns a set to its slot. -/
def assignment (set : Assignable) : List Nat :=
  let isPlain := set.slot == .first && set.name.final == 0x42
  let slotByte := if set.slot == .first then 0x28 else 0x29
  if set.name.double then
    [escapeByte, 0x24] ++ (if isPlain then [] else [slotByte]) ++ [set.name.final]
  else [escapeByte, slotByte, set.name.final]

/-- The escape sequence that assigns ASCII to the first slot. -/
def assignAscii : List Nat := [escapeByte, 0x28, 0x42]

/-- The bytes that put ASCII in use, if it is not. -/
def toAscii (s : Shift) : List Nat :=
  (if s.first.isSome then assignAscii else []) ++ (if s.shifted then [shiftIn] else [])

/-- The bytes that put a set in use, if it is not, and what is in force then. -/
def toSet (s : Shift) (set : Assignable) : List Nat × Shift :=
  let assigned := s.inSlot set.slot == some set.name
  let shifted := set.slot == .second
  ((if s.shifted && !shifted then [shiftIn] else []) ++
      (if assigned then [] else assignment set) ++
      (if shifted && !s.shifted then [shiftOut] else []),
    { s.assign set.slot (some set.name) with shifted := shifted })

/-- The bytes of a unit, and what is in force behind it. -/
def writeUnit (r : Repertory) (s : Shift) (u : List Char) : List Nat × Shift :=
  match u.filter fun c => c.toNat < 128 with
  | c :: _ => (toAscii s ++ [c.toNat], { s with first := none, shifted := false })
  | [] =>
    match r.find? u with
    | some (set, bs) => ((toSet s set).1 ++ bs, (toSet s set).2)
    | none => ([], s)

/-- The bytes of units. ASCII is in use at the end. -/
def write (r : Repertory) (s : Shift) : List (List Char) → List Nat
  | [] => (if s.shifted then [shiftIn] else []) ++ (if s.first.isSome then assignAscii else [])
  | u :: us => (r.writeUnit s u).1 ++ r.write (r.writeUnit s u).2 us

/-- The bytes of a text, with substitutes for the characters that do not fit. -/
def encode (r : Repertory) (substitute : Char → List Char) (text : List Char) : List Nat :=
  r.write .initial (units r.fits substitute text)

/-! ### Reading -/

/-- Whether a byte ends an escape sequence. -/
def endsSequence (b : Nat) : Bool := 0x40 ≤ b && b ≤ 0x5A

/-- The length of an escape sequence, of which `count` bytes have been looked at. The next `skip`
bytes do not count as its end. The sequence that names an edition holds another one. -/
def sequenceLength? (r : Repertory) (skip count : Nat) : List Nat → Option Nat
  | [] => none
  | b :: bs =>
    if 0 < skip then r.sequenceLength? (skip - 1) (count + 1) bs
    else if 16 ≤ count then none
    else if endsSequence b then some (count + 1)
    else
      let holdsAnother := r.editions && b == 0x26 && bs.head? == some 0x40
      r.sequenceLength? (if holdsAnother then 2 else 0) (count + 1) bs

/-- The slot and the set that an escape sequence names. -/
def named? (r : Repertory) : List Nat → Option (Slot × SetName)
  | [_, 0x24, final] => some (.first, ⟨final, true⟩)
  | [_, 0x28, final] => some (.first, ⟨final, false⟩)
  | [_, 0x29, final] => some (.second, ⟨final, false⟩)
  | [_, 0x2E, final] => if r.singles then some (.third, ⟨final, false⟩) else none
  | [_, 0x24, 0x28, final] => some (.first, ⟨final, true⟩)
  | [_, 0x24, 0x29, final] => some (.second, ⟨final, true⟩)
  | [_, _, _, 0x1B, 0x24, 0x42] => if r.editions then some (.first, ⟨0x42, true⟩) else none
  | _ => none

/-- The name of ASCII. -/
def asciiName : SetName := ⟨0x42, false⟩

/-- What is in force after an escape sequence, unless it names an unknown set. -/
def assign? (r : Repertory) (s : Shift) (sequence : List Nat) : Option Shift :=
  (r.named? sequence).bind fun (slot, name) =>
    if name == asciiName then some (s.assign slot none)
    else if r.sets.any fun set => set.name == name then some (s.assign slot (some name))
    else none

/-- The set with a name, if it serves for single characters or for all. -/
def set? (r : Repertory) (single : Bool) (name : SetName) : Option Assignable :=
  r.sets.find? fun set => set.name == name && (set.slot == .third) == single

/-- The character that a byte stands for in the third slot. -/
def single? (r : Repertory) (s : Shift) (b : Nat) : Option (List Char) :=
  match s.third with
  | none => if b < 128 then some [Char.ofNat b] else none
  | some name => (r.set? true name).bind fun set => set.read b 0

/-- Reads bytes from their front for as long as `fuel` lasts. -/
def readFrom (r : Repertory) (s : Shift) : (fuel : Nat) → List Nat → Option (List Char)
  | _, [] => some []
  | 0, _ => none
  | fuel + 1, a :: rest =>
    let keep (s : Shift) := (r.readFrom s fuel rest).map (Char.ofNat a :: ·)
    if s.verbatim then keep { s with verbatim := !endsSequence a }
    else if a == escapeByte then
      match rest with
      | [] => none
      | b :: _ =>
        if [0x24, 0x26, 0x28, 0x29, 0x2E].contains b then
          (r.sequenceLength? 0 1 rest).bind fun n =>
            (r.assign? s (a :: rest.take (n - 1))).bind fun s =>
              r.readFrom s fuel (rest.drop (n - 1))
        else if r.singles && b == 0x4E then
          match rest with
          | _ :: c :: rest => (r.single? s c).bind fun u => (r.readFrom s fuel rest).map (u ++ ·)
          | _ => none
        else keep { s with verbatim := true }
    else if r.shifts && a == shiftIn then r.readFrom { s with shifted := false } fuel rest
    else if r.shifts && a == shiftOut then r.readFrom { s with shifted := true } fuel rest
    else if a == 0x0A then keep { s with shifted := false }
    else if a < 0x20 then keep s
    else if 128 ≤ a then none
    else
      match (if s.shifted then s.second else s.first) with
      | none => keep s
      | some name =>
        (r.set? false name).bind fun set =>
          if name.double then
            match rest with
            | b :: rest => (set.read a b).bind fun u => (r.readFrom s fuel rest).map (u ++ ·)
            | [] => none
          else (set.read a 0).bind fun u => (r.readFrom s fuel rest).map (u ++ ·)

/-- The text that bytes stand for. -/
def decode (r : Repertory) (bs : List Nat) : Option (List Char) :=
  r.readFrom .initial bs.length bs

/-! ### The charsets -/

/-- A Japanese charset with the given sets. -/
def japanese (sets : List Assignable) : Repertory := ⟨sets, false, false, true⟩

/-- The Japanese charset of JIS X 0208. -/
def jp : Repertory := japanese [.jisx0208, .jisx0201Roman, .jisx0208Old]

/-- The Japanese charset with JIS X 0212. -/
def jp1 : Repertory := japanese [.jisx0208, .jisx0212, .jisx0201Roman, .jisx0208Old]

/-- The multilingual charset. -/
def jp2 : Repertory where
  sets := [.jisx0208, .jisx0212, .ksx1001, .gb2312, .jisx0201Roman, .jisx0208Old,
    .latinUpper, .greekUpper]
  shifts := false
  singles := true
  editions := true

/-- The Japanese charset with JIS X 0213. -/
def jpOf (e : Edition) : Repertory :=
  japanese [.jisx0213Pairs e, .jisx0208, .jisx0213First e, .jisx0213Second e]

/-- The Japanese charset with the first edition of JIS X 0213. -/
def jp3 : Repertory := jpOf .first

/-- The Japanese charset with JIS X 0213 in the edition of 2004. -/
def jp2004 : Repertory := jpOf .revised

/-- The Japanese charset with characters of half width. -/
def jpExt : Repertory :=
  japanese [.jisx0208, .jisx0212, .jisx0201Roman, .jisx0201Kana, .jisx0208Old]

/-- The Korean charset. -/
def kr : Repertory := ⟨[.ksx1001Shifted], true, false, false⟩

end Repertory

end Mustache.Text
