import ClimateBus.Number.Binary

/-!
Register images: a fixed number of 16-bit words, seen as one run of bits.

Bit `i` lives in word `i / 16` at position `i % 16`, least significant bit first. A field is a run
of consecutive bits, low bit first; a signed field carries its sign in its highest bit and the
magnitude below it. Every accessor is total: a bit outside the image reads as false, and writing
it has no effect. A write reports whether it changed a stored bit.

A temperature is stored as a signed number of tenths of a degree and handed out as a
single-precision number of degrees Celsius. Tenths become degrees by one correctly rounded division,
and degrees become tenths by one correctly rounded product and rounding to the nearest integer,
halves away from zero.
-/
namespace ClimateBus

abbrev Words := List UInt16

/-- An image of exactly `n` register words. -/
@[ext]
structure Image (n : Nat) where
  words : Words
  length_eq : words.length = n
  deriving DecidableEq

/-- The image after a write, and whether some stored bit changed. -/
structure Edit (n : Nat) where
  image : Image n
  changed : Bool

/-- A run of bits inside an image. -/
structure Field where
  start : Nat
  length : Nat
  deriving DecidableEq, Repr

/-- Unsigned fields hold at most this many bits. -/
def maxFieldBits : Nat := 32

abbrev Celsius := Binary32

namespace Celsius

def ofTenths (t : Int32) : Celsius := (Binary32.ofInt t.toInt).scale 1 10

def tenths (c : Celsius) : Int32 := (Binary32.scale c 10 1).roundToInt

end Celsius

namespace Word

def testBit (w : UInt16) (k : Nat) : Bool := w.toNat.testBit k

/-- The word with bit `k` set to `on` and all others kept. -/
def withBit (w : UInt16) (k : Nat) (on : Bool) : UInt16 :=
  let mask := UInt16.ofNat (1 <<< k)
  if on then w ||| mask else w &&& ~~~mask

end Word

namespace Image

variable {n : Nat}

def ofWords? (n : Nat) (ws : Words) : Option (Image n) :=
  if h : ws.length = n then some ⟨ws, h⟩ else none

/-- A word list is an image of its own length. -/
def ofList (ws : Words) : Image ws.length := ⟨ws, rfl⟩

def filled (n : Nat) (w : UInt16) : Image n := ⟨List.replicate n w, List.length_replicate⟩

/-- The image whose word at offset `k` is `f k`. -/
def ofFn (n : Nat) (f : Nat → UInt16) : Image n := ⟨(List.range n).map f, by simp⟩

instance : Inhabited (Image n) := ⟨filled n 0⟩

def bit (m : Image n) (i : Nat) : Bool :=
  match m.words[i / 16]? with
  | some w => Word.testBit w (i % 16)
  | none => false

def setBit (m : Image n) (i : Nat) (on : Bool) : Edit n :=
  match m.words[i / 16]? with
  | none => ⟨m, false⟩
  | some w =>
    if Word.testBit w (i % 16) == on then ⟨m, false⟩
    else ⟨⟨m.words.set (i / 16) (Word.withBit w (i % 16) on), by simp [m.length_eq]⟩, true⟩

/-- The number whose binary digits are the `length` bits from `start` on. -/
def bits (m : Image n) (start : Nat) : (length : Nat) → Nat
  | 0 => 0
  | length + 1 => (m.bit start).toNat + 2 * m.bits (start + 1) length

/-- Writes the low `length` binary digits of `value` from `start` on. -/
def setBits (m : Image n) (start : Nat) : (length value : Nat) → Edit n
  | 0, _ => ⟨m, false⟩
  | length + 1, value =>
    let low := m.setBit start (value % 2 == 1)
    let rest := low.image.setBits (start + 1) length (value / 2)
    ⟨rest.image, low.changed || rest.changed⟩

/-- An unsigned field; a field longer than 32 bits is cut off there. -/
def unsigned (m : Image n) (f : Field) : UInt32 :=
  UInt32.ofNat (m.bits f.start (min f.length maxFieldBits))

/-- Writes an unsigned field; digits of `value` above the field are dropped. -/
def setUnsigned (m : Image n) (f : Field) (value : UInt32) : Edit n :=
  m.setBits f.start (min f.length maxFieldBits) value.toNat

/-- A sign-magnitude field. Fields shorter than two bits read as zero. The sign bit is the last
bit of the field however long it is, the magnitude is taken as a 32-bit word. -/
def signed (m : Image n) (f : Field) : Int32 :=
  if f.length < 2 then 0
  else
    let magnitude := (m.unsigned ⟨f.start, f.length - 1⟩).toInt32
    if m.bit (f.start + f.length - 1) then -magnitude else magnitude

/-- Writes a sign-magnitude field. Fields shorter than two bits are left alone. -/
def setSigned (m : Image n) (f : Field) (value : Int32) : Edit n :=
  if f.length < 2 then ⟨m, false⟩
  else
    let magnitude := m.setBits f.start (min (f.length - 1) maxFieldBits) value.toInt.natAbs
    let sign := magnitude.image.setBit (f.start + f.length - 1) (value < 0)
    ⟨sign.image, magnitude.changed || sign.changed⟩

def temperature (m : Image n) (f : Field) : Celsius := Celsius.ofTenths (m.signed f)

def setTemperature (m : Image n) (f : Field) (c : Celsius) : Edit n := m.setSigned f c.tenths

end Image

end ClimateBus
