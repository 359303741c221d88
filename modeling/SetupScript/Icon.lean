/-!
# The built-in icon

A picture of 32 rows of 32 points, 32 bits each, in an icon file: a blue box with a light screen
and foot on a transparent ground. Rows are stored from the bottom up.
-/

namespace SetupScript.Icon

/-- The lowest `width` bytes of a number, lowest first. -/
def littleEndian : Nat → Nat → List UInt8
  | 0, _ => []
  | width + 1, n => UInt8.ofNat (n % 256) :: littleEndian width (n / 256)

def side : Nat := 32

def maskBytes : Nat := side * side / 8

def pictureBytes : Nat := side * side * 4

def pictureHeader : Nat := 40

/-- One picture, with its size and its place in the file. -/
def directory : List UInt8 :=
  littleEndian 2 0 ++ littleEndian 2 1 ++ littleEndian 2 1 ++
    [UInt8.ofNat side, UInt8.ofNat side, 0, 0] ++ littleEndian 2 1 ++ littleEndian 2 32 ++
    littleEndian 4 (pictureHeader + pictureBytes + maskBytes) ++ littleEndian 4 22

/-- The height counts the picture and its mask. -/
def bitmapHeader : List UInt8 :=
  littleEndian 4 pictureHeader ++ littleEndian 4 side ++ littleEndian 4 (2 * side) ++
    littleEndian 2 1 ++ littleEndian 2 32 ++ littleEndian 4 0 ++ littleEndian 4 pictureBytes ++
    List.replicate 16 0

def inside (low high n : Nat) : Bool := low ≤ n && n < high

/-- Blue, green, red and opacity of the point at a row, from below, and a column. -/
def point (row column : Nat) : List UInt8 :=
  let screen := inside 8 21 row && inside 9 23 column
  let foot := inside 21 25 row && inside 13 19 column
  if screen || foot then [0xF5, 0xF5, 0xF5, 0xFF]
  else if inside 2 30 row && inside 2 30 column then [0xD4, 0x7A, 0x1E, 0xFF]
  else [0, 0, 0, 0]

def rows : List Nat := List.range side

def bytes : List UInt8 :=
  directory ++ bitmapHeader ++ (rows.flatMap fun r => rows.flatMap (point r)) ++
    List.replicate maskBytes 0

def file : ByteArray := ByteArray.mk bytes.toArray

end SetupScript.Icon
