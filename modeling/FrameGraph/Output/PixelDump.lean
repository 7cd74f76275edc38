import FrameGraph.Frame.Buffer

/-!
# Pixel dumps

A dump lists the first pixels of a frame, each as its number, a colon, and its bytes in
hexadecimal, separated by commas. Formats that spread a pixel over several planes show the bytes of
the first one.
-/

namespace FrameGraph.PixelDump

def hexDigit (n : Nat) : Char := (Nat.digitChar n).toUpper

def hexByte (b : UInt8) : List Char := [hexDigit (b.toNat / 16), hexDigit (b.toNat % 16)]

/-- The pieces of `size` bytes, the last one perhaps shorter; `count` bounds their number. -/
def chunks (size : Nat) : (count : Nat) → List UInt8 → List (List UInt8)
  | 0, _ => []
  | _, [] => []
  | count + 1, bytes => bytes.take size :: chunks size count (bytes.drop size)

def entry (index : Nat) (bytes : List UInt8) : List Char :=
  Nat.toDigits 10 index ++ ':' :: [','].intercalate (bytes.map hexByte)

def entries : (index : Nat) → List (List UInt8) → List (List Char)
  | _, [] => []
  | index, px :: rest => entry index px :: entries (index + 1) rest

def pixelSize (f : PixelFormat) : Nat := f.bytesPerPixel?.getD 1

/-- The dump of the first `limit` pixels of a frame. -/
def ofFrame (b : FrameBuffer) (limit : Nat) : String :=
  let count := min (PixelFormat.pixels b.info.width b.info.height) limit
  String.ofList ([' '].intercalate (entries 0 (chunks (pixelSize b.info.format) count b.data)))

end FrameGraph.PixelDump
