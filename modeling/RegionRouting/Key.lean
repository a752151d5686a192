/-
  Region routing — keys and key ranges.

  A key is a string of bytes, in lexicographic order.  A range `[start, stop)`
  holds the keys from `start` on and below `stop`; an empty `stop` is no bound.

  * `Key.text` writes a key for people: the text it spells in UTF-8, or else
    its bytes in hexadecimal;
  * `KeyRange.contains` and `KeyRange.meets` are membership and overlap,
    decided by comparing end points alone.
-/
import RegionRouting.Digit

namespace RegionRouting

/-- A string of bytes, in lexicographic order. -/
abbrev Key := List UInt8

namespace Key

/-- The bytes of a key, each as two lower-case hexadecimal digits. -/
def hex (key : Key) : String :=
  String.ofList (key.flatMap fun byte => Digit.hexPair byte.toNat)

/-- A key as people read it: the text its bytes spell in UTF-8 if there is
    one, else the bytes in hexadecimal. -/
def text (key : Key) : String :=
  (String.fromUTF8? key.toByteArray).getD (hex key)

end Key

/-- The keys from `start` on and below `stop`; an empty `stop` is no bound. -/
structure KeyRange where
  start : Key
  stop : Key
  deriving DecidableEq

namespace KeyRange

/-- Is the key above the start, or on it, and below the stop? -/
def contains (range : KeyRange) (key : Key) : Bool :=
  range.start ≤ key && (range.stop.isEmpty || key < range.stop)

/-- Does the range start below its stop?  Such a range holds its own start. -/
def isProper (range : KeyRange) : Bool :=
  range.stop.isEmpty || range.start < range.stop

/-- Does each range start below the other's stop? -/
def meets (r s : KeyRange) : Bool :=
  (s.stop.isEmpty || r.start < s.stop) && (r.stop.isEmpty || s.start < r.stop)

end KeyRange

end RegionRouting
