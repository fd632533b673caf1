/-!
# Bytes and big-endian numbers

A packet is a list of bytes. Numbers of two and four bytes are written with their most significant
byte first, and reading a written number gives it back:

* two bytes: `ofWord`, `toWord`, `toWord_ofWord`;
* four bytes: `ofLong`, `toLong`, `toLong_ofLong`.
-/

namespace ServiceDiscovery

/-- A sequence of bytes, as it stands in a packet. -/
abbrev Bytes := List UInt8

namespace Bytes

/-! ### Two bytes -/

def high (v : UInt16) : UInt8 := UInt8.ofNat (v.toNat / 256)

def low (v : UInt16) : UInt8 := UInt8.ofNat (v.toNat % 256)

/-- The two bytes of a 16-bit number. -/
def ofWord (v : UInt16) : Bytes := [high v, low v]

/-- The 16-bit number of a high and a low byte. -/
def toWord (a b : UInt8) : UInt16 := UInt16.ofNat (a.toNat * 256 + b.toNat)

theorem toNat_toWord (a b : UInt8) : (toWord a b).toNat = a.toNat * 256 + b.toNat := by
  have ha := a.toNat_lt
  have hb := b.toNat_lt
  simp only [toWord, UInt16.toNat_ofNat']
  omega

theorem toWord_ofWord (v : UInt16) : toWord (high v) (low v) = v := by
  have hv := v.toNat_lt
  apply UInt16.toNat_inj.1
  simp only [toNat_toWord, high, low, UInt8.toNat_ofNat']
  omega

/-! ### Four bytes -/

/-- The 16-bit numbers a 32-bit number is made of, the more significant one first. -/
def words (v : UInt32) : UInt16 × UInt16 :=
  (UInt16.ofNat (v.toNat / 65536), UInt16.ofNat (v.toNat % 65536))

/-- The four bytes of a 32-bit number. -/
def ofLong (v : UInt32) : Bytes := ofWord (words v).1 ++ ofWord (words v).2

/-- The 32-bit number of four bytes, the most significant one first. -/
def toLong (a b c d : UInt8) : UInt32 :=
  UInt32.ofNat ((toWord a b).toNat * 65536 + (toWord c d).toNat)

theorem toLong_ofLong (v : UInt32) :
    toLong (high (words v).1) (low (words v).1) (high (words v).2) (low (words v).2) = v := by
  have hv := v.toNat_lt
  apply UInt32.toNat_inj.1
  simp only [toLong, toWord_ofWord, words, UInt32.toNat_ofNat', UInt16.toNat_ofNat']
  omega

end Bytes

end ServiceDiscovery
