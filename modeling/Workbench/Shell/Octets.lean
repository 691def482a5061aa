import Workbench.Text.Utf8

/-!
# Texts of bytes

The shell and the programs that it starts work on bytes.  They hold a byte as the character of its
number, so that ASCII characters stand for themselves, and a character beyond ASCII is as many
characters as its UTF-8 form has bytes.  Nothing is lost on the way: `toBytes_ofBytes`.
-/

namespace Workbench.Shell.Octets

open Text (Bytes)

/-- the text that holds some bytes -/
def ofBytes (b : Bytes) : Text := b.map fun x => Char.ofNat x.toNat

/-- the bytes that a text holds -/
def toBytes (t : Text) : Bytes := t.map fun c => c.toNat.toUInt8

theorem toNat_ofNat_byte (x : UInt8) : (Char.ofNat x.toNat).toNat.toUInt8 = x := by
  have h : x.toNat < 256 := x.toNat_lt
  have valid : x.toNat.isValidChar := Or.inl (by omega)
  have number : (Char.ofNat x.toNat).toNat = x.toNat := by
    rw [Char.ofNat, dif_pos valid]
    rfl
  rw [number]
  exact UInt8.ofNat_toNat

@[simp] theorem toBytes_ofBytes (b : Bytes) : toBytes (ofBytes b) = b := by
  induction b with
  | nil => rfl
  | cons x b ih =>
    have := toNat_ofNat_byte x
    simp_all [toBytes, ofBytes]

/-- a text of characters as the shell holds it -/
def ofText (t : Text) : Text := ofBytes (Text.encode t)

/-- the characters that a text of the shell spells -/
def toText (t : Text) : Text := Text.decodeLossy (toBytes t)

end Workbench.Shell.Octets
