import Blurb.Text.Utf8

/-! # Raw texts

Bytes that need not be UTF-8, kept as a text: each byte is a character below 256. What programs
print is handled in this form, so that it comes out byte for byte. -/

namespace Blurb.Text

/-- **Bytes as a raw text.** -/
def ofBytes (bytes : Bytes) : Text := bytes.map fun b => Char.ofNat b.toNat

/-- **The bytes of a raw text.** -/
def toBytes (raw : Text) : Bytes := raw.map fun c => c.toNat.toUInt8

/-- The raw text of the UTF-8 bytes of a text. -/
def toRaw (t : Text) : Text := ofBytes (utf8 t)

/-- The text that the bytes of a raw text write in UTF-8, read leniently. -/
def ofRaw (raw : Text) : Text := ofUtf8Lossy (toBytes raw)

end Blurb.Text
