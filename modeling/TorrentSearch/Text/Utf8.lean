/-!
# UTF-8

Texts as UTF-8 bytes and back. Reading is strict, or lenient: then each longest piece that begins a
character but does not complete one, and each byte that begins none, is read as U+FFFD.
-/

namespace TorrentSearch.Text.Utf8

def encode (s : String) : List UInt8 :=
  s.toByteArray.data.toList

/-- The text with the given UTF-8 bytes, if they are well formed. -/
def decode? (bytes : List UInt8) : Option String :=
  String.fromUTF8? ⟨bytes.toArray⟩

/-- The reader's state within a character: the number of bytes still to come, the least and greatest
value of the next one, and the bits read so far. -/
structure Partial where
  missing : Nat
  low : UInt8
  high : UInt8
  bits : Nat

/-- What a byte at the start of a character gives: a character, or the state within one. -/
def start (b : UInt8) : List Char × Option Partial :=
  if b < 0x80 then ([Char.ofNat b.toNat], none)
  else if 0xc2 ≤ b && b ≤ 0xdf then ([], some ⟨1, 0x80, 0xbf, b.toNat - 0xc0⟩)
  else if 0xe0 ≤ b && b ≤ 0xef then
    ([], some ⟨2, if b = 0xe0 then 0xa0 else 0x80, if b = 0xed then 0x9f else 0xbf, b.toNat - 0xe0⟩)
  else if 0xf0 ≤ b && b ≤ 0xf4 then
    ([], some ⟨3, if b = 0xf0 then 0x90 else 0x80, if b = 0xf4 then 0x8f else 0xbf, b.toNat - 0xf0⟩)
  else (['\ufffd'], none)

/-- One byte after the characters so far, the latest first. -/
def readByte (state : List Char × Option Partial) (b : UInt8) : List Char × Option Partial :=
  match state with
  | (out, none) =>
    let (chars, next) := start b
    (chars ++ out, next)
  | (out, some p) =>
    if p.low ≤ b && b ≤ p.high then
      let bits := p.bits * 64 + (b.toNat - 0x80)
      if p.missing ≤ 1 then (Char.ofNat bits :: out, none)
      else (out, some ⟨p.missing - 1, 0x80, 0xbf, bits⟩)
    else
      let (chars, next) := start b
      (chars ++ '\ufffd' :: out, next)

def decodeLossy (bytes : List UInt8) : String :=
  let (out, rest) := bytes.foldl readByte ([], none)
  let out := if rest.isSome then '\ufffd' :: out else out
  String.ofList out.reverse

theorem decode?_encode (s : String) : decode? (encode s) = some s := by
  have h : (⟨(encode s).toArray⟩ : ByteArray) = s.toByteArray := by simp [encode]
  unfold decode? String.fromUTF8?
  rw [h]
  simp [s.isValidUTF8, String.fromUTF8]

theorem encode_injective : Function.Injective encode := by
  intro s t h
  have hread := congrArg decode? h
  rwa [decode?_encode, decode?_encode, Option.some.injEq] at hread

theorem length_encode (s : String) : (encode s).length = s.utf8ByteSize := by
  simp [encode]

theorem length_encode_ofList_le (s : List Char) :
    (encode (String.ofList s)).length ≤ 4 * s.length := by
  rw [length_encode]
  induction s with
  | nil => exact Nat.le_refl _
  | cons c s ih =>
    have hc := c.utf8Size_le_four
    rw [String.ofList_cons, String.utf8ByteSize_append, String.utf8ByteSize_singleton,
      List.length_cons]
    omega

end TorrentSearch.Text.Utf8
