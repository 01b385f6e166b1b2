import TorrentSearch.Http.MediaType
import TorrentSearch.Text.Blank
import TorrentSearch.Text.RangeTable
import TorrentSearch.Text.SingleByte
import TorrentSearch.Text.Utf8

/-!
# The text of a body

The bytes of a body as text. A byte order mark in front tells the charset; else the declared type of
the body may name one, and UTF-8 is the rule. What is malformed is read as U+FFFD.
-/

namespace TorrentSearch.Http

/-- A way to write text as bytes. -/
inductive Charset where
  | utf8
  | utf16 (bigEndian : Bool)
  | single (last : String)
  | userDefined
  /-- Charsets that are not read at all. -/
  | replacement
  | farEastern
deriving DecidableEq, Repr

namespace Charset

/-- Pairs of bytes as numbers; a byte that is left over has none. -/
def units (bigEndian : Bool) : List UInt8 → List (Option Nat)
  | [] => []
  | [_] => [none]
  | a :: b :: rest =>
    let n := if bigEndian then a.toNat * 256 + b.toNat else b.toNat * 256 + a.toNat
    some n :: units bigEndian rest

/-- The characters that the numbers stand for, alone or in pairs. -/
def ofUnits : List (Option Nat) → List Char
  | [] => []
  | none :: rest => '\ufffd' :: ofUnits rest
  | some n :: rest =>
    if n < 0xd800 ∨ 0xdfff < n then Char.ofNat n :: ofUnits rest
    else if 0xdc00 ≤ n then '\ufffd' :: ofUnits rest
    else
      match rest with
      | some low :: more =>
        if 0xdc00 ≤ low ∧ low ≤ 0xdfff then
          Char.ofNat (0x10000 + (n - 0xd800) * 0x400 + (low - 0xdc00)) :: ofUnits more
        else '\ufffd' :: ofUnits (some low :: more)
      | _ => ['\ufffd']

/-- The text of bytes. `farEastern` is what they say in a charset of the Far East. -/
def decode (c : Charset) (farEastern : String) (bytes : List UInt8) : String :=
  match c with
  | utf8 => Text.Utf8.decodeLossy bytes
  | utf16 bigEndian => String.ofList (ofUnits (units bigEndian bytes))
  | single last => Text.SingleByte.decode last bytes
  | userDefined =>
    String.ofList (bytes.map fun b =>
      Char.ofNat (if b < 0x80 then b.toNat else 0xf780 + (b.toNat - 0x80)))
  | replacement => if bytes.isEmpty then "" else "\ufffd"
  | .farEastern => farEastern

open Text.SingleByte in
def names : List (String × Charset) :=
  [("unicode-1-1-utf-8 unicode11utf8 unicode20utf8 utf8 utf-8 x-unicode20utf8", utf8),
    ("866 cp866 csibm866 ibm866", single ibm866),
    ("csisolatin2 iso-8859-2 iso-ir-101 iso8859-2 iso88592 iso_8859-2 iso_8859-2:1987 l2 " ++
      "latin2", single isoPart2),
    ("csisolatin3 iso-8859-3 iso-ir-109 iso8859-3 iso88593 iso_8859-3 iso_8859-3:1988 l3 " ++
      "latin3", single isoPart3),
    ("csisolatin4 iso-8859-4 iso-ir-110 iso8859-4 iso88594 iso_8859-4 iso_8859-4:1988 l4 " ++
      "latin4", single isoPart4),
    ("csisolatincyrillic cyrillic iso-8859-5 iso-ir-144 iso8859-5 iso88595 iso_8859-5 " ++
      "iso_8859-5:1988", single isoPart5),
    ("arabic asmo-708 csiso88596e csiso88596i csisolatinarabic ecma-114 iso-8859-6 " ++
      "iso-8859-6-e iso-8859-6-i iso-ir-127 iso8859-6 iso88596 iso_8859-6 iso_8859-6:1987",
      single isoPart6),
    ("csisolatingreek ecma-118 elot_928 greek greek8 iso-8859-7 iso-ir-126 iso8859-7 " ++
      "iso88597 iso_8859-7 iso_8859-7:1987 sun_eu_greek", single isoPart7),
    ("csiso88598e csisolatinhebrew hebrew iso-8859-8 iso-8859-8-e iso-ir-138 iso8859-8 " ++
      "iso88598 iso_8859-8 iso_8859-8:1988 visual csiso88598i iso-8859-8-i logical",
      single isoPart8),
    ("csisolatin6 iso-8859-10 iso-ir-157 iso8859-10 iso885910 l6 latin6", single isoPart10),
    ("iso-8859-13 iso8859-13 iso885913", single isoPart13),
    ("iso-8859-14 iso8859-14 iso885914", single isoPart14),
    ("csisolatin9 iso-8859-15 iso8859-15 iso885915 iso_8859-15 l9", single isoPart15),
    ("iso-8859-16", single isoPart16),
    ("cskoi8r koi koi8 koi8-r koi8_r", single koi8r),
    ("koi8-ru koi8-u", single koi8u),
    ("csmacintosh mac macintosh x-mac-roman", single macRoman),
    ("dos-874 iso-8859-11 iso8859-11 iso885911 tis-620 windows-874", single windows874),
    ("cp1250 windows-1250 x-cp1250", single windows1250),
    ("cp1251 windows-1251 x-cp1251", single windows1251),
    ("ansi_x3.4-1968 ascii cp1252 cp819 csisolatin1 ibm819 iso-8859-1 iso-ir-100 iso8859-1 " ++
      "iso88591 iso_8859-1 iso_8859-1:1987 l1 latin1 us-ascii windows-1252 x-cp1252",
      single windows1252),
    ("cp1253 windows-1253 x-cp1253", single windows1253),
    ("cp1254 csisolatin5 iso-8859-9 iso-ir-148 iso8859-9 iso88599 iso_8859-9 " ++
      "iso_8859-9:1989 l5 latin5 windows-1254 x-cp1254", single windows1254),
    ("cp1255 windows-1255 x-cp1255", single windows1255),
    ("cp1256 windows-1256 x-cp1256", single windows1256),
    ("cp1257 windows-1257 x-cp1257", single windows1257),
    ("cp1258 windows-1258 x-cp1258", single windows1258),
    ("x-mac-cyrillic x-mac-ukrainian", single macCyrillic),
    ("csiso2022kr hz-gb-2312 iso-2022-cn iso-2022-cn-ext iso-2022-kr replacement", replacement),
    ("unicodefffe utf-16be", utf16 true),
    ("csunicode iso-10646-ucs-2 ucs-2 unicode unicodefeff utf-16le utf-16", utf16 false),
    ("x-user-defined", userDefined),
    ("chinese csgb2312 csiso58gb231280 gb2312 gb_2312 gb_2312-80 gbk iso-ir-58 x-gbk " ++
      "gb18030 big5 big5-hkscs cn-big5 csbig5 x-x-big5 cseucpkdfmtjapanese euc-jp x-euc-jp " ++
      "csiso2022jp iso-2022-jp csshiftjis ms932 ms_kanji shift-jis shift_jis sjis " ++
      "windows-31j x-sjis cseuckr csksc56011987 euc-kr iso-ir-149 korean ks_c_5601-1987 " ++
      "ks_c_5601-1989 ksc5601 ksc_5601 windows-949", farEastern)]

/-- The charset of a name in either case, with blanks around it. -/
def ofName? (name : List Char) : Option Charset :=
  let name := (Text.stripWhile Text.isBlank name).map Char.toLower
  (names.find? fun n => (Text.words n.1).contains name).map (·.2)

def ofContentType? (contentType : String) : Option Charset := do
  let parameters ← MediaType.parameters? contentType.toList
  let charset ← parameters.find? fun p => Text.eqIgnoringCase p.1 "charset".toList
  ofName? charset.2

/-- The charset that a byte order mark tells, and the bytes behind the mark. -/
def ofMark? : List UInt8 → Option (Charset × List UInt8)
  | 0xef :: 0xbb :: 0xbf :: rest => some (utf8, rest)
  | 0xfe :: 0xff :: rest => some (utf16 true, rest)
  | 0xff :: 0xfe :: rest => some (utf16 false, rest)
  | _ => none

end Charset

/-- The text of a body with a declared type. -/
def bodyText (contentType : Option String) (farEastern : String) (body : List UInt8) : String :=
  match Charset.ofMark? body with
  | some (charset, rest) => charset.decode farEastern rest
  | none => ((contentType.bind Charset.ofContentType?).getD .utf8).decode farEastern body

end TorrentSearch.Http
