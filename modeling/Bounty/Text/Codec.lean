import Bounty.Text.CodePage
/-!
Codecs: what the names of encodings stand for.
-/
namespace Bounty.Text

/-- What turns bytes into characters. -/
inductive Codec where
  | page (p : CodePage)
  /-- Every byte is a character, but the signs of markup are not where they are in ASCII. -/
  | moved
  /-- Several bytes may make one character. -/
  | wide
  /-- No more than some rows of bytes have a meaning. -/
  | narrow
  /-- It does not make a text out of bytes. -/
  | textless

namespace Codec

/-- Pages on which signs of markup have moved. -/
def movedNames : List String := [
  "cp037", "cp1026", "cp1140", "cp273", "cp424", "cp500", "cp864", "cp875", "mac_arabic",
  "mac_farsi"]

def movedAliases : List String := [
  "csibm037", "ebcdic_cp_ca", "ebcdic_cp_nl", "ebcdic_cp_us", "ebcdic_cp_wt", "ibm037", "ibm039",
  "csibm1026", "ibm1026", "ibm1140", "csibm273", "ibm273", "csibm424", "ebcdic_cp_he", "ibm424",
  "csibm500", "ebcdic_cp_be", "ebcdic_cp_ch", "ibm500", "csibm864", "ibm864"]

/-- Encodings with characters of several bytes. -/
def wideNames : List String := [
  "big5", "big5hkscs", "cp932", "cp949", "cp950", "euc_jis_2004", "euc_jisx0213", "euc_jp",
  "euc_kr", "gb18030", "gb2312", "gbk", "iso2022_kr", "johab", "shift_jis", "shift_jis_2004",
  "shift_jisx0213", "utf_16", "utf_16_be", "utf_16_le", "utf_32", "utf_32_be", "utf_32_le", "utf_7"]

def wideAliases : List String := [
  "big5_tw", "csbig5", "x_mac_trad_chinese", "big5_hkscs", "hkscs", "ms932", "ms_kanji", "mskanji",
  "ms949", "uhc", "ms950", "euc_jis2004", "eucjis2004", "jisx0213", "eucjisx0213", "eucjp", "u_jis",
  "ujis", "euckr", "korean", "ks_c_5601", "ks_c_5601_1987", "ks_x_1001", "ksc5601", "ksx1001",
  "x_mac_korean", "gb18030_2000", "chinese", "csiso58gb231280", "euc_cn", "euccn", "eucgb2312_cn",
  "gb2312_1980", "gb2312_80", "iso_ir_58", "x_mac_simp_chinese", "cp936", "ms936", "csiso2022kr",
  "iso2022kr", "iso_2022_kr", "cp1361", "ms1361", "csshiftjis", "s_jis", "shiftjis", "sjis",
  "x_mac_japanese", "s_jis_2004", "shiftjis2004", "sjis_2004", "s_jisx0213", "shiftjisx0213",
  "sjisx0213", "u16", "utf16", "unicodebigunmarked", "utf_16be", "unicodelittleunmarked",
  "utf_16le", "u32", "utf32", "utf_32be", "utf_32le", "u7", "unicode_1_1_utf_7", "utf7"]

/-- Encodings in which most rows of bytes mean nothing. -/
def narrowNames : List String := ["idna", "punycode", "undefined"]

/-- Codecs from texts to texts or from bytes to bytes. -/
def textlessNames : List String := [
  "base64_codec", "bz2_codec", "hex_codec", "quopri_codec", "rot_13", "uu_codec", "zlib_codec"]

def textlessAliases : List String := [
  "base64", "base_64", "bz2", "hex", "quopri", "quoted_printable", "quotedprintable", "rot13", "uu",
  "zip", "zlib"]

/-- The form in which names are looked up: in lower case, with single bars for hyphens and bars. -/
def formOf (name : String) : String :=
  let barred := String.ofList (name.toList.map fun c => if c == '-' then '_' else c.toLower)
  "_".intercalate ((barred.splitOn "_").filter (· != ""))

/-- Whether a name is one of some, or stands for one. There dots count as bars, too. -/
def isNamed (names aliases : List String) (form : String) : Bool :=
  names.contains form || aliases.contains form || aliases.contains (form.replace "." "_")

/-- The codec that a name stands for, if it stands for any. -/
def ofName? (name : String) : Option Codec :=
  let form := formOf name
  match CodePage.all.find? fun p => isNamed p.names p.aliases form with
  | some p => some (.page p)
  | none =>
    if isNamed movedNames movedAliases form then some .moved
    else if isNamed wideNames wideAliases form then some .wide
    else if narrowNames.contains form then some .narrow
    else if isNamed textlessNames textlessAliases form then some .textless
    else none

end Codec

end Bounty.Text
