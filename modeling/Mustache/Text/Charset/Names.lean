import Mustache.Text.Charset.Korean
import Mustache.Text.Charset.Pages
import Mustache.Text.Charset.Spelled
import Mustache.Text.Charset.Switching

/-!
# Names of charsets

A charset has a canonical name, a key under which it is found, and any number of aliases for the
key.

## Main definitions

* `Mustache.Text.Coding` — how a charset relates characters and bytes.
* `Mustache.Text.charsetTable` — the charsets by key.
* `Mustache.Text.charsetAliases` — the aliases of the keys.
-/

namespace Mustache.Text

/-- How a charset relates characters and bytes. -/
inductive Coding where
  /-- All characters can be represented, and a text is read back as it was written. -/
  | everything (read : List UInt8 → Except DecodingFailure (List Char))
  /-- The first code points, each as a byte. -/
  | codePointsBelow (limit : Nat)
  /-- ASCII and the characters of the upper half of a page. -/
  | asciiPage (upper : String)
  /-- The characters of a page. -/
  | page (all : String)
  /-- A text is written with substitutes for the characters that do not fit, and may be read back
  as another. -/
  | multibyte (write : (Char → List Char) → List Char → List Nat)
      (read : List Nat → Option (List Char))
  /-- No text is written. -/
  | readOnly (read : List UInt8 → Except DecodingFailure (List Char))
  /-- The name stands for a transformation that is not a charset of text. -/
  | notText

namespace Coding

/-- A charset that represents all characters, with a reader of numbers. -/
def ofReader (read : List Nat → Option (List Char)) : Coding :=
  .everything fun bs => orInvalid (read (bs.map UInt8.toNat))

/-- A charset that needs no memory. -/
def stateless (s : Stateless) : Coding := .multibyte s.encode s.decode

/-- A charset with escape sequences. -/
def switching (r : Repertory) : Coding := .multibyte r.encode r.decode

end Coding

/-- The charsets: key, canonical name, coding. -/
def charsetTable : List (String × String × Coding) := [
  ("ascii", "ascii", .codePointsBelow 128), ("base64_codec", "base64", .notText),
  ("big5", "big5", .stateless .big5), ("big5hkscs", "big5hkscs", .stateless .big5Hkscs),
  ("bz2_codec", "bz2", .notText), ("charmap", "charmap", .codePointsBelow 256),
  ("cp037", "cp037", .page Pages.cp037), ("cp1006", "cp1006", .asciiPage Pages.cp1006),
  ("cp1026", "cp1026", .page Pages.cp1026), ("cp1125", "cp1125", .asciiPage Pages.cp1125),
  ("cp1140", "cp1140", .page Pages.cp1140), ("cp1250", "cp1250", .asciiPage Pages.cp1250),
  ("cp1251", "cp1251", .asciiPage Pages.cp1251), ("cp1252", "cp1252", .asciiPage Pages.cp1252),
  ("cp1253", "cp1253", .asciiPage Pages.cp1253), ("cp1254", "cp1254", .asciiPage Pages.cp1254),
  ("cp1255", "cp1255", .asciiPage Pages.cp1255), ("cp1256", "cp1256", .asciiPage Pages.cp1256),
  ("cp1257", "cp1257", .asciiPage Pages.cp1257), ("cp1258", "cp1258", .asciiPage Pages.cp1258),
  ("cp273", "cp273", .page Pages.cp273), ("cp424", "cp424", .page Pages.cp424),
  ("cp437", "cp437", .asciiPage Pages.cp437), ("cp500", "cp500", .page Pages.cp500),
  ("cp720", "cp720", .asciiPage Pages.cp720), ("cp737", "cp737", .asciiPage Pages.cp737),
  ("cp775", "cp775", .asciiPage Pages.cp775), ("cp850", "cp850", .asciiPage Pages.cp850),
  ("cp852", "cp852", .asciiPage Pages.cp852), ("cp855", "cp855", .asciiPage Pages.cp855),
  ("cp856", "cp856", .asciiPage Pages.cp856), ("cp857", "cp857", .asciiPage Pages.cp857),
  ("cp858", "cp858", .asciiPage Pages.cp858), ("cp860", "cp860", .asciiPage Pages.cp860),
  ("cp861", "cp861", .asciiPage Pages.cp861), ("cp862", "cp862", .asciiPage Pages.cp862),
  ("cp863", "cp863", .asciiPage Pages.cp863), ("cp864", "cp864", .page Pages.cp864),
  ("cp865", "cp865", .asciiPage Pages.cp865), ("cp866", "cp866", .asciiPage Pages.cp866),
  ("cp869", "cp869", .asciiPage Pages.cp869), ("cp874", "cp874", .asciiPage Pages.cp874),
  ("cp875", "cp875", .page Pages.cp875), ("cp932", "cp932", .stateless .cp932),
  ("cp949", "cp949", .stateless .cp949), ("cp950", "cp950", .stateless .cp950),
  ("euc_jis_2004", "euc_jis_2004", .stateless .eucJis2004),
  ("euc_jisx0213", "euc_jisx0213", .stateless .eucJisx0213),
  ("euc_jp", "euc_jp", .stateless .eucJp), ("euc_kr", "euc_kr", .stateless .eucKr),
  ("gb18030", "gb18030", .ofReader Stateless.decodeGb18030),
  ("gb2312", "gb2312", .stateless .gb2312),
  ("gbk", "gbk", .stateless .gbk), ("hex_codec", "hex", .notText),
  ("hp_roman8", "hp-roman8", .asciiPage Pages.hproman8),
  ("hz", "hz", .multibyte Hz.encode Hz.decode),
  ("idna", "idna", .readOnly fun bs => Spelled.readLabels (bs.map UInt8.toNat)),
  ("iso2022_jp", "iso2022_jp", .switching .jp), ("iso2022_jp_1", "iso2022_jp_1", .switching .jp1),
  ("iso2022_jp_2", "iso2022_jp_2", .switching .jp2),
  ("iso2022_jp_2004", "iso2022_jp_2004", .switching .jp2004),
  ("iso2022_jp_3", "iso2022_jp_3", .switching .jp3),
  ("iso2022_jp_ext", "iso2022_jp_ext", .switching .jpExt),
  ("iso2022_kr", "iso2022_kr", .switching .kr),
  ("iso8859_1", "iso8859-1", .asciiPage Pages.iso88591),
  ("iso8859_10", "iso8859-10", .asciiPage Pages.iso885910),
  ("iso8859_11", "iso8859-11", .asciiPage Pages.iso885911),
  ("iso8859_13", "iso8859-13", .asciiPage Pages.iso885913),
  ("iso8859_14", "iso8859-14", .asciiPage Pages.iso885914),
  ("iso8859_15", "iso8859-15", .asciiPage Pages.iso885915),
  ("iso8859_16", "iso8859-16", .asciiPage Pages.iso885916),
  ("iso8859_2", "iso8859-2", .asciiPage Pages.iso88592),
  ("iso8859_3", "iso8859-3", .asciiPage Pages.iso88593),
  ("iso8859_4", "iso8859-4", .asciiPage Pages.iso88594),
  ("iso8859_5", "iso8859-5", .asciiPage Pages.iso88595),
  ("iso8859_6", "iso8859-6", .asciiPage Pages.iso88596),
  ("iso8859_7", "iso8859-7", .asciiPage Pages.iso88597),
  ("iso8859_8", "iso8859-8", .asciiPage Pages.iso88598),
  ("iso8859_9", "iso8859-9", .asciiPage Pages.iso88599), ("johab", "johab", .stateless .johab),
  ("koi8_r", "koi8-r", .asciiPage Pages.koi8r), ("koi8_t", "koi8-t", .asciiPage Pages.koi8t),
  ("koi8_u", "koi8-u", .asciiPage Pages.koi8u), ("kz1048", "kz1048", .asciiPage Pages.kz1048),
  ("latin_1", "iso8859-1", .codePointsBelow 256),
  ("mac_arabic", "mac-arabic", .asciiPage Pages.macarabic),
  ("mac_croatian", "mac-croatian", .asciiPage Pages.maccroatian),
  ("mac_cyrillic", "mac-cyrillic", .asciiPage Pages.maccyrillic),
  ("mac_farsi", "mac-farsi", .asciiPage Pages.macfarsi),
  ("mac_greek", "mac-greek", .asciiPage Pages.macgreek),
  ("mac_iceland", "mac-iceland", .asciiPage Pages.maciceland),
  ("mac_latin2", "mac-latin2", .asciiPage Pages.maclatin2),
  ("mac_roman", "mac-roman", .asciiPage Pages.macroman),
  ("mac_romanian", "mac-romanian", .asciiPage Pages.macromanian),
  ("mac_turkish", "mac-turkish", .asciiPage Pages.macturkish),
  ("palmos", "palmos", .asciiPage Pages.palmos), ("ptcp154", "ptcp154", .asciiPage Pages.ptcp154),
  ("punycode", "punycode", .everything fun bs => Spelled.readPunycode (bs.map UInt8.toNat)),
  ("quopri_codec", "quopri", .notText),
  ("raw_unicode_escape", "raw-unicode-escape",
    .multibyte (fun _ => Spelled.writeRaw) Spelled.readRaw),
  ("rot_13", "rot-13", .notText), ("shift_jis", "shift_jis", .stateless .shiftJis),
  ("shift_jis_2004", "shift_jis_2004", .stateless .shiftJis2004),
  ("shift_jisx0213", "shift_jisx0213", .stateless .shiftJisx0213),
  ("tis_620", "tis-620", .asciiPage Pages.tis620),
  ("undefined", "undefined", .readOnly fun _ => .error .refused),
  ("unicode_escape", "unicode-escape", .ofReader Spelled.readEscapes),
  ("utf_16", "utf-16", .everything (Unicode.ofMarked 2 Unicode.ofUnits16?)),
  ("utf_16_be", "utf-16-be", .everything (Unicode.ofUtf16 true)),
  ("utf_16_le", "utf-16-le", .everything (Unicode.ofUtf16 false)),
  ("utf_32", "utf-32", .everything (Unicode.ofMarked 4 Unicode.ofUnits32?)),
  ("utf_32_be", "utf-32-be", .everything (Unicode.ofUtf32 true)),
  ("utf_32_le", "utf-32-le", .everything (Unicode.ofUtf32 false)),
  ("utf_7", "utf-7", .ofReader Spelled.readUtf7), ("utf_8", "utf-8", .everything Unicode.ofUtf8),
  ("utf_8_sig", "utf-8-sig", .everything Unicode.ofMarkedUtf8), ("uu_codec", "uu", .notText),
  ("zlib_codec", "zlib", .notText)]

/-- The aliases, each with the key it stands for. -/
def charsetAliases : List (String × String) := [
  ("037", "cp037"), ("1026", "cp1026"), ("1125", "cp1125"), ("1140", "cp1140"), ("1250", "cp1250"),
  ("1251", "cp1251"), ("1252", "cp1252"), ("1253", "cp1253"), ("1254", "cp1254"),
  ("1255", "cp1255"), ("1256", "cp1256"), ("1257", "cp1257"), ("1258", "cp1258"), ("273", "cp273"),
  ("424", "cp424"), ("437", "cp437"), ("500", "cp500"), ("646", "ascii"), ("775", "cp775"),
  ("850", "cp850"), ("852", "cp852"), ("855", "cp855"), ("857", "cp857"), ("858", "cp858"),
  ("860", "cp860"), ("861", "cp861"), ("862", "cp862"), ("863", "cp863"), ("864", "cp864"),
  ("865", "cp865"), ("866", "cp866"), ("869", "cp869"), ("8859", "latin_1"), ("932", "cp932"),
  ("936", "gbk"), ("949", "cp949"), ("950", "cp950"), ("ansi_x3.4_1968", "ascii"),
  ("ansi_x3.4_1986", "ascii"), ("ansi_x3_4_1968", "ascii"), ("arabic", "iso8859_6"),
  ("asmo_708", "iso8859_6"), ("base64", "base64_codec"), ("base_64", "base64_codec"),
  ("big5_hkscs", "big5hkscs"), ("big5_tw", "big5"), ("bz2", "bz2_codec"), ("chinese", "gb2312"),
  ("cp1051", "hp_roman8"), ("cp1361", "johab"), ("cp154", "ptcp154"), ("cp367", "ascii"),
  ("cp65001", "utf_8"), ("cp819", "latin_1"), ("cp866u", "cp1125"), ("cp936", "gbk"),
  ("cp_gr", "cp869"), ("cp_is", "cp861"), ("csHPRoman8", "hp_roman8"), ("csascii", "ascii"),
  ("csbig5", "big5"), ("csibm037", "cp037"), ("csibm1026", "cp1026"), ("csibm273", "cp273"),
  ("csibm424", "cp424"), ("csibm500", "cp500"), ("csibm855", "cp855"), ("csibm857", "cp857"),
  ("csibm858", "cp858"), ("csibm860", "cp860"), ("csibm861", "cp861"), ("csibm863", "cp863"),
  ("csibm864", "cp864"), ("csibm865", "cp865"), ("csibm866", "cp866"), ("csibm869", "cp869"),
  ("csiso2022jp", "iso2022_jp"), ("csiso2022kr", "iso2022_kr"), ("csiso58gb231280", "gb2312"),
  ("csisolatin1", "latin_1"), ("csisolatin2", "iso8859_2"), ("csisolatin3", "iso8859_3"),
  ("csisolatin4", "iso8859_4"), ("csisolatin5", "iso8859_9"), ("csisolatin6", "iso8859_10"),
  ("csisolatinarabic", "iso8859_6"), ("csisolatincyrillic", "iso8859_5"),
  ("csisolatingreek", "iso8859_7"), ("csisolatinhebrew", "iso8859_8"), ("cskoi8r", "koi8_r"),
  ("cspc775baltic", "cp775"), ("cspc850multilingual", "cp850"), ("cspc862latinhebrew", "cp862"),
  ("cspc8codepage437", "cp437"), ("cspcp852", "cp852"), ("csptcp154", "ptcp154"),
  ("csshiftjis", "shift_jis"), ("cyrillic", "iso8859_5"), ("cyrillic_asian", "ptcp154"),
  ("ebcdic_cp_be", "cp500"), ("ebcdic_cp_ca", "cp037"), ("ebcdic_cp_ch", "cp500"),
  ("ebcdic_cp_he", "cp424"), ("ebcdic_cp_nl", "cp037"), ("ebcdic_cp_us", "cp037"),
  ("ebcdic_cp_wt", "cp037"), ("ecma_114", "iso8859_6"), ("ecma_118", "iso8859_7"),
  ("elot_928", "iso8859_7"), ("euc_cn", "gb2312"), ("euc_jis2004", "euc_jis_2004"),
  ("euccn", "gb2312"), ("eucgb2312_cn", "gb2312"), ("eucjis2004", "euc_jis_2004"),
  ("eucjisx0213", "euc_jisx0213"), ("eucjp", "euc_jp"), ("euckr", "euc_kr"),
  ("gb18030_2000", "gb18030"), ("gb2312_1980", "gb2312"), ("gb2312_80", "gb2312"),
  ("greek", "iso8859_7"), ("greek8", "iso8859_7"), ("hebrew", "iso8859_8"), ("hex", "hex_codec"),
  ("hkscs", "big5hkscs"), ("hz_gb", "hz"), ("hz_gb_2312", "hz"), ("hzgb", "hz"),
  ("ibm037", "cp037"), ("ibm039", "cp037"), ("ibm1026", "cp1026"), ("ibm1051", "hp_roman8"),
  ("ibm1125", "cp1125"), ("ibm1140", "cp1140"), ("ibm273", "cp273"), ("ibm367", "ascii"),
  ("ibm424", "cp424"), ("ibm437", "cp437"), ("ibm500", "cp500"), ("ibm775", "cp775"),
  ("ibm819", "latin_1"), ("ibm850", "cp850"), ("ibm852", "cp852"), ("ibm855", "cp855"),
  ("ibm857", "cp857"), ("ibm858", "cp858"), ("ibm860", "cp860"), ("ibm861", "cp861"),
  ("ibm862", "cp862"), ("ibm863", "cp863"), ("ibm864", "cp864"), ("ibm865", "cp865"),
  ("ibm866", "cp866"), ("ibm869", "cp869"), ("iso2022jp", "iso2022_jp"),
  ("iso2022jp_1", "iso2022_jp_1"), ("iso2022jp_2", "iso2022_jp_2"),
  ("iso2022jp_2004", "iso2022_jp_2004"), ("iso2022jp_3", "iso2022_jp_3"),
  ("iso2022jp_ext", "iso2022_jp_ext"), ("iso2022kr", "iso2022_kr"), ("iso646_us", "ascii"),
  ("iso8859", "latin_1"), ("iso8859_1", "latin_1"), ("iso_2022_jp", "iso2022_jp"),
  ("iso_2022_jp_1", "iso2022_jp_1"), ("iso_2022_jp_2", "iso2022_jp_2"),
  ("iso_2022_jp_2004", "iso2022_jp_2004"), ("iso_2022_jp_3", "iso2022_jp_3"),
  ("iso_2022_jp_ext", "iso2022_jp_ext"), ("iso_2022_kr", "iso2022_kr"),
  ("iso_646.irv_1991", "ascii"), ("iso_8859_1", "latin_1"), ("iso_8859_10", "iso8859_10"),
  ("iso_8859_10_1992", "iso8859_10"), ("iso_8859_11", "iso8859_11"),
  ("iso_8859_11_2001", "iso8859_11"), ("iso_8859_13", "iso8859_13"), ("iso_8859_14", "iso8859_14"),
  ("iso_8859_14_1998", "iso8859_14"), ("iso_8859_15", "iso8859_15"), ("iso_8859_16", "iso8859_16"),
  ("iso_8859_16_2001", "iso8859_16"), ("iso_8859_1_1987", "latin_1"), ("iso_8859_2", "iso8859_2"),
  ("iso_8859_2_1987", "iso8859_2"), ("iso_8859_3", "iso8859_3"), ("iso_8859_3_1988", "iso8859_3"),
  ("iso_8859_4", "iso8859_4"), ("iso_8859_4_1988", "iso8859_4"), ("iso_8859_5", "iso8859_5"),
  ("iso_8859_5_1988", "iso8859_5"), ("iso_8859_6", "iso8859_6"), ("iso_8859_6_1987", "iso8859_6"),
  ("iso_8859_7", "iso8859_7"), ("iso_8859_7_1987", "iso8859_7"), ("iso_8859_8", "iso8859_8"),
  ("iso_8859_8_1988", "iso8859_8"), ("iso_8859_9", "iso8859_9"), ("iso_8859_9_1989", "iso8859_9"),
  ("iso_celtic", "iso8859_14"), ("iso_ir_100", "latin_1"), ("iso_ir_101", "iso8859_2"),
  ("iso_ir_109", "iso8859_3"), ("iso_ir_110", "iso8859_4"), ("iso_ir_126", "iso8859_7"),
  ("iso_ir_127", "iso8859_6"), ("iso_ir_138", "iso8859_8"), ("iso_ir_144", "iso8859_5"),
  ("iso_ir_148", "iso8859_9"), ("iso_ir_157", "iso8859_10"), ("iso_ir_166", "tis_620"),
  ("iso_ir_199", "iso8859_14"), ("iso_ir_226", "iso8859_16"), ("iso_ir_58", "gb2312"),
  ("iso_ir_6", "ascii"), ("jisx0213", "euc_jis_2004"), ("korean", "euc_kr"),
  ("ks_c_5601", "euc_kr"), ("ks_c_5601_1987", "euc_kr"), ("ks_x_1001", "euc_kr"),
  ("ksc5601", "euc_kr"), ("ksx1001", "euc_kr"), ("kz_1048", "kz1048"), ("l1", "latin_1"),
  ("l10", "iso8859_16"), ("l2", "iso8859_2"), ("l3", "iso8859_3"), ("l4", "iso8859_4"),
  ("l5", "iso8859_9"), ("l6", "iso8859_10"), ("l7", "iso8859_13"), ("l8", "iso8859_14"),
  ("l9", "iso8859_15"), ("latin", "latin_1"), ("latin1", "latin_1"), ("latin10", "iso8859_16"),
  ("latin2", "iso8859_2"), ("latin3", "iso8859_3"), ("latin4", "iso8859_4"),
  ("latin5", "iso8859_9"), ("latin6", "iso8859_10"), ("latin7", "iso8859_13"),
  ("latin8", "iso8859_14"), ("latin9", "iso8859_15"), ("mac_centeuro", "mac_latin2"),
  ("maccentraleurope", "mac_latin2"), ("maccyrillic", "mac_cyrillic"), ("macgreek", "mac_greek"),
  ("maciceland", "mac_iceland"), ("macintosh", "mac_roman"), ("maclatin2", "mac_latin2"),
  ("macroman", "mac_roman"), ("macturkish", "mac_turkish"), ("ms1361", "johab"), ("ms932", "cp932"),
  ("ms936", "gbk"), ("ms949", "cp949"), ("ms950", "cp950"), ("ms_kanji", "cp932"),
  ("mskanji", "cp932"), ("pt154", "ptcp154"), ("quopri", "quopri_codec"),
  ("quoted_printable", "quopri_codec"), ("quotedprintable", "quopri_codec"), ("r8", "hp_roman8"),
  ("rk1048", "kz1048"), ("roman8", "hp_roman8"), ("rot13", "rot_13"), ("ruscii", "cp1125"),
  ("s_jis", "shift_jis"), ("s_jis_2004", "shift_jis_2004"), ("s_jisx0213", "shift_jisx0213"),
  ("shiftjis", "shift_jis"), ("shiftjis2004", "shift_jis_2004"),
  ("shiftjisx0213", "shift_jisx0213"), ("sjis", "shift_jis"), ("sjis_2004", "shift_jis_2004"),
  ("sjisx0213", "shift_jisx0213"), ("strk1048_2002", "kz1048"), ("thai", "iso8859_11"),
  ("tis620", "tis_620"), ("tis_620_0", "tis_620"), ("tis_620_2529_0", "tis_620"),
  ("tis_620_2529_1", "tis_620"), ("u16", "utf_16"), ("u32", "utf_32"), ("u7", "utf_7"),
  ("u8", "utf_8"), ("u_jis", "euc_jp"), ("uhc", "cp949"), ("ujis", "euc_jp"),
  ("unicode_1_1_utf_7", "utf_7"), ("unicodebigunmarked", "utf_16_be"),
  ("unicodelittleunmarked", "utf_16_le"), ("us", "ascii"), ("us_ascii", "ascii"), ("utf", "utf_8"),
  ("utf16", "utf_16"), ("utf32", "utf_32"), ("utf7", "utf_7"), ("utf8", "utf_8"),
  ("utf8_ucs2", "utf_8"), ("utf8_ucs4", "utf_8"), ("utf_16be", "utf_16_be"),
  ("utf_16le", "utf_16_le"), ("utf_32be", "utf_32_be"), ("utf_32le", "utf_32_le"),
  ("uu", "uu_codec"), ("windows_1250", "cp1250"), ("windows_1251", "cp1251"),
  ("windows_1252", "cp1252"), ("windows_1253", "cp1253"), ("windows_1254", "cp1254"),
  ("windows_1255", "cp1255"), ("windows_1256", "cp1256"), ("windows_1257", "cp1257"),
  ("windows_1258", "cp1258"), ("x_mac_japanese", "shift_jis"), ("x_mac_korean", "euc_kr"),
  ("x_mac_simp_chinese", "gb2312"), ("x_mac_trad_chinese", "big5"), ("zip", "zlib_codec"),
  ("zlib", "zlib_codec")]

end Mustache.Text
