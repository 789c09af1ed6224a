import Localize.Charset.Codepage

/-!
# Names of charsets

A charset has one name of its own and any number of others.  Names are compared letter by letter
and digit by digit, in lower case; what stands between these is all one.  A point counts in the
name of its own that a charset has, and in any other it is like all that stands between.

There are also names of ways to write bytes as other bytes.  They are known, and what they name
is no charset; a text that says that it is written like this is taken for UTF-8.
-/

set_option autoImplicit false

namespace Localize

namespace Charset

/-- A charset with its names. -/
structure Named where
  name : Text
  others : List Text
  charset : Charset

/-- The charsets that have names. -/
def named : List Named := [
  ⟨"ascii",
    ["646", "ansi_x3_4_1968", "ansi_x3.4_1986", "cp367", "csascii", "ibm367", "iso646_us",
      "iso_646.irv_1991", "iso_ir_6", "us", "us_ascii"], .ascii⟩,
  ⟨"charmap", [], .latin1⟩,
  ⟨"cp037",
    ["037", "csibm037", "ebcdic_cp_ca", "ebcdic_cp_nl", "ebcdic_cp_us", "ebcdic_cp_wt",
      "ibm037", "ibm039"], Codepage.cp037⟩,
  ⟨"cp1006", [], Codepage.cp1006⟩,
  ⟨"cp1026", ["1026", "csibm1026", "ibm1026"], Codepage.cp1026⟩,
  ⟨"cp1125", ["1125", "ibm1125", "cp866u", "ruscii"], Codepage.cp1125⟩,
  ⟨"cp1140", ["1140", "ibm1140"], Codepage.cp1140⟩,
  ⟨"cp1250", ["1250", "windows_1250"], Codepage.cp1250⟩,
  ⟨"cp1251", ["1251", "windows_1251"], Codepage.cp1251⟩,
  ⟨"cp1252", ["1252", "windows_1252"], Codepage.cp1252⟩,
  ⟨"cp1253", ["1253", "windows_1253"], Codepage.cp1253⟩,
  ⟨"cp1254", ["1254", "windows_1254"], Codepage.cp1254⟩,
  ⟨"cp1255", ["1255", "windows_1255"], Codepage.cp1255⟩,
  ⟨"cp1256", ["1256", "windows_1256"], Codepage.cp1256⟩,
  ⟨"cp1257", ["1257", "windows_1257"], Codepage.cp1257⟩,
  ⟨"cp1258", ["1258", "windows_1258"], Codepage.cp1258⟩,
  ⟨"cp273", ["273", "ibm273", "csibm273"], Codepage.cp273⟩,
  ⟨"cp424", ["424", "csibm424", "ebcdic_cp_he", "ibm424"], Codepage.cp424⟩,
  ⟨"cp437", ["437", "cspc8codepage437", "ibm437"], Codepage.cp437⟩,
  ⟨"cp500", ["500", "csibm500", "ebcdic_cp_be", "ebcdic_cp_ch", "ibm500"], Codepage.cp500⟩,
  ⟨"cp720", [], Codepage.cp720⟩,
  ⟨"cp737", [], Codepage.cp737⟩,
  ⟨"cp775", ["775", "cspc775baltic", "ibm775"], Codepage.cp775⟩,
  ⟨"cp850", ["850", "cspc850multilingual", "ibm850"], Codepage.cp850⟩,
  ⟨"cp852", ["852", "cspcp852", "ibm852"], Codepage.cp852⟩,
  ⟨"cp855", ["855", "csibm855", "ibm855"], Codepage.cp855⟩,
  ⟨"cp856", [], Codepage.cp856⟩,
  ⟨"cp857", ["857", "csibm857", "ibm857"], Codepage.cp857⟩,
  ⟨"cp858", ["858", "csibm858", "ibm858"], Codepage.cp858⟩,
  ⟨"cp860", ["860", "csibm860", "ibm860"], Codepage.cp860⟩,
  ⟨"cp861", ["861", "cp_is", "csibm861", "ibm861"], Codepage.cp861⟩,
  ⟨"cp862", ["862", "cspc862latinhebrew", "ibm862"], Codepage.cp862⟩,
  ⟨"cp863", ["863", "csibm863", "ibm863"], Codepage.cp863⟩,
  ⟨"cp864", ["864", "csibm864", "ibm864"], Codepage.cp864⟩,
  ⟨"cp865", ["865", "csibm865", "ibm865"], Codepage.cp865⟩,
  ⟨"cp866", ["866", "csibm866", "ibm866"], Codepage.cp866⟩,
  ⟨"cp869", ["869", "cp_gr", "csibm869", "ibm869"], Codepage.cp869⟩,
  ⟨"cp874", [], Codepage.cp874⟩,
  ⟨"cp875", [], Codepage.cp875⟩,
  ⟨"hp_roman8", ["roman8", "r8", "cp1051", "ibm1051"], Codepage.hpRoman8⟩,
  ⟨"iso8859_1", [], .latin1⟩,
  ⟨"iso8859_10",
    ["csisolatin6", "iso_8859_10", "iso_8859_10_1992", "iso_ir_157", "l6", "latin6"],
    Codepage.iso885910⟩,
  ⟨"iso8859_11", ["thai", "iso_8859_11", "iso_8859_11_2001"], Codepage.iso885911⟩,
  ⟨"iso8859_13", ["iso_8859_13", "l7", "latin7"], Codepage.iso885913⟩,
  ⟨"iso8859_14",
    ["iso_8859_14", "iso_8859_14_1998", "iso_celtic", "iso_ir_199", "l8", "latin8"],
    Codepage.iso885914⟩,
  ⟨"iso8859_15", ["iso_8859_15", "l9", "latin9"], Codepage.iso885915⟩,
  ⟨"iso8859_16",
    ["iso_8859_16", "iso_8859_16_2001", "iso_ir_226", "l10", "latin10"], Codepage.iso885916⟩,
  ⟨"iso8859_2",
    ["csisolatin2", "iso_8859_2", "iso_8859_2_1987", "iso_ir_101", "l2", "latin2"],
    Codepage.iso88592⟩,
  ⟨"iso8859_3",
    ["csisolatin3", "iso_8859_3", "iso_8859_3_1988", "iso_ir_109", "l3", "latin3"],
    Codepage.iso88593⟩,
  ⟨"iso8859_4",
    ["csisolatin4", "iso_8859_4", "iso_8859_4_1988", "iso_ir_110", "l4", "latin4"],
    Codepage.iso88594⟩,
  ⟨"iso8859_5",
    ["csisolatincyrillic", "cyrillic", "iso_8859_5", "iso_8859_5_1988", "iso_ir_144"],
    Codepage.iso88595⟩,
  ⟨"iso8859_6",
    ["arabic", "asmo_708", "csisolatinarabic", "ecma_114", "iso_8859_6", "iso_8859_6_1987",
      "iso_ir_127"], Codepage.iso88596⟩,
  ⟨"iso8859_7",
    ["csisolatingreek", "ecma_118", "elot_928", "greek", "greek8", "iso_8859_7",
      "iso_8859_7_1987", "iso_ir_126"], Codepage.iso88597⟩,
  ⟨"iso8859_8",
    ["csisolatinhebrew", "hebrew", "iso_8859_8", "iso_8859_8_1988", "iso_ir_138"],
    Codepage.iso88598⟩,
  ⟨"iso8859_9",
    ["csisolatin5", "iso_8859_9", "iso_8859_9_1989", "iso_ir_148", "l5", "latin5"],
    Codepage.iso88599⟩,
  ⟨"koi8_r", ["cskoi8r"], Codepage.koi8R⟩,
  ⟨"koi8_t", [], Codepage.koi8T⟩,
  ⟨"koi8_u", [], Codepage.koi8U⟩,
  ⟨"kz1048", ["kz_1048", "rk1048", "strk1048_2002"], Codepage.kz1048⟩,
  ⟨"latin_1",
    ["8859", "cp819", "csisolatin1", "ibm819", "iso8859", "iso8859_1", "iso_8859_1",
      "iso_8859_1_1987", "iso_ir_100", "l1", "latin", "latin1"], .latin1⟩,
  ⟨"mac_arabic", [], Codepage.macArabic⟩,
  ⟨"mac_croatian", [], Codepage.macCroatian⟩,
  ⟨"mac_cyrillic", ["maccyrillic"], Codepage.macCyrillic⟩,
  ⟨"mac_farsi", [], Codepage.macFarsi⟩,
  ⟨"mac_greek", ["macgreek"], Codepage.macGreek⟩,
  ⟨"mac_iceland", ["maciceland"], Codepage.macIceland⟩,
  ⟨"mac_latin2", ["maccentraleurope", "mac_centeuro", "maclatin2"], Codepage.macLatin2⟩,
  ⟨"mac_roman", ["macintosh", "macroman"], Codepage.macRoman⟩,
  ⟨"mac_romanian", [], Codepage.macRomanian⟩,
  ⟨"mac_turkish", ["macturkish"], Codepage.macTurkish⟩,
  ⟨"palmos", [], Codepage.palmos⟩,
  ⟨"ptcp154", ["csptcp154", "pt154", "cp154", "cyrillic_asian"], Codepage.ptcp154⟩,
  ⟨"tis_620",
    ["tis620", "tis_620_0", "tis_620_2529_0", "tis_620_2529_1", "iso_ir_166"], Codepage.tis620⟩,
  ⟨"undefined", [], .undefined⟩,
  ⟨"utf_16", ["u16", "utf16"], .utf16 none⟩,
  ⟨"utf_16_be", ["unicodebigunmarked", "utf_16be"], .utf16 (some .big)⟩,
  ⟨"utf_16_le", ["unicodelittleunmarked", "utf_16le"], .utf16 (some .little)⟩,
  ⟨"utf_32", ["u32", "utf32"], .utf32 none⟩,
  ⟨"utf_32_be", ["utf_32be"], .utf32 (some .big)⟩,
  ⟨"utf_32_le", ["utf_32le"], .utf32 (some .little)⟩,
  ⟨"utf_7", ["u7", "utf7", "unicode_1_1_utf_7"], .utf7⟩,
  ⟨"utf_8", ["u8", "utf", "utf8", "utf8_ucs2", "utf8_ucs4", "cp65001"], .utf8⟩,
  ⟨"utf_8_sig", [], .utf8Marked⟩,
  ⟨"big5", ["big5_tw", "csbig5", "x_mac_trad_chinese"], .multibyte .big5⟩,
  ⟨"big5hkscs", ["big5_hkscs", "hkscs"], .multibyte .big5hkscs⟩,
  ⟨"cp932", ["932", "ms932", "mskanji", "ms_kanji"], .multibyte .cp932⟩,
  ⟨"cp949", ["949", "ms949", "uhc"], .multibyte .cp949⟩,
  ⟨"cp950", ["950", "ms950"], .multibyte .cp950⟩,
  ⟨"euc_jis_2004", ["jisx0213", "eucjis2004", "euc_jis2004"], .multibyte (.eucJis0213 true)⟩,
  ⟨"euc_jisx0213", ["eucjisx0213"], .multibyte (.eucJis0213 false)⟩,
  ⟨"euc_jp", ["eucjp", "ujis", "u_jis"], .multibyte .eucJp⟩,
  ⟨"euc_kr",
    ["euckr", "korean", "ksc5601", "ks_c_5601", "ks_c_5601_1987", "ksx1001", "ks_x_1001",
      "x_mac_korean"], .multibyte .eucKr⟩,
  ⟨"gb18030", ["gb18030_2000"], .multibyte .gb18030⟩,
  ⟨"gb2312",
    ["chinese", "csiso58gb231280", "euc_cn", "euccn", "eucgb2312_cn", "gb2312_1980", "gb2312_80",
      "iso_ir_58", "x_mac_simp_chinese"], .multibyte .gb2312⟩,
  ⟨"gbk", ["936", "cp936", "ms936"], .multibyte .gbk⟩,
  ⟨"hz", ["hzgb", "hz_gb", "hz_gb_2312"], .hz false⟩,
  ⟨"idna", [], .domain⟩,
  ⟨"iso2022_jp", ["csiso2022jp", "iso2022jp", "iso_2022_jp"], .iso2022 .jp {}⟩,
  ⟨"iso2022_jp_1", ["iso2022jp_1", "iso_2022_jp_1"], .iso2022 .jp1 {}⟩,
  ⟨"iso2022_jp_2", ["iso2022jp_2", "iso_2022_jp_2"], .iso2022 .jp2 {}⟩,
  ⟨"iso2022_jp_2004", ["iso_2022_jp_2004", "iso2022jp_2004"], .iso2022 .jp2004 {}⟩,
  ⟨"iso2022_jp_3", ["iso2022jp_3", "iso_2022_jp_3"], .iso2022 .jp3 {}⟩,
  ⟨"iso2022_jp_ext", ["iso2022jp_ext", "iso_2022_jp_ext"], .iso2022 .jpExt {}⟩,
  ⟨"iso2022_kr", ["csiso2022kr", "iso2022kr", "iso_2022_kr"], .iso2022 .kr {}⟩,
  ⟨"johab", ["cp1361", "ms1361"], .multibyte .johab⟩,
  ⟨"punycode", [], .punycode⟩,
  ⟨"raw_unicode_escape", [], .escaped true⟩,
  ⟨"shift_jis",
    ["csshiftjis", "shiftjis", "sjis", "s_jis", "x_mac_japanese"], .multibyte .shiftJis⟩,
  ⟨"shift_jis_2004", ["shiftjis2004", "sjis_2004", "s_jis_2004"], .multibyte (.shiftJis0213 true)⟩,
  ⟨"shift_jisx0213",
    ["shiftjisx0213", "sjisx0213", "s_jisx0213"], .multibyte (.shiftJis0213 false)⟩,
  ⟨"unicode_escape", [], .escaped false⟩]

/-- The names of ways to write bytes as other bytes. -/
def transfers : List Text := [
  "base64_codec", "base64", "base_64",
  "bz2_codec", "bz2",
  "hex_codec", "hex",
  "quopri_codec", "quopri", "quoted_printable", "quotedprintable",
  "rot_13", "rot13",
  "uu_codec", "uu",
  "zlib_codec", "zip", "zlib"]

/-- A name in lower case, with a single underscore for each run of what is no letter, no digit and
no point, and none at the ends. -/
def plainName (t : Text) : Text :=
  let isPart (c : CodePoint) : Bool := c.isLetter || c.isDigit || c = '.'
  let marked := (Text.asciiLower t).map fun c => if isPart c then c else '_'
  Text.join "_" ((Text.splitOn "_" marked).filter (· ≠ []))

/-- The charset of a name. -/
def ofName? (t : Text) : Option Charset :=
  let name := plainName t
  let pointless := Text.replace "." "_" name
  match named.find? fun n => name ∈ n.others || pointless ∈ n.others || name = n.name with
  | some n => some n.charset
  | none => if name ∈ transfers || pointless ∈ transfers then some .utf8 else none

end Charset

end Localize
