import Webhook.Unicode.Script

/-!
# Script extensions

Many characters that are common to several scripts are used with a few of them only.  The script
extensions of a script are its own characters together with those.
-/

namespace Webhook.Unicode

open Text (Ranges)

/-- The characters used with each script that belong to none or to another one. -/
def borrowedTables : List (String × List String) :=
  [
    ("Adlam",
      [ "61f 640 204f 2e41" ]),
    ("Arabic",
      [ "60c 61b 61f 640 64b-655 670 204f 2e41 fd3e-fd3f 102e0-102fb" ]),
    ("Armenian",
      [ "308" ]),
    ("Avestan",
      [ "b7 2e30-2e31" ]),
    ("Bengali",
      [ "2bc 951-952 964-965 1cd0 1cd2 1cd5-1cd6 1cd8 1ce1 1cea 1ced 1cf2 1cf5-1cf7 a8f1" ]),
    ("Bopomofo",
      [ "2c7 2c9-2cb 2d9 3001-3003 3008-3011 3013-301f 302a-302d 3030 3037 30fb fe45-fe46",
        "ff61-ff65" ]),
    ("Buginese",
      [ "a9cf" ]),
    ("Buhid",
      [ "1735-1736" ]),
    ("Carian",
      [ "b7 205a 205d 2e31" ]),
    ("Caucasian_Albanian",
      [ "304 331 35e" ]),
    ("Chakma",
      [ "9e6-9ef 1040-1049" ]),
    ("Cherokee",
      [ "300-302 304 30b-30c 323-324 330-331" ]),
    ("Coptic",
      [ "b7 300 304-305 307 374-375 2e17 102e0-102fb" ]),
    ("Cypriot",
      [ "10100-10102 10107-10133 10137-1013f" ]),
    ("Cypro_Minoan",
      [ "10100-10101" ]),
    ("Cyrillic",
      [ "2bc 300-302 304 306 308 30b 311 485-486 1df8 2e43" ]),
    ("Devanagari",
      [ "2bc 951-952 964-965 1cd0-1cf6 1cf8-1cf9 20f0 a830-a839" ]),
    ("Dogra",
      [ "964-96f a830-a839" ]),
    ("Duployan",
      [ "b7 307-308 30a 323-324 2e3c 1bca0-1bca3" ]),
    ("Elbasan",
      [ "b7 305" ]),
    ("Ethiopic",
      [ "30e" ]),
    ("Garay",
      [ "60c 61b 61f" ]),
    ("Georgian",
      [ "b7 589 10fb 205a 2e31" ]),
    ("Glagolitic",
      [ "b7 303 305 484 487 589 10fb 205a 2e43 a66f" ]),
    ("Gothic",
      [ "b7 304-305 308 331" ]),
    ("Grantha",
      [ "951-952 964-965 be6-bf3 1cd0 1cd2-1cd3 1cf2-1cf4 1cf8-1cf9 20f0 1133b 11fd0-11fd1 11fd3" ]),
    ("Greek",
      [ "b7 300-301 304 306 308 313 342 345 374 1dc0-1dc1 205d" ]),
    ("Gujarati",
      [ "951-952 964-965 a830-a839" ]),
    ("Gunjala_Gondi",
      [ "b7 964-965" ]),
    ("Gurmukhi",
      [ "951-952 964-965 a830-a839" ]),
    ("Gurung_Khema",
      [ "965" ]),
    ("Han",
      [ "b7 2ff0-2fff 3001-3003 3006 3008-3011 3013-301f 302a-302d 3030 3037 303c-303f 30fb",
        "3190-319f 31c0-31e5 31ef 3220-3247 3280-32b0 32c0-32cb 32ff 3358-3370 337b-337f",
        "33e0-33fe a700-a707 fe45-fe46 ff61-ff65 1d360-1d371 1f250-1f251" ]),
    ("Hangul",
      [ "3001-3003 3008-3011 3013-301f 3030 3037 30fb fe45-fe46 ff61-ff65" ]),
    ("Hanifi_Rohingya",
      [ "60c 61b 61f 640 6d4" ]),
    ("Hanunoo",
      [ "1735-1736" ]),
    ("Hebrew",
      [ "307-308" ]),
    ("Hiragana",
      [ "3001-3003 3008-3011 3013-301f 3030-3035 3037 303c-303d 3099-309c 30a0 30fb-30fc",
        "fe45-fe46 ff61-ff65 ff70 ff9e-ff9f" ]),
    ("Javanese",
      [ "a9cf" ]),
    ("Kaithi",
      [ "966-96f 2e31 a830-a839" ]),
    ("Kannada",
      [ "951-952 964-965 1cd0 1cd2-1cd3 1cda 1cf2 1cf4 a830-a835" ]),
    ("Katakana",
      [ "305 323 3001-3003 3008-3011 3013-301f 3030-3035 3037 303c-303d 3099-309c 30a0 30fb-30fc",
        "fe45-fe46 ff61-ff65 ff70 ff9e-ff9f" ]),
    ("Kayah_Li",
      [ "a92e" ]),
    ("Khojki",
      [ "ae6-aef a830-a839" ]),
    ("Khudawadi",
      [ "964-965 a830-a839" ]),
    ("Latin",
      [ "b7 2bc 2c7 2c9-2cb 2cd 2d7 2d9 300-30e 310-311 313 323-325 32d-32e 330-331 358 35e",
        "363-36f 485-486 951-952 10fb 1df8 202f 20f0 2e17 a700-a707 a92e" ]),
    ("Limbu",
      [ "965" ]),
    ("Linear_A",
      [ "10107-10133" ]),
    ("Linear_B",
      [ "10100-10102 10107-10133 10137-1013f" ]),
    ("Lisu",
      [ "2bc 2cd 300a-300b" ]),
    ("Lycian",
      [ "205a" ]),
    ("Lydian",
      [ "b7 2e31" ]),
    ("Mahajani",
      [ "b7 964-96f a830-a839" ]),
    ("Malayalam",
      [ "951-952 964-965 1cda 1cf2 a830-a832" ]),
    ("Mandaic",
      [ "640" ]),
    ("Manichaean",
      [ "640" ]),
    ("Masaram_Gondi",
      [ "964-965" ]),
    ("Meroitic_Hieroglyphs",
      [ "205d" ]),
    ("Modi",
      [ "a830-a839" ]),
    ("Mongolian",
      [ "1802-1803 1805 202f 3001-3002 3008-300b" ]),
    ("Multani",
      [ "a66-a6f" ]),
    ("Myanmar",
      [ "a92e" ]),
    ("Nandinagari",
      [ "951 964-965 ce6-cef 1ce9 1cf2 1cfa a830-a835" ]),
    ("Newa",
      [ "951-952 1cd5 1cd7-1cd8 1ce2 1ce9 1ceb 1ced" ]),
    ("Nko",
      [ "60c 61b 61f fd3e-fd3f" ]),
    ("Ol_Onal",
      [ "964-965" ]),
    ("Old_Hungarian",
      [ "205a 205d 2e31 2e41" ]),
    ("Old_Permic",
      [ "b7 300 306-308 313 483" ]),
    ("Old_Turkic",
      [ "205a 2e30" ]),
    ("Old_Uyghur",
      [ "640 10af2" ]),
    ("Oriya",
      [ "951-952 964-965 1cda 1cf2" ]),
    ("Osage",
      [ "301 304 30b 358" ]),
    ("Phags_Pa",
      [ "1802-1803 1805 202f 3002" ]),
    ("Psalter_Pahlavi",
      [ "640" ]),
    ("Runic",
      [ "16eb-16ed" ]),
    ("Samaritan",
      [ "2e31" ]),
    ("Sharada",
      [ "951 1cd7 1cd9 1cdc-1cdd 1ce0 1cea 1ced a830-a835 a838" ]),
    ("Shavian",
      [ "b7" ]),
    ("Sinhala",
      [ "964-965 1cf2" ]),
    ("Sogdian",
      [ "640" ]),
    ("Sunuwar",
      [ "300-301 303 30d 310 32d 331" ]),
    ("Syloti_Nagri",
      [ "964-965 9e6-9ef" ]),
    ("Syriac",
      [ "303-304 307-308 30a 323-325 32d-32e 330-331 60c 61b-61c 61f 640 64b-655 670 1df8 1dfa" ]),
    ("Tagalog",
      [ "1735-1736" ]),
    ("Tagbanwa",
      [ "1735-1736" ]),
    ("Tai_Le",
      [ "300-301 307-308 30c 1040-1049" ]),
    ("Takri",
      [ "964-965 a830-a839" ]),
    ("Tamil",
      [ "951-952 964-965 1cda a8f3 11301 11303 1133b-1133c" ]),
    ("Tangut",
      [ "2ff0-2fff 31ef" ]),
    ("Telugu",
      [ "951-952 964-965 1cd5-1cd6 1cd8 1cda 1cf2" ]),
    ("Thaana",
      [ "60c 61b-61c 61f 660-669 fdf2 fdfd" ]),
    ("Thai",
      [ "2bc 2d7 303 331" ]),
    ("Tibetan",
      [ "3008-300b" ]),
    ("Tifinagh",
      [ "302 304 306-309 323" ]),
    ("Tirhuta",
      [ "951-952 964-965 1cd5 1ce2 1cf2 a830-a839" ]),
    ("Todhri",
      [ "301 304 307 311 313 35e" ]),
    ("Toto",
      [ "2bc" ]),
    ("Tulu_Tigalari",
      [ "ce6-cef 1cf2 1cf4 a830-a835 a8f1" ]),
    ("Yezidi",
      [ "60c 61b 61f 660-669" ]),
    ("Yi",
      [ "3001-3002 3008-3011 3014-301b 30fb ff61-ff65" ]) ]

/-- The characters of a script that are used with others only. -/
def lentTables : List (String × List String) :=
  [
    ("Common",
      [ "b7 2bc 2c7 2c9-2cb 2cd 2d7 2d9 374 60c 61b 61f 640 964-965 10fb 16eb-16ed 1735-1736",
        "1802-1803 1805 1cd3 1ce1 1ce9-1cec 1cee-1cf3 1cf5-1cf7 1cfa 202f 204f 205a 205d 2e17",
        "2e30-2e31 2e3c 2e41 2e43 2ff0-2fff 3001-3003 3006 3008-3011 3013-301f 3030-3035 3037",
        "303c-303f 309b-309c 30a0 30fb-30fc 3190-319f 31c0-31e5 31ef 3220-3247 3280-32b0",
        "32c0-32cb 32ff 3358-3370 337b-337f 33e0-33fe a700-a707 a830-a839 a92e a9cf fd3e-fd3f",
        "fe45-fe46 ff61-ff65 ff70 ff9e-ff9f 10100-10102 10107-10133 10137-1013f 102e1-102fb",
        "1bca0-1bca3 1d360-1d371 1f250-1f251" ]),
    ("Inherited",
      [ "300-30e 310-311 313 323-325 32d-32e 330-331 342 345 358 35e 363-36f 485-486 64b-655 670",
        "951-952 1cd0-1cd2 1cd4-1ce0 1ce2-1ce8 1ced 1cf4 1cf8-1cf9 1dc0-1dc1 1df8 1dfa 20f0",
        "302a-302d 3099-309a 102e0 1133b" ]) ]

/-- The characters used with a script that belong to none or to another one. -/
def borrowed (name : String) : Ranges := Ranges.ofTable ((borrowedTables.lookup name).getD [])

/-- The characters of a script that are used with others only. -/
def lent (name : String) : Ranges := Ranges.ofTable ((lentTables.lookup name).getD [])

end Webhook.Unicode
