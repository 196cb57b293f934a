import DocQuery.Unicode.Script

/-!
# Scripts that share characters

A character of several scripts is listed with the short names of all of them.  A script, extended, has the
characters listed for it beside its own that are not listed at all.
-/

namespace DocQuery.Unicode.Script

/-- Characters with the scripts that use them. -/
structure Shared where
  scripts : List String
  set : CharSet

/-- The characters that are shared. -/
def shared : List Shared :=
  [⟨["avst", "cari", "copt", "dupl", "elba", "geor", "glag", "goth", "grek", "gong", "hani", "latn",
     "lydi", "mahj", "perm", "shaw"], .ofTable
     "B7"⟩,
   ⟨["beng", "cyrl", "deva", "latn", "lisu", "thai", "toto"], .ofTable
     "2BC"⟩,
   ⟨["bopo", "latn"], .ofTable
     "2C7 2C9-2CB 2D9"⟩,
   ⟨["latn", "lisu"], .ofTable
     "2CD"⟩,
   ⟨["latn", "thai"], .ofTable
     "2D7"⟩,
   ⟨["cher", "copt", "cyrl", "grek", "latn", "perm", "sunu", "tale"], .ofTable
     "300"⟩,
   ⟨["cher", "cyrl", "grek", "latn", "osge", "sunu", "tale", "todr"], .ofTable
     "301"⟩,
   ⟨["cher", "cyrl", "latn", "tfng"], .ofTable
     "302"⟩,
   ⟨["glag", "latn", "sunu", "syrc", "thai"], .ofTable
     "303"⟩,
   ⟨["aghb", "cher", "copt", "cyrl", "goth", "grek", "latn", "osge", "syrc", "tfng", "todr"], .ofTable
     "304"⟩,
   ⟨["copt", "elba", "glag", "goth", "kana", "latn"], .ofTable
     "305"⟩,
   ⟨["cyrl", "grek", "latn", "perm"], .ofTable
     "306"⟩,
   ⟨["copt", "dupl", "hebr", "latn", "perm", "syrc", "tale", "tfng", "todr"], .ofTable
     "307"⟩,
   ⟨["armn", "cyrl", "dupl", "goth", "grek", "hebr", "latn", "perm", "syrc", "tale"], .ofTable
     "308"⟩,
   ⟨["latn", "tfng"], .ofTable
     "309"⟩,
   ⟨["dupl", "latn", "syrc"], .ofTable
     "30A"⟩,
   ⟨["cher", "cyrl", "latn", "osge"], .ofTable
     "30B"⟩,
   ⟨["cher", "latn", "tale"], .ofTable
     "30C"⟩,
   ⟨["latn", "sunu"], .ofTable
     "30D 310"⟩,
   ⟨["ethi", "latn"], .ofTable
     "30E"⟩,
   ⟨["cyrl", "latn", "todr"], .ofTable
     "311"⟩,
   ⟨["grek", "latn", "perm", "todr"], .ofTable
     "313"⟩,
   ⟨["latn", "syrc"], .ofTable
     "320 325 32E"⟩,
   ⟨["cher", "dupl", "kana", "latn", "syrc"], .ofTable
     "323"⟩,
   ⟨["cher", "dupl", "latn", "syrc"], .ofTable
     "324"⟩,
   ⟨["latn", "sunu", "syrc"], .ofTable
     "32D"⟩,
   ⟨["cher", "latn", "syrc"], .ofTable
     "330"⟩,
   ⟨["aghb", "cher", "goth", "latn", "sunu", "thai"], .ofTable
     "331"⟩,
   ⟨["grek"], .ofTable
     "342 345 1DC0-1DC1"⟩,
   ⟨["latn", "osge"], .ofTable
     "358"⟩,
   ⟨["aghb", "latn", "todr"], .ofTable
     "35E"⟩,
   ⟨["latn"], .ofTable
     "363-36F"⟩,
   ⟨["copt", "grek"], .ofTable
     "374-375"⟩,
   ⟨["cyrl", "perm"], .ofTable
     "483"⟩,
   ⟨["cyrl", "glag"], .ofTable
     "484 487 2E43 A66F"⟩,
   ⟨["cyrl", "latn"], .ofTable
     "485-486"⟩,
   ⟨["armn", "geor", "glag"], .ofTable
     "589"⟩,
   ⟨["arab", "gara", "rohg", "nkoo", "syrc", "thaa", "yezi"], .ofTable
     "60C 61B"⟩,
   ⟨["arab", "syrc", "thaa"], .ofTable
     "61C"⟩,
   ⟨["adlm", "arab", "gara", "rohg", "nkoo", "syrc", "thaa", "yezi"], .ofTable
     "61F"⟩,
   ⟨["adlm", "arab", "rohg", "mand", "mani", "ougr", "phlp", "sogd", "syrc"], .ofTable
     "640"⟩,
   ⟨["arab", "syrc"], .ofTable
     "64B-655 670"⟩,
   ⟨["arab", "thaa", "yezi"], .ofTable
     "660-669"⟩,
   ⟨["arab", "rohg"], .ofTable
     "6D4"⟩,
   ⟨["beng", "deva", "gran", "gujr", "guru", "knda", "latn", "mlym", "orya", "shrd", "taml", "telu",
     "tirh"], .ofTable
     "951"⟩,
   ⟨["beng", "deva", "gran", "gujr", "guru", "knda", "latn", "mlym", "orya", "taml", "telu", "tirh"], .ofTable
     "952"⟩,
   ⟨["beng", "deva", "dogr", "gran", "gujr", "gong", "guru", "knda", "sind", "mahj", "mlym", "gonm",
     "nand", "onao", "orya", "sinh", "sylo", "takr", "taml", "telu", "tirh"], .ofTable
     "964"⟩,
   ⟨["beng", "deva", "dogr", "gran", "gujr", "gong", "guru", "gukh", "knda", "sind", "limb", "mahj",
     "mlym", "gonm", "nand", "onao", "orya", "sinh", "sylo", "takr", "taml", "telu", "tirh"], .ofTable
     "965"⟩,
   ⟨["deva", "dogr", "kthi", "mahj"], .ofTable
     "966-96F"⟩,
   ⟨["beng", "cakm", "sylo"], .ofTable
     "9E6-9EF"⟩,
   ⟨["guru", "mult"], .ofTable
     "A66-A6F"⟩,
   ⟨["gujr", "khoj"], .ofTable
     "AE6-AEF"⟩,
   ⟨["gran", "taml"], .ofTable
     "BE6-BF3 11301 11303 1133B-1133C 11FD0-11FD1 11FD3"⟩,
   ⟨["knda", "nand", "tutg"], .ofTable
     "CE6-CEF"⟩,
   ⟨["cakm", "mymr", "tale"], .ofTable
     "1040-1049"⟩,
   ⟨["geor", "glag", "latn"], .ofTable
     "10FB"⟩,
   ⟨["runr"], .ofTable
     "16EB-16ED"⟩,
   ⟨["buhd", "hano", "tglg", "tagb"], .ofTable
     "1735-1736"⟩,
   ⟨["mong", "phag"], .ofTable
     "1802-1803 1805"⟩,
   ⟨["beng", "deva", "gran", "knda"], .ofTable
     "1CD0 1CD2"⟩,
   ⟨["deva"], .ofTable
     "1CD1 1CD4 1CDB 1CDE-1CDF 1CE2-1CE8 1CEB-1CEC 1CEE-1CF1"⟩,
   ⟨["deva", "gran", "knda"], .ofTable
     "1CD3"⟩,
   ⟨["beng", "deva"], .ofTable
     "1CD5-1CD6 1CD8 1CE1 1CEA 1CED 1CF5-1CF6"⟩,
   ⟨["deva", "shrd"], .ofTable
     "1CD7 1CD9 1CDC-1CDD 1CE0"⟩,
   ⟨["deva", "knda", "mlym", "orya", "taml", "telu"], .ofTable
     "1CDA"⟩,
   ⟨["deva", "nand"], .ofTable
     "1CE9"⟩,
   ⟨["beng", "deva", "gran", "knda", "mlym", "nand", "orya", "sinh", "telu", "tirh", "tutg"], .ofTable
     "1CF2"⟩,
   ⟨["deva", "gran"], .ofTable
     "1CF3 1CF8-1CF9"⟩,
   ⟨["deva", "gran", "knda", "tutg"], .ofTable
     "1CF4"⟩,
   ⟨["beng"], .ofTable
     "1CF7"⟩,
   ⟨["nand"], .ofTable
     "1CFA"⟩,
   ⟨["cyrl", "latn", "syrc"], .ofTable
     "1DF8"⟩,
   ⟨["syrc"], .ofTable
     "1DFA"⟩,
   ⟨["latn", "mong", "phag"], .ofTable
     "202F"⟩,
   ⟨["adlm", "arab"], .ofTable
     "204F"⟩,
   ⟨["cari", "geor", "glag", "lyci", "hung", "orkh"], .ofTable
     "205A"⟩,
   ⟨["cari", "grek", "mero", "hung"], .ofTable
     "205D"⟩,
   ⟨["deva", "gran", "latn"], .ofTable
     "20F0"⟩,
   ⟨["copt", "latn"], .ofTable
     "2E17"⟩,
   ⟨["avst", "orkh"], .ofTable
     "2E30"⟩,
   ⟨["avst", "cari", "geor", "kthi", "lydi", "hung", "samr"], .ofTable
     "2E31"⟩,
   ⟨["dupl"], .ofTable
     "2E3C 1BCA0-1BCA3"⟩,
   ⟨["adlm", "arab", "hung"], .ofTable
     "2E41"⟩,
   ⟨["hani", "tang"], .ofTable
     "2FF0-2FFF 31EF"⟩,
   ⟨["bopo", "hani", "hang", "hira", "kana", "mong", "yiii"], .ofTable
     "3001"⟩,
   ⟨["bopo", "hani", "hang", "hira", "kana", "mong", "phag", "yiii"], .ofTable
     "3002"⟩,
   ⟨["bopo", "hani", "hang", "hira", "kana"], .ofTable
     "3003 3013 301C-301F 3030 3037 FE45-FE46"⟩,
   ⟨["hani"], .ofTable
     "3006 303E-303F 3190-319F 31C0-31E5 3220-3247 3280-32B0 32C0-32CB 32FF 3358-3370 337B-337F
      33E0-33FE 1D360-1D371 1F250-1F251"⟩,
   ⟨["bopo", "hani", "hang", "hira", "kana", "mong", "tibt", "yiii"], .ofTable
     "3008-3009"⟩,
   ⟨["bopo", "hani", "hang", "hira", "kana", "lisu", "mong", "tibt", "yiii"], .ofTable
     "300A-300B"⟩,
   ⟨["bopo", "hani", "hang", "hira", "kana", "yiii"], .ofTable
     "300C-3011 3014-301B 30FB FF61-FF65"⟩,
   ⟨["bopo", "hani"], .ofTable
     "302A-302D"⟩,
   ⟨["hira", "kana"], .ofTable
     "3031-3035 3099-309C 30A0 30FC FF70 FF9E-FF9F"⟩,
   ⟨["hani", "hira", "kana"], .ofTable
     "303C-303D"⟩,
   ⟨["hani", "latn"], .ofTable
     "A700-A707"⟩,
   ⟨["deva", "dogr", "gujr", "guru", "kthi", "knda", "khoj", "sind", "mahj", "mlym", "modi", "nand",
     "shrd", "takr", "tirh", "tutg"], .ofTable
     "A830-A832"⟩,
   ⟨["deva", "dogr", "gujr", "guru", "kthi", "knda", "khoj", "sind", "mahj", "modi", "nand", "shrd",
     "takr", "tirh", "tutg"], .ofTable
     "A833-A835"⟩,
   ⟨["deva", "dogr", "gujr", "guru", "kthi", "khoj", "sind", "mahj", "modi", "takr", "tirh"], .ofTable
     "A836-A837 A839"⟩,
   ⟨["deva", "dogr", "gujr", "guru", "kthi", "khoj", "sind", "mahj", "modi", "shrd", "takr", "tirh"], .ofTable
     "A838"⟩,
   ⟨["beng", "deva", "tutg"], .ofTable
     "A8F1"⟩,
   ⟨["deva", "taml"], .ofTable
     "A8F3"⟩,
   ⟨["kali", "latn", "mymr"], .ofTable
     "A92E"⟩,
   ⟨["bugi", "java"], .ofTable
     "A9CF"⟩,
   ⟨["arab", "nkoo"], .ofTable
     "FD3E-FD3F"⟩,
   ⟨["arab", "thaa"], .ofTable
     "FDF2 FDFD"⟩,
   ⟨["cprt", "cpmn", "linb"], .ofTable
     "10100-10101"⟩,
   ⟨["cprt", "linb"], .ofTable
     "10102 10137-1013F"⟩,
   ⟨["cprt", "lina", "linb"], .ofTable
     "10107-10133"⟩,
   ⟨["arab", "copt"], .ofTable
     "102E0-102FB"⟩,
   ⟨["mani", "ougr"], .ofTable
     "10AF2"⟩]

/-- Every shared character. -/
def anyShared : CharSet := .unionOf (shared.map (·.set))

/-- A script with the characters it shares. -/
def extended (script : NamedSet) : NamedSet :=
  let listed := (shared.filter fun s => s.scripts.any script.names.contains).map (·.set)
  { script with set := .union (.minus script.set anyShared) (.unionOf listed) }

end DocQuery.Unicode.Script
