import ContentFilter.Unicode.RangeTable

/-!
# Scripts

The script and script extension properties of Unicode 16.
-/

namespace ContentFilter.Unicode

/-- A script: its folded names, the characters whose script it is, and the characters whose script
extensions hold it. -/
structure ScriptEntry where
  names : List String
  ownCode : String
  extendedCode : String

/-- Every script of the standard. -/
def scripts : List ScriptEntry :=
  [⟨["adlm", "adlam"],
    "j6oAiLEJEB",
    "hwfAhAAmwOAjvRAju1eiLEJEB"⟩,
   ⟨["aghb", "caucasianalbanian"],
    "ihpQhTLA",
    "4EAhMAhMAiguRhTLA"⟩,
   ⟨["ahom"],
    "il4AaCOEW",
    "il4AaCOEW"⟩,
   ⟨["arab", "arabic"],
    "hwAEBFBNBCBfBJLZBjLBhBiQhPnQeBBFiKBch8yQjSQrKCiPChVHAhAPjQEBkGj7DeiDChXDh34ADBaBBBACABJBDB" ++
    "ABAGAEABABABCBBBACABABABABABBBACDBGBDBDBABJBQFCBEBQhUB",
    "hwAEBmWBhBiQhPnQeBBFiKBcl6PAjvRAhzoOjSQtcChVHAhAPjQEBkG_Dbi7EeiDChXDh34ADBaBBBACABJBDBABAG" ++
    "AEABABABCBBBACABABABABABBBACDBGBDBDBABJBQFCBEBQhUB"⟩,
   ⟨["armi", "imperialaramaic"],
    "iiiAVBI",
    "iiiAVBI"⟩,
   ⟨["armn", "armenian"],
    "hpRhFChRCCh9sDE",
    "4IAxIhFChRCCh9sDE"⟩,
   ⟨["avst", "avestan"],
    "ii4AhVDG",
    "lXArrYBh3mOhVDG"⟩,
   ⟨["bali", "balinese"],
    "m4AiMBhR",
    "m4AiMBhR"⟩,
   ⟨["bamu", "bamum"],
    "hp1AiXhwoIxY",
    "hp1AiXhwoIxY"⟩,
   ⟨["bass", "bassavah"],
    "i62QdCF",
    "i62QdCF"⟩,
   ⟨["batk", "batak"],
    "m-AhTID",
    "m-AhTID"⟩,
   ⟨["beng", "bengali"],
    "isADBHCBCVBGBADDCICBCDIAEBBECY",
    "1cAh0UBRBaDBHCBCVBGBADDCICBCDIAEBBECYk2RABACBBAIAIACAEACChi_ZA"⟩,
   ⟨["bhks", "bhaiksuki"],
    "ingAIBhMBNKc",
    "ingAIBhMBNKc"⟩,
   ⟨["bopo", "bopomofo"],
    "3KBrwZhKjQf",
    "2HABCNAQBroVCEJBMKDCAGAmDAJhKjQfhzkFBoaE"⟩,
   ⟨["brah", "brahmi"],
    "ikgAiNEhDJA",
    "ikgAiNEhDJA"⟩,
   ⟨["brai", "braille"],
    "qgAnf",
    "qgAnf"⟩,
   ⟨["bugi", "buginese"],
    "mwAbCB",
    "mwAbCBhj9PA"⟩,
   ⟨["buhd", "buhid"],
    "l6AT",
    "l5VBJT"⟩,
   ⟨["cakm", "chakma"],
    "ikoAhUBR",
    "ivGJhyQJiglWhUBR"⟩,
   ⟨["cans", "canadianaboriginal"],
    "lgAzfxQiFigtaP",
    "lgAzfxQiFigtaP"⟩,
   ⟨["cari", "carian"],
    "ig1AhQ",
    "lXAn9CACAjuTAh1jOhQ"⟩,
   ⟨["cham"],
    "hqwAhWJNCJCD",
    "hqwAhWJNCJCD"⟩,
   ⟨["cher", "cherokee"],
    "k9AiVCFhl7SiP",
    "4ACBAGBWBLBkjOiVCFhl7SiP"⟩,
   ⟨["chrs", "chorasmian"],
    "ij9Qb",
    "ij9Qb"⟩,
   ⟨["copt", "coptic", "qaac"],
    "_CNqkQjTFG",
    "lXAyIADBBAjMBjMNqkQjTFGoXAh1mIb"⟩,
   ⟨["cpmn", "cyprominoan"],
    "ir8QjC",
    "igoABr0OjC"⟩,
   ⟨["cprt", "cypriot"],
    "iigAFCABhLBBDACA",
    "igoACEhMDIh2AFCABhLBBDACA"⟩,
   ⟨["cyrl", "cyrillic"],
    "hgAkEClIl6QKlAAiMAkjHf-iAif18OBh4wAhdhBA",
    "1cAiDCBABABACAFAnOpPl6QKlAAiMAjfAj_HfiDA9_cif18OBh4wAhdhBA"⟩,
   ⟨["deva", "devanagari"],
    "ioAiQEOCZhn7Af8wAJ",
    "1cAhyDiSChKk6QhGBB_WAhh5fJlGf8wAJ"⟩,
   ⟨["diak", "divesakuru"],
    "imoAGCACHBBBdBBCLJJ",
    "imoAGCACHBBBdBBCLJJ"⟩,
   ⟨["dogr", "dogra"],
    "imgAhb",
    "irELhn2AJ7-Ghb"⟩,
   ⟨["dsrt", "deseret"],
    "ihgAiP",
    "ihgAiP"⟩,
   ⟨["dupl", "duployan"],
    "jvgAjKFMDIHJCD",
    "lXAyPBBAYBq4XAjjuDjKFMDIHJCH"⟩,
   ⟨["egyp", "egyptianhieroglyphs"],
    "isgAhiVKj8a",
    "isgAhiVKj8a"⟩,
   ⟨["elba", "elbasan"],
    "ihoAhH",
    "lXAyNAigvahH"⟩,
   ⟨["elym", "elymaic"],
    "ij_AW",
    "ij_AW"⟩,
   ⟨["ethi", "ethiopic"],
    "kwAiIBDCGBABDChIBDChABDCGBABDCOBhYBDCiCCfDZmvGWJGBGBGBGBGBGBGBG_pCFCFCFJGBGivlRGBDBBBO",
    "4OAj3RiIBDCGBABDChIBDChABDCGBABDCOBhYBDCiCCfDZmvGWJGBGBGBGBGBGBGBG_pCFCFCFJGBGivlRGBDBBBO"⟩,
   ⟨["geor", "georgian"],
    "klAhFBAFAChKBDi8QhKCCkiAhFBAFA",
    "lXAhmRAi4WhFBAFAChPi8QhKCC8aAjlFhFBAFAoDA"⟩,
   ⟨["glag", "glagolitic"],
    "rgAifjs9AGBQCGBBBE",
    "lXAyLABAreACAoBAi7RAj6eAi9FifvDA-hLAiusQGBQCGBBBE"⟩,
   ⟨["gong", "gunjalagondi"],
    "inrAFBBBhEBBBFHJ",
    "lXAilMBik_aFBBBhEBBBFHJ"⟩,
   ⟨["gonm", "masaramgondi"],
    "inoAGBBBhLDABBBIIJ",
    "irEBik8aGBBBhLDABBBIIJ"⟩,
   ⟨["goth", "gothic"],
    "ig5Qa",
    "lXAyMBCAhIAh__ea"⟩,
   ⟨["gran", "grantha"],
    "ik4ADBHCBCVBGBBBECICBCCCAGAFGCGDE",
    "iqRBRB0ANkmcABBeCDB_WAh8wPDBHCBCVBGBBBEBJCBCCCAGAFGCGDEjibBBA"⟩,
   ⟨["grek", "greek"],
    "7QDBCCDBAEABABCBABTBheOPmpGEhSEEEiUAqAVCFChFCFCHBABABABeChUBOBNCFBSCCBIpHAhixeA1uaiORAh0if" ++
    "iF",
    "lXAyIBCABABAKAhOACAhKHCDBAEABABCBABTBheOPmpGEhSEEEiUCpeVCFChFCFCHBABABABeChUBOBNCFBSCCBIie" ++
    "AmIAhixeA1uaiORAh0ifiF"⟩,
   ⟨["gujr", "gujarati"],
    "i0BCBIBCBVBGBBBECJBCBCCAPDCLHG",
    "iqRBRBobCBIBCBVBGBBBECJBCBCCAPDCLHGhnpQJ"⟩,
   ⟨["guru", "gurmukhi"],
    "iwBCBFEBCVBGBBBBBBCABEEBCCDAHDBAHQ",
    "iqRBRBkbCBFEBCVBGBBBBBBCABEEBCCDAHDBAHQhntZJ"⟩,
   ⟨["hang", "hangul"],
    "koAnfnxOBoBidjReiBe93Bc0Dq9DMWEhQp9EeDFCFCFCC",
    "koAnfnwBCEJBMOCGAmDAhVidjReiBe93Bc0Dq9DMWEhQpyJBoaEhaeDFCFCFCC"⟩,
   ⟨["hani", "han"],
    "r0AZBiYMmVhPABAZIOD-EmtfiA0vf2oArNCjJ9oIBMBhkgOhp2fhAkhZGmdCl0BOnpQPzNitCwdhvCk6KFkif",
    "lXAruIZBiYMmVaPBCBMBMBMCAGIlbAkUPhAhFJAhQhHhYhQPLhTAiYYKEjAeBmtfiA0vfh4AH0vYrNCjJ7LBoaE8jc" ++
    "BMB47ORn2eBjtOhp2fhAkhZGmdCl0BOnpQPzNitCwdhvCk6KFkif"⟩,
   ⟨["hano", "hanunoo"],
    "l5AU",
    "l5AW"⟩,
   ⟨["hatr", "hatran"],
    "iinASBBFE",
    "iinASBBFE"⟩,
   ⟨["hebr", "hebrew"],
    "hsRhWIaEFh9pIZBEBABBBBBJ",
    "4HB0IhWIaEFh9pIZBEBABBBBBJ"⟩,
   ⟨["hira", "hiragana"],
    "siBiVGCi_7BoeSAdCwlNA",
    "sgBCEJBMQFBAEBDiVCHiaBhzqIBoaEKAhNBhsjBoeSAdCwlNA"⟩,
   ⟨["hluw", "anatolianhieroglyphs"],
    "ixgAyG",
    "ixgAyG"⟩,
   ⟨["hmng", "pahawhhmong"],
    "i64AiFKJBGBUFS",
    "i64AiFKJBGBUFS"⟩,
   ⟨["hmnp", "nyiakengpuachuehmong"],
    "j4oAhMDNCJEB",
    "j4oAhMDNCJEB"⟩,
   ⟨["hung", "oldhungarian"],
    "ijkAhSNhSHF",
    "oiaACAjuTAPAh3xehSNhSHF"⟩,
   ⟨["ital", "olditalic"],
    "ig4AhDJC",
    "ig4AhDJC"⟩,
   ⟨["java", "javanese"],
    "hqsAiNCJEB",
    "hqsAiNBKEB"⟩,
   ⟨["kali", "kayahli"],
    "hqoAhNBA",
    "hqoAhP"⟩,
   ⟨["kana", "katakana"],
    "slBiZCCnQPmQhOBiXhzgOJBhMhsiSDBGBBBAofChSAOD",
    "4FAdArmdCEJBMQFBAEBibDDifnQPmQhOBiXhy3NBoahehsiQDBGBBBAofChSAOD"⟩,
   ⟨["kawi"],
    "in4AQBhIDc",
    "in4AQBhIDc"⟩,
   ⟨["khar", "kharoshthi"],
    "iiwADBBFHBCBcCCEJHI",
    "iiwADBBFHBCBcCCEJHI"⟩,
   ⟨["khmr", "khmer"],
    "l8AidCJGJvGf",
    "l8AidCJGJvGf"⟩,
   ⟨["khoj", "khojki"],
    "ikwARBhO",
    "i3GJhnqAJ6uGRBhO"⟩,
   ⟨["kits", "khitansmallscript"],
    "i7_EAm4buVhJA",
    "i7_EAm4buVhJA"⟩,
   ⟨["knda", "kannada"],
    "jkAMBCBWBJBECIBCBDHBGBBDCJBC",
    "iqRBRB4aMBCBWBJBECIBCBDHBGBBDCJBCj-cABBGAXABAhi5bF"⟩,
   ⟨["kthi", "kaithi"],
    "ikkAiCKA",
    "irGJpmBA-veJ6iGiCKA"⟩,
   ⟨["lana", "taitham"],
    "mxAheBcCKGJGN",
    "mxAheBcCKGJGN"⟩,
   ⟨["laoo", "lao"],
    "j0BBBABEBXBABWCEBABGBJCD",
    "j0BBBABEBXBABWCEBABGBJCD"⟩,
   ⟨["latn", "latin"],
    "iBZGZhPAPAFWBeBuAhHEmwbhFGhQFDFMBiFiBnfrRANAQMkNBGAbARhIi2Xf-1CjFDiCCBBABHVN5QhKBIBDz8WGhg" ++
    "aZGZihFFBhJBIh16FeGF",
    "iBZGZhPAMACAFWBeBuADAKABCBAJABAGEbOBBBAPCHBBBhGAFAEMoVBhmKBh9IAjgEhFGhQFDFMBiFhZAHnfpPAiBA" ++
    "NAQMiTAhZBGAbARhIi2XfsXA-nIHajFDiCCBBABHVNpOAwBhKBIBDz8WGhgaZGZihFFBhJBIh16FeGF"⟩,
   ⟨["lepc", "lepcha"],
    "ngAhXDODC",
    "ngAhXDODC"⟩,
   ⟨["limb", "limbu"],
    "moAeBLELEADL",
    "irFAj8aeBLELEADL"⟩,
   ⟨["lina", "lineara"],
    "ihwApWJVKH",
    "igoHhMhmMpWJVKH"⟩,
   ⟨["linb", "linearb"],
    "iggALBZBSBBBOCNhCja",
    "iggALBZBSBBBOCNhCjaFCEhMDI"⟩,
   ⟨["lisu"],
    "hpmQhP-1QA",
    "1cAQArpcB9mEhP-1QA"⟩,
   ⟨["lyci", "lycian"],
    "ig0Ac",
    "oiaAh4xFc"⟩,
   ⟨["lydi", "lydian"],
    "iipAZFA",
    "lXArrZAh23OZFA"⟩,
   ⟨["mahj", "mahajani"],
    "ikqQhG",
    "lXAilMLhn2AJ6oWhG"⟩,
   ⟨["maka", "makasar"],
    "in3AY",
    "in3AY"⟩,
   ⟨["mand", "mandaic"],
    "iiAbCA",
    "hyAAvfbCA"⟩,
   ⟨["mani", "manichaean"],
    "ii2AhGEL",
    "hyAAihjfhGEL"⟩,
   ⟨["marc", "marchen"],
    "injQfCVBN",
    "injQfCVBN"⟩,
   ⟨["medf", "medefaidrin"],
    "i7yAia",
    "i7yAia"⟩,
   ⟨["mend", "mendekikakui"],
    "j6gAmECP",
    "j6gAmECP"⟩,
   ⟨["merc", "meroiticcursive"],
    "iitAXETChN",
    "iitAXETChN"⟩,
   ⟨["mero", "meroitichieroglyphs"],
    "iisAf",
    "oidAh6pCf"⟩,
   ⟨["mlym", "malayalam"],
    "joAMBCBhSBCBFEPCZ",
    "iqRBRB8aMBCBhSBCBFEPCZj6aAXAhi5dC"⟩,
   ⟨["modi"],
    "ilwAiELJ",
    "hqhQJ7uGiELJ"⟩,
   ⟨["mong", "mongolian"],
    "mgABCABTGiYHhKh_tVM",
    "mgAZGiYHhKh8EAj-RBFDh5yUM"⟩,
   ⟨["mroo", "mro"],
    "i6yAeBJEB",
    "i6yAeBJEB"⟩,
   ⟨["mtei", "meeteimayek"],
    "hq3AWmJhNCJ",
    "hq3AWmJhNCJ"⟩,
   ⟨["mult", "multani"],
    "ik0AGBABDBOBK",
    "izGJiigQGBABDBOBK"⟩,
   ⟨["mymr", "myanmar"],
    "kgAkfhmqAejBf7iQT",
    "kgAkfhmkOAlRejBf7iQT"⟩,
   ⟨["nagm", "nagmundari"],
    "j5mQhJ",
    "j5mQhJ"⟩,
   ⟨["nand", "nandinagari"],
    "imtAHChNCK",
    "iqRASB8AJj_ZAIAHAhi5VF8rKHChNCK"⟩,
   ⟨["narb", "oldnortharabian"],
    "ii0Af",
    "ii0Af"⟩,
   ⟨["nbat", "nabataean"],
    "iikAeII",
    "iikAeII"⟩,
   ⟨["newa"],
    "ilgAibBE",
    "iqRBk8CABBJAGABABAh94SibBE"⟩,
   ⟨["nkoo", "nko"],
    "h-AhaCC",
    "hwMAOADAtAhaCCh9peB"⟩,
   ⟨["nshu", "nushu"],
    "i7_BAwsOsL",
    "i7_BAwsOsL"⟩,
   ⟨["ogam", "ogham"],
    "l0Ac",
    "l0Ac"⟩,
   ⟨["olck", "olchiki"],
    "niQhP",
    "niQhP"⟩,
   ⟨["orkh", "oldturkic"],
    "ijgAiI",
    "oiaAjuVAh3uPiI"⟩,
   ⟨["orya", "oriya"],
    "i4BCBHCBCVBGBBBECICBCCHCEBBECR",
    "iqRBRBsbCBHCBCVBGBBBECICBCCHCEBBECRkrCAXA"⟩,
   ⟨["osge", "osage"],
    "ihlQhDEhD",
    "4BACAGAiMAigqXhDEhD"⟩,
   ⟨["osma", "osmanya"],
    "ihkAdCJ",
    "ihkAdCJ"⟩,
   ⟨["ougr", "olduyghur"],
    "ij7QZ",
    "hyAAihlRAhjdZ"⟩,
   ⟨["palm", "palmyrene"],
    "iijAf",
    "iijAf"⟩,
   ⟨["pauc", "paucinhau"],
    "im2AhY",
    "im2AhY"⟩,
   ⟨["perm", "oldpermic"],
    "ig6QhK",
    "lXAyIAFCKArPAh_2MhK"⟩,
   ⟨["phag", "phagspa"],
    "hqiAhX",
    "mgCBBAihJAj-SA-hdhX"⟩,
   ⟨["phli", "inscriptionalpahlavi"],
    "ii7ASFH",
    "ii7ASFH"⟩,
   ⟨["phlp", "psalterpahlavi"],
    "ii8ARHDMG",
    "hyAAihpfRHDMG"⟩,
   ⟨["phnx", "phoenician"],
    "iioAbDA",
    "iioAbDA"⟩,
   ⟨["plrd", "miao"],
    "i74AiKEhYHQ",
    "i74AiKEhYHQ"⟩,
   ⟨["prti", "inscriptionalparthian"],
    "ii6AVCH",
    "ii6AVCH"⟩,
   ⟨["rjng", "rejang"],
    "hqpQhDLA",
    "hqpQhDLA"⟩,
   ⟨["rohg", "hanifirohingya"],
    "ijoAhHIJ",
    "hwMAOADAhAAkTAihxLhHIJ"⟩,
   ⟨["runr", "runic"],
    "l1AiKDK",
    "l1AiY"⟩,
   ⟨["samr", "samaritan"],
    "igAhNCO",
    "igAhNCOpvSA"⟩,
   ⟨["sarb", "oldsoutharabian"],
    "iizAf",
    "iizAf"⟩,
   ⟨["saur", "saurashtra"],
    "hqkAiFIL",
    "hqkAiFIL"⟩,
   ⟨["sgnw", "signwriting"],
    "j2gA0LPEBO",
    "j2gA0LPEBO"⟩,
   ⟨["shaw", "shavian"],
    "ihiQhP",
    "lXAig8YhP"⟩,
   ⟨["shrd", "sharada"],
    "iksAif",
    "iqRAk8FABACBCAJACAhi6CFCA6qHif"⟩,
   ⟨["sidd", "siddham"],
    "ilsAhVChF",
    "ilsAhVChF"⟩,
   ⟨["sind", "khudawadi"],
    "ik1QhaFJ",
    "irEBhn2KJ6zWhaFJ"⟩,
   ⟨["sinh", "sinhala"],
    "jsBCBRDXBIBACGDAEFBABHGJCCig_MT",
    "irEBhgbCBRDXBIBACGDAEFBABHGJCCj3dAh9nOT"⟩,
   ⟨["sogd", "sogdian"],
    "ij5QhJ",
    "hyAAiinPhJ"⟩,
   ⟨["sogo", "oldsogdian"],
    "ij4AhH",
    "ij4AhH"⟩,
   ⟨["sora", "sorasompeng"],
    "ikmQYHJ",
    "ikmQYHJ"⟩,
   ⟨["soyo", "soyombo"],
    "imyQiS",
    "imyQiS"⟩,
   ⟨["sund", "sundanese"],
    "m8AhfoAH",
    "m8AhfoAH"⟩,
   ⟨["sylo", "sylotinagri"],
    "hqgAhM",
    "irEBkAJhnwQhM"⟩,
   ⟨["syrc", "syriac"],
    "h4ANBhbCCoQK",
    "4DBCBBAYCHBBB2aAOBCAhAAKKaAkPNBhbCCoQKlsNABA"⟩,
   ⟨["tagb", "tagbanwa"],
    "l7AMBCBB",
    "l5VBhJMBCBB"⟩,
   ⟨["takr", "takri"],
    "il0AhZGJ",
    "irEBhn2KJ7yGhZGJ"⟩,
   ⟨["tale", "taile"],
    "mqQdCE",
    "4ABFBDAjpTJioGdCE"⟩,
   ⟨["talu", "newtailue"],
    "msAhLEZGKDB",
    "msAhLEZGKDB"⟩,
   ⟨["taml", "tamil"],
    "i8CBBFDCBDDBBABBDBDCDLEEDCBDCAGAOUik-FhRNA",
    "iqRBRBwcBBFDCBDDBBABBDBDCDLEEDCBDCAGAOUkmfAhjgYA6wNABAhXBjkDhRNA"⟩,
   ⟨["tang", "tangut"],
    "i7_AAfl_XI3fwAI",
    "r_QPvPAivvQAfl_XI3fwAI"⟩,
   ⟨["tavt", "taiviet"],
    "hq0AiCYE",
    "hq0AiCYE"⟩,
   ⟨["telu", "telugu"],
    "jgAMBCBWBPCIBCBDHBBCCACDCJHI",
    "iqRBRB0aMBCBWBPCIBCBDHBBCCACDCJHIkiVBBABAXA"⟩,
   ⟨["tfng", "tifinagh"],
    "rpQhXHBOA",
    "4CABABDZAqwMhXHBOA"⟩,
   ⟨["tglg", "tagalog"],
    "l4AVJA",
    "l4AVJAVB"⟩,
   ⟨["thaa", "thaana"],
    "h8AhR",
    "hwMAOBCAiAJoWhRh9yAAKA"⟩,
   ⟨["thai"],
    "jwBhZFb",
    "1cAaAhLAhNAi2PhZFb"⟩,
   ⟨["tibt", "tibetan"],
    "j4AiHBhDEhGBhDBOBGEB",
    "j4AiHBhDEhGBhDBOBGEBohND"⟩,
   ⟨["tirh", "tirhuta"],
    "ilkAiHIJ",
    "iqRBRBk7PAMAPAhi5dJ7iGiHIJ"⟩,
   ⟨["tnsa", "tangsa"],
    "i6zQiOBJ",
    "i6zQiOBJ"⟩,
   ⟨["toto"],
    "j40Qe",
    "1cAj3-Te"⟩,
   ⟨["ugar", "ugaritic"],
    "ig8AdBA",
    "ig8AdBA"⟩,
   ⟨["vaii", "vai"],
    "hpoApL",
    "hpoApL"⟩,
   ⟨["vith", "vithkuqi"],
    "ihrQKBOBGBBBKBOBGBB",
    "ihrQKBOBGBBBKBOBGBB"⟩,
   ⟨["wara", "warangciti"],
    "imlAiSMA",
    "imlAiSMA"⟩,
   ⟨["wcho", "wancho"],
    "j42AhZFA",
    "j42AhZFA"⟩,
   ⟨["xpeo", "oldpersian"],
    "ig9AhDEN",
    "ig9AhDEN"⟩,
   ⟨["xsux", "cuneiform"],
    "iogA8ZjGjOBELmD",
    "iogA8ZjGjOBELmD"⟩,
   ⟨["yezi", "yezidi"],
    "ij0AhJBCCB",
    "hwMAOADAiAJiigWhJBCCB"⟩,
   ⟨["yiii", "yi"],
    "hogAhkMDhW",
    "sgBBFJCHmfA74EhkMDhW20aE"⟩,
   ⟨["zanb", "zanabazarsquare"],
    "imwAiH",
    "imwAiH"⟩,
   ⟨["zinh", "inherited", "qaai"],
    "4AjPoVBuEKaA3ADkqbewBCBMBGEAGADBmGhfwMBmChAj5ZDjLBhzrFPQN-PAnCAkiaAhu-EhNCWxACRHCGeD4r6SnP",
    "4PACABODGCACPBBBRBEBDhvQBkqbe3ThVBABEwMBmCfh3oQPQN-PAhzoChNCWxACRHCGeD4r6SnP"⟩,
   ⟨["zyyy", "common"],
    "AiAaFahOBOBEXAfAuBhGFECTjUAJAGABAzdAGAOADAhAAkcAwEAkBBhmZAsVDpCAhvPCiHBmLBBAhmNANAHDBFBCCA" ++
    "4FLCiWBKDKBORhAhfhFBCCFBaBQhJCE0ZWKV8foAzTCfBjIwAidsSUBABYPHEDibBDAiaBkTPhAhFJAhQhffiQhPAi" ++
    "YlHmuAhf2oAhBjGClFJnUAlAAsLAOB0uSBmQJWhCBSBDkTABfaFaKKAhNBiAGBGKEoCCEhMDIiQMhThMnEahutEDj6" ++
    "cnZGtTkcjThcnVKhGChdDQIBHdEhcmVTMTMiWJYkHiUBiGBBCACBCDBLBABGBiABDCHBGBbBDBEBADGBqTCpDChRlj" ++
    "RiDiMhc2ChLEjDMOCOBOBhEKlNhYZBBNhLEIHBOFka-XEQDMDjWEieGLEAPLEhXIJGhHIdCLEBheqTMNCMDJFhXHOC" ++
    "KGIHkSBjF4hgHAeif",
    "AiAaFahOBLBBBEXAfAuBCBJBADABIBABFFECTjeAGABAzdAmXAwEAhqcAsVDkhHLChABeBJBBBGBKDKBORhAhfhFBC" ++
    "CFBaBQhJCE0ZWKV8foAzTCfBjIwAWBXCJBDBABZtCADANANAVAwRXfAhROMDlBJFiffAmuAhf2oIZjGC-QAOB01EJW" ++
    "UCLBSBDkTABfaFaFjfGBGKEsSMhThMhywDnZGtTkcjThcnVKhGChdDQIBHdEhcmVTMTMiWbGkHiUBiGBBCACBCDBLB" ++
    "ABGBiABDCHBGBbBDBEBADGBqTCpDChRljRiDiMhc2ChLEjDMOCOBOBhEKlNhYZBBNhLEIXFka-XEQDMDjWEieGLEAP" ++
    "LEhXIJGhHIdCLEBheqTMNCMDJFhXHOCKGIHkSBjF4hgHAeif"⟩,
   ⟨["gara", "garay"],
    "ijqAhFDcIB",
    "hwMAOADAih5AhFDcIB"⟩,
   ⟨["gukh", "gurungkhema"],
    "i4oAhZ",
    "irFAi18ahZ"⟩,
   ⟨["krai", "kiratrai"],
    "i7qAhZ",
    "i7qAhZ"⟩,
   ⟨["onao", "olonal"],
    "j5uQhKEA",
    "irEBj3jKhKEA"⟩,
   ⟨["sunu", "sunuwar"],
    "im-AhBOJ",
    "4ABBAJACAcADAimkOhBOJ"⟩,
   ⟨["todr", "todhri"],
    "ihuAhT",
    "4BACACAJABAiKAigzBhT"⟩,
   ⟨["tutg", "tulutigalari"],
    "ik8AJBACABhFBJBACABDBJBBIB",
    "jnGJkgCABAhi5bFlbA60OJBACABhFBJBACABDBJBBIB"⟩]

end ContentFilter.Unicode
