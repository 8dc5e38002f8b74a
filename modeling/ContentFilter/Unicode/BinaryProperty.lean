import ContentFilter.Unicode.RangeTable

/-!
# Binary properties

The yes-or-no properties of Unicode 16: their folded names and the characters that have them.
-/

namespace ContentFilter.Unicode

/-- The folded names of each binary property with its table. -/
def binaryProperties : List (List String × String) :=
  [(["ahex", "asciihexdigit"],
    "hQJHFaF"),
   (["alpha", "alphabetic"],
    "iBZGZhPAKAEAFWBeBuJELOEHABAiWAdRBBCDBAGABCBABTBiSBkKIlFBhFCAGhIhHNBABBBBBAIaEDdKFhXBGOjFBH" ++
    "EHECKCCAQhPNjEYhAJBEAFXCSTYHKFXBFIAIhJKLDGGiLBPBCEONSBHCBCVBGBADDDHCBCBBAIAEBBEMBKAECBFEBC" ++
    "VBGBBBBBBEEEBCBEAHDBARFLCBIBCBVBGBBBEDIBCBBDAPDVDECBHCBCVBGBBBEDHCBCBJBEBBENAQBBFDCBDDBBAB" ++
    "BDBDCDLEEDCBCDAGAhIMBCBWBPDHBCBCIBBCCACDcDBHBCBWBJBEDHBCBCIBGBBDNCMMBCBhICHBCBCBAFDHEWFBCB" ++
    "RDXBIBACGIFBABHSBNhZFGGAhTBBABEBXBABSBCCEBAGAODhAAhfHBhDESEPBhDiDhWBACEQhfKDChFBAFAChKBqMB" ++
    "DCGBABDChIBDChABDCGBABDCOBhYBDCiChFPQiVCFDzLCQBZFiKDKHTLUMTMMBCBBMhTCSOAEAiDiYHhKFiFKeBLEI" ++
    "XdCELhLEZhWbEheCThSAXBLChRhTBOBHhThJCDKhLBKOhWWCKhDCKFhKCChJDBFBBDAFlfThBLoVCFChFCFCHBABAB" ++
    "ABeChUBGBADCBGDDCFEMFCBGjUANAQMjFAEACJBADEGABABABDBKCDFEEARhI5NhTh4WnEGDDBMhFBAFAChXHAQWJG" ++
    "BGBGBGBGBGBGBGBfhPAuVCZIHECEEiVGCBiZBDFhKBidRfhQPwAmtfiA10MiDhNCoMDPKBUhOFHDjQhHICjGCiCCBB" ++
    "ABHVTBhAYhTMiDBAhMFDABCKhAFhCNcDhSBLPAQPKEBhWJNSWDiEBABAYCCPCDLFCFCFJGBGBhKBNGjaVq9DMWEhQo" ++
    "oErNCjJhGGMEFLBMBEBABBBBBjLhBrKShfChVhILjUEBkGhEZGZLiYDFCFCFCChDLBZBSBBBOCNhCjaiFhUoLcDhQh" ++
    "PfNdFhKFdChDEHBEhKkdShDEhDEhHIhTMKBOBGBBBKBOBGBBDhTMpWJVKHYFBhJBIiFFCABhLBBDACWKWJeiBSBBKV" ++
    "KZiGhXGBiADBBFHBCBchKcDchDHBbbhVKVKSNRjOiIhXhSNhSNhHhCbDAFWnahJBBDBQChXADcKAIVhKRhOUbWJiFh" ++
    "LEKhYJANYXhSRDIhCDAJhfBDJBKABAhDRBhBCAGDheGBABDBOBJHhYXDBHCBCVBGBBBEDHCBCBDAGAFGcJBACABhFB" ++
    "JBACABDBBDABAhMiBBCBDUCeiBCBBAlYhVCGZFhCheBADAhbhVCAiHaCNVGlZhYjHhffHCACHBBBdBBCBCDidHChNC" ++
    "FBABBbhSCJRiHFASiImHhAfIBhMBGBAhRdCVBNiJGBBBhLDABBBCBACBYFBBBhEBBBDBAqHWJQBhIDCjPAiP8ZjGjO" ++
    "RmDiyMjAPhhPRFZj8aFyGm1ZhOh2RxYHeRiORdShPQDfUFStQhMmThfkAiKEhYHQiABBAMBOl_XIhmVhJJo3HDBGBB" ++
    "BpCPAdCCAODIsLioEjKFMDIHJEAl7BiUBiGBBCACBCDBLBABGBiABDCHBGBbBDBEBADGBqTCYBYBeBYBeBYBeBYBeB" ++
    "YBHh5UeGFmVGBQCGBBBEFhdhBAjQhMKGQAqBdShLvEbnEdCAvPGBDBBBOBmEhbiDDADAhlUDBaBBBACABJBDBABAGA" ++
    "EABABABCBBBACABABABABABBBACDBGBDBDBABJBQFCBEBQzUZGZGZjzWhp2fhAkhZGmdCl0BOnpQPzNitCwdhvCk6K" ++
    "Fkif"),
   (["bidic", "bidicontrol"],
    "hwcAmvRBaEhXD"),
   (["bidim", "bidimirrored"],
    "hIBSABAcABAdABAhNAPAjzeDh6dBiscBKBhWBOBlRAmADDFDADBDDBDBABAEIFABRFDJBBABHBfCDFAJBCSFBJECBE" ++
    "XCPIDUBHBhhdNiKACDBBBCFDFCDNsTVCFBNIAHFDAEEBBCEEABCCBKFCBMSBDCABACABDFBGCYBLBEDBBCBEhKCHBh" ++
    "HFABADEFCEADEBAoAAwDDDBBBOBCJhLHtLJCHhzxdFFBlCBSABAcABAdABABBBBh17XAhZAhZAhZAhZA"),
   (["ci", "caseignorable"],
    "hHAGALAhDABAiHAEABAEACBvXlfEBEAJBBAnbGmPAFAhRhMBABBBBBAhMALFKKBAhDAKUQAjFHBJBDhBABAeaibKha" ++
    "KEACAYXhLChMAHBFIhJhZhXABAEHEADGKBNAPAhaAEDIAUBaACBhZAEBEBCCDAeBDALBhZAEEBBEAUBWFBAhaACABD" ++
    "IAHBLBeAhdAMAhSADAhXABCFCBDHBLBdAhaACAGAFBUBcBhZBEDIAUBdAiIAHCBAiaACGLIjCACIJABGiJBbABABAh" ++
    "XNBEBBFKBhDJAjGDBFBBCBZBECQDNACBGAPAieAzAC9SCdBeBeBiABBGIACKDAFAhNEhTAiBBhCAjWCEBJAGCmbBCA" ++
    "haABGBABACHGJCAhHAIehRDhQABEBAFAhIIMBhADCBBChYABBDABChaHCBiAFiSCBMBGEAGADBhSheNAhCjEtdABCL" ++
    "CNCNCNBMEIBKACACEhREBJBANAQMhThAi8LBjRCjdAPAjAfhPAuVAhEDDEFAidFidC74WAhnCFoOAjCDBJBAcDiQBO" ++
    "hBiOAXCjHCDBIADAEAZBFAkXBaRNAhGHZKhOChQACDCBRAVBiCFCBCBMAIAhDALAhTABCCBFBBAbAOBFBBAjEEJCjZ" ++
    "ACAEAz5QAkTQxdPDAMPhCACAlJAHAGALAhDABAhPAhNBiDAVCwBAnCAkVEhgFFBhJBIyGCBBFDhICEAlFBxdDhGAaE" ++
    "BApbBiPDiGKhRDjbAhWOhJACBKChRDCBCAEAKAhSChEEBHheAMBhUIKDCAifCCABBGACAkdADHVBhZBDAhFGDEiGFN" ++
    "ABABAOBiVHCCBAXAiUFBAEBBBnODGBBBbBiVHCABBjKABACFBAjFABACDBEoDIBBoABBAEAkQDCBEAhAJhIFCDIAJF" ++
    "CChOMBBsWGBFBAiSVCGBBBBjaFDABBBGBAiIBDABAqbBLBhUEFABAXAlmVQGOrmILDCiuAEhbGJDvcChIBvCAhfQiA" ++
    "BBBwgLDBGBBjkeBBDkychNCWxACJPCGeDkUCh9bhWEhRIAOAWEBOhqQGBQCGBBBEFhdhBAlANrQAhdDvbEneB3AGjN" ++
    "Hi1PE4jgBAeifkAnP"),
   (["cased"],
    "iBZGZhPAKAEAFWBeBmCBDEmPChCHBeEjAAhKDCBCDBAGABCBABTBiSBkKIlFBhFJhIi4XhFBAFAChKBD1AiVCFikCK" ++
    "FhKCCiAlfiAoVCFChFCFCHBABABABeChUBGBADCBGDDCFEMFCBGjUANAQMjFAEACJBADEGABABABDBFEACDFEEARfD" ++
    "B5RhTh4WnEGDDBMhFBAFA-oShNSdkEjFDDBhdCBBABHVEBC5VhKBNGiPz6AGMEhgJZGZhlFiPjAhDEhDjUKBOBGBBB" ++
    "KBOBGBBuDACCBhJBIhmFhSNhSidVKVi4ahf1rAhf5sAiUBiGBBCACBCDBLBABGBiABDCHBGBbBDBEBADGBqTCYBYBe" ++
    "BYBeBYBeBYBeBYBHh5UJBTGFoFhdikSiDh_MZGZGZ"),
   (["cwcf", "changeswhencasefolded"],
    "iBZiaAKWBHhAABABABABABABABABABABABABABABABABABABABABABABABABABABABACABABABABABABABABBBABAB" ++
    "ABABABABABABABABABABABABABABABABABABABABBBABABABBBABBBCCDBBBCDBBBBABABBBACABBBCBABBDAHBBBB" ++
    "BBABABABABABABABACABABABABABABABABACBBABCBABABABABABABABABABABABABABABABABABABABABABABABAB" ++
    "ABABABABAHBBBCABDBABABABAnWAhKABADAIAGABCBABBBQBIWAMCDBBABABABABABABABABABABABABBCBBABBChS" ++
    "hQABABABABABABABABABABABABABABABABAJABABABABABABABABABABABABABABABABABABABABABABABABABABAB" ++
    "BBABABABABABACABABABABABABABABABABABABABABABABABABABABABABABABABABABABABABABABABABABABABAB" ++
    "ABABABABABABABABABAChFhQAi4YhFBAFA5KFikCJGhKCCqAABABABABABABABABABABABABABABABABABABABABAB" ++
    "ABABABABABABABABABABABABABABABABABABABABABABABABABABABABABABABABABABABABABABABABABABABABAB" ++
    "ABABABABABABABABAFBCABABABABABABABABABABABABABABABABABABABABABABABABABABABABABABABABABABAB" ++
    "ABABABABABABABABABABABABABAJHIFKHIHIFLABABABAIHQhPCCCFFCCFLDMEFCCFpJADBGAhNPTA5SZh5QhPhQAB" ++
    "CCABABABDBACAICBABABABABABABABABABABABABABABABABABABABABABABABABABABABABABABABABABABABABAB" ++
    "ABABABABABABABABABABABAIABAEA-qNABABABABABABABABABABABABABABABABABABABABABABATABABABABABAB" ++
    "ABABABABABABABAkHABABABABABABADABABABABABABABABABABABABABABABABABABABABABABABABABABABABABA" ++
    "BAKABABBBABABABAEABACABADABABABABABABABABABABEBEBABABABABABABABDBABBDAFABABABAYA7aiPz6AGME" ++
    "hgJZhmFhHkIhDkcKBOBGBBh3KhSkdVi5af1sAf-1AhB"),
   (["cwcm", "changeswhencasemapped"],
    "iBZGZhaAKWBeBhfBiTBbCNCBBAEicBRGaBBBABBDBBDBECABBCAHACABBDFFAKBlGAhKDCBDCBAGABCBABTBhODhAB" ++
    "EBkEIlFBhFKhGi4YhFBAFAChKCC1AiVCFikCKFhKCClZADAQAjRkbCABjVCFChFCFCHBABABABeChUBGBADCBGDDCF" ++
    "EMFCBGpJADBGAbARfDB5RhTh4WjQBBBBHjFHDDBMhFBAFA-oShNSbkGNChdJODCCEBYBdCBBABHYB6cAciPz6AGMEh" ++
    "gJZGZhlFiPjAhDEhDjUKBOBGBBBKBOBGBBh2DhSNhSidVKVi4ahf1rAhf-0AiD"),
   (["cwl", "changeswhenlowercased"],
    "iBZjFWBGhBABABABABABABABABABABABABABABABABABABABABABABABABABABABACABABABABABABABACABABABAB" ++
    "ABABABABABABABABABABABABABABABABABABABBBABADBBABBBCCDBBBCDBBBBABABBBACABBBCBABBDAHBBBBBBAB" ++
    "ABABABABABABACABABABABABABABABACBBABCBABABABABABABABABABABABABABABABABABABABABABABABABABAB" ++
    "ABABAHBBBCABDBABABABApBABADAIAGABCBABBBQBIhDAIABABABABABABABABABABABAFACABBChShQABABABABAB" ++
    "ABABABABABABABABABABABAJABABABABABABABABABABABABABABABABABABABABABABABABABABABBBABABABABAB" ++
    "ACABABABABABABABABABABABABABABABABABABABABABABABABABABABABABABABABABABABABABABABABABABABAB" ++
    "ABABABAChFi6JhFBAFA2SiVikTAGhKCCqAABABABABABABABABABABABABABABABABABABABABABABABABABABABAB" ++
    "ABABABABABABABABABABABABABABABABABABABABABABABABABABABABABABABABABABABABABABABABABABABABAB" ++
    "ABAJABABABABABABABABABABABABABABABABABABABABABABABABABABABABABABABABABABABABABABABABABABAB" ++
    "ABABABABABAJHIFKHIHIFLABABABAIHYHIHIHIELELDMELEpJADBGAhNPTA5SZh5QhPhQABCCABABABDBACAICBABA" ++
    "BABABABABABABABABABABABABABABABABABABABABABABABABABABABABABABABABABABABABABABABABABABABABA" ++
    "BABAIABAEA-qNABABABABABABABABABABABABABABABABABABABABABABATABABABABABABABABABABABABABAkHAB" ++
    "ABABABABABADABABABABABABABABABABABABABABABABABABABABABABABABABABABABABABAKABABBBABABABAEAB" ++
    "ACABADABABABABABABABABABABEBEBABABABABABABABDBABBDAFABABABAYA15LZhmFhHkIhDkcKBOBGBBh3KhSkd" ++
    "Vi5af1sAf-1AhB"),
   (["cwt", "changeswhentitlecased"],
    "jBZhaAhJXBHBABABABABABABABABABABABABABABABABABABABABABABABABABABABACABABABABABABABBBABABAB" ++
    "ABABABABABABABABABABABABABABABABABABABACABABCCABACADAFACADCCACABABACAEACADABACADABAEABBBBB" ++
    "ABABABABABABABABBBABABABABABABABABCBABADABABABABABABABABABABABABABABABABABABABADABABABABAB" ++
    "ABABABAIACBBAEABABABABFBBBABBDBBDBECABBCAHACABBDFFAKBlGAhLABADADCSAbhCBBDCBABABABABABABABA" ++
    "BABABABEBACACAhUhPBABABABABABABABABABABABABABABABABAJABABABABABABABABABABABABABABABABABABA" ++
    "BABABABABABABABACABABABABABABBBABABABABABABABABABABABABABABABABABABABABABABABABABABABABABA" ++
    "BABABABABABABABABABABABABABABABABABAhRhGjzQFikCIBAnOADAQAjSABABABABABABABABABABABABABABABA" ++
    "BABABABABABABABABABABABABABABABABABABABABABABABABABABABABABABABABABABABABABABABABABABABABA" ++
    "BABABABABABABABABABABABABABGFABABABABABABABABABABABABABABABABABABABABABABABABABABABABABABA" ++
    "BABABABABABABABABABABABABABABABABIIFKHIHIFKHIHINCHIHIHIEBBGADCBBIDCBIHKCBBqWAhBPEA6LZh6GhP" ++
    "BADBBABABAGACAKABABABABABABABABABABABABABABABABABABABABABABABABABABABABABABABABABABABABABA" ++
    "BABABABABABABABABABABABAIABAEAMhFBAFA-oTABABABABABABABABABABABABABABABABABABABABABABATABAB" ++
    "ABABABABABABABABABABABAkHABABABABABABADABABABABABABABABABABABABABABABABABABABABABABABABABA" ++
    "BABABABABAKABACABABABABAEAEABBCABABABABABABABABABALABABABABABABABAEABACADABABABABABAaA6cAc" ++
    "iPz6AGMEhhJZhmNhHkIhDkbKBOBGBBh4DhSjdVi5af1sAf-1ChB"),
   (["cwu", "changeswhenuppercased"],
    "jBZhaAhJXBHBABABABABABABABABABABABABABABABABABABABABABABABABABABABACABABABABABABABBBABABAB" ++
    "ABABABABABABABABABABABABABABABABABABABACABABCCABACADAFACADCCACABABACAEACADABACADABAFBBBBBB" ++
    "ABABABABABABABBBABABABABABABABABBBBBADABABABABABABABABABABABABABABABABABABABADABABABABABAB" ++
    "ABABAIACBBAEABABABABFBBBABBDBBDBECABBCAHACABBDFFAKBlGAhLABADADCSAbhCBBDCBABABABABABABABABA" ++
    "BABABEBACACAhUhPBABABABABABABABABABABABABABABABABAJABABABABABABABABABABABABABABABABABABABA" ++
    "BABABABABABABACABABABABABABBBABABABABABABABABABABABABABABABABABABABABABABABABABABABABABABA" ++
    "BABABABABABABABABABABABABABABABABAhRhGi6IhKCC3YFikCIBAnOADAQAjSABABABABABABABABABABABABABA" ++
    "BABABABABABABABABABABABABABABABABABABABABABABABABABABABABABABABABABABABABABABABABABABABABA" ++
    "BABABABABABABABABABABABABABABABGFABABABABABABABABABABABABABABABABABABABABABABABABABABABABA" ++
    "BABABABABABABABABABABABABABABABABABABIIFKHIHIFKHIHINChUBBEABADCBBEADDCBIHKCBBEAqRAhBPEA6LZ" ++
    "h6GhPBADBBABABAGACAKABABABABABABABABABABABABABABABABABABABABABABABABABABABABABABABABABABAB" ++
    "ABABABABABABABABABABABABABABAIABAEAMhFBAFA-oTABABABABABABABABABABABABABABABABABABABABABABA" ++
    "TABABABABABABABABABABABABABAkHABABABABABABADABABABABABABABABABABABABABABABABABABABABABABAB" ++
    "ABABABABABABABAKABACABABABABAEAEABBCABABABABABABABABABALABABABABABABABAEABACADABABABABABAa" ++
    "A6cAciPz6AGMEhhJZhmNhHkIhDkbKBOBGBBh4DhSjdVi5af1sAf-1ChB"),
   (["dash"],
    "hNAhqcAhTAjyBAhgFAigJFhdAhHAPAsGAjgEACAfBEAcAteATAjPAhzsQBhFAKAlJAjzAApeA"),
   (["di", "defaultignorablecodepoint"],
    "lNA1BA2MAi6CBhyTBiVEh_bEaEhRPknUAhzkbPnPAlAAiPIhvlHDlmPH4r0Fj_f"),
   (["dep", "deprecated"],
    "qJAhpJAioDABAihJBimFF1ZB73mWA"),
   (["dia", "diacritic"],
    "ieABAiHAGAEACBvXkeBHFFRBEAJBndEmRAhXhMBABBBBBAkDHEBkGBEBDCiDaibKhaKhCBjeHhJJQbhdAQADDcAiKA" ++
    "QAjOAQAjOAQAhPChcAQAHAjXAjOAQAjOAQAjNBQAjcAjPAMFBAjLANEiLBbABABAEBiCCBBheAjQABBhIBEEZGBAKB" ++
    "2BC9UBeAkUKJAqbCpEAUHCAhQOCKjIAPAhGIhWBhaALBiCBiAFiSYEAGACChShehQhDFLhFKtdABCLCNCNCNBjnQCp" ++
    "dAvaFjJDifA9rSAMBBAcBiSBOhBjGCjNBMAhFAkXAbRhZDhEAifAMAhEAkVCiBDhTAjEEJCkABz5QA4BPoOABAhPAh" ++
    "NBiDA3cAhkfFBhJBIzdCEAlFBxbFhGAaEsPCiGKhRDmAAhJAiIBjYBheAiMAJCjIBlSBiQBQAYGDEiZCBBNBifADAj" ++
    "bBnbBjeAjWBjTAoNBoCBEAkcAiTASAiRAtFAoCABBiRAtJBXAlnMOrmZAiuAEhbGxUBxCQiQBv_eDBGBBn4BhNCWxA" ++
    "CDFIHCGeDj0ChdmCGrXAhdD3eB3AGjNCBC"),
   (["emoji"],
    "hDAGAFJjPAEAn8NAMAmYAWAiaFPBrPBMAlGAZKECmHAnHBKAJAhaDBEJACACBCAEACABBCADADBICFABAFLLBCABBB" ++
    "ASACBSFBABBDBFACBEBLBFBCAFBBABBUBFFBDCAEACACFBACABABAGADAGAKBPACAEABAECBALBhQCJAOAOArUBuPC" ++
    "TBhTAEAhmaAMAyZABAjvrKAmKAlABMBOACJiLZBBXAUACIVBlOhBCjPCBBCCiSCCBoGBheLFBXHBCHMACDCAEBNBCA" ++
    "IBJAFCMCICCABAEAGADAGiVhQiFFHCCEJDABBDACJnDLEAobhOBJBlYjQMDJFhXHOCKGI"),
   (["ecomp", "emojicomponent"],
    "hDAGAFJn-TAmVAh3pLAh8-WZvbEhtQD4hzMif"),
   (["emod", "emojimodifier"],
    "j8_bE"),
   (["ebase", "emojimodifierbase"],
    "pwdAmbAQDjzjXAhcCCACCjVBCKVSDAECBCHABAYAmJBEAVAEBlOCDEiTAQCJALAxfACAIHGAJJCChYAhdBBBBARCBM" ++
    "nFChKI"),
   (["epres", "emojipresentation"],
    "o4aBmNDDACAwJBVBhSLhLATANAIBRBFBIAFAVAHBBAEACAHAEBcAhDABAECBAhdCYAOA6bBhTAEAjxlOAmKAleACJi" ++
    "LZBAYAUACEBCVBlOhAMIBiFBVMhKEEMQDADiGBABlaCheNDBXSAaBNAiWiUhQiFGADCCCEDLBHInDLEAobhOBJBlYj" ++
    "QMDJFhXHOCKGI"),
   (["extpict", "extendedpictographic"],
    "lJAEAn8NAMAmYAWAiaFPBrPBMAlGAZKECmHAnHBKAJAhaDBEJACACBCAEACABBCADADBICFABAFLLBCABBBASACBSF" ++
    "BABBDBFACBEBLBFBCAFBBABBUBFFBDCAEACACFBACABABAGADAGAKBPACAEABAECBALBhQCJAOAOArUBuPCTBhTAEA" ++
    "hmaAMAyZABAjvrKAhHDjELPBPAOBhFJjQBMBOACJThXbOKAUACIBDJWGlbCjPCBBCCiSCCBDFndBheLFBXHBCHMACD" ++
    "CAEBNBCAIBJAFCMCICCABAEAGADAGiVhQiFFHCCBMDABFCMmahFMDhYHKFhIHeBMDCNJhGMhOBJBlYiYHObBCBhYBD" ++
    "BbBDBPoA_d"),
   (["ext", "extender"],
    "lXAwYB7OAtZAzWAkJAiZA3QAjfAiqDAhYAzDAsOAiEAk8JAhLEjHBidC74WAhvWA-CAWAkJAjMAVB1jbAigQBhuLAb" ++
    "AEAhmHApFAjUBvSChmPA0lJBhkcBBA8qYBhlRA6UC"),
   (["grbase", "graphemebase"],
    "hAiehBMByRjQHCFEGBABTBmfHlFBhFChRCChOABACACAJaEFRJLABhNVPBjEIAGBCAEfCABddiYLAOhKJGDXEAJADA" ++
    "HOBYFABKFeRhJhZhWBABDIDBCHJCcBBBHCBCVBGBADDDABBGBCBBANBBCEXFABFEBCVBGBBBBBBECYDBAHJCCBAMAB" ++
    "IBCBVBGBBBEDDIABBDAPBELHAIBBHCBCVBGBBBEDACAGBCBPBBCERLABFDCBDDBBABBDBDCDLFABBDCBCDAVUGCBHB" ++
    "CBWBPDADDTCCACBEJHJBKBCBWBJBEDBCABBYBBBEJBCOKBCBhICABBFCBCBBECBJEZCBBRDXBIBACGJBGGHJCCMhPB" ++
    "BLHIMhFBBABEBXBABJBBJACEBAJJCDhAXCaBABABNBhDSAFACEhRHBFBMhFhMEAGACBCYCDDPEMBBCFBOBhHBAFACr" ++
    "YBDCGBABDChIBDChABDCGBABDCOBhYBDCiCFcDZGiVCFC0cDiYHRNSDBJROMBCPhTCAHHBBLIDJGJGKFJGiYHEChBB" ++
    "AFiFKeEDCCEBBFHADhJCELhLEZGKDhYCBDhXBAJABBIFNJGJGNiWhPKDDHBcJLCfEBGhXBACCBANhPIBFODhdFhKCK" ++
    "LANAHDBFBCCAFlfiAoVCFChFCFCHBABABABeChUBOBNCFBSCCBIBKFXHhQQBCaBMDhAhfkLE0ZWKVh4TCfBqXDBFhM" ++
    "BAFAChXHBPWJGBGBGBGBGBGBGBGhBidhCZBiYMmVahZGPBiVEjEFhKBidBiVJhPB8zMDhWJqbUhOEAKfCiPCFImNCB" ++
    "BABHVPBCBDBYCEEJGhXIiDKLYMBhFIYLAMdGhPBBEBCBBMBKEGBYBhIGBCBLCBHBACJCfBhSBADBCECABAYQCHLFCF" ++
    "CFJGBGBhbEjUBBBDDJGq9DMWEhQooErNCjJhGGMEFABXBEBABBBBBjcQtcChVHAhAPQJWhCBSBDEEBkGEkcCeDFCFC" ++
    "FCCDGBGNBCLBZBSBBBOCNhCjaFCEhMDiXBMDAhPhMkDcDhQQaEhDJdFhFKdBhEENhKkdCJGhDEhDEhHIhTLLBOBGBB" ++
    "BKBOBGBBDhTMpWJVKHYFBhJBIiFFCABhLBBDACWBiHIIhQSBBFhADaFAiAhXETChOPDBCBcKIHIHhfhAhEGLJhVDcC" ++
    "aFZHDMGiQiIhXhSNhSHhJMJGhFIXIBmQeBhJDACBQChbhHIVLIWREDhGbUWJABhVPGEdBBCAMhQEBCBBDOYHJJhDFA" ++
    "JRIhCBCLhTJABHEBBPBTLRBbDBEFBBhfGBABDBOBKGhOBCNJIBBHCBCVBGBBBEDABABDCBCBDAMGcJBACABhFBABBP" ++
    "ABBDABCBBhHhXIBDABUBABCehPBBGABBBACACDIJlGhOBBGDCACahEhSIBBACDLJGMThKBABBIBGJGTcaDABBEAJWl" ++
    "ZhOJACAjEiSMHCACHBBBXBEBBGDBCJJiGHChJIDBDbAKhHGBEHJAGBDhNNACINiIHJlWhBOJGIBhFOABFKcDfZAHAC" ++
    "AiLGBBBhFVAJJGFBBBhEEBBABAHJpWSCDJOBhDIBDWiWAPhRN8ajGjOBELmDiyMjCNhhPRFZj8aFyGm1ZdMCDJh2Gx" ++
    "YHeBJEiQBJGdHAKhPHOKJBGBUFStQhZmGiajFiKFhXLMiADcl_XIhmVhJJo3HDBGBBBpCPAdCCAODIsLioEjKFMDIH" ++
    "JCACAj7AnZGtTkcjThcnVKhGChbFCWBHdEhcViBDAjaTMTMiWJYkHiUBiGBBCACBCDBLBABGBiABDCHBGBbBDBEBAD" ++
    "GBqTCpDCxRhXDhSHBNBGhjUeGFoFhdkShMKGCJEBqAdShLEJFAuQbEJmWdCKEAvAGBDBBBOBmECIhQiDHAEJEB4RiD" ++
    "iMhcmCDBaBBBACABJBDBABAGAEABABABCBBBACABABABABABBBACDBGBDBDBABJBQFCBEBQhUBoOhLEjDMOCOBOBhE" ++
    "KlNhYcNhLEIHBOFka-XEQDMDjWEieGLEAPLEhXIJGhHIdCLEBheqTMNCMDJFhXHOCKGIHkSBjFhgGhp2fhAkhZGmdC" ++
    "l0BOnpQPzNitCwdhvCk6KFkif"),
   (["grext", "graphemeextend"],
    "4AjPoTGoHhMBABBBBBAiIKhQUQAjFGCFCBBDhDAeaibKhaIJAYDBIBCBEhLChbIhKXBfhXABAEHEADGKBdAhaABACD" ++
    "IAJAKBaACBhZAEBEBCCDAeBDALBhZAEEBBEAUBWFBAhaABBBDIAHCKBeAhbABAMAJAhIADAhXABCFCBDHBLBdAhaAC" ++
    "BBADCBDHBLBcBhZBBACDIAJAKBdAiIAEACCBAIAiRACGMHjCACILGiJBbABABAhXNBEBBFKBhDJAjGDBFBBCBZBECQ" ++
    "DNACBGAPA1fC9SDcCdBeBiABBGIACKJAhNCBAjVBhCAjWCEBJAGCmbBCAhaABGBABACHGJCAhQehRDhQJEChGIMBhA" ++
    "DCFhYABBDABEhYHCBkYCBMBGEAGADBmGhfwMAmDhAi_eCkNAjAfxKFjJB9uUDBJhABiQBoQADAEAZBFAkXBaRNAhGH" ++
    "ZKBAhMChQACDCBCAhEAiDFCBCBMAIAhPAhTABCCBFBBAhKBIAnOACAEAz5QA3BPQPrOBydAnCAkVEh0GCBBFDhICEA" ++
    "lFBxdDiBEpdBiPDiGKhRDjbAhWOhJACBKChRDCBHAhdChEEBHheAMBhUIBAIDCAifCCDGACAkdADHVBhZBBABAMAJA" ++
    "OGDEiDACFBACABCECBAOBiVHCCBAXAiRACFBACABBBBnLACDGBBBbBiVHCABBjKABACHjFABACDBEoDIBBnVAKDEAk" ++
    "QDCBEAhAJhIFCDIAJFCChOMBBsWGBFBAiSVCGBBBBjaFDABBBGBAiIBDABAqbBLBhUEFCXAlnFAGOrmILDCiuAEhbG" ++
    "hgYAhfDiRALBzlLBkzBhNCWweEDFIHCGeDkUCh9bhWEhRIAOAWEBOhqQGBQCGBBBEjEAlAGrXAhdDvcDneB3AGjNG4" ++
    "l2VifkAnP"),
   (["grlink", "graphemelink"],
    "iqNAjfAjfAjfAjfAjfAjfAjfAjNBQAjcAjPAjfAmJAlUBh2ZBeAkdA0NAnDAjFBiGBksLA-0GAhFAkXAkOAjMApVAn" ++
    "WA3yRAhwGAhJAOAhZAjZBkLAjUAlUAjCAkACjRAjfAncAjfAjWAjUAoNAoDBlBAiTASAiRAtFAoEBiRAtJBwvMA"),
   (["hex", "hexdigit"],
    "hQJHFaFh_1JJHFaF"),
   (["hyphen"],
    "hNAjfAhmcAkzbAigJBjwFA3DAhzrHAlJAiXA"),
   (["idsb", "idsbinaryoperator"],
    "r_QBCJvRA"),
   (["idsu", "idsunaryoperator"],
    "r_eB"),
   (["idst", "idstrinaryoperator"],
    "r_SB"),
   (["idcompatmathcontinue"],
    "lSBFAn9WADKBOrTAEAWAjtlCAZAfAZAfAZAfAZAfAZA"),
   (["idcompatmathstart"],
    "owCAEAWAjtlCAZAfAZAfAZAfAZAfAZA"),
   (["idc", "idcontinue"],
    "hQJHZEABZhPAKABACAFWBeBuJELOEHABARjUBBCDBAGEBABTBiSBkKBEClFBhFCAGhIIhMBABBBBBAIaEDdKFiJEjF" ++
    "BHCJBSCAQhaCjEOhVEACAChNSbEKFXBFIiKBkACJBSBHCBCVBGBADDCICBCDIAEBBECLKABACCBFEBCVBGBBBBBBCA" ++
    "BEEBCCDAHDBAHPLCBIBCBVBGBBBECJBCBCCAPDCJJGBCBHCBCVBGBBBECICBCCHCEBBECJBAQBBFDCBDDBBABBDBDC" ++
    "DLEEDCBDCAGAOJQMBCBWBPCIBCBDHBBCCACDCJQDBHBCBWBJBECIBCBDHBGBBDCJBCMMBCBhSBCBEFDHECJKFBCBRD" ++
    "XBIBACGDAEFBABHGJCBNhZFOBJhHBBABEBXBABWCEBABGBJCDhAAXBGJLABABAEJBhDETBRBhDJAhZiJGiNChFBAFA" ++
    "ChKBqMBDCGBABDChIBDChABDCGBABDCOBhYBDCiCCCJIOPQiVCFDzLCQBZFiKDKHVJVLTMMBCBBMiTDAEBCJhBCBKG" ++
    "iYHhKFiFKeBLELKhHCELhLEZGKhFbEheBcCKGJNAINBPhRiMDJRIMjTMhXIJDhQCKFhKCCQCBhGFwVCFChFCFCHBAB" ++
    "ABABeChUBGBADCBGDDCFEMFCBGPBhRBTAcANAQMhTMEADLRAEACJBACFGABABABPCDFEEARhIizXnEGIMhFBAFAChX" ++
    "HAPXJGBGBGBGBGBGBGBGBfwFCZOBECEEiVCGBieFhKBidRfhQPwAmtfiA10MiDhNCoMDbUhPEJBjShFICjGCiCCBBA" ++
    "BHVhVEAThTMiFKJGXDABhQChDMcDiAOKGeBhWJNCJGWDiIYCCPCEKFCFCFJGBGBhKBNGjaBBCJGq9DMWEhQooErNCj" ++
    "JhGGMEFLBMBEBABBBBBjLhBrKShfChVhILEPQPDBYChAEBkGTJHZEABZKiZDFCFCFCChDLBZBSBBBOCNhCjaiFhUkI" ++
    "AkCcDhQPAffNdFhKFdChDEHBEhKkdCJGhDEhDEhHIhTMKBOBGBBBKBOBGBBDhTMpWJVKHYFBhJBIiFFCABhLBBDACW" ++
    "KWJeiBSBBKVKZiGhXGBiADBBFHBCBcCCEAhAcDchDHBdZhVKVKSNRjOiIhXhSNhSNhHIJGhFDEBWnahJBBDBQChXhA" ++
    "KAIhAfVhKUbWJiGfPJhbHANYHJGhUBJEDIhDCAJiEEDBMBAhDRBhEGDheGBABDBOBJHhaFJGDBHCBCVBGBBBEBJCBC" ++
    "CCAGAFGCGDELJBACABhFBJBACABDBHNBdiKFJEDeiFBAIJlGhVCIXFhCiADALJhGhYHJGTcaCOEJGGlZhajFiJVHCA" ++
    "CHBBBdBBCIMJiGHChNCHBBbheIAIiJDASiImHhAPJGIBhMBIPJYdCVBNiJGBBBhLDABBBIIJGFBBBhEBBBFHJpWWJQ" ++
    "BhIDENKiVAiP8ZjGjORmDiyMjAPhhPQVKj8aFyGm1ZhZh2GxYHeBJGiOBJGdCELhWJDMJJUFStQhMDJmGhfkAiKEhY" ++
    "HQiABBBLBOl_XIhmVhJJo3HDBGBBBpCPAdCCAODIsLioEjKFMDIHJDBkiRJwGhNCWweEDFIHCGeDkUCtbiUBiGBBCA" ++
    "CBCDBLBABGBiABDCHBGBbBDBEBADGBqTCYBYBeBYBeBYBeBYBeBYBHChRwAhWEhRIAOAWEBOhiQeGFmVGBQCGBBBEF" ++
    "hdhBAjQhMDNCJEAqBeRhZuWhJmWhKvFGBDBBBOBmELGhJiLEJhlGDBaBBBACABJBDBABAGAEABABABCBBBACABABAB" ++
    "ABABBBACDBGBDBDBABJBQFCBEBQjpUJhgGhp2fhAkhZGmdCl0BOnpQPzNitCwdhvCk6KFkif13qQnP"),
   (["ids", "idstart"],
    "iBZGZhPAKAEAFWBeBuJELOEHABAkBEBBCDBAGABCBABTBiSBkKIlFBhFCAGhIiHaEDhNhKhDBBjCBAPBHBKCCAQABd" ++
    "diYLAYhAJBEAFVEAJADAXYHKFXBFRhJhahVDASAHJPPEHCBCVBGBADDDAQANBBCOBKAIFEBCVBGBBBBBBfDBATCQIB" ++
    "CBVBGBBBEDASAPBXALHCBCVBGBBBEDAeBBCPARABFDCBDDBBABBDBDCDLWAhUHBCBWBPDAaCCACBeAEHBCBWBJBEDA" ++
    "fBBBPBRIBCBhICAQAFCICYFFRDXBIBACGhahPBBMGhaBBABEBXBABJBBJACEBAVDhAAhfHBhDbEjThKUAQFEDDADBH" ++
    "CEMMARhFBAFAChKBqMBDCGBABDChIBDChABDCGBABDCOBhYBDCiChFPQiVCFDzLCQBZFiKDKHRNSOROMBCPhThDAEA" ++
    "iDiYHhIBAFiFKehRdCELhLEZhWWJhUiSAidhORHhWdNBKhLahDhJCKhDCKFhKCChJDBFBBDAFlfiAoVCFChFCFCHBA" ++
    "BABABeChUBGBADCBGDDCFEMFCBGjUANAQMjFAEACJBACFGABABABPCDFEEARhIizXnEGDDBMhFBAFAChXHAQWJGBGB" ++
    "GBGBGBGBGBGxGCZIHECEEiVEEBiZBDFhKBidRfhQPwAmtfiA10MiDhNCoMDPKBUhOQeCiPhHICjGCiCCBBABHVPBCB" ++
    "DBWdhTOhRheFDABBLbKWZcHhOcAQEBJKEBhIXCBHUWDADhRBADBCECABAYCCKHCMFCFCFJGBGBhKBNGjSdq9DMWEhQ" ++
    "ooErNCjJhGGMEFABJBMBEBABBBBBjLhBrKShfChVhILjUEBkGhEZGZLiYDFCFCFCChDLBZBSBBBOCNhCjaiFhUoLcD" ++
    "hQhPfNdFhFKdChDEHBEhKkdShDEhDEhHIhTMKBOBGBBBKBOBGBBDhTMpWJVKHYFBhJBIiFFCABhLBBDACWKWJeiBSB" ++
    "BKVKZiGhXGBiAAPDBCBchKcDchDHBbbhVKVKSNRjOiIhXhSNhSNhDhGbJWnahJGBQChbcKAIVhKRhOUbWMhUhZBCAN" ++
    "hMhAYahDdACAIhCDAMhPODVABAhDRBYTBhfGBABDBOBJHhOhGHCBCVBGBBBEDASAMEeJBACABhFBAZABAhMhUSDUCe" ++
    "hPUBBAlYhOhJDhEhPUAhbhKNAiHahFGlZhLjUhffHCACHBBBXPABAieHChGQABAcAKhHHAVALhNTASiImHhAfIBhER" ++
    "AhRdjQGBBBhFVAZFBBBfOAqHSPABMBhBjcAiP8ZjGjORmDiyMjAPhhPRFZj8aFyGm1Zdh3CxYHeRiORdShPQDfUFSt" ++
    "QhMmThfkAiKFAiCMiABBAcl_XIhmVhJJo3HDBGBBBpCPAdCCAODIsLioEjKFMDIHJl7GiUBiGBBCACBCDBLBABGBiA" ++
    "BDCHBGBbBDBEBADGBqTCYBYBeBYBeBYBeBYBeBYBHh5UeGFoFhdkShMKGQAqBdShLvEbnEdCAvPGBDBBBOBmEhbiDH" ++
    "AhlUDBaBBBACABJBDBABAGAEABABABCBBBACABABABABABBBACDBGBDBDBABJBQFCBEBQkqEhp2fhAkhZGmdCl0BOn" ++
    "pQPzNitCwdhvCk6KFkif"),
   (["ideo", "ideographic"],
    "sgGBZIOC-FmtfiA0vf2oArNCjJ9oKAbl_XIhmVhJJpjHsLzoEhp2fhAkhZGmdCl0BOnpQPzNitCwdhvCk6KFkif"),
   (["joinc", "joincontrol"],
    "ogMB"),
   (["loe", "logicalorderexception"],
    "jyAEjbEi3QCCAhknaBCABB"),
   (["lower", "lowercase"],
    "jBZhPAKAEAhEXBHBABABABABABABABABABABABABABABABABABABABABABABABABABABABBBABABABABABABABBBAB" ++
    "ABABABABABABABABABABABABABABABABABABABABABACABABCCABACADBEACADCCACABABACABBBACADABACBCCGAC" ++
    "ACABABABABABABABABBBABABABABABABABABBCABADABABABABABABABABABABABABABABABABABABABABABABABAB" ++
    "ABABABABABGCACBBAEABABABABiEChCHBeEjAAhLABADACDSAbhCBBDCBABABABABABABABABABABABEBACACBhThP" ++
    "BABABABABABABABABABABABABABABABABAJABABABABABABABABABABABABABABABABABABABABABABABABABABACA" ++
    "BABABABABABBBABABABABABABABABABABABABABABABABABABABABABABABABABABABABABABABABABABABABABABA" ++
    "BABABABABABABABABAhQhIi6HhKBD3YFikCIBAjVlfiBABABABABABABABABABABABABABABABABABABABABABABAB" ++
    "ABABABABABABABABABABABABABABABABABABABABABABABABABABABABABABABABABABABABABABABABABABABABAB" ++
    "ABABABABABABIBABABABABABABABABABABABABABABABABABABABABABABABABABABABABABABABABABABABABABAB" ++
    "ABABABABABABABABABABIIFKHIHIFKHIHINCHIHIHIEBBGADCBBIDCBIHKCBBjZANAQMjNADBDAbAEAEACBIDEAhBP" ++
    "EA6LZh6GhPBADBBABABAEABBBHDABABABABABABABABABABABABABABABABABABABABABABABABABABABABABABABA" ++
    "BABABABABABABABABABABABABABABABABABBHABAEAMhFBAFA-oTABABABABABABABABABABABABABABABABABABAB" ++
    "ABABABATABABABABABABABABABABABABABCkFABABABABABABCBABABABABABABABABABABABABABABABABABABABA" ++
    "BABABABABABABABABABABJBABACABABABABAEABACABCBABABABABABABABABABAFAFABABABABABABABAEABACADA" ++
    "BABABABABAWCBABC5VhKBNGiPz6AGMEhhJZhmNhHkIhDkbKBOBGBBuDACCBhJBIhoFhSjdVi5af1sAf5saZaGBRaZa" ++
    "DBABGBKaZaZaZaZaZaZaZaZabcYBFaYBFaYBFaYBFaYBFBAh5UJBTGFoFhdilUhB"),
   (["math"],
    "hLAQCfAdABAhNAEAhFAfA2YCCAaBCCwPCmwNAbCLADANAODVELEiBMEADBEESAEACJBACFGADBCBBCBFDNBAiEXBFB" ++
    "BEBEfBAGBOoLIDUBiaAeaBAYALGtdBMJEFEBCBDEOABACFLHFBhZABAdDJCqQhfoAvfhQUCFhz-cA5XFBAlCAQCdAB" ++
    "AdABAkDAGDjtBBhxzQiUBiGBBCACBCDBLBABGBiABDCHBGBbBDBEBADGBqTCpDChRlwADBaBBBACABJBDBABAGAEAB" ++
    "ABABCBBBACABABABABABBBACDBGBDBDBABJBQFCBEBQhUB"),
   (["mcm", "modifiercombiningmark"],
    "hyUBCAkDAGADBvBBBCDAfA"),
   (["nchar", "noncharactercodepoint"],
    "h_uQfwOBh__eBh__eBh__eBh__eBh__eBh__eBh__eBh__eBh__eBh__eBh__eBh__eBh__eBh__eBh__eBh__eB"),
   (["oalpha", "otheralphabetic"],
    "6FAdMyANBABBBBBAiIKhQMBGQAjFGEDCBEAhDAePjGKjFBDIBCBDjKAhcLDGGThWBCOBBFCKBdChaGCBCBKAKBdCha" ++
    "EEBCBEAeBDALChaHBCBBVBWCEChaGCBCBJBKBeAhbEDCBCKAhIEhZGBCBCIBLBdChaGBCBCIBLBPAMDhaGBCBCKAKB" ++
    "dCiLFBABHSBhdACGSAjDACFBBQAlDSJKBhDjOLBACDXDECBCCGDDNLBAKDhzUBeBeBeBiCSlcBhCAjWLEImeEhZJCT" ++
    "iKBLChREhQOhcCeICBhZKhSSschBh2BhTinWf-jUHhCBrCAIAXEiYBhSPBAhZAhGEcLhNDhQLhFAiDNMAIBhNChSAB" ++
    "CCBFAhMEFAnNHz5TAiiXEh0GCBBFD4UDiBAqBBiPAoDChVNhNBLChNIJAhdChELSBhZChQMOBicICAGACAkdJXDhaG" ++
    "CBCBKAKBiUIBACABDBBjHMBCjKRnNGCGdBiSOBAjKKjHNoBMnXFBBCBDABAkOGCFEAcJhKEBDSKhONsXHBGiTVBNja" ++
    "FDABBBCBADAiCEBBBDqcDJBBAhQGDCwudQjxAABhWHDidBzlMAo7BGBQCGBBBEjEAilXAh_IZGZGZ"),
   (["odi", "otherdefaultignorablecodepoint"],
    "6PAjwPBhyTBilPAkneAhzxbAiPI6ggHABdjAjfnQjwP"),
   (["ogrext", "othergraphemeextend"],
    "iteAYArGAYAjGAYAnIABAEBBBJBjHAYAjXAPAipVAeAhgAAFABAFBjFAiHBhgYAkhBB-pDAjMA1udBkxAAjUAoIAOA" ++
    "JAjAAJACABCFAnAAMAnRAoGAzZAMAhwDA0lOB4rTBGF4r1Nif"),
   (["oidc", "otheridcontinue"],
    "lXA2PAj_BIhzIAhxRBknNAhzzJA"),
   (["oids", "otheridstart"],
    "mkFBikRAVAj7MB"),
   (["olower", "otherlowercase"],
    "lKAPAvVIHBeEjAAhUAjsBAjhPheNAhChE1RANAQMmTP6QZh8SB-weBmSAkBCDB7CDJA3gWACCBhJBIh2jVhd"),
   (["omath", "othermath"],
    "ieA7RCCAaBCBnhAAbCLAhADYBOBiBMEADBEESAEACJBADEGADBCBBCBFDDFEiLECDBBBBBABECBEBERCBBABGBAGBp" ++
    "CDlIBBAYARAtdBMIFEFBCBDEOABACFYBhZABAdDJBqWBfJsTVhfDhABh1jDABAEAmTABAh1mBiUBiGBBCACBCDBLBA" ++
    "BGBiABDCHBGBbBDBEBADGBqTCYBYBeBYBeBYBeBYBeBYBHChRlwADBaBBBACABJBDBABAGAEABABABCBBBACABABAB" ++
    "ABABBBACDBGBDBDBABJBQFCBEBQ"),
   (["oupper", "otheruppercase"],
    "orAP6GZjzjAZGZGZ"),
   (["patsyn", "patternsyntax"],
    "hBOKGaDBAaDhCGBABBBABBEAEADAXAfAn4YXIOCSBJpR2PlAzVehgBBjIwAjfsBCEYPAhzoNBoFB"),
   (["patws", "patternwhitespace"],
    "JESAjEAn8IBYB"),
   (["pcm", "prependedconcatenationmark"],
    "hwAFmXAhRAsABiQAih-aAPA"),
   (["qmark", "quotationmark"],
    "hCAEAkDAPAn6cHZBjwHAuJDNChzxBDldAEAiaB"),
   (["radical"],
    "r0AZBiYMmV"),
   (["ri", "regionalindicator"],
    "j8vGZ"),
   (["sterm", "sentenceterminal"],
    "hBAMAQAhqJAkTClUAhLCnWAhdABADBpFBh3EB4WAEB4FAmGBkdBhNAFApaBrCDlCBKBCBdClbBiBB9EAXBJCjlPCpS" ++
    "ANAWBtNA9ncAoOBnDADAreBiWBifAkYBkTCkQBnZA0xGACBhbADBlJAMAQAiBAi3UBhndEhMDldBjVDjfCkBBGAQBi" ++
    "YBBBjMApKBjVBrVBFOjJBnZCwFABAnbBiXBtEB1UBiKBy5JBkFAiBBLAxJBpIAzwGAnvIA"),
   (["sd", "softdotted"],
    "jJBmEAoZAeAhUAUAqAAjCABAmoJAhTANADAkEAkdAtFAmWBi5SAjp9FBhSBhSBhSBhSBhSBhSBhSBhSBhSBhSBhSBh" ++
    "SBikGApRBaA"),
   (["term", "terminalpunctuation"],
    "hBAKABALBDA5eAIAwBAhZAiIAOABClUAhLKBAnLBhWFBHfAoFBhnUBlMAEFpXB4VH4FAjcCiHBkdCDAhHDCBpaBrCD" ++
    "lCBKBBCdClbEheB9EAXBJCjlPCpSANAEAKABBDBtMB9nbBoNCnDEreBiWBifAkXCkTCjfAQBnZA0xGACBhZCBDlJAK" ++
    "ABALBDAiBACAhhaAhQAhkGAmHApWBkYFiEFiZD9YEhMDldGjQDjfCkBBGAQBiYEjMApKBjVCMBrGDDOjJBnZCwFABA" ++
    "nbBiXBEBseChNA0FBiKBhpLExvZBkFAiBCKAxJBpHBzwGAnvHD"),
   (["uideo", "unifiedideograph"],
    "tgAmtfiA0vf2wOBBABBKABABBCCihuWhp2fhAkhZGmdCl0BOnpQPzNktCk6KFkif"),
   (["upper", "uppercase"],
    "iBZjFWBGhBABABABABABABABABABABABABABABABABABABABABABABABABABABABACABABABABABABABACABABABAB" ++
    "ABABABABABABABABABABABABABABABABABABABBBABADBBABBBCCDBBBCDBBBBABABBBACABBBCBABBDAHACACACAB" ++
    "ABABABABABABACABABABABABABABABACACABCBABABABABABABABABABABABABABABABABABABABABABABABABABAB" ++
    "ABABAHBBBCABDBABABABApBABADAIAGABCBABBBQBIhDACCDABABABABABABABABABABABAFACABBChShQABABABAB" ++
    "ABABABABABABABABABABABABAJABABABABABABABABABABABABABABABABABABABABABABABABABABABBBABABABAB" ++
    "ABACABABABABABABABABABABABABABABABABABABABABABABABABABABABABABABABABABABABABABABABABABABAB" ++
    "ABABABABAChFi6JhFBAFA2SiVikTAGhKCCqAABABABABABABABABABABABABABABABABABABABABABABABABABABAB" ++
    "ABABABABABABABABABABABABABABABABABABABABABABABABABABABABABABABABABABABABABABABABABABABABAB" ++
    "ABABAJABABABABABABABABABABABABABABABABABABABABABABABABABABABABABABABABABABABABABABABABABAB" ++
    "ABABABABABABAJHIFKHIHIFLABABABAIHiIDMDMDMELDoGAEADCCCCADEGABABABDCDKBFAaPTA5SZh5QhPhQABCCA" ++
    "BABABDBACAICBABABABABABABABABABABABABABABABABABABABABABABABABABABABABABABABABABABABABABABA" ++
    "BABABABABABABABABABAIABAEA-qNABABABABABABABABABABABABABABABABABABABABABABATABABABABABABABA" ++
    "BABABABABABAkHABABABABABABADABABABABABABABABABABABABABABABABABABABABABABABABABABABABABABAK" ++
    "ABABBBABABABAEABACABADABABABABABABABABABABEBEBABABABABABABABDBABBDAFABABABAYA15LZhmFhHkIhD" ++
    "kcKBOBGBBh3KhSkdVi5af1sAf5tAZaZaZaABBCACBCDBHaZaBBDCHBGbBBDBEBADGbZaZaZaZaZaZeYhBYhBYhBYhB" ++
    "YhBAkpVhBigOZGZGZ"),
   (["vs", "variationselector"],
    "mgLCBAh5vQP6g3QnP"),
   (["wspace", "whitespace", "space"],
    "JESAjEAaAlufAirfKdBFAhPAj9AA"),
   (["xidc", "xidcontinue"],
    "hQJHZEABZhPAKABACAFWBeBuJELOEHABARjUBBDCBAGEBABTBiSBkKBEClFBhFCAGhIIhMBABBBBBAIaEDdKFiJEjF" ++
    "BHCJBSCAQhaCjEOhVEACAChNSbEKFXBFIiKBkACJBSBHCBCVBGBADDCICBCDIAEBBECLKABACCBFEBCVBGBBBBBBCA" ++
    "BEEBCCDAHDBAHPLCBIBCBVBGBBBECJBCBCCAPDCJJGBCBHCBCVBGBBBECICBCCHCEBBECJBAQBBFDCBDDBBABBDBDC" ++
    "DLEEDCBDCAGAOJQMBCBWBPCIBCBDHBBCCACDCJQDBHBCBWBJBECIBCBDHBGBBDCJBCMMBCBhSBCBEFDHECJKFBCBRD" ++
    "XBIBACGDAEFBABHGJCBNhZFOBJhHBBABEBXBABWCEBABGBJCDhAAXBGJLABABAEJBhDETBRBhDJAhZiJGiNChFBAFA" ++
    "ChKBqMBDCGBABDChIBDChABDCGBABDCOBhYBDCiCCCJIOPQiVCFDzLCQBZFiKDKHVJVLTMMBCBBMiTDAEBCJhBCBKG" ++
    "iYHhKFiFKeBLELKhHCELhLEZGKhFbEheBcCKGJNAINBPhRiMDJRIMjTMhXIJDhQCKFhKCCQCBhGFwVCFChFCFCHBAB" ++
    "ABABeChUBGBADCBGDDCFEMFCBGPBhRBTAcANAQMhTMEADLRAEACJBACFGABABABPCDFEEARhIizXnEGIMhFBAFAChX" ++
    "HAPXJGBGBGBGBGBGBGBGBfwFCZOBECEEiVCBCCBieFhKBidRfhQPwAmtfiA10MiDhNCoMDbUhPEJBjShFICjGCiCCB" ++
    "BABHVhVEAThTMiFKJGXDABhQChDMcDiAOKGeBhWJNCJGWDiIYCCPCEKFCFCFJGBGBhKBNGjaBBCJGq9DMWEhQooErN" ++
    "CjJhGGMEFLBMBEBABBBBBjLhBkKGmZShfChVhIJGPQPDBYChBABADABABABABjdTJHZEABZKiZDFCFCFCChDLBZBSB" ++
    "BBOCNhCjaiFhUkIAkCcDhQPAffNdFhKFdChDEHBEhKkdCJGhDEhDEhHIhTMKBOBGBBBKBOBGBBDhTMpWJVKHYFBhJB" ++
    "IiFFCABhLBBDACWKWJeiBSBBKVKZiGhXGBiADBBFHBCBcCCEAhAcDchDHBdZhVKVKSNRjOiIhXhSNhSNhHIJGhFDEB" ++
    "WnahJBBDBQChXhAKAIhAfVhKUbWJiGfPJhbHANYHJGhUBJEDIhDCAJiEEDBMBAhDRBhEGDheGBABDBOBJHhaFJGDBH" ++
    "CBCVBGBBBEBJCBCCCAGAFGCGDELJBACABhFBJBACABDBHNBdiKFJEDeiFBAIJlGhVCIXFhCiADALJhGhYHJGTcaCOE" ++
    "JGGlZhajFiJVHCACHBBBdBBCIMJiGHChNCHBBbheIAIiJDASiImHhAPJGIBhMBIPJYdCVBNiJGBBBhLDABBBIIJGFB" ++
    "BBhEBBBFHJpWWJQBhIDENKiVAiP8ZjGjORmDiyMjAPhhPQVKj8aFyGm1ZhZh2GxYHeBJGiOBJGdCELhWJDMJJUFStQ" ++
    "hMDJmGhfkAiKEhYHQiABBBLBOl_XIhmVhJJo3HDBGBBBpCPAdCCAODIsLioEjKFMDIHJDBkiRJwGhNCWweEDFIHCGe" ++
    "DkUCtbiUBiGBBCACBCDBLBABGBiABDCHBGBbBDBEBADGBqTCYBYBeBYBeBYBeBYBeBYBHChRwAhWEhRIAOAWEBOhiQ" ++
    "eGFmVGBQCGBBBEFhdhBAjQhMDNCJEAqBeRhZuWhJmWhKvFGBDBBBOBmELGhJiLEJhlGDBaBBBACABJBDBABAGAEABA" ++
    "BABCBBBACABABABABABBBACDBGBDBDBABJBQFCBEBQjpUJhgGhp2fhAkhZGmdCl0BOnpQPzNitCwdhvCk6KFkif13q" ++
    "QnP"),
   (["xids", "xidstart"],
    "iBZGZhPAKAEAFWBeBuJELOEHABAkBEBBDCBAGABCBABTBiSBkKIlFBhFCAGhIiHaEDhNhKhDBBjCBAPBHBKCCAQABd" ++
    "diYLAYhAJBEAFVEAJADAXYHKFXBFRhJhahVDASAHJPPEHCBCVBGBADDDAQANBBCOBKAIFEBCVBGBBBBBBfDBATCQIB" ++
    "CBVBGBBBEDASAPBXALHCBCVBGBBBEDAeBBCPARABFDCBDDBBABBDBDCDLWAhUHBCBWBPDAaCCACBeAEHBCBWBJBEDA" ++
    "fBBBPBRIBCBhICAQAFCICYFFRDXBIBACGhahPBANGhaBBABEBXBABJBAKACEBAVDhAAhfHBhDbEjThKUAQFEDDADBH" ++
    "CEMMARhFBAFAChKBqMBDCGBABDChIBDChABDCGBABDCOBhYBDCiChFPQiVCFDzLCQBZFiKDKHRNSOROMBCPhThDAEA" ++
    "iDiYHhIBAFiFKehRdCELhLEZhWWJhUiSAidhORHhWdNBKhLahDhJCKhDCKFhKCChJDBFBBDAFlfiAoVCFChFCFCHBA" ++
    "BABABeChUBGBADCBGDDCFEMFCBGjUANAQMjFAEACJBACFGABABABPCDFEEARhIizXnEGDDBMhFBAFAChXHAQWJGBGB" ++
    "GBGBGBGBGBGxGCZIHECEEiVGCBiZBDFhKBidRfhQPwAmtfiA10MiDhNCoMDPKBUhOQeCiPhHICjGCiCCBBABHVPBCB" ++
    "DBWdhTOhRheFDABBLbKWZcHhOcAQEBJKEBhIXCBHUWDADhRBADBCECABAYCCKHCMFCFCFJGBGBhKBNGjSdq9DMWEhQ" ++
    "ooErNCjJhGGMEFABJBMBEBABBBBBjLhBkKGmZShfChVhIJjXABADABABABABjdhEZGZLhXCeDFCFCFCChDLBZBSBBB" ++
    "OCNhCjaiFhUoLcDhQhPfNdFhFKdChDEHBEhKkdShDEhDEhHIhTMKBOBGBBBKBOBGBBDhTMpWJVKHYFBhJBIiFFCABh" ++
    "LBBDACWKWJeiBSBBKVKZiGhXGBiAAPDBCBchKcDchDHBbbhVKVKSNRjOiIhXhSNhSNhDhGbJWnahJGBQChbcKAIVhK" ++
    "RhOUbWMhUhZBCANhMhAYahDdACAIhCDAMhPODVABAhDRBYTBhfGBABDBOBJHhOhGHCBCVBGBBBEDASAMEeJBACABhF" ++
    "BAZABAhMhUSDUCehPUBBAlYhOhJDhEhPUAhbhKNAiHahFGlZhLjUhffHCACHBBBXPABAieHChGQABAcAKhHHAVALhN" ++
    "TASiImHhAfIBhERAhRdjQGBBBhFVAZFBBBfOAqHSPABMBhBjcAiP8ZjGjORmDiyMjAPhhPRFZj8aFyGm1Zdh3CxYHe" ++
    "RiORdShPQDfUFStQhMmThfkAiKFAiCMiABBAcl_XIhmVhJJo3HDBGBBBpCPAdCCAODIsLioEjKFMDIHJl7GiUBiGBB" ++
    "CACBCDBLBABGBiABDCHBGBbBDBEBADGBqTCYBYBeBYBeBYBeBYBeBYBHh5UeGFoFhdkShMKGQAqBdShLvEbnEdCAvP" ++
    "GBDBBBOBmEhbiDHAhlUDBaBBBACABJBDBABAGAEABABABCBBBACABABABABABBBACDBGBDBDBABJBQFCBEBQkqEhp2" ++
    "fhAkhZGmdCl0BOnpQPzNitCwdhvCk6KFkif")]

end ContentFilter.Unicode
