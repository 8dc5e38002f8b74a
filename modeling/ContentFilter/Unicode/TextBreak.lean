import ContentFilter.Unicode.RangeTable

/-!
# Break properties

The properties of Unicode 16 that say how a text falls into characters as readers see them, into words
and into sentences: for every class of characters its names, in the folded form in which property
names are looked up, and the characters in it.  Characters without a class have no entry.
-/

namespace ContentFilter.Unicode

/-- The folded names of each class of the grapheme cluster break property with its table. -/
def graphemeBreaks : List (List String × String) :=
  [(["cr"],
    "NA"),
   (["cn", "control"],
    "AJBBBRifhANAhrOAkvRAh_cACBYGhRPh30PAnQLthUPhijADlmPH4r0FfjAjfnQjwP"),
   (["ex", "extend"],
    "4AjPoTGoHhMBABBBBBAiIKhQUQAjFGCFCBBDhDAeaibKhaIJAYDBIBCBEhLChbIhKXBfhXABAEHEADGKBdAhaABACD" ++
    "IAJAKBaACBhZAEBEBCCDAeBDALBhZAEEBBEAUBWFBAhaABBBDIAHCKBeAhbABAMAJAhIADAhXABCFCBDHBLBdAhaAC" ++
    "BBADCBDHBLBcBhZBBACDIAJAKBdAiIAEACCBAIAiRACGMHjCACILGiJBbABABAhXNBEBBFKBhDJAjGDBFBBCBZBECQ" ++
    "DNACBGAPA1fC9SDcCdBeBiABBGIACKJAhNCBAjVBhCAjWCEBJAGCmbBCAhaABGBABACHGJCAhQehRDhQJEChGIMBhA" ++
    "DCFhYABBDABEhYHCBkYCBMBGEAGADBmGhfwMAmDhAi_eCkNAjAfxKFjJB9uUDBJhABiQBoQADAEAZBFAkXBaRNAhGH" ++
    "ZKBAhMChQACDCBCAhEAiDFCBCBMAIAhPAhTABCCBFBBAhKBIAnOACAEAz5QA3BPQPrOBydAnCAkVEh0GCBBFDhICEA" ++
    "lFBxdDiBEpdBiPDiGKhRDjbAhWOhJACBKChRDCBHAhdChEEBHheAMBhUIBAIDCAifCCDGACAkdADHVBhZBBABAMAJA" ++
    "OGDEiDACFBACABCECBAOBiVHCCBAXAiRACFBACABBBBnLACDGBBBbBiVHCABBjKABACHjFABACDBEoDIBBnVAKDEAk" ++
    "QDCBEAhAJhIFCDIAJFCChOMBBsWGBFBAiSVCGBBBBjaFDABBBGBAiIBDABAqbBLBhUEFCXAlnFAGOrmILDCiuAEhbG" ++
    "hgYAhfDiRALBzlLBkzBhNCWweEDFIHCGeDkUCh9bhWEhRIAOAWEBOhqQGBQCGBBBEjEAlAGrXAhdDvcDneB3AGjNGi" ++
    "1QE4jhAifkAnP"),
   (["l"],
    "koAifhmgAc"),
   (["lf"],
    "KA"),
   (["lv"],
    "hrgAAbAbAbAbAbAbAbAbAbAbAbAbAbAbAbAbAbAbAbAbAbAbAbAbAbAbAbAbAbAbAbAbAbAbAbAbAbAbAbAbAbAbAb" ++
    "AbAbAbAbAbAbAbAbAbAbAbAbAbAbAbAbAbAbAbAbAbAbAbAbAbAbAbAbAbAbAbAbAbAbAbAbAbAbAbAbAbAbAbAbAb" ++
    "AbAbAbAbAbAbAbAbAbAbAbAbAbAbAbAbAbAbAbAbAbAbAbAbAbAbAbAbAbAbAbAbAbAbAbAbAbAbAbAbAbAbAbAbAb" ++
    "AbAbAbAbAbAbAbAbAbAbAbAbAbAbAbAbAbAbAbAbAbAbAbAbAbAbAbAbAbAbAbAbAbAbAbAbAbAbAbAbAbAbAbAbAb" ++
    "AbAbAbAbAbAbAbAbAbAbAbAbAbAbAbAbAbAbAbAbAbAbAbAbAbAbAbAbAbAbAbAbAbAbAbAbAbAbAbAbAbAbAbAbAb" ++
    "AbAbAbAbAbAbAbAbAbAbAbAbAbAbAbAbAbAbAbAbAbAbAbAbAbAbAbAbAbAbAbAbAbAbAbAbAbAbAbAbAbAbAbAbAb" ++
    "AbAbAbAbAbAbAbAbAbAbAbAbAbAbAbAbAbAbAbAbAbAbAbAbAbAbAbAbAbAbAbAbAbAbAbAbAbAbAbAbAbAbAbAbAb" ++
    "AbAbAbAbAbAbAbAbAbAbAbAbAbAbAbAbAbAbAbAbAbAbAbAbAbAbAbAbAbAbAbAbAbAbAbAbAbAbAbAbAbAbAbAbAb" ++
    "AbAbAbAbAbAbAbAbAbAbAbAbAbAbAbAbAbAbAbAbAbAbAbAbAbAbAbAbAbAbAbAbAbAbAbAbAbAbAbAbA"),
   (["lvt"],
    "hrgBaBaBaBaBaBaBaBaBaBaBaBaBaBaBaBaBaBaBaBaBaBaBaBaBaBaBaBaBaBaBaBaBaBaBaBaBaBaBaBaBaBaBaB" ++
    "aBaBaBaBaBaBaBaBaBaBaBaBaBaBaBaBaBaBaBaBaBaBaBaBaBaBaBaBaBaBaBaBaBaBaBaBaBaBaBaBaBaBaBaBaB" ++
    "aBaBaBaBaBaBaBaBaBaBaBaBaBaBaBaBaBaBaBaBaBaBaBaBaBaBaBaBaBaBaBaBaBaBaBaBaBaBaBaBaBaBaBaBaB" ++
    "aBaBaBaBaBaBaBaBaBaBaBaBaBaBaBaBaBaBaBaBaBaBaBaBaBaBaBaBaBaBaBaBaBaBaBaBaBaBaBaBaBaBaBaBaB" ++
    "aBaBaBaBaBaBaBaBaBaBaBaBaBaBaBaBaBaBaBaBaBaBaBaBaBaBaBaBaBaBaBaBaBaBaBaBaBaBaBaBaBaBaBaBaB" ++
    "aBaBaBaBaBaBaBaBaBaBaBaBaBaBaBaBaBaBaBaBaBaBaBaBaBaBaBaBaBaBaBaBaBaBaBaBaBaBaBaBaBaBaBaBaB" ++
    "aBaBaBaBaBaBaBaBaBaBaBaBaBaBaBaBaBaBaBaBaBaBaBaBaBaBaBaBaBaBaBaBaBaBaBaBaBaBaBaBaBaBaBaBaB" ++
    "aBaBaBaBaBaBaBaBaBaBaBaBaBaBaBaBaBaBaBaBaBaBaBaBaBaBaBaBaBaBaBaBaBaBaBaBaBaBaBaBaBaBaBaBaB" ++
    "aBaBaBaBaBaBaBaBaBaBaBaBaBaBaBaBaBaBaBaBaBaBaBaBaBaBaBaBaBaBaBaBaBaBaBaBaBaBaBaBa"),
   (["pp", "prepend"],
    "hwAFmXAhRAsABiQAhjLAig7OAPAnUBwNAhrNABAnYAiJF1cAtbA"),
   (["ri", "regionalindicator"],
    "j8vGZ"),
   (["sm", "spacingmark"],
    "ioDAhXACCIDBBhSBhbBGBCBhWAhaCiCAhaCIABBhVBhcAGBCBjSABBDCBChUChdDhdBhaACABBhOAOBhbBFCBChVBi" ++
    "MBGGTBhfAjfAkKBhfAlRAJBZBhMAh5RAHHBBqaDCCEBBFnABhaABAVFkRAhZDiAAeAEBhfACCBAhVHIBlLAVAhi5LB" ++
    "CAiYBhSPkOAhQAhQBEBCBjPBCBYAkdACBFAnNBBBBBBA5gTABAjfAhNCEBjTAYBhbAhQCJAOAidCDBlMCfBhbABDCB" ++
    "CBVBiVBPABBjHCIBDAjLBGABBBACAnOBGDCAjRCIBBAjNABBjOAHAoFCJAnYEBBHABAkOCIDEAiUAdBheAsXAOAjKA" ++
    "HACAmVEEBBAqeBMAhQBIBwvKCjxEhW"),
   (["t"],
    "ktIiXhxuLhQ"),
   (["v"],
    "krAiHhxwIWhlscADD"),
   (["zwj"],
    "ogNA")]

/-- The folded names of each class of the word break property with its table. -/
def wordBreaks : List (List String × String) :=
  [(["le", "aletter"],
    "iBZGZhPAKACABAFWBeBufGhBjQEBBCDBAGABCBABTBiSBkKIlFBhFCDBABhIBAjIAhMhKhDBBjCBAPBHBKCCAPBBdd" ++
    "iYLAYhAJBEAFVEAJADAXYHKFXBFRhJhahVDASAHJPPEHCBCVBGBADDDAQANBBCOBKAIFEBCVBGBBBBBBfDBATCQIBC" ++
    "BVBGBBBEDASAPBXALHCBCVBGBBBEDAeBBCPARABFDCBDDBBABBDBDCDLWAhUHBCBWBPDAaCCACBeAEHBCBWBJBEDAf" ++
    "BBBPBRIBCBhICAQAFCICYFFRDXBIBACGpZAhfHBhDbEoThFBAFAChKBqMBDCGBABDChIBDChABDCGBABDCOBhYBDCi" ++
    "ChFPQiVCFDzLCQBZFiKDKHRNSOROMBClPiYHEChBBAFiFKenBWnOhORHhWdNBKhLahDhJCKhDCKFhKCChJDBFBBDAF" ++
    "lfiAoVCFChFCFCHBABABABeChUBGBADCBGDDCFEMFCBGjUANAQMjFAEACJBADEGABABABDBKCDFEEARhI5NhTh4WnE" ++
    "GDDBMhFBAFAChXHAQWJGBGBGBGBGBGBGBGiQAuVAhVBmIhKBidRf7yAhkMiDhNCoMDPKBUhOQeCiPYmFCBBABHVPBC" ++
    "BDBWdhTOhRheFDABBLbKWZcHhOcAhQhIXCBHkUKHCMFCFCFJGBGBhZGjSdq9DMWEhQo4EGMEhYjBhBrKShfChVhILj" ++
    "UEBkGhEZGZiFeDFCFCFCChDLBZBSBBBOCNhCjaiFhUoLcDhQhPfNdFhFKdChDEHBEhKkdShDEhDEhHIhTMKBOBGBBB" ++
    "KBOBGBBDhTMpWJVKHYFBhJBIiFFCABhLBBDACWKWJeiBSBBKVKZiGhXGBiAAPDBCBchKcDchDHBbbhVKVKSNRjOiIh" ++
    "XhSNhSNhDhGbJWnahJGBQChbcKAIVhKRhOUbWMhUhZBCANhMhAYahDdACAIhCDAMhPODVABAhDRBYTBhfGBABDBOBJ" ++
    "HhOhGHCBCVBGBBBEDASAMEeJBACABhFBAZABAhMhUSDUCehPUBBAlYhOhJDhEhPUAhbhKNAqHhLjUhffHCACHBBBXP" ++
    "ABAieHChGQABAcAKhHHAVALhNTASiImHhAfIBhERAhRdjQGBBBhFVAZFBBBfOAqHSPABMBhBjcAiP8ZjGjORmDiyMj" ++
    "APhhPRFZj8aFyGm1Zdh3CxYHeRiORdShPQDfUFStQhMmThfkAiKFAiCMiABBAzgcjKFMDIHJl7GiUBiGBBCACBCDBL" ++
    "BABGBiABDCHBGBbBDBEBADGBqTCYBYBeBYBeBYBeBYBeBYBHh5UeGFoFhdkShMKGQAqBdShLvEbnEdCAvPGBDBBBOB" ++
    "mEhbiDHAhlUDBaBBBACABJBDBABAGAEABABABCBBBACABABABABABBBACDBGBDBDBABJBQFCBEBQzUZGZGZ"),
   (["cr"],
    "NA"),
   (["dq", "doublequote"],
    "hCA"),
   (["extend"],
    "4AjPoTGoHhMBABBBBBAiIKhQUQAjFGCFCBBDhDAeaibKhaIJAYDBIBCBEhLChbIhKXBhAhWCBRBGKBdChYABGCBCCJ" ++
    "AKBaACChYABEEBCCDAeBDALChYABHBCBCUBWFBChYABGCBCCHCKBeAhbEDCBDJAhIEhXABGBCBDHBLBdChYABGBCBD" ++
    "HBLBPAMDhXBBGBCBDJAKBdCiGAEFBABHSBhdACGMHjCACILGiJBbABABAEBhRTBBFKBhDJAjETXDECBCCGDDNLBAKD" ++
    "1fC9SDcCdBeBiAfJAhNCBAjVBhCAjWLELmbEhZJBcCAhQehREhPQhGIMCeMhYNhQTkYCBUEAGACCmGhfwMAmDhAi_e" ++
    "CkNAjAfxKFjJB9uUDBJhABiQBoQADAEAXEEAiTBhSRaRNAhGHZMhMDhPNhEAiDNMAIBhNChSABCCBFBBAhJEFBnMHB" ++
    "Bz5QA3BPQPrOBydAnCAkVEh0GCBBFDhICEAlFBxdDiBEpdBiPDiGKhRDjaChVOhJACBKDhNKHAhdChENQBhMAMChQN" ++
    "IDBBicLGACAkdLVDhXBBGCBCCJAKBCGDEiDIBACABDBEBAOBiSRXAiRTnLGCIbBiSQjKMjFOoAOnVFBBCDBABBkNGC" ++
    "GDAcJhIGBDIAJKhOPsVHBHiSVBNjaFDABBBGBAiCEBBBEqbDJBBAhQGDEXAlnFAGOrmIRiuAEhbGhgYABhWHDiRALB" ++
    "zlLBkzBhNCWweEDFIHCGeDkUCh9bhWEhRIAOAWEBOhqQGBQCGBBBEjEAlAGrXAhdDvcDneB3AGjNGi1QE4jhAifkAn" ++
    "P"),
   (["ex", "extendnumlet"],
    "ifAn-PAPBTAh3ueBYCnPA"),
   (["fo", "format"],
    "lNAhrOAkvRAh_fBaEhREBJh30PAnZCthUPhijADlmPH4r0GA"),
   (["hl", "hebrewletter"],
    "huQaEDh9pKABJBMBEBABBBBBJ"),
   (["ka", "katakana"],
    "shREjFBDiaBDnQPmQhOBiXhzgOhXhsiSDBGBBBAofChSAOD"),
   (["lf"],
    "KA"),
   (["ml", "midletter"],
    "haAjcA2PAuXAkUAmxSAh3vLAiBAmEA"),
   (["mn", "midnum"],
    "hMAOA6CAwKAkCBieAsLAmiLAh3uLADAhbADAlXAOA"),
   (["mb", "midnumlet"],
    "hOAn_JBKAh3xNAlUAGA"),
   (["nl", "newline"],
    "LBjYAn9CB"),
   (["nu", "numeric"],
    "hQJhuGFiaJBAjRASJmGJmGBiQAkDJjWJjWJjWJjWJjWJjWJjWJjWJjWJjAJjWJiGJoWJiGJh6GJhGJpMJkAJlGJGJl" ++
    "WJiWJkGJGJhiuGJ1GJhGJmGJWJiWJsWJ04WJhsGJikGJGJ4cJiNAPAhCJhcJkQJoWJqWJjWJrWJjGJGTiMJtGJjGJ0" ++
    "WJiWJnWJiGJtGJwuWJipGJiWJkGJwWJ37WJi2UhRiqAJtGJvWJnXJ6VJk0WJ"),
   (["ri", "regionalindicator"],
    "j8vGZ"),
   (["sq", "singlequote"],
    "hHA"),
   (["wsegspace"],
    "hAAlyfAirfGBCiUAj9AA"),
   (["zwj"],
    "ogNA")]

/-- The folded names of each class of the sentence break property with its table. -/
def sentenceBreaks : List (List String × String) :=
  [(["at", "aterm"],
    "hOAn_VAh3xNAlbA"),
   (["cr"],
    "NA"),
   (["cl", "close"],
    "hCAEChRABAdABAhNAPAjzeDh6dBirbHZBKBhWBOBzZDdBhhQFHNiPBfJsTVhfDhABhgCNOBCJYASHtLJCHBChzoeBm" ++
    "XBcPCBQFlJBhRABAdABABBBBh94SC"),
   (["ex", "extend"],
    "4AjPoTGoHhMBABBBBBAiIKhQUQAjFGCFCBBDhDAeaibKhaIJAYDBIBCBEhLChbIhKXBhAhWCBRBGKBdChYABGCBCCJ" ++
    "AKBaACChYABEEBCCDAeBDALChYABHBCBCUBWFBChYABGCBCCHCKBeAhbEDCBDJAhIEhXABGBCBDHBLBdChYABGBCBD" ++
    "HBLBPAMDhXBBGBCBDJAKBdCiGAEFBABHSBhdACGMHjCACILGiJBbABABAEBhRTBBFKBhDJAjETXDECBCCGDDNLBAKD" ++
    "1fC9SDcCdBeBiAfJAhNCBAjVBhCAjWLELmbEhZJBcCAhQehREhPQhGIMCeMhYNhQTkYCBUEAGACCmGhfwMBmChAi_e" ++
    "CkNAjAfxKFjJB9uUDBJhABiQBoQADAEAXEEAiTBhSRaRNAhGHZMhMDhPNhEAiDNMAIBhNChSABCCBFBBAhJEFBnMHB" ++
    "Bz5QA3BPQPrOBydAnCAkVEh0GCBBFDhICEAlFBxdDiBEpdBiPDiGKhRDjaChVOhJACBKDhNKHAhdChENQBhMAMChQN" ++
    "IDBBicLGACAkdLVDhXBBGCBCCJAKBCGDEiDIBACABDBEBAOBiSRXAiRTnLGCIbBiSQjKMjFOoAOnVFBBCDBABBkNGC" ++
    "GDAcJhIGBDIAJKhOPsVHBHiSVBNjaFDABBBGBAiCEBBBEqbDJBBAhQGDEXAlnFAGOrmIRiuAEhbGhgYABhWHDiRALB" ++
    "zlLBkzBhNCWweEDFIHCGeDkUCh9bhWEhRIAOAWEBOhqQGBQCGBBBEjEAlAGrXAhdDvcDneB3AGjNG4l2VifkAnP"),
   (["fo", "format"],
    "lNAhrOAkvRAh_cACBaEhREBJh30PAnZCthUPhijADlmPH4r0GA"),
   (["lf"],
    "KA"),
   (["lo", "lower"],
    "jBZhPAKAEAhEXBHBABABABABABABABABABABABABABABABABABABABABABABABABABABABBBABABABABABABABBBAB" ++
    "ABABABABABABABABABABABABABABABABABABABABABACABABCCABACADBEACADCCACABABACABBBACADABACBCCGAC" ++
    "ACABABABABABABABABBBABABABABABABABABBCABADABABABABABABABABABABABABABABABABABABABABABABABAB" ++
    "ABABABABABGCACBBAEABABABABiEChCHBeEkMABADACDSAbhCBBDCBABABABABABABABABABABABEBACACBhThPBAB" ++
    "ABABABABABABABABABABABABABABABAJABABABABABABABABABABABABABABABABABABABABABABABABABABACABAB" ++
    "ABABABABBBABABABABABABABABABABABABABABABABABABABABABABABABABABABABABABABABABABABABABABABAB" ++
    "ABABABABABABABAhQhIi7TA3bFikCIBAjVlfiBABABABABABABABABABABABABABABABABABABABABABABABABABAB" ++
    "ABABABABABABABABABABABABABABABABABABABABABABABABABABABABABABABABABABABABABABABABABABABABAB" ++
    "ABABABIBABABABABABABABABABABABABABABABABABABABABABABABABABABABABABABABABABABABABABABABABAB" ++
    "ABABABABABABABIIFKHIHIFKHIHINCHIHIHIEBBGADCBBIDCBIHKCBBjZANAQMjNADBDAbAEAEACBIDEAhBPEA6LZh" ++
    "6GhPBADBBABABAEABBBHDABABABABABABABABABABABABABABABABABABABABABABABABABABABABABABABABABABA" ++
    "BABABABABABABABABABABABABABABBHABAEAMhFBAFA-oTABABABABABABABABABABABABABABABABABABABABABAB" ++
    "ATABABABABABABABABABABABABABCkFABABABABABABCBABABABABABABABABABABABABABABABABABABABABABABA" ++
    "BABABABABABABABJBABACABABABABAEABACABCBABABABABABABABABABAFAFABABABABABABABAEABACADABABABA" ++
    "BABAWCBABC5VhKBNGiPz6AGMEhhJZhmNhHkIhDkbKBOBGBBuDACCBhJBIhoFhSjdVi5af1sAf5saZaGBRaZaDBABGB" ++
    "KaZaZaZaZaZaZaZaZabcYBFaYBFaYBFaYBFaYBFBAh5UJBTGFoFhdilUhB"),
   (["nu", "numeric"],
    "hQJhuGFiaJBBjQASJmGJmGBiQAkDJjWJjWJjWJjWJjWJjWJjWJjWJjWJjAJjWJiGJoWJiGJh6GJhGJpMJkAJlGJGJl" ++
    "WJiWJkGJGJhiuGJ1GJhGJmGJWJiWJsWJ04WJhsGJikGJGJ4cJiNAPAhCJhcJkQJoWJqWJjWJrWJjGJGTiMJtGJjGJ0" ++
    "WJiWJnWJiGJtGJwuWJipGJiWJkGJwWJ37WJi2UhRiqAJtGJvWJnXJ6VJk0WJ"),
   (["le", "oletter"],
    "tbAEDmQBhDGGLaABAkFAvEAjWaEEhMhKhDBBjCBAPBHBKCCAPBBddiYLAYhAJBEAFVEAJADAXYHKFXBFRhJhahVDAS" ++
    "AHJPPEHCBCVBGBADDDAQANBBCOBKAIFEBCVBGBBBBBBfDBATCQIBCBVBGBBBEDASAPBXALHCBCVBGBBBEDAeBBCPAR" ++
    "ABFDCBDDBBABBDBDCDLWAhUHBCBWBPDAaCCACBeAEHBCBWBJBEDAfBBBPBRIBCBhICAQAFCICYFFRDXBIBACGhahPB" ++
    "BMGhaBBABEBXBABJBBJACEBAVDhAAhfHBhDbEjThKUAQFEDDADBHCEMMAiBhKCqLBDCGBABDChIBDChABDCGBABDCO" ++
    "BhYBDCiChFPjRzLCQBZFiKDKHRNSOROMBCPhThDAEAiDiYHEChBBAFiFKehRdCELhLEZhWWJhUiSAidhORHhWdNBKh" ++
    "LahDhJCKhDShKCChJDBFBBDAhhaDiHCCDi9HhXHAQWJGBGBGBGBGBGBGBGiQAuVCZIHECEEiVGCBiZBDFhKBidRfhQ" ++
    "PwAmtfiA10MiDhNCoMDPKBiCAQAhAiPhHIjIAGAjHADGBCBDBWdhTOhRheFDABBLbKWZcHhOcAQEBJKEBhIXCBHUWD" ++
    "ADhRBADBCECABAYCCKHCMFCFCFJGBGkRhCdq9DMWEhQooErNCjJiDABJBMBEBABBBBBjLhBrKShfChVhILjUEBkGjJ" ++
    "hXCeDFCFCFCChDLBZBSBBBOCNhCjaiFhUoLcDhQhPfNdFhFKdChDEHBEjaiNjChHIhTichTMpWJVKHZBjdFCABhLBB" ++
    "DACWKWJeiBSBBKVKZiGhXGBiAAPDBCBchKcDchDHBbbhVKVKSNRjOiIlXhDhGFfAoQhJGBQChbcKAIVhKRhOUbWMhU" ++
    "hZBCANhMhAYahDdACAIhCDAMhPODVABAhDRBYTBhfGBABDBOBJHhOhGHCBCVBGBBBEDASAMEeJBACABhFBAZABAhMh" ++
    "USDUCehPUBBAlYhOhJDhEhPUAhbhKNAiHahFGlZhLmTHCACHBBBXPABAieHChGQABAcAKhHHAVALhNTASiImHhAfIB" ++
    "hERAhRdjQGBBBhFVAZFBBBfOAqHSPABMBhBjcAiP8ZjGjORmDiyMjAPhhPRFZj8aFyGm1Zdh3CxYHeRiORdShPQDfU" ++
    "FStQhMsTiKFAiCMiABBAcl_XIhmVhJJo3HDBGBBBpCPAdCCAODIsLioEjKFMDIHJozQAvVhMKGQAqBdShLvEbnEdCA" ++
    "vPGBDBBBOBmEkGAhlUDBaBBBACABJBDBABAGAEABABABCBBBACABABABABABBBACDBGBDBDBABJBQFCBEBQkqEhp2f" ++
    "hAkhZGmdCl0BOnpQPzNitCwdhvCk6KFkif"),
   (["sc", "scontinue"],
    "hMBMB6CAueAlOBvKAkgJAFAigKBj_MAhzwOBBBcBdBCBCAKAlIBMBiIA"),
   (["st", "sterm"],
    "hBAdAhqJAkTClUAhLCnWAhdABADBpFBh3EB4WAEB4FAmGBkdBhNAFApaBrCDlCBKBCBdClbBiBB9cBJCjlPCpSANAW" ++
    "BtNA9ncAoOBnDADAreBiWBifAkYBkTCkQBnZA0xGACBhfBlJAdAiBAi3UBhndEhMDldBjVDjfCkBBGAQBiYBBBjMAp" ++
    "KBjVBrVBFOjJBnZCwFABAnbBiXBtEB1UBiKBy5JBkFAiBBLAxJBpIAzwGAnvIA"),
   (["se", "sep"],
    "kFAn9CB"),
   (["sp"],
    "JABBTAjfAlufAirfKhEAhPAj9AA"),
   (["up", "upper"],
    "iBZjFWBGhBABABABABABABABABABABABABABABABABABABABABABABABABABABABACABABABABABABABACABABABAB" ++
    "ABABABABABABABABABABABABABABABABABABABBBABADBBABBBCCDBBBCDBBBBABABBBACABBBCBABBDAHBBBBBBAB" ++
    "ABABABABABABACABABABABABABABABACBBABCBABABABABABABABABABABABABABABABABABABABABABABABABABAB" ++
    "ABABAHBBBCABDBABABABApBABADAIAGABCBABBBQBIhDACCDABABABABABABABABABABABAFACABBChShQABABABAB" ++
    "ABABABABABABABABABABABABAJABABABABABABABABABABABABABABABABABABABABABABABABABABABBBABABABAB" ++
    "ABACABABABABABABABABABABABABABABABABABABABABABABABABABABABABABABABABABABABABABABABABABABAB" ++
    "ABABABABAChFi6JhFBAFA2SiVikTArWABABABABABABABABABABABABABABABABABABABABABABABABABABABABABA" ++
    "BABABABABABABABABABABABABABABABABABABABABABABABABABABABABABABABABABABABABABABABABABABABABA" ++
    "JABABABABABABABABABABABABABABABABABABABABABABABABABABABABABABABABABABABABABABABABABABABABA" ++
    "BABABABAJHIFKHIHIFLABABABAIHYHIHIHIELELDMELEoFAEADCCCCADEGABABABDCDKBFAaPTA5SZh5QhPhQABCCA" ++
    "BABABDBACAICBABABABABABABABABABABABABABABABABABABABABABABABABABABABABABABABABABABABABABABA" ++
    "BABABABABABABABABABAIABAEA-qNABABABABABABABABABABABABABABABABABABABABABABATABABABABABABABA" ++
    "BABABABABABAkHABABABABABABADABABABABABABABABABABABABABABABABABABABABABABABABABABABABABABAK" ++
    "ABABBBABABABAEABACABADABABABABABABABABABABEBEBABABABABABABABDBABBDAFABABABAYA15LZhmFhHkIhD" ++
    "kcKBOBGBBh3KhSkdVi5af1sAf5tAZaZaZaABBCACBCDBHaZaBBDCHBGbBBDBEBADGbZaZaZaZaZaZeYhBYhBYhBYhB" ++
    "YhBAkpVhBigOZGZGZ")]

end ContentFilter.Unicode
