import ContentFilter.Unicode.RangeTable

/-!
# General categories

The general category property of Unicode 16: for every category and every group of categories its
names, in the folded form in which property names are looked up, and the characters in it.  The last
three entries are the conventional groups of all characters, assigned characters and ASCII.
-/

namespace ContentFilter.Unicode

/-- The folded names of each general category with its table, short name first. Surrogates are no
characters and have no entry. -/
def generalCategories : List (List String × String) :=
  [(["c", "other"],
    "AfifhANA2KBGDHABAUAsNAhGBhSBDAhXHbDGQWAmAAhQBhbBjFNhbBhRBPAcBBALEfHiLAlBAIBCBWAHABCEBJBCBE" ++
    "HBDCAFBZBDAGDCBWAHACACACBBAFDCBDCBGEABGRJDAJADAWAHACAFBKADADBBOEBMGHADAIBCBWAHACAFBJBCBDGD" ++
    "DCAFBSJCAGCDAECCABACCCCDCMDFCDAEBBFBNVENADAXAQBJADAEGCADBBBEBKGWADAXAKAFBJADAEGCFCAEBKADLN" ++
    "ADAhTADAGDQBaADASCYAJABBHCBDGABAIFKBDLhaDdhECABAFAYABAXBFABAHAKBEfiIAhEDhHAhEAPANhEmGABEBB" ++
    "rZAEBHABAEBhJAEBhBAEBHABAEBPAhZAEBiDBhACaFiWBGB0dCiZGWIYIULNADACLieBKFKFOALFiZGhLEiGJfAMDM" ++
    "DBChKBFKhMDaFLCheBiBAdBLFKFOBfhQiNAlGHhcCPCheEhLBLHhLEwWBGBhGBGBIABABABAfBhVAPAOBGATBDAJAL" ++
    "EaEhRPCBbANChBOhBOkMD0aVLUh4UBhAAqdEhNABEBBhYGCNYIHAHAHAHAHAHAHAHAjehBaAiZLmWZiQAiWBjHEhLA" ++
    "ieAiWIhQA8zNChXIqcTlYHmOBCABAIUhbCKFhYHiGHMFjUKeCiOALDhBAhXIOBKBjHXcJGBGBGIHAHAhcDjeBKFq9E" ++
    "LXDhRooDrOBjKhFHLFEaAFABACACAjdPtdBhWGBfhKFhTATAEDFAkHDleCGBGBGBDCHAHMCBMAaATACAPBOhBjbEDD" ++
    "hNCiYANCBhOhOkBdChROcDhEIeEhLEeAhFDOhJkeBKFhEDhEDhIHhUKMAPAHACALAPAHACChULpXIWJIXGAhKAJiEG" ++
    "BBAhMACCBBXAiIHJhPTACEhBCbEBhfhYDUBhSACEIADAdBDDKGJGiAfhHDMIhWCdBbEaGELHiPiJhWhTMhTGhOHKFh" ++
    "GCdHCmPfAhKADBCPDhWhMHhKVahFcTXIiODhEIheAFMZGKFhVASHhHIjAAUKSAhPhdHABAEAPALFhbEKFEAIBCBWAH" ++
    "ACAFAKBCBDBBFBEHBHCFKKABBBAhGAKABBBAEAKACHCcicAFdiIHKlFhWBhGhBiFKKFNShaFKFUbbBPDXlYhcjDiTL" ++
    "IBBBIACAeACBMIKiFIBhOBLaiIHiTMiJGKlVhCNKFJAhNAOJdChABWAOiIHACAhMCBACAJHKFGACAhFACAGGKpVZGR" ++
    "AhJCdiUBOhSM8bjFjPAFKmEiyLjDMhhQPWJj8bEyHm1Yhah2FxZGfAKDiRAKFeBGJiGJKAHAVETtPhamFibjEiLDhZ" ++
    "GRhfFKCNl_YHhmWhIKo3GEAHACApDOBcDBBNEHsMioDjLENCJGKBEj6fnaFtUiLhOBXIjUhbnWJhHBiKHjQUiGjZUL" ++
    "ULiXIZkGiVAiHACBBBCBEAMABAHAiBAEBIAHAcAEAFABCHAqUBpEB1eOFAPhiPfFGmUHARBHACAFEhehABjPhNCOBK" ++
    "DCpffQhaEBuPhKmVhLDBufHAEACAPAmFBQhIiMDKDC4QiEiLhdmBEAbACABBBAKAEABABFBDBABABADACABBBABABA" ++
    "BABACABBEAHAEAEABAKAREDAFARhTCoNhMDjELPBPAPAhFJlOhXdMhMDJGCNGkZ-YDRCNCjXDifFMDBOMDhYHKFhIH" ++
    "eBMDChdqULOBNCKEhYGPBLFJGkTAjGhgFhp3AfkhaFmeBl0CNnpROzOitBwehvBk6LEkjA13qPnQl_wP"),
   (["cc", "control", "cntrl"],
    "AfifhA"),
   (["cf", "format"],
    "lNAhqSFWAmAAhRAsABiQAj5LAh_cEaEhREBJh30PAnZCkmBAPAo7CPhijADlmPH4r0GAeif"),
   (["cn", "unassigned"],
    "7YBGDHABAUAsNAhGBhSBDAhXHbDGKoOAhcBjFNhbBhRBPAcBBALEfACEnNAIBCBWAHABCEBJBCBEHBDCAFBZBDAGDC" ++
    "BWAHACACACBBAFDCBDCBGEABGRJDAJADAWAHACAFBKADADBBOEBMGHADAIBCBWAHACAFBJBCBDGDDCAFBSJCAGCDAE" ++
    "CCABACCCCDCMDFCDAEBBFBNVENADAXAQBJADAEGCADBBBEBKGWADAXAKAFBJADAEGCFCAEBKADLNADAhTADAGDQBaA" ++
    "DASCYAJABBHCBDGABAIFKBDLhaDdhECABAFAYABAXBFABAHAKBEfiIAhEDhHAhEAPANhEmGABEBBrZAEBHABAEBhJA" ++
    "EBhBAEBHABAEBPAhZAEBiDBhACaFiWBGB0dCiZGWIYIULNADACLieBKFKFaFiZGhLEiGJfAMDMDBChKBFKhMDaFLCh" ++
    "eBiBAdBLFKFOBfhQiNAlGHhcCPCheEhLBLHhLEwWBGBhGBGBIABABABAfBhVAPAOBGATBDAJAjFAMBbANChBOhBOkM" ++
    "D0aVLUh4UBhAAqdEhNABEBBhYGCNYIHAHAHAHAHAHAHAHAjehBaAiZLmWZiQAiWBjHEhLAieAiWIhQA8zNChXIqcTl" ++
    "YHmOBCABAIUhbCKFhYHiGHMFjUKeCiOALDhBAhXIOBKBjHXcJGBGBGIHAHAhcDjeBKFq9ELXDhRDozOBjKhFHLFEaA" ++
    "FABACACAjdPtdBhWGBfhKFhTATAEDFAkHBBAleCGBGBGBDCHAHJFBMAaATACAPBOhBjbEDDhNCiYANCBhOhOkBdChR" ++
    "OcDhEIeEhLEeAhFDOhJkeBKFhEDhEDhIHhUKMAPAHACALAPAHACChULpXIWJIXGAhKAJiEGBBAhMACCBBXAiIHJhPT" ++
    "ACEhBCbEBhfhYDUBhSACEIADAdBDDKGJGiAfhHDMIhWCdBbEaGELHiPiJhWhTMhTGhOHKFhGCdHCmPfAhKADBCPDhW" ++
    "hMHhKVahFcTXIiODhEIiEJBBZGKFhVASHhHIjAAUKSAhPhdHABAEAPALFhbEKFEAIBCBWAHACAFAKBCBDBBFBEHBHC" ++
    "FKKABBBAhGAKABBBAEAKACHCcicAFdiIHKlFhWBhGhBiFKKFNShaFKFUbbBPDXlYhcjDiTLIBBBIACAeACBMIKiFIB" ++
    "hOBLaiIHiTMiJGKlVhCNKFJAhNAOJdChABWAOiIHACAhMCBACAJHKFGACAhFACAGGKpVZGRAhJCdiUBOhSM8bjFjPA" ++
    "FKmEiyLjDMhiWJj8bEyHm1Yhah2FxZGfAKDiRAKFeBGJiGJKAHAVETtPhamFibjEiLDhZGRhfFKCNl_YHhmWhIKo3G" ++
    "EAHACApDOBcDBBNEHsMioDjLENCJGKBIj6bnaFtUiLhOBXIjUhbnWJhHBmCUiGjZULULiXIZkGiVAiHACBBBCBEAMA" ++
    "BAHAiBAEBIAHAcAEAFABCHAqUBpEB1eOFAPhiPfFGmUHARBHACAFEhehABjPhNCOBKDCpffQhaEBuPhKmVhLDBufHA" ++
    "EACAPAmFBQhIiMDKDC4QiEiLhdmBEAbACABBBAKAEABABFBDBABABADACABBBABABABABACABBEAHAEAEABAKAREDA" ++
    "FARhTCoNhMDjELPBPAPAhFJlOhXdMhMDJGCNGkZ-YDRCNCjXDifFMDBOMDhYHKFhIHeBMDChdqULOBNCKEhYGPBLFJ" ++
    "GkTAjGhgFhp3AfkhaFmeBl0CNnpROzOitBwehvBk6LEkjA13iQBdjAjfnQh_wPh__eBh__eB"),
   (["co", "privateuse"],
    "h4gAmnf8h4Ah__dCh__d"),
   (["l", "letter"],
    "iBZGZhPAKAEAFWBeBuJELOEHABAkBEBBCDBAGABCBABTBiSBkKIlFBhFCAGhIiHaEDhNhKhDBBjCBAPBHBKCCAQABd" ++
    "diYLAYhAJBEAFVEAJADAXYHKFXBFRhJhahVDASAHJPPEHCBCVBGBADDDAQANBBCOBKAIFEBCVBGBBBBBBfDBATCQIB" ++
    "CBVBGBBBEDASAPBXALHCBCVBGBBBEDAeBBCPARABFDCBDDBBABBDBDCDLWAhUHBCBWBPDAaCCACBeAEHBCBWBJBEDA" ++
    "fBBBPBRIBCBhICAQAFCICYFFRDXBIBACGhahPBBMGhaBBABEBXBABJBBJACEBAVDhAAhfHBhDbEjThKUAQFEDDADBH" ++
    "CEMMARhFBAFAChKBqMBDCGBABDChIBDChABDCGBABDCOBhYBDCiChFPQiVCFDzLCQBZFiKGHHRNSOROMBCPhThDAEA" ++
    "iDiYHEChBBAFiFKehRdCELhLEZhWWJhUiSAidhORHhWdNBKhLahDhJCKhDCKFhKCChJDBFBBDAFlfiAoVCFChFCFCH" ++
    "BABABABeChUBGBADCBGDDCFEMFCBGjUANAQMjFAEACJBADEGABABABDBKCDFEEAhUBizbnEGDDBMhFBAFAChXHAQWJ" ++
    "GBGBGBGBGBGBGBGiQAuVBhKEFBEiVGCBiZBDFhKBidRfhQPwAmtfiA10MiDhNCoMDPKBUhOQeCiFhRICjGCiCCBBAB" ++
    "HVPBCBDBWdhTOhRheFDABBLbKWZcHhOcAQEBJKEBhIXCBHUWDADhRBADBCECABAYCCKHCMFCFCFJGBGBhKBNGjSdq9" ++
    "DMWEhQooErNCjJhGGMEFABJBMBEBABBBBBjLhBrKShfChVhILjUEBkGhEZGZLiYDFCFCFCChDLBZBSBBBOCNhCjasF" ++
    "cDhQhPfNTBHGhFKdChDEHhQkdShDEhDEhHIhTMKBOBGBBBKBOBGBBDhTMpWJVKHYFBhJBIiFFCABhLBBDACWKWJeiB" ++
    "SBBKVKZiGhXGBiAAPDBCBchKcDchDHBbbhVKVKSNRjOiIhXhSNhSNhDhGbJWnahJGBQChbcKAIVhKRhOUbWMhUhZBC" ++
    "ANhMhAYahDdACAIhCDAMhPODVABAhDRBYTBhfGBABDBOBJHhOhGHCBCVBGBBBEDASAMEeJBACABhFBAZABAhMhUSDU" ++
    "CehPUBBAlYhOhJDhEhPUAhbhKNAiHahFGlZhLjUhffHCACHBBBXPABAieHChGQABAcAKhHHAVALhNTASiImHhAfIBh" ++
    "ERAhRdjQGBBBhFVAZFBBBfOAqHSPABMBhBjcAiP8ZnGmDiyMjAPhhPRFZj8aFyGm1Zdh3CxYHeRiORdShPQDfUFStQ" ++
    "hMmThfkAiKFAiCMiABBAcl_XIhmVhJJo3HDBGBBBpCPAdCCAODIsLioEjKFMDIHJl7GiUBiGBBCACBCDBLBABGBiAB" ++
    "DCHBGBbBDBEBADGBqTCYBYBeBYBeBYBeBYBeBYBHh5UeGFoFhdkShMKGQAqBdShLvEbnEdCAvPGBDBBBOBmEhbiDHA" ++
    "hlUDBaBBBACABJBDBABAGAEABABABCBBBACABABABABABBBACDBGBDBDBABJBQFCBEBQkqEhp2fhAkhZGmdCl0BOnp" ++
    "QPzNitCwdhvCk6KFkif"),
   (["lc", "casedletter"],
    "iBZGZhaAKWBeBmCBDEmPCZmADCBDCBAGABCBABTBiSBkKIlFBhFJhIi4XhFBAFAChKCC1AiVCFikCKFhKCCiAhLhfM" ++
    "BhBjFoVCFChFCFCHBABABABeChUBGBADCBGDDCFEMFCBGoFAEACJBADEGABABABDBFEACDFEEAhUBizbjbCjGGDDBM" ++
    "hFBAFA-oShNSbkGiNBWDDBhdCBBABHYBDA5VhKFIHiPz6AGMEhgJZGZhlFiPjAhDEhDjUKBOBGBBBKBOBGBBh2DhSN" ++
    "hSidVKVi4ahf1rAhf5sAiUBiGBBCACBCDBLBABGBiABDCHBGBbBDBEBADGBqTCYBYBeBYBeBYBeBYBeBYBHh5UJBTG" ++
    "FiuViD"),
   (["ll", "lowercaseletter"],
    "jBZhaAhJXBHBABABABABABABABABABABABABABABABABABABABABABABABABABABABBBABABABABABABABBBABABAB" ++
    "ABABABABABABABABABABABABABABABABABABABACABABCCABACADBEACADCCACABABACABBBACADABACBCCGACACAB" ++
    "ABABABABABABABBBABABABABABABABABBCABADABABABABABABABABABABABABABABABABABABABABABABABABABAB" ++
    "ABABABGCACBBAEABABABABiECZmBABADADCSAbhCBBDCBABABABABABABABABABABABEBACACBhThPBABABABABABA" ++
    "BABABABABABABABABABABAJABABABABABABABABABABABABABABABABABABABABABABABABABABACABABABABABABB" ++
    "BABABABABABABABABABABABABABABABABABABABABABABABABABABABABABABABABABABABABABABABABABABABABA" ++
    "BABABAhQhIi6HhKCC3YFikCIBAjVhLhfMBhBjGABABABABABABABABABABABABABABABABABABABABABABABABABAB" ++
    "ABABABABABABABABABABABABABABABABABABABABABABABABABABABABABABABABABABABABABABABABABABABABAB" ++
    "ABABABIBABABABABABABABABABABABABABABABABABABABABABABABABABABABABABABABABABABABABABABABABAB" ++
    "ABABABABABABABIIFKHIHIFKHIHINCHIHIHIEBBGADCBBIDCBIHKCBBoSADBDAbAEAEACBIDEAhVAi1LhPBADBBABA" ++
    "BAEABBBFFABABABABABABABABABABABABABABABABABABABABABABABABABABABABABABABABABABABABABABABABA" ++
    "BABABABABABABABABBHABAEAMhFBAFA-oTABABABABABABABABABABABABABABABABABABABABABABATABABABABAB" ++
    "ABABABABABABABABAkHABABABABABABCBABABABABABABABABABABABABABABABABABABABABABABABABABABABABA" ++
    "BABABHBABACABABABABAEABACABCBABABABABABABABABABAFAFABABABABABABABAEABACADABABABABABAaADA5V" ++
    "hKFIHiPz6AGMEhhJZhmNhHkIhDkbKBOBGBBh4DhSjdVi5af1sAf5saZaGBRaZaDBABGBKaZaZaZaZaZaZaZaZabcYB" ++
    "FaYBFaYBFaYBFaYBFBAh5UJBTGFivXhB"),
   (["lm", "modifierletter"],
    "1QRELOEHABAkFAFAueAnGAlEBoNBEAfAJADAlAAlHAhmUAjfAxVAh2aAjLAzDAuQFlOheNAhChE1RANAQMi-fBnRAl" ++
    "fAuVAhLEFAjBBidC74WAhnCFoOAjSAcBjZIiQAXAjJCDBuVAWAkJAjMAVBjHDJA1gGAhNBh_AFBhJBIhsTAhAA3uQD" ++
    "vcChIBxGMiABBAwgMDBGBBshRhdmJG9NAhifA"),
   (["lo", "otherletter"],
    "lKAPAoAAEDmQB5aaEDhNfBJhDBBjCBAYBKCCAQABddiYLAYhAVVhKYHKFXBFRhIhbhVDASAHJQOEHCBCVBGBADDDAQ" ++
    "ANBBCOBKAIFEBCVBGBBBBBBfDBATCQIBCBVBGBBBEDASAPBXALHCBCVBGBBBEDAeBBCPARABFDCBDDBBABBDBDCDLW" ++
    "AhUHBCBWBPDAaCCACBeAEHBCBWBJBEDAfBBBPBRIBCBhICAQAFCICYFFRDXBIBACGhahPBBMFhbBBABEBXBABJBBJA" ++
    "CEXDhAAhfHBhDbEjThKUAQFEDDADBHCEMMAjRqIBDCGBABDChIBDChABDCGBABDCOBhYBDCiChFPjRzLCQBZFiKGHH" ++
    "RNSOROMBCPhThIAiDhCBhUHEChBBAFiFKehRdCELhLEZhWWJhUlQhORHhWdNBKhLahDhJCKdjRDBFBBDAhhaDi_XhX" ++
    "YWJGBGBGBGBGBGBGBGxHAhVAEiVIABiZEAFhKBidRfhQPwAmtfiA0wUBhjWiDhHIoLEPKBiCAhRiFlJAjHADGBCBDB" ++
    "WdhTOhRheFDABBLbKWZcHhOhNECIKEBhIXCBHUPBFDADhRBADBCECABAYBDKHAOFCFCFJGBGkRhCdq9DMWEhQooErN" ++
    "CjJiDABJBMBEBABBBBBjLhBrKShfChVhILjUEBkGjJJBhMCeDFCFCFCChDLBZBSBBBOCNhCjasFcDhQhPfNTBHGhFK" ++
    "dChDEHkAiNjChHIhTichTMpWJVKHkYFCABhLBBDACWKWJeiBSBBKVKZiGhXGBiAAPDBCBchKcDchDHBbbhVKVKSNRj" ++
    "OiIlXhDhGDBApQhJGBQChbcKAIVhKRhOUbWMhUhZBCANhMhAYahDdACAIhCDAMhPODVABAhDRBYTBhfGBABDBOBJHh" ++
    "OhGHCBCVBGBBBEDASAMEeJBACABhFBAZABAhMhUSDUCehPUBBAlYhOhJDhEhPUAhbhKNAiHahFGlZhLmTHCACHBBBX" ++
    "PABAieHChGQABAcAKhHHAVALhNTASiImHhAfIBhERAhRdjQGBBBhFVAZFBBBfOAqHSPABMBhBjcAiP8ZnGmDiyMjAP" ++
    "hhPRFZj8aFyGm1Zdh3CxYHeRiORdShPhTUFStThHsViKFAlPl_XIhmVhJJo3XpCPAdCCAODIsLioEjKFMDIHJozQAv" ++
    "VhMhBAqBdShLvEanFdCAvPGBDBBBOBmEhpbDBaBBBACABJBDBABAGAEABABABCBBBACABABABABABBBACDBGBDBDBA" ++
    "BJBQFCBEBQkqEhp2fhAkhZGmdCl0BOnpQPzNitCwdhvCk6KFkif"),
   (["lt", "titlecaseletter"],
    "uFACACAhGAnsVHIHIHMAPAhPA"),
   (["lu", "uppercaseletter"],
    "iBZjFWBGhBABABABABABABABABABABABABABABABABABABABABABABABABABABABACABABABABABABABACABABABAB" ++
    "ABABABABABABABABABABABABABABABABABABABBBABADBBABBBCCDBBBCDBBBBABABBBACABBBCBABBDAHACACACAB" ++
    "ABABABABABABACABABABABABABABABACACABCBABABABABABABABABABABABABABABABABABABABABABABABABABAB" ++
    "ABABAHBBBCABDBABABABApBABADAIAGABCBABBBQBIhDACCDABABABABABABABABABABABAFACABBChShQABABABAB" ++
    "ABABABABABABABABABABABABAJABABABABABABABABABABABABABABABABABABABABABABABABABABABBBABABABAB" ++
    "ABACABABABABABABABABABABABABABABABABABABABABABABABABABABABABABABABABABABABABABABABABABABAB" ++
    "ABABABABAChFi6JhFBAFA2SiVikTAGhKCCqAABABABABABABABABABABABABABABABABABABABABABABABABABABAB" ++
    "ABABABABABABABABABABABABABABABABABABABABABABABABABABABABABABABABABABABABABABABABABABABABAB" ++
    "ABABAJABABABABABABABABABABABABABABABABABABABABABABABABABABABABABABABABABABABABABABABABABAB" ++
    "ABABABABABABAJHIFKHIHIFLABABABAIHiIDMDMDMELDoGAEADCCCCADEGABABABDCDKBFAhdAizchPhQABCCABABA" ++
    "BDBACAICBABABABABABABABABABABABABABABABABABABABABABABABABABABABABABABABABABABABABABABABABA" ++
    "BABABABABABABABAIABAEA-qNABABABABABABABABABABABABABABABABABABABABABABATABABABABABABABABABA" ++
    "BABABABAkHABABABABABABADABABABABABABABABABABABABABABABABABABABABABABABABABABABABABABAKABAB" ++
    "BBABABABAEABACABADABABABABABABABABABABEBEBABABABABABABABDBABBDAFABABABAYA15LZhmFhHkIhDkcKB" ++
    "OBGBBh3KhSkdVi5af1sAf5tAZaZaZaABBCACBCDBHaZaBBDCHBGbBBDBEBADGbZaZaZaZaZaZeYhBYhBYhBYhBYhBA" ++
    "kpVhB"),
   (["m", "mark", "combiningmark"],
    "4AjPoTGoHhMBABBBBBAiIKhQUQAjFGCFCBBDhDAeaibKhaIJAYDBIBCBEhLChbIhKXBhAhWCBRBGKBdChYABGCBCCJ" ++
    "AKBaACChYABEEBCCDAeBDALChYABHBCBCUBWFBChYABGCBCCHCKBeAhbEDCBDJAhIEhXABGBCBDHBLBdChYABGBCBD" ++
    "HBLBPAMDhXBBGBCBDJAKBdCiGAEFBABHSBhdACGMHjCACILGiJBbABABAEBhRTBBFKBhDJAjETXDECBCCGDDNLBAKD" ++
    "1fC9SDcCdBeBiAfJAhNCBAjVBhCAjWLELmbEhZJBcCAhQehREhPQhGIMCeMhYNhQTkYCBUEAGACCmGhf2QhAi_eCkN" ++
    "AjAfxKFjJB9uUDBJhABiQBoQADAEAXEEAiTBhSRaRNAhGHZMhMDhPNhEAiDNMAIBhNChSABCCBFBBAhJEFBnMHBBz5" ++
    "QA3BPQP-NAnCAkVEh0GCBBFDhICEAlFBxdDiBEpdBiPDiGKhRDjaChVOhJACBKDhNKHAhdChENQBhMAMChQNIDBBic" ++
    "LGACAkdLVDhXBBGCBCCJAKBCGDEiDIBACABDBEBAOBiSRXAiRTnLGCIbBiSQjKMjFOoAOnVFBBCDBABBkNGCGDAcJh" ++
    "IGBDIAJKhOPsVHBHiSVBNjaFDABBBGBAiCEBBBEqbDJBBAhQGDEXAlnFAGOrmIRiuAEhbGhgYABhWHDiRALBzlLBkz" ++
    "BhNCWweEDFIHCGeDkUCh9bhWEhRIAOAWEBOhqQGBQCGBBBEjEAlAGrXAhdDvcDneB3AGjNG4l9VnP"),
   (["mc", "spacingmark"],
    "ioDAhXACCIDBBhSBhaCGBCBKAhLAhaCiCAhaCIABBhVBhaABAGBCBKAjGBBBDCBCKAhJChdDhdBhaABECBBBJBcAOB" ++
    "haCFCBCKAhKBiLCGHSBqKBhfAlLBEAGACBZBKCCGVBCFCAKChzYAeAkBAHHBBqaDCCEBBFnABhaABAJABBIFkRAhQA" ++
    "FABEBBhdAeAEBCAhcACCBADBhQHIBlLAVAk5WB9_TBCAiYBhSPkOBhPAhQBEBCCjOBCBYAhNABAjNACBFAnNBBBBBB" ++
    "A5gTABAjfAhNCEBjTAYBhbAhQCJBNAidCDBBAlKCfBhaBBDCBCCJAKBiUCHACABDBBBAjFCIBDAjKCGABDCAnNCGDC" ++
    "AjRCIBBAjNABBGAjHABBEAoFCJAnXFBBEACABAkOCIDEAiUAdBheAsXAOAjKAHACAmVEEBBAqeBMAhQBIBBAwvICjx" ++
    "EhWjIB4rTBGF"),
   (["me", "enclosingmark"],
    "hkIBlxUAhweDBChhsLC"),
   (["mn", "nonspacingmark"],
    "4AjPoTEoJhMBABBBBBAiIKhQUQAjFGCFCBBDhDAeaibKhaIJAYDBIBCBEhLChbIhKXBfhXABAEHEADGKBdAhaAEDIA" ++
    "UBaACBhZAEBEBCCDAeBDALBhZAEEBBEAUBWFBAhaACABDIAHBLBeAhdAMAhSADAhXABCFCBDHBLBdAhaACAGAFBUBc" ++
    "BhZBEDIAUBdAiIAHCBAiaACGMHjCACILGiJBbABABAhXNBEBBFKBhDJAjGDBFBBCBZBECQDNACBGAPA1fC9SCdBeBe" ++
    "BiABBGIACKJAhNCBAjVBhCAjWCEBJAGCmbBCAhaABGBABACHGJCAhQNBPhRDhQABEBAFAhIIMBhADCBBChYABBDABC" ++
    "haHCBkYCBMBGEAGADBmGhf2QMEADLi_eCkNAjAfxKDjLB9uUAEJhABiQBoQADAEAZBFAkXBaRNAhGHZKhOChQACDCB" ++
    "hHAiDFCBCBMAIAhPAhTABCCBFBBAhKBIAnOACAEAz5QA3BPQP-NAnCAkVEh0GCBBFDhICEAlFBxdDiBEpdBiPDiGKh" ++
    "RDjbAhWOhJACBKChRDCBHAhdChEEBHheAMBhUIKDCAifCCABBGACAkdADHVBhZBDAhFGDEiGFNABABAOBiVHCCBAXA" ++
    "iUFBAEBBBnODGBBBbBiVHCABBjKABACFBAjFABACDBEoDIBBoABBAEAkQDCBEAhAJhIFCDIAJFCChOMBBsWGBFBAiS" ++
    "VCGBBBBjaFDABBBGBAiIBDABAqbBLBhUEFABAXAlnFAGOrmILDCiuAEhbGhgYAhfDiRAzlYBkzBhNCWxACRHCGeDkU" ++
    "Ch9bhWEhRIAOAWEBOhqQGBQCGBBBEjEAlAGrXAhdDvcDneB3AGjNG4l9VnP"),
   (["n", "number"],
    "hQJjYBFACChtBJkGJmGJscJjWJEFjMJjWJjWJCFjOMjTJIGjHJjIGHSjNJjAJjWJiGToMJiGJ2PT7RCnPJGJWJpMJk" ++
    "AKlFJGJlWJiWJkGJGJhgWADFGJmGhSCE2WhbiOVzWdhrJA4JAZIOCqXDkKJeHBOhAJhHO87AJlcJqAFkaJhGJmGJWJ" ++
    "iWJsWJ04WJvNhMMhYRBqVahEDdAIAkGEmKJ9OHZGhHIiLEWFlABCPChNiAIhUBeCiLEjIHYHhJGqKFhQJGJoWekeJh" ++
    "KDjQGkGdkAJhcJkQJHTnbJqWJjWJrWJjGJGTiMLtESidJ0WJiWcnDJiGJtGJjGUhhLjOvmBJipGJiWJkGJBGwOJoGW" ++
    "3yZJhuGTMTjMYhiVhRiqAJtGJvWJnXJ2MIkAJ4XhaBCBDiMhMBO-CMi3DJ"),
   (["nd", "decimalnumber", "digit"],
    "hQJhxGJkGJmGJscJjWJjWJjWJjWJjWJjWJjWJjWJjWJjAJjWJiGJoWJiGJh6GJhGJpMJkAJlGJGJlWJiWJkGJGJhiu" ++
    "GJ1GJhGJmGJWJiWJsWJ04WJhsGJikGJGJ4cJkAJhcJkQJoWJqWJjWJrWJjGJGTiMJtGJjGJ0WJiWJnWJiGJtGJwuWJ" ++
    "ipGJiWJkGJwWJ37WJi2UhRiqAJtGJvWJnXJ6VJk0WJ"),
   (["nl", "letternumber"],
    "l3OCizPhCCDjzeAZIOC91LJ2yQhUuMAIAkGEohKjO"),
   (["no", "othernumber"],
    "lSBFACCipVFrYFjYCkFGmZGRItRJhhVThjTJvAAh0VADFGJmGPhJA2WhbiOVzWdhrJAhkUDkKJeHBOhAJhHO9rQF2m" ++
    "RhMiBDRBqVahEDhpUHZGhHIiLEWFlABCPChNiAIhUBeCiLEjIHYHhJGqKFrAekeJhKDjQGkGTrbThqFBtOI7HS6TUy" ++
    "8GG4eW5hJTMTjMYlqOI9BhaBCBDiMhMBO-CM"),
   (["p", "punctuation", "punct"],
    "hBCBFBDKBDBaCBAbABAhDAFADAKBDADA1eAIAuSFhJBhTABACACAhMBUBBBNABCiKDjGAhLNnJChWOfAoFBKAkMAjY" ++
    "AjZAsGAMArPAiaAKBlIOBAhFDiHAiKEEBjPFlLAzEIkXAzNAhMBiOCiHBkdCBChFKpZBmYBkAGBFlABKGcCjcDhbEh" ++
    "eBiAHLA5cXITBMBLeBOBzZDdBhhdNiPBfJsTVhfDhAB3bDBBjQAkPhOBfCLtDCEJCLQAMAjCAiaA9gCBoNCjDAKAjT" ++
    "FrcDiWBhICBAhRBhPAjBMQBjcDjeBQBnZA0qSBmQJWhCBNBAEABBkVCBFBDKBDBaCBAbABABGsaC0cAhQAseA3HAmH" ++
    "AfAoQIhGAjQGiCGiZDuRApeAlHEhMDldGjNBBDjeDhQBiPDEANABCiYFjLApKBBBjSEKBBAjIAnaWjJCcMiMAkCCnc" ++
    "AoICkbAicHiTCBEidJmXAifEhKB0FBiKMlPAhjQEi7cBuzbBkFAiBEIAxICpHDqHAzlcAnvHEi7TA6eB"),
   (["pc", "connectorpunctuation"],
    "ifAn-fBTAh3ueBYCnPA"),
   (["pd", "dashpunctuation"],
    "hNAhqcAhTAjyBAhgFAigJFjwBACAfBEAcAteATAjPAhzsQBhFAKAlJAjzAApeA"),
   (["pe", "closepunctuation"],
    "hJAhTAfAj1dABAh6eAitJAhXAPAzaABAeAhheABABABABABABAiQAhAABABABABAsUABABABABABABABABABABAiAA" ++
    "BAhBAhhFABABABAhMABABABAtMABABABABADABABABACBhzoeAmZAdABABABABABABABADARABABAlKAhTAfACACA"),
   (["pf", "finalpunctuation"],
    "lbAn6dADAcAjuIABAEACAPADA"),
   (["pi", "initialpunctuation"],
    "lLAn7MACBCAZAjuIABAEACAPADA"),
   (["po", "otherpunctuation"],
    "hBCBCCABABBKBDBbAiEAFAOBHA1eAIAuSFhJAhWACACAhMBUBBBNABCiKDjGAhLNnJChWOfAoFBKAkMAjYAjZAsGAM" ++
    "ArPAiaAKBlIOBAjQAiKEEBjPFlLAzEI4FAjcCiHBkdCBChFFBDpZBmYBkAGBFlABKGcCjcDhbEheBiAHLA6CBIHIIC" ++
    "DCCDKBABJjkaDBBjQAkPBECCACIBBBACBKEBJCDBABMCCtMChZAldA9gCBoNCjDAKAjTFrcDiWBhICBAhRBhPAjBMQ" ++
    "BjcDjeBQBnZA0xEGCAWAUBCDDCBDHCGABBkVCBCCABABBKBDBbAhEACBsaC0cAhQAseA3HAmHAfAoQIhGAjQGiCGiZ" ++
    "D9YEhMDldGjNBBDjeDhQBiPDEANABCiYFjLApKBBBjSEKBBAjIAnaWjJCcMiMAkCCncAoICkbAicHiTCBEidJmXAif" ++
    "EhKB0FBiKMlPAhjQEi7cBuzbBkFAiBEIAxICpHDqHAzlcAnvHEi7TA6eB"),
   (["ps", "openpunctuation"],
    "hIAhSAfAj1eABAh6eAireADAhGAhXAPAzaABAeAhheABABABABABABAiQAhAABABABABAsUABABABABABABABABABA" ++
    "BAiAABAhBAhhFABABABAZASABABABAtMABABABABADABABABACAhzpBAmXAdABABABABABABABADARABABAlKAhSAf" ++
    "ADACA"),
   (["s", "symbol"],
    "hEAGAQCfABAbABAhDEBBCABDCADAeAfAuKDMNFGBABQjVAOBjQAkLAoKCjWCCACBmOAKATBnXAHBkIArJBGBnVAjeA" ++
    "kCHkEAmPAhJAmFAmBCPABCCFUABABAkFHBFBBFDmFB3QJ2TArNArEAkdhBrBJJIhiAABCLCNCNCNBiFANAhHCNCThA" ++
    "hfBBDBBKABCFFBABABAEALBEEFDBAhaBErXEcCneWKiRiNWzHhMhQCeKsSWheEfCrVCfBjInFFrFBhOZBiYMmVaPEA" ++
    "NBMAVBGBibBnTBEJhAhFJAQeLdIAPfKhGPpfmuAhf10QhWxZWJBjHBkdDKDxdCnBAOBz9dAkIQrdPjfAhMDjCABCCA" ++
    "kaAGAQCfABAbABAkBGBGNBpZIhZQCCBMDAhPhMhzaByPA2FBitPAikVcy6KDFA0qWAj7DnPQtTkcjThcnVKhGChbFC" ++
    "WBHdEhcViBDAlaiW7KAZAfAZAfAZAfAZAfAZAhcvfhXDhSHBNBBh2IAtPAitMADAjdAuBBoOhLEjDMOCOBOBhEXlAh" ++
    "YcNhLEIHBOFka-XEQDMDjWEieGLEAPLEhXIJGhHIdCLEBheqTMNCMDJFhXHOCKGIHkSBib"),
   (["sc", "currencysymbol"],
    "hEAjdDhnJAjbAvSBvSBHAnVAoHAyFAisbAimEhAhh7XA1uDAjMAkaAmbBDBn_WDhw4eAitQA"),
   (["sk", "modifiersymbol"],
    "ieABAiHAGAEADAwJDMNFGBABQjVAOBhoCAl5UABCLCNCNCNBkkcB9zDWJBjHB-QAOB0iGQ7bABAlCAh9gXE"),
   (["sm", "mathsymbol"],
    "hLAQChdABAhNAEAhFAfA3eAwPCmxbANAhHCNCkLAhHEGAiEEFBEACACAHAfBCABAfoLhABiaAeYhIFuVAJAhWHjPAq" ++
    "QECeKPoAkCWheEfCoBhQUCFhz-cA5YABClEAQChdABAkDAGDjtBBhypRAZAfAZAfAZAfAZAfAZAl5MB"),
   (["so", "othersymbol"],
    "lGACAEABA-RAoKBjfBmOAKATBnXAwDArVAkCFBAkEAmPAhJAsHCPABCCFUABABAkFHBFBBFDmFB3QJ2TA2SAkdhBrB" ++
    "JJIhsDBBDBBKABBGFBABABAEALBOABBBAhaBJECDBBBBBGBeCBBABeoMHETCGCiQBdZhHGiHWKiRiNWlWBIBhVIjOB" ++
    "nXhMhLiAnfwAhPVBGhGCfBjInFFrFBhOZBiYMmVaPEANBMAVBGBqQBEJhAhFJAQeLdIAPfKhGPpfmuAhf10QhW7BDK" ++
    "BBAxdC02GPjfAhNCvEADAEBNBpZIhZQCCBMDAhPhMhzaByPAjjWAikVHEQy6KDFA0qWAj7DnPQtTkcjThcnVKhGChb" ++
    "FCWBHdEhcViBDAlaiWhlJvfhXDhSHBNBBh2IAi6cAkBA2RhLEjDMOCOBOBhEXlAhYcNhLEIHBOFkanaF2XEQDMDjWE" ++
    "ieGLEAPLEhXIJGhHIdCLEBheqTMNCMDJFhXHOCKGIHkSBib"),
   (["z", "separator"],
    "hAAjfAlufAirfKdBFAhPAj9AA"),
   (["zl", "lineseparator"],
    "ohIA"),
   (["zp", "paragraphseparator"],
    "ohJA"),
   (["zs", "spaceseparator"],
    "hAAjfAlufAirfKhEAhPAj9AA"),
   (["any"],
    "Ahh__f"),
   (["assigned"],
    "A7XCFEGBABTBsMBhFChRCCBhWIaEFLoNBhbCjEOhaChQCOBbCABKFeBBFnMBHCBCVBGBADDCICBCDIAEBBECYCCBFE" ++
    "BCVBGBBBBBBCABEEBCCDAHDBAHQKCBIBCBVBGBBBECJBCBCCAPDCLHGBCBHCBCVBGBBBECICBCCHCEBBECRKBBFDCB" ++
    "DDBBABBDBDCDLEEDCBDCAGAOUFMBCBWBPCIBCBDHBBCCACDCJHVBCBWBJBECIBCBDHBGBBDCJBCMMBCBhSBCBFEPCZ" ++
    "BCBRDXBIBACGDAEFBABHGJCCMhZEchFBBABEBXBABWCEBABGBJCDhAiHBhDEhGBhDBOBMhFmFBAFACrYBDCGBABDCh" ++
    "IBDChABDCGBABDCOBhYBDCiCCfDZGiVCFC0cDiYHVJXJTMMBCBBMidCJGJGZGiYHhKFiFKeBLELEADhJCELhLEZGKD" ++
    "hdCiABcCKGJGNCehRiMBlFIhbDODhdFhKCKIhKFwVCFChFCFCHBABABABeChUBOBNCFBSCCBIBjEBLCaBMDhAPhAPk" ++
    "LE0ZWKVh4TCfBqcFhMBAFAChXHBOXJGBGBGBGBGBGBGBGBjdhCZBiYMmVaiPBiVCjGFhKBidBiVJhPB8zMDhWJqbUl" ++
    "XImNCBBABHVhaDJGhXIiFILGjTLdDiNBKEhABhWJNCJCjGYbKFCFCFJGBGBhbEjdCJGq9DMWEhQEozNCjJhGGMEFZB" ++
    "EBABBBBBjcQtcChVHAhAhJGhSBSBDEEBkGCABldDFCFCFCCDGBGKECLBZBSBBBOCNhCjaFCEhMDiXBMDAhPhNkCcDh" ++
    "QPbEhDJdFhKFdBhEENhKkdCJGhDEhDEhHIhTLLBOBGBBBKBOBGBBDhTMpWJVKHYFBhJBIiFFCABhLBBDACWBiHIIhQ" ++
    "SBBFhADaFAiAhXETChRBBFHBCBcCCEJHIHhfhAhGELJhVDcCaFZHDMGiQiIhXhSNhSHhNIJGhFDcIBmQeBhJBCCBQC" ++
    "hXhLIhJWZhGbUWJiNEhDJiDKACYHJGhUBRIhGJifBTLRBhOheGBABDBOBKGhaFJGDBHCBCVBGBBBEBJCBCCCAGAFGC" ++
    "GDELJBACABhFBJBACABDBJBBIBdibBEeiHIJlGhVChFhCiELJGMThZGJGTcaCOEWlZhbjEiSMHCACHBBBdBBCLJJiG" ++
    "HChNCKbiHIiSNiIHJlWhBOJGIBhMBNKcDfCVBNiJGBBBhLDABBBIIJGFBBBhEBBBFHJpWYHQBhIDciVAPhRN8ajGjO" ++
    "BELmDiyMjCNhiVKj8aFyGm1ZhZh2GxYHeBJEiQBJGdCFKiFKJBGBUFStQhZmGiajFiKEhYHQiAELBOl_XIhmVhJJo3" ++
    "HDBGBBBpCPAdCCAODIsLioEjKFMDIHJCHj6cnZGtTiMhNCWJjThcnVKhGCmBViFjaTMTMiWJYkHiUBiGBBCACBCDBL" ++
    "BABGBiABDCHBGBbBDBEBADGBqTCpDC1dPEBOhiQeGFmVGBQCGBBBEFhdhBAjQhMDNCJEBqAeRhZFAuQhJmWhKEAvAG" ++
    "BDBBBOBmECPhJiLEJEB4RiDiMhcmCDBaBBBACABJBDBABAGAEABABABCBBBACABABABABABBBACDBGBDBDBABJBQFC" ++
    "BEBQhUBoOhLEjDMOCOBOBhEKlNhYcNhLEIHBOFka-XEQDMDjWEieGLEAPLEhXIJGhHIdCLEBheqTMNCMDJFhXHOCKG" ++
    "IHkSBjFhgGhp2fhAkhZGmdCl0BOnpQPzNitCwdhvCk6KFkif13iRAeifkAnPh_wQh__dCh__d"),
   (["ascii"],
    "Ajf")]

end ContentFilter.Unicode
