import ContentFilter.Unicode.RangeTable.Algebra

/-!
# Ages of characters

The versions of Unicode up to 16, oldest first, and what each of them added.  A character belongs to
the version that added it and to all later ones.
-/

namespace ContentFilter.Unicode

/-- The folded names of each version with the table of what it added. -/
def versions : List (List String × String) :=
  [(["1.1", "v11"],
    "AvVEdhYiYHhOBJWiFaBSBEADAFGBABTBhLBGDABABABABRNLBiBBLBhIJhUCBCBDbCHCBhXhFCGBhGBAhGJBIMaFEX" ++
    "AOADABZFSNNCiHCEBOBdCJwHCBhUCRCEDYQCBHCBCVBGBADDCABGCBCCJAEBBECUHACFEBCVBGBBBBBBCABEEBCCLD" ++
    "BAHOMCBGBABCBVBGBBBECJBCBCCAPAFJRCBHCBCVBGBBCDCHDBCCIBEBBCEKRBBFDCBDDBBABBDBDCDHBCEEDCBDJA" ++
    "PLOCBHBCBWBJBEEGBCBDHBJBEJSBBHBCBWBJBEEGBCBDHBHABBEJSBBHBCBWBPEFCCBDJAIBEJkRhZEchFBBACBBAC" ++
    "AGDBGBCBABACBBMBCCEBABFCJCBuChFKhGEAEiZFiDFiRjgGkaFiZGVCFChFCFCHBABABABeChUBOBNCFBSCCBIBhO" ++
    "BWhDGDaRKhFRehYahPNiaVnROABjYkFhEbKVkKVkVKiPQTGiVkRDBDCbBhCBABDDABGCGOeDXBNiiBhXHABiTEFCid" ++
    "GhHEidBPjAcDhDcbDhRPLEhOBjWEjCCemwB0tFwiamxNmSGMEGYBEBABBBBBjLhBrMQhfChVhILhEDMUEJBSBDECBA" ++
    "BkGCABidCidDFCFCFCCDGBGOC"),
   (["2.0", "v20"],
    "hsRQBMUAipbiHBhAHaEFBABUDGBAj3BAwPAhi6Uq9DiqiaBh__eBh__eBh__eBh__eBh__eBh__eBh__eBh__eBh__" ++
    "eBh__eBh__eBh__eBh__ekggB"),
   (["2.1", "v21"],
    "olMAh36PA"),
   (["3.0", "v30"],
    "vWDeHCRjVEhRAKEiXITAjUADABABABAeAMAiCAMAhKBCDicBkcAmICjCBFAPAhKEBNBdDahVhQhuRBBRDXBIBACGDA" ++
    "EFBABHSCrVAhLAXCHABCBOCAhQhBBEBBBGDDGZtGGBheBABDCGBABDChGBABDCeBABDCGBABDCGBGBWBeBABDCGBhG" ++
    "BSGbhDiUMzVJcDiQkPicDJWOBJGiXIhJh8FAYFifChSBiVBiIAjHIoNAjZABdkKBuJHhBAiWBsOnfhsAZBiYMmVaLh" ++
    "cCDArBXyImtV0yKhkMDRCPBLBCBA1yWAhmbC"),
   (["3.1", "v31"],
    "_UBh-uafhoQeBDMalVhFChFhy9SnVKhGDlTxCiUBiGBBCACBCDBLBABDBBBiABDCHBGBbBDBEBADGBqREpBEhRqgAh" ++
    "p2W0pJwd2hvDAeif"),
   (["3.2", "v32"],
    "xAApOATMjIBcAkTBhZBCBCBhRPqeBqBAiqFBhwHMBGLWJTMMBCBBimTAGEEAHENAheBhSGiSOlILnSNjcAehTocTkX" ++
    "JiYHWBiaLCJmeNiabEPoAvfhpbCiXBIBieAnQPiROiRO8vCBQAMADA1rKha8RADPhVBhMAnLB"),
   (["4.0", "v40"],
    "xBASCjXBhfQiQHFCkXEwEDJIiACkVBPAhNCdCtUAlYAiDABAkIAiUCNAiDAhbAkBHmBBi4fASJoGcDLELEADhJCEjL" ++
    "f4AjL3HBnGA0TBpOAoUBjUHOBhieNh4PBhRAhLBiODlHDjDBfAmuAhfhr_dAiJBtXLBZBSBBBOCNhCjaFCEhMDIyAd" ++
    "BAkGBhGiPCJ6WFCABhLBBDACAhy2AiWrKA4rhenP"),
   (["4.1", "v41"],
    "xXKoWEkfDnWBlKAhCCiDASAhaFnRdwPAiQAvHAhPA_JBpHBBAoKAhfAhfAhHAfAfAfAPAhHAXBfZhvGhJGZGJEBhAb" ++
    "CB6MiX0RBBGhREdDhVAiQAPA0EKxcAjFBSKFPoOG6HFnMhOBhOhBjKOhMKhVJAQWJGBGBGBGBGBGBGBGhBXEB9CPlO" ++
    "A7pHVh6EWnJhL0yEjJ5WJ5GiKwVhDENhxKDBBFHBCBaECEIIIhx9HiFhieB"),
   (["5.0", "v50"],
    "yCNpLCqRAhKFQDlGAwFhasABBB7CBNBjwNiLEhMyHGhTB3MDidBhVAyXL2KAoUD6JGFDpcMHD-0fDFBoehX4kIZFAl" ++
    "3A7OkRjCNDhr3MRhiYB"),
   (["5.1", "v51"],
    "7QDCBiXAlXAkMPnCELEhAEpORvRBmeAhDAmOAdBjMAjMAaBIBUHldAGAdBMFDGvLBjBADCiNAFACAHCEFahfEBigKA" ++
    "2VhKDLiGhXDODhSqLblVDiaFrEAkLAieAhVDhoUAVJDDoIAfD5LEEhIDEoYCBCEFrCfYDCS3cAlCT7uYHhpcpLUfCR" ++
    "IbkDECjKjOEkAiEJLhGiTLAlAhWJNCJCD0-EC7JLhUhNkCcDhQhyPZFAhx_JAn2WhLEjD"),
   (["5.2", "v52"],
    "hpEB2ahNCOmBAiNAGAhDBkAAhuZDmBDlcEiEEiSFwAAzWIxQiFlUBhOAiFheBcCKGJGNxChCoKA1YCkXChWAyeA1VB" ++
    "dCEJBSBAEXiXA_dEoWANBjLGpfAhgSL7rUHhoEhPtAiXpYJlGbjEcDiNBKEBkAbEiCYEnAhNCJq9WWEhQozPCjuSVB" ++
    "IlaBqEfkAhVDcCaFHkAiIwXewBiBn5ehhOhvmRKFeCALABACADADEIAHAZABBCAKDCAjPAPhBOIhtlXkhU"),
   (["6.0", "v60"],
    "hpGBnYAheAvAbCAmbBTAGBbEvaFtRAQATAxdDiJB8CBijBhTIDvcA0YHcA5PK2aATABDdAEBcAhDABAECJBhUCYAOA" ++
    "OBhtAAOAhhYC9lFBpLBBBOJiQA4GFCFCFJGBG0kDPlheiNEd18QxYxuHBwkeOCNCOBOiQABKBABBBCBCFHBGBJGIBA" ++
    "CBBJEBBJiLZBBhPIVBlOhAPFBiFDTMhEBEVQPheBABlVBDDhdSXkTEBPBCBABABABCBFCDBACDBLEKhQiFhajThv-M" ++
    "md"),
   (["6.1", "v61"],
    "hsPAjUA0bABKhXavRA_NBvHAFAhPCi1LCMFoAHhLDi2UABAhpEBhTAFAhYBmKJ8sQAh1HHhDAnSBWAiNB3GWz5XBj6" ++
    "QhXGBh4QYHJGhUBNhciIHJhlGhXIJ2hWiELhOQQ_zADBaBBBACABJBDBABAGAEABABABCBBBACABABABABABBBACDB" ++
    "GBDBDBABJBQFCBEBQhUBzYB-UDlcAQADABABABADAGBEABBEA"),
   (["6.2", "v62"],
    "olaA"),
   (["6.3", "v63"],
    "hwcAmyJD"),
   (["7.0", "v70"],
    "7fAtIHidBjWA0bALFiMAjYAHAzfAhTAiMAjfAnEJioBHxEBsROxZBnNO2FC5WG4FAhiMCKZCfChBDLBHzKG-iVFnWL" ++
    "LCCBiFAvIejdDlQhPEB02BG6dBTApfbhDAhQhKsFhHIhTLAkQpWJVKHnYheIIuQfhAhGELkJRHDMGhmPAmQhGiWAMA" ++
    "GTLRBhKjShaFJHCBHCBCVBGBBBECICBCCJAFGCGDEoLiHIJlGhVCRhWiELJyGiSMAuAhYijWhJmKLFAxuLeBJEBjAd" ++
    "CFKiFKJBGBUFS0jQjKFMDIHJCHq6cmECPh_IAhAVVBwULJAiGAWLhFAFDFLRGiHABAlWAEBhfBEGdRBhIBiViGBNhP" ++
    "iGJQMDDkMiUhLLEhXIJGhHId"),
   (["8.0", "v80"],
    "ilTBhOAwVArAAoEAh0VACFjmAAmLBizAD8-dIh2IAnQAhCFqEBzCDMiP0zOBi1QSBBFElcBCPChN0AhSNhSHFhmJDO" ++
    "ElAGBABDBOBKiWAiPAzZTpCZDOEPjiZAnGmDn1cyGhi8XKhwX0LPEBOmjdCiOBiPEhEHnfAiLEnTBkLAxfIjHEhbAh" ++
    "vyfl0B"),
   (["9.0", "v90"],
    "ilWHWO8dAmOAECBGXCj4HIrSAhvfDiyEB-rJAoWA2mHB5BhDEhDjqCAuBiZBABAwCMhsTIBhMBNKcDfCVBN05JAfl_" ++
    "MT3S1oNGBQCGBBBEimViKFJEBihbRkOA5eAhJApMBhBCxCFBHIACLBLEOhGM"),
   (["10.0", "v100"],
    "ijAKsRBncFwAAhaBj9aAneD2FA5fAh-SAzSE3EA71HU46CCl2QiHIhTCWBEydGBBBhLDABBBIIJ00HAwhAociRsLv7" ++
    "EFhjNBhCBwHLTAIHBBZASMhGFhYWh1mJnpQ"),
   (["11.0", "v110"],
    "hrAAhHAjGAwNCmTApKAjXAsNAjfAi_TAhgXhKCCj3aCWYEOyLE3AA71bEh9fAIBqEB4pUBSA1XhHIJuGhHIhJrTAjW" ++
    "CvUApCA1bAnFhbzBA2CFBBBhEBBBFHJpWYz6HiamqSEy3OTjeGmnYiDhjaAhuJAmbDrUCcECDDABDYKNJHBhEYjAN"),
   (["12.0", "v120"],
    "jjXAwOACACABFEAHAHBCANAjxfAj2OAhVAyPA-rKFCE8fB5jYWhjIAyYA3HHChNCKkfBhpahRNAlhQIu4MFEAhPIia" ++
    "BmgOFqqYCRDr8YhMDNCJEBrQhZFAhyLA9VhchhOAhrIAhEAnFLpBChPAhRAJAhJFDBKFDHCChQiTcDECFCNF"),
   (["12.1", "v121"],
    "s3fA"),
   (["13.0", "v130"],
    "ileJ0NAtOAjcAjpdBkmWA1YC7IEm_WJ0xQMh-KDhKBhVA5bD1xQAjnDhJBCCBnebrbAkGB0KAFBhkeGCACHBBBdBBC" ++
    "LJJhyWA0hTALBm4BvChKI5gECidChdAhpIBhDBtTBiaAjFAEBhKBGCdAlIAODPSHGJCNGhJkSBhWhFJhq2dG2pCk6K"),
   (["14.0", "v140"],
    "hwdAySeBBGHVASK7JAhAAjfAixPAHAJAnPA1RNjdAhQBzbA2FAi7OAhPAvTK8sfCh-ABOBBABEYC0-NArdPjfAhOBh" ++
    "7QKBOBGBBBKBOBGBBuDFBhJBIh9VZnGFiMAhvWAkGG7JPlmQjCuzdiOBJxpGDBGBBpADnudhNCWJjTxFBjoVe7Rehp" ++
    "RGBDBBBOj2eCoQAsIAiSAlOBhMDKDICRCGHIGhq_HBkiVD"),
   (["15.0", "v150"],
    "jnTAuaAighOC5fCileJ_WQBhIDblmVAJc_mcAhCAorKTjiRFoFhdhBAhiAhJkvCAkXCEEiZA0bCPBhECLCBAOBKBMA" ++
    "OBhviAA3gWkif"),
   (["15.1", "v151"],
    "r_cDvPAluwAzN"),
   (["16.0", "v160"],
    "ikXAk1WBhPAoJBh8cCjtaB9vFCMC3vDhTh6MhFDcIBpSChXAhkDJBACABhFBJBACABDBJBBIB3NThmchBOJ7AAloFj" ++
    "8anoFhZjgGhZn8FAv4AnZGtTl4chKEAk1SJEBuHAFAhOAHAVACAJAnBhE")]

/-- The characters of a version. -/
def age? (name : String) : Option RangeTable :=
  let older := versions.takeWhile (!·.1.contains name)
  (versions.find? (·.1.contains name)).map fun version =>
    RangeTable.normalize ((older ++ [version]).flatMap fun added => RangeTable.ofCode added.2)

end ContentFilter.Unicode
