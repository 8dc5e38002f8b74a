import ContentFilter.Unicode.RangeTable

/-!
# Word characters, digits and white space

The character classes that text patterns have short names for, and the two that decide which names a
capture group may carry.  For ASCII each class is given outright; the tables speak beyond it.
-/

namespace ContentFilter.Unicode

/-- White space: the property of that name, twenty-five characters. -/
def whiteSpaceTable : RangeTable :=
  [(0x09, 0x0d), (0x20, 0x20), (0x85, 0x85), (0xa0, 0xa0), (0x1680, 0x1680), (0x2000, 0x200a),
   (0x2028, 0x2029), (0x202f, 0x202f), (0x205f, 0x205f), (0x3000, 0x3000)]

/-- Letters, marks, decimal digits, connectors and joiners. -/
def wordTable : RangeTable := RangeTable.ofCode <|
  "hQJHZEABZhPAKAEAFWBeBuJELOEHABARjUBBCDBAGABCBABTBiSBkKBlMBhFCAGhIIhMBABBBBBAIaEDdKFiJEjFBHCJ" ++
  "BSCAQhaCjEOhVEACAChNSbEKFXBFIiKBkACJBSBHCBCVBGBADDCICBCDIAEBBECLKABACCBFEBCVBGBBBBBBCABEEBCC" ++
  "DAHDBAHPLCBIBCBVBGBBBECJBCBCCAPDCJJGBCBHCBCVBGBBBECICBCCHCEBBECJBAQBBFDCBDDBBABBDBDCDLEEDCBD" ++
  "CAGAOJQMBCBWBPCIBCBDHBBCCACDCJQDBHBCBWBJBECIBCBDHBGBBDCJBCMMBCBhSBCBEFDHECJKFBCBRDXBIBACGDAE" ++
  "FBABHGJCBNhZFOBJhHBBABEBXBABWCEBABGBJCDhAAXBGJLABABAEJBhDETBRBhDJAhZiJGiNChFBAFAChKBqMBDCGBA" ++
  "BDChIBDChABDCGBABDCOBhYBDCiCCChAPQiVCFDzLCQBZFiKDKHVJVLTMMBCBBMiTDAEBCJhBCBKGiYHhKFiFKeBLELK" ++
  "hHCELhLEZGJhGbEheBcCKGJNAIehRiMDJRIMjTMhXIJDhQCKFhKCCQCBhGFwVCFChFCFCHBABABABeChUBGBADCBGDDC" ++
  "FEMFCBGPBhRBTAcANAQMhThARAEACJBADEGABABABDBKCDFEEARhI5NhTh4WnEGIMhFBAFAChXHAPXJGBGBGBGBGBGBG" ++
  "BGBfhPAuVCZOBECEEiVCBCCBiZBDFhKBidRfhQPwAmtfiA10MiDhNCoMDbUhSBJBjShFICjGCiCCBBABHVhVEAThTMiF" ++
  "KJGXDABhQChDMcDiAOKGeBhWJNCJGWDiIYCCPCEKFCFCFJGBGBhKBNGjaBBCJGq9DMWEhQooErNCjJhGGMEFLBMBEBAB" ++
  "BBBBjLhBrKShfChVhILEPQPDBYChAEBkGTJHZEABZLiYDFCFCFCChDLBZBSBBBOCNhCjaiFhUkIAkCcDhQPAffNdFhKF" ++
  "dChDEHBEhKkdCJGhDEhDEhHIhTMKBOBGBBBKBOBGBBDhTMpWJVKHYFBhJBIiFFCABhLBBDACWKWJeiBSBBKVKZiGhXGB" ++
  "iADBBFHBCBcCCEAhAcDchDHBdZhVKVKSNRjOiIhXhSNhSNhHIJGhFDEBWnahJBBDBQChXhAKAIhAfVhKUbWJiGfPJhbH" ++
  "ANYHJGhUBJEDIhDCAJiEEDBMBAhDRBhEGDheGBABDBOBJHhaFJGDBHCBCVBGBBBEBJCBCCCAGAFGCGDELJBACABhFBJB" ++
  "ACABDBHNBdiKFJEDeiFBAIJlGhVCIXFhCiADALJhGhYHJGTcaCOEJGGlZhajFiJVHCACHBBBdBBCIMJiGHChNCHBBbhe" ++
  "IAIiJDASiImHhAPJGIBhMBIPJYdCVBNiJGBBBhLDABBBIIJGFBBBhEBBBFHJpWWJQBhIDENKiVAiP8ZjGjORmDiyMjAP" ++
  "hhPQVKj8aFyGm1ZhZh2GxYHeBJGiOBJGdCELhWJDMJJUFStQhMDJmGhfkAiKEhYHQiABBBLBOl_XIhmVhJJo3HDBGBBB" ++
  "pCPAdCCAODIsLioEjKFMDIHJDBkiRJwGhNCWweEDFIHCGeDkUCtbiUBiGBBCACBCDBLBABGBiABDCHBGBbBDBEBADGBq" ++
  "TCYBYBeBYBeBYBeBYBeBYBHChRwAhWEhRIAOAWEBOhiQeGFmVGBQCGBBBEFhdhBAjQhMDNCJEAqBeRhZuWhJmWhKvFGB" ++
  "DBBBOBmELGhJiLEJhlGDBaBBBACABJBDBABAGAEABABABCBBBACABABABABABBBACDBGBDBDBABJBQFCBEBQzUZGZGZi" ++
  "zGJhgGhp2fhAkhZGmdCl0BOnpQPzNitCwdhvCk6KFkif13qQnP"

/-- Decimal digits of every script. -/
def digitTable : RangeTable := RangeTable.ofCode <|
  "hQJhxGJkGJmGJscJjWJjWJjWJjWJjWJjWJjWJjWJjWJjAJjWJiGJoWJiGJh6GJhGJpMJkAJlGJGJlWJiWJkGJGJhiuGJ" ++
  "1GJhGJmGJWJiWJsWJ04WJhsGJikGJGJ4cJkAJhcJkQJoWJqWJjWJrWJjGJGTiMJtGJjGJ0WJiWJnWJiGJtGJwuWJipGJ" ++
  "iWJkGJwWJ37WJi2UhRiqAJtGJvWJnXJ6VJk0WJ"

/-- The alphabetic characters. -/
def alphabeticTable : RangeTable := RangeTable.ofCode <|
  "iBZGZhPAKAEAFWBeBuJELOEHABAiWAdRBBCDBAGABCBABTBiSBkKIlFBhFCAGhIhHNBABBBBBAIaEDdKFhXBGOjFBHEH" ++
  "ECKCCAQhPNjEYhAJBEAFXCSTYHKFXBFIAIhJKLDGGiLBPBCEONSBHCBCVBGBADDDHCBCBBAIAEBBEMBKAECBFEBCVBGB" ++
  "BBBBBEEEBCBEAHDBARFLCBIBCBVBGBBBEDIBCBBDAPDVDECBHCBCVBGBBBEDHCBCBJBEBBENAQBBFDCBDDBBABBDBDCD" ++
  "LEEDCBCDAGAhIMBCBWBPDHBCBCIBBCCACDcDBHBCBWBJBEDHBCBCIBGBBDNCMMBCBhICHBCBCBAFDHEWFBCBRDXBIBAC" ++
  "GIFBABHSBNhZFGGAhTBBABEBXBABSBCCEBAGAODhAAhfHBhDESEPBhDiDhWBACEQhfKDChFBAFAChKBqMBDCGBABDChI" ++
  "BDChABDCGBABDCOBhYBDCiChFPQiVCFDzLCQBZFiKDKHTLUMTMMBCBBMhTCSOAEAiDiYHhKFiFKeBLEIXdCELhLEZhWb" ++
  "EheCThSAXBLChRhTBOBHhThJCDKhLBKOhWWCKhDCKFhKCChJDBFBBDAFlfThBLoVCFChFCFCHBABABABeChUBGBADCBG" ++
  "DDCFEMFCBGjUANAQMjFAEACJBADEGABABABDBKCDFEEARhI5NhTh4WnEGDDBMhFBAFAChXHAQWJGBGBGBGBGBGBGBGBf" ++
  "hPAuVCZIHECEEiVGCBiZBDFhKBidRfhQPwAmtfiA10MiDhNCoMDPKBUhOFHDjQhHICjGCiCCBBABHVTBhAYhTMiDBAhM" ++
  "FDABCKhAFhCNcDhSBLPAQPKEBhWJNSWDiEBABAYCCPCDLFCFCFJGBGBhKBNGjaVq9DMWEhQooErNCjJhGGMEFLBMBEBA" ++
  "BBBBBjLhBrKShfChVhILjUEBkGhEZGZLiYDFCFCFCChDLBZBSBBBOCNhCjaiFhUoLcDhQhPfNdFhKFdChDEHBEhKkdSh" ++
  "DEhDEhHIhTMKBOBGBBBKBOBGBBDhTMpWJVKHYFBhJBIiFFCABhLBBDACWKWJeiBSBBKVKZiGhXGBiADBBFHBCBchKcDc" ++
  "hDHBbbhVKVKSNRjOiIhXhSNhSNhHhCbDAFWnahJBBDBQChXADcKAIVhKRhOUbWJiFhLEKhYJANYXhSRDIhCDAJhfBDJB" ++
  "KABAhDRBhBCAGDheGBABDBOBJHhYXDBHCBCVBGBBBEDHCBCBDAGAFGcJBACABhFBJBACABDBBDABAhMiBBCBDUCeiBCB" ++
  "BAlYhVCGZFhCheBADAhbhVCAiHaCNVGlZhYjHhffHCACHBBBdBBCBCDidHChNCFBABBbhSCJRiHFASiImHhAfIBhMBGB" ++
  "AhRdCVBNiJGBBBhLDABBBCBACBYFBBBhEBBBDBAqHWJQBhIDCjPAiP8ZjGjORmDiyMjAPhhPRFZj8aFyGm1ZhOh2RxYH" ++
  "eRiORdShPQDfUFStQhMmThfkAiKEhYHQiABBAMBOl_XIhmVhJJo3HDBGBBBpCPAdCCAODIsLioEjKFMDIHJEAl7BiUBi" ++
  "GBBCACBCDBLBABGBiABDCHBGBbBDBEBADGBqTCYBYBeBYBeBYBeBYBeBYBHh5UeGFmVGBQCGBBBEFhdhBAjQhMKGQAqB" ++
  "dShLvEbnEdCAvPGBDBBBOBmEhbiDDADAhlUDBaBBBACABJBDBABAGAEABABABCBBBACABABABABABBBACDBGBDBDBABJ" ++
  "BQFCBEBQzUZGZGZjzWhp2fhAkhZGmdCl0BOnpQPzNitCwdhvCk6KFkif"

/-- Digits, letter-like numbers and other numbers. -/
def numericTable : RangeTable := RangeTable.ofCode <|
  "hQJjYBFACChtBJkGJmGJscJjWJEFjMJjWJjWJCFjOMjTJIGjHJjIGHSjNJjAJjWJiGToMJiGJ2PT7RCnPJGJWJpMJkAK" ++
  "lFJGJlWJiWJkGJGJhgWADFGJmGhSCE2WhbiOVzWdhrJA4JAZIOCqXDkKJeHBOhAJhHO87AJlcJqAFkaJhGJmGJWJiWJs" ++
  "WJ04WJvNhMMhYRBqVahEDdAIAkGEmKJ9OHZGhHIiLEWFlABCPChNiAIhUBeCiLEjIHYHhJGqKFhQJGJoWekeJhKDjQGk" ++
  "GdkAJhcJkQJHTnbJqWJjWJrWJjGJGTiMLtESidJ0WJiWcnDJiGJtGJjGUhhLjOvmBJipGJiWJkGJBGwOJoGW3yZJhuGT" ++
  "MTjMYhiVhRiqAJtGJvWJnXJ2MIkAJ4XhaBCBDiMhMBO-CMi3DJ"

/-- A character of white space. -/
def isWhiteSpace (c : Char) : Bool := whiteSpaceTable.contains c

/-- A character that may stand in a word. -/
def isWord (c : Char) : Bool :=
  if c.toNat < 128 then c.isAlphanum || c == '_' else wordTable.contains c

/-- A decimal digit. -/
def isDigit (c : Char) : Bool :=
  if c.toNat < 128 then c.isDigit else digitTable.contains c

/-- An alphabetic character. -/
def isAlphabetic (c : Char) : Bool :=
  if c.toNat < 128 then c.isAlpha else alphabeticTable.contains c

/-- A number of any kind. -/
def isNumeric (c : Char) : Bool :=
  if c.toNat < 128 then c.isDigit else numericTable.contains c

end ContentFilter.Unicode
