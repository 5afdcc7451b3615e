/-!
# The mapping of domain names

How the characters of an international domain name are mapped before it is
looked up (UTS 46).  The tables are kept as text: records separated by
blanks, the hexadecimal numbers of a record separated by points.
-/

namespace BuildProvenance.Url.DomainTable

/-- Runs of characters that are replaced by one character: first, last, step,
and the distance to the replacement. -/
def runs : String := "
  41.5A.1.20 A0.A0.1.-80 AA.AA.1.-49 B2.B3.1.-80 B5.B5.1.307 B9.B9.1.-88 BA.BA.1.-4B
  C0.D6.1.20 D8.DE.1.20 100.12E.2.1 134.136.2.1 139.13D.2.1 141.147.2.1 14A.176.2.1
  178.178.1.-79 179.17D.2.1 17F.17F.1.-10C 181.181.1.D2 182.184.2.1 186.186.1.CE 187.187.1.1
  189.18A.1.CD 18B.18B.1.1 18E.18E.1.4F 18F.18F.1.CA 190.190.1.CB 191.191.1.1 193.193.1.CD
  194.194.1.CF 196.196.1.D3 197.197.1.D1 198.198.1.1 19C.19C.1.D3 19D.19D.1.D5 19F.19F.1.D6
  1A0.1A4.2.1 1A6.1A6.1.DA 1A7.1A7.1.1 1A9.1A9.1.DA 1AC.1AC.1.1 1AE.1AE.1.DA 1AF.1AF.1.1
  1B1.1B2.1.D9 1B3.1B5.2.1 1B7.1B7.1.DB 1B8.1B8.1.1 1BC.1BC.1.1 1CD.1DB.2.1 1DE.1EE.2.1
  1F4.1F4.1.1 1F6.1F6.1.-61 1F7.1F7.1.-38 1F8.21E.2.1 220.220.1.-82 222.232.2.1
  23A.23A.1.2A2B 23B.23B.1.1 23D.23D.1.-A3 23E.23E.1.2A28 241.241.1.1 243.243.1.-C3
  244.244.1.45 245.245.1.47 246.24E.2.1 2B0.2B2.2.-248 2B1.2B1.1.-4B 2B3.2B3.1.-241
  2B4.2B4.1.-3B 2B5.2B5.1.-3A 2B6.2B6.1.-35 2B7.2B7.1.-240 2B8.2B8.1.-23F 2E0.2E0.1.-7D
  2E1.2E1.1.-275 2E2.2E2.1.-26F 2E3.2E3.1.-26B 2E4.2E4.1.-4F 340.341.1.-40 343.343.1.-30
  345.345.1.74 370.372.2.1 374.374.1.-BB 376.376.1.1 37E.37E.1.-343 37F.37F.1.74 386.386.1.26
  387.387.1.-2D0 388.38A.1.25 38C.38C.1.40 38E.38F.1.3F 391.3A1.1.20 3A3.3AB.1.20 3CF.3CF.1.8
  3D0.3D0.1.-1E 3D1.3D1.1.-19 3D2.3D2.1.-D 3D3.3D3.1.-6 3D4.3D4.1.-9 3D5.3D5.1.-F
  3D6.3D6.1.-16 3D8.3EE.2.1 3F0.3F0.1.-36 3F1.3F1.1.-30 3F2.3F2.1.-2F 3F4.3F4.1.-3C
  3F5.3F5.1.-40 3F7.3F7.1.1 3F9.3F9.1.-36 3FA.3FA.1.1 3FD.3FF.1.-82 400.40F.1.50 410.42F.1.20
  460.480.2.1 48A.4BE.2.1 4C0.4C0.1.F 4C1.4CD.2.1 4D0.52E.2.1 531.556.1.30 F0C.F0C.1.-1
  10A0.10C5.1.1C60 10C7.10C7.1.1C60 10CD.10CD.1.1C60 10FC.10FC.1.-20 13F8.13FD.1.-8
  1C80.1C80.1.-184E 1C81.1C81.1.-184D 1C82.1C82.1.-1844 1C83.1C84.1.-1842 1C85.1C85.1.-1843
  1C86.1C86.1.-183C 1C87.1C87.1.-1824 1C88.1C88.1.89C3 1C89.1C89.1.1 1C90.1CBA.1.-BC0
  1CBD.1CBF.1.-BC0 1D2C.1D2C.1.-1CCB 1D2D.1D2D.1.-1C47 1D2E.1D30.2.-1CCC 1D31.1D39.2.-1CCC
  1D32.1D32.1.-1B55 1D34.1D3A.2.-1CCC 1D3C.1D3C.1.-1CCD 1D3D.1D3D.1.-1B1A 1D3E.1D3E.1.-1CCE
  1D3F.1D3F.1.-1CCD 1D40.1D41.1.-1CCC 1D42.1D42.1.-1CCB 1D43.1D43.1.-1CE2 1D44.1D45.1.-1AF4
  1D46.1D46.1.-44 1D47.1D47.1.-1CE5 1D48.1D49.1.-1CE4 1D4A.1D4A.1.-1AF1 1D4B.1D4C.1.-1AF0
  1D4D.1D4D.1.-1CE6 1D4F.1D4F.1.-1CE4 1D50.1D52.2.-1CE3 1D51.1D51.1.-1C06 1D53.1D53.1.-1AFF
  1D54.1D55.1.-3E 1D56.1D56.1.-1CE6 1D57.1D58.1.-1CE3 1D59.1D59.1.-3C 1D5A.1D5A.1.-1AEB
  1D5B.1D5B.1.-1CE5 1D5C.1D5C.1.-37 1D5D.1D5F.1.-19AB 1D60.1D61.1.-199A 1D62.1D62.1.-1CF9
  1D63.1D63.1.-1CF1 1D64.1D65.1.-1CEF 1D66.1D67.1.-19B4 1D68.1D68.1.-19A7 1D69.1D6A.1.-19A3
  1D78.1D78.1.-193B 1D9B.1D9B.1.-1B49 1D9C.1D9C.1.-1D39 1D9D.1D9D.1.-1B48 1D9E.1D9E.1.-1CAE
  1D9F.1D9F.1.-1B43 1DA0.1DA0.1.-1D3A 1DA1.1DA1.1.-1B42 1DA2.1DA2.1.-1B41 1DA3.1DA3.1.-1B3E
  1DA4.1DA6.1.-1B3C 1DA7.1DA7.1.-2C 1DA8.1DA8.1.-1B0B 1DA9.1DA9.1.-1B3C 1DAA.1DAA.1.-25
  1DAB.1DAB.1.-1B0C 1DAC.1DAC.1.-1B3B 1DAD.1DAD.1.-1B3D 1DAE.1DB1.1.-1B3C 1DB2.1DB2.1.-1B3A
  1DB3.1DB4.1.-1B31 1DB5.1DB5.1.-1C0A 1DB6.1DB7.1.-1B2D 1DB8.1DB8.1.-9C 1DB9.1DBA.1.-1B2E
  1DBB.1DBB.1.-1D41 1DBC.1DBE.1.-1B2C 1DBF.1DBF.1.-1A07 1E00.1E94.2.1 1E9B.1E9B.1.-3A
  1E9E.1E9E.1.-1DBF 1EA0.1EFE.2.1 1F08.1F0F.1.-8 1F18.1F1D.1.-8 1F28.1F2F.1.-8 1F38.1F3F.1.-8
  1F48.1F4D.1.-8 1F59.1F5F.2.-8 1F68.1F6F.1.-8 1F71.1F71.1.-1BC5 1F73.1F73.1.-1BC6
  1F75.1F75.1.-1BC7 1F77.1F77.1.-1BC8 1F79.1F79.1.-1BAD 1F7B.1F7B.1.-1BAE 1F7D.1F7D.1.-1BAF
  1FB8.1FB9.1.-8 1FBA.1FBA.1.-4A 1FBB.1FBB.1.-1C0F 1FBE.1FBE.1.-1C05 1FC8.1FCA.2.-56
  1FC9.1FC9.1.-1C1C 1FCB.1FCB.1.-1C1D 1FD3.1FD3.1.-1C43 1FD8.1FD9.1.-8 1FDA.1FDA.1.-64
  1FDB.1FDB.1.-1C2C 1FE3.1FE3.1.-1C33 1FE8.1FE9.1.-8 1FEA.1FEA.1.-70 1FEB.1FEB.1.-1C1E
  1FEC.1FEC.1.-7 1FEF.1FEF.1.-1F8F 1FF8.1FF8.1.-80 1FF9.1FFB.2.-1C2D 1FFA.1FFA.1.-7E
  2000.2000.1.-1FE0 2001.2001.1.-1FE1 2002.2002.1.-1FE2 2003.2003.1.-1FE3 2004.2004.1.-1FE4
  2005.2005.1.-1FE5 2006.2006.1.-1FE6 2007.2007.1.-1FE7 2008.2008.1.-1FE8 2009.2009.1.-1FE9
  200A.200A.1.-1FEA 2011.2011.1.-1 202F.202F.1.-200F 205F.205F.1.-203F 2070.2070.1.-2040
  2071.2071.1.-2008 2074.2079.1.-2040 207A.207A.1.-204F 207B.207B.1.197 207C.207C.1.-203F
  207D.207E.1.-2055 207F.207F.1.-2011 2080.2089.1.-2050 208A.208A.1.-205F 208B.208B.1.187
  208C.208C.1.-204F 208D.208E.1.-2065 2090.2090.1.-202F 2091.2091.1.-202C 2092.2092.1.-2023
  2093.2093.1.-201B 2094.2094.1.-1E3B 2095.2095.1.-202D 2096.2099.1.-202B 209A.209A.1.-202A
  209B.209C.1.-2028 2102.2102.1.-209F 2107.2107.1.-1EAC 210A.210B.1.-20A3 210C.210C.1.-20A4
  210D.210D.1.-20A5 210E.210E.1.-20A6 210F.210F.1.-1FE8 2110.2110.1.-20A7 2111.2111.1.-20A8
  2112.2112.1.-20A6 2113.2115.2.-20A7 2119.211B.1.-20A9 211C.211C.1.-20AA 211D.211D.1.-20AB
  2124.2124.1.-20AA 2126.2126.1.-1D5D 2128.2128.1.-20AE 212A.212A.1.-20BF 212B.212B.1.-2046
  212C.212D.1.-20CA 212F.212F.1.-20CA 2130.2131.1.-20CB 2132.2132.1.1C 2133.2133.1.-20C6
  2134.2134.1.-20C5 2135.2138.1.-1B65 2139.2139.1.-20D0 213C.213C.1.-1D7C 213D.213D.1.-1D8A
  213E.213E.1.-1D8B 213F.213F.1.-1D7F 2140.2140.1.D1 2145.2145.1.-20E1 2146.2147.1.-20E2
  2148.2149.1.-20DF 2160.2160.1.-20F7 2164.2164.1.-20EE 2169.2169.1.-20F1 216C.216C.1.-2100
  216D.216E.1.-210A 216F.216F.1.-2102 2170.2170.1.-2107 2174.2174.1.-20FE 2179.2179.1.-2101
  217C.217C.1.-2110 217D.217E.1.-211A 217F.217F.1.-2112 2183.2183.1.1 2329.232A.1.CDF
  2460.2468.1.-242F 24B6.24CF.1.-2455 24D0.24E9.1.-246F 24EA.24EA.1.-24BA 2C00.2C2F.1.30
  2C60.2C60.1.1 2C62.2C62.1.-29F7 2C63.2C63.1.-EE6 2C64.2C64.1.-29E7 2C67.2C6B.2.1
  2C6D.2C6D.1.-2A1C 2C6E.2C6E.1.-29FD 2C6F.2C6F.1.-2A1F 2C70.2C70.1.-2A1E 2C72.2C72.1.1
  2C75.2C75.1.1 2C7C.2C7C.1.-2C12 2C7D.2C7D.1.-2C07 2C7E.2C7F.1.-2A3F 2C80.2CE2.2.1
  2CEB.2CED.2.1 2CF2.2CF2.1.1 2D6F.2D6F.1.-E 2E9F.2E9F.1.3D2E 2EF3.2EF3.1.70AC
  2F00.2F00.1.1F00 2F01.2F01.1.1F27 2F02.2F02.1.1F34 2F03.2F03.1.1F3C 2F04.2F04.1.1F55
  2F05.2F05.1.1F80 2F06.2F06.1.1F86 2F07.2F07.1.1F99 2F08.2F08.1.1FB2 2F09.2F09.1.2236
  2F0A.2F0A.1.225B 2F0B.2F0B.1.2260 2F0C.2F0C.1.2276 2F0D.2F0D.1.2289 2F0E.2F0E.1.229D
  2F0F.2F0F.1.22D1 2F10.2F10.1.22E5 2F11.2F11.1.22EF 2F12.2F12.1.2389 2F13.2F13.1.23E6
  2F14.2F14.1.2401 2F15.2F15.1.2405 2F16.2F16.1.2422 2F17.2F17.1.242A 2F18.2F18.1.2444
  2F19.2F19.1.2450 2F1A.2F1A.1.2468 2F1B.2F1B.1.249B 2F1C.2F1C.1.24AC 2F1D.2F1D.1.24C6
  2F1E.2F1E.1.27B9 2F1F.2F1F.1.2800 2F20.2F20.1.29CB 2F21.2F21.1.29E1 2F22.2F22.1.29E8
  2F23.2F23.1.29F2 2F24.2F24.1.2A03 2F25.2F25.1.2A4E 2F26.2F26.1.2C2A 2F27.2F27.1.2C59
  2F28.2F28.1.2CD0 2F29.2F29.1.2CE6 2F2A.2F2A.1.2CF8 2F2B.2F2B.1.2D0D 2F2C.2F2C.1.2D42
  2F2D.2F2D.1.2D44 2F2E.2F2E.1.2EAD 2F2F.2F2F.1.2EB6 2F30.2F30.1.2EC1 2F31.2F31.1.2ECD
  2F32.2F32.1.2F40 2F33.2F33.1.2F47 2F34.2F34.1.2F4B 2F35.2F35.1.2FBF 2F36.2F36.1.2FC8
  2F37.2F37.1.2FD4 2F38.2F38.1.2FDB 2F39.2F39.1.3017 2F3A.2F3A.1.3027 2F3B.2F3B.1.3038
  2F3C.2F3C.1.3087 2F3D.2F3D.1.32CB 2F3E.2F3E.1.32F8 2F3F.2F3F.1.330C 2F40.2F40.1.35EF
  2F41.2F41.1.35F3 2F42.2F42.1.3645 2F43.2F43.1.3654 2F44.2F44.1.3660 2F45.2F45.1.3674
  2F46.2F46.1.369A 2F47.2F47.1.369E 2F48.2F48.1.37A8 2F49.2F49.1.37BF 2F4A.2F4A.1.37DE
  2F4B.2F4B.1.3BD5 2F4C.2F4C.1.3C16 2F4D.2F4D.1.3C2C 2F4E.2F4E.1.3C65 2F4F.2F4F.1.3C7C
  2F50.2F50.1.3C84 2F51.2F51.1.3C8A 2F52.2F52.1.3CBD 2F53.2F53.1.3CC1 2F54.2F54.1.3CE0
  2F55.2F55.1.4116 2F56.2F56.1.42D4 2F57.2F57.1.42DF 2F58.2F58.1.42E3 2F59.2F59.1.42E6
  2F5A.2F5A.1.42ED 2F5B.2F5B.1.42FE 2F5C.2F5C.1.42FF 2F5D.2F5D.1.434F 2F5E.2F5E.1.4426
  2F5F.2F5F.1.442A 2F60.2F60.1.457C 2F61.2F61.1.4585 2F62.2F62.1.45B6 2F63.2F63.1.45BC
  2F64.2F64.1.45C4 2F65.2F65.1.45CB 2F66.2F66.1.4625 2F67.2F67.1.462B 2F68.2F68.1.470E
  2F69.2F69.1.4714 2F6A.2F6A.1.4744 2F6B.2F6B.1.4754 2F6C.2F6C.1.4782 2F6D.2F6D.1.486E
  2F6E.2F6E.1.4874 2F6F.2F6F.1.4884 2F70.2F70.1.49CA 2F71.2F71.1.4A47 2F72.2F72.1.4A4C
  2F73.2F73.1.4B01 2F74.2F74.1.4B57 2F75.2F75.1.4B84 2F76.2F76.1.4CFD 2F77.2F77.1.4D81
  2F78.2F78.1.4FBE 2F79.2F79.1.4FD8 2F7A.2F7A.1.5010 2F7B.2F7B.1.5042 2F7C.2F7C.1.5085
  2F7D.2F7D.1.508F 2F7E.2F7E.1.5094 2F7F.2F7F.1.50B4 2F80.2F80.1.50FF 2F81.2F81.1.5108
  2F82.2F82.1.5261 2F83.2F83.1.5267 2F84.2F84.1.526F 2F85.2F85.1.5277 2F86.2F86.1.5286
  2F87.2F87.1.5294 2F88.2F88.1.5297 2F89.2F89.1.52E5 2F8A.2F8A.1.52E8 2F8B.2F8B.1.52ED
  2F8C.2F8C.1.56C1 2F8D.2F8D.1.56DE 2F8E.2F8E.1.58B2 2F8F.2F8F.1.58BD 2F90.2F90.1.58D3
  2F91.2F91.1.59ED 2F92.2F92.1.59F9 2F93.2F93.1.5A3F 2F94.2F94.1.5A6C 2F95.2F95.1.5CA2
  2F96.2F96.1.5CB0 2F97.2F97.1.5CBE 2F98.2F98.1.5CE0 2F99.2F99.1.5D04 2F9A.2F9A.1.5DCA
  2F9B.2F9B.1.5DD5 2F9C.2F9C.1.5E17 2F9D.2F9D.1.5F0E 2F9E.2F9E.1.5F2C 2F9F.2F9F.1.5FFC
  2FA0.2FA0.1.6010 2FA1.2FA1.1.6014 2FA2.2FA2.1.60EF 2FA3.2FA3.1.61A6 2FA4.2FA4.1.6222
  2FA5.2FA5.1.6227 2FA6.2FA6.1.622B 2FA7.2FA7.1.65D0 2FA8.2FA8.1.65D8 2FA9.2FA9.1.6673
  2FAA.2FAA.1.670C 2FAB.2FAB.1.670E 2FAC.2FAC.1.673C 2FAD.2FAD.1.67A4 2FAE.2FAE.1.67B0
  2FAF.2FAF.1.67B3 2FB0.2FB0.1.67B9 2FB1.2FB1.1.681A 2FB2.2FB2.1.683B 2FB3.2FB3.1.6840
  2FB4.2FB4.1.684D 2FB5.2FB5.1.68F3 2FB6.2FB6.1.6925 2FB7.2FB7.1.6928 2FB8.2FB8.1.69DE
  2FB9.2FB9.1.69E0 2FBA.2FBA.1.69F2 2FBB.2FBB.1.6AED 2FBC.2FBC.1.6B1C 2FBD.2FBD.1.6B22
  2FBE.2FBE.1.6B67 2FBF.2FBF.1.6B70 2FC0.2FC0.1.6B72 2FC1.2FC1.1.6B7B 2FC2.2FC2.1.6B98
  2FC3.2FC3.1.6D22 2FC4.2FC4.1.6EB1 2FC5.2FC5.1.6EBA 2FC6.2FC6.1.6EDF 2FC7.2FC7.1.6EF4
  2FC8.2FC8.1.6EFB 2FC9.2FC9.1.6F04 2FCA.2FCA.1.6F07 2FCB.2FCB.1.6F2E 2FCC.2FCC.1.6F31
  2FCD.2FCD.1.6F41 2FCE.2FCE.1.6F45 2FCF.2FCF.1.6F51 2FD0.2FD0.1.6F6B 2FD1.2FD1.1.6F79
  2FD2.2FD2.1.6F80 2FD3.2FD3.1.6FBA 2FD4.2FD4.1.6FC8 2FD5.2FD5.1.6FCB 3000.3000.1.-2FE0
  3002.3002.1.-2FD4 3036.3036.1.-24 3038.3038.1.2309 3039.303A.1.230B 3131.3132.1.-2031
  3133.3135.2.-1F89 3134.3134.1.-2032 3136.3136.1.-1F89 3137.3139.1.-2034 313A.313F.1.-1F8A
  3140.3140.1.-2026 3141.3143.1.-203B 3144.3144.1.-2023 3145.314E.1.-203C 314F.3163.1.-1FEE
  3165.3166.1.-2051 3167.3168.1.-1FA0 3169.3169.1.-1F9D 316A.316A.1.-1F9C 316B.316B.1.-1F98
  316C.316C.1.-1F95 316D.316D.1.-1F94 316E.316E.1.-2052 316F.316F.1.-1F92 3170.3170.1.-1F91
  3171.3172.1.-2054 3173.3173.1.-2053 3174.3175.1.-2052 3176.3176.1.-204F 3177.3177.1.-204E
  3178.317C.1.-204D 317D.317D.1.-204B 317E.317E.1.-2048 317F.317F.1.-203F 3180.3180.1.-2039
  3181.3181.1.-2035 3182.3183.1.-1F91 3184.3186.1.-202D 3187.3188.1.-2003 3189.3189.1.-2001
  318A.318B.1.-1FF9 318C.318C.1.-1FF8 318D.318D.1.-1FEF 318E.318E.1.-1FED 3192.3192.1.1C6E
  3193.3193.1.1CF9 3194.3194.1.1C75 3195.3195.1.2546 3196.3196.1.1C74 3197.3197.1.1C96
  3198.3198.1.1C73 3199.3199.1.4399 319A.319A.1.1CBF 319B.319B.1.1C7E 319C.319C.1.1C65
  319D.319D.1.278C 319E.319E.1.2592 319F.319F.1.1D1B 3244.3244.1.230B 3245.3245.1.2C37
  3246.3246.1.3341 3247.3247.1.4948 3260.3260.1.-2160 3261.3262.1.-215F 3263.3265.1.-215E
  3266.3266.1.-215D 3267.3268.1.-215C 3269.326D.1.-215B 326E.326E.1.7992 326F.326F.1.7E29
  3270.3270.1.8074 3271.3271.1.850B 3272.3272.1.8756 3273.3273.1.89A1 3274.3274.1.8E38
  3275.3275.1.92CF 3276.3276.1.951A 3277.3277.1.99B1 3278.3278.1.9BFC 3279.3279.1.9E47
  327A.327A.1.A092 327B.327B.1.A2DD 327E.327E.1.9432 3280.3280.1.1B80 3281.3281.1.1C0B
  3282.3282.1.1B87 3283.3283.1.2458 3284.3284.1.1C10 3285.3285.1.1EE8 3286.3286.1.1B7D
  3287.3287.1.1EE4 3288.3288.1.1BD5 3289.3289.1.20B8 328A.328A.1.347E 328B.328B.1.3DE0
  328C.328C.1.39A8 328D.328D.1.349B 328E.328E.1.5F43 328F.328F.1.2490 3290.3290.1.3355
  3291.3291.1.3599 3292.3292.1.3477 3293.3293.1.46AB 3294.3294.1.2179 3295.3295.1.3FE4
  3296.3296.1.5A0B 3297.3297.1.46C6 3298.3298.1.201C 3299.3299.1.473F 329A.329A.1.429D
  329B.329B.1.26D8 329C.329C.1.5DCD 329D.329D.1.1E8D 329E.329E.1.20D2 329F.329F.1.3A49
  32A0.32A0.1.6565 32A1.32A1.1.1C70 32A2.32A2.1.1EF7 32A3.32A3.1.38C0 32A4.32A4.1.1B66
  32A5.32A5.1.1B88 32A6.32A6.1.1B65 32A7.32A7.1.2B3F 32A8.32A8.1.214B 32A9.32A9.1.2092
  32AA.32AA.1.28ED 32AB.32AB.1.28BB 32AC.32AC.1.4437 32AD.32AD.1.1C54 32AE.32AE.1.5A19
  32AF.32AF.1.20A5 32B0.32B0.1.266C 32D0.32D0.1.-22E 32D1.32D1.1.-22D 32D2.32D2.1.-22C
  32D3.32D3.1.-22B 32D4.32D5.1.-22A 32D6.32D6.1.-229 32D7.32D7.1.-228 32D8.32D8.1.-227
  32D9.32D9.1.-226 32DA.32DA.1.-225 32DB.32DB.1.-224 32DC.32DC.1.-223 32DD.32DD.1.-222
  32DE.32DE.1.-221 32DF.32DF.1.-220 32E0.32E0.1.-21F 32E1.32E1.1.-21D 32E2.32E2.1.-21C
  32E3.32E3.1.-21B 32E4.32E9.1.-21A 32EA.32EA.1.-218 32EB.32EB.1.-216 32EC.32EC.1.-214
  32ED.32ED.1.-212 32EE.32F2.1.-210 32F3.32F3.1.-20F 32F4.32F4.1.-20E 32F5.32FA.1.-20D
  32FB.32FE.1.-20C A640.A66C.2.1 A680.A69A.2.1 A69C.A69C.1.-A252 A69D.A69D.1.-A251
  A722.A72E.2.1 A732.A76E.2.1 A770.A770.1.-1 A779.A77B.2.1 A77D.A77D.1.-8A04 A77E.A786.2.1
  A78B.A78B.1.1 A78D.A78D.1.-A528 A790.A792.2.1 A796.A7A8.2.1 A7AA.A7AA.1.-A544
  A7AB.A7AB.1.-A54F A7AC.A7AC.1.-A54B A7AD.A7AD.1.-A541 A7AE.A7AE.1.-A544 A7B0.A7B0.1.-A512
  A7B1.A7B1.1.-A52A A7B2.A7B2.1.-A515 A7B3.A7B3.1.3A0 A7B4.A7C2.2.1 A7C4.A7C4.1.-30
  A7C5.A7C5.1.-A543 A7C6.A7C6.1.-8A38 A7C7.A7C9.2.1 A7CB.A7CB.1.-A567 A7CC.A7DA.2.1
  A7DC.A7DC.1.-A641 A7F1.A7F1.1.-A77E A7F2.A7F2.1.-A78F A7F3.A7F3.1.-A78D A7F4.A7F4.1.-A783
  A7F5.A7F5.1.1 A7F8.A7F8.1.-A6D1 A7F9.A7F9.1.-A6A6 AB5C.AB5C.1.-435 AB5D.AB5D.1.-26
  AB5E.AB5E.1.-A8F3 AB5F.AB5F.1.-D AB69.AB69.1.-A8DC AB70.ABBF.1.-97D0 F900.F900.1.-6CB8
  F901.F901.1.-920D F902.F902.1.-6A38 F903.F903.1.-6C3B F904.F904.1.-8A33 F905.F905.1.-AAD3
  F906.F906.1.-A521 F907.F907.1.-596B F908.F908.1.-596C F909.F909.1.-9FB8 F90A.F90A.1.-6739
  F90B.F90B.1.-A384 F90C.F90C.1.-9FC4 F90D.F90D.1.-9717 F90E.F90E.1.-82A5 F90F.F90F.1.-798A
  F910.F910.1.-72D1 F911.F911.1.-7157 F912.F912.1.-701A F913.F913.1.-6884 F914.F914.1.-8F12
  F915.F915.1.-8BFA F916.F916.1.-883D F917.F917.1.-8539 F918.F918.1.-74DB F919.F919.1.-67AF
  F91A.F91A.1.-5F29 F91B.F91B.1.-AA99 F91C.F91C.1.-A5A7 F91D.F91D.1.-8E19 F91E.F91E.1.-8703
  F91F.F91F.1.-72F2 F920.F920.1.-5B02 F921.F921.1.-9BD1 F922.F922.1.-8937 F923.F923.1.-7356
  F924.F924.1.-6FC0 F925.F925.1.-965C F926.F926.1.-774E F927.F927.1.-7108 F928.F928.1.-9A5E
  F929.F929.1.-9212 F92A.F92A.1.-8BC0 F92B.F92B.1.-862F F92C.F92C.1.-685E F92D.F92D.1.-A9A7
  F92E.F92E.1.-A777 F92F.F92F.1.-A651 F930.F930.1.-946C F931.F931.1.-8E5E F932.F932.1.-8722
  F933.F933.1.-824C F934.F934.1.-7933 F935.F935.1.-732F F936.F936.1.-72DA F937.F937.1.-6B48
  F938.F938.1.-6206 F939.F939.1.-5DCA F93A.F93A.1.-5B40 F93B.F93B.1.-80AF F93C.F93C.1.-7FBD
  F93D.F93D.1.-7B9D F93E.F93E.1.-7575 F93F.F93F.1.-663B F940.F940.1.-5AC1 F941.F941.1.-6E6B
  F942.F942.1.-A063 F943.F943.1.-9A3F F944.F944.1.-7CE4 F945.F945.1.-78C7 F946.F946.1.-86E4
  F947.F947.1.-807D F948.F948.1.-6C86 F949.F949.1.-6252 F94A.F94A.1.-A072 F94B.F94B.1.-9CE9
  F94C.F94C.1.-8F39 F94D.F94D.1.-8B73 F94E.F94E.1.-8A3F F94F.F94F.1.-7C20 F950.F950.1.-7B19
  F951.F951.1.-6306 F952.F952.1.-A680 F953.F953.1.-78C8 F954.F954.1.-A778 F955.F955.1.-A789
  F956.F956.1.-7F3A F957.F957.1.-7B99 F958.F958.1.-7567 F959.F959.1.-62E4 F95A.F95A.1.-6DDA
  F95B.F95B.1.-968C F95C.F95C.1.-8F5A F95D.F95D.1.-6E5F F95E.F95E.1.-AB25 F95F.F95F.1.-9D78
  F960.F960.1.-994E F961.F961.1.-85DA F962.F962.1.-83F2 F963.F963.1.-A64C F964.F964.1.-8069
  F965.F965.1.-A9A6 F966.F966.1.-99BD F967.F967.1.-AB5A F968.F968.1.-8C9C F969.F969.1.-93F1
  F96A.F96A.1.-7C48 F96B.F96B.1.-A5A8 F96C.F96C.1.-A10E F96D.F96D.1.-826C F96E.F96E.1.-7525
  F96F.F96F.1.-6EC5 F970.F970.1.-8DB6 F971.F971.1.-69C1 F972.F972.1.-8CEA F973.F973.1.-9675
  F974.F974.1.-768F F975.F975.1.-95D5 F976.F976.1.-8411 F977.F977.1.-AAC9 F978.F978.1.-A80F
  F979.F979.1.-A7B0 F97A.F97A.1.-90F9 F97B.F97B.1.-7C94 F97C.F97C.1.-770D F97D.F97D.1.-6EAB
  F97E.F97E.1.-67AF F97F.F97F.1.-A68A F980.F980.1.-A53E F981.F981.1.-A00E F982.F982.1.-9A96
  F983.F983.1.-93BE F984.F984.1.-8986 F985.F985.1.-805B F986.F986.1.-63D9 F987.F987.1.-5F1D
  F988.F988.1.-5AF1 F989.F989.1.-5ABB F98A.F98A.1.-A6EF F98B.F98B.1.-92C5 F98C.F98C.1.-8E15
  F98D.F98D.1.-6A2B F98E.F98E.1.-9B1A F98F.F98F.1.-97FF F990.F990.1.-9790 F991.F991.1.-94F7
  F992.F992.1.-8A6F F993.F993.1.-884A F994.F994.1.-850B F995.F995.1.-7FCB F996.F996.1.-7BA2
  F997.F997.1.-7928 F998.F998.1.-6A72 F999.F999.1.-74AB F99A.F99A.1.-6977 F99B.F99B.1.-6651
  F99C.F99C.1.-A785 F99D.F99D.1.-A6FA F99E.F99E.1.-A4E1 F99F.F99F.1.-88D7 F9A0.F9A0.1.-70DE
  F9A1.F9A1.1.-6EF7 F9A2.F9A2.1.-9AD9 F9A3.F9A3.1.-99AE F9A4.F9A4.1.-9629 F9A5.F9A5.1.-8DF7
  F9A6.F9A6.1.-7D68 F9A7.F9A7.1.-8632 F9A8.F9A8.1.-AAC4 F9A9.F9A9.1.-A2B0 F9AA.F9AA.1.-9DC3
  F9AB.F9AB.1.-9BF1 F9AC.F9AC.1.-9990 F9AD.F9AD.1.-85FB F9AE.F9AE.1.-8545 F9AF.F9AF.1.-7A15
  F9B0.F9B0.1.-796A F9B1.F9B1.1.-677D F9B2.F9B2.1.-62BC F9B3.F9B3.1.-626B F9B4.F9B4.1.-619C
  F9B5.F9B5.1.-AA2A F9B6.F9B6.1.-8008 F9B7.F9B7.1.-6803 F9B8.F9B8.1.-6300 F9B9.F9B9.1.-98D8
  F9BA.F9BA.1.-AB34 F9BB.F9BB.1.-A8E1 F9BC.F9BC.1.-9DCE F9BD.F9BD.1.-9D7E F9BE.F9BE.1.-9425
  F9BF.F9BF.1.-8FBD F9C0.F9C0.1.-87F2 F9C1.F9C1.1.-837F F9C2.F9C2.1.-74C6 F9C3.F9C3.1.-6947
  F9C4.F9C4.1.-5A37 F9C5.F9C5.1.-933D F9C6.F9C6.1.-6398 F9C7.F9C7.1.-A73E F9C8.F9C8.1.-924D
  F9C9.F9C9.1.-91D6 F9CA.F9CA.1.-8C89 F9CB.F9CB.1.-8B2F F9CC.F9CC.1.-85C3 F9CD.F9CD.1.-8474
  F9CE.F9CE.1.-8163 F9CF.F9CF.1.-7CBF F9D0.F9D0.1.-6172 F9D1.F9D1.1.-A864 F9D2.F9D2.1.-97A4
  F9D3.F9D3.1.-635B F9D4.F9D4.1.-A9A9 F9D5.F9D5.1.-9CBC F9D6.F9D6.1.-8BEC F9D7.F9D7.1.-6AAD
  F9D8.F9D8.1.-9A4D F9D9.F9D9.1.-9895 F9DA.F9DA.1.-91C3 F9DB.F9DB.1.-8654 F9DC.F9DC.1.-6356
  F9DD.F9DD.1.-A7B4 F9DE.F9DE.1.-A5CF F9DF.F9DF.1.-9D7A F9E0.F9E0.1.-93CD F9E1.F9E1.1.-9293
  F9E2.F9E2.1.-913A F9E3.F9E3.1.-8CFE F9E4.F9E4.1.-85DE F9E5.F9E5.1.-8403 F9E6.F9E6.1.-7A6D
  F9E7.F9E7.1.-7118 F9E8.F9E8.1.-7107 F9E9.F9E9.1.-681D F9EA.F9EA.1.-6308 F9EB.F9EB.1.-A6AC
  F9EC.F9EC.1.-8B32 F9ED.F9ED.1.-A5D0 F9EE.F9EE.1.-881E F9EF.F9EF.1.-8557 F9F0.F9F0.1.-73F6
  F9F1.F9F1.1.-634E F9F2.F9F2.1.-5D9B F9F3.F9F3.1.-5B54 F9F4.F9F4.1.-925D F9F5.F9F5.1.-8C2A
  F9F6.F9F6.1.-780E F9F7.F9F7.1.-7F2C F9F8.F9F8.1.-7ED8 F9F9.F9F9.1.-7D67 F9FA.F9FA.1.-873A
  F9FB.F9FB.1.-8962 F9FC.F9FC.1.-6EA4 F9FD.F9FD.1.-AB3D F9FE.F9FE.1.-76C8 F9FF.F9FF.1.-A7C5
  FA00.FA00.1.-A7F9 FA01.FA01.1.-9B5B FA02.FA02.1.-972F FA03.FA03.1.-7D2D FA04.FA04.1.-9E7F
  FA05.FA05.1.-8CE7 FA06.FA06.1.-9352 FA07.FA07.1.-6ACC FA08.FA08.1.-71BC FA09.FA09.1.-63BC
  FA0A.FA0A.1.-707F FA0B.FA0B.1.-9B38 FA0C.FA0C.1.-A8CC FA0D.FA0D.1.-A44D FA10.FA10.1.-A1B6
  FA12.FA12.1.-939E FA15.FA15.1.-A837 FA16.FA16.1.-86EC FA17.FA17.1.-834D FA18.FA18.1.-80DC
  FA19.FA19.1.-80BB FA1A.FA1A.1.-80B5 FA1B.FA1B.1.-808C FA1C.FA1C.1.-62C6 FA1D.FA1D.1.-7D5F
  FA1E.FA1E.1.-7A61 FA20.FA20.1.-740E FA22.FA22.1.-6F2A FA25.FA25.1.-69ED FA26.FA26.1.-6929
  FA2A.FA2A.1.-613B FA2B.FA2B.1.-612F FA2C.FA2C.1.-6104 FA2D.FA2D.1.-5C79 FA2E.FA2E.1.-6950
  FA2F.FA2F.1.-6378 FA30.FA30.1.-AA82 FA31.FA31.1.-A94A FA32.FA32.1.-A8E5 FA33.FA33.1.-A76A
  FA34.FA34.1.-A750 FA35.FA35.1.-A6E4 FA36.FA36.1.-A499 FA37.FA37.1.-A431 FA38.FA38.1.-A3D0
  FA39.FA39.1.-A1F9 FA3A.FA3A.1.-A192 FA3B.FA3B.1.-9DD7 FA3C.FA3C.1.-9DCE FA3D.FA3D.1.-99A9
  FA3E.FA3E.1.-98D6 FA3F.FA3F.1.-98B1 FA40.FA40.1.-984E FA41.FA41.1.-94F2 FA42.FA42.1.-9460
  FA43.FA43.1.-93B2 FA44.FA44.1.-91BF FA45.FA45.1.-8CCE FA46.FA46.1.-8C2C FA47.FA47.1.-8B25
  FA48.FA48.1.-88DA FA49.FA49.1.-881E FA4A.FA4A.1.-8628 FA4B.FA4B.1.-81BA FA4C.FA4C.1.-810E
  FA4D.FA4D.1.-8104 FA4E.FA4E.1.-8106 FA4F.FA4F.1.-80FF FA50.FA50.1.-80FA FA51.FA51.1.-80F4
  FA52.FA53.1.-80C5 FA54.FA54.1.-8014 FA55.FA55.1.-7FD4 FA56.FA56.1.-7E96 FA57.FA57.1.-7C63
  FA58.FA58.1.-7C4F FA59.FA59.1.-7C18 FA5A.FA5A.1.-7AE8 FA5B.FA5B.1.-7A56 FA5C.FA5C.1.-786F
  FA5D.FA5D.1.-77E4 FA5E.FA5E.1.-77E5 FA5F.FA5F.1.-7608 FA60.FA60.1.-7150 FA61.FA61.1.-70CB
  FA62.FA62.1.-6F61 FA63.FA63.1.-6F2A FA64.FA64.1.-6D91 FA65.FA65.1.-6D5D FA66.FA66.1.-6AB0
  FA67.FA67.1.-6A2F FA68.FA68.1.-6385 FA69.FA69.1.-626A FA6A.FA6A.1.-622F FA6B.FA6B.1.-99F6
  FA6C.FA6C.1.14882 FA6D.FA6D.1.-7855 FA70.FA70.1.-AC4A FA71.FA71.1.-A8BC FA72.FA72.1.-A90A
  FA73.FA73.1.-AAF3 FA74.FA74.1.-A92F FA75.FA75.1.-A8F5 FA76.FA76.1.-A7AF FA77.FA77.1.-A77D
  FA78.FA78.1.-A4DB FA79.FA79.1.-A524 FA7A.FA7A.1.-A4E1 FA7B.FA7B.1.-A499 FA7C.FA7C.1.-A222
  FA7D.FA7D.1.-A1CA FA7E.FA7E.1.-A13A FA7F.FA7F.1.-A12B FA80.FA80.1.-A01E FA81.FA81.1.-9F59
  FA82.FA82.1.-9BB0 FA83.FA83.1.-9BAA FA84.FA84.1.-9B1B FA85.FA85.1.-9AD8 FA86.FA86.1.-99AE
  FA87.FA87.1.-9939 FA88.FA88.1.-9980 FA89.FA89.1.-98FB FA8A.FA8A.1.-992A FA8B.FA8B.1.-9899
  FA8C.FA8C.1.-9858 FA8D.FA8D.1.-96C9 FA8E.FA8E.1.-9672 FA8F.FA8F.1.-963D FA90.FA90.1.-953A
  FA91.FA91.1.-941D FA92.FA92.1.-937B FA93.FA93.1.-9378 FA94.FA94.1.-933E FA95.FA95.1.-8F1C
  FA96.FA96.1.-8EDC FA97.FA97.1.-8D56 FA98.FA98.1.-8BBD FA99.FA99.1.-8BCE FA9A.FA9A.1.-8B78
  FA9B.FA9B.1.-8A7D FA9C.FA9C.1.-892E FA9D.FA9D.1.-82F6 FA9E.FA9E.1.-8869 FA9F.FA9F.1.-87F0
  FAA0.FAA0.1.-8776 FAA1.FAA1.1.-8630 FAA2.FAA2.1.-859C FAA3.FAA3.1.-8568 FAA4.FAA4.1.-8487
  FAA5.FAA5.1.-8486 FAA6.FAA6.1.-83DC FAA7.FAA7.1.-83CC FAA8.FAA8.1.-83B4 FAA9.FAA9.1.-835F
  FAAA.FAAA.1.-836A FAAB.FAAB.1.-81DF FAAC.FAAC.1.-7FFB FAAD.FAAD.1.-7EED FAAE.FAAE.1.-7E33
  FAAF.FAAF.1.-7D54 FAB0.FAB0.1.-7CBC FAB1.FAB1.1.-7B73 FAB2.FAB2.1.-7AAD FAB3.FAB3.1.-7761
  FAB4.FAB4.1.-76C5 FAB5.FAB5.1.-733C FAB6.FAB6.1.-7175 FAB7.FAB7.1.-7131 FAB8.FAB8.1.-7122
  FAB9.FAB9.1.-6FFA FABA.FABA.1.-6FC2 FABB.FABB.1.-6FF0 FABC.FABC.1.-6FBB FABD.FABD.1.-6FBF
  FABE.FABE.1.-6FD1 FABF.FABF.1.-6F86 FAC0.FAC0.1.-6F36 FAC1.FAC1.1.-6DB9 FAC2.FAC2.1.-6B8A
  FAC3.FAC3.1.-6A51 FAC4.FAC4.1.-692B FAC5.FAC5.1.-684F FAC6.FAC6.1.-644A FAC7.FAC7.1.-63E4
  FAC8.FAC8.1.-6372 FAC9.FAC9.1.-62EE FACA.FACA.1.-62CB FACB.FACB.1.-62C0 FACC.FACC.1.-6291
  FACD.FACD.1.-5FBB FACE.FACE.1.-5B32 FACF.FACF.1.12D7B FAD0.FAD0.1.12D74 FAD1.FAD1.1.13904
  FAD2.FAD2.1.-BF35 FAD3.FAD3.1.-BABB FAD4.FAD4.1.-BA9B FAD5.FAD5.1.15774 FAD6.FAD6.1.161FA
  FAD7.FAD7.1.183FC FAD8.FAD8.1.-5B95 FAD9.FAD9.1.-5B4B FB20.FB20.1.-F53E FB21.FB21.1.-F551
  FB22.FB23.1.-F54F FB24.FB26.1.-F549 FB27.FB27.1.-F53F FB28.FB28.1.-F53E FB29.FB29.1.-FAFE
  FB50.FB50.1.-F4DF FB51.FB51.1.-F4E0 FB52.FB52.1.-F4D7 FB53.FB53.1.-F4D8 FB54.FB54.1.-F4D9
  FB55.FB55.1.-F4DA FB56.FB56.1.-F4D8 FB57.FB57.1.-F4D9 FB58.FB5A.2.-F4DA FB59.FB5B.2.-F4DB
  FB5C.FB5C.1.-F4DC FB5D.FB5D.1.-F4DD FB5E.FB5E.1.-F4E4 FB5F.FB5F.1.-F4E5 FB60.FB60.1.-F4E6
  FB61.FB61.1.-F4E7 FB62.FB62.1.-F4E3 FB63.FB63.1.-F4E4 FB64.FB64.1.-F4E5 FB65.FB65.1.-F4E6
  FB66.FB66.1.-F4ED FB67.FB67.1.-F4EE FB68.FB68.1.-F4EF FB69.FB69.1.-F4F0 FB6A.FB6A.1.-F4C6
  FB6B.FB6B.1.-F4C7 FB6C.FB6E.2.-F4C8 FB6D.FB6F.2.-F4C9 FB70.FB70.1.-F4CA FB71.FB71.1.-F4CB
  FB72.FB72.1.-F4EE FB73.FB73.1.-F4EF FB74.FB74.1.-F4F0 FB75.FB75.1.-F4F1 FB76.FB76.1.-F4F3
  FB77.FB77.1.-F4F4 FB78.FB78.1.-F4F5 FB79.FB79.1.-F4F6 FB7A.FB7A.1.-F4F4 FB7B.FB7B.1.-F4F5
  FB7C.FB7C.1.-F4F6 FB7D.FB7E.1.-F4F7 FB7F.FB7F.1.-F4F8 FB80.FB80.1.-F4F9 FB81.FB81.1.-F4FA
  FB82.FB82.1.-F4F5 FB83.FB83.1.-F4F6 FB84.FB86.2.-F4F8 FB85.FB87.2.-F4F9 FB88.FB88.1.-F500
  FB89.FB89.1.-F501 FB8A.FB8A.1.-F4F2 FB8B.FB8B.1.-F4F3 FB8C.FB8C.1.-F4FB FB8D.FB8D.1.-F4FC
  FB8E.FB8E.1.-F4E5 FB8F.FB8F.1.-F4E6 FB90.FB90.1.-F4E7 FB91.FB91.1.-F4E8 FB92.FB92.1.-F4E3
  FB93.FB93.1.-F4E4 FB94.FB94.1.-F4E5 FB95.FB95.1.-F4E6 FB96.FB96.1.-F4E3 FB97.FB97.1.-F4E4
  FB98.FB98.1.-F4E5 FB99.FB99.1.-F4E6 FB9A.FB9A.1.-F4E9 FB9B.FB9B.1.-F4EA FB9C.FB9C.1.-F4EB
  FB9D.FB9D.1.-F4EC FB9E.FB9E.1.-F4E4 FB9F.FBA0.1.-F4E5 FBA1.FBA1.1.-F4E6 FBA2.FBA2.1.-F4E7
  FBA3.FBA3.1.-F4E8 FBA4.FBA4.1.-F4E4 FBA5.FBA6.1.-F4E5 FBA7.FBA7.1.-F4E6 FBA8.FBA8.1.-F4E7
  FBA9.FBA9.1.-F4E8 FBAA.FBAA.1.-F4EC FBAB.FBAB.1.-F4ED FBAC.FBAC.1.-F4EE FBAD.FBAD.1.-F4EF
  FBAE.FBAE.1.-F4DC FBAF.FBB0.1.-F4DD FBB1.FBB1.1.-F4DE FBD3.FBD3.1.-F526 FBD4.FBD4.1.-F527
  FBD5.FBD5.1.-F528 FBD6.FBD6.1.-F529 FBD7.FBD7.1.-F510 FBD8.FBD8.1.-F511 FBD9.FBDB.2.-F513
  FBDA.FBDC.2.-F514 FBDE.FBDE.1.-F513 FBDF.FBDF.1.-F514 FBE0.FBE0.1.-F51B FBE1.FBE1.1.-F51C
  FBE2.FBE2.1.-F519 FBE3.FBE3.1.-F51A FBE4.FBE4.1.-F514 FBE5.FBE5.1.-F515 FBE6.FBE6.1.-F516
  FBE7.FBE7.1.-F517 FBE8.FBE8.1.-F59F FBE9.FBE9.1.-F5A0 FBFC.FBFC.1.-F530 FBFD.FBFD.1.-F531
  FBFE.FBFE.1.-F532 FBFF.FBFF.1.-F533 FE10.FE10.1.-FDE4 FE11.FE11.1.-CE10 FE13.FE14.1.-FDD9
  FE15.FE15.1.-FDF4 FE16.FE16.1.-FDD7 FE17.FE18.1.-CE01 FE31.FE31.1.-DE1D FE32.FE32.1.-DE1F
  FE33.FE33.1.-FDD4 FE34.FE34.1.-FDD5 FE35.FE36.1.-FE0D FE37.FE37.1.-FDBC FE38.FE38.1.-FDBB
  FE39.FE3A.1.-CE25 FE3B.FE3C.1.-CE2B FE3D.FE3E.1.-CE33 FE3F.FE40.1.-CE37 FE41.FE44.1.-CE35
  FE47.FE47.1.-FDEC FE48.FE48.1.-FDEB FE4D.FE4D.1.-FDEE FE4E.FE4E.1.-FDEF FE4F.FE4F.1.-FDF0
  FE50.FE50.1.-FE24 FE51.FE51.1.-CE50 FE54.FE54.1.-FE19 FE55.FE55.1.-FE1B FE56.FE56.1.-FE17
  FE57.FE57.1.-FE36 FE58.FE58.1.-DE44 FE59.FE5A.1.-FE31 FE5B.FE5B.1.-FDE0 FE5C.FE5C.1.-FDDF
  FE5D.FE5E.1.-CE49 FE5F.FE5F.1.-FE3C FE60.FE60.1.-FE3A FE61.FE62.1.-FE37 FE63.FE63.1.-FE36
  FE64.FE64.1.-FE28 FE65.FE65.1.-FE27 FE66.FE66.1.-FE29 FE68.FE68.1.-FE0C FE69.FE6A.1.-FE45
  FE6B.FE6B.1.-FE2B FE80.FE81.1.-F85F FE82.FE83.1.-F860 FE84.FE85.1.-F861 FE86.FE87.1.-F862
  FE88.FE89.1.-F863 FE8A.FE8A.1.-F864 FE8B.FE8B.1.-F865 FE8C.FE8D.1.-F866 FE8E.FE8F.1.-F867
  FE90.FE90.1.-F868 FE91.FE91.1.-F869 FE92.FE93.1.-F86A FE94.FE95.1.-F86B FE96.FE96.1.-F86C
  FE97.FE97.1.-F86D FE98.FE99.1.-F86E FE9A.FE9A.1.-F86F FE9B.FE9B.1.-F870 FE9C.FE9D.1.-F871
  FE9E.FE9E.1.-F872 FE9F.FE9F.1.-F873 FEA0.FEA1.1.-F874 FEA2.FEA2.1.-F875 FEA3.FEA3.1.-F876
  FEA4.FEA5.1.-F877 FEA6.FEA6.1.-F878 FEA7.FEA7.1.-F879 FEA8.FEA9.1.-F87A FEAA.FEAB.1.-F87B
  FEAC.FEAD.1.-F87C FEAE.FEAF.1.-F87D FEB0.FEB1.1.-F87E FEB2.FEB2.1.-F87F FEB3.FEB3.1.-F880
  FEB4.FEB5.1.-F881 FEB6.FEB6.1.-F882 FEB7.FEB7.1.-F883 FEB8.FEB9.1.-F884 FEBA.FEBA.1.-F885
  FEBB.FEBB.1.-F886 FEBC.FEBD.1.-F887 FEBE.FEBE.1.-F888 FEBF.FEBF.1.-F889 FEC0.FEC1.1.-F88A
  FEC2.FEC2.1.-F88B FEC3.FEC3.1.-F88C FEC4.FEC5.1.-F88D FEC6.FEC6.1.-F88E FEC7.FEC7.1.-F88F
  FEC8.FEC9.1.-F890 FECA.FECA.1.-F891 FECB.FECB.1.-F892 FECC.FECD.1.-F893 FECE.FECE.1.-F894
  FECF.FECF.1.-F895 FED0.FED0.1.-F896 FED1.FED1.1.-F890 FED2.FED2.1.-F891 FED3.FED3.1.-F892
  FED4.FED5.1.-F893 FED6.FED6.1.-F894 FED7.FED7.1.-F895 FED8.FED9.1.-F896 FEDA.FEDA.1.-F897
  FEDB.FEDB.1.-F898 FEDC.FEDD.1.-F899 FEDE.FEDE.1.-F89A FEDF.FEDF.1.-F89B FEE0.FEE1.1.-F89C
  FEE2.FEE2.1.-F89D FEE3.FEE3.1.-F89E FEE4.FEE5.1.-F89F FEE6.FEE6.1.-F8A0 FEE7.FEE7.1.-F8A1
  FEE8.FEE9.1.-F8A2 FEEA.FEEA.1.-F8A3 FEEB.FEEB.1.-F8A4 FEEC.FEED.1.-F8A5 FEEE.FEEF.1.-F8A6
  FEF0.FEF1.1.-F8A7 FEF2.FEF2.1.-F8A8 FEF3.FEF3.1.-F8A9 FEF4.FEF4.1.-F8AA FF01.FF20.1.-FEE0
  FF21.FF3A.1.-FEC0 FF3B.FF5E.1.-FEE0 FF5F.FF60.1.-D5DA FF61.FF61.1.-FF33 FF62.FF63.1.-CF56
  FF64.FF64.1.-CF63 FF65.FF65.1.-CE6A FF66.FF66.1.-CE74 FF67.FF67.1.-CEC6 FF68.FF68.1.-CEC5
  FF69.FF69.1.-CEC4 FF6A.FF6A.1.-CEC3 FF6B.FF6B.1.-CEC2 FF6C.FF6C.1.-CE89 FF6D.FF6D.1.-CE88
  FF6E.FF6E.1.-CE87 FF6F.FF6F.1.-CEAC FF70.FF70.1.-CE74 FF71.FF71.1.-CECF FF72.FF72.1.-CECE
  FF73.FF73.1.-CECD FF74.FF74.1.-CECC FF75.FF76.1.-CECB FF77.FF77.1.-CECA FF78.FF78.1.-CEC9
  FF79.FF79.1.-CEC8 FF7A.FF7A.1.-CEC7 FF7B.FF7B.1.-CEC6 FF7C.FF7C.1.-CEC5 FF7D.FF7D.1.-CEC4
  FF7E.FF7E.1.-CEC3 FF7F.FF7F.1.-CEC2 FF80.FF80.1.-CEC1 FF81.FF81.1.-CEC0 FF82.FF82.1.-CEBE
  FF83.FF83.1.-CEBD FF84.FF84.1.-CEBC FF85.FF8A.1.-CEBB FF8B.FF8B.1.-CEB9 FF8C.FF8C.1.-CEB7
  FF8D.FF8D.1.-CEB5 FF8E.FF8E.1.-CEB3 FF8F.FF93.1.-CEB1 FF94.FF94.1.-CEB0 FF95.FF95.1.-CEAF
  FF96.FF9B.1.-CEAE FF9C.FF9C.1.-CEAD FF9D.FF9D.1.-CEAA FF9E.FF9F.1.-CF05 FFA1.FFA2.1.-EEA1
  FFA3.FFA5.2.-EDF9 FFA4.FFA4.1.-EEA2 FFA6.FFA6.1.-EDF9 FFA7.FFA9.1.-EEA4 FFAA.FFAF.1.-EDFA
  FFB0.FFB0.1.-EE96 FFB1.FFB3.1.-EEAB FFB4.FFB4.1.-EE93 FFB5.FFBE.1.-EEAC FFC2.FFC7.1.-EE61
  FFCA.FFCF.1.-EE63 FFD2.FFD7.1.-EE65 FFDA.FFDC.1.-EE67 FFE0.FFE1.1.-FF3E FFE2.FFE2.1.-FF36
  FFE4.FFE4.1.-FF3E FFE5.FFE5.1.-FF40 FFE6.FFE6.1.-DF3D FFE8.FFE8.1.-DAE6 FFE9.FFEC.1.-DE59
  FFED.FFED.1.-DA4D FFEE.FFEE.1.-DA23 10400.10427.1.28 104B0.104D3.1.28 10570.10594.2.27
  10571.10579.2.27 1057D.10589.2.27 1058D.10591.2.27 10595.10595.1.27 10781.10782.1.-104B1
  10783.10783.1.-1069D 10784.10784.1.-104EB 10785.10785.1.-10532 10787.10789.2.-104E4
  10788.10788.1.-5C22 1078A.1078A.1.-104E6 1078B.1078C.1.-10535 1078D.1078D.1.-E9FC
  1078E.1078E.1.-10536 1078F.1078F.1.-10531 10790.10790.1.-104E7 10791.10791.1.-1052D
  10792.10792.1.-10530 10793.10793.1.-10533 10794.10794.1.-104F9 10795.10795.1.-1066E
  10796.10796.1.-104FA 10797.10797.1.-10530 10798.10798.1.-10514 10799.1079A.1.-104EF
  1079B.1079B.1.-1052F 1079C.1079C.1.D768 1079D.1079D.1.-600F 1079E.1079E.1.-10530
  1079F.1079F.1.D766 107A0.107A0.1.-10512 107A1.107A1.1.D765 107A2.107A2.1.-106AA
  107A3.107A4.1.-1052D 107A5.107A5.1.-10734 107A6.107A6.1.-1052C 107A7.107A7.1.D761
  107A8.107A9.1.-1052B 107AA.107AA.1.-1052A 107AB.107AB.1.-10503 107AC.107AC.1.-10506
  107AD.107AD.1.-5C46 107AE.107AE.1.-10507 107AF.107AF.1.-10527 107B0.107B0.1.-DB3F
  107B2.107B2.1.-10523 107B3.107B4.1.-10512 107B5.107B5.1.-1051D 107B6.107B8.1.-105F6
  107B9.107B9.1.D751 107BA.107BA.1.D764 10C80.10CB2.1.40 10D50.10D65.1.20 118A0.118BF.1.20
  16E40.16E5F.1.20 16EA0.16EB8.1.1B 1CCD6.1CCEF.1.-1CC75 1CCF0.1CCF9.1.-1CCC0
  1D400.1D419.1.-1D39F 1D41A.1D433.1.-1D3B9 1D434.1D44D.1.-1D3D3 1D44E.1D466.2.-1D3ED
  1D44F.1D453.2.-1D3ED 1D457.1D467.2.-1D3ED 1D468.1D481.1.-1D407 1D482.1D49B.1.-1D421
  1D49C.1D49E.2.-1D43B 1D49F.1D49F.1.-1D43B 1D4A2.1D4A2.1.-1D43B 1D4A5.1D4A6.1.-1D43B
  1D4A9.1D4AC.1.-1D43B 1D4AE.1D4B5.1.-1D43B 1D4B6.1D4B9.1.-1D455 1D4BB.1D4CF.2.-1D455
  1D4BE.1D4C2.2.-1D455 1D4C6.1D4CE.2.-1D455 1D4D0.1D4E9.1.-1D46F 1D4EA.1D503.1.-1D489
  1D504.1D505.1.-1D4A3 1D507.1D50A.1.-1D4A3 1D50D.1D514.1.-1D4A3 1D516.1D51C.1.-1D4A3
  1D51E.1D537.1.-1D4BD 1D538.1D539.1.-1D4D7 1D53B.1D53E.1.-1D4D7 1D540.1D544.1.-1D4D7
  1D546.1D546.1.-1D4D7 1D54A.1D550.1.-1D4D7 1D552.1D56B.1.-1D4F1 1D56C.1D585.1.-1D50B
  1D586.1D59F.1.-1D525 1D5A0.1D5B9.1.-1D53F 1D5BA.1D5D3.1.-1D559 1D5D4.1D5ED.1.-1D573
  1D5EE.1D607.1.-1D58D 1D608.1D621.1.-1D5A7 1D622.1D63B.1.-1D5C1 1D63C.1D655.1.-1D5DB
  1D656.1D66F.1.-1D5F5 1D670.1D689.1.-1D60F 1D68A.1D6A3.1.-1D629 1D6A4.1D6A4.1.-1D573
  1D6A5.1D6A5.1.-1D46E 1D6A8.1D6B8.1.-1D2F7 1D6B9.1D6B9.1.-1D301 1D6BA.1D6C0.1.-1D2F7
  1D6C1.1D6C1.1.-1B4BA 1D6C2.1D6D2.1.-1D311 1D6D3.1D6D3.1.-1D310 1D6D4.1D6DA.1.-1D311
  1D6DB.1D6DB.1.-1B4D9 1D6DC.1D6DC.1.-1D327 1D6DD.1D6DD.1.-1D325 1D6DE.1D6DE.1.-1D324
  1D6DF.1D6DF.1.-1D319 1D6E0.1D6E0.1.-1D31F 1D6E1.1D6E1.1.-1D321 1D6E2.1D6F2.1.-1D331
  1D6F3.1D6F3.1.-1D33B 1D6F4.1D6FA.1.-1D331 1D6FB.1D6FB.1.-1B4F4 1D6FC.1D70C.1.-1D34B
  1D70D.1D70D.1.-1D34A 1D70E.1D714.1.-1D34B 1D715.1D715.1.-1B513 1D716.1D716.1.-1D361
  1D717.1D717.1.-1D35F 1D718.1D718.1.-1D35E 1D719.1D719.1.-1D353 1D71A.1D71A.1.-1D359
  1D71B.1D71B.1.-1D35B 1D71C.1D72C.1.-1D36B 1D72D.1D72D.1.-1D375 1D72E.1D734.1.-1D36B
  1D735.1D735.1.-1B52E 1D736.1D746.1.-1D385 1D747.1D747.1.-1D384 1D748.1D74E.1.-1D385
  1D74F.1D74F.1.-1B54D 1D750.1D750.1.-1D39B 1D751.1D751.1.-1D399 1D752.1D752.1.-1D398
  1D753.1D753.1.-1D38D 1D754.1D754.1.-1D393 1D755.1D755.1.-1D395 1D756.1D766.1.-1D3A5
  1D767.1D767.1.-1D3AF 1D768.1D76E.1.-1D3A5 1D76F.1D76F.1.-1B568 1D770.1D780.1.-1D3BF
  1D781.1D781.1.-1D3BE 1D782.1D788.1.-1D3BF 1D789.1D789.1.-1B587 1D78A.1D78A.1.-1D3D5
  1D78B.1D78B.1.-1D3D3 1D78C.1D78C.1.-1D3D2 1D78D.1D78D.1.-1D3C7 1D78E.1D78E.1.-1D3CD
  1D78F.1D78F.1.-1D3CF 1D790.1D7A0.1.-1D3DF 1D7A1.1D7A1.1.-1D3E9 1D7A2.1D7A8.1.-1D3DF
  1D7A9.1D7A9.1.-1B5A2 1D7AA.1D7BA.1.-1D3F9 1D7BB.1D7BB.1.-1D3F8 1D7BC.1D7C2.1.-1D3F9
  1D7C3.1D7C3.1.-1B5C1 1D7C4.1D7C4.1.-1D40F 1D7C5.1D7C5.1.-1D40D 1D7C6.1D7C6.1.-1D40C
  1D7C7.1D7C7.1.-1D401 1D7C8.1D7C8.1.-1D407 1D7C9.1D7C9.1.-1D409 1D7CA.1D7CA.1.-1D3ED
  1D7CB.1D7CB.1.-1D3EE 1D7CE.1D7D7.1.-1D79E 1D7D8.1D7E1.1.-1D7A8 1D7E2.1D7EB.1.-1D7B2
  1D7EC.1D7F5.1.-1D7BC 1D7F6.1D7FF.1.-1D7C6 1E030.1E038.1.-1DC00 1E039.1E03B.1.-1DBFF
  1E03C.1E046.1.-1DBFE 1E047.1E047.1.-1DBFC 1E048.1E049.1.-1DBFB 1E04A.1E04A.1.-139C1
  1E04B.1E04B.1.-1DB72 1E04C.1E04C.1.-1DBF6 1E04D.1E04D.1.-1DBF5 1E04E.1E04E.1.-1DB65
  1E04F.1E04F.1.-1DBA0 1E050.1E050.1.-1DB81 1E051.1E059.1.-1DC21 1E05A.1E05B.1.-1DC20
  1E05C.1E05D.1.-1DC1E 1E05E.1E05E.1.-1DC1D 1E05F.1E064.1.-1DC1C 1E065.1E066.1.-1DC1B
  1E067.1E067.1.-1DBD6 1E068.1E068.1.-1DC12 1E069.1E069.1.-1DC14 1E06A.1E06A.1.-1DC0B
  1E06B.1E06B.1.-1DBC0 1E06C.1E06C.1.-13A1B 1E06D.1E06D.1.-1DBBC 1E900.1E921.1.22
  1EE00.1EE01.1.-1E7D9 1EE02.1EE02.1.-1E7D6 1EE03.1EE03.1.-1E7D4 1EE05.1EE05.1.-1E7BD
  1EE06.1EE06.1.-1E7D4 1EE07.1EE07.1.-1E7DA 1EE08.1EE08.1.-1E7D1 1EE09.1EE09.1.-1E7BF
  1EE0A.1EE0D.1.-1E7C7 1EE0E.1EE0E.1.-1E7DB 1EE0F.1EE0F.1.-1E7D6 1EE10.1EE10.1.-1E7CF
  1EE11.1EE11.1.-1E7DC 1EE12.1EE12.1.-1E7D0 1EE13.1EE13.1.-1E7E2 1EE14.1EE14.1.-1E7E0
  1EE15.1EE16.1.-1E7EB 1EE17.1EE17.1.-1E7E9 1EE18.1EE18.1.-1E7E8 1EE19.1EE19.1.-1E7E3
  1EE1A.1EE1A.1.-1E7E2 1EE1B.1EE1B.1.-1E7E1 1EE1C.1EE1C.1.-1E7AE 1EE1D.1EE1D.1.-1E763
  1EE1E.1EE1E.1.-1E77D 1EE1F.1EE1F.1.-1E7B0 1EE21.1EE21.1.-1E7F9 1EE22.1EE22.1.-1E7F6
  1EE24.1EE24.1.-1E7DD 1EE27.1EE27.1.-1E7FA 1EE29.1EE29.1.-1E7DF 1EE2A.1EE2D.1.-1E7E7
  1EE2E.1EE2E.1.-1E7FB 1EE2F.1EE2F.1.-1E7F6 1EE30.1EE30.1.-1E7EF 1EE31.1EE31.1.-1E7FC
  1EE32.1EE32.1.-1E7F0 1EE34.1EE34.1.-1E800 1EE35.1EE36.1.-1E80B 1EE37.1EE37.1.-1E809
  1EE39.1EE39.1.-1E803 1EE3B.1EE3B.1.-1E801 1EE42.1EE42.1.-1E816 1EE47.1EE47.1.-1E81A
  1EE49.1EE49.1.-1E7FF 1EE4B.1EE4D.2.-1E807 1EE4E.1EE4E.1.-1E81B 1EE4F.1EE4F.1.-1E816
  1EE51.1EE51.1.-1E81C 1EE52.1EE52.1.-1E810 1EE54.1EE54.1.-1E820 1EE57.1EE57.1.-1E829
  1EE59.1EE59.1.-1E823 1EE5B.1EE5B.1.-1E821 1EE5D.1EE5D.1.-1E7A3 1EE5F.1EE5F.1.-1E7F0
  1EE61.1EE61.1.-1E839 1EE62.1EE62.1.-1E836 1EE64.1EE64.1.-1E81D 1EE67.1EE67.1.-1E83A
  1EE68.1EE68.1.-1E831 1EE69.1EE69.1.-1E81F 1EE6A.1EE6C.2.-1E827 1EE6D.1EE6D.1.-1E827
  1EE6E.1EE6E.1.-1E83B 1EE6F.1EE6F.1.-1E836 1EE70.1EE70.1.-1E82F 1EE71.1EE71.1.-1E83C
  1EE72.1EE72.1.-1E830 1EE74.1EE74.1.-1E840 1EE75.1EE76.1.-1E84B 1EE77.1EE77.1.-1E849
  1EE79.1EE79.1.-1E843 1EE7A.1EE7A.1.-1E842 1EE7B.1EE7B.1.-1E841 1EE7C.1EE7C.1.-1E80E
  1EE7E.1EE7E.1.-1E7DD 1EE80.1EE81.1.-1E859 1EE82.1EE82.1.-1E856 1EE83.1EE83.1.-1E854
  1EE84.1EE85.1.-1E83D 1EE86.1EE86.1.-1E854 1EE87.1EE87.1.-1E85A 1EE88.1EE88.1.-1E851
  1EE89.1EE89.1.-1E83F 1EE8B.1EE8D.1.-1E847 1EE8E.1EE8E.1.-1E85B 1EE8F.1EE8F.1.-1E856
  1EE90.1EE90.1.-1E84F 1EE91.1EE91.1.-1E85C 1EE92.1EE92.1.-1E850 1EE93.1EE93.1.-1E862
  1EE94.1EE94.1.-1E860 1EE95.1EE96.1.-1E86B 1EE97.1EE97.1.-1E869 1EE98.1EE98.1.-1E868
  1EE99.1EE99.1.-1E863 1EE9A.1EE9A.1.-1E862 1EE9B.1EE9B.1.-1E861 1EEA1.1EEA1.1.-1E879
  1EEA2.1EEA2.1.-1E876 1EEA3.1EEA3.1.-1E874 1EEA5.1EEA5.1.-1E85D 1EEA6.1EEA6.1.-1E874
  1EEA7.1EEA7.1.-1E87A 1EEA8.1EEA8.1.-1E871 1EEA9.1EEA9.1.-1E85F 1EEAB.1EEAD.1.-1E867
  1EEAE.1EEAE.1.-1E87B 1EEAF.1EEAF.1.-1E876 1EEB0.1EEB0.1.-1E86F 1EEB1.1EEB1.1.-1E87C
  1EEB2.1EEB2.1.-1E870 1EEB3.1EEB3.1.-1E882 1EEB4.1EEB4.1.-1E880 1EEB5.1EEB6.1.-1E88B
  1EEB7.1EEB7.1.-1E889 1EEB8.1EEB8.1.-1E888 1EEB9.1EEB9.1.-1E883 1EEBA.1EEBA.1.-1E882
  1EEBB.1EEBB.1.-1E881 1F12B.1F12B.1.-1F0C8 1F12C.1F12C.1.-1F0BA 1F130.1F149.1.-1F0CF
  1F202.1F202.1.-1C14D 1F210.1F210.1.-18FC5 1F211.1F211.1.-196BA 1F212.1F212.1.-19E46
  1F213.1F213.1.-1C14C 1F214.1F214.1.-1A388 1F215.1F215.1.-198FB 1F216.1F216.1.-16833
  1F217.1F217.1.-198EE 1F218.1F218.1.-1A374 1F219.1F219.1.-18BF9 1F21A.1F21A.1.-180F9
  1F21B.1F21B.1.-18C82 1F21C.1F21C.1.-19FCF 1F21D.1F21D.1.-19291 1F21E.1F21E.1.-1A091
  1F21F.1F21F.1.-18C6F 1F220.1F220.1.-1A003 1F221.1F221.1.-174DF 1F222.1F222.1.-17D03
  1F223.1F223.1.-1657A 1F224.1F224.1.-19934 1F225.1F225.1.-19DEC 1F226.1F226.1.-18312
  1F227.1F227.1.-18F92 1F228.1F228.1.-18ED3 1F229.1F229.1.-1A429 1F22A.1F22A.1.-1A421
  1F22B.1F22B.1.-161E1 1F22C.1F22C.1.-19446 1F22D.1F22D.1.-1A400 1F22E.1F22E.1.-19E3B
  1F22F.1F22F.1.-18F28 1F230.1F230.1.-164C0 1F231.1F231.1.-18FDE 1F232.1F232.1.-178B1
  1F233.1F233.1.-177B9 1F234.1F234.1.-19E2C 1F235.1F235.1.-183B5 1F236.1F236.1.-18B2D
  1F237.1F237.1.-18B2F 1F238.1F238.1.-17D05 1F239.1F239.1.-19FC7 1F23A.1F23A.1.-19C84
  1F23B.1F23B.1.-160EE 1F250.1F250.1.-192B9 1F251.1F251.1.-19E62 1FBF0.1FBF9.1.-1FBC0
  2F800.2F800.1.-2A9C3 2F801.2F801.1.-2A9C9 2F802.2F802.1.-2A9C1 2F803.2F803.1.-F6E1
  2F804.2F804.1.-2A8A4 2F805.2F805.1.-2A857 2F806.2F806.1.-2A84B 2F807.2F807.1.-2A805
  2F808.2F808.1.-2A78E 2F809.2F809.1.-2A770 2F80A.2F80A.1.-2A723 2F80B.2F80B.1.-2A73C
  2F80C.2F80C.1.-2C36E 2F80D.2F80D.1.-F1D3 2F80E.2F80E.1.-2A6C1 2F80F.2F80F.1.-2A6BB
  2F810.2F810.1.-2A6AC 2F811.2F811.1.-2A69A 2F812.2F812.1.-F2F6 2F813.2F813.1.-2C35A
  2F814.2F814.1.-2A6AD 2F815.2F815.1.-2A688 2F816.2F816.1.-F2CB 2F817.2F817.1.-2A680
  2F818.2F818.1.-2A674 2F819.2F819.1.-2A94D 2F81A.2F81A.1.-2A66E 2F81B.2F81B.1.-2A666
  2F81C.2F81C.1.-663D 2F81D.2F81D.1.-2A628 2F81E.2F81E.1.-2A61B 2F81F.2F81F.1.-2C340
  2F820.2F820.1.-2A5E5 2F821.2F821.1.-2A5DB 2F822.2F822.1.-2A5B0 2F823.2F823.1.-2A5AC
  2F824.2F824.1.-2C30F 2F825.2F825.1.-2A55E 2F826.2F826.1.-2A55D 2F827.2F827.1.-2A543
  2F828.2F828.1.-2A52E 2F829.2F82A.1.-2A524 2F82B.2F82B.1.-2A514 2F82C.2F82C.1.-2A4E3
  2F82D.2F82D.1.-2A4DC 2F82E.2F82E.1.-2A4D4 2F82F.2F82F.1.-2A4BC 2F830.2F832.2.-2A4B3
  2F831.2F831.1.-2A4B2 2F833.2F833.1.-2A4B4 2F834.2F834.1.-EE08 2F835.2F835.1.-287C5
  2F836.2F836.1.-2A46C 2F837.2F837.1.-2A458 2F838.2F838.1.-ECD5 2F839.2F839.1.-2A44E
  2F83A.2F83A.1.-2A449 2F83B.2F83B.1.-2A435 2F83C.2F83C.1.-2A39E 2F83D.2F83D.1.-2A405
  2F83E.2F83E.1.-2A3F6 2F83F.2F83F.1.-2A3D7 2F840.2F840.1.-2A39E 2F841.2F841.1.-2A34B
  2F842.2F842.1.-2A332 2F843.2F843.1.-2A2F0 2F844.2F844.1.-2A2E1 2F845.2F845.1.-2A2C1
  2F846.2F846.1.-2A2C2 2F847.2F847.1.-2A2AE 2F848.2F848.1.-2A29D 2F849.2F849.1.-2A296
  2F84A.2F84A.1.-2A288 2F84B.2F84B.1.-2A135 2F84C.2F84C.1.-2A246 2F84D.2F84D.1.-2A136
  2F84E.2F84E.1.-2A1FD 2F84F.2F84F.1.-2A1DB 2F850.2F850.1.-2A649 2F851.2F851.1.-29F63
  2F852.2F852.1.-2A084 2F853.2F853.1.-2A05F 2F854.2F854.1.-2A047 2F855.2F855.1.-2A0CA
  2F856.2F856.1.-2A024 2F857.2F857.1.-2A026 2F858.2F858.1.-29FAC 2F859.2F859.1.-E375
  2F85A.2F85A.1.-29F68 2F85B.2F85B.1.-29F64 2F85C.2F85C.1.-29F56 2F85D.2F85D.1.-29F43
  2F85E.2F85E.1.-29F3C 2F85F.2F85F.1.-29EFD 2F860.2F860.1.-E1B8 2F861.2F861.1.-E177
  2F862.2F862.1.-29E76 2F863.2F863.1.-29E48 2F864.2F864.1.-29E3D 2F865.2F865.1.-29E8D
  2F866.2F866.1.-29E00 2F867.2F867.1.-2C179 2F868.2F868.1.-2C16C 2F869.2F869.1.-29D61
  2F86A.2F86A.1.-29D2C 2F86B.2F86B.1.-29D2D 2F86C.2F86C.1.-DEA4 2F86D.2F86D.1.-29CAA
  2F86E.2F86E.1.-29C96 2F86F.2F86F.1.-29C88 2F870.2F870.1.-29C7D 2F871.2F871.1.-DD59
  2F872.2F872.1.-29C73 2F873.2F873.1.-29C6D 2F874.2F874.1.-29921 2F875.2F875.1.-29C53
  2F876.2F876.1.-2C0F5 2F877.2F877.1.-29C17 2F878.2F878.1.-29C0A 2F879.2F879.1.-29BB9
  2F87A.2F87A.1.-29BED 2F87B.2F87D.2.-DA97 2F87C.2F87C.1.-29B39 2F87E.2F87E.1.-29B10
  2F87F.2F87F.1.-29B14 2F880.2F880.1.-29B04 2F881.2F882.1.-29AA0 2F883.2F883.1.-2C054
  2F884.2F884.1.-29A87 2F885.2F885.1.-29A5D 2F886.2F886.1.-29A49 2F887.2F887.1.-29A1E
  2F888.2F888.1.-2C026 2F889.2F889.1.-D706 2F88A.2F88A.1.-2C00E 2F88B.2F88B.1.-299DB
  2F88C.2F88C.1.-299D9 2F88D.2F88D.1.-299D7 2F88E.2F88E.1.-299C4 2F88F.2F88F.1.-54FD
  2F890.2F890.1.-29992 2F891.2F891.1.-D560 2F892.2F892.1.-D561 2F893.2F893.1.-27692
  2F894.2F894.1.-29972 2F895.2F895.1.-29973 2F896.2F896.1.-2BFCF 2F897.2F897.1.-C5DF
  2F898.2F898.1.-96BE 2F899.2F899.1.-29937 2F89A.2F89A.1.-2992F 2F89B.2F89B.1.-2BFB8
  2F89C.2F89C.1.-29902 2F89D.2F89D.1.-298D0 2F89E.2F89E.1.-298C7 2F89F.2F89F.1.-298A6
  2F8A0.2F8A0.1.-2981F 2F8A1.2F8A1.1.-2BF67 2F8A2.2F8A2.1.-2BF86 2F8A3.2F8A3.1.-2980F
  2F8A4.2F8A4.1.-D1D0 2F8A5.2F8A5.1.-297DE 2F8A6.2F8A6.1.-2975E 2F8A7.2F8A7.1.-2975B
  2F8A8.2F8A8.1.-2975A 2F8A9.2F8A9.1.-2975D 2F8AA.2F8AA.1.-29730 2F8AB.2F8AB.1.-2971D
  2F8AC.2F8AC.1.-296FA 2F8AD.2F8AD.1.-29709 2F8AE.2F8AE.1.-296FF 2F8AF.2F8AF.1.-296D1
  2F8B0.2F8B0.1.-296BE 2F8B1.2F8B1.1.-296BB 2F8B2.2F8B2.1.-296A2 2F8B3.2F8B3.1.-29698
  2F8B4.2F8B4.1.-29657 2F8B5.2F8B5.1.-29604 2F8B6.2F8B6.1.-295E2 2F8B7.2F8B7.1.-29567
  2F8B8.2F8B8.1.-CDAC 2F8B9.2F8B9.1.-2957C 2F8BA.2F8BA.1.-295BE 2F8BB.2F8BB.1.-29553
  2F8BC.2F8BC.1.-29539 2F8BD.2F8BD.1.-294D9 2F8BE.2F8BE.1.-CCCD 2F8BF.2F8BF.1.-2949D
  2F8C0.2F8C0.1.-294FB 2F8C1.2F8C1.1.-29518 2F8C2.2F8C2.1.-2BE94 2F8C3.2F8C3.1.-2945A
  2F8C4.2F8C4.1.-29446 2F8C5.2F8C5.1.-29428 2F8C6.2F8C6.1.-2944F 2F8C7.2F8C7.1.-2BE5B
  2F8C8.2F8C8.1.-29379 2F8C9.2F8C9.1.-2935D 2F8CA.2F8CA.1.-C8C0 2F8CB.2F8CB.1.-292E8
  2F8CC.2F8CC.1.-291D4 2F8CD.2F8CD.1.-29284 2F8CE.2F8CE.1.-2BDB5 2F8CF.2F8CF.1.-2923E
  2F8D0.2F8D0.1.-2BDC8 2F8D1.2F8D1.1.-2BDED 2F8D2.2F8D2.1.-2A740 2F8D3.2F8D3.1.-2A73E
  2F8D4.2F8D4.1.-291D4 2F8D5.2F8D5.1.-29239 2F8D6.2F8D6.1.-27829 2F8D7.2F8D7.1.-2B4FE
  2F8D8.2F8D8.1.-291C1 2F8D9.2F8D9.1.-291BE 2F8DA.2F8DA.1.-291B9 2F8DB.2F8DB.1.-2917D
  2F8DC.2F8DC.1.-29189 2F8DD.2F8DD.1.-C51A 2F8DE.2F8DE.1.-2BD95 2F8DF.2F8DF.1.-290E5
  2F8E0.2F8E0.1.-2915B 2F8E1.2F8E1.1.-2908F 2F8E2.2F8E2.1.-2905D 2F8E3.2F8E3.1.-C476
  2F8E4.2F8E4.1.-29056 2F8E5.2F8E5.1.-290C6 2F8E6.2F8E6.1.-28FD2 2F8E7.2F8E7.1.-2BD4A
  2F8E8.2F8E8.1.-28FA6 2F8E9.2F8E9.1.-28F46 2F8EA.2F8EA.1.-28F00 2F8EB.2F8EB.1.-28E43
  2F8EC.2F8EC.1.-C249 2F8ED.2F8ED.1.-28E12 2F8EE.2F8EE.1.-2BCD6 2F8EF.2F8EF.1.-28DCE
  2F8F0.2F8F0.1.-C049 2F8F1.2F8F1.1.-28D9D 2F8F2.2F8F2.1.-2BCA4 2F8F3.2F8F3.1.-28D81
  2F8F4.2F8F4.1.-28D55 2F8F5.2F8F6.1.-28D3B 2F8F7.2F8F7.1.-BE6A 2F8F8.2F8F8.1.-DBED
  2F8F9.2F8F9.1.-BDFF 2F8FA.2F8FA.1.-28CAC 2F8FB.2F8FB.1.-BC3F 2F8FC.2F8FC.1.-28C3D
  2F8FD.2F8FD.1.-28C30 2F8FE.2F8FE.1.-28C97 2F8FF.2F8FF.1.-28BE9 2F900.2F900.1.-28BC2
  2F901.2F901.1.-28B8A 2F902.2F902.1.-28BC1 2F903.2F903.1.-28B9A 2F904.2F904.1.-28B8C
  2F905.2F905.1.-28B80 2F906.2F906.1.-BBE8 2F907.2F907.1.-28BD3 2F908.2F908.1.-28AD9
  2F909.2F909.1.-28A9B 2F90A.2F90A.1.-2BBD7 2F90B.2F90B.1.-28A40 2F90C.2F90C.1.-28A45
  2F90D.2F90D.1.-BA3C 2F90E.2F90E.1.-28B15 2F90F.2F90F.1.-289A1 2F910.2F910.1.-B9B2
  2F911.2F911.1.-B983 2F912.2F912.1.-2894C 2F913.2F913.1.-288DA 2F914.2F914.1.-288F6
  2F915.2F915.1.-288FA 2F916.2F916.1.-2BB80 2F917.2F917.1.-288CD 2F918.2F918.1.-2889B
  2F919.2F919.1.-288A2 2F91A.2F91A.1.-2886D 2F91B.2F91B.1.-F3F6 2F91C.2F91C.1.-287D7
  2F91D.2F91D.1.-B6BA 2F91E.2F91E.1.-28782 2F91F.2F91F.1.-B574 2F920.2F920.1.-286F8
  2F921.2F921.1.-286EC 2F922.2F922.1.-286D2 2F923.2F923.1.-B31B 2F924.2F924.1.-286A4
  2F925.2F925.1.-28690 2F926.2F926.1.-B1F1 2F927.2F927.1.-B113 2F928.2F928.1.-285AE
  2F929.2F929.1.-2859E 2F92A.2F92A.1.-2BA7E 2F92B.2F92B.1.-28586 2F92C.2F92C.1.-2BA74
  2F92D.2F92D.1.-2BA75 2F92E.2F92E.1.-284E7 2F92F.2F92F.1.-284D3 2F930.2F930.1.-284BF
  2F931.2F931.1.-284AC 2F932.2F932.1.-28468 2F933.2F933.1.-2BA18 2F934.2F934.1.-28410
  2F935.2F935.1.-ACFF 2F936.2F936.1.-283F8 2F937.2F937.1.-ACA5 2F938.2F938.1.-283C8
  2F939.2F939.1.-D79A 2F93A.2F93A.1.-2832A 2F93B.2F93B.1.-A99A 2F93C.2F93C.1.-A984
  2F93D.2F93D.1.-A8F9 2F93E.2F93E.1.-2B942 2F93F.2F93F.1.-2B937 2F940.2F940.1.-2824C
  2F941.2F941.1.-A84E 2F942.2F942.1.-A850 2F943.2F943.1.-A82A 2F944.2F944.1.-A811
  2F945.2F946.1.-28227 2F947.2F947.1.-28228 2F948.2F948.1.-281FE 2F949.2F949.1.-2B910
  2F94A.2F94A.1.-281BF 2F94B.2F94B.1.-2B905 2F94C.2F94C.1.-2B8B6 2F94D.2F94D.1.-A530
  2F94E.2F94E.1.-28100 2F94F.2F94F.1.-280C3 2F950.2F950.1.-28084 2F951.2F951.1.-2B86E
  2F952.2F952.1.-A32C 2F953.2F953.1.-27FFD 2F954.2F954.1.-A2BA 2F955.2F955.1.-A290
  2F956.2F956.1.-27FC7 2F957.2F957.1.-27F6C 2F958.2F958.1.-2B829 2F959.2F959.1.-27F19
  2F95A.2F95A.1.-27F10 2F95B.2F95B.1.-27F0C 2F95C.2F95C.1.-9FE0 2F95D.2F95D.1.-9EB6
  2F95E.2F95E.1.-9EB7 2F95F.2F95F.1.-27E71 2F960.2F960.1.-2B75E 2F961.2F961.1.-9DB6
  2F962.2F962.1.-27D9C 2F963.2F963.1.-27D9A 2F964.2F964.1.-2B73D 2F965.2F965.1.-9CE5
  2F966.2F966.1.-27C94 2F967.2F967.1.-2B6C7 2F968.2F968.1.-27C80 2F969.2F969.1.-27C86
  2F96A.2F96A.1.-27C6A 2F96B.2F96B.1.-99E5 2F96C.2F96C.1.-27C09 2F96D.2F96D.1.-2B66C
  2F96E.2F96E.1.-27BA7 2F96F.2F96F.1.-27B6D 2F970.2F970.1.-27B2B 2F971.2F971.1.-2B63D
  2F972.2F972.1.-974A 2F973.2F973.1.-972C 2F974.2F974.1.-2B61B 2F975.2F975.1.-969C
  2F976.2F976.1.-279FC 2F977.2F977.1.-9639 2F978.2F978.1.-279E3 2F979.2F979.1.-2797F
  2F97A.2F97A.1.-27975 2F97B.2F97B.1.-94A1 2F97C.2F97C.1.-9459 2F97D.2F97D.1.-2791D
  2F97E.2F97E.1.-93D6 2F97F.2F97F.1.-2790F 2F980.2F980.1.-C621 2F981.2F981.1.-2B5AC
  2F982.2F982.1.-278D0 2F983.2F983.1.-27880 2F984.2F984.1.-2B579 2F985.2F985.1.-27847
  2F986.2F986.1.-29ED1 2F987.2F987.1.-91E0 2F988.2F988.1.-91D3 2F989.2F989.1.-C5F6
  2F98A.2F98A.1.-C5EE 2F98B.2F98B.1.-2778A 2F98C.2F98C.1.-27788 2F98D.2F98D.1.-269EF
  2F98E.2F98E.1.-2B523 2F98F.2F98F.1.-276FE 2F990.2F990.1.-27705 2F991.2F991.1.-276F4
  2F992.2F992.1.-2A6DF 2F993.2F993.1.-276E2 2F994.2F994.1.-276E1 2F995.2F995.1.-276D8
  2F996.2F996.1.-276B0 2F997.2F997.1.-8E5B 2F998.2F998.1.-276B3 2F999.2F999.1.-2767C
  2F99A.2F99A.1.-27637 2F99B.2F99B.1.-275EE 2F99C.2F99C.1.-27679 2F99D.2F99D.1.-275E0
  2F99E.2F99E.1.-275B7 2F99F.2F99F.1.-27548 2F9A0.2F9A0.1.-2764D 2F9A1.2F9A1.1.-275D7
  2F9A2.2F9A2.1.-275D6 2F9A3.2F9A3.1.-275C7 2F9A4.2F9A4.1.-8D6E 2F9A5.2F9A5.1.-8C3A
  2F9A6.2F9A6.1.-8CD1 2F9A7.2F9A7.1.-2B47C 2F9A8.2F9A8.1.-274B7 2F9A9.2F9A9.1.-274B6
  2F9AA.2F9AA.1.-27494 2F9AB.2F9AB.1.-85E1 2F9AC.2F9AC.1.-27448 2F9AD.2F9AD.1.-8A81
  2F9AE.2F9AE.1.-2B451 2F9AF.2F9AF.1.-2B44E 2F9B0.2F9B0.1.-89FF 2F9B1.2F9B1.1.-88DF
  2F9B2.2F9B2.1.-2B447 2F9B3.2F9B3.1.-27363 2F9B4.2F9B4.1.-27358 2F9B5.2F9B5.1.-2734E
  2F9B6.2F9B6.1.-2734D 2F9B7.2F9B7.1.-2730E 2F9B8.2F9B8.1.-27330 2F9B9.2F9B9.1.-272AB
  2F9BA.2F9BA.1.-272D8 2F9BB.2F9BB.1.-27242 2F9BC.2F9BC.1.-27294 2F9BD.2F9BD.1.-27252
  2F9BE.2F9BE.1.-27238 2F9BF.2F9BF.1.-2B3E8 2F9C0.2F9C0.1.-271DF 2F9C1.2F9C1.1.-271C0
  2F9C2.2F9C2.1.-2B3C9 2F9C3.2F9C3.1.-27163 2F9C4.2F9C4.1.-27161 2F9C5.2F9C5.1.-835E
  2F9C6.2F9C6.1.-270EF 2F9C7.2F9C7.1.-270E9 2F9C8.2F9C8.1.-2B393 2F9C9.2F9C9.1.-270CF
  2F9CA.2F9CA.1.-2C50F 2F9CB.2F9CB.1.-811D 2F9CC.2F9CC.1.-8066 2F9CD.2F9CD.1.-2B30F
  2F9CE.2F9CE.1.-2B307 2F9CF.2F9CF.1.-26F2F 2F9D0.2F9D0.1.-26EE3 2F9D1.2F9D1.1.-26E47
  2F9D2.2F9D2.1.-26D7D 2F9D3.2F9D3.1.-7D2B 2F9D4.2F9D4.1.-26D29 2F9D5.2F9D5.1.-26D14
  2F9D6.2F9D6.1.-26CBB 2F9D7.2F9D7.1.-26C60 2F9D8.2F9D8.1.-7AA9 2F9D9.2F9D9.1.-F1D5
  2F9DA.2F9DA.1.-26C0F 2F9DB.2F9DB.1.-26C1F 2F9DC.2F9DC.1.-26BEC 2F9DD.2F9DD.1.-F0FF
  2F9DE.2F9DE.1.-26B0A 2F9DF.2F9DF.1.-26AA7 2F9E0.2F9E0.1.-740E 2F9E1.2F9E1.1.-73F4
  2F9E2.2F9E2.1.-2694E 2F9E3.2F9E3.1.-268F2 2F9E4.2F9E4.1.-268D3 2F9E5.2F9E5.1.-72B7
  2F9E6.2F9E6.1.-268CB 2F9E7.2F9E7.1.-267AF 2F9E8.2F9E9.1.-26711 2F9EA.2F9EA.1.-2676E
  2F9EB.2F9EB.1.-265F2 2F9EC.2F9EC.1.-265D7 2F9ED.2F9ED.1.-6DF3 2F9EE.2F9EE.1.-26463
  2F9EF.2F9EF.1.-2B05A 2F9F0.2F9F0.1.-26439 2F9F1.2F9F1.1.-6C7A 2F9F2.2F9F2.1.-2B00C
  2F9F3.2F9F3.1.-26330 2F9F4.2F9F4.1.-29C42 2F9F5.2F9F5.1.-262D2 2F9F6.2F9F6.1.-68B1
  2F9F7.2F9F7.1.-67DD 2F9F8.2F9F8.1.-2AF8A 2F9F9.2F9F9.1.-2AF83 2F9FA.2F9FA.1.-2621A
  2F9FB.2F9FB.1.-65F1 2F9FC.2F9FC.1.-2AF4A 2F9FD.2F9FD.1.-6567 2F9FE.2F9FE.1.-261F3
  2F9FF.2F9FF.1.-261F4 2FA00.2FA00.1.-261D7 2FA01.2FA01.1.-644B 2FA02.2FA02.1.-26120
  2FA03.2FA03.1.-2AED0 2FA04.2FA04.1.-260DB 2FA05.2FA05.1.-2605E 2FA06.2FA06.1.-26044
  2FA07.2FA07.1.-26009 2FA08.2FA08.1.-2AE3A 2FA09.2FA09.1.-5ED9 2FA0A.2FA0A.1.-25EF8
  2FA0B.2FA0B.1.-25DCB 2FA0C.2FA0C.1.-25D0F 2FA0D.2FA0D.1.-2AD3F 2FA0E.2FA0E.1.-2AD21
  2FA0F.2FA0F.1.-25CA8 2FA10.2FA10.1.-5942 2FA11.2FA11.1.-2AD19 2FA12.2FA12.1.-590D
  2FA13.2FA13.1.-5805 2FA14.2FA14.1.-5783 2FA15.2FA15.1.-25B5A 2FA16.2FA16.1.-2ACC0
  2FA17.2FA17.1.-25B1E 2FA18.2FA18.1.-25B1A 2FA19.2FA19.1.-25B14 2FA1A.2FA1A.1.-25B0B
  2FA1B.2FA1B.1.-25B05 2FA1C.2FA1C.1.-25AE1 2FA1D.2FA1D.1.-541D"

/-- Characters that are replaced by several. -/
def expansions : String := "
  A8.20.308 AF.20.304 B4.20.301 B8.20.327 BC.31.2044.34 BD.31.2044.32 BE.33.2044.34
  130.69.307 132.69.6A 133.69.6A 13F.6C.B7 140.6C.B7 149.2BC.6E 1C4.64.17E 1C5.64.17E
  1C6.64.17E 1C7.6C.6A 1C8.6C.6A 1C9.6C.6A 1CA.6E.6A 1CB.6E.6A 1CC.6E.6A 1F1.64.7A 1F2.64.7A
  1F3.64.7A 2D8.20.306 2D9.20.307 2DA.20.30A 2DB.20.328 2DC.20.303 2DD.20.30B 344.308.301
  37A.20.3B9 384.20.301 385.20.308.301 587.565.582 675.627.674 676.648.674 677.6C7.674
  678.64A.674 958.915.93C 959.916.93C 95A.917.93C 95B.91C.93C 95C.921.93C 95D.922.93C
  95E.92B.93C 95F.92F.93C 9DC.9A1.9BC 9DD.9A2.9BC 9DF.9AF.9BC A33.A32.A3C A36.A38.A3C
  A59.A16.A3C A5A.A17.A3C A5B.A1C.A3C A5E.A2B.A3C B5C.B21.B3C B5D.B22.B3C E33.E4D.E32
  EB3.ECD.EB2 EDC.EAB.E99 EDD.EAB.EA1 F43.F42.FB7 F4D.F4C.FB7 F52.F51.FB7 F57.F56.FB7
  F5C.F5B.FB7 F69.F40.FB5 F73.F71.F72 F75.F71.F74 F76.FB2.F80 F77.FB2.F71.F80 F78.FB3.F80
  F79.FB3.F71.F80 F81.F71.F80 F93.F92.FB7 F9D.F9C.FB7 FA2.FA1.FB7 FA7.FA6.FB7 FAC.FAB.FB7
  FB9.F90.FB5 1E9A.61.2BE 1F80.1F00.3B9 1F81.1F01.3B9 1F82.1F02.3B9 1F83.1F03.3B9
  1F84.1F04.3B9 1F85.1F05.3B9 1F86.1F06.3B9 1F87.1F07.3B9 1F88.1F00.3B9 1F89.1F01.3B9
  1F8A.1F02.3B9 1F8B.1F03.3B9 1F8C.1F04.3B9 1F8D.1F05.3B9 1F8E.1F06.3B9 1F8F.1F07.3B9
  1F90.1F20.3B9 1F91.1F21.3B9 1F92.1F22.3B9 1F93.1F23.3B9 1F94.1F24.3B9 1F95.1F25.3B9
  1F96.1F26.3B9 1F97.1F27.3B9 1F98.1F20.3B9 1F99.1F21.3B9 1F9A.1F22.3B9 1F9B.1F23.3B9
  1F9C.1F24.3B9 1F9D.1F25.3B9 1F9E.1F26.3B9 1F9F.1F27.3B9 1FA0.1F60.3B9 1FA1.1F61.3B9
  1FA2.1F62.3B9 1FA3.1F63.3B9 1FA4.1F64.3B9 1FA5.1F65.3B9 1FA6.1F66.3B9 1FA7.1F67.3B9
  1FA8.1F60.3B9 1FA9.1F61.3B9 1FAA.1F62.3B9 1FAB.1F63.3B9 1FAC.1F64.3B9 1FAD.1F65.3B9
  1FAE.1F66.3B9 1FAF.1F67.3B9 1FB2.1F70.3B9 1FB3.3B1.3B9 1FB4.3AC.3B9 1FB7.1FB6.3B9
  1FBC.3B1.3B9 1FBD.20.313 1FBF.20.313 1FC0.20.342 1FC1.20.308.342 1FC2.1F74.3B9 1FC3.3B7.3B9
  1FC4.3AE.3B9 1FC7.1FC6.3B9 1FCC.3B7.3B9 1FCD.20.313.300 1FCE.20.313.301 1FCF.20.313.342
  1FDD.20.314.300 1FDE.20.314.301 1FDF.20.314.342 1FED.20.308.300 1FEE.20.308.301
  1FF2.1F7C.3B9 1FF3.3C9.3B9 1FF4.3CE.3B9 1FF7.1FF6.3B9 1FFC.3C9.3B9 1FFD.20.301 1FFE.20.314
  2017.20.333 2033.2032.2032 2034.2032.2032.2032 2036.2035.2035 2037.2035.2035.2035
  203C.21.21 203E.20.305 2047.3F.3F 2048.3F.21 2049.21.3F 2057.2032.2032.2032.2032 20A8.72.73
  2100.61.2F.63 2101.61.2F.73 2103.B0.63 2105.63.2F.6F 2106.63.2F.75 2109.B0.66 2116.6E.6F
  2120.73.6D 2121.74.65.6C 2122.74.6D 213B.66.61.78 2150.31.2044.37 2151.31.2044.39
  2152.31.2044.31.30 2153.31.2044.33 2154.32.2044.33 2155.31.2044.35 2156.32.2044.35
  2157.33.2044.35 2158.34.2044.35 2159.31.2044.36 215A.35.2044.36 215B.31.2044.38
  215C.33.2044.38 215D.35.2044.38 215E.37.2044.38 215F.31.2044 2161.69.69 2162.69.69.69
  2163.69.76 2165.76.69 2166.76.69.69 2167.76.69.69.69 2168.69.78 216A.78.69 216B.78.69.69
  2171.69.69 2172.69.69.69 2173.69.76 2175.76.69 2176.76.69.69 2177.76.69.69.69 2178.69.78
  217A.78.69 217B.78.69.69 2189.30.2044.33 222C.222B.222B 222D.222B.222B.222B 222F.222E.222E
  2230.222E.222E.222E 2469.31.30 246A.31.31 246B.31.32 246C.31.33 246D.31.34 246E.31.35
  246F.31.36 2470.31.37 2471.31.38 2472.31.39 2473.32.30 2474.28.31.29 2475.28.32.29
  2476.28.33.29 2477.28.34.29 2478.28.35.29 2479.28.36.29 247A.28.37.29 247B.28.38.29
  247C.28.39.29 247D.28.31.30.29 247E.28.31.31.29 247F.28.31.32.29 2480.28.31.33.29
  2481.28.31.34.29 2482.28.31.35.29 2483.28.31.36.29 2484.28.31.37.29 2485.28.31.38.29
  2486.28.31.39.29 2487.28.32.30.29 249C.28.61.29 249D.28.62.29 249E.28.63.29 249F.28.64.29
  24A0.28.65.29 24A1.28.66.29 24A2.28.67.29 24A3.28.68.29 24A4.28.69.29 24A5.28.6A.29
  24A6.28.6B.29 24A7.28.6C.29 24A8.28.6D.29 24A9.28.6E.29 24AA.28.6F.29 24AB.28.70.29
  24AC.28.71.29 24AD.28.72.29 24AE.28.73.29 24AF.28.74.29 24B0.28.75.29 24B1.28.76.29
  24B2.28.77.29 24B3.28.78.29 24B4.28.79.29 24B5.28.7A.29 2A0C.222B.222B.222B.222B
  2A74.3A.3A.3D 2A75.3D.3D 2A76.3D.3D.3D 2ADC.2ADD.338 309B.20.3099 309C.20.309A
  309F.3088.308A 30FF.30B3.30C8 3200.28.1100.29 3201.28.1102.29 3202.28.1103.29
  3203.28.1105.29 3204.28.1106.29 3205.28.1107.29 3206.28.1109.29 3207.28.110B.29
  3208.28.110C.29 3209.28.110E.29 320A.28.110F.29 320B.28.1110.29 320C.28.1111.29
  320D.28.1112.29 320E.28.AC00.29 320F.28.B098.29 3210.28.B2E4.29 3211.28.B77C.29
  3212.28.B9C8.29 3213.28.BC14.29 3214.28.C0AC.29 3215.28.C544.29 3216.28.C790.29
  3217.28.CC28.29 3218.28.CE74.29 3219.28.D0C0.29 321A.28.D30C.29 321B.28.D558.29
  321C.28.C8FC.29 321D.28.C624.C804.29 321E.28.C624.D6C4.29 3220.28.4E00.29 3221.28.4E8C.29
  3222.28.4E09.29 3223.28.56DB.29 3224.28.4E94.29 3225.28.516D.29 3226.28.4E03.29
  3227.28.516B.29 3228.28.4E5D.29 3229.28.5341.29 322A.28.6708.29 322B.28.706B.29
  322C.28.6C34.29 322D.28.6728.29 322E.28.91D1.29 322F.28.571F.29 3230.28.65E5.29
  3231.28.682A.29 3232.28.6709.29 3233.28.793E.29 3234.28.540D.29 3235.28.7279.29
  3236.28.8CA1.29 3237.28.795D.29 3238.28.52B4.29 3239.28.4EE3.29 323A.28.547C.29
  323B.28.5B66.29 323C.28.76E3.29 323D.28.4F01.29 323E.28.8CC7.29 323F.28.5354.29
  3240.28.796D.29 3241.28.4F11.29 3242.28.81EA.29 3243.28.81F3.29 3250.70.74.65 3251.32.31
  3252.32.32 3253.32.33 3254.32.34 3255.32.35 3256.32.36 3257.32.37 3258.32.38 3259.32.39
  325A.33.30 325B.33.31 325C.33.32 325D.33.33 325E.33.34 325F.33.35 327C.CC38.ACE0
  327D.C8FC.C758 32B1.33.36 32B2.33.37 32B3.33.38 32B4.33.39 32B5.34.30 32B6.34.31 32B7.34.32
  32B8.34.33 32B9.34.34 32BA.34.35 32BB.34.36 32BC.34.37 32BD.34.38 32BE.34.39 32BF.35.30
  32C0.31.6708 32C1.32.6708 32C2.33.6708 32C3.34.6708 32C4.35.6708 32C5.36.6708 32C6.37.6708
  32C7.38.6708 32C8.39.6708 32C9.31.30.6708 32CA.31.31.6708 32CB.31.32.6708 32CC.68.67
  32CD.65.72.67 32CE.65.76 32CF.6C.74.64 32FF.4EE4.548C 3300.30A2.30D1.30FC.30C8
  3301.30A2.30EB.30D5.30A1 3302.30A2.30F3.30DA.30A2 3303.30A2.30FC.30EB
  3304.30A4.30CB.30F3.30B0 3305.30A4.30F3.30C1 3306.30A6.30A9.30F3
  3307.30A8.30B9.30AF.30FC.30C9 3308.30A8.30FC.30AB.30FC 3309.30AA.30F3.30B9
  330A.30AA.30FC.30E0 330B.30AB.30A4.30EA 330C.30AB.30E9.30C3.30C8 330D.30AB.30ED.30EA.30FC
  330E.30AC.30ED.30F3 330F.30AC.30F3.30DE 3310.30AE.30AC 3311.30AE.30CB.30FC
  3312.30AD.30E5.30EA.30FC 3313.30AE.30EB.30C0.30FC 3314.30AD.30ED
  3315.30AD.30ED.30B0.30E9.30E0 3316.30AD.30ED.30E1.30FC.30C8.30EB
  3317.30AD.30ED.30EF.30C3.30C8 3318.30B0.30E9.30E0 3319.30B0.30E9.30E0.30C8.30F3
  331A.30AF.30EB.30BC.30A4.30ED 331B.30AF.30ED.30FC.30CD 331C.30B1.30FC.30B9
  331D.30B3.30EB.30CA 331E.30B3.30FC.30DD 331F.30B5.30A4.30AF.30EB
  3320.30B5.30F3.30C1.30FC.30E0 3321.30B7.30EA.30F3.30B0 3322.30BB.30F3.30C1
  3323.30BB.30F3.30C8 3324.30C0.30FC.30B9 3325.30C7.30B7 3326.30C9.30EB 3327.30C8.30F3
  3328.30CA.30CE 3329.30CE.30C3.30C8 332A.30CF.30A4.30C4 332B.30D1.30FC.30BB.30F3.30C8
  332C.30D1.30FC.30C4 332D.30D0.30FC.30EC.30EB 332E.30D4.30A2.30B9.30C8.30EB
  332F.30D4.30AF.30EB 3330.30D4.30B3 3331.30D3.30EB 3332.30D5.30A1.30E9.30C3.30C9
  3333.30D5.30A3.30FC.30C8 3334.30D6.30C3.30B7.30A7.30EB 3335.30D5.30E9.30F3
  3336.30D8.30AF.30BF.30FC.30EB 3337.30DA.30BD 3338.30DA.30CB.30D2 3339.30D8.30EB.30C4
  333A.30DA.30F3.30B9 333B.30DA.30FC.30B8 333C.30D9.30FC.30BF 333D.30DD.30A4.30F3.30C8
  333E.30DC.30EB.30C8 333F.30DB.30F3 3340.30DD.30F3.30C9 3341.30DB.30FC.30EB
  3342.30DB.30FC.30F3 3343.30DE.30A4.30AF.30ED 3344.30DE.30A4.30EB 3345.30DE.30C3.30CF
  3346.30DE.30EB.30AF 3347.30DE.30F3.30B7.30E7.30F3 3348.30DF.30AF.30ED.30F3 3349.30DF.30EA
  334A.30DF.30EA.30D0.30FC.30EB 334B.30E1.30AC 334C.30E1.30AC.30C8.30F3
  334D.30E1.30FC.30C8.30EB 334E.30E4.30FC.30C9 334F.30E4.30FC.30EB 3350.30E6.30A2.30F3
  3351.30EA.30C3.30C8.30EB 3352.30EA.30E9 3353.30EB.30D4.30FC 3354.30EB.30FC.30D6.30EB
  3355.30EC.30E0 3356.30EC.30F3.30C8.30B2.30F3 3357.30EF.30C3.30C8 3358.30.70B9 3359.31.70B9
  335A.32.70B9 335B.33.70B9 335C.34.70B9 335D.35.70B9 335E.36.70B9 335F.37.70B9 3360.38.70B9
  3361.39.70B9 3362.31.30.70B9 3363.31.31.70B9 3364.31.32.70B9 3365.31.33.70B9
  3366.31.34.70B9 3367.31.35.70B9 3368.31.36.70B9 3369.31.37.70B9 336A.31.38.70B9
  336B.31.39.70B9 336C.32.30.70B9 336D.32.31.70B9 336E.32.32.70B9 336F.32.33.70B9
  3370.32.34.70B9 3371.68.70.61 3372.64.61 3373.61.75 3374.62.61.72 3375.6F.76 3376.70.63
  3377.64.6D 3378.64.6D.32 3379.64.6D.33 337A.69.75 337B.5E73.6210 337C.662D.548C
  337D.5927.6B63 337E.660E.6CBB 337F.682A.5F0F.4F1A.793E 3380.70.61 3381.6E.61 3382.3BC.61
  3383.6D.61 3384.6B.61 3385.6B.62 3386.6D.62 3387.67.62 3388.63.61.6C 3389.6B.63.61.6C
  338A.70.66 338B.6E.66 338C.3BC.66 338D.3BC.67 338E.6D.67 338F.6B.67 3390.68.7A
  3391.6B.68.7A 3392.6D.68.7A 3393.67.68.7A 3394.74.68.7A 3395.3BC.6C 3396.6D.6C 3397.64.6C
  3398.6B.6C 3399.66.6D 339A.6E.6D 339B.3BC.6D 339C.6D.6D 339D.63.6D 339E.6B.6D 339F.6D.6D.32
  33A0.63.6D.32 33A1.6D.32 33A2.6B.6D.32 33A3.6D.6D.33 33A4.63.6D.33 33A5.6D.33 33A6.6B.6D.33
  33A7.6D.2215.73 33A8.6D.2215.73.32 33A9.70.61 33AA.6B.70.61 33AB.6D.70.61 33AC.67.70.61
  33AD.72.61.64 33AE.72.61.64.2215.73 33AF.72.61.64.2215.73.32 33B0.70.73 33B1.6E.73
  33B2.3BC.73 33B3.6D.73 33B4.70.76 33B5.6E.76 33B6.3BC.76 33B7.6D.76 33B8.6B.76 33B9.6D.76
  33BA.70.77 33BB.6E.77 33BC.3BC.77 33BD.6D.77 33BE.6B.77 33BF.6D.77 33C0.6B.3C9 33C1.6D.3C9
  33C3.62.71 33C4.63.63 33C5.63.64 33C6.63.2215.6B.67 33C8.64.62 33C9.67.79 33CA.68.61
  33CB.68.70 33CC.69.6E 33CD.6B.6B 33CE.6B.6D 33CF.6B.74 33D0.6C.6D 33D1.6C.6E 33D2.6C.6F.67
  33D3.6C.78 33D4.6D.62 33D5.6D.69.6C 33D6.6D.6F.6C 33D7.70.68 33D9.70.70.6D 33DA.70.72
  33DB.73.72 33DC.73.76 33DD.77.62 33DE.76.2215.6D 33DF.61.2215.6D 33E0.31.65E5 33E1.32.65E5
  33E2.33.65E5 33E3.34.65E5 33E4.35.65E5 33E5.36.65E5 33E6.37.65E5 33E7.38.65E5 33E8.39.65E5
  33E9.31.30.65E5 33EA.31.31.65E5 33EB.31.32.65E5 33EC.31.33.65E5 33ED.31.34.65E5
  33EE.31.35.65E5 33EF.31.36.65E5 33F0.31.37.65E5 33F1.31.38.65E5 33F2.31.39.65E5
  33F3.32.30.65E5 33F4.32.31.65E5 33F5.32.32.65E5 33F6.32.33.65E5 33F7.32.34.65E5
  33F8.32.35.65E5 33F9.32.36.65E5 33FA.32.37.65E5 33FB.32.38.65E5 33FC.32.39.65E5
  33FD.33.30.65E5 33FE.33.31.65E5 33FF.67.61.6C FB00.66.66 FB01.66.69 FB02.66.6C
  FB03.66.66.69 FB04.66.66.6C FB05.73.74 FB06.73.74 FB13.574.576 FB14.574.565 FB15.574.56B
  FB16.57E.576 FB17.574.56D FB1D.5D9.5B4 FB1F.5F2.5B7 FB2A.5E9.5C1 FB2B.5E9.5C2
  FB2C.5E9.5BC.5C1 FB2D.5E9.5BC.5C2 FB2E.5D0.5B7 FB2F.5D0.5B8 FB30.5D0.5BC FB31.5D1.5BC
  FB32.5D2.5BC FB33.5D3.5BC FB34.5D4.5BC FB35.5D5.5BC FB36.5D6.5BC FB38.5D8.5BC FB39.5D9.5BC
  FB3A.5DA.5BC FB3B.5DB.5BC FB3C.5DC.5BC FB3E.5DE.5BC FB40.5E0.5BC FB41.5E1.5BC FB43.5E3.5BC
  FB44.5E4.5BC FB46.5E6.5BC FB47.5E7.5BC FB48.5E8.5BC FB49.5E9.5BC FB4A.5EA.5BC FB4B.5D5.5B9
  FB4C.5D1.5BF FB4D.5DB.5BF FB4E.5E4.5BF FB4F.5D0.5DC FBDD.6C7.674 FBEA.626.627 FBEB.626.627
  FBEC.626.6D5 FBED.626.6D5 FBEE.626.648 FBEF.626.648 FBF0.626.6C7 FBF1.626.6C7 FBF2.626.6C6
  FBF3.626.6C6 FBF4.626.6C8 FBF5.626.6C8 FBF6.626.6D0 FBF7.626.6D0 FBF8.626.6D0 FBF9.626.649
  FBFA.626.649 FBFB.626.649 FC00.626.62C FC01.626.62D FC02.626.645 FC03.626.649 FC04.626.64A
  FC05.628.62C FC06.628.62D FC07.628.62E FC08.628.645 FC09.628.649 FC0A.628.64A FC0B.62A.62C
  FC0C.62A.62D FC0D.62A.62E FC0E.62A.645 FC0F.62A.649 FC10.62A.64A FC11.62B.62C FC12.62B.645
  FC13.62B.649 FC14.62B.64A FC15.62C.62D FC16.62C.645 FC17.62D.62C FC18.62D.645 FC19.62E.62C
  FC1A.62E.62D FC1B.62E.645 FC1C.633.62C FC1D.633.62D FC1E.633.62E FC1F.633.645 FC20.635.62D
  FC21.635.645 FC22.636.62C FC23.636.62D FC24.636.62E FC25.636.645 FC26.637.62D FC27.637.645
  FC28.638.645 FC29.639.62C FC2A.639.645 FC2B.63A.62C FC2C.63A.645 FC2D.641.62C FC2E.641.62D
  FC2F.641.62E FC30.641.645 FC31.641.649 FC32.641.64A FC33.642.62D FC34.642.645 FC35.642.649
  FC36.642.64A FC37.643.627 FC38.643.62C FC39.643.62D FC3A.643.62E FC3B.643.644 FC3C.643.645
  FC3D.643.649 FC3E.643.64A FC3F.644.62C FC40.644.62D FC41.644.62E FC42.644.645 FC43.644.649
  FC44.644.64A FC45.645.62C FC46.645.62D FC47.645.62E FC48.645.645 FC49.645.649 FC4A.645.64A
  FC4B.646.62C FC4C.646.62D FC4D.646.62E FC4E.646.645 FC4F.646.649 FC50.646.64A FC51.647.62C
  FC52.647.645 FC53.647.649 FC54.647.64A FC55.64A.62C FC56.64A.62D FC57.64A.62E FC58.64A.645
  FC59.64A.649 FC5A.64A.64A FC5B.630.670 FC5C.631.670 FC5D.649.670 FC5E.20.64C.651
  FC5F.20.64D.651 FC60.20.64E.651 FC61.20.64F.651 FC62.20.650.651 FC63.20.651.670
  FC64.626.631 FC65.626.632 FC66.626.645 FC67.626.646 FC68.626.649 FC69.626.64A FC6A.628.631
  FC6B.628.632 FC6C.628.645 FC6D.628.646 FC6E.628.649 FC6F.628.64A FC70.62A.631 FC71.62A.632
  FC72.62A.645 FC73.62A.646 FC74.62A.649 FC75.62A.64A FC76.62B.631 FC77.62B.632 FC78.62B.645
  FC79.62B.646 FC7A.62B.649 FC7B.62B.64A FC7C.641.649 FC7D.641.64A FC7E.642.649 FC7F.642.64A
  FC80.643.627 FC81.643.644 FC82.643.645 FC83.643.649 FC84.643.64A FC85.644.645 FC86.644.649
  FC87.644.64A FC88.645.627 FC89.645.645 FC8A.646.631 FC8B.646.632 FC8C.646.645 FC8D.646.646
  FC8E.646.649 FC8F.646.64A FC90.649.670 FC91.64A.631 FC92.64A.632 FC93.64A.645 FC94.64A.646
  FC95.64A.649 FC96.64A.64A FC97.626.62C FC98.626.62D FC99.626.62E FC9A.626.645 FC9B.626.647
  FC9C.628.62C FC9D.628.62D FC9E.628.62E FC9F.628.645 FCA0.628.647 FCA1.62A.62C FCA2.62A.62D
  FCA3.62A.62E FCA4.62A.645 FCA5.62A.647 FCA6.62B.645 FCA7.62C.62D FCA8.62C.645 FCA9.62D.62C
  FCAA.62D.645 FCAB.62E.62C FCAC.62E.645 FCAD.633.62C FCAE.633.62D FCAF.633.62E FCB0.633.645
  FCB1.635.62D FCB2.635.62E FCB3.635.645 FCB4.636.62C FCB5.636.62D FCB6.636.62E FCB7.636.645
  FCB8.637.62D FCB9.638.645 FCBA.639.62C FCBB.639.645 FCBC.63A.62C FCBD.63A.645 FCBE.641.62C
  FCBF.641.62D FCC0.641.62E FCC1.641.645 FCC2.642.62D FCC3.642.645 FCC4.643.62C FCC5.643.62D
  FCC6.643.62E FCC7.643.644 FCC8.643.645 FCC9.644.62C FCCA.644.62D FCCB.644.62E FCCC.644.645
  FCCD.644.647 FCCE.645.62C FCCF.645.62D FCD0.645.62E FCD1.645.645 FCD2.646.62C FCD3.646.62D
  FCD4.646.62E FCD5.646.645 FCD6.646.647 FCD7.647.62C FCD8.647.645 FCD9.647.670 FCDA.64A.62C
  FCDB.64A.62D FCDC.64A.62E FCDD.64A.645 FCDE.64A.647 FCDF.626.645 FCE0.626.647 FCE1.628.645
  FCE2.628.647 FCE3.62A.645 FCE4.62A.647 FCE5.62B.645 FCE6.62B.647 FCE7.633.645 FCE8.633.647
  FCE9.634.645 FCEA.634.647 FCEB.643.644 FCEC.643.645 FCED.644.645 FCEE.646.645 FCEF.646.647
  FCF0.64A.645 FCF1.64A.647 FCF2.640.64E.651 FCF3.640.64F.651 FCF4.640.650.651 FCF5.637.649
  FCF6.637.64A FCF7.639.649 FCF8.639.64A FCF9.63A.649 FCFA.63A.64A FCFB.633.649 FCFC.633.64A
  FCFD.634.649 FCFE.634.64A FCFF.62D.649 FD00.62D.64A FD01.62C.649 FD02.62C.64A FD03.62E.649
  FD04.62E.64A FD05.635.649 FD06.635.64A FD07.636.649 FD08.636.64A FD09.634.62C FD0A.634.62D
  FD0B.634.62E FD0C.634.645 FD0D.634.631 FD0E.633.631 FD0F.635.631 FD10.636.631 FD11.637.649
  FD12.637.64A FD13.639.649 FD14.639.64A FD15.63A.649 FD16.63A.64A FD17.633.649 FD18.633.64A
  FD19.634.649 FD1A.634.64A FD1B.62D.649 FD1C.62D.64A FD1D.62C.649 FD1E.62C.64A FD1F.62E.649
  FD20.62E.64A FD21.635.649 FD22.635.64A FD23.636.649 FD24.636.64A FD25.634.62C FD26.634.62D
  FD27.634.62E FD28.634.645 FD29.634.631 FD2A.633.631 FD2B.635.631 FD2C.636.631 FD2D.634.62C
  FD2E.634.62D FD2F.634.62E FD30.634.645 FD31.633.647 FD32.634.647 FD33.637.645 FD34.633.62C
  FD35.633.62D FD36.633.62E FD37.634.62C FD38.634.62D FD39.634.62E FD3A.637.645 FD3B.638.645
  FD3C.627.64B FD3D.627.64B FD50.62A.62C.645 FD51.62A.62D.62C FD52.62A.62D.62C
  FD53.62A.62D.645 FD54.62A.62E.645 FD55.62A.645.62C FD56.62A.645.62D FD57.62A.645.62E
  FD58.62C.645.62D FD59.62C.645.62D FD5A.62D.645.64A FD5B.62D.645.649 FD5C.633.62D.62C
  FD5D.633.62C.62D FD5E.633.62C.649 FD5F.633.645.62D FD60.633.645.62D FD61.633.645.62C
  FD62.633.645.645 FD63.633.645.645 FD64.635.62D.62D FD65.635.62D.62D FD66.635.645.645
  FD67.634.62D.645 FD68.634.62D.645 FD69.634.62C.64A FD6A.634.645.62E FD6B.634.645.62E
  FD6C.634.645.645 FD6D.634.645.645 FD6E.636.62D.649 FD6F.636.62E.645 FD70.636.62E.645
  FD71.637.645.62D FD72.637.645.62D FD73.637.645.645 FD74.637.645.64A FD75.639.62C.645
  FD76.639.645.645 FD77.639.645.645 FD78.639.645.649 FD79.63A.645.645 FD7A.63A.645.64A
  FD7B.63A.645.649 FD7C.641.62E.645 FD7D.641.62E.645 FD7E.642.645.62D FD7F.642.645.645
  FD80.644.62D.645 FD81.644.62D.64A FD82.644.62D.649 FD83.644.62C.62C FD84.644.62C.62C
  FD85.644.62E.645 FD86.644.62E.645 FD87.644.645.62D FD88.644.645.62D FD89.645.62D.62C
  FD8A.645.62D.645 FD8B.645.62D.64A FD8C.645.62C.62D FD8D.645.62C.645 FD8E.645.62E.62C
  FD8F.645.62E.645 FD92.645.62C.62E FD93.647.645.62C FD94.647.645.645 FD95.646.62D.645
  FD96.646.62D.649 FD97.646.62C.645 FD98.646.62C.645 FD99.646.62C.649 FD9A.646.645.64A
  FD9B.646.645.649 FD9C.64A.645.645 FD9D.64A.645.645 FD9E.628.62E.64A FD9F.62A.62C.64A
  FDA0.62A.62C.649 FDA1.62A.62E.64A FDA2.62A.62E.649 FDA3.62A.645.64A FDA4.62A.645.649
  FDA5.62C.645.64A FDA6.62C.62D.649 FDA7.62C.645.649 FDA8.633.62E.649 FDA9.635.62D.64A
  FDAA.634.62D.64A FDAB.636.62D.64A FDAC.644.62C.64A FDAD.644.645.64A FDAE.64A.62D.64A
  FDAF.64A.62C.64A FDB0.64A.645.64A FDB1.645.645.64A FDB2.642.645.64A FDB3.646.62D.64A
  FDB4.642.645.62D FDB5.644.62D.645 FDB6.639.645.64A FDB7.643.645.64A FDB8.646.62C.62D
  FDB9.645.62E.64A FDBA.644.62C.645 FDBB.643.645.645 FDBC.644.62C.645 FDBD.646.62C.62D
  FDBE.62C.62D.64A FDBF.62D.62C.64A FDC0.645.62C.64A FDC1.641.645.64A FDC2.628.62D.64A
  FDC3.643.645.645 FDC4.639.62C.645 FDC5.635.645.645 FDC6.633.62E.64A FDC7.646.62C.64A
  FDF0.635.644.6D2 FDF1.642.644.6D2 FDF2.627.644.644.647 FDF3.627.643.628.631
  FDF4.645.62D.645.62F FDF5.635.644.639.645 FDF6.631.633.648.644 FDF7.639.644.64A.647
  FDF8.648.633.644.645 FDF9.635.644.649
  FDFA.635.644.649.20.627.644.644.647.20.639.644.64A.647.20.648.633.644.645
  FDFB.62C.644.20.62C.644.627.644.647 FDFC.631.6CC.627.644 FE49.20.305 FE4A.20.305
  FE4B.20.305 FE4C.20.305 FE70.20.64B FE71.640.64B FE72.20.64C FE74.20.64D FE76.20.64E
  FE77.640.64E FE78.20.64F FE79.640.64F FE7A.20.650 FE7B.640.650 FE7C.20.651 FE7D.640.651
  FE7E.20.652 FE7F.640.652 FEF5.644.622 FEF6.644.622 FEF7.644.623 FEF8.644.623 FEF9.644.625
  FEFA.644.625 FEFB.644.627 FEFC.644.627 FFE3.20.304 1D15E.1D157.1D165 1D15F.1D158.1D165
  1D160.1D158.1D165.1D16E 1D161.1D158.1D165.1D16F 1D162.1D158.1D165.1D170
  1D163.1D158.1D165.1D171 1D164.1D158.1D165.1D172 1D1BB.1D1B9.1D165 1D1BC.1D1BA.1D165
  1D1BD.1D1B9.1D165.1D16E 1D1BE.1D1BA.1D165.1D16E 1D1BF.1D1B9.1D165.1D16F
  1D1C0.1D1BA.1D165.1D16F 1F101.30.2C 1F102.31.2C 1F103.32.2C 1F104.33.2C 1F105.34.2C
  1F106.35.2C 1F107.36.2C 1F108.37.2C 1F109.38.2C 1F10A.39.2C 1F110.28.61.29 1F111.28.62.29
  1F112.28.63.29 1F113.28.64.29 1F114.28.65.29 1F115.28.66.29 1F116.28.67.29 1F117.28.68.29
  1F118.28.69.29 1F119.28.6A.29 1F11A.28.6B.29 1F11B.28.6C.29 1F11C.28.6D.29 1F11D.28.6E.29
  1F11E.28.6F.29 1F11F.28.70.29 1F120.28.71.29 1F121.28.72.29 1F122.28.73.29 1F123.28.74.29
  1F124.28.75.29 1F125.28.76.29 1F126.28.77.29 1F127.28.78.29 1F128.28.79.29 1F129.28.7A.29
  1F12A.3014.73.3015 1F12D.63.64 1F12E.77.7A 1F14A.68.76 1F14B.6D.76 1F14C.73.64 1F14D.73.73
  1F14E.70.70.76 1F14F.77.63 1F16A.6D.63 1F16B.6D.64 1F16C.6D.72 1F190.64.6A 1F200.307B.304B
  1F201.30B3.30B3 1F240.3014.672C.3015 1F241.3014.4E09.3015 1F242.3014.4E8C.3015
  1F243.3014.5B89.3015 1F244.3014.70B9.3015 1F245.3014.6253.3015 1F246.3014.76D7.3015
  1F247.3014.52DD.3015 1F248.3014.6557.3015"

/-- Ranges of characters that are dropped. -/
def ignored : String := "
  AD.AD 34F.34F 115F.1160 17B4.17B5 180B.180F 200B.200B 2060.2064 206A.206F 3164.3164
  FE00.FE0F FEFF.FEFF FFA0.FFA0 1BCA0.1BCA3 1D173.1D17A E0100.E01EF"

/-- Ranges of characters that no domain name may hold. -/
def disallowed : String := "
  80.9F 378.379 380.383 38B.38B 38D.38D 3A2.3A2 530.530 557.558 58B.58C 590.590 5C8.5CF
  5EB.5EE 5F5.605 61C.61C 6DD.6DD 70E.70F 74B.74C 7B2.7BF 7FB.7FC 82E.82F 83F.83F 85C.85D
  85F.85F 86B.86F 890.896 8E2.8E2 984.984 98D.98E 991.992 9A9.9A9 9B1.9B1 9B3.9B5 9BA.9BB
  9C5.9C6 9C9.9CA 9CF.9D6 9D8.9DB 9DE.9DE 9E4.9E5 9FF.A00 A04.A04 A0B.A0E A11.A12 A29.A29
  A31.A31 A34.A34 A37.A37 A3A.A3B A3D.A3D A43.A46 A49.A4A A4E.A50 A52.A58 A5D.A5D A5F.A65
  A77.A80 A84.A84 A8E.A8E A92.A92 AA9.AA9 AB1.AB1 AB4.AB4 ABA.ABB AC6.AC6 ACA.ACA ACE.ACF
  AD1.ADF AE4.AE5 AF2.AF8 B00.B00 B04.B04 B0D.B0E B11.B12 B29.B29 B31.B31 B34.B34 B3A.B3B
  B45.B46 B49.B4A B4E.B54 B58.B5B B5E.B5E B64.B65 B78.B81 B84.B84 B8B.B8D B91.B91 B96.B98
  B9B.B9B B9D.B9D BA0.BA2 BA5.BA7 BAB.BAD BBA.BBD BC3.BC5 BC9.BC9 BCE.BCF BD1.BD6 BD8.BE5
  BFB.BFF C0D.C0D C11.C11 C29.C29 C3A.C3B C45.C45 C49.C49 C4E.C54 C57.C57 C5B.C5B C5E.C5F
  C64.C65 C70.C76 C8D.C8D C91.C91 CA9.CA9 CB4.CB4 CBA.CBB CC5.CC5 CC9.CC9 CCE.CD4 CD7.CDB
  CDF.CDF CE4.CE5 CF0.CF0 CF4.CFF D0D.D0D D11.D11 D45.D45 D49.D49 D50.D53 D64.D65 D80.D80
  D84.D84 D97.D99 DB2.DB2 DBC.DBC DBE.DBF DC7.DC9 DCB.DCE DD5.DD5 DD7.DD7 DE0.DE5 DF0.DF1
  DF5.E00 E3B.E3E E5C.E80 E83.E83 E85.E85 E8B.E8B EA4.EA4 EA6.EA6 EBE.EBF EC5.EC5 EC7.EC7
  ECF.ECF EDA.EDB EE0.EFF F48.F48 F6D.F70 F98.F98 FBD.FBD FCD.FCD FDB.FFF 10C6.10C6 10C8.10CC
  10CE.10CF 1249.1249 124E.124F 1257.1257 1259.1259 125E.125F 1289.1289 128E.128F 12B1.12B1
  12B6.12B7 12BF.12BF 12C1.12C1 12C6.12C7 12D7.12D7 1311.1311 1316.1317 135B.135C 137D.137F
  139A.139F 13F6.13F7 13FE.13FF 1680.1680 169D.169F 16F9.16FF 1716.171E 1737.173F 1754.175F
  176D.176D 1771.1771 1774.177F 17DE.17DF 17EA.17EF 17FA.17FF 181A.181F 1879.187F 18AB.18AF
  18F6.18FF 191F.191F 192C.192F 193C.193F 1941.1943 196E.196F 1975.197F 19AC.19AF 19CA.19CF
  19DB.19DD 1A1C.1A1D 1A5F.1A5F 1A7D.1A7E 1A8A.1A8F 1A9A.1A9F 1AAE.1AAF 1ADE.1ADF 1AEC.1AFF
  1B4D.1B4D 1BF4.1BFB 1C38.1C3A 1C4A.1C4C 1C8B.1C8F 1CBB.1CBC 1CC8.1CCF 1CFB.1CFF 1F16.1F17
  1F1E.1F1F 1F46.1F47 1F4E.1F4F 1F58.1F58 1F5A.1F5A 1F5C.1F5C 1F5E.1F5E 1F7E.1F7F 1FB5.1FB5
  1FC5.1FC5 1FD4.1FD5 1FDC.1FDC 1FF0.1FF1 1FF5.1FF5 1FFF.1FFF 200E.200F 2024.2026 2028.202E
  2065.2069 2072.2073 208F.208F 209D.209F 20C2.20CF 20F1.20FF 218C.218F 242A.243F 244B.245F
  2488.249B 2B74.2B75 2CF4.2CF8 2D26.2D26 2D28.2D2C 2D2E.2D2F 2D68.2D6E 2D71.2D7E 2D97.2D9F
  2DA7.2DA7 2DAF.2DAF 2DB7.2DB7 2DBF.2DBF 2DC7.2DC7 2DCF.2DCF 2DD7.2DD7 2DDF.2DDF 2E5E.2E7F
  2E9A.2E9A 2EF4.2EFF 2FD6.2FFF 3040.3040 3097.3098 3100.3104 3130.3130 318F.318F 31E6.31EF
  321F.321F 33C2.33C2 33C7.33C7 33D8.33D8 A48D.A48F A4C7.A4CF A62C.A63F A6F8.A6FF A7DD.A7F0
  A82D.A82F A83A.A83F A878.A87F A8C6.A8CD A8DA.A8DF A954.A95E A97D.A97F A9CE.A9CE A9DA.A9DD
  A9FF.A9FF AA37.AA3F AA4E.AA4F AA5A.AA5B AAC3.AADA AAF7.AB00 AB07.AB08 AB0F.AB10 AB17.AB1F
  AB27.AB27 AB2F.AB2F AB6C.AB6F ABEE.ABEF ABFA.ABFF D7A4.D7AF D7C7.D7CA D7FC.F8FF FA6E.FA6F
  FADA.FAFF FB07.FB12 FB18.FB1C FB37.FB37 FB3D.FB3D FB3F.FB3F FB42.FB42 FB45.FB45 FDD0.FDEF
  FE12.FE12 FE19.FE1F FE30.FE30 FE52.FE53 FE67.FE67 FE6C.FE6F FE75.FE75 FEFD.FEFE FF00.FF00
  FFBF.FFC1 FFC8.FFC9 FFD0.FFD1 FFD8.FFD9 FFDD.FFDF FFE7.FFE7 FFEF.FFFF 1000C.1000C
  10027.10027 1003B.1003B 1003E.1003E 1004E.1004F 1005E.1007F 100FB.100FF 10103.10106
  10134.10136 1018F.1018F 1019D.1019F 101A1.101CF 101FE.1027F 1029D.1029F 102D1.102DF
  102FC.102FF 10324.1032C 1034B.1034F 1037B.1037F 1039E.1039E 103C4.103C7 103D6.103FF
  1049E.1049F 104AA.104AF 104D4.104D7 104FC.104FF 10528.1052F 10564.1056E 1057B.1057B
  1058B.1058B 10593.10593 10596.10596 105A2.105A2 105B2.105B2 105BA.105BA 105BD.105BF
  105F4.105FF 10737.1073F 10756.1075F 10768.1077F 10786.10786 107B1.107B1 107BB.107FF
  10806.10807 10809.10809 10836.10836 10839.1083B 1083D.1083E 10856.10856 1089F.108A6
  108B0.108DF 108F3.108F3 108F6.108FA 1091C.1091E 1093A.1093E 1095A.1097F 109B8.109BB
  109D0.109D1 10A04.10A04 10A07.10A0B 10A14.10A14 10A18.10A18 10A36.10A37 10A3B.10A3E
  10A49.10A4F 10A59.10A5F 10AA0.10ABF 10AE7.10AEA 10AF7.10AFF 10B36.10B38 10B56.10B57
  10B73.10B77 10B92.10B98 10B9D.10BA8 10BB0.10BFF 10C49.10C7F 10CB3.10CBF 10CF3.10CF9
  10D28.10D2F 10D3A.10D3F 10D66.10D68 10D86.10D8D 10D90.10E5F 10E7F.10E7F 10EAA.10EAA
  10EAE.10EAF 10EB2.10EC1 10EC8.10ECF 10ED9.10EF9 10F28.10F2F 10F5A.10F6F 10F8A.10FAF
  10FCC.10FDF 10FF7.10FFF 1104E.11051 11076.1107E 110BD.110BD 110C3.110CF 110E9.110EF
  110FA.110FF 11135.11135 11148.1114F 11177.1117F 111E0.111E0 111F5.111FF 11212.11212
  11242.1127F 11287.11287 11289.11289 1128E.1128E 1129E.1129E 112AA.112AF 112EB.112EF
  112FA.112FF 11304.11304 1130D.1130E 11311.11312 11329.11329 11331.11331 11334.11334
  1133A.1133A 11345.11346 11349.1134A 1134E.1134F 11351.11356 11358.1135C 11364.11365
  1136D.1136F 11375.1137F 1138A.1138A 1138C.1138D 1138F.1138F 113B6.113B6 113C1.113C1
  113C3.113C4 113C6.113C6 113CB.113CB 113D6.113D6 113D9.113E0 113E3.113FF 1145C.1145C
  11462.1147F 114C8.114CF 114DA.1157F 115B6.115B7 115DE.115FF 11645.1164F 1165A.1165F
  1166D.1167F 116BA.116BF 116CA.116CF 116E4.116FF 1171B.1171C 1172C.1172F 11747.117FF
  1183C.1189F 118F3.118FE 11907.11908 1190A.1190B 11914.11914 11917.11917 11936.11936
  11939.1193A 11947.1194F 1195A.1199F 119A8.119A9 119D8.119D9 119E5.119FF 11A48.11A4F
  11AA3.11AAF 11AF9.11AFF 11B0A.11B5F 11B68.11BBF 11BE2.11BEF 11BFA.11BFF 11C09.11C09
  11C37.11C37 11C46.11C4F 11C6D.11C6F 11C90.11C91 11CA8.11CA8 11CB7.11CFF 11D07.11D07
  11D0A.11D0A 11D37.11D39 11D3B.11D3B 11D3E.11D3E 11D48.11D4F 11D5A.11D5F 11D66.11D66
  11D69.11D69 11D8F.11D8F 11D92.11D92 11D99.11D9F 11DAA.11DAF 11DDC.11DDF 11DEA.11EDF
  11EF9.11EFF 11F11.11F11 11F3B.11F3D 11F5B.11FAF 11FB1.11FBF 11FF2.11FFE 1239A.123FF
  1246F.1246F 12475.1247F 12544.12F8F 12FF3.12FFF 13430.1343F 13456.1345F 143FB.143FF
  14647.160FF 1613A.167FF 16A39.16A3F 16A5F.16A5F 16A6A.16A6D 16ABF.16ABF 16ACA.16ACF
  16AEE.16AEF 16AF6.16AFF 16B46.16B4F 16B5A.16B5A 16B62.16B62 16B78.16B7C 16B90.16D3F
  16D7A.16E3F 16E9B.16E9F 16EB9.16EBA 16ED4.16EFF 16F4B.16F4E 16F88.16F8E 16FA0.16FDF
  16FE5.16FEF 16FF7.16FFF 18CD6.18CFE 18D1F.18D7F 18DF3.1AFEF 1AFF4.1AFF4 1AFFC.1AFFC
  1AFFF.1AFFF 1B123.1B131 1B133.1B14F 1B153.1B154 1B156.1B163 1B168.1B16F 1B2FC.1BBFF
  1BC6B.1BC6F 1BC7D.1BC7F 1BC89.1BC8F 1BC9A.1BC9B 1BCA4.1CBFF 1CCFD.1CCFF 1CEB4.1CEB9
  1CED1.1CEDF 1CEF1.1CEFF 1CF2E.1CF2F 1CF47.1CF4F 1CFC4.1CFFF 1D0F6.1D0FF 1D127.1D128
  1D1EB.1D1FF 1D246.1D2BF 1D2D4.1D2DF 1D2F4.1D2FF 1D357.1D35F 1D379.1D3FF 1D455.1D455
  1D49D.1D49D 1D4A0.1D4A1 1D4A3.1D4A4 1D4A7.1D4A8 1D4AD.1D4AD 1D4BA.1D4BA 1D4BC.1D4BC
  1D4C4.1D4C4 1D506.1D506 1D50B.1D50C 1D515.1D515 1D51D.1D51D 1D53A.1D53A 1D53F.1D53F
  1D545.1D545 1D547.1D549 1D551.1D551 1D6A6.1D6A7 1D7CC.1D7CD 1DA8C.1DA9A 1DAA0.1DAA0
  1DAB0.1DEFF 1DF1F.1DF24 1DF2B.1DFFF 1E007.1E007 1E019.1E01A 1E022.1E022 1E025.1E025
  1E02B.1E02F 1E06E.1E08E 1E090.1E0FF 1E12D.1E12F 1E13E.1E13F 1E14A.1E14D 1E150.1E28F
  1E2AF.1E2BF 1E2FA.1E2FE 1E300.1E4CF 1E4FA.1E5CF 1E5FB.1E5FE 1E600.1E6BF 1E6DF.1E6DF
  1E6F6.1E6FD 1E700.1E7DF 1E7E7.1E7E7 1E7EC.1E7EC 1E7EF.1E7EF 1E7FF.1E7FF 1E8C5.1E8C6
  1E8D7.1E8FF 1E94C.1E94F 1E95A.1E95D 1E960.1EC70 1ECB5.1ED00 1ED3E.1EDFF 1EE04.1EE04
  1EE20.1EE20 1EE23.1EE23 1EE25.1EE26 1EE28.1EE28 1EE33.1EE33 1EE38.1EE38 1EE3A.1EE3A
  1EE3C.1EE41 1EE43.1EE46 1EE48.1EE48 1EE4A.1EE4A 1EE4C.1EE4C 1EE50.1EE50 1EE53.1EE53
  1EE55.1EE56 1EE58.1EE58 1EE5A.1EE5A 1EE5C.1EE5C 1EE5E.1EE5E 1EE60.1EE60 1EE63.1EE63
  1EE65.1EE66 1EE6B.1EE6B 1EE73.1EE73 1EE78.1EE78 1EE7D.1EE7D 1EE7F.1EE7F 1EE8A.1EE8A
  1EE9C.1EEA0 1EEA4.1EEA4 1EEAA.1EEAA 1EEBC.1EEEF 1EEF2.1EFFF 1F02C.1F02F 1F094.1F09F
  1F0AF.1F0B0 1F0C0.1F0C0 1F0D0.1F0D0 1F0F6.1F100 1F1AE.1F1E5 1F203.1F20F 1F23C.1F23F
  1F249.1F24F 1F252.1F25F 1F266.1F2FF 1F6D9.1F6DB 1F6ED.1F6EF 1F6FD.1F6FF 1F7DA.1F7DF
  1F7EC.1F7EF 1F7F1.1F7FF 1F80C.1F80F 1F848.1F84F 1F85A.1F85F 1F888.1F88F 1F8AE.1F8AF
  1F8BC.1F8BF 1F8C2.1F8CF 1F8D9.1F8FF 1FA58.1FA5F 1FA6E.1FA6F 1FA7D.1FA7F 1FA8B.1FA8D
  1FAC7.1FAC7 1FAC9.1FACC 1FADD.1FADE 1FAEB.1FAEE 1FAF9.1FAFF 1FB93.1FB93 1FBFB.1FFFF
  2A6E0.2A6FF 2B81E.2B81F 2CEAE.2CEAF 2EBE1.2EBEF 2EE5E.2F7FF 2FA1E.2FFFF 3134B.3134F
  3347A.E00FF E01F0.10FFFF"

/-- Ranges of combining marks, with which no label begins. -/
def marks : String := "
  300.36F 483.489 591.5BD 5BF.5BF 5C1.5C2 5C4.5C5 5C7.5C7 610.61A 64B.65F 670.670 6D6.6DC
  6DF.6E4 6E7.6E8 6EA.6ED 711.711 730.74A 7A6.7B0 7EB.7F3 7FD.7FD 816.819 81B.823 825.827
  829.82D 859.85B 898.89F 8CA.8E1 8E3.903 93A.93C 93E.94F 951.957 962.963 981.983 9BC.9BC
  9BE.9C4 9C7.9C8 9CB.9CD 9D7.9D7 9E2.9E3 9FE.9FE A01.A03 A3C.A3C A3E.A42 A47.A48 A4B.A4D
  A51.A51 A70.A71 A75.A75 A81.A83 ABC.ABC ABE.AC5 AC7.AC9 ACB.ACD AE2.AE3 AFA.AFF B01.B03
  B3C.B3C B3E.B44 B47.B48 B4B.B4D B55.B57 B62.B63 B82.B82 BBE.BC2 BC6.BC8 BCA.BCD BD7.BD7
  C00.C04 C3C.C3C C3E.C44 C46.C48 C4A.C4D C55.C56 C62.C63 C81.C83 CBC.CBC CBE.CC4 CC6.CC8
  CCA.CCD CD5.CD6 CE2.CE3 D00.D03 D3B.D3C D3E.D44 D46.D48 D4A.D4D D57.D57 D62.D63 D81.D83
  DCA.DCA DCF.DD4 DD6.DD6 DD8.DDF DF2.DF3 E31.E31 E34.E3A E47.E4E EB1.EB1 EB4.EBC EC8.ECD
  F18.F19 F35.F35 F37.F37 F39.F39 F3E.F3F F71.F84 F86.F87 F8D.F97 F99.FBC FC6.FC6 102B.103E
  1056.1059 105E.1060 1062.1064 1067.106D 1071.1074 1082.108D 108F.108F 109A.109D 135D.135F
  1712.1715 1732.1734 1752.1753 1772.1773 17B4.17D3 17DD.17DD 180B.180D 180F.180F 1885.1886
  18A9.18A9 1920.192B 1930.193B 1A17.1A1B 1A55.1A5E 1A60.1A7C 1A7F.1A7F 1AB0.1ACE 1B00.1B04
  1B34.1B44 1B6B.1B73 1B80.1B82 1BA1.1BAD 1BE6.1BF3 1C24.1C37 1CD0.1CD2 1CD4.1CE8 1CED.1CED
  1CF4.1CF4 1CF7.1CF9 1DC0.1DFF 20D0.20F0 2CEF.2CF1 2D7F.2D7F 2DE0.2DFF 302A.302F 3099.309A
  A66F.A672 A674.A67D A69E.A69F A6F0.A6F1 A802.A802 A806.A806 A80B.A80B A823.A827 A82C.A82C
  A880.A881 A8B4.A8C5 A8E0.A8F1 A8FF.A8FF A926.A92D A947.A953 A980.A983 A9B3.A9C0 A9E5.A9E5
  AA29.AA36 AA43.AA43 AA4C.AA4D AA7B.AA7D AAB0.AAB0 AAB2.AAB4 AAB7.AAB8 AABE.AABF AAC1.AAC1
  AAEB.AAEF AAF5.AAF6 ABE3.ABEA ABEC.ABED FB1E.FB1E FE00.FE0F FE20.FE2F 101FD.101FD
  102E0.102E0 10376.1037A 10A01.10A03 10A05.10A06 10A0C.10A0F 10A38.10A3A 10A3F.10A3F
  10AE5.10AE6 10D24.10D27 10EAB.10EAC 10F46.10F50 10F82.10F85 11000.11002 11038.11046
  11070.11070 11073.11074 1107F.11082 110B0.110BA 110C2.110C2 11100.11102 11127.11134
  11145.11146 11173.11173 11180.11182 111B3.111C0 111C9.111CC 111CE.111CF 1122C.11237
  1123E.1123E 112DF.112EA 11300.11303 1133B.1133C 1133E.11344 11347.11348 1134B.1134D
  11357.11357 11362.11363 11366.1136C 11370.11374 11435.11446 1145E.1145E 114B0.114C3
  115AF.115B5 115B8.115C0 115DC.115DD 11630.11640 116AB.116B7 1171D.1172B 1182C.1183A
  11930.11935 11937.11938 1193B.1193E 11940.11940 11942.11943 119D1.119D7 119DA.119E0
  119E4.119E4 11A01.11A0A 11A33.11A39 11A3B.11A3E 11A47.11A47 11A51.11A5B 11A8A.11A99
  11C2F.11C36 11C38.11C3F 11C92.11CA7 11CA9.11CB6 11D31.11D36 11D3A.11D3A 11D3C.11D3D
  11D3F.11D45 11D47.11D47 11D8A.11D8E 11D90.11D91 11D93.11D97 11EF3.11EF6 16AF0.16AF4
  16B30.16B36 16F4F.16F4F 16F51.16F87 16F8F.16F92 16FE4.16FE4 16FF0.16FF1 1BC9D.1BC9E
  1CF00.1CF2D 1CF30.1CF46 1D165.1D169 1D16D.1D172 1D17B.1D182 1D185.1D18B 1D1AA.1D1AD
  1D242.1D244 1DA00.1DA36 1DA3B.1DA6C 1DA75.1DA75 1DA84.1DA84 1DA9B.1DA9F 1DAA1.1DAAF
  1E000.1E006 1E008.1E018 1E01B.1E021 1E023.1E024 1E026.1E02A 1E130.1E136 1E2AE.1E2AE
  1E2EC.1E2EF 1E8D0.1E8D6 1E944.1E94A E0100.E01EF"

/-- Ranges of the marks after which a joiner may stand. -/
def viramas : String := "
  94D.94D 9CD.9CD A4D.A4D ACD.ACD B4D.B4D BCD.BCD C4D.C4D CCD.CCD D3B.D3C D4D.D4D DCA.DCA
  E3A.E3A EBA.EBA F84.F84 1039.103A 1714.1715 1734.1734 17D2.17D2 1A60.1A60 1B44.1B44
  1BAA.1BAB 1BF2.1BF3 2D7F.2D7F A806.A806 A82C.A82C A8C4.A8C4 A953.A953 A9C0.A9C0 AAF6.AAF6
  ABED.ABED 10A3F.10A3F 11046.11046 11070.11070 1107F.1107F 110B9.110B9 11133.11134
  111C0.111C0 11235.11235 112EA.112EA 1134D.1134D 11442.11442 114C2.114C2 115BF.115BF
  1163F.1163F 116B6.116B6 1172B.1172B 11839.11839 1193D.1193E 119E0.119E0 11A34.11A34
  11A47.11A47 11A99.11A99 11C3F.11C3F 11D44.11D45 11D97.11D97"

end BuildProvenance.Url.DomainTable
