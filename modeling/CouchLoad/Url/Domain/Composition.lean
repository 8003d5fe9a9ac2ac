import CouchLoad.Text.Runs

/-!
# Composed characters

A letter and the marks on it can be written as one character or as several. A text is brought to
one form by taking its characters apart, putting the marks of each letter in order, and composing
again what has a character of its own. The tables are those of Unicode 18, without the characters
that stand for others in a domain name.
-/

namespace CouchLoad.Url.Domain

open Text

/-! ### Marks -/

/-- The classes of the marks that take no space of their own. -/
def nonspacingTable : List Run := Run.ofText "
  300:e6=15,e8,dc=4,e8,d8,dc=5,ca=2,dc=4,ca=2,dc=b,1=5,dc=4,e6=a,dc=3,e6=3,dc=2
  350:e6=3,dc=4,e6,e8,dc=2,e6,e9,ea=2,e9,ea=2,e9,e6=d 483:e6=5,0=2
  591:dc,e6=4,dc,e6=3,de,dc,e6=6,dc=6,e6=2,dc,e6=2,de,e4,e6,a,b,c,d,e,f,10,11,12,13=2,14,15,16
  5bf:17 5c1:18,19 5c4:e6,dc 5c7:12,a,15 610:e6=8,1e,1f,20
  64b:1b,1c,1d,1e,1f,20,21,22,e6=2,dc=2,e6=5,dc,e6=2,dc 670:23 6d6:e6=7 6df:e6=4,dc,e6 6e7:e6=2
  6ea:dc,e6=2,dc 711:24 730:e6,dc,e6=2,dc,e6=2,dc=3,e6,dc=2,e6,dc,e6=3,dc,e6,dc,e6,dc,e6,dc,e6=2
  7a6:0=b 7eb:e6=7,dc,e6 7fd:dc 816:e6=4 81b:e6=9 825:e6=3 829:e6=5 859:dc=3 897:e6=2,dc=3,e6=4
  8ca:e6=5,dc=5,e6=e 8e3:dc,e6=2,dc,e6=2,dc,e6=3,dc=3,1b,1c,1d,e6=3,dc,e6=2,dc=2,e6=5,0=3 93a:0
  93c:7 941:0=8 94d:9 951:e6,dc,e6=2,0=3 962:0=2 981:0 9bc:7 9c1:0=4 9cd:9 9e2:0=2 9fe:e6 a01:0=2
  a3c:7 a41:0=c,9 a51:0 a70:0=2 a75:0 a81:0=2 abc:7 ac1:0=8 acd:9 ae2:0=2 afa:0=8 b3c:7 b3f:0
  b41:0=4 b4d:9 b53:0=4 b62:0=2 b82:0 bc0:0 bcd:9 c00:0 c04:0 c3c:7 c3e:0=3 c46:0=7,9 c55:54,5b
  c62:0=2 c81:0 cbc:7 ccc:0,9 ce2:0=2 d00:0=2 d3b:9=2 d41:0=4 d4d:9 d62:0=2 d81:0 dca:9 dd2:0=5
  e31:0 e34:0=4,67=2,9 e47:0,6b=4,0=3 eb1:0 eb4:0=4,76=2,9,0=2 ec8:7a=4,0=3 f18:dc=2 f35:dc f37:dc
  f39:d8 f71:81,82 f74:84 f7a:82=4,0 f80:82 f82:e6=2,9 f86:e6=2 f8d:0=30 fc6:dc 102d:0=4
  1032:0=5,7 1039:9=2 103d:0=2 1058:0=2 105e:0=3 1071:0=4 1082:0 1085:0=2 108d:dc 109d:0 135d:e6=3
  1712:0=2,9 1732:0=2 1752:0=2 1772:0=2 17b7:0=7 17c6:0 17c9:0=9,9,0 17dd:e6 1885:0=2 18a9:e4
  1920:0=3 1927:0=2 1932:0 1939:de,e6,dc 1a17:e6,dc 1a1b:0 1a56:0 1a58:0=7 1a60:9 1a62:0 1a65:0=8
  1a73:0=2,e6=8 1a7f:dc 1ab0:e6=5,dc=6,e6=2,dc,0,dc=2,e6=2,dc=2,e6=5,dc,e6=12,dc,e6=8,dc,e6=4,ea
  1b00:0=4 1b34:7 1b36:0=4 1b6b:e6,dc,e6=7 1b80:0=2 1ba2:0=4 1ba8:0=2 1bab:9,0=2 1be6:7 1be8:0=2
  1bed:0 1bef:0=3 1c2c:0=8 1c36:0,7 1cd0:e6=3 1cd4:1,dc=5,e6=2,dc=4,e6 1ce2:1=7 1ced:dc 1cf4:e6
  1cf8:e6=2 1dc0:e6=2,dc,e6=7,dc,e6=2,ea,d6,dc,ca,e6=25,e8,e4=2,dc,da,e6,e9,dc,e6,dc
  20d0:e6=2,1=2,e6=4,1=3,e6=2,0=4,e6,0=3,1=2,e6,dc,e6,1=2,dc=4,e6 2cef:e6=3 2d7f:9 2de0:e6=20
  302a:da,e4,e8,de 3099:8=2 a66f:e6,0=3 a674:e6=a a69e:e6=2 a6f0:e6=2 a802:0 a806:9 a80b:0
  a825:0=2 a82c:9 a8c4:9,0 a8e0:e6=12 a8ff:0 a926:0=5,dc=3 a947:0=b a980:0=3 a9b3:7 a9b6:0=4
  a9bc:0=2 a9e5:0 aa29:0=6 aa31:0=2 aa35:0=2 aa43:0 aa4c:0 aa7c:0 aab0:e6 aab2:e6=2,dc aab7:e6=2
  aabe:e6=2 aac1:e6 aaec:0=2 aaf6:9 abe5:0 abe8:0 abed:9 fb1e:1a fe20:e6=7,dc=7,e6=2 101fd:dc
  102e0:dc 10376:e6=5 10a01:0=c,dc,0,e6 10a38:e6,1,dc 10a3f:9 10ae5:e6,dc 10d24:e6=4 10d69:e6=5
  10eab:e6=2 10ecc:e6 10eee:e6=c,dc=2,0,dc=3 10f46:dc=2,e6=3,dc,e6,dc=4 10f82:e6,dc,e6,dc 11001:0
  11038:0=e,9 11070:9 11073:0=2 1107f:9,0=2 110b3:0=4 110b9:9,7 110c2:0 11100:e6=3 11127:0=5
  1112d:0=6,9=2 11173:7 11180:0=2 111b6:0=9 111c9:0,7,0=2 111cf:0 1122f:0=3 11234:0 11236:7,0
  1123e:0 11241:0 112df:0 112e3:0=6,7,9 11300:0=2 1133b:7=2 11340:0 11366:e6=f 113bb:0=6 113ce:9
  113d0:9 113d2:0 113e1:0=2 11438:0=8 11442:9,0=2 11446:7 1145e:e6 114b3:0=6 114ba:0 114bf:0=2
  114c2:9,7 115b2:0=4 115bc:0=2 115bf:9,7 115dc:0=2 11633:0=8 1163d:0 1163f:9,0 116ab:0 116ad:0
  116b0:0=6 116b7:7 1171d:0 1171f:0 11722:0=4 11727:0=4,9 1182f:0=9 11839:9,7 1193b:0=2 1193e:9
  11943:7 119d4:0=8 119e0:9 11a01:0=6 11a09:0=2 11a33:0,9,0=4 11a3b:0=4 11a47:9 11a51:0=6
  11a59:0=3 11a8a:0=d 11a98:0,9 11b60:0 11b62:0=3 11b66:0 11c30:0=e 11c92:0=16 11caa:0=7 11cb2:0=2
  11cb5:0=2 11d31:0=11,7,0,9=2 11d47:0 11d90:0=2 11d95:0 11d97:9 11df0:0=2 11ef3:0=2 11f00:0=2
  11f36:0=5 11f40:0 11f42:9 11f5a:0 13440:0 13447:0=f 1611e:0=c 1612d:0=2,9 16af0:1=5 16b30:e6=7
  16f4f:0 16f8f:0=4 16fe4:0 1bc9d:0,1 1cf00:0=47 1d127:0=2 1d167:1=3 1d17b:dc=8 1d185:e6=5,dc=2
  1d1aa:e6=4 1d242:e6=3 1d250:0=3 1d25b:0=2 1d280:0=10 1da00:0=37 1da3b:0=32 1da75:0 1da84:0
  1da9b:0=15 1e000:e6=90 1e130:e6=7 1e2ae:e6 1e2ec:e6=4 1e4ec:e8=2,dc,e6 1e5ee:e6,dc 1e6e3:e6
  1e6e6:e6 1e6ee:e6=2 1e6f5:e6 1e8d0:dc=7 1e944:e6=6,7"

/-- The classes of the marks that take space. -/
def spacingTable : List Run := Run.ofText "
  903:0 93b:0 93e:0=3 949:0=4 94e:0=2 982:0=2 9be:0=3 9c7:0=6 9d7:0 a03:0 a3e:0=3 a83:0 abe:0=3
  ac9:0=4 b02:0=2 b3e:0 b40:0 b47:0=6 b57:0 bbe:0=2 bc1:0=c bd7:0 c01:0=3 c41:0=4 c82:0=2 cbe:0=e
  cd5:0=2 cf3:0 d02:0=2 d3e:0=3 d46:0=7 d57:0 d82:0=2 dcf:0=3 dd8:0=8 df2:0=2 f3e:0=2 f7f:0
  102b:0=2 1031:0 1038:0 103b:0=2 1056:0=2 1062:0=3 1067:0=7 1083:0=2 1087:0=6 108f:0 109a:0=3
  1715:9 1734:9 17b6:0 17be:0=8 17c7:0=2 1923:0=4 1929:0=9 1933:0=6 1a19:0=2 1a55:0 1a57:0 1a61:0
  1a63:0=2 1a6d:0=6 1b04:0 1b35:0 1b3a:0=a,9 1b82:0 1ba1:0 1ba6:0=2 1baa:9 1be7:0 1bea:0=3 1bee:0
  1bf2:9=2 1c24:0=8 1c34:0=2 1ce1:0 1cf7:0 302e:e0=2 a823:0=2 a827:0 a880:0=2 a8b4:0=10 a952:0,9
  a983:0 a9b4:0=2 a9ba:0=2 a9be:0=2,9 aa2f:0=2 aa33:0=2 aa4d:0 aa7b:0 aa7d:0 aaeb:0 aaee:0=2
  aaf5:0 abe3:0=2 abe6:0=2 abe9:0=2 abec:0 11000:0 11002:0 11082:0 110b0:0=3 110b7:0=2 1112c:0
  11145:0=2 11182:0 111b3:0=3 111bf:0,9 111ce:0 1122c:0=3 11232:0=2 11235:9 112e0:0=3 11302:0=2
  1133e:0=2 11341:0=c,9 11357:0 11362:0=2 113b8:0=3 113c2:0=c 113cf:9 11435:0=3 11440:0=2 11445:0
  114b0:0=3 114b9:0 114bb:0=4 114c1:0 115af:0=3 115b8:0=4 115be:0 11630:0=3 1163b:0=2 1163e:0
  116ac:0 116ae:0=2 116b6:9 1171e:0 11720:0=2 11726:0 1182c:0=3 11838:0 11930:0=9 1193d:9 11940:0
  11942:0 119d1:0=3 119dc:0=4 119e4:0 11a07:0=2 11a39:0 11a57:0=2 11a97:0 11b61:0 11b65:0 11b67:0
  11c2f:0 11c3e:0,9 11ca9:0 11cb1:0 11cb4:0 11d8a:0=5 11d93:0=2 11d96:0 11ef5:0=2 11f03:0
  11f34:0=2 11f3e:0=2 11f41:9 1612a:0=3 16f51:0=37 16ff0:6=2 1d165:d8=2 1d16d:e2,d8=5"

/-- Whether a character is a mark that takes no space of its own. -/
def isNonspacing (c : Char) : Bool :=
  0x300 ≤ c.toNat && (valueOf? nonspacingTable c).isSome

/-- Whether a character is a mark. -/
def isMark (c : Char) : Bool :=
  isNonspacing c || 0x300 ≤ c.toNat && (valueOf? spacingTable c).isSome

/-- The class of a mark; marks of different classes do not touch. All other characters, and the
marks that do not attach to what is before them, have class zero. -/
def markClass (c : Char) : Nat :=
  if c.toNat < 0x300 then 0
  else
    match (valueOf? nonspacingTable c).or (valueOf? spacingTable c) with
    | some (n :: _) => n
    | _ => 0

/-- The class of the marks that take the vowel from a consonant. -/
def viramaClass : Nat := 9

/-! ### Parts -/

/-- The composed characters with their two parts. -/
def composedTable : List Run := Run.ofText "
  e0:61.300,61.301,61.302,61.303,61.308,61.30a
  e7:63.327,65.300,65.301,65.302,65.308,69.300,69.301,69.302,69.308
  f1:6e.303,6f.300,6f.301,6f.302,6f.303,6f.308 f9:75.300,75.301,75.302,75.308,79.301 ff:79.308
  101:61.304 103:61.306 105:61.328 107:63.301 109:63.302 10b:63.307 10d:63.30c 10f:64.30c
  113:65.304 115:65.306 117:65.307 119:65.328 11b:65.30c 11d:67.302 11f:67.306 121:67.307
  123:67.327 125:68.302 129:69.303 12b:69.304 12d:69.306 12f:69.328 135:6a.302 137:6b.327
  13a:6c.301 13c:6c.327 13e:6c.30c 144:6e.301 146:6e.327 148:6e.30c 14d:6f.304 14f:6f.306
  151:6f.30b 155:72.301 157:72.327 159:72.30c 15b:73.301 15d:73.302 15f:73.327 161:73.30c
  163:74.327 165:74.30c 169:75.303 16b:75.304 16d:75.306 16f:75.30a 171:75.30b 173:75.328
  175:77.302 177:79.302 17a:7a.301 17c:7a.307 17e:7a.30c 1a1:6f.31b 1b0:75.31b 1ce:61.30c
  1d0:69.30c 1d2:6f.30c 1d4:75.30c 1d6:fc.304 1d8:fc.301 1da:fc.30c 1dc:fc.300 1df:e4.304
  1e1:227.304 1e3:e6.304 1e7:67.30c 1e9:6b.30c 1eb:6f.328 1ed:1eb.304 1ef:292.30c,6a.30c
  1f5:67.301 1f9:6e.300 1fb:e5.301 1fd:e6.301 1ff:f8.301 201:61.30f 203:61.311 205:65.30f
  207:65.311 209:69.30f 20b:69.311 20d:6f.30f 20f:6f.311 211:72.30f 213:72.311 215:75.30f
  217:75.311 219:73.326 21b:74.326 21f:68.30c 227:61.307 229:65.327 22b:f6.304 22d:f5.304
  22f:6f.307 231:22f.304 233:79.304 390:3ca.301 3ac:3b1.301,3b5.301,3b7.301,3b9.301,3cb.301
  3ca:3b9.308,3c5.308,3bf.301,3c5.301,3c9.301 439:438.306 450:435.300,435.308 453:433.301
  457:456.308 45c:43a.301,438.300,443.306 477:475.30f 4c2:436.306 4d1:430.306 4d3:430.308
  4d7:435.306 4db:4d9.308 4dd:436.308 4df:437.308 4e3:438.304 4e5:438.308 4e7:43e.308 4eb:4e9.308
  4ed:44d.308 4ef:443.304 4f1:443.308 4f3:443.30b 4f5:447.308 4f9:44b.308
  622:627.653,627.654,648.654,627.655,64a.654 6c0:6d5.654 6c2:6c1.654 6d3:6d2.654 929:928.93c
  931:930.93c 934:933.93c 9cb:9c7.9be,9c7.9d7 b48:b47.b56 b4b:b47.b3e,b47.b57 b94:b92.bd7
  bca:bc6.bbe,bc7.bbe,bc6.bd7 c48:c46.c56 cc0:cbf.cd5 cc7:cc6.cd5,cc6.cd6 cca:cc6.cc2,cca.cd5
  d4a:d46.d3e,d47.d3e,d46.d57 dda:dd9.dca ddc:dd9.dcf,ddc.dca,dd9.ddf 1026:1025.102e
  1b06:1b05.1b35 1b08:1b07.1b35 1b0a:1b09.1b35 1b0c:1b0b.1b35 1b0e:1b0d.1b35 1b12:1b11.1b35
  1b3b:1b3a.1b35 1b3d:1b3c.1b35 1b40:1b3e.1b35,1b3f.1b35 1b43:1b42.1b35 1e01:61.325 1e03:62.307
  1e05:62.323 1e07:62.331 1e09:e7.301 1e0b:64.307 1e0d:64.323 1e0f:64.331 1e11:64.327 1e13:64.32d
  1e15:113.300 1e17:113.301 1e19:65.32d 1e1b:65.330 1e1d:229.306 1e1f:66.307 1e21:67.304
  1e23:68.307 1e25:68.323 1e27:68.308 1e29:68.327 1e2b:68.32e 1e2d:69.330 1e2f:ef.301 1e31:6b.301
  1e33:6b.323 1e35:6b.331 1e37:6c.323 1e39:1e37.304 1e3b:6c.331 1e3d:6c.32d 1e3f:6d.301
  1e41:6d.307 1e43:6d.323 1e45:6e.307 1e47:6e.323 1e49:6e.331 1e4b:6e.32d 1e4d:f5.301 1e4f:f5.308
  1e51:14d.300 1e53:14d.301 1e55:70.301 1e57:70.307 1e59:72.307 1e5b:72.323 1e5d:1e5b.304
  1e5f:72.331 1e61:73.307 1e63:73.323 1e65:15b.307 1e67:161.307 1e69:1e63.307 1e6b:74.307
  1e6d:74.323 1e6f:74.331 1e71:74.32d 1e73:75.324 1e75:75.330 1e77:75.32d 1e79:169.301
  1e7b:16b.308 1e7d:76.303 1e7f:76.323 1e81:77.300 1e83:77.301 1e85:77.308 1e87:77.307 1e89:77.323
  1e8b:78.307 1e8d:78.308 1e8f:79.307 1e91:7a.302 1e93:7a.323
  1e95:7a.331,68.331,74.308,77.30a,79.30a 1ea1:61.323 1ea3:61.309 1ea5:e2.301 1ea7:e2.300
  1ea9:e2.309 1eab:e2.303 1ead:1ea1.302 1eaf:103.301 1eb1:103.300 1eb3:103.309 1eb5:103.303
  1eb7:1ea1.306 1eb9:65.323 1ebb:65.309 1ebd:65.303 1ebf:ea.301 1ec1:ea.300 1ec3:ea.309
  1ec5:ea.303 1ec7:1eb9.302 1ec9:69.309 1ecb:69.323 1ecd:6f.323 1ecf:6f.309 1ed1:f4.301
  1ed3:f4.300 1ed5:f4.309 1ed7:f4.303 1ed9:1ecd.302 1edb:1a1.301 1edd:1a1.300 1edf:1a1.309
  1ee1:1a1.303 1ee3:1a1.323 1ee5:75.323 1ee7:75.309 1ee9:1b0.301 1eeb:1b0.300 1eed:1b0.309
  1eef:1b0.303 1ef1:1b0.323 1ef3:79.300 1ef5:79.323 1ef7:79.309 1ef9:79.303
  1f00:3b1.313,3b1.314,1f00.300,1f01.300,1f00.301,1f01.301,1f00.342,1f01.342
  1f10:3b5.313,3b5.314,1f10.300,1f11.300,1f10.301,1f11.301
  1f20:3b7.313,3b7.314,1f20.300,1f21.300,1f20.301,1f21.301,1f20.342,1f21.342
  1f30:3b9.313,3b9.314,1f30.300,1f31.300,1f30.301,1f31.301,1f30.342,1f31.342
  1f40:3bf.313,3bf.314,1f40.300,1f41.300,1f40.301,1f41.301
  1f50:3c5.313,3c5.314,1f50.300,1f51.300,1f50.301,1f51.301,1f50.342,1f51.342
  1f60:3c9.313,3c9.314,1f60.300,1f61.300,1f60.301,1f61.301,1f60.342,1f61.342 1f70:3b1.300
  1f72:3b5.300 1f74:3b7.300 1f76:3b9.300 1f78:3bf.300 1f7a:3c5.300 1f7c:3c9.300
  1fb0:3b1.306,3b1.304 1fb6:3b1.342 1fc6:3b7.342 1fd0:3b9.306,3b9.304,3ca.300 1fd6:3b9.342,3ca.342
  1fe0:3c5.306,3c5.304,3cb.300 1fe4:3c1.313,3c1.314,3c5.342,3cb.342 1ff6:3c9.342
  219a:2190.338,2192.338 21ae:2194.338 21cd:21d0.338,21d4.338,21d2.338 2204:2203.338 2209:2208.338
  220c:220b.338 2224:2223.338 2226:2225.338 2241:223c.338 2244:2243.338 2247:2245.338
  2249:2248.338 2260:3d.338 2262:2261.338 226d:224d.338,3c.338,3e.338,2264.338,2265.338
  2274:2272.338,2273.338 2278:2276.338,2277.338 2280:227a.338,227b.338 2284:2282.338,2283.338
  2288:2286.338,2287.338 22ac:22a2.338,22a8.338,22a9.338,22ab.338
  22e0:227c.338,227d.338,2291.338,2292.338 22ea:22b2.338,22b3.338,22b4.338,22b5.338 304c:304b.3099
  304e:304d.3099 3050:304f.3099 3052:3051.3099 3054:3053.3099 3056:3055.3099 3058:3057.3099
  305a:3059.3099 305c:305b.3099 305e:305d.3099 3060:305f.3099 3062:3061.3099 3065:3064.3099
  3067:3066.3099 3069:3068.3099 3070:306f.3099,306f.309a 3073:3072.3099,3072.309a
  3076:3075.3099,3075.309a 3079:3078.3099,3078.309a 307c:307b.3099,307b.309a 3094:3046.3099
  309e:309d.3099 30ac:30ab.3099 30ae:30ad.3099 30b0:30af.3099 30b2:30b1.3099 30b4:30b3.3099
  30b6:30b5.3099 30b8:30b7.3099 30ba:30b9.3099 30bc:30bb.3099 30be:30bd.3099 30c0:30bf.3099
  30c2:30c1.3099 30c5:30c4.3099 30c7:30c6.3099 30c9:30c8.3099 30d0:30cf.3099,30cf.309a
  30d3:30d2.3099,30d2.309a 30d6:30d5.3099,30d5.309a 30d9:30d8.3099,30d8.309a
  30dc:30db.3099,30db.309a 30f4:30a6.3099 30f7:30ef.3099,30f0.3099,30f1.3099,30f2.3099
  30fe:30fd.3099 105c9:105d2.307 105e4:105da.307 1109a:11099.110ba 1109c:1109b.110ba
  110ab:110a5.110ba 1112e:11131.11127,11132.11127 1134b:11347.1133e,11347.11357 11383:11382.113c9
  11385:11384.113bb 1138e:1138b.113c2 11391:11390.113c9 113c5:113c2.113c2
  113c7:113c2.113b8,113c2.113c9 114bb:114b9.114ba,114b9.114b0 114be:114b9.114bd
  115ba:115b8.115af,115b9.115af 11938:11935.11930
  16121:1611e.1611e,1611e.16129,1611e.1611f,16129.1611f,1611e.16120,16121.1611f,16122.1611f
  16128:16121.16120 16d68:16d67.16d67,16d63.16d67,16d69.16d67"

/-! A syllable of Korean is composed of a leading letter, a vowel and, mostly, a trailing letter.
The syllables stand in the order of their letters. -/

/-- The code point of the first syllable. -/
def firstSyllable : Nat := 0xac00

/-- The code point of the first leading letter. -/
def firstLeading : Nat := 0x1100

/-- The code point of the first vowel. -/
def firstVowel : Nat := 0x1161

/-- The code point before the first trailing letter: the place for none. -/
def noTrailing : Nat := 0x11a7

/-- How many leading letters there are. -/
def leadingCount : Nat := 19

/-- How many vowels there are. -/
def vowelCount : Nat := 21

/-- How many trailing letters there are, none among them. -/
def trailingCount : Nat := 28

/-- How many syllables there are. -/
def syllableCount : Nat :=
  leadingCount * vowelCount * trailingCount

/-- The parts of a composed character: one step of taking it apart. -/
def parts (c : Char) : List Char :=
  let index := c.toNat - firstSyllable
  if c.toNat < 0xc0 then [c]
  else if firstSyllable ≤ c.toNat && index < syllableCount then
    let trailing := index % trailingCount
    let letters := [Char.ofNat (firstLeading + index / (vowelCount * trailingCount)),
      Char.ofNat (firstVowel + index / trailingCount % vowelCount)]
    if trailing = 0 then letters else letters ++ [Char.ofNat (noTrailing + trailing)]
  else ((valueOf? composedTable c).map (·.map Char.ofNat)).getD [c]

/-- The characters of a text taken apart. No character is composed of more than three. -/
def decompose (s : List Char) : List Char :=
  (s.flatMap parts).flatMap parts

/-- The character of a run of composed characters that has two given parts. -/
def composedIn? (a b : Nat) (r : Run) : Option Char :=
  if r.value = [a, b] then some (Char.ofNat r.first) else none

/-- The character that is composed of two parts. -/
def composed? (a b : Char) : Option Char :=
  let m := a.toNat
  let n := b.toNat
  if n < 0x300 then none
  else if firstLeading ≤ m && m < firstLeading + leadingCount &&
      firstVowel ≤ n && n < firstVowel + vowelCount then
    let pair := (m - firstLeading) * vowelCount + (n - firstVowel)
    some (Char.ofNat (firstSyllable + pair * trailingCount))
  else if firstSyllable ≤ m && m < firstSyllable + syllableCount &&
      (m - firstSyllable) % trailingCount = 0 &&
      noTrailing < n && n < noTrailing + trailingCount then
    some (Char.ofNat (m + (n - noTrailing)))
  else composedTable.findSome? (composedIn? m n)

/-! ### The normal form -/

/-- Put a mark in front of marks that are in order; marks of one class keep their order. -/
def placeMark (c : Char) : List Char → List Char
  | [] => [c]
  | d :: s =>
    if 0 < markClass d && markClass d < markClass c then d :: placeMark c s else c :: d :: s

/-- Put the marks of each letter in the order of their classes. -/
def orderMarks (s : List Char) : List Char :=
  s.foldr placeMark []

/-- Compose a letter with what is behind it. A mark is out of reach behind one of its own class, and
what is no mark is out of reach behind any; `passed` holds the marks that stay, the last first. -/
def composeFrom (letter : Char) (passed : List Char) : List Char → List Char
  | [] => letter :: passed.reverse
  | c :: s =>
    let reached := match passed with
      | [] => true
      | mark :: _ => markClass mark < markClass c
    match if reached then composed? letter c else none with
    | some composed => composeFrom composed passed s
    | none =>
      if markClass c = 0 then letter :: passed.reverse ++ composeFrom c [] s
      else composeFrom letter (c :: passed) s

/-- Compose the letters of a text with their marks. -/
def compose : List Char → List Char
  | [] => []
  | c :: s => composeFrom c [] s

/-- The normal form of a text. -/
def normalize (s : List Char) : List Char :=
  compose (orderMarks (decompose s))

end CouchLoad.Url.Domain
