import NamedContent.Idna.Table

/-!
# What becomes of each character of a domain

The table of the characters beyond ASCII, as of Unicode 17. An entry is spelled

* `V`, `I` and `X` for a run of characters that stay, vanish and are refused;
* `P` for a run of pairs, of which the first character becomes the second;
* `+` or `-` and a number for a run that moves as a whole, up or down;
* `=` and a text for a run of characters that all become the text;
* `:` and texts with commas in between, one for each character of the run.
-/

namespace NamedContent.Idna

/-- What becomes of the characters of a run. -/
inductive MappingRule
  | valid
  | ignored
  | disallowed
  /-- Of two neighbours the first becomes the second, which stays. -/
  | pairs
  | up (distance : Nat)
  | down (distance : Nat)
  | text (replacement : List Char)
  /-- One replacement for each character of the run. -/
  | texts (replacements : List (List Char))
deriving DecidableEq, Repr

/-- The rule that an entry spells. -/
def MappingRule.read? : List Char → Option MappingRule
  | ['V'] => some .valid
  | ['I'] => some .ignored
  | ['X'] => some .disallowed
  | ['P'] => some .pairs
  | '+' :: digits => some (.up (tableNumber digits))
  | '-' :: digits => some (.down (tableNumber digits))
  | '=' :: replacement => some (.text (tableText replacement))
  | ':' :: replacements => some (.texts ((Text.split ',' replacements).map tableText))
  | _ => none

/-- The rows of the table. -/
def mappingRows : List String :=
  ["80X a0:20 a1V a8:20.308 a9V aa:61 abV adI aeV af:20.304 b0V b2-80 b4:20.301,3bc b6V",
   "b8:20.327,31,6f bbV bc:31.2044.34,31.2044.32,33.2044.34 bfV c0+20 d7V d8+20 dfV 100P",
   "130:69.307 131V 132=69.6a 134P 138V 139P 13f=6c.b7 141P 149:2bc.6e 14aP 178:ff 179P 17f:73",
   "180V 181:253 182P 186:254,188 188V 189+cd 18b:18c 18cV 18e:1dd,259,25b,192 192V 193:260,263",
   "195V 196:269,268,199 199V 19c:26f,272 19eV 19f:275 1a0P 1a6:280,1a8 1a8V 1a9:283 1aaV 1ac:1ad",
   "1adV 1ae:288,1b0 1b0V 1b1+d9 1b3P 1b7:292,1b9 1b9V 1bc:1bd 1bdV 1c4=64.17e 1c7=6c.6a",
   "1ca=6e.6a 1cdP 1ddV 1deP 1f0V 1f1=64.7a 1f4:1f5 1f5V 1f6:195,1bf 1f8P 220:19e 221V 222P 234V",
   "23a:2c65,23c 23cV 23d:19a,2c66 23fV 241:242 242V 243:180,289,28c 246P 250V",
   "2b0:68,266,6a,72,279,27b,281,77,79 2b9V 2d8:20.306,20.307,20.30a,20.328,20.303,20.30b 2deV",
   "2e0:263,6c,73,78,295 2e5V 340-40 342V 343:313,308.301,3b9 346V 34fI 350V 370P 374:2b9 375V",
   "376:377 377V 378X 37a:20.3b9 37bV 37e:3b,3f3 380X 384:20.301,20.308.301,3ac,b7 388+25 38bX",
   "38c:3cc 38dX 38e+3f 390V 391+20 3a2X 3a3+20 3acV 3cf:3d7,3b2,3b8,3c5,3cd,3cb,3c6,3c0 3d7V",
   "3d8P 3f0:3ba,3c1,3c3 3f3V 3f4:3b8,3b5 3f6V 3f7:3f8 3f8V 3f9:3c3,3fb 3fbV 3fd-82 400+50 410+20",
   "430V 460P 482V 48aP 4c0:4cf 4c1P 4cfV 4d0P 530X 531+30 557X 559V 587:565.582 588V 58bX 58dV",
   "590X 591V 5c8X 5d0V 5ebX 5efV 5f5X 606V 61cX 61dV 675:627.674,648.674,6c7.674,64a.674 679V",
   "6ddX 6deV 70eX 710V 74bX 74dV 7b2X 7c0V 7fbX 7fdV 82eX 830V 83fX 840V 85cX 85eV 85fX 860V",
   "86bX 870V 890X 897V 8e2X 8e3V",
   "958:915.93c,916.93c,917.93c,91c.93c,921.93c,922.93c,92b.93c,92f.93c 960V 984X 985V 98dX 98fV",
   "991X 993V 9a9X 9aaV 9b1X 9b2V 9b3X 9b6V 9baX 9bcV 9c5X 9c7V 9c9X 9cbV 9cfX 9d7V 9d8X",
   "9dc:9a1.9bc,9a2.9bc 9deX 9df:9af.9bc 9e0V 9e4X 9e6V 9ffX a01V a04X a05V a0bX a0fV a11X a13V",
   "a29X a2aV a31X a32V a33:a32.a3c a34X a35V a36:a38.a3c a37X a38V a3aX a3cV a3dX a3eV a43X a47V",
   "a49X a4bV a4eX a51V a52X a59:a16.a3c,a17.a3c,a1c.a3c a5cV a5dX a5e:a2b.a3c a5fX a66V a77X",
   "a81V a84X a85V a8eX a8fV a92X a93V aa9X aaaV ab1X ab2V ab4X ab5V abaX abcV ac6X ac7V acaX",
   "acbV aceX ad0V ad1X ae0V ae4X ae6V af2X af9V b00X b01V b04X b05V b0dX b0fV b11X b13V b29X",
   "b2aV b31X b32V b34X b35V b3aX b3cV b45X b47V b49X b4bV b4eX b55V b58X b5c:b21.b3c,b22.b3c",
   "b5eX b5fV b64X b66V b78X b82V b84X b85V b8bX b8eV b91X b92V b96X b99V b9bX b9cV b9dX b9eV",
   "ba0X ba3V ba5X ba8V babX baeV bbaX bbeV bc3X bc6V bc9X bcaV bceX bd0V bd1X bd7V bd8X be6V",
   "bfbX c00V c0dX c0eV c11X c12V c29X c2aV c3aX c3cV c45X c46V c49X c4aV c4eX c55V c57X c58V",
   "c5bX c5cV c5eX c60V c64X c66V c70X c77V c8dX c8eV c91X c92V ca9X caaV cb4X cb5V cbaX cbcV",
   "cc5X cc6V cc9X ccaV cceX cd5V cd7X cdcV cdfX ce0V ce4X ce6V cf0X cf1V cf4X d00V d0dX d0eV",
   "d11X d12V d45X d46V d49X d4aV d50X d54V d64X d66V d80X d81V d84X d85V d97X d9aV db2X db3V",
   "dbcX dbdV dbeX dc0V dc7X dcaV dcbX dcfV dd5X dd6V dd7X dd8V de0X de6V df0X df2V df5X e01V",
   "e33:e4d.e32 e34V e3bX e3fV e5cX e81V e83X e84V e85X e86V e8bX e8cV ea4X ea5V ea6X ea7V",
   "eb3:ecd.eb2 eb4V ebeX ec0V ec5X ec6V ec7X ec8V ecfX ed0V edaX edc:eab.e99,eab.ea1 edeV ee0X",
   "f00V f0c:f0b f0dV f43:f42.fb7 f44V f48X f49V f4d:f4c.fb7 f4eV f52:f51.fb7 f53V f57:f56.fb7",
   "f58V f5c:f5b.fb7 f5dV f69:f40.fb5 f6aV f6dX f71V f73:f71.f72 f74V",
   "f75:f71.f74,fb2.f80,fb2.f71.f80,fb3.f80,fb3.f71.f80 f7aV f81:f71.f80 f82V f93:f92.fb7 f94V",
   "f98X f99V f9d:f9c.fb7 f9eV fa2:fa1.fb7 fa3V fa7:fa6.fb7 fa8V fac:fab.fb7 fadV fb9:f90.fb5",
   "fbaV fbdX fbeV fcdX fceV fdbX 1000V 10a0+1c60 10c6X 10c7:2d27 10c8X 10cd:2d2d 10ceX 10d0V",
   "10fc:10dc 10fdV 115fI 1161V 1249X 124aV 124eX 1250V 1257X 1258V 1259X 125aV 125eX 1260V 1289X",
   "128aV 128eX 1290V 12b1X 12b2V 12b6X 12b8V 12bfX 12c0V 12c1X 12c2V 12c6X 12c8V 12d7X 12d8V",
   "1311X 1312V 1316X 1318V 135bX 135dV 137dX 1380V 139aX 13a0V 13f6X 13f8-8 13feX 1400V 1680X",
   "1681V 169dX 16a0V 16f9X 1700V 1716X 171fV 1737X 1740V 1754X 1760V 176dX 176eV 1771X 1772V",
   "1774X 1780V 17b4I 17b6V 17deX 17e0V 17eaX 17f0V 17faX 1800V 180bI 1810V 181aX 1820V 1879X",
   "1880V 18abX 18b0V 18f6X 1900V 191fX 1920V 192cX 1930V 193cX 1940V 1941X 1944V 196eX 1970V",
   "1975X 1980V 19acX 19b0V 19caX 19d0V 19dbX 19deV 1a1cX 1a1eV 1a5fX 1a60V 1a7dX 1a7fV 1a8aX",
   "1a90V 1a9aX 1aa0V 1aaeX 1ab0V 1adeX 1ae0V 1aecX 1b00V 1b4dX 1b4eV 1bf4X 1bfcV 1c38X 1c3bV",
   "1c4aX 1c4dV 1c80:432,434,43e 1c83-1842 1c85:442,44a,463,a64b,1c8a 1c8aV 1c8bX 1c90-bc0 1cbbX",
   "1cbd-bc0 1cc0V 1cc8X 1cd0V 1cfbX 1d00V 1d2c:61,e6,62 1d2fV 1d30-1ccc 1d32:1dd 1d33-1ccc 1d3bV",
   "1d3c:6f,223,70,72 1d40-1ccc 1d42:77,61 1d44-1af4 1d46:1d02,62 1d48-1ce4 1d4a:259 1d4b-1af0",
   "1d4d:67 1d4eV 1d4f:6b,6d,14b,6f,254 1d54-3e 1d56:70 1d57-1ce3 1d59:1d1d,26f,76,1d25 1d5d-19ab",
   "1d60-199a 1d62:69,72 1d64-1cef 1d66-19b4 1d68:3c1 1d69-19a3 1d6bV 1d78:43d 1d79V",
   "1d9b:252,63,255,f0,25c,66,25f,261,265 1da4-1b3c 1da7:1d7b,29d,26d,1d85,29f,271,270 1dae-1b3c",
   "1db2:278 1db3-1b31 1db5:1ab 1db6-1b2d 1db8:1d1c 1db9-1b2e 1dbb:7a 1dbc-1b2c 1dbf:3b8 1dc0V",
   "1e00P 1e96V 1e9a:61.2be,1e61 1e9cV 1e9e:df 1e9fV 1ea0P 1f00V 1f08-8 1f10V 1f16X 1f18-8 1f1eX",
   "1f20V 1f28-8 1f30V 1f38-8 1f40V 1f46X 1f48-8 1f4eX 1f50V 1f58X 1f59:1f51 1f5aX 1f5b:1f53",
   "1f5cX 1f5d:1f55 1f5eX 1f5f:1f57 1f60V 1f68-8 1f70V 1f71:3ac 1f72V 1f73:3ad 1f74V 1f75:3ae",
   "1f76V 1f77:3af 1f78V 1f79:3cc 1f7aV 1f7b:3cd 1f7cV 1f7d:3ce 1f7eX",
   "1f80:1f00.3b9,1f01.3b9,1f02.3b9,1f03.3b9,1f04.3b9,1f05.3b9,1f06.3b9,1f07.3b9,1f00.3b9",
   "1f89:1f01.3b9,1f02.3b9,1f03.3b9,1f04.3b9,1f05.3b9,1f06.3b9,1f07.3b9,1f20.3b9,1f21.3b9",
   "1f92:1f22.3b9,1f23.3b9,1f24.3b9,1f25.3b9,1f26.3b9,1f27.3b9,1f20.3b9,1f21.3b9,1f22.3b9",
   "1f9b:1f23.3b9,1f24.3b9,1f25.3b9,1f26.3b9,1f27.3b9,1f60.3b9,1f61.3b9,1f62.3b9,1f63.3b9",
   "1fa4:1f64.3b9,1f65.3b9,1f66.3b9,1f67.3b9,1f60.3b9,1f61.3b9,1f62.3b9,1f63.3b9,1f64.3b9",
   "1fad:1f65.3b9,1f66.3b9,1f67.3b9 1fb0V 1fb2:1f70.3b9,3b1.3b9,3ac.3b9 1fb5X 1fb6V 1fb7:1fb6.3b9",
   "1fb8-8 1fba:1f70,3ac,3b1.3b9,20.313,3b9,20.313,20.342,20.308.342,1f74.3b9,3b7.3b9,3ae.3b9",
   "1fc5X 1fc6V 1fc7:1fc6.3b9,1f72,3ad,1f74,3ae,3b7.3b9,20.313.300,20.313.301,20.313.342 1fd0V",
   "1fd3:390 1fd4X 1fd6V 1fd8-8 1fda:1f76,3af 1fdcX 1fdd:20.314.300,20.314.301,20.314.342 1fe0V",
   "1fe3:3b0 1fe4V 1fe8-8 1fea:1f7a,3cd,1fe5,20.308.300,20.308.301,60 1ff0X",
   "1ff2:1f7c.3b9,3c9.3b9,3ce.3b9 1ff5X 1ff6V",
   "1ff7:1ff6.3b9,1f78,3cc,1f7c,3ce,3c9.3b9,20.301,20.314 1fffX 2000=20 200bI 200cV 200eX 2010V",
   "2011:2010 2012V 2017:20.333 2018V 2024X 2027V 2028X 202f:20 2030V",
   "2033:2032.2032,2032.2032.2032 2035V 2036:2035.2035,2035.2035.2035 2038V 203c:21.21 203dV",
   "203e:20.305 203fV 2047:3f.3f,3f.21,21.3f 204aV 2057:2032.2032.2032.2032 2058V 205f:20 2060I",
   "2065X 206aI 2070:30,69 2072X 2074-2040 207a:2b,2212,3d 207d-2055 207f:6e 2080-2050",
   "208a:2b,2212,3d 208d-2065 208fX 2090:61,65,6f,78,259,68 2096-202b 209a:70 209b-2028 209dX",
   "20a0V 20a8:72.73 20a9V 20c2X 20d0V 20f1X 2100:61.2f.63,61.2f.73,63,b0.63 2104V",
   "2105:63.2f.6f,63.2f.75,25b 2108V 2109:b0.66 210a-20a3 210c=68 210f:127 2110=69 2112=6c 2114V",
   "2115:6e,6e.6f 2117V 2119-20a9 211c=72 211eV 2120:73.6d,74.65.6c,74.6d 2123V 2124:7a 2125V",
   "2126:3c9 2127V 2128:7a 2129V 212a:6b,e5 212c-20ca 212eV 212f=65 2131:66,214e,6d,6f 2135-1b65",
   "2139:69 213aV 213b:66.61.78,3c0 213d=3b3 213f:3c0,2211 2141V 2145=64 2147:65 2148-20df 214aV",
   "2150:31.2044.37,31.2044.39,31.2044.31.30,31.2044.33,32.2044.33,31.2044.35,32.2044.35",
   "2157:33.2044.35,34.2044.35,31.2044.36,35.2044.36,31.2044.38,33.2044.38,35.2044.38,37.2044.38",
   "215f:31.2044,69,69.69,69.69.69,69.76,76,76.69,76.69.69,76.69.69.69,69.78,78,78.69",
   "216b:78.69.69,6c 216d-210a",
   "216f:6d,69,69.69,69.69.69,69.76,76,76.69,76.69.69,76.69.69.69,69.78,78,78.69 217b:78.69.69,6c",
   "217d-211a 217f:6d 2180V 2183:2184 2184V 2189:30.2044.33 218aV 218cX 2190V",
   "222c:222b.222b,222b.222b.222b 222eV 222f:222e.222e,222e.222e.222e 2231V 2329+cdf 232bV 242aX",
   "2440V 244bX 2460-242f",
   "2469:31.30,31.31,31.32,31.33,31.34,31.35,31.36,31.37,31.38,31.39,32.30,28.31.29",
   "2475:28.32.29,28.33.29,28.34.29,28.35.29,28.36.29,28.37.29,28.38.29,28.39.29,28.31.30.29",
   "247e:28.31.31.29,28.31.32.29,28.31.33.29,28.31.34.29,28.31.35.29,28.31.36.29,28.31.37.29",
   "2485:28.31.38.29,28.31.39.29,28.32.30.29 2488X",
   "249c:28.61.29,28.62.29,28.63.29,28.64.29,28.65.29,28.66.29,28.67.29,28.68.29,28.69.29",
   "24a5:28.6a.29,28.6b.29,28.6c.29,28.6d.29,28.6e.29,28.6f.29,28.70.29,28.71.29,28.72.29",
   "24ae:28.73.29,28.74.29,28.75.29,28.76.29,28.77.29,28.78.29,28.79.29,28.7a.29 24b6-2455",
   "24d0-246f 24ea:30 24ebV 2a0c:222b.222b.222b.222b 2a0dV 2a74:3a.3a.3d,3d.3d,3d.3d.3d 2a77V",
   "2adc:2add.338 2addV 2b74X 2b76V 2c00+30 2c30V 2c60:2c61 2c61V 2c62:26b,1d7d,27d 2c65V 2c67P",
   "2c6d:251,271,250,252 2c71V 2c72:2c73 2c73V 2c75:2c76 2c76V 2c7c:6a,76 2c7e-2a3f 2c80P 2ce4V",
   "2cebP 2cefV 2cf2:2cf3 2cf3V 2cf4X 2cf9V 2d26X 2d27V 2d28X 2d2dV 2d2eX 2d30V 2d68X 2d6f:2d61",
   "2d70V 2d71X 2d7fV 2d97X 2da0V 2da7X 2da8V 2dafX 2db0V 2db7X 2db8V 2dbfX 2dc0V 2dc7X 2dc8V",
   "2dcfX 2dd0V 2dd7X 2dd8V 2ddfX 2de0V 2e5eX 2e80V 2e9aX 2e9bV 2e9f:6bcd 2ea0V 2ef3:9f9f 2ef4X",
   "2f00:4e00,4e28,4e36,4e3f,4e59,4e85,4e8c,4ea0,4eba,513f,5165,516b",
   "2f0c:5182,5196,51ab,51e0,51f5,5200,529b,52f9,5315,531a,5338,5341",
   "2f18:535c,5369,5382,53b6,53c8,53e3,56d7,571f,58eb,5902,590a,5915",
   "2f24:5927,5973,5b50,5b80,5bf8,5c0f,5c22,5c38,5c6e,5c71,5ddb,5de5",
   "2f30:5df1,5dfe,5e72,5e7a,5e7f,5ef4,5efe,5f0b,5f13,5f50,5f61,5f73",
   "2f3c:5fc3,6208,6236,624b,652f,6534,6587,6597,65a4,65b9,65e0,65e5",
   "2f48:66f0,6708,6728,6b20,6b62,6b79,6bb3,6bcb,6bd4,6bdb,6c0f,6c14",
   "2f54:6c34,706b,722a,7236,723b,723f,7247,7259,725b,72ac,7384,7389",
   "2f60:74dc,74e6,7518,751f,7528,7530,758b,7592,7676,767d,76ae,76bf",
   "2f6c:76ee,77db,77e2,77f3,793a,79b8,79be,7a74,7acb,7af9,7c73,7cf8",
   "2f78:7f36,7f51,7f8a,7fbd,8001,800c,8012,8033,807f,8089,81e3,81ea",
   "2f84:81f3,81fc,820c,821b,821f,826e,8272,8278,864d,866b,8840,884c",
   "2f90:8863,897e,898b,89d2,8a00,8c37,8c46,8c55,8c78,8c9d,8d64,8d70",
   "2f9c:8db3,8eab,8eca,8f9b,8fb0,8fb5,9091,9149,91c6,91cc,91d1,9577",
   "2fa8:9580,961c,96b6,96b9,96e8,9751,975e,9762,9769,97cb,97ed,97f3",
   "2fb4:9801,98a8,98db,98df,9996,9999,99ac,9aa8,9ad8,9adf,9b25,9b2f",
   "2fc0:9b32,9b3c,9b5a,9ce5,9e75,9e7f,9ea5,9ebb,9ec3,9ecd,9ed1,9ef9",
   "2fcc:9efd,9f0e,9f13,9f20,9f3b,9f4a,9f52,9f8d,9f9c,9fa0 2fd6X 3000:20 3001V 3002:2e 3003V",
   "3036:3012 3037V 3038:5341 3039+230b 303bV 3040X 3041V 3097X 3099V 309b:20.3099,20.309a 309dV",
   "309f:3088.308a 30a0V 30ff:30b3.30c8 3100X 3105V 3130X 3131-2031 3133:11aa,1102 3135-1f89",
   "3137-2034 313a-1f8a 3140:111a 3141-203b 3144:1121 3145-203c 314f-1fee 3164I 3165-2051",
   "3167-1fa0 3169:11cc,11ce,11d3,11d7,11d9,111c,11dd,11df 3171-2054 3173:1120 3174-2052",
   "3176:1127,1129 3178-204d 317d:1132,1136,1140,1147,114c 3182-1f91 3184-202d 3187-2003",
   "3189:1188 318a-1ff9 318c:1194,119e,11a1 318fX 3190V",
   "3192:4e00,4e8c,4e09,56db,4e0a,4e2d,4e0b,7532,4e59,4e19,4e01,5929 319e:5730,4eba 31a0V 31e6X",
   "31f0V",
   "3200:28.1100.29,28.1102.29,28.1103.29,28.1105.29,28.1106.29,28.1107.29,28.1109.29,28.110b.29",
   "3208:28.110c.29,28.110e.29,28.110f.29,28.1110.29,28.1111.29,28.1112.29,28.ac00.29,28.b098.29",
   "3210:28.b2e4.29,28.b77c.29,28.b9c8.29,28.bc14.29,28.c0ac.29,28.c544.29,28.c790.29,28.cc28.29",
   "3218:28.ce74.29,28.d0c0.29,28.d30c.29,28.d558.29,28.c8fc.29,28.c624.c804.29,28.c624.d6c4.29",
   "321fX",
   "3220:28.4e00.29,28.4e8c.29,28.4e09.29,28.56db.29,28.4e94.29,28.516d.29,28.4e03.29,28.516b.29",
   "3228:28.4e5d.29,28.5341.29,28.6708.29,28.706b.29,28.6c34.29,28.6728.29,28.91d1.29,28.571f.29",
   "3230:28.65e5.29,28.682a.29,28.6709.29,28.793e.29,28.540d.29,28.7279.29,28.8ca1.29,28.795d.29",
   "3238:28.52b4.29,28.4ee3.29,28.547c.29,28.5b66.29,28.76e3.29,28.4f01.29,28.8cc7.29,28.5354.29",
   "3240:28.796d.29,28.4f11.29,28.81ea.29,28.81f3.29,554f,5e7c,6587,7b8f 3248V",
   "3250:70.74.65,32.31,32.32,32.33,32.34,32.35,32.36,32.37,32.38,32.39,33.30,33.31",
   "325c:33.32,33.33,33.34,33.35,1100 3261-215f 3263-215e 3266:1109 3267-215c 3269-215b",
   "326e:ac00,b098,b2e4,b77c,b9c8,bc14,c0ac,c544,c790,cc28,ce74,d0c0",
   "327a:d30c,d558,cc38.ace0,c8fc.c758,c6b0 327fV",
   "3280:4e00,4e8c,4e09,56db,4e94,516d,4e03,516b,4e5d,5341,6708,706b",
   "328c:6c34,6728,91d1,571f,65e5,682a,6709,793e,540d,7279,8ca1,795d",
   "3298:52b4,79d8,7537,5973,9069,512a,5370,6ce8,9805,4f11,5199,6b63",
   "32a4:4e0a,4e2d,4e0b,5de6,53f3,533b,5b97,5b66,76e3,4f01,8cc7,5354",
   "32b0:591c,33.36,33.37,33.38,33.39,34.30,34.31,34.32,34.33,34.34,34.35,34.36",
   "32bc:34.37,34.38,34.39,35.30,31.6708,32.6708,33.6708,34.6708,35.6708,36.6708,37.6708,38.6708",
   "32c8:39.6708,31.30.6708,31.31.6708,31.32.6708,68.67,65.72.67,65.76,6c.74.64,30a2,30a4,30a6",
   "32d3:30a8 32d4-22a 32d6:30ad,30af,30b1,30b3,30b5,30b7,30b9,30bb,30bd,30bf,30c1,30c4",
   "32e2:30c6,30c8 32e4-21a 32ea:30d2,30d5,30d8,30db 32ee-210 32f3:30e4,30e6 32f5-20d 32fb-20c",
   "32ff:4ee4.548c,30a2.30d1.30fc.30c8,30a2.30eb.30d5.30a1,30a2.30f3.30da.30a2,30a2.30fc.30eb",
   "3304:30a4.30cb.30f3.30b0,30a4.30f3.30c1,30a6.30a9.30f3,30a8.30b9.30af.30fc.30c9",
   "3308:30a8.30fc.30ab.30fc,30aa.30f3.30b9,30aa.30fc.30e0,30ab.30a4.30ea,30ab.30e9.30c3.30c8",
   "330d:30ab.30ed.30ea.30fc,30ac.30ed.30f3,30ac.30f3.30de,30ae.30ac,30ae.30cb.30fc",
   "3312:30ad.30e5.30ea.30fc,30ae.30eb.30c0.30fc,30ad.30ed,30ad.30ed.30b0.30e9.30e0",
   "3316:30ad.30ed.30e1.30fc.30c8.30eb,30ad.30ed.30ef.30c3.30c8,30b0.30e9.30e0",
   "3319:30b0.30e9.30e0.30c8.30f3,30af.30eb.30bc.30a4.30ed,30af.30ed.30fc.30cd,30b1.30fc.30b9",
   "331d:30b3.30eb.30ca,30b3.30fc.30dd,30b5.30a4.30af.30eb,30b5.30f3.30c1.30fc.30e0",
   "3321:30b7.30ea.30f3.30b0,30bb.30f3.30c1,30bb.30f3.30c8,30c0.30fc.30b9,30c7.30b7,30c9.30eb",
   "3327:30c8.30f3,30ca.30ce,30ce.30c3.30c8,30cf.30a4.30c4,30d1.30fc.30bb.30f3.30c8",
   "332c:30d1.30fc.30c4,30d0.30fc.30ec.30eb,30d4.30a2.30b9.30c8.30eb,30d4.30af.30eb,30d4.30b3",
   "3331:30d3.30eb,30d5.30a1.30e9.30c3.30c9,30d5.30a3.30fc.30c8,30d6.30c3.30b7.30a7.30eb",
   "3335:30d5.30e9.30f3,30d8.30af.30bf.30fc.30eb,30da.30bd,30da.30cb.30d2,30d8.30eb.30c4",
   "333a:30da.30f3.30b9,30da.30fc.30b8,30d9.30fc.30bf,30dd.30a4.30f3.30c8,30dc.30eb.30c8",
   "333f:30db.30f3,30dd.30f3.30c9,30db.30fc.30eb,30db.30fc.30f3,30de.30a4.30af.30ed",
   "3344:30de.30a4.30eb,30de.30c3.30cf,30de.30eb.30af,30de.30f3.30b7.30e7.30f3",
   "3348:30df.30af.30ed.30f3,30df.30ea,30df.30ea.30d0.30fc.30eb,30e1.30ac,30e1.30ac.30c8.30f3",
   "334d:30e1.30fc.30c8.30eb,30e4.30fc.30c9,30e4.30fc.30eb,30e6.30a2.30f3,30ea.30c3.30c8.30eb",
   "3352:30ea.30e9,30eb.30d4.30fc,30eb.30fc.30d6.30eb,30ec.30e0,30ec.30f3.30c8.30b2.30f3",
   "3357:30ef.30c3.30c8,30.70b9,31.70b9,32.70b9,33.70b9,34.70b9,35.70b9,36.70b9,37.70b9,38.70b9",
   "3361:39.70b9,31.30.70b9,31.31.70b9,31.32.70b9,31.33.70b9,31.34.70b9,31.35.70b9,31.36.70b9",
   "3369:31.37.70b9,31.38.70b9,31.39.70b9,32.30.70b9,32.31.70b9,32.32.70b9,32.33.70b9,32.34.70b9",
   "3371:68.70.61,64.61,61.75,62.61.72,6f.76,70.63,64.6d,64.6d.32,64.6d.33,69.75,5e73.6210",
   "337c:662d.548c,5927.6b63,660e.6cbb,682a.5f0f.4f1a.793e,70.61,6e.61,3bc.61,6d.61,6b.61,6b.62",
   "3386:6d.62,67.62,63.61.6c,6b.63.61.6c,70.66,6e.66,3bc.66,3bc.67,6d.67,6b.67,68.7a,6b.68.7a",
   "3392:6d.68.7a,67.68.7a,74.68.7a,3bc.6c,6d.6c,64.6c,6b.6c,66.6d,6e.6d,3bc.6d,6d.6d,63.6d",
   "339e:6b.6d,6d.6d.32,63.6d.32,6d.32,6b.6d.32,6d.6d.33,63.6d.33,6d.33,6b.6d.33,6d.2215.73",
   "33a8:6d.2215.73.32,70.61,6b.70.61,6d.70.61,67.70.61,72.61.64,72.61.64.2215.73",
   "33af:72.61.64.2215.73.32,70.73,6e.73,3bc.73,6d.73,70.76,6e.76,3bc.76,6d.76,6b.76,6d.76,70.77",
   "33bb:6e.77,3bc.77,6d.77,6b.77,6d.77,6b.3c9,6d.3c9 33c2X 33c3:62.71,63.63,63.64,63.2215.6b.67",
   "33c7X 33c8:64.62,67.79,68.61,68.70,69.6e,6b.6b,6b.6d,6b.74,6c.6d,6c.6e,6c.6f.67,6c.78",
   "33d4:6d.62,6d.69.6c,6d.6f.6c,70.68 33d8X",
   "33d9:70.70.6d,70.72,73.72,73.76,77.62,76.2215.6d,61.2215.6d,31.65e5,32.65e5,33.65e5,34.65e5",
   "33e4:35.65e5,36.65e5,37.65e5,38.65e5,39.65e5,31.30.65e5,31.31.65e5,31.32.65e5,31.33.65e5",
   "33ed:31.34.65e5,31.35.65e5,31.36.65e5,31.37.65e5,31.38.65e5,31.39.65e5,32.30.65e5,32.31.65e5",
   "33f5:32.32.65e5,32.33.65e5,32.34.65e5,32.35.65e5,32.36.65e5,32.37.65e5,32.38.65e5,32.39.65e5",
   "33fd:33.30.65e5,33.31.65e5,67.61.6c 3400V a48dX a490V a4c7X a4d0V a62cX a640P a66eV a680P",
   "a69c:44a,44c a69eV a6f8X a700V a722P a730V a732P a770:a76f a771V a779P a77d:1d79 a77eP a788V",
   "a78b:a78c a78cV a78d:265 a78eV a790P a794V a796P a7aa:266,25c,261,26c,26a a7afV",
   "a7b0:29e,287,29d,ab53 a7b4P a7c4:a794,282,1d8e a7c7P a7cb:264 a7ccP a7dc:19b a7ddX",
   "a7f1:73,63,66,71,a7f6 a7f6V a7f8:127,153 a7faV a82dX a830V a83aX a840V a878X a880V a8c6X",
   "a8ceV a8daX a8e0V a954X a95fV a97dX a980V a9ceX a9cfV a9daX a9deV a9ffX aa00V aa37X aa40V",
   "aa4eX aa50V aa5aX aa5cV aac3X aadbV aaf7X ab01V ab07X ab09V ab0fX ab11V ab17X ab20V ab27X",
   "ab28V ab2fX ab30V ab5c:a727,ab37,26b,ab52 ab60V ab69:28d ab6aV ab6cX ab70-97d0 abc0V abeeX",
   "abf0V abfaX ac00V d7a4X d7b0V d7c7X d7cbV d7fcX f900:8c48,66f4,8eca,8cc8,6ed1,4e32,53e5",
   "f907=9f9c f909:5951,91d1,5587,5948,61f6,7669,7f85,863f,87ba,88f8,908f,6a02",
   "f915:6d1b,70d9,73de,843d,916a,99f1,4e82,5375,6b04,721b,862d,9e1e",
   "f921:5d50,6feb,85cd,8964,62c9,81d8,881f,5eca,6717,6d6a,72fc,90ce",
   "f92d:4f86,51b7,52de,64c4,6ad3,7210,76e7,8001,8606,865c,8def,9732",
   "f939:9b6f,9dfa,788c,797f,7da0,83c9,9304,9e7f,8ad6,58df,5f04,7c60",
   "f945:807e,7262,78ca,8cc2,96f7,58d8,5c62,6a13,6dda,6f0f,7d2f,7e37",
   "f951:964b,52d2,808b,51dc,51cc,7a1c,7dbe,83f1,9675,8b80,62cf,6a02",
   "f95d:8afe,4e39,5be7,6012,7387,7570,5317,78fb,4fbf,5fa9,4e0d,6ccc",
   "f969:6578,7d22,53c3,585e,7701,8449,8aaa,6bba,8fb0,6c88,62fe,82e5",
   "f975:63a0,7565,4eae,5169,51c9,6881,7ce7,826f,8ad2,91cf,52f5,5442",
   "f981:5973,5eec,65c5,6ffe,792a,95ad,9a6a,9e97,9ece,529b,66c6,6b77",
   "f98d:8f62,5e74,6190,6200,649a,6f23,7149,7489,79ca,7df4,806f,8f26",
   "f999:84ee,9023,934a,5217,52a3,54bd,70c8,88c2,8aaa,5ec9,5ff5,637b",
   "f9a5:6bae,7c3e,7375,4ee4,56f9,5be7,5dba,601c,73b2,7469,7f9a,8046",
   "f9b1:9234,96f6,9748,9818,4f8b,79ae,91b4,96b8,60e1,4e86,50da,5bee",
   "f9bd:5c3f,6599,6a02,71ce,7642,84fc,907c,9f8d,6688,962e,5289,677b",
   "f9c9:67f3,6d41,6e9c,7409,7559,786b,7d10,985e,516d,622e,9678,502b",
   "f9d5:5d19,6dea,8f2a,5f8b,6144,6817,7387,9686,5229,540f,5c65,6613",
   "f9e1:674e,68a8,6ce5,7406,75e2,7f79,88cf,88e1,91cc,96e2,533f,6eba",
   "f9ed:541d,71d0,7498,85fa,96a3,9c57,9e9f,6797,6dcb,81e8,7acb,7b20",
   "f9f9:7c92,72c0,7099,8b58,4ec0,8336,523a,5207,5ea6,62d3,7cd6,5b85",
   "fa05:6d1e,66b4,8f3b,884c,964d,898b,5ed3,5140,55c0 fa0eV fa10:585a fa11V fa12:6674 fa13V",
   "fa15:51de,732a,76ca,793c,795e,7965,798f,9756,7cbe,7fbd fa1fV fa20:8612 fa21V fa22:8af8 fa23V",
   "fa25:9038,90fd fa27V fa2a:98ef,98fc,9928,9db4,90de,96b7,4fae,50e7,514d,52c9,52e4,5351",
   "fa36:559d,5606,5668,5840,58a8,5c64,5c6e,6094,6168,618e,61f2,654f",
   "fa42:65e2,6691,6885,6d77,6e1a,6f22,716e,722b,7422,7891,793e,7949 fa4e:7948,7950,7956,795d",
   "fa52-80c5 fa54:7a40,7a81,7bc0,7df4,7e09,7e41,7f72,8005,81ed fa5d=8279",
   "fa5f:8457,8910,8996,8b01,8b39,8cd3,8d08,8fb6,9038,96e3,97ff,983b fa6b:6075,242ee,8218 fa6eX",
   "fa70:4e26,51b5,5168,4f80,5145,5180,52c7,52fa,559d,5555,5599,55e2",
   "fa7c:585a,58b3,5944,5954,5a62,5b28,5ed2,5ed9,5f69,5fad,60d8,614e",
   "fa88:6108,618e,6160,61f2,6234,63c4,641c,6452,6556,6674,6717,671b",
   "fa94:6756,6b79,6bba,6d41,6edb,6ecb,6f22,701e,716e,77a7,7235,72af",
   "faa0:732a,7471,7506,753b,761d,761f,76ca,76db,76f4,774a,7740,78cc",
   "faac:7ab1,7bc0,7c7b,7d5b,7df4,7f3e,8005,8352,83ef,8779,8941,8986",
   "fab8:8996,8abf,8af8,8acb,8b01,8afe,8aed,8b39,8b8a,8d08,8f38,9072",
   "fac4:9199,9276,967c,96e3,9756,97db,97ff,980b,983b,9b12,9f9c,2284a",
   "fad0:22844,233d5,3b9d,4018,4039,25249,25cd0,27ed3,9f43,9f8e fadaX",
   "fb00:66.66,66.69,66.6c,66.66.69,66.66.6c fb05=73.74 fb07X",
   "fb13:574.576,574.565,574.56b,57e.576,574.56d fb18X fb1d:5d9.5b4 fb1eV fb1f:5f2.5b7,5e2,5d0",
   "fb22-f54f fb24-f549",
   "fb27:5e8,5ea,2b,5e9.5c1,5e9.5c2,5e9.5bc.5c1,5e9.5bc.5c2,5d0.5b7,5d0.5b8,5d0.5bc,5d1.5bc",
   "fb32:5d2.5bc,5d3.5bc,5d4.5bc,5d5.5bc,5d6.5bc fb37X",
   "fb38:5d8.5bc,5d9.5bc,5da.5bc,5db.5bc,5dc.5bc fb3dX fb3e:5de.5bc fb3fX fb40:5e0.5bc,5e1.5bc",
   "fb42X fb43:5e3.5bc,5e4.5bc fb45X",
   "fb46:5e6.5bc,5e7.5bc,5e8.5bc,5e9.5bc,5ea.5bc,5d5.5b9,5d1.5bf,5db.5bf,5e4.5bf,5d0.5dc fb50=671",
   "fb52=67b fb56=67e fb5a=680 fb5e=67a fb62=67f fb66=679 fb6a=6a4 fb6e=6a6 fb72=684 fb76=683",
   "fb7a=686 fb7e=687 fb82=68d fb84=68c fb86=68e fb88=688 fb8a=698 fb8c=691 fb8e=6a9 fb92=6af",
   "fb96=6b3 fb9a=6b1 fb9e=6ba fba0=6bb fba4=6c0 fba6=6c1 fbaa=6be fbae=6d2 fbb0=6d3 fbb2V",
   "fbd3=6ad fbd7=6c7 fbd9=6c6 fbdb=6c8 fbdd:6c7.674 fbde=6cb fbe0=6c5 fbe2=6c9 fbe4=6d0 fbe8=649",
   "fbea=626.627 fbec=626.6d5 fbee=626.648 fbf0=626.6c7 fbf2=626.6c6 fbf4=626.6c8 fbf6=626.6d0",
   "fbf9=626.649 fbfc=6cc",
   "fc00:626.62c,626.62d,626.645,626.649,626.64a,628.62c,628.62d,628.62e,628.645,628.649,628.64a",
   "fc0b:62a.62c,62a.62d,62a.62e,62a.645,62a.649,62a.64a,62b.62c,62b.645,62b.649,62b.64a,62c.62d",
   "fc16:62c.645,62d.62c,62d.645,62e.62c,62e.62d,62e.645,633.62c,633.62d,633.62e,633.645,635.62d",
   "fc21:635.645,636.62c,636.62d,636.62e,636.645,637.62d,637.645,638.645,639.62c,639.645,63a.62c",
   "fc2c:63a.645,641.62c,641.62d,641.62e,641.645,641.649,641.64a,642.62d,642.645,642.649,642.64a",
   "fc37:643.627,643.62c,643.62d,643.62e,643.644,643.645,643.649,643.64a,644.62c,644.62d,644.62e",
   "fc42:644.645,644.649,644.64a,645.62c,645.62d,645.62e,645.645,645.649,645.64a,646.62c,646.62d",
   "fc4d:646.62e,646.645,646.649,646.64a,647.62c,647.645,647.649,647.64a,64a.62c,64a.62d,64a.62e",
   "fc58:64a.645,64a.649,64a.64a,630.670,631.670,649.670,20.64c.651,20.64d.651,20.64e.651",
   "fc61:20.64f.651,20.650.651,20.651.670,626.631,626.632,626.645,626.646,626.649,626.64a",
   "fc6a:628.631,628.632,628.645,628.646,628.649,628.64a,62a.631,62a.632,62a.645,62a.646,62a.649",
   "fc75:62a.64a,62b.631,62b.632,62b.645,62b.646,62b.649,62b.64a,641.649,641.64a,642.649,642.64a",
   "fc80:643.627,643.644,643.645,643.649,643.64a,644.645,644.649,644.64a,645.627,645.645,646.631",
   "fc8b:646.632,646.645,646.646,646.649,646.64a,649.670,64a.631,64a.632,64a.645,64a.646,64a.649",
   "fc96:64a.64a,626.62c,626.62d,626.62e,626.645,626.647,628.62c,628.62d,628.62e,628.645,628.647",
   "fca1:62a.62c,62a.62d,62a.62e,62a.645,62a.647,62b.645,62c.62d,62c.645,62d.62c,62d.645,62e.62c",
   "fcac:62e.645,633.62c,633.62d,633.62e,633.645,635.62d,635.62e,635.645,636.62c,636.62d,636.62e",
   "fcb7:636.645,637.62d,638.645,639.62c,639.645,63a.62c,63a.645,641.62c,641.62d,641.62e,641.645",
   "fcc2:642.62d,642.645,643.62c,643.62d,643.62e,643.644,643.645,644.62c,644.62d,644.62e,644.645",
   "fccd:644.647,645.62c,645.62d,645.62e,645.645,646.62c,646.62d,646.62e,646.645,646.647,647.62c",
   "fcd8:647.645,647.670,64a.62c,64a.62d,64a.62e,64a.645,64a.647,626.645,626.647,628.645,628.647",
   "fce3:62a.645,62a.647,62b.645,62b.647,633.645,633.647,634.645,634.647,643.644,643.645,644.645",
   "fcee:646.645,646.647,64a.645,64a.647,640.64e.651,640.64f.651,640.650.651,637.649,637.64a",
   "fcf7:639.649,639.64a,63a.649,63a.64a,633.649,633.64a,634.649,634.64a,62d.649,62d.64a,62c.649",
   "fd02:62c.64a,62e.649,62e.64a,635.649,635.64a,636.649,636.64a,634.62c,634.62d,634.62e,634.645",
   "fd0d:634.631,633.631,635.631,636.631,637.649,637.64a,639.649,639.64a,63a.649,63a.64a,633.649",
   "fd18:633.64a,634.649,634.64a,62d.649,62d.64a,62c.649,62c.64a,62e.649,62e.64a,635.649,635.64a",
   "fd23:636.649,636.64a,634.62c,634.62d,634.62e,634.645,634.631,633.631,635.631,636.631,634.62c",
   "fd2e:634.62d,634.62e,634.645,633.647,634.647,637.645,633.62c,633.62d,633.62e,634.62c,634.62d",
   "fd39:634.62e,637.645,638.645 fd3c=627.64b fd3eV fd50:62a.62c.645 fd51=62a.62d.62c",
   "fd53:62a.62d.645,62a.62e.645,62a.645.62c,62a.645.62d,62a.645.62e fd58=62c.645.62d",
   "fd5a:62d.645.64a,62d.645.649,633.62d.62c,633.62c.62d,633.62c.649 fd5f=633.645.62d",
   "fd61:633.645.62c fd62=633.645.645 fd64=635.62d.62d fd66:635.645.645 fd67=634.62d.645",
   "fd69:634.62c.64a fd6a=634.645.62e fd6c=634.645.645 fd6e:636.62d.649 fd6f=636.62e.645",
   "fd71=637.645.62d fd73:637.645.645,637.645.64a,639.62c.645 fd76=639.645.645",
   "fd78:639.645.649,63a.645.645,63a.645.64a,63a.645.649 fd7c=641.62e.645",
   "fd7e:642.645.62d,642.645.645,644.62d.645,644.62d.64a,644.62d.649 fd83=644.62c.62c",
   "fd85=644.62e.645 fd87=644.645.62d",
   "fd89:645.62d.62c,645.62d.645,645.62d.64a,645.62c.62d,645.62c.645,645.62e.62c,645.62e.645",
   "fd90V fd92:645.62c.62e,647.645.62c,647.645.645,646.62d.645,646.62d.649 fd97=646.62c.645",
   "fd99:646.62c.649,646.645.64a,646.645.649 fd9c=64a.645.645",
   "fd9e:628.62e.64a,62a.62c.64a,62a.62c.649,62a.62e.64a,62a.62e.649,62a.645.64a,62a.645.649",
   "fda5:62c.645.64a,62c.62d.649,62c.645.649,633.62e.649,635.62d.64a,634.62d.64a,636.62d.64a",
   "fdac:644.62c.64a,644.645.64a,64a.62d.64a,64a.62c.64a,64a.645.64a,645.645.64a,642.645.64a",
   "fdb3:646.62d.64a,642.645.62d,644.62d.645,639.645.64a,643.645.64a,646.62c.62d,645.62e.64a",
   "fdba:644.62c.645,643.645.645,644.62c.645,646.62c.62d,62c.62d.64a,62d.62c.64a,645.62c.64a",
   "fdc1:641.645.64a,628.62d.64a,643.645.645,639.62c.645,635.645.645,633.62e.64a,646.62c.64a",
   "fdc8V fdd0X",
   "fdf0:635.644.6d2,642.644.6d2,627.644.644.647,627.643.628.631,645.62d.645.62f,635.644.639.645",
   "fdf6:631.633.648.644,639.644.64a.647,648.633.644.645,635.644.649",
   "fdfa:635.644.649.20.627.644.644.647.20.639.644.64a.647.20.648.633.644.645",
   "fdfb:62c.644.20.62c.644.627.644.647,631.6cc.627.644 fdfdV fe00I fe10:2c,3001 fe12X fe13-fdd9",
   "fe15:21,3f fe17-ce01 fe19X fe20V fe30X fe31:2014,2013 fe33=5f fe35-fe0d fe37:7b,7d fe39-ce25",
   "fe3b-ce2b fe3d-ce33 fe3f-ce37 fe41-ce35 fe45V fe47:5b,5d fe49=20.305 fe4d=5f fe50:2c,3001",
   "fe52X fe54:3b,3a,3f,21,2014 fe59-fe31 fe5b:7b,7d fe5d-ce49 fe5f:23,26 fe61-fe37",
   "fe63:2d,3c,3e,3d fe67X fe68:5c fe69-fe45 fe6b:40 fe6cX fe70:20.64b,640.64b,20.64c fe73V",
   "fe74:20.64d fe75X",
   "fe76:20.64e,640.64e,20.64f,640.64f,20.650,640.650,20.651,640.651,20.652,640.652 fe80-f85f",
   "fe82-f860 fe84-f861 fe86-f862 fe88-f863 fe8a=626 fe8d=627 fe8f=628 fe93=629 fe95=62a fe99=62b",
   "fe9d=62c fea1=62d fea5=62e fea9=62f feab=630 fead=631 feaf=632 feb1=633 feb5=634 feb9=635",
   "febd=636 fec1=637 fec5=638 fec9=639 fecd=63a fed1=641 fed5=642 fed9=643 fedd=644 fee1=645",
   "fee5=646 fee9=647 feed=648 feef=649 fef1=64a fef5=644.622 fef7=644.623 fef9=644.625",
   "fefb=644.627 fefdX feffI ff00X ff01-fee0 ff21-fec0 ff3b-fee0 ff5f-d5da ff61:2e ff62-cf56",
   "ff64:3001,30fb,30f2,30a1,30a3,30a5,30a7,30a9,30e3,30e5,30e7,30c3",
   "ff70:30fc,30a2,30a4,30a6,30a8 ff75-cecb",
   "ff77:30ad,30af,30b1,30b3,30b5,30b7,30b9,30bb,30bd,30bf,30c1,30c4 ff83:30c6,30c8 ff85-cebb",
   "ff8b:30d2,30d5,30d8,30db ff8f-ceb1 ff94:30e4,30e6 ff96-ceae ff9c:30ef,30f3 ff9e-cf05 ffa0I",
   "ffa1-eea1 ffa3:11aa,1102 ffa5-edf9 ffa7-eea4 ffaa-edfa ffb0:111a ffb1-eeab ffb4:1121",
   "ffb5-eeac ffbfX ffc2-ee61 ffc8X ffca-ee63 ffd0X ffd2-ee65 ffd8X ffda-ee67 ffddX ffe0-ff3e",
   "ffe2:ac,20.304,a6,a5,20a9 ffe7X ffe8:2502 ffe9-de59 ffed:25a0,25cb ffefX 10000V 1000cX 1000dV",
   "10027X 10028V 1003bX 1003cV 1003eX 1003fV 1004eX 10050V 1005eX 10080V 100fbX 10100V 10103X",
   "10107V 10134X 10137V 1018fX 10190V 1019dX 101a0V 101a1X 101d0V 101feX 10280V 1029dX 102a0V",
   "102d1X 102e0V 102fcX 10300V 10324X 1032dV 1034bX 10350V 1037bX 10380V 1039eX 1039fV 103c4X",
   "103c8V 103d6X 10400+28 10428V 1049eX 104a0V 104aaX 104b0+28 104d4X 104d8V 104fcX 10500V",
   "10528X 10530V 10564X 1056fV 10570+27 1057bX 1057c+27 1058bX 1058c+27 10593X 10594+27 10596X",
   "10597V 105a2X 105a3V 105b2X 105b3V 105baX 105bbV 105bdX 105c0V 105f4X 10600V 10737X 10740V",
   "10756X 10760V 10768X 10780V 10781-104b1 10783:e6,299,253 10786X 10787:2a3,ab66,2a5,2a4",
   "1078b-10535 1078d:1d91,258,25e,2a9,264,262,260,29b,127,29c,267,284 10799-104ef",
   "1079b:26c,1df04,a78e,26e,1df05,28e,1df06,f8 107a3-1052d 107a5:71,27a,1df08 107a8-1052b",
   "107aa:280,2a8,2a6,ab67,2a7,288,2c71 107b1X 107b2:28f 107b3-10512 107b5:298 107b6-105f6",
   "107b9:1df0a,1df1e 107bbX 10800V 10806X 10808V 10809X 1080aV 10836X 10837V 10839X 1083cV",
   "1083dX 1083fV 10856X 10857V 1089fX 108a7V 108b0X 108e0V 108f3X 108f4V 108f6X 108fbV 1091cX",
   "1091fV 1093aX 1093fV 1095aX 10980V 109b8X 109bcV 109d0X 109d2V 10a04X 10a05V 10a07X 10a0cV",
   "10a14X 10a15V 10a18X 10a19V 10a36X 10a38V 10a3bX 10a3fV 10a49X 10a50V 10a59X 10a60V 10aa0X",
   "10ac0V 10ae7X 10aebV 10af7X 10b00V 10b36X 10b39V 10b56X 10b58V 10b73X 10b78V 10b92X 10b99V",
   "10b9dX 10ba9V 10bb0X 10c00V 10c49X 10c80+40 10cb3X 10cc0V 10cf3X 10cfaV 10d28X 10d30V 10d3aX",
   "10d40V 10d50+20 10d66X 10d69V 10d86X 10d8eV 10d90X 10e60V 10e7fX 10e80V 10eaaX 10eabV 10eaeX",
   "10eb0V 10eb2X 10ec2V 10ec8X 10ed0V 10ed9X 10efaV 10f28X 10f30V 10f5aX 10f70V 10f8aX 10fb0V",
   "10fccX 10fe0V 10ff7X 11000V 1104eX 11052V 11076X 1107fV 110bdX 110beV 110c3X 110d0V 110e9X",
   "110f0V 110faX 11100V 11135X 11136V 11148X 11150V 11177X 11180V 111e0X 111e1V 111f5X 11200V",
   "11212X 11213V 11242X 11280V 11287X 11288V 11289X 1128aV 1128eX 1128fV 1129eX 1129fV 112aaX",
   "112b0V 112ebX 112f0V 112faX 11300V 11304X 11305V 1130dX 1130fV 11311X 11313V 11329X 1132aV",
   "11331X 11332V 11334X 11335V 1133aX 1133bV 11345X 11347V 11349X 1134bV 1134eX 11350V 11351X",
   "11357V 11358X 1135dV 11364X 11366V 1136dX 11370V 11375X 11380V 1138aX 1138bV 1138cX 1138eV",
   "1138fX 11390V 113b6X 113b7V 113c1X 113c2V 113c3X 113c5V 113c6X 113c7V 113cbX 113ccV 113d6X",
   "113d7V 113d9X 113e1V 113e3X 11400V 1145cX 1145dV 11462X 11480V 114c8X 114d0V 114daX 11580V",
   "115b6X 115b8V 115deX 11600V 11645X 11650V 1165aX 11660V 1166dX 11680V 116baX 116c0V 116caX",
   "116d0V 116e4X 11700V 1171bX 1171dV 1172cX 11730V 11747X 11800V 1183cX 118a0+20 118c0V 118f3X",
   "118ffV 11907X 11909V 1190aX 1190cV 11914X 11915V 11917X 11918V 11936X 11937V 11939X 1193bV",
   "11947X 11950V 1195aX 119a0V 119a8X 119aaV 119d8X 119daV 119e5X 11a00V 11a48X 11a50V 11aa3X",
   "11ab0V 11af9X 11b00V 11b0aX 11b60V 11b68X 11bc0V 11be2X 11bf0V 11bfaX 11c00V 11c09X 11c0aV",
   "11c37X 11c38V 11c46X 11c50V 11c6dX 11c70V 11c90X 11c92V 11ca8X 11ca9V 11cb7X 11d00V 11d07X",
   "11d08V 11d0aX 11d0bV 11d37X 11d3aV 11d3bX 11d3cV 11d3eX 11d3fV 11d48X 11d50V 11d5aX 11d60V",
   "11d66X 11d67V 11d69X 11d6aV 11d8fX 11d90V 11d92X 11d93V 11d99X 11da0V 11daaX 11db0V 11ddcX",
   "11de0V 11deaX 11ee0V 11ef9X 11f00V 11f11X 11f12V 11f3bX 11f3eV 11f5bX 11fb0V 11fb1X 11fc0V",
   "11ff2X 11fffV 1239aX 12400V 1246fX 12470V 12475X 12480V 12544X 12f90V 12ff3X 13000V 13430X",
   "13440V 13456X 13460V 143fbX 14400V 14647X 16100V 1613aX 16800V 16a39X 16a40V 16a5fX 16a60V",
   "16a6aX 16a6eV 16abfX 16ac0V 16acaX 16ad0V 16aeeX 16af0V 16af6X 16b00V 16b46X 16b50V 16b5aX",
   "16b5bV 16b62X 16b63V 16b78X 16b7dV 16b90X 16d40V 16d7aX 16e40+20 16e60V 16e9bX 16ea0+1b",
   "16eb9X 16ebbV 16ed4X 16f00V 16f4bX 16f4fV 16f88X 16f8fV 16fa0X 16fe0V 16fe5X 16ff0V 16ff7X",
   "17000V 18cd6X 18cffV 18d1fX 18d80V 18df3X 1aff0V 1aff4X 1aff5V 1affcX 1affdV 1afffX 1b000V",
   "1b123X 1b132V 1b133X 1b150V 1b153X 1b155V 1b156X 1b164V 1b168X 1b170V 1b2fcX 1bc00V 1bc6bX",
   "1bc70V 1bc7dX 1bc80V 1bc89X 1bc90V 1bc9aX 1bc9cV 1bca0I 1bca4X 1cc00V 1ccd6-1cc75 1ccf0-1ccc0",
   "1ccfaV 1ccfdX 1cd00V 1ceb4X 1cebaV 1ced1X 1cee0V 1cef1X 1cf00V 1cf2eX 1cf30V 1cf47X 1cf50V",
   "1cfc4X 1d000V 1d0f6X 1d100V 1d127X 1d129V",
   "1d15e:1d157.1d165,1d158.1d165,1d158.1d165.1d16e,1d158.1d165.1d16f,1d158.1d165.1d170",
   "1d163:1d158.1d165.1d171,1d158.1d165.1d172 1d165V 1d173I 1d17bV",
   "1d1bb:1d1b9.1d165,1d1ba.1d165,1d1b9.1d165.1d16e,1d1ba.1d165.1d16e,1d1b9.1d165.1d16f",
   "1d1c0:1d1ba.1d165.1d16f 1d1c1V 1d1ebX 1d200V 1d246X 1d2c0V 1d2d4X 1d2e0V 1d2f4X 1d300V 1d357X",
   "1d360V 1d379X 1d400-1d39f 1d41a-1d3b9 1d434-1d3d3 1d44e-1d3ed 1d455X 1d456-1d3ed 1d468-1d407",
   "1d482-1d421 1d49c:61 1d49dX 1d49e-1d43b 1d4a0X 1d4a2:67 1d4a3X 1d4a5-1d43b 1d4a7X 1d4a9-1d43b",
   "1d4adX 1d4ae-1d43b 1d4b6-1d455 1d4baX 1d4bb:66 1d4bcX 1d4bd-1d455 1d4c4X 1d4c5-1d455",
   "1d4d0-1d46f 1d4ea-1d489 1d504-1d4a3 1d506X 1d507-1d4a3 1d50bX 1d50d-1d4a3 1d515X 1d516-1d4a3",
   "1d51dX 1d51e-1d4bd 1d538-1d4d7 1d53aX 1d53b-1d4d7 1d53fX 1d540-1d4d7 1d545X 1d546:6f 1d547X",
   "1d54a-1d4d7 1d551X 1d552-1d4f1 1d56c-1d50b 1d586-1d525 1d5a0-1d53f 1d5ba-1d559 1d5d4-1d573",
   "1d5ee-1d58d 1d608-1d5a7 1d622-1d5c1 1d63c-1d5db 1d656-1d5f5 1d670-1d60f 1d68a-1d629",
   "1d6a4:131,237 1d6a6X 1d6a8-1d2f7 1d6b9:3b8 1d6ba-1d2f7 1d6c1:2207 1d6c2-1d311 1d6d3=3c3",
   "1d6d5-1d311 1d6db:2202,3b5,3b8,3ba,3c6,3c1,3c0 1d6e2-1d331 1d6f3:3b8 1d6f4-1d331 1d6fb:2207",
   "1d6fc-1d34b 1d70d=3c3 1d70f-1d34b 1d715:2202,3b5,3b8,3ba,3c6,3c1,3c0 1d71c-1d36b 1d72d:3b8",
   "1d72e-1d36b 1d735:2207 1d736-1d385 1d747=3c3 1d749-1d385 1d74f:2202,3b5,3b8,3ba,3c6,3c1,3c0",
   "1d756-1d3a5 1d767:3b8 1d768-1d3a5 1d76f:2207 1d770-1d3bf 1d781=3c3 1d783-1d3bf",
   "1d789:2202,3b5,3b8,3ba,3c6,3c1,3c0 1d790-1d3df 1d7a1:3b8 1d7a2-1d3df 1d7a9:2207 1d7aa-1d3f9",
   "1d7bb=3c3 1d7bd-1d3f9 1d7c3:2202,3b5,3b8,3ba,3c6,3c1,3c0 1d7ca=3dd 1d7ccX 1d7ce-1d79e",
   "1d7d8-1d7a8 1d7e2-1d7b2 1d7ec-1d7bc 1d7f6-1d7c6 1d800V 1da8cX 1da9bV 1daa0X 1daa1V 1dab0X",
   "1df00V 1df1fX 1df25V 1df2bX 1e000V 1e007X 1e008V 1e019X 1e01bV 1e022X 1e023V 1e025X 1e026V",
   "1e02bX 1e030-1dc00 1e039-1dbff 1e03c-1dbfe 1e047:44b 1e048-1dbfb",
   "1e04a:a689,4d9,456,458,4e9,4af,4cf 1e051-1dc21 1e05a-1dc20 1e05c-1dc1e 1e05e:441 1e05f-1dc1c",
   "1e065-1dc1b 1e067:491,456,455,45f,4ab,a651,4b1 1e06eX 1e08fV 1e090X 1e100V 1e12dX 1e130V",
   "1e13eX 1e140V 1e14aX 1e14eV 1e150X 1e290V 1e2afX 1e2c0V 1e2faX 1e2ffV 1e300X 1e4d0V 1e4faX",
   "1e5d0V 1e5fbX 1e5ffV 1e600X 1e6c0V 1e6dfX 1e6e0V 1e6f6X 1e6feV 1e700X 1e7e0V 1e7e7X 1e7e8V",
   "1e7ecX 1e7edV 1e7efX 1e7f0V 1e7ffX 1e800V 1e8c5X 1e8c7V 1e8d7X 1e900+22 1e922V 1e94cX 1e950V",
   "1e95aX 1e95eV 1e960X 1ec71V 1ecb5X 1ed01V 1ed3eX 1ee00-1e7d9 1ee02:62c,62f 1ee04X",
   "1ee05:648,632,62d,637,64a 1ee0a-1e7c7 1ee0e:633,639,641,635,642,631,634 1ee15-1e7eb",
   "1ee17:62e,630,636,638,63a,66e,6ba,6a1,66f 1ee20X 1ee21:628,62c 1ee23X 1ee24:647 1ee25X",
   "1ee27:62d 1ee28X 1ee29:64a 1ee2a-1e7e7 1ee2e:633,639,641,635,642 1ee33X 1ee34:634 1ee35-1e80b",
   "1ee37:62e 1ee38X 1ee39:636 1ee3aX 1ee3b:63a 1ee3cX 1ee42:62c 1ee43X 1ee47:62d 1ee48X",
   "1ee49:64a 1ee4aX 1ee4b:644 1ee4cX 1ee4d:646,633,639 1ee50X 1ee51:635,642 1ee53X 1ee54:634",
   "1ee55X 1ee57:62e 1ee58X 1ee59:636 1ee5aX 1ee5b:63a 1ee5cX 1ee5d:6ba 1ee5eX 1ee5f:66f 1ee60X",
   "1ee61:628,62c 1ee63X 1ee64:647 1ee65X 1ee67:62d,637,64a,643 1ee6bX 1ee6c-1e827",
   "1ee6e:633,639,641,635,642 1ee73X 1ee74:634 1ee75-1e84b 1ee77:62e 1ee78X 1ee79:636,638,63a,66e",
   "1ee7dX 1ee7e:6a1 1ee7fX 1ee80-1e859 1ee82:62c,62f 1ee84-1e83d 1ee86:632,62d,637,64a 1ee8aX",
   "1ee8b-1e847 1ee8e:633,639,641,635,642,631,634 1ee95-1e86b 1ee97:62e,630,636,638,63a 1ee9cX",
   "1eea1:628,62c,62f 1eea4X 1eea5:648,632,62d,637,64a 1eeaaX 1eeab-1e867",
   "1eeae:633,639,641,635,642,631,634 1eeb5-1e88b 1eeb7:62e,630,636,638,63a 1eebcX 1eef0V 1eef2X",
   "1f000V 1f02cX 1f030V 1f094X 1f0a0V 1f0afX 1f0b1V 1f0c0X 1f0c1V 1f0d0X 1f0d1V 1f0f6X",
   "1f101:30.2c,31.2c,32.2c,33.2c,34.2c,35.2c,36.2c,37.2c,38.2c,39.2c 1f10bV",
   "1f110:28.61.29,28.62.29,28.63.29,28.64.29,28.65.29,28.66.29,28.67.29,28.68.29,28.69.29",
   "1f119:28.6a.29,28.6b.29,28.6c.29,28.6d.29,28.6e.29,28.6f.29,28.70.29,28.71.29,28.72.29",
   "1f122:28.73.29,28.74.29,28.75.29,28.76.29,28.77.29,28.78.29,28.79.29,28.7a.29,3014.73.3015",
   "1f12b:63,72,63.64,77.7a 1f12fV 1f130-1f0cf 1f14a:68.76,6d.76,73.64,73.73,70.70.76,77.63",
   "1f150V 1f16a:6d.63,6d.64,6d.72 1f16dV 1f190:64.6a 1f191V 1f1aeX 1f1e6V",
   "1f200:307b.304b,30b3.30b3,30b5 1f203X",
   "1f210:624b,5b57,53cc,30c7,4e8c,591a,89e3,5929,4ea4,6620,7121,6599",
   "1f21c:524d,5f8c,518d,65b0,521d,7d42,751f,8ca9,58f0,5439,6f14,6295",
   "1f228:6355,4e00,4e09,904a,5de6,4e2d,53f3,6307,8d70,6253,7981,7a7a",
   "1f234:5408,6e80,6709,6708,7533,5272,55b6,914d 1f23cX",
   "1f240:3014.672c.3015,3014.4e09.3015,3014.4e8c.3015,3014.5b89.3015,3014.70b9.3015",
   "1f245:3014.6253.3015,3014.76d7.3015,3014.52dd.3015,3014.6557.3015 1f249X 1f250:5f97,53ef",
   "1f252X 1f260V 1f266X 1f300V 1f6d9X 1f6dcV 1f6edX 1f6f0V 1f6fdX 1f700V 1f7daX 1f7e0V 1f7ecX",
   "1f7f0V 1f7f1X 1f800V 1f80cX 1f810V 1f848X 1f850V 1f85aX 1f860V 1f888X 1f890V 1f8aeX 1f8b0V",
   "1f8bcX 1f8c0V 1f8c2X 1f8d0V 1f8d9X 1f900V 1fa58X 1fa60V 1fa6eX 1fa70V 1fa7dX 1fa80V 1fa8bX",
   "1fa8eV 1fac7X 1fac8V 1fac9X 1facdV 1faddX 1fadfV 1faebX 1faefV 1faf9X 1fb00V 1fb93X 1fb94V",
   "1fbf0-1fbc0 1fbfaV 1fbfbX 20000V 2a6e0X 2a700V 2b81eX 2b820V 2ceaeX 2ceb0V 2ebe1X 2ebf0V",
   "2ee5eX 2f800:4e3d,4e38,4e41,20122,4f60,4fae,4fbb,5002,507a,5099,50e7,50cf",
   "2f80c:349e,2063a,514d,5154,5164,5177,2051c,34b9,5167,518d,2054b,5197",
   "2f818:51a4,4ecc,51ac,51b5,291df,51f5,5203,34df,523b,5246,5272,5277",
   "2f824:3515,52c7,52c9,52e4,52fa 2f829-2a524 2f82b:5317,5349,5351,535a,5373,537d 2f831=537f",
   "2f834:20a2c,7070,53ca,53df,20b63,53eb,53f1,5406,549e,5438,5448,5468",
   "2f840:54a2,54f6,5510,5553,5563 2f845=5584",
   "2f847:5599,55ab,55b3,55c2,5716,5606,5717,5651,5674,5207,58ee,57ce",
   "2f853:57f4,580d,578b,5832,5831,58ac,214e4,58f2,58f7,5906,591a,5922",
   "2f85f:5962,216a8,216ea,59ec,5a1b,5a27,59d8,5a66,36ee,36fc,5b08 2f86a=5b3e",
   "2f86c:219c8,5bc3,5bd8,5be7,5bf3,21b18,5bff,5c06,5f53,5c22,3781,5c60",
   "2f878:5c6e,5cc0,5c8d,21de4,5d43,21de6,5d6e,5d6b,5d7c 2f881-29aa0",
   "2f883:382f,5dfd,5e28,5e3d,5e69,3862,22183,387c,5eb0,5eb3,5eb6,5eca 2f88f:2a392,5efe",
   "2f891=22331 2f893:8201 2f894=5f22",
   "2f896:38c7,232b8,261da,5f62,5f6b,38e3,5f9a,5fcd,5fd7,5ff9,6081,393a",
   "2f8a2:391c,6094,226d4,60c7,6148,614c,614e,614c,617a,618e,61b2,61a4",
   "2f8ae:61af,61de,61f2,61f6,6210,621b,625d,62b1,62d4,6350,22b0c,633d",
   "2f8ba:62fc,6368,6383,63e4,22bf1,6422,63c5,63a9,3a2e,6469,647e,649d",
   "2f8c6:6477,3a6c,654f,656c,2300a,65e3,66f8,6649,3b19,6691,3b08,3ae4",
   "2f8d2:5192,5195,6700,669c,80ad,43d9,6717,671b,6721,675e,6753,233c3",
   "2f8de:3b49,67fa,6785,6852,6885,2346d,688e,681f,6914,3b9d,6942,69a3",
   "2f8ea:69ea,6aa8,236a3,6adb,3c18,6b21,238a7,6b54,3c4e,6b72,6b9f 2f8f5-28d3b",
   "2f8f7:23a8d,21d0b,23afa,6c4e,23cbc,6cbf,6ccd,6c67,6d16,6d3e,6d77,6d41",
   "2f903:6d69,6d78,6d85,23d1e,6d34,6e2f,6e6e,3d33,6ecb,6ec7,23ed1,6df9",
   "2f90f:6f6e,23f5e,23f8e,6fc6,7039,701e,701b,3d96,704a,707d,7077,70ad",
   "2f91b:20525,7145,24263,719c,243ab,7228,7235,7250,24608,7280,7295,24735",
   "2f927:24814,737a,738b,3eac,73a5 2f92c=3eb8",
   "2f92e:7447,745c,7471,7485,74ca,3f1b,7524,24c36,753e,24c92,7570,2219f",
   "2f93a:7610,24fa1,24fb8,25044,3ffc,4008,76f4,250f3,250f2,25119,25133 2f945-28227",
   "2f947:771f,774a,4039,778b,4046,4096,2541d,784e,788c,78cc,40e3,25626",
   "2f953:7956,2569a,256c5,798f,79eb,412f,7a40,7a4a,7a4f,2597c 2f95d=25aa7",
   "2f95f:7aee,4202,25bab,7bc6,7bc9,4227,25c80,7cd2,42a0,7ce8,7ce3,7d00",
   "2f96b:25f86,7d63,4301,7dc7,7e02,7e45,4334,26228,26247,4359,262d9,7f7a",
   "2f977:2633e,7f95,7ffa,8005,264da,26523,8060,265a8,8070,2335f,43d5,80b2",
   "2f983:8103,440b,813e,5ab5,267a7,267b5,23393,2339c,8201,8204,8f9e,446b",
   "2f98f:8291,828b,829d,52b3,82b1,82b3,82bd,82e6,26b3c,82e5,831d,8363",
   "2f99b:83ad,8323,83bd,83e7,8457,8353,83ca,83cc,83dc,26c36,26d6b,26cd5",
   "2f9a7:452b,84f1,84f3,8516,273ca,8564,26f2c,455d,4561,26fb1,270d2,456b",
   "2f9b3:8650,865c,8667,8669,86a9,8688,870e,86e2,8779,8728,876b,8786",
   "2f9bf:45d7,87e1,8801,45f9,8860,8863,27667,88d7,88de,4635,88fa,34bb",
   "2f9cb:278ae,27966,46be,46c7,8aa0,8aed,8b8a,8c55,27ca8,8cab,8cc1,8d1b",
   "2f9d7:8d77,27f2f,20804,8dcb,8dbc,8df0,208de,8ed4,8f38,285d2,285ed,9094",
   "2f9e3:90f1,9111,2872e,911b,9238 2f9e8-26711",
   "2f9ea:927c,93f9,9415,28bfa,958b,4995,95b7,28d77,49e6,96c3,5db2,9723",
   "2f9f6:29145,2921a,4a6e,4a76,97e0,2940a,4ab2,29496 2f9fe=980b",
   "2fa00:9829,295b6,98e2,4b33,9929,99a7,99c2,99fe,4bce,29b30,9b12,9c40",
   "2fa0c:9cfd,4cce,4ced,9d67,2a0ce,4cf8,2a105,2a20e,2a291,9ebb,4d56,9ef9",
   "2fa18:9efe,9f05,9f0f,9f16,9f3b,2a600 2fa1eX 30000V 3134bX 31350V 3347aX e0100I e01f0X"]

/-- What becomes of each character beyond ASCII. -/
def mappingTable : Table MappingRule := .ofRows MappingRule.read? mappingRows

end NamedContent.Idna
