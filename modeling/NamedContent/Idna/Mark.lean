import NamedContent.Idna.Table

/-!
# Combining marks

A mark belongs to the character before it. Its class orders the marks behind one character: those
of different classes may change places, but for marks of class 0, which stay where they are.
The table covers the characters that a domain may hold, as of Unicode 17: an entry is spelled `*`
and a class in hexadecimal for marks, and `-` for other characters.
-/

namespace NamedContent.Idna

/-- The class that an entry spells, or that its characters are no marks. -/
def readMark? : List Char → Option (Option Nat)
  | ['-'] => some none
  | '*' :: digits => some (some (tableNumber digits))
  | _ => none

/-- The rows of the table. -/
def markRows : List String :=
  ["a1- 300*e6 315*e8 316*dc 31a*e8 31b*d8 31c*dc 321*ca 323*dc 327*ca 329*dc 334*1 339*dc 33d*e6",
   "347*dc 34a*e6 34d*dc 350*e6 353*dc 357*e6 358*e8 359*dc 35b*e6 35c*e9 35d*ea 35f*e9 360*ea",
   "362*e9 363*e6 371- 483*e6 488*0 48b- 591*dc 592*e6 596*dc 597*e6 59a*de 59b*dc 59c*e6 5a2*dc",
   "5a8*e6 5aa*dc 5ab*e6 5ad*de 5ae*e4 5af*e6 5b0*a 5b1*b 5b2*c 5b3*d 5b4*e 5b5*f 5b6*10 5b7*11",
   "5b8*12 5b9*13 5bb*14 5bc*15 5bd*16 5be- 5bf*17 5c0- 5c1*18 5c2*19 5c3- 5c4*e6 5c5*dc 5c6-",
   "5c7*12 5d0- 610*e6 618*1e 619*1f 61a*20 61b- 64b*1b 64c*1c 64d*1d 64e*1e 64f*1f 650*20 651*21",
   "652*22 653*e6 655*dc 657*e6 65c*dc 65d*e6 65f*dc 660- 670*23 671- 6d6*e6 6de- 6df*e6 6e3*dc",
   "6e4*e6 6e5- 6e7*e6 6e9- 6ea*dc 6eb*e6 6ed*dc 6ee- 711*24 712- 730*e6 731*dc 732*e6 734*dc",
   "735*e6 737*dc 73a*e6 73b*dc 73d*e6 73e*dc 73f*e6 742*dc 743*e6 744*dc 745*e6 746*dc 747*e6",
   "748*dc 749*e6 74d- 7a6*0 7b1- 7eb*e6 7f2*dc 7f3*e6 7f4- 7fd*dc 7fe- 816*e6 81a- 81b*e6 824-",
   "825*e6 828- 829*e6 830- 859*dc 85e- 897*e6 899*dc 89c*e6 8a0- 8ca*e6 8cf*dc 8d4*e6 8e3*dc",
   "8e4*e6 8e6*dc 8e7*e6 8e9*dc 8ea*e6 8ed*dc 8f0*1b 8f1*1c 8f2*1d 8f3*e6 8f6*dc 8f7*e6 8f9*dc",
   "8fb*e6 900*0 904- 93a*0 93c*7 93d- 93e*0 94d*9 94e*0 950- 951*e6 952*dc 953*e6 955*0 960-",
   "962*0 964- 981*0 985- 9bc*7 9bd- 9be*0 9cd*9 9ce- 9d7*0 9e0- 9e2*0 9e6- 9fe*e6 a01*0 a05-",
   "a3c*7 a3e*0 a4d*9 a51*0 a5c- a70*0 a72- a75*0 a76- a81*0 a85- abc*7 abd- abe*0 acd*9 ad0-",
   "ae2*0 ae6- afa*0 b05- b3c*7 b3d- b3e*0 b4d*9 b55*0 b5f- b62*0 b66- b82*0 b83- bbe*0 bcd*9",
   "bd0- bd7*0 be6- c00*0 c05- c3c*7 c3d- c3e*0 c4d*9 c55*54 c56*5b c58- c62*0 c66- c81*0 c84-",
   "cbc*7 cbd- cbe*0 ccd*9 cd5*0 cdc- ce2*0 ce6- cf3*0 d04- d3b*9 d3d- d3e*0 d4d*9 d4e- d57*0",
   "d58- d62*0 d66- d81*0 d85- dca*9 dcf*0 de6- df2*0 df4- e31*0 e32- e34*0 e38*67 e3a*9 e3f-",
   "e47*0 e48*6b e4c*0 e4f- eb1*0 eb2- eb4*0 eb8*76 eba*9 ebb*0 ebd- ec8*7a ecc*0 ed0- f18*dc",
   "f1a- f35*dc f36- f37*dc f38- f39*d8 f3a- f3e*0 f40- f71*81 f72*82 f74*84 f7a*82 f7e*0 f80*82",
   "f82*e6 f84*9 f85- f86*e6 f88- f8d*0 fbe- fc6*dc fc7- 102b*0 1037*7 1038*0 1039*9 103b*0 103f-",
   "1056*0 105a- 105e*0 1061- 1062*0 1065- 1067*0 106e- 1071*0 1075- 1082*0 108d*dc 108e- 108f*0",
   "1090- 109a*0 109e- 135d*e6 1360- 1712*0 1714*9 171f- 1732*0 1734*9 1735- 1752*0 1760- 1772*0",
   "1780- 17b6*0 17d2*9 17d3*0 17d4- 17dd*e6 17e0- 1885*0 1887- 18a9*e4 18aa- 1920*0 1939*de",
   "193a*e6 193b*dc 1940- 1a17*e6 1a18*dc 1a19*0 1a1e- 1a55*0 1a60*9 1a61*0 1a75*e6 1a7f*dc 1a80-",
   "1ab0*e6 1ab5*dc 1abb*e6 1abd*dc 1abe*0 1abf*dc 1ac1*e6 1ac3*dc 1ac5*e6 1aca*dc 1acb*e6",
   "1add*dc 1ae0*e6 1ae6*dc 1ae7*e6 1aeb*ea 1b00*0 1b05- 1b34*7 1b35*0 1b44*9 1b45- 1b6b*e6",
   "1b6c*dc 1b6d*e6 1b74- 1b80*0 1b83- 1ba1*0 1baa*9 1bac*0 1bae- 1be6*7 1be7*0 1bf2*9 1bfc-",
   "1c24*0 1c37*7 1c3b- 1cd0*e6 1cd3- 1cd4*1 1cd5*dc 1cda*e6 1cdc*dc 1ce0*e6 1ce1*0 1ce2*1 1ce9-",
   "1ced*dc 1cee- 1cf4*e6 1cf5- 1cf7*0 1cf8*e6 1cfa- 1dc0*e6 1dc2*dc 1dc3*e6 1dca*dc 1dcb*e6",
   "1dcd*ea 1dce*d6 1dcf*dc 1dd0*ca 1dd1*e6 1df6*e8 1df7*e4 1df9*dc 1dfa*da 1dfb*e6 1dfc*e9",
   "1dfd*dc 1dfe*e6 1dff*dc 1e01- 20d0*e6 20d2*1 20d4*e6 20d8*1 20db*e6 20dd*0 20e1*e6 20e2*0",
   "20e5*1 20e7*e6 20e8*dc 20e9*e6 20ea*1 20ec*dc 20f0*e6 2104- 2cef*e6 2cf3- 2d7f*9 2d80-",
   "2de0*e6 2e00- 302a*da 302b*e4 302c*e8 302d*de 302e*e0 3030- 3099*8 309d- a66f*e6 a670*0 a673-",
   "a674*e6 a67e- a69e*e6 a6a0- a6f0*e6 a6f2- a802*0 a803- a806*9 a807- a80b*0 a80c- a823*0 a828-",
   "a82c*9 a830- a880*0 a882- a8b4*0 a8c4*9 a8c5*0 a8ce- a8e0*e6 a8f2- a8ff*0 a900- a926*0",
   "a92b*dc a92e- a947*0 a953*9 a95f- a980*0 a984- a9b3*7 a9b4*0 a9c0*9 a9c1- a9e5*0 a9e6- aa29*0",
   "aa40- aa43*0 aa44- aa4c*0 aa50- aa7b*0 aa7e- aab0*e6 aab1- aab2*e6 aab4*dc aab5- aab7*e6",
   "aab9- aabe*e6 aac0- aac1*e6 aac2- aaeb*0 aaf0- aaf5*0 aaf6*9 ab01- abe3*0 abeb- abec*0 abed*9",
   "abf0- fb1e*1a fbb2- fe20*e6 fe27*dc fe2e*e6 fe45- 101fd*dc 10280- 102e0*dc 102e1- 10376*e6",
   "10380- 10a01*0 10a0d*dc 10a0e*0 10a0f*e6 10a10- 10a38*e6 10a39*1 10a3a*dc 10a3f*9 10a40-",
   "10ae5*e6 10ae6*dc 10aeb- 10d24*e6 10d30- 10d69*e6 10d6e- 10eab*e6 10ead- 10efa*dc 10efc*0",
   "10efd*dc 10f00- 10f46*dc 10f48*e6 10f4b*dc 10f4c*e6 10f4d*dc 10f51- 10f82*e6 10f83*dc",
   "10f84*e6 10f85*dc 10f86- 11000*0 11003- 11038*0 11046*9 11047- 11070*9 11071- 11073*0 11075-",
   "1107f*9 11080*0 11083- 110b0*0 110b9*9 110ba*7 110bb- 110c2*0 110d0- 11100*e6 11103- 11127*0",
   "11133*9 11136- 11145*0 11147- 11173*7 11174- 11180*0 11183- 111b3*0 111c0*9 111c1- 111c9*0",
   "111ca*7 111cb*0 111cd- 111ce*0 111d0- 1122c*0 11235*9 11236*7 11237*0 11238- 1123e*0 1123f-",
   "11241*0 11280- 112df*0 112e9*7 112ea*9 112f0- 11300*0 11305- 1133b*7 1133d- 1133e*0 1134d*9",
   "11350- 11357*0 1135d- 11362*0 11366*e6 11380- 113b8*0 113ce*9 113d1- 113d2*0 113d3- 113e1*0",
   "11400- 11435*0 11442*9 11443*0 11446*7 11447- 1145e*e6 1145f- 114b0*0 114c2*9 114c3*7 114c4-",
   "115af*0 115bf*9 115c0*7 115c1- 115dc*0 11600- 11630*0 1163f*9 11640*0 11641- 116ab*0 116b6*9",
   "116b7*7 116b8- 1171d*0 1172b*9 11730- 1182c*0 11839*9 1183a*7 1183b- 11930*0 1193d*9 1193f-",
   "11940*0 11941- 11942*0 11943*7 11944- 119d1*0 119e0*9 119e1- 119e4*0 11a00- 11a01*0 11a0b-",
   "11a33*0 11a34*9 11a35*0 11a3a- 11a3b*0 11a3f- 11a47*9 11a50- 11a51*0 11a5c- 11a8a*0 11a99*9",
   "11a9a- 11b60*0 11bc0- 11c2f*0 11c3f*9 11c40- 11c92*0 11d00- 11d31*0 11d42*7 11d43*0 11d44*9",
   "11d46- 11d47*0 11d50- 11d8a*0 11d97*9 11d98- 11ef3*0 11ef7- 11f00*0 11f02- 11f03*0 11f04-",
   "11f34*0 11f41*9 11f43- 11f5a*0 11fb0- 13440*0 13441- 13447*0 13460- 1611e*0 1612f*9 16130-",
   "16af0*1 16af5- 16b30*e6 16b37- 16f4f*0 16f50- 16f51*0 16f93- 16fe4*0 16ff0*6 16ff2- 1bc9d*0",
   "1bc9e*1 1bc9f- 1cf00*0 1cf50- 1d165*d8 1d167*1 1d16a- 1d16d*e2 1d16e*d8 1d17b*dc 1d183-",
   "1d185*e6 1d18a*dc 1d18c- 1d1aa*e6 1d1ae- 1d242*e6 1d245- 1da00*0 1da37- 1da3b*0 1da6d-",
   "1da75*0 1da76- 1da84*0 1da85- 1da9b*0 1df00- 1e000*e6 1e100- 1e130*e6 1e137- 1e2ae*e6 1e2c0-",
   "1e2ec*e6 1e2f0- 1e4ec*e8 1e4ee*dc 1e4ef*e6 1e4f0- 1e5ee*e6 1e5ef*dc 1e5f0- 1e6e3*e6 1e6e4-",
   "1e6e6*e6 1e6e7- 1e6ee*e6 1e6f0- 1e6f5*e6 1e6fe- 1e8d0*dc 1e922- 1e944*e6 1e94a*7 1e94b-"]

/-- The classes of the marks. -/
def markTable : Table (Option Nat) := .ofRows readMark? markRows

/-- The class of a mark. -/
def markClass? (c : Char) : Option Nat := (markTable.value? c).join

/-- Whether a character belongs to the one before. -/
def isMark (c : Char) : Bool := (markClass? c).isSome

/-- The combining class of a character, which is 0 unless it is a mark. -/
def combiningClass (c : Char) : Nat := (markClass? c).getD 0

/-- The marks that join consonants have a class of their own. -/
def isVirama (c : Char) : Bool := combiningClass c == 9

end NamedContent.Idna
