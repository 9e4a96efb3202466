import NamedContent.Idna.Table

/-!
# Writing direction

A domain with characters that are written from right to left is displayed unambiguously only if
each of its labels keeps to one direction.

The table covers the characters beyond ASCII that a domain may hold, as of Unicode 17: an entry is
spelled `L`, `R`, `A`, `E`, `M` or `N`, in the order of the constructors below.
-/

namespace NamedContent.Idna

/-- The part of a character in the direction of a text. -/
inductive Direction
  | left
  | right
  | arabicNumber
  | europeanNumber
  /-- Marks take the direction of the character before. -/
  | mark
  /-- Signs take the direction of the text around. -/
  | neutral
deriving DecidableEq, Repr

/-- The part that an entry spells. -/
def Direction.read? : List Char → Option Direction
  | ['L'] => some .left
  | ['R'] => some .right
  | ['A'] => some .arabicNumber
  | ['E'] => some .europeanNumber
  | ['M'] => some .mark
  | ['N'] => some .neutral
  | _ => none

/-- The rows of the table. -/
def directionRows : List String :=
  ["a1N dfL f7N f8L 2b9N 2bbL 2c2N 2d0L 2d2N 2eeL 2efN 300M 371L 375N 377L 3f6N 3f8L 483M 48bL",
   "58aN 591M 5beR 5bfM 5c0R 5c1M 5c3R 5c4M 5c6R 5c7M 5d0R 606N 608R 609N 60bR 60cN 60dR 60eN",
   "610M 61bR 64bM 660A 66aN 66bA 66dR 670M 671R 6d6M 6deN 6dfM 6e5R 6e7M 6e9N 6eaM 6eeR 6f0E",
   "6faR 711M 712R 730M 74dR 7a6M 7b1R 7ebM 7f4R 7f6N 7faR 7fdM 7feR 816M 81aR 81bM 824R 825M",
   "828R 829M 830R 859M 85eR 897M 8a0R 8caM 903L 93aM 93bL 93cM 93dL 941M 949L 94dM 94eL 951M",
   "960L 962M 964L 981M 982L 9bcM 9bdL 9c1M 9c7L 9cdM 9ceL 9e2M 9e6L 9f2N 9f4L 9fbN 9fcL 9feM",
   "a03L a3cM a3eL a41M a5cL a70M a72L a75M a76L a81M a83L abcM abdL ac1M ac9L acdM ad0L ae2M",
   "ae6L af1N af9L afaM b02L b3cM b3dL b3fM b40L b41M b47L b4dM b57L b62M b66L b82M b83L bc0M",
   "bc1L bcdM bd0L bf3N c00M c01L c04M c05L c3cM c3dL c3eM c41L c46M c58L c62M c66L c78N c7fL",
   "c81M c82L cbcM cbdL cccM cd5L ce2M ce6L d00M d02L d3bM d3dL d41M d46L d4dM d4eL d62M d66L",
   "d81M d82L dcaM dcfL dd2M dd8L e31M e32L e34M e3fN e40L e47M e4fL eb1M eb2L eb4M ebdL ec8M",
   "ed0L f18M f1aL f35M f36L f37M f38L f39M f3aN f3eL f71M f7fL f80M f85L f86M f88L f8dM fbeL",
   "fc6M fc7L 102dM 1031L 1032M 1038L 1039M 103bL 103dM 103fL 1058M 105aL 105eM 1061L 1071M 1075L",
   "1082M 1083L 1085M 1087L 108dM 108eL 109dM 109eL 135dM 1360L 1390N 13a0L 1400N 1401L 169bN",
   "16a0L 1712M 1715L 1732M 1734L 1752M 1760L 1772M 1780L 17b7M 17beL 17c6M 17c7L 17c9M 17d4L",
   "17dbN 17dcL 17ddM 17e0L 17f0N 1810L 1885M 1887L 18a9M 18aaL 1920M 1923L 1927M 1929L 1932M",
   "1933L 1939M 1940N 1946L 19deN 1a00L 1a17M 1a19L 1a1bM 1a1eL 1a56M 1a57L 1a58M 1a61L 1a62M",
   "1a63L 1a65M 1a6dL 1a73M 1a80L 1ab0M 1b04L 1b34M 1b35L 1b36M 1b3bL 1b3cM 1b3dL 1b42M 1b43L",
   "1b6bM 1b74L 1b80M 1b82L 1ba2M 1ba6L 1ba8M 1baaL 1babM 1baeL 1be6M 1be7L 1be8M 1beaL 1bedM",
   "1beeL 1befM 1bf2L 1c2cM 1c34L 1c36M 1c3bL 1cd0M 1cd3L 1cd4M 1ce1L 1ce2M 1ce9L 1cedM 1ceeL",
   "1cf4M 1cf5L 1cf8M 1cfaL 1dc0M 1e01L 200cN 20d0M 2104N 214eL 218aN 2336L 237bN 2395L 2396N",
   "26acL 26adN 2800L 2900N 2c30L 2ce5N 2cecL 2cefM 2cf3L 2cf9N 2d00L 2d7fM 2d80L 2de0M 2e00N",
   "3005L 3008N 3021L 302aM 302eL 3030N 3031L 3037N 303bL 303dN 3041L 3099M 309dL 30a0N 30a1L",
   "30fbN 30fcL 31c0N 31f0L 4dc0N 4e00L a490N a4d0L a60dN a610L a66fM a673N a674M a67eN a681L",
   "a69eM a6a0L a6f0M a6f2L a700N a723L a788N a789L a802M a803L a806M a807L a80bM a80cL a825M",
   "a827L a828N a82cM a830L a838N a840L a874N a880L a8c4M a8ceL a8e0M a8f2L a8ffM a900L a926M",
   "a92eL a947M a952L a980M a983L a9b3M a9b4L a9b6M a9baL a9bcM a9beL a9e5M a9e6L aa29M aa2fL",
   "aa31M aa33L aa35M aa40L aa43M aa44L aa4cM aa4dL aa7cM aa7dL aab0M aab1L aab2M aab5L aab7M",
   "aab9L aabeM aac0L aac1M aac2L aaecM aaeeL aaf6M ab01L ab6aN abc0L abe5M abe6L abe8M abe9L",
   "abedM abf0L fb1eM fbb2R fbc3N fe20M fe45N fe73R 10000L 10101N 10102L 10140N 1018dL 10190N",
   "101d0L 101fdM 10280L 102e0M 102e1E 10300L 10376M 10380L 10800R 1091fN 10920R 10a01M 10a10R",
   "10a38M 10a40R 10ae5M 10aebR 10b39N 10b40R 10d24M 10d30A 10d40R 10d69M 10d6eN 10d6fR 10e60A",
   "10e80R 10eabM 10eadR 10ed0N 10efaM 10f00R 10f46M 10f51R 10f82M 10f86R 11000L 11001M 11002L",
   "11038M 11047L 11052N 11066L 11070M 11071L 11073M 11075L 1107fM 11082L 110b3M 110b7L 110b9M",
   "110bbL 110c2M 110d0L 11100M 11103L 11127M 1112cL 1112dM 11136L 11173M 11174L 11180M 11182L",
   "111b6M 111bfL 111c9M 111cdL 111cfM 111d0L 1122fM 11232L 11234M 11235L 11236M 11238L 1123eM",
   "1123fL 11241M 11280L 112dfM 112e0L 112e3M 112f0L 11300M 11302L 1133bM 1133dL 11340M 11341L",
   "11366M 11380L 113bbM 113c2L 113ceM 113cfL 113d0M 113d1L 113d2M 113d3L 113e1M 11400L 11438M",
   "11440L 11442M 11445L 11446M 11447L 1145eM 1145fL 114b3M 114b9L 114baM 114bbL 114bfM 114c1L",
   "114c2M 114c4L 115b2M 115b8L 115bcM 115beL 115bfM 115c1L 115dcM 11600L 11633M 1163bL 1163dM",
   "1163eL 1163fM 11641L 11660N 11680L 116abM 116acL 116adM 116aeL 116b0M 116b6L 116b7M 116b8L",
   "1171dM 11720L 11722M 11726L 11727M 11730L 1182fM 11838L 11839M 1183bL 1193bM 1193dL 1193eM",
   "1193fL 11943M 11944L 119d4M 119dcL 119e0M 119e1L 11a01M 11a07L 11a09M 11a0bL 11a33M 11a39L",
   "11a3bM 11a3fL 11a47M 11a50L 11a51M 11a57L 11a59M 11a5cL 11a8aM 11a97L 11a98M 11a9aL 11b60M",
   "11b61L 11b62M 11b65L 11b66M 11b67L 11c30M 11c3eL 11c92M 11ca9L 11caaM 11cb1L 11cb2M 11cb4L",
   "11cb5M 11d00L 11d31M 11d46L 11d47M 11d50L 11d90M 11d93L 11d95M 11d96L 11d97M 11d98L 11ef3M",
   "11ef5L 11f00M 11f02L 11f36M 11f3eL 11f40M 11f41L 11f42M 11f43L 11f5aM 11fb0L 11fd5N 11fffL",
   "13440M 13441L 13447M 13460L 1611eM 1612aL 1612dM 16130L 16af0M 16af5L 16b30M 16b37L 16f4fM",
   "16f50L 16f8fM 16f93L 16fe2N 16fe3L 16fe4M 16ff0L 1bc9dM 1bc9fL 1cc00N 1cf00M 1cf50L 1d167M",
   "1d16aL 1d17bM 1d183L 1d185M 1d18cL 1d1aaM 1d1aeL 1d1e9N 1d242M 1d245N 1d2c0L 1d300N 1d360L",
   "1da00M 1da37L 1da3bM 1da6dL 1da75M 1da76L 1da84M 1da85L 1da9bM 1df00L 1e000M 1e100L 1e130M",
   "1e137L 1e2aeM 1e2c0L 1e2ecM 1e2f0L 1e2ffN 1e4d0L 1e4ecM 1e4f0L 1e5eeM 1e5f0L 1e6e3M 1e6e4L",
   "1e6e6M 1e6e7L 1e6eeM 1e6f0L 1e6f5M 1e6feL 1e800R 1e8d0M 1e922R 1e944M 1e94bR 1eef0N 1f150L",
   "1f16dN 1f170L 1f1adN 1f1e6L 1f260N 20000L"]

/-- The directions of characters beyond ASCII. -/
def directionTable : Table Direction := .ofRows Direction.read? directionRows

/-- The direction of a character. -/
def direction (c : Char) : Direction :=
  if c.isAlpha then .left
  else if c.isDigit then .europeanNumber
  else if isAscii c then .neutral
  else (directionTable.value? c).getD .neutral

/-- Whether a character makes its domain one that is written from right to left, in part. -/
def isRightToLeft (c : Char) : Bool :=
  direction c == .right || direction c == .arabicNumber

/-- A label from left to right may end in this way, marks aside. -/
def endsLeft (d : Direction) : Bool := d == .left || d == .europeanNumber

/-- A label from right to left may end in this way, marks aside. -/
def endsRight (d : Direction) : Bool :=
  d == .right || d == .europeanNumber || d == .arabicNumber

/-- Whether a label keeps to the direction that its first character sets. Behind that character,
and without the marks at the end, nothing runs against it, and a label from right to left holds
numbers of one kind. -/
def keepsDirection (label : List Char) : Bool :=
  match label.map direction with
  | [] => true
  | first :: rest =>
    let body := rest.reverse.dropWhile (· == .mark)
    match first with
    | .left => body.head?.all endsLeft && body.all fun d => d != .right && d != .arabicNumber
    | .right =>
      body.head?.all endsRight && !body.contains .left &&
        !(body.contains .europeanNumber && body.contains .arabicNumber)
    | _ => false

end NamedContent.Idna
