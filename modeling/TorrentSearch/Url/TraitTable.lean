import TorrentSearch.Text.RangeTable

/-!
# Traits of characters in host names

Which way a character runs, whether it joins its neighbours and whether it is a mark (the Unicode
Character Database). Characters that no host name holds count with those before them.
-/

namespace TorrentSearch.Url

inductive Direction where
  | leftToRight
  | rightToLeft
  | number
  | arabicNumber
  | neutral
  /-- A mark runs like what it stands on. -/
  | mark
deriving DecidableEq, Repr

/-- On which sides a character joins its neighbours. -/
inductive Joining where
  | none
  | left
  | right
  | both
  | across
deriving DecidableEq, Repr

structure Traits where
  direction : Direction
  joining : Joining
  isMark : Bool
deriving DecidableEq, Repr

def Direction.ofLetter : Char → Direction
  | 'R' => rightToLeft
  | 'N' => number
  | 'I' => arabicNumber
  | 'O' => neutral
  | 'M' => mark
  | _ => leftToRight

/-- The traits that letters name: the direction, how the character joins if it does, and `m` for a
mark. -/
def Traits.ofText (letters : List Char) : Traits where
  direction := .ofLetter (letters.headD 'L')
  joining :=
    if letters.contains 'l' then .left
    else if letters.contains 'r' then .right
    else if letters.contains 'd' then .both
    else if letters.contains 't' then .across
    else .none
  isMark := letters.contains 'm'

/-- The traits of ranges of characters outside ASCII, such as `627Rr` for a letter that joins on its
right. -/
def traits : Text.RangeTable Traits :=
  ⟨((Text.words "80O dfL f7O f8L 2b9O 2bbL 2c2O 2d0L 2d2O 2eeL 2efO 300Mtm 371L 375O 377L 3f6O
3f8L 483Mtm 48bL 58aO 591Mtm 5beR 5bfMtm 5c0R 5c1Mtm 5c3R 5c4Mtm 5c6R 5c7Mtm 5d0R 606O 608R 609O
60bR 60cO 60dR 60eO 610Mtm 61bR 620Rd 621R 622Rr 626Rd 627Rr 628Rd 629Rr 62aRd 62fRr 633Rd 640R
641Rd 648Rr 649Rd 64bMtm 660I 66aO 66bI 66dR 66eRd 670Mtm 671Rr 674R 679Rd 688Rr 69aRd 6c0Rr 6c1Rd
6c3Rr 6ccRd 6cdRr 6ceRd 6cfRr 6d0Rd 6d2Rr 6d4R 6d5Rr 6d6Mtm 6deO 6dfMtm 6e5R 6e7Mtm 6e9O 6eaMtm
6eeRr 6f0N 6faRd 6fdR 6ffRd 700R 710Rr 711Mtm 712Rd 715Rr 71aRd 71eRr 71fRd 728Rr 729Rd 72aRr
72bRd 72cRr 72dRd 72fRr 730Mtm 74dRr 74eRd 759Rr 75cRd 76bRr 76dRd 771Rr 772Rd 773Rr 775Rd 778Rr
77aRd 780R 7a6Mtm 7b1R 7caRd 7ebMtm 7f4R 7f6O 7faR 7fdMtm 7feR 816Mtm 81aR 81bMtm 824R 825Mtm 828R
829Mtm 830R 840Rr 841Rd 846Rr 848Rd 849Rr 84aRd 854Rr 855Rd 856Rr 859Mtm 85eR 860Rd 861R 862Rd
866R 867Rr 868Rd 869Rr 883R 886Rd 887R 889Rd 88eRr 88fRd 897Mtm 8a0Rd 8aaRr 8adR 8aeRr 8afRd 8b1Rr
8b3Rd 8b9Rr 8baRd 8c9R 8caMtm 903Lm 904L 93aMtm 93bLm 93cMtm 93dL 93eLm 941Mtm 949Lm 94dMtm 94eLm
950L 951Mtm 960L 962Mtm 964L 981Mtm 982Lm 985L 9bcMtm 9bdL 9beLm 9c1Mtm 9c7Lm 9cdMtm 9ceL 9d7Lm
9e0L 9e2Mtm 9e6L 9f2O 9f4L 9fbO 9fcL 9feMtm a03Lm a05L a3cMtm a3eLm a41Mtm a5cL a70Mtm a72L a75Mtm
a76L a81Mtm a83Lm a85L abcMtm abdL abeLm ac1Mtm ac9Lm acdMtm ad0L ae2Mtm ae6L af1O af9L afaMtm
b02Lm b05L b3cMtm b3dL b3eLm b3fMtm b40Lm b41Mtm b47Lm b4dMtm b57Lm b5fL b62Mtm b66L b82Mtm b83L
bbeLm bc0Mtm bc1Lm bcdMtm bd0L bd7Lm be6L bf3O c00Mtm c01Lm c04Mtm c05L c3cMtm c3dL c3eMtm c41Lm
c46Mtm c58L c62Mtm c66L c78O c7fL c81Mtm c82Lm c84L cbcMtm cbdL cbeLm cbfLtm cc0Lm cc6Ltm cc7Lm
cccMtm cd5Lm cdcL ce2Mtm ce6L cf3Lm d00Mtm d02Lm d04L d3bMtm d3dL d3eLm d41Mtm d46Lm d4dMtm d4eL
d57Lm d58L d62Mtm d66L d81Mtm d82Lm d85L dcaMtm dcfLm dd2Mtm dd8Lm de6L df2Lm df4L e31Mtm e32L
e34Mtm e3fO e40L e47Mtm e4fL eb1Mtm eb2L eb4Mtm ebdL ec8Mtm ed0L f18Mtm f1aL f35Mtm f36L f37Mtm
f38L f39Mtm f3aO f3eLm f40L f71Mtm f7fLm f80Mtm f85L f86Mtm f88L f8dMtm fbeL fc6Mtm fc7L 102bLm
102dMtm 1031Lm 1032Mtm 1038Lm 1039Mtm 103bLm 103dMtm 103fL 1056Lm 1058Mtm 105aL 105eMtm 1061L
1062Lm 1065L 1067Lm 106eL 1071Mtm 1075L 1082Mtm 1083Lm 1085Mtm 1087Lm 108dMtm 108eL 108fLm 1090L
109aLm 109dMtm 109eL 135dMtm 1360L 1390O 13a0L 1400O 1401L 169bO 16a0L 1712Mtm 1715Lm 171fL
1732Mtm 1734Lm 1735L 1752Mtm 1760L 1772Mtm 1780L 17b6Lm 17b7Mtm 17beLm 17c6Mtm 17c7Lm 17c9Mtm
17d4L 17dbO 17dcL 17ddMtm 17e0L 17f0O 1807Od 1808O 1810L 1820Ld 1880L 1885Mtm 1887Ld 18a9Mtm
18aaLd 18b0L 1920Mtm 1923Lm 1927Mtm 1929Lm 1932Mtm 1933Lm 1939Mtm 1940O 1946L 19deO 1a00L 1a17Mtm
1a19Lm 1a1bMtm 1a1eL 1a55Lm 1a56Mtm 1a57Lm 1a58Mtm 1a61Lm 1a62Mtm 1a63Lm 1a65Mtm 1a6dLm 1a73Mtm
1a80L 1ab0Mtm 1b04Lm 1b05L 1b34Mtm 1b35Lm 1b36Mtm 1b3bLm 1b3cMtm 1b3dLm 1b42Mtm 1b43Lm 1b45L
1b6bMtm 1b74L 1b80Mtm 1b82Lm 1b83L 1ba1Lm 1ba2Mtm 1ba6Lm 1ba8Mtm 1baaLm 1babMtm 1baeL 1be6Mtm
1be7Lm 1be8Mtm 1beaLm 1bedMtm 1beeLm 1befMtm 1bf2Lm 1bfcL 1c24Lm 1c2cMtm 1c34Lm 1c36Mtm 1c3bL
1cd0Mtm 1cd3L 1cd4Mtm 1ce1Lm 1ce2Mtm 1ce9L 1cedMtm 1ceeL 1cf4Mtm 1cf5L 1cf7Lm 1cf8Mtm 1cfaL
1dc0Mtm 1e01L 200cO 20d0Mtm 2104O 214eL 218aO 2336L 237bO 2395L 2396O 26acL 26adO 2800L 2900O
2c30L 2ce5O 2cecL 2cefMtm 2cf3L 2cf9O 2d00L 2d7fMtm 2d80L 2de0Mtm 2e00O 3005L 3008O 3021L 302aMtm
302eLm 3030O 3031L 3037O 303bL 303dO 3041L 3099Mtm 309dL 30a0O 30a1L 30fbO 30fcL 31c0O 31f0L 4dc0O
4e00L a490O a4d0L a60dO a610L a66fMtm a673O a674Mtm a67eO a681L a69eMtm a6a0L a6f0Mtm a6f2L a700O
a723L a788O a789L a802Mtm a803L a806Mtm a807L a80bMtm a80cL a823Lm a825Mtm a827Lm a828O a82cMtm
a830L a838O a840Ld a872Ll a873L a874O a880Lm a882L a8b4Lm a8c4Mtm a8ceL a8e0Mtm a8f2L a8ffMtm
a900L a926Mtm a92eL a947Mtm a952Lm a95fL a980Mtm a983Lm a984L a9b3Mtm a9b4Lm a9b6Mtm a9baLm
a9bcMtm a9beLm a9c1L a9e5Mtm a9e6L aa29Mtm aa2fLm aa31Mtm aa33Lm aa35Mtm aa40L aa43Mtm aa44L
aa4cMtm aa4dLm aa50L aa7bLm aa7cMtm aa7dLm aa7eL aab0Mtm aab1L aab2Mtm aab5L aab7Mtm aab9L aabeMtm
aac0L aac1Mtm aac2L aaebLm aaecMtm aaeeLm aaf0L aaf5Lm aaf6Mtm ab01L ab6aO abc0L abe3Lm abe5Mtm
abe6Lm abe8Mtm abe9Lm abebL abecLm abedMtm abf0L fb1eMtm fbb2R fbc3O fe20Mtm fe45O fe73R 10000L
10101O 10102L 10140O 1018dL 10190O 101d0L 101fdMtm 10280L 102e0Mtm 102e1N 10300L 10376Mtm 10380L
10800R 1091fO 10920R 10a01Mtm 10a10R 10a38Mtm 10a40R 10ac0Rd 10ac5Rr 10ac6R 10ac7Rr 10ac8R 10ac9Rr
10acbR 10acdRl 10aceRr 10ad3Rd 10ad7Rl 10ad8Rd 10addRr 10adeRd 10ae1Rr 10ae2R 10ae4Rr 10ae5Mtm
10aebRd 10aefRr 10af0R 10b39O 10b40R 10b80Rd 10b81Rr 10b82Rd 10b83Rr 10b86Rd 10b89Rr 10b8aRd
10b8cRr 10b8dRd 10b8eRr 10b90Rd 10b91Rr 10b99R 10ba9Rr 10badRd 10bafR 10d00Rl 10d01Rd 10d22Rr
10d23Rd 10d24Mtm 10d30I 10d4aR 10d69Mtm 10d6eO 10d6fR 10e60I 10e80R 10eabMtm 10eadR 10ec2Rr
10ec3Rd 10ec5R 10ec6Rd 10ed0O 10efaMtm 10f00R 10f30Rd 10f33Rr 10f34Rd 10f45R 10f46Mtm 10f51Rd
10f54Rr 10f55R 10f70Rd 10f74Rr 10f76Rd 10f82Mtm 10f86R 10fb0Rd 10fb1R 10fb2Rd 10fb4Rr 10fb7R
10fb8Rd 10fb9Rr 10fbbRd 10fbdRr 10fbeRd 10fc0R 10fc1Rd 10fc2Rr 10fc4Rd 10fc5R 10fc9Rr 10fcaRd
10fcbRl 10fe0R 11000Lm 11001Mtm 11002Lm 11003L 11038Mtm 11047L 11052O 11066L 11070Mtm 11071L
11073Mtm 11075L 1107fMtm 11082Lm 11083L 110b0Lm 110b3Mtm 110b7Lm 110b9Mtm 110bbL 110c2Mtm 110d0L
11100Mtm 11103L 11127Mtm 1112cLm 1112dMtm 11136L 11145Lm 11147L 11173Mtm 11174L 11180Mtm 11182Lm
11183L 111b3Lm 111b6Mtm 111bfLm 111c1L 111c9Mtm 111cdL 111ceLm 111cfMtm 111d0L 1122cLm 1122fMtm
11232Lm 11234Mtm 11235Lm 11236Mtm 11238L 1123eMtm 1123fL 11241Mtm 11280L 112dfMtm 112e0Lm 112e3Mtm
112f0L 11300Mtm 11302Lm 11305L 1133bMtm 1133dL 1133eLm 11340Mtm 11341Lm 11350L 11357Lm 1135dL
11362Lm 11366Mtm 11380L 113b8Lm 113bbMtm 113c2Lm 113ceMtm 113cfLm 113d0Mtm 113d1L 113d2Mtm 113d3L
113e1Mtm 11400L 11435Lm 11438Mtm 11440Lm 11442Mtm 11445Lm 11446Mtm 11447L 1145eMtm 1145fL 114b0Lm
114b3Mtm 114b9Lm 114baMtm 114bbLm 114bfMtm 114c1Lm 114c2Mtm 114c4L 115afLm 115b2Mtm 115b8Lm
115bcMtm 115beLm 115bfMtm 115c1L 115dcMtm 11600L 11630Lm 11633Mtm 1163bLm 1163dMtm 1163eLm
1163fMtm 11641L 11660O 11680L 116abMtm 116acLm 116adMtm 116aeLm 116b0Mtm 116b6Lm 116b7Mtm 116b8L
1171dMtm 1171eLm 1171fMtm 11720Lm 11722Mtm 11726Lm 11727Mtm 11730L 1182cLm 1182fMtm 11838Lm
11839Mtm 1183bL 11930Lm 1193bMtm 1193dLm 1193eMtm 1193fL 11940Lm 11941L 11942Lm 11943Mtm 11944L
119d1Lm 119d4Mtm 119dcLm 119e0Mtm 119e1L 119e4Lm 11a00L 11a01Mtm 11a07Ltm 11a09Mtm 11a0bL 11a33Mtm
11a39Lm 11a3aL 11a3bMtm 11a3fL 11a47Mtm 11a50L 11a51Mtm 11a57Lm 11a59Mtm 11a5cL 11a8aMtm 11a97Lm
11a98Mtm 11a9aL 11b60Mtm 11b61Lm 11b62Mtm 11b65Lm 11b66Mtm 11b67Lm 11bc0L 11c2fLm 11c30Mtm 11c3eLm
11c3fLtm 11c40L 11c92Mtm 11ca9Lm 11caaMtm 11cb1Lm 11cb2Mtm 11cb4Lm 11cb5Mtm 11d00L 11d31Mtm 11d46L
11d47Mtm 11d50L 11d8aLm 11d90Mtm 11d93Lm 11d95Mtm 11d96Lm 11d97Mtm 11d98L 11ef3Mtm 11ef5Lm 11ef7L
11f00Mtm 11f02L 11f03Lm 11f04L 11f34Lm 11f36Mtm 11f3eLm 11f40Mtm 11f41Lm 11f42Mtm 11f43L 11f5aMtm
11fb0L 11fd5O 11fffL 13440Mtm 13441L 13447Mtm 13460L 1611eMtm 1612aLm 1612dMtm 16130L 16af0Mtm
16af5L 16b30Mtm 16b37L 16f4fMtm 16f50L 16f51Lm 16f8fMtm 16f93L 16fe2O 16fe3L 16fe4Mtm 16ff0Lm
16ff2L 1bc9dMtm 1bc9fL 1cc00O 1cf00Mtm 1cf50L 1d165Lm 1d167Mtm 1d16aL 1d16dLm 1d17bMtm 1d183L
1d185Mtm 1d18cL 1d1aaMtm 1d1aeL 1d1e9O 1d242Mtm 1d245O 1d2c0L 1d300O 1d360L 1da00Mtm 1da37L
1da3bMtm 1da6dL 1da75Mtm 1da76L 1da84Mtm 1da85L 1da9bMtm 1df00L 1e000Mtm 1e100L 1e130Mtm 1e137L
1e2aeMtm 1e2c0L 1e2ecMtm 1e2f0L 1e2ffO 1e4d0L 1e4ecMtm 1e4f0L 1e5eeMtm 1e5f0L 1e6e3Mtm 1e6e4L
1e6e6Mtm 1e6e7L 1e6eeMtm 1e6f0L 1e6f5Mtm 1e6feL 1e800R 1e8d0Mtm 1e922Rd 1e944Mtm 1e94bRt 1e950R
1eef0O 1f150L 1f16dO 1f170L 1f1adO 1f1e6L 1f260O 20000L").map fun w =>
    let start := w.takeWhile Text.isHexDigit
    (Text.hexNumber start, Traits.ofText (w.drop start.length))).toArray⟩

end TorrentSearch.Url
