import FunctionHost.Text.Ranges
/-!
# Character classes for label validity

The checks a domain label must pass after mapping look at four properties of its characters,
each kept as table text read once into a sorted array:

* the combining marks (general category `M`): ranges `first-last`;
* the viramas (canonical combining class 9): code points;
* the joining types of the cursive scripts: ranges `first-last` and a letter, `D` dual, `L` left,
  `R` right, `T` transparent, `C` join causing; other code points do not join;
* the bidirectional classes: the first code point of each run of one class and a letter, `L`
  left-to-right, `R` right-to-left, `A` Arabic letter, `N` Arabic number, `E` European number,
  `S` European separator, `C` common separator, `T` European terminator, `O` other neutral,
  `B` boundary neutral, `M` non-spacing mark, `X` any other class.

Entries are separated by semicolons, in increasing order; numbers are hexadecimal.
-/
namespace FunctionHost.Url.Idna

open Text

def markText : String :=
  String.join [
    "300-36f;483-489;591-5bd;5bf-5bf;5c1-5c2;5c4-5c5;5c7-5c7;610-61a;64b-65f;670-670;6d6-6dc;6df-",
    "6e4;6e7-6e8;6ea-6ed;711-711;730-74a;7a6-7b0;7eb-7f3;7fd-7fd;816-819;81b-823;825-827;829-82d;",
    "859-85b;897-89f;8ca-8e1;8e3-903;93a-93c;93e-94f;951-957;962-963;981-983;9bc-9bc;9be-9c4;9c7-",
    "9c8;9cb-9cd;9d7-9d7;9e2-9e3;9fe-9fe;a01-a03;a3c-a3c;a3e-a42;a47-a48;a4b-a4d;a51-a51;a70-a71;",
    "a75-a75;a81-a83;abc-abc;abe-ac5;ac7-ac9;acb-acd;ae2-ae3;afa-aff;b01-b03;b3c-b3c;b3e-b44;b47-",
    "b48;b4b-b4d;b55-b57;b62-b63;b82-b82;bbe-bc2;bc6-bc8;bca-bcd;bd7-bd7;c00-c04;c3c-c3c;c3e-c44;",
    "c46-c48;c4a-c4d;c55-c56;c62-c63;c81-c83;cbc-cbc;cbe-cc4;cc6-cc8;cca-ccd;cd5-cd6;ce2-ce3;cf3-",
    "cf3;d00-d03;d3b-d3c;d3e-d44;d46-d48;d4a-d4d;d57-d57;d62-d63;d81-d83;dca-dca;dcf-dd4;dd6-dd6;",
    "dd8-ddf;df2-df3;e31-e31;e34-e3a;e47-e4e;eb1-eb1;eb4-ebc;ec8-ece;f18-f19;f35-f35;f37-f37;f39-",
    "f39;f3e-f3f;f71-f84;f86-f87;f8d-f97;f99-fbc;fc6-fc6;102b-103e;1056-1059;105e-1060;1062-1064;",
    "1067-106d;1071-1074;1082-108d;108f-108f;109a-109d;135d-135f;1712-1715;1732-1734;1752-1753;17",
    "72-1773;17b4-17d3;17dd-17dd;180b-180d;180f-180f;1885-1886;18a9-18a9;1920-192b;1930-193b;1a17",
    "-1a1b;1a55-1a5e;1a60-1a7c;1a7f-1a7f;1ab0-1add;1ae0-1aeb;1b00-1b04;1b34-1b44;1b6b-1b73;1b80-1",
    "b82;1ba1-1bad;1be6-1bf3;1c24-1c37;1cd0-1cd2;1cd4-1ce8;1ced-1ced;1cf4-1cf4;1cf7-1cf9;1dc0-1df",
    "f;20d0-20f0;2cef-2cf1;2d7f-2d7f;2de0-2dff;302a-302f;3099-309a;a66f-a672;a674-a67d;a69e-a69f;",
    "a6f0-a6f1;a802-a802;a806-a806;a80b-a80b;a823-a827;a82c-a82c;a880-a881;a8b4-a8c5;a8e0-a8f1;a8",
    "ff-a8ff;a926-a92d;a947-a953;a980-a983;a9b3-a9c0;a9e5-a9e5;aa29-aa36;aa43-aa43;aa4c-aa4d;aa7b",
    "-aa7d;aab0-aab0;aab2-aab4;aab7-aab8;aabe-aabf;aac1-aac1;aaeb-aaef;aaf5-aaf6;abe3-abea;abec-a",
    "bed;fb1e-fb1e;fe00-fe0f;fe20-fe2f;101fd-101fd;102e0-102e0;10376-1037a;10a01-10a03;10a05-10a0",
    "6;10a0c-10a0f;10a38-10a3a;10a3f-10a3f;10ae5-10ae6;10d24-10d27;10d69-10d6d;10eab-10eac;10efa-",
    "10eff;10f46-10f50;10f82-10f85;11000-11002;11038-11046;11070-11070;11073-11074;1107f-11082;11",
    "0b0-110ba;110c2-110c2;11100-11102;11127-11134;11145-11146;11173-11173;11180-11182;111b3-111c",
    "0;111c9-111cc;111ce-111cf;1122c-11237;1123e-1123e;11241-11241;112df-112ea;11300-11303;1133b-",
    "1133c;1133e-11344;11347-11348;1134b-1134d;11357-11357;11362-11363;11366-1136c;11370-11374;11",
    "3b8-113c0;113c2-113c2;113c5-113c5;113c7-113ca;113cc-113d0;113d2-113d2;113e1-113e2;11435-1144",
    "6;1145e-1145e;114b0-114c3;115af-115b5;115b8-115c0;115dc-115dd;11630-11640;116ab-116b7;1171d-",
    "1172b;1182c-1183a;11930-11935;11937-11938;1193b-1193e;11940-11940;11942-11943;119d1-119d7;11",
    "9da-119e0;119e4-119e4;11a01-11a0a;11a33-11a39;11a3b-11a3e;11a47-11a47;11a51-11a5b;11a8a-11a9",
    "9;11b60-11b67;11c2f-11c36;11c38-11c3f;11c92-11ca7;11ca9-11cb6;11d31-11d36;11d3a-11d3a;11d3c-",
    "11d3d;11d3f-11d45;11d47-11d47;11d8a-11d8e;11d90-11d91;11d93-11d97;11ef3-11ef6;11f00-11f01;11",
    "f03-11f03;11f34-11f3a;11f3e-11f42;11f5a-11f5a;13440-13440;13447-13455;1611e-1612f;16af0-16af",
    "4;16b30-16b36;16f4f-16f4f;16f51-16f87;16f8f-16f92;16fe4-16fe4;16ff0-16ff1;1bc9d-1bc9e;1cf00-",
    "1cf2d;1cf30-1cf46;1d165-1d169;1d16d-1d172;1d17b-1d182;1d185-1d18b;1d1aa-1d1ad;1d242-1d244;1d",
    "a00-1da36;1da3b-1da6c;1da75-1da75;1da84-1da84;1da9b-1da9f;1daa1-1daaf;1e000-1e006;1e008-1e01",
    "8;1e01b-1e021;1e023-1e024;1e026-1e02a;1e08f-1e08f;1e130-1e136;1e2ae-1e2ae;1e2ec-1e2ef;1e4ec-",
    "1e4ef;1e5ee-1e5ef;1e6e3-1e6e3;1e6e6-1e6e6;1e6ee-1e6ef;1e6f5-1e6f5;1e8d0-1e8d6;1e944-1e94a;e0",
    "100-e01ef"]

def markTable : Array (Nat × Nat × Char) := readRanges markText

def isMark (cp : Nat) : Bool := (rangeTag markTable cp).isSome

def viramaText : String :=
  String.join [
    "94d;9cd;a4d;acd;b4d;bcd;c4d;ccd;d3b;d3c;d4d;dca;e3a;eba;f84;1039;103a;1714;1715;1734;17d2;1a",
    "60;1b44;1baa;1bab;1bf2;1bf3;2d7f;a806;a82c;a8c4;a953;a9c0;aaf6;abed;10a3f;11046;11070;1107f;",
    "110b9;11133;11134;111c0;11235;112ea;1134d;113ce;113cf;113d0;11442;114c2;115bf;1163f;116b6;11",
    "72b;11839;1193d;1193e;119e0;11a34;11a47;11a99;11c3f;11d44;11d45;11d97;11f41;11f42;1612f"]

def viramas : List Nat := ((viramaText.toList.splitOn ';').filterMap pointOf).map (·.1)

def isVirama (cp : Nat) : Bool := viramas.contains cp

def joiningText : String :=
  String.join [
    "ad-adT;300-36fT;483-489T;591-5bdT;5bf-5bfT;5c1-5c2T;5c4-5c5T;5c7-5c7T;610-61aT;61c-61cT;620-",
    "620D;622-625R;626-626D;627-627R;628-628D;629-629R;62a-62eD;62f-632R;633-63fD;640-640C;641-64",
    "7D;648-648R;649-64aD;64b-65fT;66e-66fD;670-670T;671-673R;675-677R;678-687D;688-699R;69a-6bfD",
    ";6c0-6c0R;6c1-6c2D;6c3-6cbR;6cc-6ccD;6cd-6cdR;6ce-6ceD;6cf-6cfR;6d0-6d1D;6d2-6d3R;6d5-6d5R;6",
    "d6-6dcT;6df-6e4T;6e7-6e8T;6ea-6edT;6ee-6efR;6fa-6fcD;6ff-6ffD;70f-70fT;710-710R;711-711T;712",
    "-714D;715-719R;71a-71dD;71e-71eR;71f-727D;728-728R;729-729D;72a-72aR;72b-72bD;72c-72cR;72d-7",
    "2eD;72f-72fR;730-74aT;74d-74dR;74e-758D;759-75bR;75c-76aD;76b-76cR;76d-770D;771-771R;772-772",
    "D;773-774R;775-777D;778-779R;77a-77fD;7a6-7b0T;7ca-7eaD;7eb-7f3T;7fa-7faC;7fd-7fdT;816-819T;",
    "81b-823T;825-827T;829-82dT;840-840R;841-845D;846-847R;848-848D;849-849R;84a-853D;854-854R;85",
    "5-855D;856-858R;859-85bT;860-860D;862-865D;867-867R;868-868D;869-86aR;870-882R;883-885C;886-",
    "886D;889-88dD;88e-88eR;88f-88fD;897-89fT;8a0-8a9D;8aa-8acR;8ae-8aeR;8af-8b0D;8b1-8b2R;8b3-8b",
    "8D;8b9-8b9R;8ba-8c8D;8ca-8e1T;8e3-902T;93a-93aT;93c-93cT;941-948T;94d-94dT;951-957T;962-963T",
    ";981-981T;9bc-9bcT;9c1-9c4T;9cd-9cdT;9e2-9e3T;9fe-9feT;a01-a02T;a3c-a3cT;a41-a42T;a47-a48T;a",
    "4b-a4dT;a51-a51T;a70-a71T;a75-a75T;a81-a82T;abc-abcT;ac1-ac5T;ac7-ac8T;acd-acdT;ae2-ae3T;afa",
    "-affT;b01-b01T;b3c-b3cT;b3f-b3fT;b41-b44T;b4d-b4dT;b55-b56T;b62-b63T;b82-b82T;bc0-bc0T;bcd-b",
    "cdT;c00-c00T;c04-c04T;c3c-c3cT;c3e-c40T;c46-c48T;c4a-c4dT;c55-c56T;c62-c63T;c81-c81T;cbc-cbc",
    "T;cbf-cbfT;cc6-cc6T;ccc-ccdT;ce2-ce3T;d00-d01T;d3b-d3cT;d41-d44T;d4d-d4dT;d62-d63T;d81-d81T;",
    "dca-dcaT;dd2-dd4T;dd6-dd6T;e31-e31T;e34-e3aT;e47-e4eT;eb1-eb1T;eb4-ebcT;ec8-eceT;f18-f19T;f3",
    "5-f35T;f37-f37T;f39-f39T;f71-f7eT;f80-f84T;f86-f87T;f8d-f97T;f99-fbcT;fc6-fc6T;102d-1030T;10",
    "32-1037T;1039-103aT;103d-103eT;1058-1059T;105e-1060T;1071-1074T;1082-1082T;1085-1086T;108d-1",
    "08dT;109d-109dT;135d-135fT;1712-1714T;1732-1733T;1752-1753T;1772-1773T;17b4-17b5T;17b7-17bdT",
    ";17c6-17c6T;17c9-17d3T;17dd-17ddT;1807-1807D;180a-180aC;180b-180dT;180f-180fT;1820-1878D;188",
    "5-1886T;1887-18a8D;18a9-18a9T;18aa-18aaD;1920-1922T;1927-1928T;1932-1932T;1939-193bT;1a17-1a",
    "18T;1a1b-1a1bT;1a56-1a56T;1a58-1a5eT;1a60-1a60T;1a62-1a62T;1a65-1a6cT;1a73-1a7cT;1a7f-1a7fT;",
    "1ab0-1addT;1ae0-1aebT;1b00-1b03T;1b34-1b34T;1b36-1b3aT;1b3c-1b3cT;1b42-1b42T;1b6b-1b73T;1b80",
    "-1b81T;1ba2-1ba5T;1ba8-1ba9T;1bab-1badT;1be6-1be6T;1be8-1be9T;1bed-1bedT;1bef-1bf1T;1c2c-1c3",
    "3T;1c36-1c37T;1cd0-1cd2T;1cd4-1ce0T;1ce2-1ce8T;1ced-1cedT;1cf4-1cf4T;1cf8-1cf9T;1dc0-1dffT;2",
    "00b-200bT;200d-200dC;200e-200fT;202a-202eT;2060-2064T;206a-206fT;20d0-20f0T;2cef-2cf1T;2d7f-",
    "2d7fT;2de0-2dffT;302a-302dT;3099-309aT;a66f-a672T;a674-a67dT;a69e-a69fT;a6f0-a6f1T;a802-a802",
    "T;a806-a806T;a80b-a80bT;a825-a826T;a82c-a82cT;a840-a871D;a872-a872L;a8c4-a8c5T;a8e0-a8f1T;a8",
    "ff-a8ffT;a926-a92dT;a947-a951T;a980-a982T;a9b3-a9b3T;a9b6-a9b9T;a9bc-a9bdT;a9e5-a9e5T;aa29-a",
    "a2eT;aa31-aa32T;aa35-aa36T;aa43-aa43T;aa4c-aa4cT;aa7c-aa7cT;aab0-aab0T;aab2-aab4T;aab7-aab8T",
    ";aabe-aabfT;aac1-aac1T;aaec-aaedT;aaf6-aaf6T;abe5-abe5T;abe8-abe8T;abed-abedT;fb1e-fb1eT;fe0",
    "0-fe0fT;fe20-fe2fT;feff-feffT;fff9-fffbT;101fd-101fdT;102e0-102e0T;10376-1037aT;10a01-10a03T",
    ";10a05-10a06T;10a0c-10a0fT;10a38-10a3aT;10a3f-10a3fT;10ac0-10ac4D;10ac5-10ac5R;10ac7-10ac7R;",
    "10ac9-10acaR;10acd-10acdL;10ace-10ad2R;10ad3-10ad6D;10ad7-10ad7L;10ad8-10adcD;10add-10addR;1",
    "0ade-10ae0D;10ae1-10ae1R;10ae4-10ae4R;10ae5-10ae6T;10aeb-10aeeD;10aef-10aefR;10b80-10b80D;10",
    "b81-10b81R;10b82-10b82D;10b83-10b85R;10b86-10b88D;10b89-10b89R;10b8a-10b8bD;10b8c-10b8cR;10b",
    "8d-10b8dD;10b8e-10b8fR;10b90-10b90D;10b91-10b91R;10ba9-10bacR;10bad-10baeD;10d00-10d00L;10d0",
    "1-10d21D;10d22-10d22R;10d23-10d23D;10d24-10d27T;10d69-10d6dT;10eab-10eacT;10ec2-10ec2R;10ec3",
    "-10ec4D;10ec6-10ec7D;10efa-10effT;10f30-10f32D;10f33-10f33R;10f34-10f44D;10f46-10f50T;10f51-",
    "10f53D;10f54-10f54R;10f70-10f73D;10f74-10f75R;10f76-10f81D;10f82-10f85T;10fb0-10fb0D;10fb2-1",
    "0fb3D;10fb4-10fb6R;10fb8-10fb8D;10fb9-10fbaR;10fbb-10fbcD;10fbd-10fbdR;10fbe-10fbfD;10fc1-10",
    "fc1D;10fc2-10fc3R;10fc4-10fc4D;10fc9-10fc9R;10fca-10fcaD;10fcb-10fcbL;11001-11001T;11038-110",
    "46T;11070-11070T;11073-11074T;1107f-11081T;110b3-110b6T;110b9-110baT;110c2-110c2T;11100-1110",
    "2T;11127-1112bT;1112d-11134T;11173-11173T;11180-11181T;111b6-111beT;111c9-111ccT;111cf-111cf",
    "T;1122f-11231T;11234-11234T;11236-11237T;1123e-1123eT;11241-11241T;112df-112dfT;112e3-112eaT",
    ";11300-11301T;1133b-1133cT;11340-11340T;11366-1136cT;11370-11374T;113bb-113c0T;113ce-113ceT;",
    "113d0-113d0T;113d2-113d2T;113e1-113e2T;11438-1143fT;11442-11444T;11446-11446T;1145e-1145eT;1",
    "14b3-114b8T;114ba-114baT;114bf-114c0T;114c2-114c3T;115b2-115b5T;115bc-115bdT;115bf-115c0T;11",
    "5dc-115ddT;11633-1163aT;1163d-1163dT;1163f-11640T;116ab-116abT;116ad-116adT;116b0-116b5T;116",
    "b7-116b7T;1171d-1171dT;1171f-1171fT;11722-11725T;11727-1172bT;1182f-11837T;11839-1183aT;1193",
    "b-1193cT;1193e-1193eT;11943-11943T;119d4-119d7T;119da-119dbT;119e0-119e0T;11a01-11a0aT;11a33",
    "-11a38T;11a3b-11a3eT;11a47-11a47T;11a51-11a56T;11a59-11a5bT;11a8a-11a96T;11a98-11a99T;11b60-",
    "11b60T;11b62-11b64T;11b66-11b66T;11c30-11c36T;11c38-11c3dT;11c3f-11c3fT;11c92-11ca7T;11caa-1",
    "1cb0T;11cb2-11cb3T;11cb5-11cb6T;11d31-11d36T;11d3a-11d3aT;11d3c-11d3dT;11d3f-11d45T;11d47-11",
    "d47T;11d90-11d91T;11d95-11d95T;11d97-11d97T;11ef3-11ef4T;11f00-11f01T;11f36-11f3aT;11f40-11f",
    "40T;11f42-11f42T;11f5a-11f5aT;13430-13440T;13447-13455T;1611e-16129T;1612d-1612fT;16af0-16af",
    "4T;16b30-16b36T;16f4f-16f4fT;16f8f-16f92T;16fe4-16fe4T;1bc9d-1bc9eT;1bca0-1bca3T;1cf00-1cf2d",
    "T;1cf30-1cf46T;1d167-1d169T;1d173-1d182T;1d185-1d18bT;1d1aa-1d1adT;1d242-1d244T;1da00-1da36T",
    ";1da3b-1da6cT;1da75-1da75T;1da84-1da84T;1da9b-1da9fT;1daa1-1daafT;1e000-1e006T;1e008-1e018T;",
    "1e01b-1e021T;1e023-1e024T;1e026-1e02aT;1e08f-1e08fT;1e130-1e136T;1e2ae-1e2aeT;1e2ec-1e2efT;1",
    "e4ec-1e4efT;1e5ee-1e5efT;1e6e3-1e6e3T;1e6e6-1e6e6T;1e6ee-1e6efT;1e6f5-1e6f5T;1e8d0-1e8d6T;1e",
    "900-1e943D;1e944-1e94bT;e0001-e0001T;e0020-e007fT;e0100-e01efT"]

def joiningTable : Array (Nat × Nat × Char) := readRanges joiningText

/-- The joining type letter of a code point, `U` for one that does not join. -/
def joiningType (cp : Nat) : Char := (rangeTag joiningTable cp).getD 'U'

def bidiText : String :=
  String.join [
    "0B;9X;eB;1cX;21O;23T;26O;2bS;2cC;2dS;2eC;30E;3aC;3bO;41L;5bO;61L;7bO;7fB;85X;86B;a0C;a1O;a2T",
    ";a6O;aaL;abO;adB;aeO;b0T;b2E;b4O;b5L;b6O;b9E;baL;bbO;c0L;d7O;d8L;f7O;f8L;2b9O;2bbL;2c2O;2d0L",
    ";2d2O;2e0L;2e5O;2eeL;2efO;300M;370L;374O;376L;37eO;37fL;384O;386L;387O;388L;3f6O;3f7L;483M;4",
    "8aL;58aO;58bL;58dO;58fT;590R;591M;5beR;5bfM;5c0R;5c1M;5c3R;5c4M;5c6R;5c7M;5c8R;600N;606O;608",
    "A;609T;60bA;60cC;60dA;60eO;610M;61bA;64bM;660N;66aT;66bN;66dA;670M;671A;6d6M;6ddN;6deO;6dfM;",
    "6e5A;6e7M;6e9O;6eaM;6eeA;6f0E;6faA;711M;712A;730M;74bA;7a6M;7b1A;7c0R;7ebM;7f4R;7f6O;7faR;7f",
    "dM;7feR;816M;81aR;81bM;824R;825M;828R;829M;82eR;859M;85cR;860A;890N;892A;897M;8a0A;8caM;8e2N",
    ";8e3M;903L;93aM;93bL;93cM;93dL;941M;949L;94dM;94eL;951M;958L;962M;964L;981M;982L;9bcM;9bdL;9",
    "c1M;9c5L;9cdM;9ceL;9e2M;9e4L;9f2T;9f4L;9fbT;9fcL;9feM;9ffL;a01M;a03L;a3cM;a3dL;a41M;a43L;a47",
    "M;a49L;a4bM;a4eL;a51M;a52L;a70M;a72L;a75M;a76L;a81M;a83L;abcM;abdL;ac1M;ac6L;ac7M;ac9L;acdM;",
    "aceL;ae2M;ae4L;af1T;af2L;afaM;b00L;b01M;b02L;b3cM;b3dL;b3fM;b40L;b41M;b45L;b4dM;b4eL;b55M;b5",
    "7L;b62M;b64L;b82M;b83L;bc0M;bc1L;bcdM;bceL;bf3O;bf9T;bfaO;bfbL;c00M;c01L;c04M;c05L;c3cM;c3dL",
    ";c3eM;c41L;c46M;c49L;c4aM;c4eL;c55M;c57L;c62M;c64L;c78O;c7fL;c81M;c82L;cbcM;cbdL;cccM;cceL;c",
    "e2M;ce4L;d00M;d02L;d3bM;d3dL;d41M;d45L;d4dM;d4eL;d62M;d64L;d81M;d82L;dcaM;dcbL;dd2M;dd5L;dd6",
    "M;dd7L;e31M;e32L;e34M;e3bL;e3fT;e40L;e47M;e4fL;eb1M;eb2L;eb4M;ebdL;ec8M;ecfL;f18M;f1aL;f35M;",
    "f36L;f37M;f38L;f39M;f3aO;f3eL;f71M;f7fL;f80M;f85L;f86M;f88L;f8dM;f98L;f99M;fbdL;fc6M;fc7L;10",
    "2dM;1031L;1032M;1038L;1039M;103bL;103dM;103fL;1058M;105aL;105eM;1061L;1071M;1075L;1082M;1083",
    "L;1085M;1087L;108dM;108eL;109dM;109eL;135dM;1360L;1390O;139aL;1400O;1401L;1680X;1681L;169bO;",
    "169dL;1712M;1715L;1732M;1734L;1752M;1754L;1772M;1774L;17b4M;17b6L;17b7M;17beL;17c6M;17c7L;17",
    "c9M;17d4L;17dbT;17dcL;17ddM;17deL;17f0O;17faL;1800O;180bM;180eB;180fM;1810L;1885M;1887L;18a9",
    "M;18aaL;1920M;1923L;1927M;1929L;1932M;1933L;1939M;193cL;1940O;1941L;1944O;1946L;19deO;1a00L;",
    "1a17M;1a19L;1a1bM;1a1cL;1a56M;1a57L;1a58M;1a5fL;1a60M;1a61L;1a62M;1a63L;1a65M;1a6dL;1a73M;1a",
    "7dL;1a7fM;1a80L;1ab0M;1adeL;1ae0M;1aecL;1b00M;1b04L;1b34M;1b35L;1b36M;1b3bL;1b3cM;1b3dL;1b42",
    "M;1b43L;1b6bM;1b74L;1b80M;1b82L;1ba2M;1ba6L;1ba8M;1baaL;1babM;1baeL;1be6M;1be7L;1be8M;1beaL;",
    "1bedM;1beeL;1befM;1bf2L;1c2cM;1c34L;1c36M;1c38L;1cd0M;1cd3L;1cd4M;1ce1L;1ce2M;1ce9L;1cedM;1c",
    "eeL;1cf4M;1cf5L;1cf8M;1cfaL;1dc0M;1e00L;1fbdO;1fbeL;1fbfO;1fc2L;1fcdO;1fd0L;1fddO;1fe0L;1fed",
    "O;1ff0L;1ffdO;1fffL;2000X;200bB;200eL;200fR;2010O;2028X;202fC;2030T;2035O;2044C;2045O;205fX;",
    "2060B;2066X;206aB;2070E;2071L;2074E;207aS;207cO;207fL;2080E;208aS;208cO;208fL;20a0T;20d0M;20",
    "f1L;2100O;2102L;2103O;2107L;2108O;210aL;2114O;2115L;2116O;2119L;211eO;2124L;2125O;2126L;2127",
    "O;2128L;2129O;212aL;212eT;212fL;213aO;213cL;2140O;2145L;214aO;214eL;2150O;2160L;2189O;218cL;",
    "2190O;2212S;2213T;2214O;2336L;237bO;2395L;2396O;2427L;2440O;244bL;2460O;2488E;249cL;24eaO;26",
    "acL;26adO;2800L;2900O;2b74L;2b76O;2b96L;2b97O;2c00L;2ce5O;2cebL;2cefM;2cf2L;2cf9O;2d00L;2d7f",
    "M;2d80L;2de0M;2e00O;2e5eL;2e80O;2e9aL;2e9bO;2ef4L;2f00O;2fd6L;2ff0O;2ffcL;3000X;3001O;3005L;",
    "3008O;3021L;302aM;302eL;3030O;3031L;3036O;3038L;303dO;3040L;3099M;309bO;309dL;30a0O;30a1L;30",
    "fbO;30fcL;31c0O;31e4L;321dO;321fL;3250O;3260L;327cO;327fL;32b1O;32c0L;32ccO;32d0L;3377O;337b",
    "L;33deO;33e0L;33ffO;3400L;4dc0O;4e00L;a490O;a4c7L;a60dO;a610L;a66fM;a673O;a674M;a67eO;a680L;",
    "a69eM;a6a0L;a6f0M;a6f2L;a700O;a722L;a788O;a789L;a802M;a803L;a806M;a807L;a80bM;a80cL;a825M;a8",
    "27L;a828O;a82cM;a82dL;a838T;a83aL;a874O;a878L;a8c4M;a8c6L;a8e0M;a8f2L;a8ffM;a900L;a926M;a92e",
    "L;a947M;a952L;a980M;a983L;a9b3M;a9b4L;a9b6M;a9baL;a9bcM;a9beL;a9e5M;a9e6L;aa29M;aa2fL;aa31M;",
    "aa33L;aa35M;aa37L;aa43M;aa44L;aa4cM;aa4dL;aa7cM;aa7dL;aab0M;aab1L;aab2M;aab5L;aab7M;aab9L;aa",
    "beM;aac0L;aac1M;aac2L;aaecM;aaeeL;aaf6M;aaf7L;ab6aO;ab6cL;abe5M;abe6L;abe8M;abe9L;abedM;abee",
    "L;d800X;e000L;fb1dR;fb1eM;fb1fR;fb29S;fb2aR;fb50A;fd3eO;fd50A;fdcfO;fdd0B;fdf0A;fdfdO;fe00M;",
    "fe10O;fe1aL;fe20M;fe30O;fe50C;fe51O;fe52C;fe53L;fe54O;fe55C;fe56O;fe5fT;fe60O;fe62S;fe64O;fe",
    "67L;fe68O;fe69T;fe6bO;fe6cL;fe70A;feffB;ff00L;ff01O;ff03T;ff06O;ff0bS;ff0cC;ff0dS;ff0eC;ff10",
    "E;ff1aC;ff1bO;ff21L;ff3bO;ff41L;ff5bO;ff66L;ffe0T;ffe2O;ffe5T;ffe7L;ffe8O;ffefL;fff0B;fff9O;",
    "fffeB;10000L;10101O;10102L;10140O;1018dL;10190O;1019dL;101a0O;101a1L;101fdM;101feL;102e0M;10",
    "2e1E;102fcL;10376M;1037bL;10800R;1091fO;10920R;10a01M;10a04R;10a05M;10a07R;10a0cM;10a10R;10a",
    "38M;10a3bR;10a3fM;10a40R;10ae5M;10ae7R;10b39O;10b40R;10d00A;10d24M;10d28A;10d30N;10d3aA;10d4",
    "0R;10d69M;10d6eR;10e60N;10e7fR;10eabM;10eadR;10ec0A;10efaM;10f00R;10f30A;10f46M;10f51A;10f70",
    "R;10f82M;10f86R;11000L;11001M;11002L;11038M;11047L;11052O;11066L;11070M;11071L;11073M;11075L",
    ";1107fM;11082L;110b3M;110b7L;110b9M;110bbL;110c2M;110c3L;11100M;11103L;11127M;1112cL;1112dM;",
    "11135L;11173M;11174L;11180M;11182L;111b6M;111bfL;111c9M;111cdL;111cfM;111d0L;1122fM;11232L;1",
    "1234M;11235L;11236M;11238L;1123eM;1123fL;11241M;11242L;112dfM;112e0L;112e3M;112ebL;11300M;11",
    "302L;1133bM;1133dL;11340M;11341L;11366M;1136dL;11370M;11375L;113bbM;113c1L;113ceM;113cfL;113",
    "d0M;113d1L;113d2M;113d3L;113e1M;113e3L;11438M;11440L;11442M;11445L;11446M;11447L;1145eM;1145",
    "fL;114b3M;114b9L;114baM;114bbL;114bfM;114c1L;114c2M;114c4L;115b2M;115b6L;115bcM;115beL;115bf",
    "M;115c1L;115dcM;115deL;11633M;1163bL;1163dM;1163eL;1163fM;11641L;11660O;1166dL;116abM;116acL",
    ";116adM;116aeL;116b0M;116b6L;116b7M;116b8L;1171dM;11720L;11722M;11726L;11727M;1172cL;1182fM;",
    "11838L;11839M;1183bL;1193bM;1193dL;1193eM;1193fL;11943M;11944L;119d4M;119d8L;119daM;119dcL;1",
    "19e0M;119e1L;11a01M;11a07L;11a09M;11a0bL;11a33M;11a39L;11a3bM;11a3fL;11a47M;11a48L;11a51M;11",
    "a57L;11a59M;11a5cL;11a8aM;11a97L;11a98M;11a9aL;11b60M;11b61L;11b62M;11b65L;11b66M;11b67L;11c",
    "30M;11c37L;11c38M;11c3eL;11c92M;11ca8L;11caaM;11cb1L;11cb2M;11cb4L;11cb5M;11cb7L;11d31M;11d3",
    "7L;11d3aM;11d3bL;11d3cM;11d3eL;11d3fM;11d46L;11d47M;11d48L;11d90M;11d92L;11d95M;11d96L;11d97",
    "M;11d98L;11ef3M;11ef5L;11f00M;11f02L;11f36M;11f3bL;11f40M;11f41L;11f42M;11f43L;11f5aM;11f5bL",
    ";11fd5O;11fddT;11fe1O;11ff2L;13440M;13441L;13447M;13456L;1611eM;1612aL;1612dM;16130L;16af0M;",
    "16af5L;16b30M;16b37L;16f4fM;16f50L;16f8fM;16f93L;16fe2O;16fe3L;16fe4M;16fe5L;1bc9dM;1bc9fL;1",
    "bca0B;1bca4L;1cf00M;1cf2eL;1cf30M;1cf47L;1d167M;1d16aL;1d173B;1d17bM;1d183L;1d185M;1d18cL;1d",
    "1aaM;1d1aeL;1d1e9O;1d1ebL;1d200O;1d242M;1d245O;1d246L;1d300O;1d357L;1d6dbO;1d6dcL;1d715O;1d7",
    "16L;1d74fO;1d750L;1d789O;1d78aL;1d7c3O;1d7c4L;1d7ceE;1d800L;1da00M;1da37L;1da3bM;1da6dL;1da7",
    "5M;1da76L;1da84M;1da85L;1da9bM;1daa0L;1daa1M;1dab0L;1e000M;1e007L;1e008M;1e019L;1e01bM;1e022",
    "L;1e023M;1e025L;1e026M;1e02bL;1e08fM;1e090L;1e130M;1e137L;1e2aeM;1e2afL;1e2ecM;1e2f0L;1e2ffT",
    ";1e300L;1e4ecM;1e4f0L;1e5eeM;1e5f0L;1e6e3M;1e6e4L;1e6e6M;1e6e7L;1e6eeM;1e6f0L;1e6f5M;1e6f6L;",
    "1e800R;1e8d0M;1e8d7R;1e944M;1e94bR;1ec70A;1ecc0R;1ed00A;1ed50R;1ee00A;1eef0O;1eef2A;1ef00R;1",
    "f000O;1f02cL;1f030O;1f094L;1f0a0O;1f0afL;1f0b1O;1f0c0L;1f0c1O;1f0d0L;1f0d1O;1f0f6L;1f100E;1f",
    "10bO;1f110L;1f12fO;1f130L;1f16aO;1f170L;1f1adO;1f1aeL;1f260O;1f266L;1f300O;1f6d8L;1f6dcO;1f6",
    "edL;1f6f0O;1f6fdL;1f700O;1f777L;1f77bO;1f7daL;1f7e0O;1f7ecL;1f7f0O;1f7f1L;1f800O;1f80cL;1f81",
    "0O;1f848L;1f850O;1f85aL;1f860O;1f888L;1f890O;1f8aeL;1f8b0O;1f8b2L;1f900O;1fa54L;1fa60O;1fa6e",
    "L;1fa70O;1fa7dL;1fa80O;1fa89L;1fa90O;1fabeL;1fabfO;1fac6L;1faceO;1fadcL;1fae0O;1fae9L;1faf0O",
    ";1faf9L;1fb00O;1fb93L;1fb94O;1fbcbL;1fbf0E;1fbfaL;1fffeB;20000L;2fffeB;30000L;3fffeB;40000L;",
    "4fffeB;50000L;5fffeB;60000L;6fffeB;70000L;7fffeB;80000L;8fffeB;90000L;9fffeB;a0000L;afffeB;b",
    "0000L;bfffeB;c0000L;cfffeB;d0000L;dfffeB;e0100M;e01f0B;e1000L;efffeB;f0000L;ffffeB;100000L;1",
    "0fffeB"]

def bidiTable : Array (Nat × Char) :=
  ((bidiText.toList.splitOn ';').filterMap pointOf).toArray

def bidiClass (cp : Nat) : Char :=
  match lastAtOrBefore (·.1) bidiTable cp with
  | some (_, tag) => tag
  | none => 'X'

end FunctionHost.Url.Idna
