import KeyedBreakers.Unicode.RunTable

/-!
# Direction of writing

Names that mix scripts of both directions could be shown in an order that hides where one label ends
and the next begins. If any label has a letter written from right to left, every label must keep to
one direction: it begins with a letter, all its characters agree with that letter, and it ends, but
for marks, with a letter or number of that direction.

* `Direction` — the classes of characters that matter here;
* `directionsAgree` — the rule for a whole name.
-/

namespace KeyedBreakers.Unicode

/-- The direction of a character. -/
inductive Direction where
  /-- A letter written from left to right; the class of all characters outside the table. -/
  | leftToRight
  /-- A letter written from right to left. -/
  | rightToLeft
  /-- A number of the Arabic scripts. -/
  | arabicNumber
  /-- A European number. -/
  | europeanNumber
  /-- Punctuation that takes the direction of its surroundings. -/
  | neutral
  /-- A mark, which goes with the character before it. -/
  | mark
  /-- A character that no label may have beside letters of the other direction. -/
  | separator
deriving DecidableEq

/-- Reads a value of the table. -/
def Direction.read : List Char → Direction
  | ['=', 'R'] => rightToLeft
  | ['=', 'A'] => arabicNumber
  | ['=', 'E'] => europeanNumber
  | ['=', 'O'] => neutral
  | ['=', 'M'] => mark
  | _ => separator

/-- The directions of the characters that are not written from left to right. -/
def directions : RunTable Direction := RunTable.ofText Direction.read
  "0-8=O 9-d=X e-1b=O 1c-20=X 21-2f=O 30-39=E 3a-40=O 5b-60=O 7b-84=O 85=X 86-a9=O ab-b1=O
    b2-b3=E b4=O b6-b8=O b9=E bb-bf=O d7=O f7=O 2b9-2ba=O 2c2-2cf=O 2d2-2df=O 2e5-2ed=O
    2ef-2ff=O 300-36f=M 374-375=O 37e=O 384-385=O 387=O 3f6=O 483-489=M 58a=O 58d-58f=O 590=R
    591-5bd=M 5be=R 5bf=M 5c0=R 5c1-5c2=M 5c3=R 5c4-5c5=M 5c6=R 5c7=M 5c8-5ff=R 600-605=A
    606-607=O 608=R 609-60a=O 60b=R 60c=O 60d=R 60e-60f=O 610-61a=M 61b-64a=R 64b-65f=M
    660-669=A 66a=O 66b-66c=A 66d-66f=R 670=M 671-6d5=R 6d6-6dc=M 6dd=A 6de=O 6df-6e4=M
    6e5-6e6=R 6e7-6e8=M 6e9=O 6ea-6ed=M 6ee-6ef=R 6f0-6f9=E 6fa-710=R 711=M 712-72f=R 730-74a=M
    74b-7a5=R 7a6-7b0=M 7b1-7ea=R 7eb-7f3=M 7f4-7f5=R 7f6-7f9=O 7fa-7fc=R 7fd=M 7fe-815=R
    816-819=M 81a=R 81b-823=M 824=R 825-827=M 828=R 829-82d=M 82e-858=R 859-85b=M 85c-88f=R
    890-891=A 892-897=R 898-89f=M 8a0-8c9=R 8ca-8e1=M 8e2=A 8e3-902=M 93a=M 93c=M 941-948=M
    94d=M 951-957=M 962-963=M 981=M 9bc=M 9c1-9c4=M 9cd=M 9e2-9e3=M 9f2-9f3=O 9fb=O 9fe=M
    a01-a02=M a3c=M a41-a42=M a47-a48=M a4b-a4d=M a51=M a70-a71=M a75=M a81-a82=M abc=M
    ac1-ac5=M ac7-ac8=M acd=M ae2-ae3=M af1=O afa-aff=M b01=M b3c=M b3f=M b41-b44=M b4d=M
    b55-b56=M b62-b63=M b82=M bc0=M bcd=M bf3-bfa=O c00=M c04=M c3c=M c3e-c40=M c46-c48=M
    c4a-c4d=M c55-c56=M c62-c63=M c78-c7e=O c81=M cbc=M ccc-ccd=M ce2-ce3=M d00-d01=M d3b-d3c=M
    d41-d44=M d4d=M d62-d63=M d81=M dca=M dd2-dd4=M dd6=M e31=M e34-e3a=M e3f=O e47-e4e=M eb1=M
    eb4-ebc=M ec8-ece=M f18-f19=M f35=M f37=M f39=M f3a-f3d=O f71-f7e=M f80-f84=M f86-f87=M
    f8d-f97=M f99-fbc=M fc6=M 102d-1030=M 1032-1037=M 1039-103a=M 103d-103e=M 1058-1059=M
    105e-1060=M 1071-1074=M 1082=M 1085-1086=M 108d=M 109d=M 135d-135f=M 1390-1399=O 1400=O
    1680=X 169b-169c=O 1712-1714=M 1732-1733=M 1752-1753=M 1772-1773=M 17b4-17b5=M 17b7-17bd=M
    17c6=M 17c9-17d3=M 17db=O 17dd=M 17f0-17f9=O 1800-180a=O 180b-180d=M 180e=O 180f=M
    1885-1886=M 18a9=M 1920-1922=M 1927-1928=M 1932=M 1939-193b=M 1940=O 1944-1945=O
    19de-19ff=O 1a17-1a18=M 1a1b=M 1a56=M 1a58-1a5e=M 1a60=M 1a62=M 1a65-1a6c=M 1a73-1a7c=M
    1a7f=M 1ab0-1ace=M 1b00-1b03=M 1b34=M 1b36-1b3a=M 1b3c=M 1b42=M 1b6b-1b73=M 1b80-1b81=M
    1ba2-1ba5=M 1ba8-1ba9=M 1bab-1bad=M 1be6=M 1be8-1be9=M 1bed=M 1bef-1bf1=M 1c2c-1c33=M
    1c36-1c37=M 1cd0-1cd2=M 1cd4-1ce0=M 1ce2-1ce8=M 1ced=M 1cf4=M 1cf8-1cf9=M 1dc0-1dff=M
    1fbd=O 1fbf-1fc1=O 1fcd-1fcf=O 1fdd-1fdf=O 1fed-1fef=O 1ffd-1ffe=O 2000-200a=X 200b-200d=O
    200f=R 2010-2027=O 2028-202e=X 202f-205e=O 205f=X 2060-2065=O 2066-2069=X 206a-206f=O
    2070=E 2074-2079=E 207a-207e=O 2080-2089=E 208a-208e=O 20a0-20cf=O 20d0-20f0=M 2100-2101=O
    2103-2106=O 2108-2109=O 2114=O 2116-2118=O 211e-2123=O 2125=O 2127=O 2129=O 212e=O
    213a-213b=O 2140-2144=O 214a-214d=O 2150-215f=O 2189-218b=O 2190-2335=O 237b-2394=O
    2396-2426=O 2440-244a=O 2460-2487=O 2488-249b=E 24ea-26ab=O 26ad-27ff=O 2900-2b73=O
    2b76-2b95=O 2b97-2bff=O 2ce5-2cea=O 2cef-2cf1=M 2cf9-2cff=O 2d7f=M 2de0-2dff=M 2e00-2e5d=O
    2e80-2e99=O 2e9b-2ef3=O 2f00-2fd5=O 2ff0-2ffb=O 3000=X 3001-3004=O 3008-3020=O 302a-302d=M
    3030=O 3036-3037=O 303d-303f=O 3099-309a=M 309b-309c=O 30a0=O 30fb=O 31c0-31e3=O
    321d-321e=O 3250-325f=O 327c-327e=O 32b1-32bf=O 32cc-32cf=O 3377-337a=O 33de-33df=O 33ff=O
    4dc0-4dff=O a490-a4c6=O a60d-a60f=O a66f-a672=M a673=O a674-a67d=M a67e-a67f=O a69e-a69f=M
    a6f0-a6f1=M a700-a721=O a788=O a802=M a806=M a80b=M a825-a826=M a828-a82b=O a82c=M
    a838-a839=O a874-a877=O a8c4-a8c5=M a8e0-a8f1=M a8ff=M a926-a92d=M a947-a951=M a980-a982=M
    a9b3=M a9b6-a9b9=M a9bc-a9bd=M a9e5=M aa29-aa2e=M aa31-aa32=M aa35-aa36=M aa43=M aa4c=M
    aa7c=M aab0=M aab2-aab4=M aab7-aab8=M aabe-aabf=M aac1=M aaec-aaed=M aaf6=M ab6a-ab6b=O
    abe5=M abe8=M abed=M fb1d=R fb1e=M fb1f-fb28=R fb29=O fb2a-fd3d=R fd3e-fd4f=O fd50-fdce=R
    fdcf-fdef=O fdf0-fdfc=R fdfd-fdff=O fe00-fe0f=M fe10-fe19=O fe20-fe2f=M fe30-fe52=O
    fe54-fe66=O fe68-fe6b=O fe70-fefe=R feff=O ff01-ff0f=O ff10-ff19=E ff1a-ff20=O ff3b-ff40=O
    ff5b-ff65=O ffe0-ffe6=O ffe8-ffee=O fff0-ffff=O 10101=O 10140-1018c=O 10190-1019c=O 101a0=O
    101fd=M 102e0=M 102e1-102fb=E 10376-1037a=M 10800-1091e=R 1091f=O 10920-10a00=R
    10a01-10a03=M 10a04=R 10a05-10a06=M 10a07-10a0b=R 10a0c-10a0f=M 10a10-10a37=R 10a38-10a3a=M
    10a3b-10a3e=R 10a3f=M 10a40-10ae4=R 10ae5-10ae6=M 10ae7-10b38=R 10b39-10b3f=O 10b40-10d23=R
    10d24-10d27=M 10d28-10d2f=R 10d30-10d39=A 10d3a-10e5f=R 10e60-10e7e=A 10e7f-10eaa=R
    10eab-10eac=M 10ead-10efc=R 10efd-10eff=M 10f00-10f45=R 10f46-10f50=M 10f51-10f81=R
    10f82-10f85=M 10f86-10fff=R 11001=M 11038-11046=M 11052-11065=O 11070=M 11073-11074=M
    1107f-11081=M 110b3-110b6=M 110b9-110ba=M 110c2=M 11100-11102=M 11127-1112b=M 1112d-11134=M
    11173=M 11180-11181=M 111b6-111be=M 111c9-111cc=M 111cf=M 1122f-11231=M 11234=M
    11236-11237=M 1123e=M 11241=M 112df=M 112e3-112ea=M 11300-11301=M 1133b-1133c=M 11340=M
    11366-1136c=M 11370-11374=M 11438-1143f=M 11442-11444=M 11446=M 1145e=M 114b3-114b8=M
    114ba=M 114bf-114c0=M 114c2-114c3=M 115b2-115b5=M 115bc-115bd=M 115bf-115c0=M 115dc-115dd=M
    11633-1163a=M 1163d=M 1163f-11640=M 11660-1166c=O 116ab=M 116ad=M 116b0-116b5=M 116b7=M
    1171d-1171f=M 11722-11725=M 11727-1172b=M 1182f-11837=M 11839-1183a=M 1193b-1193c=M 1193e=M
    11943=M 119d4-119d7=M 119da-119db=M 119e0=M 11a01-11a06=M 11a09-11a0a=M 11a33-11a38=M
    11a3b-11a3e=M 11a47=M 11a51-11a56=M 11a59-11a5b=M 11a8a-11a96=M 11a98-11a99=M 11c30-11c36=M
    11c38-11c3d=M 11c92-11ca7=M 11caa-11cb0=M 11cb2-11cb3=M 11cb5-11cb6=M 11d31-11d36=M 11d3a=M
    11d3c-11d3d=M 11d3f-11d45=M 11d47=M 11d90-11d91=M 11d95=M 11d97=M 11ef3-11ef4=M
    11f00-11f01=M 11f36-11f3a=M 11f40=M 11f42=M 11fd5-11ff1=O 13440=M 13447-13455=M
    16af0-16af4=M 16b30-16b36=M 16f4f=M 16f8f-16f92=M 16fe2=O 16fe4=M 1bc9d-1bc9e=M
    1bca0-1bca3=O 1cf00-1cf2d=M 1cf30-1cf46=M 1d167-1d169=M 1d173-1d17a=O 1d17b-1d182=M
    1d185-1d18b=M 1d1aa-1d1ad=M 1d1e9-1d1ea=O 1d200-1d241=O 1d242-1d244=M 1d245=O 1d300-1d356=O
    1d6db=O 1d715=O 1d74f=O 1d789=O 1d7c3=O 1d7ce-1d7ff=E 1da00-1da36=M 1da3b-1da6c=M 1da75=M
    1da84=M 1da9b-1da9f=M 1daa1-1daaf=M 1e000-1e006=M 1e008-1e018=M 1e01b-1e021=M 1e023-1e024=M
    1e026-1e02a=M 1e08f=M 1e130-1e136=M 1e2ae=M 1e2ec-1e2ef=M 1e2ff=O 1e4ec-1e4ef=M
    1e800-1e8cf=R 1e8d0-1e8d6=M 1e8d7-1e943=R 1e944-1e94a=M 1e94b-1eeef=R 1eef0-1eef1=O
    1eef2-1efff=R 1f000-1f02b=O 1f030-1f093=O 1f0a0-1f0ae=O 1f0b1-1f0bf=O 1f0c1-1f0cf=O
    1f0d1-1f0f5=O 1f100-1f10a=E 1f10b-1f10f=O 1f12f=O 1f16a-1f16f=O 1f1ad=O 1f260-1f265=O
    1f300-1f6d7=O 1f6dc-1f6ec=O 1f6f0-1f6fc=O 1f700-1f776=O 1f77b-1f7d9=O 1f7e0-1f7eb=O 1f7f0=O
    1f800-1f80b=O 1f810-1f847=O 1f850-1f859=O 1f860-1f887=O 1f890-1f8ad=O 1f8b0-1f8b1=O
    1f900-1fa53=O 1fa60-1fa6d=O 1fa70-1fa7c=O 1fa80-1fa88=O 1fa90-1fabd=O 1fabf-1fac5=O
    1face-1fadb=O 1fae0-1fae8=O 1faf0-1faf8=O 1fb00-1fb92=O 1fb94-1fbca=O 1fbf0-1fbf9=E
    1fffe-1ffff=O 2fffe-2ffff=O 3fffe-3ffff=O 4fffe-4ffff=O 5fffe-5ffff=O 6fffe-6ffff=O
    7fffe-7ffff=O 8fffe-8ffff=O 9fffe-9ffff=O afffe-affff=O bfffe-bffff=O cfffe-cffff=O
    dfffe-e00ff=O e0100-e01ef=M e01f0-e0fff=O efffe-effff=O ffffe-fffff=O 10fffe-10ffff=O"
/-- The direction of a character. -/
def direction (c : Char) : Direction :=
  (directions.find? c).getD .leftToRight

/-- Whether the character makes a name one that mixes directions. -/
def turnsName (c : Char) : Bool :=
  direction c = .rightToLeft || direction c = .arabicNumber

/-- The last character of the label that is not a mark decides how the label ends. -/
def endsWith (allowed : List Direction) (label : List Direction) : Bool :=
  match label.reverse.dropWhile (· = .mark) with
  | last :: _ => allowed.contains last
  | [] => false

/-- A label written from left to right. -/
def runsLeftToRight (label : List Direction) : Bool :=
  label.all (fun d => [Direction.leftToRight, .europeanNumber, .neutral, .mark].contains d)
    && endsWith [.leftToRight, .europeanNumber] label

/-- A label written from right to left, with numbers of one kind only. -/
def runsRightToLeft (label : List Direction) : Bool :=
  label.all (fun d =>
      [Direction.rightToLeft, .arabicNumber, .europeanNumber, .neutral, .mark].contains d)
    && endsWith [.rightToLeft, .arabicNumber, .europeanNumber] label
    && !(label.contains .arabicNumber && label.contains .europeanNumber)

/-- Whether a label of a name that mixes directions keeps to one of them. -/
def keepsDirection (label : List Char) : Bool :=
  let ds := label.map direction
  match ds.head? with
  | none => true
  | some .leftToRight => runsLeftToRight ds
  | some .rightToLeft => runsRightToLeft ds
  | some _ => false

/-- Whether the directions of the labels of a name can be shown together. -/
def directionsAgree (labels : List (List Char)) : Bool :=
  !labels.any (·.any turnsName) || labels.all keepsDirection

end KeyedBreakers.Unicode
