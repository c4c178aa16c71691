import Uplink.Text.CodePoints

/-!
# Labels in two directions

A host name with letters that run from right to left could be shown in an order
that hides its labels, so its labels have to keep to one direction each. A
label runs in the direction of its first letter. It may hold digits and
neutral characters as well, it has to end in a letter or a digit, marks apart,
and Arabic and European digits do not stand together in a label from right to
left.
-/

namespace Uplink.Url.Bidi

open CodePoints

/-- The directions of characters: letters from right to left (1), Arabic digits
(2), European digits (3), neutral characters (4), marks (5) and what belongs in
no label (6). All other characters run from left to right. -/
def directions : Table := .ofLines
  ["0-8=4 9-d=6 e-1b=4 1c-20=6 21-2f=4 30-39=3 3a-40=4 5b-60=4 7b-84=4 85=6",
   "86-a9=4 ab-b1=4 b2-b3=3 b4=4 b6-b8=4 b9=3 bb-bf=4 d7=4 f7=4 2b9-2ba=4",
   "2c2-2cf=4 2d2-2df=4 2e5-2ed=4 2ef-2ff=4 300-36f=5 374-375=4 37e=4",
   "384-385=4 387=4 3f6=4 483-489=5 58a=4 58d-58f=4 591-5bd=5 5be=1 5bf=5",
   "5c0=1 5c1-5c2=5 5c3=1 5c4-5c5=5 5c6=1 5c7-5c8=5 5d0-5ea=1 5ef-5f4=1",
   "600-605=2 606-607=4 608=1 609-60a=4 60b=1 60c=4 60d=1 60e-60f=4 610-61a=5",
   "61b-64a=1 64b-65f=5 660-669=2 66a=4 66b-66c=2 66d-66f=1 670=5 671-6d5=1",
   "6d6-6dc=5 6dd=2 6de=4 6df-6e4=5 6e5-6e6=1 6e7-6e8=5 6e9=4 6ea-6ed=5",
   "6ee-6ef=1 6f0-6f9=3 6fa-70d=1 70f-710=1 711=5 712-72f=1 730-74a=5",
   "74d-7a5=1 7a6-7b0=5 7b1=1 7c0-7ea=1 7eb-7f3=5 7f4-7f5=1 7f6-7f9=4 7fa=1",
   "7fd=5 7fe-815=1 816-819=5 81a=1 81b-823=5 824=1 825-827=5 828=1 829-82d=5",
   "830-83e=1 840-858=1 859-85b=5 85e=1 860-86a=1 870-88f=1 890-891=2",
   "897-89f=5 8a0-8c9=1 8ca-8e1=5 8e2=2 8e3-902=5 93a=5 93c=5 941-948=5 94d=5",
   "951-957=5 962-963=5 981=5 9bc=5 9c1-9c4=5 9cd=5 9e2-9e3=5 9f2-9f3=4 9fb=4",
   "9fe=5 a01-a02=5 a3c=5 a41-a42=5 a47-a48=5 a4b-a4d=5 a51=5 a70-a71=5 a75=5",
   "a81-a82=5 abc=5 ac1-ac5=5 ac7-ac8=5 acd=5 ae2-ae3=5 af1=4 afa-aff=5 b01=5",
   "b3c=5 b3f=5 b41-b44=5 b4d=5 b53-b56=5 b62-b63=5 b82=5 bc0=5 bcd=5",
   "bf3-bfa=4 c00=5 c04=5 c3c=5 c3e-c40=5 c46-c48=5 c4a-c4d=5 c55-c56=5",
   "c62-c63=5 c78-c7e=4 c81=5 cbc=5 ccc-ccd=5 ce2-ce3=5 d00-d01=5 d3b-d3c=5",
   "d41-d44=5 d4d=5 d62-d63=5 d81=5 dca=5 dd2-dd4=5 dd6=5 e31=5 e34-e3a=5",
   "e3f=4 e47-e4e=5 eb1=5 eb4-ebc=5 ec8-ece=5 f18-f19=5 f35=5 f37=5 f39=5",
   "f3a-f3d=4 f71-f7e=5 f80-f84=5 f86-f87=5 f8d-f97=5 f99-fbc=5 fc6=5",
   "102d-1030=5 1032-1037=5 1039-103a=5 103d-103e=5 1058-1059=5 105e-1060=5",
   "1071-1074=5 1082=5 1085-1086=5 108d=5 109d=5 135d-135f=5 1390-1399=4",
   "1400=4 1680=6 169b-169c=4 1712-1714=5 1732-1733=5 1752-1753=5 1772-1773=5",
   "17b4-17b5=5 17b7-17bd=5 17c6=5 17c9-17d3=5 17db=4 17dd=5 17f0-17f9=4",
   "1800-180a=4 180b-180d=5 180e=4 180f=5 1885-1886=5 18a9=5 1920-1922=5",
   "1927-1928=5 1932=5 1939-193b=5 1940=4 1944-1945=4 19de-19ff=4 1a17-1a18=5",
   "1a1b=5 1a56=5 1a58-1a5e=5 1a60=5 1a62=5 1a65-1a6c=5 1a73-1a7c=5 1a7f=5",
   "1ab0-1aeb=5 1b00-1b03=5 1b34=5 1b36-1b3a=5 1b3c=5 1b42=5 1b6b-1b73=5",
   "1b80-1b81=5 1ba2-1ba5=5 1ba8-1ba9=5 1bab-1bad=5 1be6=5 1be8-1be9=5 1bed=5",
   "1bef-1bf1=5 1c2c-1c33=5 1c36-1c37=5 1cd0-1cd2=5 1cd4-1ce0=5 1ce2-1ce8=5",
   "1ced=5 1cf4=5 1cf8-1cf9=5 1dc0-1dff=5 1fbd=4 1fbf-1fc1=4 1fcd-1fcf=4",
   "1fdd-1fdf=4 1fed-1fef=4 1ffd-1ffe=4 2000-200a=6 200b-200d=4 200f=1",
   "2010-2027=4 2028-202e=6 202f-205e=4 205f=6 2060-2064=4 2066-2069=6",
   "206a-206f=4 2070=3 2074-2079=3 207a-207e=4 2080-2089=3 208a-208e=4",
   "20a0-20c3=4 20d0-20f0=5 2100-2101=4 2103-2106=4 2108-2109=4 2114=4",
   "2116-2118=4 211e-2123=4 2125=4 2127=4 2129=4 212e=4 213a-213b=4",
   "2140-2144=4 214a-214d=4 2150-215f=4 2189-218b=4 2190-2335=4 237b-2394=4",
   "2396-2429=4 2440-244a=4 2460-2487=4 2488-249b=3 24ea-26ab=4 26ad-27ff=4",
   "2900-2b73=4 2b76-2bff=4 2ce5-2cea=4 2cef-2cf1=5 2cf9-2cff=4 2d7f=5",
   "2de0-2dff=5 2e00-2e5d=4 2e80-2e99=4 2e9b-2ef3=4 2f00-2fd5=4 2ff0-2fff=4",
   "3000=6 3001-3004=4 3008-3020=4 302a-302d=5 3030=4 3036-3037=4 303d-303f=4",
   "3099-309a=5 309b-309c=4 30a0=4 30fb=4 31c0-31e5=4 31ef=4 321d-321e=4",
   "3250-325f=4 327c-327e=4 32b1-32bf=4 32cc-32cf=4 3377-337a=4 33de-33df=4",
   "33ff=4 4dc0-4dff=4 a490-a4c6=4 a60d-a60f=4 a66f-a672=5 a673=4 a674-a67d=5",
   "a67e-a67f=4 a69e-a69f=5 a6f0-a6f1=5 a700-a721=4 a788=4 a802=5 a806=5",
   "a80b=5 a825-a826=5 a828-a82b=4 a82c=5 a838-a839=4 a874-a877=4 a8c4-a8c5=5",
   "a8e0-a8f1=5 a8ff=5 a926-a92d=5 a947-a951=5 a980-a982=5 a9b3=5 a9b6-a9b9=5",
   "a9bc-a9bd=5 a9e5=5 aa29-aa2e=5 aa31-aa32=5 aa35-aa36=5 aa43=5 aa4c=5",
   "aa7c=5 aab0=5 aab2-aab4=5 aab7-aab8=5 aabe-aabf=5 aac1=5 aaec-aaed=5",
   "aaf6=5 ab6a-ab6b=4 abe5=5 abe8=5 abed=5 fb1d=1 fb1e=5 fb1f-fb28=1 fb29=4",
   "fb2a-fb36=1 fb38-fb3c=1 fb3e=1 fb40-fb41=1 fb43-fb44=1 fb46-fbc2=1",
   "fbc3-fbd2=4 fbd3-fd3d=1 fd3e-fd4f=4 fd50-fd8f=1 fd90-fd91=4 fd92-fdc7=1",
   "fdc8-fdcf=4 fdf0-fdfc=1 fdfd-fdff=4 fe00-fe0f=5 fe10-fe19=4 fe20-fe2f=5",
   "fe30-fe52=4 fe54-fe66=4 fe68-fe6b=4 fe70-fe74=1 fe76-fefc=1 feff=4",
   "ff01-ff0f=4 ff10-ff19=3 ff1a-ff20=4 ff3b-ff40=4 ff5b-ff65=4 ffe0-ffe6=4",
   "ffe8-ffee=4 fff9-fffd=4 10101=4 10140-1018c=4 10190-1019c=4 101a0=4",
   "101fd=5 102e0=5 102e1-102fb=3 10376-1037a=5 10800-10805=1 10808=1",
   "1080a-10835=1 10837-10838=1 1083c=1 1083f-10855=1 10857-1089e=1",
   "108a7-108af=1 108e0-108f2=1 108f4-108f5=1 108fb-1091b=1 1091f=4",
   "10920-10939=1 1093f-10959=1 10980-109b7=1 109bc-109cf=1 109d2-10a00=1",
   "10a01-10a03=5 10a05-10a06=5 10a0c-10a0f=5 10a10-10a13=1 10a15-10a17=1",
   "10a19-10a35=1 10a38-10a3a=5 10a3f=5 10a40-10a48=1 10a50-10a58=1",
   "10a60-10a9f=1 10ac0-10ae4=1 10ae5-10ae6=5 10aeb-10af6=1 10b00-10b35=1",
   "10b39-10b3f=4 10b40-10b55=1 10b58-10b72=1 10b78-10b91=1 10b99-10b9c=1",
   "10ba9-10baf=1 10c00-10c48=1 10c80-10cb2=1 10cc0-10cf2=1 10cfa-10d23=1",
   "10d24-10d27=5 10d30-10d39=2 10d40-10d49=2 10d4a-10d65=1 10d69-10d6d=5",
   "10d6e=4 10d6f-10d85=1 10d8e-10d8f=1 10e60-10e7e=2 10e80-10ea9=1",
   "10eab-10eac=5 10ead=1 10eb0-10eb1=1 10ec2-10ec7=1 10ed0-10ed8=4",
   "10efa-10eff=5 10f00-10f27=1 10f30-10f45=1 10f46-10f50=5 10f51-10f59=1",
   "10f70-10f81=1 10f82-10f85=5 10f86-10f89=1 10fb0-10fcb=1 10fe0-10ff6=1",
   "11001=5 11038-11046=5 11052-11065=4 11070=5 11073-11074=5 1107f-11081=5",
   "110b3-110b6=5 110b9-110ba=5 110c2=5 11100-11102=5 11127-1112b=5",
   "1112d-11134=5 11173=5 11180-11181=5 111b6-111be=5 111c9-111cc=5 111cf=5",
   "1122f-11231=5 11234=5 11236-11237=5 1123e=5 11241=5 112df=5 112e3-112ea=5",
   "11300-11301=5 1133b-1133c=5 11340=5 11366-1136c=5 11370-11374=5",
   "113bb-113c0=5 113ce=5 113d0=5 113d2=5 113e1-113e2=5 11438-1143f=5",
   "11442-11444=5 11446=5 1145e=5 114b3-114b8=5 114ba=5 114bf-114c0=5",
   "114c2-114c3=5 115b2-115b5=5 115bc-115bd=5 115bf-115c0=5 115dc-115dd=5",
   "11633-1163a=5 1163d=5 1163f-11640=5 11660-1166c=4 116ab=5 116ad=5",
   "116b0-116b5=5 116b7=5 1171d=5 1171f=5 11722-11725=5 11727-1172b=5",
   "1182f-11837=5 11839-1183a=5 1193b-1193c=5 1193e=5 11943=5 119d4-119d7=5",
   "119da-119db=5 119e0=5 11a01-11a06=5 11a09-11a0a=5 11a33-11a38=5",
   "11a3b-11a3e=5 11a47=5 11a51-11a56=5 11a59-11a5b=5 11a8a-11a96=5",
   "11a98-11a99=5 11b60=5 11b62-11b64=5 11b66=5 11c30-11c36=5 11c38-11c3d=5",
   "11c92-11ca7=5 11caa-11cb0=5 11cb2-11cb3=5 11cb5-11cb6=5 11d31-11d36=5",
   "11d3a=5 11d3c-11d3d=5 11d3f-11d45=5 11d47=5 11d90-11d91=5 11d95=5 11d97=5",
   "11ef3-11ef4=5 11f00-11f01=5 11f36-11f3a=5 11f40=5 11f42=5 11f5a=5",
   "11fd5-11ff1=4 13440=5 13447-13455=5 1611e-16129=5 1612d-1612f=5",
   "16af0-16af4=5 16b30-16b36=5 16f4f=5 16f8f-16f92=5 16fe2=4 16fe4=5",
   "1bc9d-1bc9e=5 1bca0-1bca3=4 1cc00-1ccd5=4 1ccf0-1ccf9=3 1ccfa-1ccfc=4",
   "1cd00-1ceb3=4 1ceba-1ced0=4 1cee0-1cef0=4 1cf00-1cf2d=5 1cf30-1cf46=5",
   "1d167-1d169=5 1d173-1d17a=4 1d17b-1d182=5 1d185-1d18b=5 1d1aa-1d1ad=5",
   "1d1e9-1d1ea=4 1d200-1d241=4 1d242-1d244=5 1d245=4 1d300-1d356=4 1d6c1=4",
   "1d6db=4 1d6fb=4 1d715=4 1d735=4 1d74f=4 1d76f=4 1d789=4 1d7a9=4 1d7c3=4",
   "1d7ce-1d7ff=3 1da00-1da36=5 1da3b-1da6c=5 1da75=5 1da84=5 1da9b-1da9f=5",
   "1daa1-1daaf=5 1e000-1e006=5 1e008-1e018=5 1e01b-1e021=5 1e023-1e024=5",
   "1e026-1e02a=5 1e08f=5 1e130-1e136=5 1e2ae=5 1e2ec-1e2ef=5 1e2ff=4",
   "1e4ec-1e4ef=5 1e5ee-1e5ef=5 1e6e3=5 1e6e6=5 1e6ee-1e6ef=5 1e6f5=5",
   "1e800-1e8c4=1 1e8c7-1e8cf=1 1e8d0-1e8d6=5 1e900-1e943=1 1e944-1e94a=5",
   "1e94b=1 1e950-1e959=1 1e95e-1e95f=1 1ec71-1ecb4=1 1ed01-1ed3d=1",
   "1ee00-1ee03=1 1ee05-1ee1f=1 1ee21-1ee22=1 1ee24=1 1ee27=1 1ee29-1ee32=1",
   "1ee34-1ee37=1 1ee39=1 1ee3b=1 1ee42=1 1ee47=1 1ee49=1 1ee4b=1",
   "1ee4d-1ee4f=1 1ee51-1ee52=1 1ee54=1 1ee57=1 1ee59=1 1ee5b=1 1ee5d=1",
   "1ee5f=1 1ee61-1ee62=1 1ee64=1 1ee67-1ee6a=1 1ee6c-1ee72=1 1ee74-1ee77=1",
   "1ee79-1ee7c=1 1ee7e=1 1ee80-1ee89=1 1ee8b-1ee9b=1 1eea1-1eea3=1",
   "1eea5-1eea9=1 1eeab-1eebb=1 1eef0-1eef1=4 1f000-1f02b=4 1f030-1f093=4",
   "1f0a0-1f0ae=4 1f0b1-1f0bf=4 1f0c1-1f0cf=4 1f0d1-1f0f5=4 1f100-1f10a=3",
   "1f10b-1f10f=4 1f12f=4 1f16a-1f16f=4 1f1ad=4 1f260-1f265=4 1f300-1f6d8=4",
   "1f6dc-1f6ec=4 1f6f0-1f6fc=4 1f700-1f7d9=4 1f7e0-1f7eb=4 1f7f0=4 1f7f3=4",
   "1f800-1f80b=4 1f810-1f847=4 1f850-1f859=4 1f860-1f887=4 1f890-1f8ad=4",
   "1f8b0-1f8bb=4 1f8c0-1f8c1=4 1f8d0-1f8d8=4 1f900-1fa57=4 1fa60-1fa6d=4",
   "1fa70-1fa7c=4 1fa80-1fa8a=4 1fa8e-1fac6=4 1fac8=4 1facd-1fadc=4",
   "1fadf-1faea=4 1faef-1faf8=4 1fb00-1fb92=4 1fb94-1fbef=4 1fbf0-1fbf9=3",
   "1fbfa=4 e0001=4 e0020-e007f=4 e0100-e01ef=5"]

/-- How a character runs. -/
inductive Direction where
  | leftToRight
  | rightToLeft
  | arabicDigit
  | europeanDigit
  | neutral
  | mark
  | other
deriving DecidableEq, Repr

/-- The direction of a character. -/
def Direction.of (c : Char) : Direction :=
  match (directions.find? c.toNat).map Entry.value with
  | some [1] => rightToLeft
  | some [2] => arabicDigit
  | some [3] => europeanDigit
  | some [4] => neutral
  | some [5] => mark
  | some [6] => other
  | _ => leftToRight

/-- Whether a character makes its name run in two directions. -/
def Direction.turns : Direction → Bool
  | rightToLeft | arabicDigit => true
  | _ => false

/-- Whether a label keeps to its direction. An empty label does. -/
def keepsDirection (label : List Char) : Bool :=
  let ds := label.map Direction.of
  let last := (ds.reverse.dropWhile (· == .mark)).head?
  match ds.head? with
  | none => true
  | some .leftToRight =>
    ds.all (fun d => !d.turns && d != .other)
      && (last == some .leftToRight || last == some .europeanDigit)
  | some .rightToLeft =>
    ds.all (fun d => d != .leftToRight && d != .other)
      && (last == some .rightToLeft || last == some .europeanDigit || last == some .arabicDigit)
      && !(ds.contains .europeanDigit && ds.contains .arabicDigit)
  | some _ => false

/-- **Whether the labels of a name may stand together.** A name without
characters that turn its direction is free. -/
def accepts (labels : List (List Char)) : Bool :=
  if labels.any (·.any fun c => (Direction.of c).turns) then labels.all keepsDirection
  else true

end Uplink.Url.Bidi
