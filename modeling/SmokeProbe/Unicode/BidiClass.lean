import SmokeProbe.Unicode.Table

/-!
# Bidirectional classes

The classes that decide how a host name is displayed, numbered 1 right-to-left letter, 2 Arabic
letter, 3 Arabic number, 4 European number, 5 and 6 separators, 7 terminator, 8 neutral, 9 boundary
neutral, a mark. A character without an entry is a left-to-right letter.
-/
namespace SmokeProbe.Unicode

/-- The classes other than that of left-to-right letters. -/
def bidiClasses : Table := Table.ofLines [
  "0-8=9 e-1b=9 21-22=8 23-25=7 26-2a=8 2b=5 2c=6 2d=5 2e-2f=6 30-39=4 3a=6 3b-40=8 5b-60=8",
  "7b-7e=8 7f=9 a1=8 a2-a5=7 a6-ae=8 b0-b1=7 b6-d7=8 f7=8 2b9-2ba=8 2c2-2cf=8 2d2-2ed=8",
  "2ef-2ff=8 300-36f=a 374-375=8 37e-387=8 3f6=8 483-489=a 58a-58e=8 58f=7 591-5bd=a 5be=1",
  "5bf=a 5c0=1 5c1-5c2=a 5c3=1 5c4-5c5=a 5c6=1 5c7=a 5d0-5f4=1 606-607=8 608=2 609-60a=7 60b=2",
  "60c=6 60d=2 60e-60f=8 610-61a=a 61b-64a=2 64b-65f=a 660-669=3 66a=7 66b-66c=3 66d-66f=2",
  "670=a 671-6d5=2 6d6-6dc=a 6de=8 6df-6e4=a 6e5-6e6=2 6e7-6e8=a 6e9=8 6ea-6ed=a 6ee-6ef=2",
  "6f0-6f9=4 6fa-710=2 711=a 712-72f=2 730-74a=a 74d-7a5=2 7a6-7b0=a 7b1=2 7c0-7ea=1 7eb-7f3=a",
  "7f4-7f5=1 7f6-7f9=8 7fa=1 7fd=a 7fe-815=1 816-819=a 81a=1 81b-823=a 824=1 825-827=a 828=1",
  "829-82d=a 830-858=1 859-85b=a 85e=1 860-88f=2 897-89f=a 8a0-8c9=2 8ca-902=a 93a=a 93c=a",
  "941-948=a 94d=a 951-957=a 962-963=a 981=a 9bc=a 9c1-9c4=a 9cd=a 9e2-9e3=a 9f2-9f3=7 9fb=7",
  "9fe-a02=a a3c=a a41-a51=a a70-a71=a a75=a a81-a82=a abc=a ac1-ac8=a acd=a ae2-ae3=a af1=7",
  "afa-b01=a b3c=a b3f=a b41-b44=a b4d-b56=a b62-b63=a b82=a bc0=a bcd=a bf3-bf8=8 bf9=7 bfa=8",
  "c00=a c04=a c3c=a c3e-c40=a c46-c56=a c62-c63=a c78-c7e=8 c81=a cbc=a ccc-ccd=a ce2-ce3=a",
  "d00-d01=a d3b-d3c=a d41-d44=a d4d=a d62-d63=a d81=a dca=a dd2-dd6=a e31=a e34-e3a=a e3f=7",
  "e47-e4e=a eb1=a eb4-ebc=a ec8-ece=a f18-f19=a f35=a f37=a f39=a f3a-f3d=8 f71-f7e=a",
  "f80-f84=a f86-f87=a f8d-fbc=a fc6=a 102d-1030=a 1032-1037=a 1039-103a=a 103d-103e=a",
  "1058-1059=a 105e-1060=a 1071-1074=a 1082=a 1085-1086=a 108d=a 109d=a 135d-135f=a 1390-1399=8",
  "1400=8 169b-169c=8 1712-1714=a 1732-1733=a 1752-1753=a 1772-1773=a 17b7-17bd=a 17c6=a",
  "17c9-17d3=a 17db=7 17dd=a 17f0-180a=8 1885-1886=a 18a9=a 1920-1922=a 1927-1928=a 1932=a",
  "1939-193b=a 1940-1945=8 19de-19ff=8 1a17-1a18=a 1a1b=a 1a56=a 1a58-1a60=a 1a62=a 1a65-1a6c=a",
  "1a73-1a7f=a 1ab0-1b03=a 1b34=a 1b36-1b3a=a 1b3c=a 1b42=a 1b6b-1b73=a 1b80-1b81=a 1ba2-1ba5=a",
  "1ba8-1ba9=a 1bab-1bad=a 1be6=a 1be8-1be9=a 1bed=a 1bef-1bf1=a 1c2c-1c33=a 1c36-1c37=a",
  "1cd0-1cd2=a 1cd4-1ce0=a 1ce2-1ce8=a 1ced=a 1cf4=a 1cf8-1cf9=a 1dc0-1dff=a 1fef=8 200c-200d=9",
  "2010-2027=8 2030-2032=7 2035-2043=8 2044=6 2045-205e=8 20a0-20c0=7 20c1=8 20d0-20f0=a",
  "2104-2129=8 212e=7 213a-214d=8 218a-2211=8 2212=5 2213=7 2214-2335=8 237b-2394=8 2396-26ab=8",
  "26ad-27ff=8 2900-2bff=8 2ce5-2cea=8 2cef-2cf1=a 2cf9-2cff=8 2d7f=a 2de0-2dff=a 2e00-3004=8",
  "3008-3020=8 302a-302d=a 3030=8 3037=8 303d-303f=8 3099-309a=a 30a0=8 30fb=8 31c0-31e5=8",
  "4dc0-4dff=8 a490-a4c6=8 a60d-a60f=8 a66f-a672=a a673=8 a674-a67d=a a67e-a67f=8 a69e-a69f=a",
  "a6f0-a6f1=a a700-a721=8 a788=8 a802=a a806=a a80b=a a825-a826=a a828-a82b=8 a82c=a",
  "a838-a839=7 a874-a877=8 a8c4-a8c5=a a8e0-a8f1=a a8ff=a a926-a92d=a a947-a951=a a980-a982=a",
  "a9b3=a a9b6-a9b9=a a9bc-a9bd=a a9e5=a aa29-aa2e=a aa31-aa32=a aa35-aa36=a aa43=a aa4c=a",
  "aa7c=a aab0=a aab2-aab4=a aab7-aab8=a aabe-aabf=a aac1=a aaec-aaed=a aaf6=a ab6a-ab6b=8",
  "abe5=a abe8=a abed=a fb1d=1 fb1e=a fb1f-fb4e=1 fbb2-fbd2=2 fd3e-fd4f=8 fd90-fdce=2",
  "fdcf-fdff=8 fe20-fe2f=a fe45-fe46=8 fe73=2 10101=8 10140-1018c=8 10190-101a0=8 101fd=a",
  "102e0=a 102e1-102fb=4 10376-1037a=a 10800-1091b=1 1091f=8 10920-10a00=1 10a01-10a0f=a",
  "10a10-10a35=1 10a38-10a3f=a 10a40-10ae4=1 10ae5-10ae6=a 10aeb-10b35=1 10b39-10b3f=8",
  "10b40-10cff=1 10d00-10d23=2 10d24-10d27=a 10d30-10d39=3 10d40-10d4f=1 10d69-10d6d=a",
  "10d6e-10d8f=1 10e60-10e7e=3 10e80-10ea9=1 10eab-10eac=a 10ead-10eb1=1 10ec2-10ed8=2",
  "10efa-10eff=a 10f00-10f27=1 10f30-10f45=2 10f46-10f50=a 10f51-10f59=2 10f70-10f81=1",
  "10f82-10f85=a 10f86-10ff6=1 11001=a 11038-11046=a 11052-11065=8 11070=a 11073-11074=a",
  "1107f-11081=a 110b3-110b6=a 110b9-110ba=a 110c2=a 11100-11102=a 11127-1112b=a 1112d-11134=a",
  "11173=a 11180-11181=a 111b6-111be=a 111c9-111cc=a 111cf=a 1122f-11231=a 11234=a",
  "11236-11237=a 1123e=a 11241=a 112df=a 112e3-112ea=a 11300-11301=a 1133b-1133c=a 11340=a",
  "11366-11374=a 113bb-113c0=a 113ce=a 113d0=a 113d2=a 113e1-113e2=a 11438-1143f=a",
  "11442-11444=a 11446=a 1145e=a 114b3-114b8=a 114ba=a 114bf-114c0=a 114c2-114c3=a",
  "115b2-115b5=a 115bc-115bd=a 115bf-115c0=a 115dc-115dd=a 11633-1163a=a 1163d=a 1163f-11640=a",
  "11660-1166c=8 116ab=a 116ad=a 116b0-116b5=a 116b7=a 1171d-1171f=a 11722-11725=a",
  "11727-1172b=a 1182f-11837=a 11839-1183a=a 1193b-1193c=a 1193e=a 11943=a 119d4-119db=a",
  "119e0=a 11a01-11a06=a 11a09-11a0a=a 11a33-11a38=a 11a3b-11a3e=a 11a47=a 11a51-11a56=a",
  "11a59-11a5b=a 11a8a-11a96=a 11a98-11a99=a 11b60=a 11b62-11b64=a 11b66=a 11c30-11c3d=a",
  "11c92-11ca7=a 11caa-11cb0=a 11cb2-11cb3=a 11cb5-11cb6=a 11d31-11d45=a 11d47=a 11d90-11d91=a",
  "11d95=a 11d97=a 11ef3-11ef4=a 11f00-11f01=a 11f36-11f3a=a 11f40=a 11f42=a 11f5a=a",
  "11fd5-11fdc=8 11fdd-11fe0=7 11fe1-11ff1=8 13440=a 13447-13455=a 1611e-16129=a 1612d-1612f=a",
  "16af0-16af4=a 16b30-16b36=a 16f4f=a 16f8f-16f92=a 16fe2=8 16fe4=a 1bc9d-1bc9e=a",
  "1cc00-1cef0=8 1cf00-1cf46=a 1d167-1d169=a 1d17b-1d182=a 1d185-1d18b=a 1d1aa-1d1ad=a",
  "1d1e9-1d241=8 1d242-1d244=a 1d245=8 1d300-1d356=8 1da00-1da36=a 1da3b-1da6c=a 1da75=a",
  "1da84=a 1da9b-1daaf=a 1e000-1e08f=a 1e130-1e136=a 1e2ae=a 1e2ec-1e2ef=a 1e2ff=7",
  "1e4ec-1e4ef=a 1e5ee-1e5ef=a 1e6e3=a 1e6e6=a 1e6ee-1e6ef=a 1e6f5=a 1e800-1e8cf=1",
  "1e8d0-1e8d6=a 1e922-1e943=1 1e944-1e94a=a 1e94b-1e95f=1 1ec71-1ed3d=2 1eef0-1f12f=8",
  "1f16d-1f16f=8 1f1ad=8 1f260-1fbfa=8"]

end SmokeProbe.Unicode
