import Workflow.Text.CharSet

/-!
# Workflow.Text.Compatibility

The compatibility form of names, after the Unicode Character Database,
version 14.0: a character that only differs in form from others stands for
them (`ﬁ` for `fi`), and a letter followed by a mark for the letter that
carries it.
-/

namespace Workflow.Text

/-! ## Tables -/

/-- Compatibility forms of the characters that may occur in names. -/
def compatibilityMap : CharMap := CharMap.ofTables
  "aa:-49 b5:307 ba:-4b 17f:-10c 2b0:-248 2b1:-4b 2b2:-248 2b3:-241 2b4:-3b 2b5:-3a 2b6:-35
2b7:-240 2b8:-23f 2e0:-7d 2e1:-275 2e2:-26f 2e3:-26b 2e4:-4f 340-341:-40 343:-30 374:-bb
387:-2d0 3d0:-1e 3d1:-19 3d2:-2d 3d3:-45 3d4:-29 3d5:-f 3d6:-16 3f0:-36 3f1-3f2:-30 3f4:-5c
3f5:-40 3f9:-56 10fc:-20 1d2c:-1ceb 1d2d:-1c67 1d2e-1d30/2:-1cec 1d31:-1cec 1d32:-1ba4
1d33-1d3a:-1cec 1d3c:-1ced 1d3d:-1b1b 1d3e:-1cee 1d3f:-1ced 1d40-1d41:-1cec 1d42:-1ceb
1d43:-1ce2 1d44-1d45:-1af4 1d46:-44 1d47:-1ce5 1d48-1d49:-1ce4 1d4a:-1af1 1d4b-1d4c:-1af0
1d4d:-1ce6 1d4f:-1ce4 1d50:-1ce3 1d51:-1c06 1d52:-1ce3 1d53:-1aff 1d54-1d55:-3e 1d56:-1ce6
1d57-1d58:-1ce3 1d59:-3c 1d5a:-1aeb 1d5b:-1ce5 1d5c:-37 1d5d-1d5f:-19ab 1d60-1d61:-199a
1d62:-1cf9 1d63:-1cf1 1d64-1d65:-1cef 1d66-1d67:-19b4 1d68:-19a7 1d69-1d6a:-19a3 1d78:-193b
1d9b:-1b49 1d9c:-1d39 1d9d:-1b48 1d9e:-1cae 1d9f:-1b43 1da0:-1d3a 1da1:-1b42 1da2:-1b41
1da3:-1b3e 1da4-1da6:-1b3c 1da7:-2c 1da8:-1b0b 1da9:-1b3c 1daa:-25 1dab:-1b0c 1dac:-1b3b
1dad:-1b3d 1dae-1db1:-1b3c 1db2:-1b3a 1db3-1db4:-1b31 1db5:-1c0a 1db6-1db7:-1b2d 1db8:-9c
1db9-1dba:-1b2e 1dbb:-1d41 1dbc-1dbe:-1b2c 1dbf:-1a07 1e9b:-3a 1f71:-1bc5 1f73:-1bc6 1f75:-1bc7
1f77:-1bc8 1f79:-1bad 1f7b:-1bae 1f7d:-1baf 1fbb:-1c35 1fbe:-1c05 1fc9:-1c41 1fcb:-1c42
1fd3:-1c43 1fdb:-1c51 1fe3:-1c33 1feb:-1c5d 1ff9:-1c6d 1ffb:-1c6c 2071:-2008 207f:-2011
2090:-202f 2091:-202c 2092:-2023 2093:-201b 2094:-1e3b 2095:-202d 2096-2099:-202b 209a:-202a
209b-209c:-2028 2102:-20bf 2107:-1f77 210a:-20a3 210b:-20c3 210c:-20c4 210d:-20c5 210e:-20a6
210f:-1fe8 2110:-20c7 2111:-20c8 2112:-20c6 2113:-20a7 2115:-20c7 2119-211b:-20c9 211c:-20ca
211d:-20cb 2124:-20ca 2126:-1d7d 2128:-20ce 212a:-20df 212b:-2066 212c-212d:-20ea 212f:-20ca
2130-2131:-20eb 2133:-20e6 2134:-20c5 2135-2138:-1b65 2139:-20d0 213c:-1d7c 213d:-1d8a
213e:-1dab 213f:-1d9f 2145:-2101 2146-2147:-20e2 2148-2149:-20df 2160:-2117 2164:-210e
2169:-2111 216c:-2120 216d-216e:-212a 216f:-2122 2170:-2107 2174:-20fe 2179:-2101 217c:-2110
217d-217e:-211a 217f:-2112 2c7c:-2c12 2c7d:-2c27 2d6f:-e 3038:2309 3039-303a:230b
3131-3132:-2031 3133:-1f89 3134:-2032 3135-3136:-1f89 3137-3139:-2034 313a-313f:-1f8a 3140:-2026
3141-3143:-203b 3144:-2023 3145-314e:-203c 314f-3163:-1fee 3164:-2004 3165-3166:-2051
3167-3168:-1fa0 3169:-1f9d 316a:-1f9c 316b:-1f98 316c:-1f95 316d:-1f94 316e:-2052 316f:-1f92
3170:-1f91 3171-3172:-2054 3173:-2053 3174-3175:-2052 3176:-204f 3177:-204e 3178-317c:-204d
317d:-204b 317e:-2048 317f:-203f 3180:-2039 3181:-2035 3182-3183:-1f91 3184-3186:-202d
3187-3188:-2003 3189:-2001 318a-318b:-1ff9 318c:-1ff8 318d:-1fef 318e:-1fed a69c:-a252
a69d:-a251 a770:-1 a7f2:-a7af a7f3:-a7ad a7f4:-a7a3 a7f8:-a6d2 a7f9:-a6a6 ab5c:-435 ab5d:-26
ab5e:-a8f3 ab5f:-d ab69:-a8dc f900:-6cb8 f901:-920d f902:-6a38 f903:-6c3b f904:-8a33 f905:-aad3
f906:-a521 f907:-596b f908:-596c f909:-9fb8 f90a:-6739 f90b:-a384 f90c:-9fc4 f90d:-9717
f90e:-82a5 f90f:-798a f910:-72d1 f911:-7157 f912:-701a f913:-6884 f914:-8f12 f915:-8bfa
f916:-883d f917:-8539 f918:-74db f919:-67af f91a:-5f29 f91b:-aa99 f91c:-a5a7 f91d:-8e19
f91e:-8703 f91f:-72f2 f920:-5b02 f921:-9bd1 f922:-8937 f923:-7356 f924:-6fc0 f925:-965c
f926:-774e f927:-7108 f928:-9a5e f929:-9212 f92a:-8bc0 f92b:-862f f92c:-685e f92d:-a9a7
f92e:-a777 f92f:-a651 f930:-946c f931:-8e5e f932:-8722 f933:-824c f934:-7933 f935:-732f
f936:-72da f937:-6b48 f938:-6206 f939:-5dca f93a:-5b40 f93b:-80af f93c:-7fbd f93d:-7b9d
f93e:-7575 f93f:-663b f940:-5ac1 f941:-6e6b f942:-a063 f943:-9a3f f944:-7ce4 f945:-78c7
f946:-86e4 f947:-807d f948:-6c86 f949:-6252 f94a:-a072 f94b:-9ce9 f94c:-8f39 f94d:-8b73
f94e:-8a3f f94f:-7c20 f950:-7b19 f951:-6306 f952:-a680 f953:-78c8 f954:-a778 f955:-a789
f956:-7f3a f957:-7b99 f958:-7567 f959:-62e4 f95a:-6dda f95b:-968c f95c:-8f5a f95d:-6e5f
f95e:-ab25 f95f:-9d78 f960:-994e f961:-85da f962:-83f2 f963:-a64c f964:-8069 f965:-a9a6
f966:-99bd f967:-ab5a f968:-8c9c f969:-93f1 f96a:-7c48 f96b:-a5a8 f96c:-a10e f96d:-826c
f96e:-7525 f96f:-6ec5 f970:-8db6 f971:-69c1 f972:-8cea f973:-9675 f974:-768f f975:-95d5
f976:-8411 f977:-aac9 f978:-a80f f979:-a7b0 f97a:-90f9 f97b:-7c94 f97c:-770d f97d:-6eab
f97e:-67af f97f:-a68a f980:-a53e f981:-a00e f982:-9a96 f983:-93be f984:-8986 f985:-805b
f986:-63d9 f987:-5f1d f988:-5af1 f989:-5abb f98a:-a6ef f98b:-92c5 f98c:-8e15 f98d:-6a2b
f98e:-9b1a f98f:-97ff f990:-9790 f991:-94f7 f992:-8a6f f993:-884a f994:-850b f995:-7fcb
f996:-7ba2 f997:-7928 f998:-6a72 f999:-74ab f99a:-6977 f99b:-6651 f99c:-a785 f99d:-a6fa
f99e:-a4e1 f99f:-88d7 f9a0:-70de f9a1:-6ef7 f9a2:-9ad9 f9a3:-99ae f9a4:-9629 f9a5:-8df7
f9a6:-7d68 f9a7:-8632 f9a8:-aac4 f9a9:-a2b0 f9aa:-9dc3 f9ab:-9bf1 f9ac:-9990 f9ad:-85fb
f9ae:-8545 f9af:-7a15 f9b0:-796a f9b1:-677d f9b2:-62bc f9b3:-626b f9b4:-619c f9b5:-aa2a
f9b6:-8008 f9b7:-6803 f9b8:-6300 f9b9:-98d8 f9ba:-ab34 f9bb:-a8e1 f9bc:-9dce f9bd:-9d7e
f9be:-9425 f9bf:-8fbd f9c0:-87f2 f9c1:-837f f9c2:-74c6 f9c3:-6947 f9c4:-5a37 f9c5:-933d
f9c6:-6398 f9c7:-a73e f9c8:-924d f9c9:-91d6 f9ca:-8c89 f9cb:-8b2f f9cc:-85c3 f9cd:-8474
f9ce:-8163 f9cf:-7cbf f9d0:-6172 f9d1:-a864 f9d2:-97a4 f9d3:-635b f9d4:-a9a9 f9d5:-9cbc
f9d6:-8bec f9d7:-6aad f9d8:-9a4d f9d9:-9895 f9da:-91c3 f9db:-8654 f9dc:-6356 f9dd:-a7b4
f9de:-a5cf f9df:-9d7a f9e0:-93cd f9e1:-9293 f9e2:-913a f9e3:-8cfe f9e4:-85de f9e5:-8403
f9e6:-7a6d f9e7:-7118 f9e8:-7107 f9e9:-681d f9ea:-6308 f9eb:-a6ac f9ec:-8b32 f9ed:-a5d0
f9ee:-881e f9ef:-8557 f9f0:-73f6 f9f1:-634e f9f2:-5d9b f9f3:-5b54 f9f4:-925d f9f5:-8c2a
f9f6:-780e f9f7:-7f2c f9f8:-7ed8 f9f9:-7d67 f9fa:-873a f9fb:-8962 f9fc:-6ea4 f9fd:-ab3d
f9fe:-76c8 f9ff:-a7c5 fa00:-a7f9 fa01:-9b5b fa02:-972f fa03:-7d2d fa04:-9e7f fa05:-8ce7
fa06:-9352 fa07:-6acc fa08:-71bc fa09:-63bc fa0a:-707f fa0b:-9b38 fa0c:-a8cc fa0d:-a44d
fa10:-a1b6 fa12:-939e fa15:-a837 fa16:-86ec fa17:-834d fa18:-80dc fa19:-80bb fa1a:-80b5
fa1b:-808c fa1c:-62c6 fa1d:-7d5f fa1e:-7a61 fa20:-740e fa22:-6f2a fa25:-69ed fa26:-6929
fa2a:-613b fa2b:-612f fa2c:-6104 fa2d:-5c79 fa2e:-6950 fa2f:-6378 fa30:-aa82 fa31:-a94a
fa32:-a8e5 fa33:-a76a fa34:-a750 fa35:-a6e4 fa36:-a499 fa37:-a431 fa38:-a3d0 fa39:-a1f9
fa3a:-a192 fa3b:-9dd7 fa3c:-9dce fa3d:-99a9 fa3e:-98d6 fa3f:-98b1 fa40:-984e fa41:-94f2
fa42:-9460 fa43:-93b2 fa44:-91bf fa45:-8cce fa46:-8c2c fa47:-8b25 fa48:-88da fa49:-881e
fa4a:-8628 fa4b:-81ba fa4c:-810e fa4d:-8104 fa4e:-8106 fa4f:-80ff fa50:-80fa fa51:-80f4
fa52-fa53:-80c5 fa54:-8014 fa55:-7fd4 fa56:-7e96 fa57:-7c63 fa58:-7c4f fa59:-7c18 fa5a:-7ae8
fa5b:-7a56 fa5c:-786f fa5d:-77e4 fa5e:-77e5 fa5f:-7608 fa60:-7150 fa61:-70cb fa62:-6f61
fa63:-6f2a fa64:-6d91 fa65:-6d5d fa66:-6ab0 fa67:-6a2f fa68:-6385 fa69:-626a fa6a:-622f
fa6b:-99f6 fa6c:14882 fa6d:-7855 fa70:-ac4a fa71:-a8bc fa72:-a90a fa73:-aaf3 fa74:-a92f
fa75:-a8f5 fa76:-a7af fa77:-a77d fa78:-a4db fa79:-a524 fa7a:-a4e1 fa7b:-a499 fa7c:-a222
fa7d:-a1ca fa7e:-a13a fa7f:-a12b fa80:-a01e fa81:-9f59 fa82:-9bb0 fa83:-9baa fa84:-9b1b
fa85:-9ad8 fa86:-99ae fa87:-9939 fa88:-9980 fa89:-98fb fa8a:-992a fa8b:-9899 fa8c:-9858
fa8d:-96c9 fa8e:-9672 fa8f:-963d fa90:-953a fa91:-941d fa92:-937b fa93:-9378 fa94:-933e
fa95:-8f1c fa96:-8edc fa97:-8d56 fa98:-8bbd fa99:-8bce fa9a:-8b78 fa9b:-8a7d fa9c:-892e
fa9d:-82f6 fa9e:-8869 fa9f:-87f0 faa0:-8776 faa1:-8630 faa2:-859c faa3:-8568 faa4:-8487
faa5:-8486 faa6:-83dc faa7:-83cc faa8:-83b4 faa9:-835f faaa:-836a faab:-81df faac:-7ffb
faad:-7eed faae:-7e33 faaf:-7d54 fab0:-7cbc fab1:-7b73 fab2:-7aad fab3:-7761 fab4:-76c5
fab5:-733c fab6:-7175 fab7:-7131 fab8:-7122 fab9:-6ffa faba:-6fc2 fabb:-6ff0 fabc:-6fbb
fabd:-6fbf fabe:-6fd1 fabf:-6f86 fac0:-6f36 fac1:-6db9 fac2:-6b8a fac3:-6a51 fac4:-692b
fac5:-684f fac6:-644a fac7:-63e4 fac8:-6372 fac9:-62ee faca:-62cb facb:-62c0 facc:-6291
facd:-5fbb face:-5b32 facf:12d7b fad0:12d74 fad1:13904 fad2:-bf35 fad3:-babb fad4:-ba9b
fad5:15774 fad6:161fa fad7:183fc fad8:-5b95 fad9:-5b4b fb20:-f53e fb21:-f551 fb22-fb23:-f54f
fb24-fb26:-f549 fb27:-f53f fb28:-f53e fb50:-f4df fb51:-f4e0 fb52:-f4d7 fb53:-f4d8 fb54:-f4d9
fb55:-f4da fb56:-f4d8 fb57:-f4d9 fb58:-f4da fb59:-f4db fb5a:-f4da fb5b:-f4db fb5c:-f4dc
fb5d:-f4dd fb5e:-f4e4 fb5f:-f4e5 fb60:-f4e6 fb61:-f4e7 fb62:-f4e3 fb63:-f4e4 fb64:-f4e5
fb65:-f4e6 fb66:-f4ed fb67:-f4ee fb68:-f4ef fb69:-f4f0 fb6a:-f4c6 fb6b:-f4c7 fb6c:-f4c8
fb6d:-f4c9 fb6e:-f4c8 fb6f:-f4c9 fb70:-f4ca fb71:-f4cb fb72:-f4ee fb73:-f4ef fb74:-f4f0
fb75:-f4f1 fb76:-f4f3 fb77:-f4f4 fb78:-f4f5 fb79:-f4f6 fb7a:-f4f4 fb7b:-f4f5 fb7c:-f4f6
fb7d-fb7e:-f4f7 fb7f:-f4f8 fb80:-f4f9 fb81:-f4fa fb82:-f4f5 fb83:-f4f6 fb84:-f4f8 fb85:-f4f9
fb86:-f4f8 fb87:-f4f9 fb88:-f500 fb89:-f501 fb8a:-f4f2 fb8b:-f4f3 fb8c:-f4fb fb8d:-f4fc
fb8e:-f4e5 fb8f:-f4e6 fb90:-f4e7 fb91:-f4e8 fb92:-f4e3 fb93:-f4e4 fb94:-f4e5 fb95:-f4e6
fb96:-f4e3 fb97:-f4e4 fb98:-f4e5 fb99:-f4e6 fb9a:-f4e9 fb9b:-f4ea fb9c:-f4eb fb9d:-f4ec
fb9e:-f4e4 fb9f-fba0:-f4e5 fba1:-f4e6 fba2:-f4e7 fba3:-f4e8 fba4:-f4e4 fba5-fba6:-f4e5
fba7:-f4e6 fba8:-f4e7 fba9:-f4e8 fbaa:-f4ec fbab:-f4ed fbac:-f4ee fbad:-f4ef fbae:-f4dc
fbaf-fbb0:-f4dd fbb1:-f4de fbd3:-f526 fbd4:-f527 fbd5:-f528 fbd6:-f529 fbd7:-f510 fbd8:-f511
fbd9:-f513 fbda:-f514 fbdb:-f513 fbdc:-f514 fbde:-f513 fbdf:-f514 fbe0:-f51b fbe1:-f51c
fbe2:-f519 fbe3:-f51a fbe4:-f514 fbe5:-f515 fbe6:-f516 fbe7:-f517 fbe8:-f59f fbe9:-f5a0
fbfc:-f530 fbfd:-f531 fbfe:-f532 fbff:-f533 fe33:-fdd4 fe34:-fdd5 fe4d:-fdee fe4e:-fdef
fe4f:-fdf0 fe80-fe81:-f85f fe82-fe83:-f860 fe84-fe85:-f861 fe86-fe87:-f862 fe88-fe89:-f863
fe8a:-f864 fe8b:-f865 fe8c-fe8d:-f866 fe8e-fe8f:-f867 fe90:-f868 fe91:-f869 fe92-fe93:-f86a
fe94-fe95:-f86b fe96:-f86c fe97:-f86d fe98-fe99:-f86e fe9a:-f86f fe9b:-f870 fe9c-fe9d:-f871
fe9e:-f872 fe9f:-f873 fea0-fea1:-f874 fea2:-f875 fea3:-f876 fea4-fea5:-f877 fea6:-f878
fea7:-f879 fea8-fea9:-f87a feaa-feab:-f87b feac-fead:-f87c feae-feaf:-f87d feb0-feb1:-f87e
feb2:-f87f feb3:-f880 feb4-feb5:-f881 feb6:-f882 feb7:-f883 feb8-feb9:-f884 feba:-f885
febb:-f886 febc-febd:-f887 febe:-f888 febf:-f889 fec0-fec1:-f88a fec2:-f88b fec3:-f88c
fec4-fec5:-f88d fec6:-f88e fec7:-f88f fec8-fec9:-f890 feca:-f891 fecb:-f892 fecc-fecd:-f893
fece:-f894 fecf:-f895 fed0:-f896 fed1:-f890 fed2:-f891 fed3:-f892 fed4-fed5:-f893 fed6:-f894
fed7:-f895 fed8-fed9:-f896 feda:-f897 fedb:-f898 fedc-fedd:-f899 fede:-f89a fedf:-f89b
fee0-fee1:-f89c fee2:-f89d fee3:-f89e fee4-fee5:-f89f fee6:-f8a0 fee7:-f8a1 fee8-fee9:-f8a2
feea:-f8a3 feeb:-f8a4 feec-feed:-f8a5 feee-feef:-f8a6 fef0-fef1:-f8a7 fef2:-f8a8 fef3:-f8a9
fef4:-f8aa ff10-ff19:-fee0 ff21-ff3a:-fee0 ff3f-ff41/2:-fee0 ff42-ff5a:-fee0 ff66:-ce74
ff67:-cec6 ff68:-cec5 ff69:-cec4 ff6a:-cec3 ff6b:-cec2 ff6c:-ce89 ff6d:-ce88 ff6e:-ce87
ff6f:-ceac ff70:-ce74 ff71:-cecf ff72:-cece ff73:-cecd ff74:-cecc ff75-ff76:-cecb ff77:-ceca
ff78:-cec9 ff79:-cec8 ff7a:-cec7 ff7b:-cec6 ff7c:-cec5 ff7d:-cec4 ff7e:-cec3 ff7f:-cec2
ff80:-cec1 ff81:-cec0 ff82:-cebe ff83:-cebd ff84:-cebc ff85-ff8a:-cebb ff8b:-ceb9 ff8c:-ceb7
ff8d:-ceb5 ff8e:-ceb3 ff8f-ff93:-ceb1 ff94:-ceb0 ff95:-ceaf ff96-ff9b:-ceae ff9c:-cead
ff9d:-ceaa ff9e-ff9f:-cf05 ffa0:-ee40 ffa1-ffa2:-eea1 ffa3:-edf9 ffa4:-eea2 ffa5-ffa6:-edf9
ffa7-ffa9:-eea4 ffaa-ffaf:-edfa ffb0:-ee96 ffb1-ffb3:-eeab ffb4:-ee93 ffb5-ffbe:-eeac
ffc2-ffc7:-ee61 ffca-ffcf:-ee63 ffd2-ffd7:-ee65 ffda-ffdc:-ee67 10781-10782:-104b1 10783:-1069d
10784:-104eb 10785:-10532 10787:-104e4 10788:-5c22 10789:-104e4 1078a:-104e6 1078b-1078c:-10535
1078d:-e9fc 1078e:-10536 1078f:-10531 10790:-104e7 10791:-1052d 10792:-10530 10793:-10533
10794:-104f9 10795:-1066e 10796:-104fa 10797:-10530 10798:-10514 10799-1079a:-104ef 1079b:-1052f
1079c:d768 1079d:-600f 1079e:-10530 1079f:d766 107a0:-10512 107a1:d765 107a2:-106aa
107a3-107a4:-1052d 107a5:-10734 107a6:-1052c 107a7:d761 107a8-107a9:-1052b 107aa:-1052a
107ab:-10503 107ac:-10506 107ad:-5c46 107ae:-10507 107af:-10527 107b0:-db3f 107b2:-10523
107b3-107b4:-10512 107b5:-1051d 107b6-107b8:-105f6 107b9:d751 107ba:d764 1d400-1d419:-1d3bf
1d41a-1d433:-1d3b9 1d434-1d44d:-1d3f3 1d44e-1d454:-1d3ed 1d456-1d467:-1d3ed 1d468-1d481:-1d427
1d482-1d49b:-1d421 1d49c-1d49e/2:-1d45b 1d49f:-1d45b 1d4a2:-1d45b 1d4a5-1d4a6:-1d45b
1d4a9-1d4ac:-1d45b 1d4ae-1d4b5:-1d45b 1d4b6-1d4b9:-1d455 1d4bb-1d4bd/2:-1d455 1d4be-1d4c3:-1d455
1d4c5-1d4cf:-1d455 1d4d0-1d4e9:-1d48f 1d4ea-1d503:-1d489 1d504-1d505:-1d4c3 1d507-1d50a:-1d4c3
1d50d-1d514:-1d4c3 1d516-1d51c:-1d4c3 1d51e-1d537:-1d4bd 1d538-1d539:-1d4f7 1d53b-1d53e:-1d4f7
1d540-1d544:-1d4f7 1d546:-1d4f7 1d54a-1d550:-1d4f7 1d552-1d56b:-1d4f1 1d56c-1d585:-1d52b
1d586-1d59f:-1d525 1d5a0-1d5b9:-1d55f 1d5ba-1d5d3:-1d559 1d5d4-1d5ed:-1d593 1d5ee-1d607:-1d58d
1d608-1d621:-1d5c7 1d622-1d63b:-1d5c1 1d63c-1d655:-1d5fb 1d656-1d66f:-1d5f5 1d670-1d689:-1d62f
1d68a-1d6a3:-1d629 1d6a4:-1d573 1d6a5:-1d46e 1d6a8-1d6b8:-1d317 1d6b9:-1d321 1d6ba-1d6c0:-1d317
1d6c2-1d6da:-1d311 1d6dc:-1d327 1d6dd:-1d325 1d6de:-1d324 1d6df:-1d319 1d6e0:-1d31f 1d6e1:-1d321
1d6e2-1d6f2:-1d351 1d6f3:-1d35b 1d6f4-1d6fa:-1d351 1d6fc-1d714:-1d34b 1d716:-1d361 1d717:-1d35f
1d718:-1d35e 1d719:-1d353 1d71a:-1d359 1d71b:-1d35b 1d71c-1d72c:-1d38b 1d72d:-1d395
1d72e-1d734:-1d38b 1d736-1d74e:-1d385 1d750:-1d39b 1d751:-1d399 1d752:-1d398 1d753:-1d38d
1d754:-1d393 1d755:-1d395 1d756-1d766:-1d3c5 1d767:-1d3cf 1d768-1d76e:-1d3c5 1d770-1d788:-1d3bf
1d78a:-1d3d5 1d78b:-1d3d3 1d78c:-1d3d2 1d78d:-1d3c7 1d78e:-1d3cd 1d78f:-1d3cf 1d790-1d7a0:-1d3ff
1d7a1:-1d409 1d7a2-1d7a8:-1d3ff 1d7aa-1d7c2:-1d3f9 1d7c4:-1d40f 1d7c5:-1d40d 1d7c6:-1d40c
1d7c7:-1d401 1d7c8:-1d407 1d7c9:-1d409 1d7ca-1d7cb:-1d3ee 1d7ce-1d7d7:-1d79e 1d7d8-1d7e1:-1d7a8
1d7e2-1d7eb:-1d7b2 1d7ec-1d7f5:-1d7bc 1d7f6-1d7ff:-1d7c6 1ee00-1ee01:-1e7d9 1ee02:-1e7d6
1ee03:-1e7d4 1ee05:-1e7bd 1ee06:-1e7d4 1ee07:-1e7da 1ee08:-1e7d1 1ee09:-1e7bf 1ee0a-1ee0d:-1e7c7
1ee0e:-1e7db 1ee0f:-1e7d6 1ee10:-1e7cf 1ee11:-1e7dc 1ee12:-1e7d0 1ee13:-1e7e2 1ee14:-1e7e0
1ee15-1ee16:-1e7eb 1ee17:-1e7e9 1ee18:-1e7e8 1ee19:-1e7e3 1ee1a:-1e7e2 1ee1b:-1e7e1 1ee1c:-1e7ae
1ee1d:-1e763 1ee1e:-1e77d 1ee1f:-1e7b0 1ee21:-1e7f9 1ee22:-1e7f6 1ee24:-1e7dd 1ee27:-1e7fa
1ee29:-1e7df 1ee2a-1ee2d:-1e7e7 1ee2e:-1e7fb 1ee2f:-1e7f6 1ee30:-1e7ef 1ee31:-1e7fc 1ee32:-1e7f0
1ee34:-1e800 1ee35-1ee36:-1e80b 1ee37:-1e809 1ee39:-1e803 1ee3b:-1e801 1ee42:-1e816 1ee47:-1e81a
1ee49:-1e7ff 1ee4b-1ee4d/2:-1e807 1ee4e:-1e81b 1ee4f:-1e816 1ee51:-1e81c 1ee52:-1e810
1ee54:-1e820 1ee57:-1e829 1ee59:-1e823 1ee5b:-1e821 1ee5d:-1e7a3 1ee5f:-1e7f0 1ee61:-1e839
1ee62:-1e836 1ee64:-1e81d 1ee67:-1e83a 1ee68:-1e831 1ee69:-1e81f 1ee6a-1ee6c/2:-1e827
1ee6d:-1e827 1ee6e:-1e83b 1ee6f:-1e836 1ee70:-1e82f 1ee71:-1e83c 1ee72:-1e830 1ee74:-1e840
1ee75-1ee76:-1e84b 1ee77:-1e849 1ee79:-1e843 1ee7a:-1e842 1ee7b:-1e841 1ee7c:-1e80e 1ee7e:-1e7dd
1ee80-1ee81:-1e859 1ee82:-1e856 1ee83:-1e854 1ee84-1ee85:-1e83d 1ee86:-1e854 1ee87:-1e85a
1ee88:-1e851 1ee89:-1e83f 1ee8b-1ee8d:-1e847 1ee8e:-1e85b 1ee8f:-1e856 1ee90:-1e84f 1ee91:-1e85c
1ee92:-1e850 1ee93:-1e862 1ee94:-1e860 1ee95-1ee96:-1e86b 1ee97:-1e869 1ee98:-1e868 1ee99:-1e863
1ee9a:-1e862 1ee9b:-1e861 1eea1:-1e879 1eea2:-1e876 1eea3:-1e874 1eea5:-1e85d 1eea6:-1e874
1eea7:-1e87a 1eea8:-1e871 1eea9:-1e85f 1eeab-1eead:-1e867 1eeae:-1e87b 1eeaf:-1e876 1eeb0:-1e86f
1eeb1:-1e87c 1eeb2:-1e870 1eeb3:-1e882 1eeb4:-1e880 1eeb5-1eeb6:-1e88b 1eeb7:-1e889 1eeb8:-1e888
1eeb9:-1e883 1eeba:-1e882 1eebb:-1e881 1fbf0-1fbf9:-1fbc0 2f800:-2a9c3 2f801:-2a9c9 2f802:-2a9c1
2f803:-f6e1 2f804:-2a8a4 2f805:-2a857 2f806:-2a84b 2f807:-2a805 2f808:-2a78e 2f809:-2a770
2f80a:-2a723 2f80b:-2a73c 2f80c:-2c36e 2f80d:-f1d3 2f80e:-2a6c1 2f80f:-2a6bb 2f810:-2a6ac
2f811:-2a69a 2f812:-f2f6 2f813:-2c35a 2f814:-2a6ad 2f815:-2a688 2f816:-f2cb 2f817:-2a680
2f818:-2a674 2f819:-2a94d 2f81a:-2a66e 2f81b:-2a666 2f81c:-663d 2f81d:-2a628 2f81e:-2a61b
2f81f:-2c340 2f820:-2a5e5 2f821:-2a5db 2f822:-2a5b0 2f823:-2a5ac 2f824:-2c30f 2f825:-2a55e
2f826:-2a55d 2f827:-2a543 2f828:-2a52e 2f829-2f82a:-2a524 2f82b:-2a514 2f82c:-2a4e3 2f82d:-2a4dc
2f82e:-2a4d4 2f82f:-2a4bc 2f830:-2a4b3 2f831:-2a4b2 2f832:-2a4b3 2f833:-2a4b4 2f834:-ee08
2f835:-287c5 2f836:-2a46c 2f837:-2a458 2f838:-ecd5 2f839:-2a44e 2f83a:-2a449 2f83b:-2a435
2f83c:-2a39e 2f83d:-2a405 2f83e:-2a3f6 2f83f:-2a3d7 2f840:-2a39e 2f841:-2a34b 2f842:-2a332
2f843:-2a2f0 2f844:-2a2e1 2f845:-2a2c1 2f846:-2a2c2 2f847:-2a2ae 2f848:-2a29d 2f849:-2a296
2f84a:-2a288 2f84b:-2a135 2f84c:-2a246 2f84d:-2a136 2f84e:-2a1fd 2f84f:-2a1db 2f850:-2a649
2f851:-29f63 2f852:-2a084 2f853:-2a05f 2f854:-2a047 2f855:-2a0ca 2f856:-2a024 2f857:-2a026
2f858:-29fac 2f859:-e375 2f85a:-29f68 2f85b:-29f64 2f85c:-29f56 2f85d:-29f43 2f85e:-29f3c
2f85f:-29efd 2f860:-e1b8 2f861:-e177 2f862:-29e76 2f863:-29e48 2f864:-29e3d 2f865:-29e8d
2f866:-29e00 2f867:-2c179 2f868:-2c16c 2f869:-29d61 2f86a:-29d2c 2f86b:-29d2d 2f86c:-dea4
2f86d:-29caa 2f86e:-29c96 2f86f:-29c88 2f870:-29c7d 2f871:-dd59 2f872:-29c73 2f873:-29c6d
2f874:-29921 2f875:-29c53 2f876:-2c0f5 2f877:-29c17 2f878:-29c0a 2f879:-29bb9 2f87a:-29bed
2f87b:-da97 2f87c:-29b39 2f87d:-da97 2f87e:-29b10 2f87f:-29b14 2f880:-29b04 2f881-2f882:-29aa0
2f883:-2c054 2f884:-29a87 2f885:-29a5d 2f886:-29a49 2f887:-29a1e 2f888:-2c026 2f889:-d706
2f88a:-2c00e 2f88b:-299db 2f88c:-299d9 2f88d:-299d7 2f88e:-299c4 2f88f:-54fd 2f890:-29992
2f891:-d560 2f892:-d561 2f893:-27692 2f894:-29972 2f895:-29973 2f896:-2bfcf 2f897:-c5df
2f898:-96be 2f899:-29937 2f89a:-2992f 2f89b:-2bfb8 2f89c:-29902 2f89d:-298d0 2f89e:-298c7
2f89f:-298a6 2f8a0:-2981f 2f8a1:-2bf67 2f8a2:-2bf86 2f8a3:-2980f 2f8a4:-d1d0 2f8a5:-297de
2f8a6:-2975e 2f8a7:-2975b 2f8a8:-2975a 2f8a9:-2975d 2f8aa:-29730 2f8ab:-2971d 2f8ac:-296fa
2f8ad:-29709 2f8ae:-296ff 2f8af:-296d1 2f8b0:-296be 2f8b1:-296bb 2f8b2:-296a2 2f8b3:-29698
2f8b4:-29657 2f8b5:-29604 2f8b6:-295e2 2f8b7:-29567 2f8b8:-cdac 2f8b9:-2957c 2f8ba:-295be
2f8bb:-29553 2f8bc:-29539 2f8bd:-294d9 2f8be:-cccd 2f8bf:-2949d 2f8c0:-294fb 2f8c1:-29518
2f8c2:-2be94 2f8c3:-2945a 2f8c4:-29446 2f8c5:-29428 2f8c6:-2944f 2f8c7:-2be5b 2f8c8:-29379
2f8c9:-2935d 2f8ca:-c8c0 2f8cb:-292e8 2f8cc:-291d4 2f8cd:-29284 2f8ce:-2bdb5 2f8cf:-2923e
2f8d0:-2bdc8 2f8d1:-2bded 2f8d2:-2a740 2f8d3:-2a73e 2f8d4:-291d4 2f8d5:-29239 2f8d6:-27829
2f8d7:-2b4fe 2f8d8:-291c1 2f8d9:-291be 2f8da:-291b9 2f8db:-2917d 2f8dc:-29189 2f8dd:-c51a
2f8de:-2bd95 2f8df:-290e5 2f8e0:-2915b 2f8e1:-2908f 2f8e2:-2905d 2f8e3:-c476 2f8e4:-29056
2f8e5:-290c6 2f8e6:-28fd2 2f8e7:-2bd4a 2f8e8:-28fa6 2f8e9:-28f46 2f8ea:-28f00 2f8eb:-28e43
2f8ec:-c249 2f8ed:-28e12 2f8ee:-2bcd6 2f8ef:-28dce 2f8f0:-c049 2f8f1:-28d9d 2f8f2:-2bca4
2f8f3:-28d81 2f8f4:-28d55 2f8f5-2f8f6:-28d3b 2f8f7:-be6a 2f8f8:-dbed 2f8f9:-bdff 2f8fa:-28cac
2f8fb:-bc3f 2f8fc:-28c3d 2f8fd:-28c30 2f8fe:-28c97 2f8ff:-28be9 2f900:-28bc2 2f901:-28b8a
2f902:-28bc1 2f903:-28b9a 2f904:-28b8c 2f905:-28b80 2f906:-bbe8 2f907:-28bd3 2f908:-28ad9
2f909:-28a9b 2f90a:-2bbd7 2f90b:-28a40 2f90c:-28a45 2f90d:-ba3c 2f90e:-28b15 2f90f:-289a1
2f910:-b9b2 2f911:-b983 2f912:-2894c 2f913:-288da 2f914:-288f6 2f915:-288fa 2f916:-2bb80
2f917:-288cd 2f918:-2889b 2f919:-288a2 2f91a:-2886d 2f91b:-f3f6 2f91c:-287d7 2f91d:-b6ba
2f91e:-28782 2f91f:-b574 2f920:-286f8 2f921:-286ec 2f922:-286d2 2f923:-b31b 2f924:-286a4
2f925:-28690 2f926:-b1f1 2f927:-b113 2f928:-285ae 2f929:-2859e 2f92a:-2ba7e 2f92b:-28586
2f92c:-2ba74 2f92d:-2ba75 2f92e:-284e7 2f92f:-284d3 2f930:-284bf 2f931:-284ac 2f932:-28468
2f933:-2ba18 2f934:-28410 2f935:-acff 2f936:-283f8 2f937:-aca5 2f938:-283c8 2f939:-d79a
2f93a:-2832a 2f93b:-a99a 2f93c:-a984 2f93d:-a8f9 2f93e:-2b942 2f93f:-2b937 2f940:-2824c
2f941:-a84e 2f942:-a850 2f943:-a82a 2f944:-a811 2f945-2f946:-28227 2f947:-28228 2f948:-281fe
2f949:-2b910 2f94a:-281bf 2f94b:-2b905 2f94c:-2b8b6 2f94d:-a530 2f94e:-28100 2f94f:-280c3
2f950:-28084 2f951:-2b86e 2f952:-a32c 2f953:-27ffd 2f954:-a2ba 2f955:-a290 2f956:-27fc7
2f957:-27f6c 2f958:-2b829 2f959:-27f19 2f95a:-27f10 2f95b:-27f0c 2f95c:-9fe0 2f95d:-9eb6
2f95e:-9eb7 2f95f:-27e71 2f960:-2b75e 2f961:-9db6 2f962:-27d9c 2f963:-27d9a 2f964:-2b73d
2f965:-9ce5 2f966:-27c94 2f967:-2b6c7 2f968:-27c80 2f969:-27c86 2f96a:-27c6a 2f96b:-99e5
2f96c:-27c09 2f96d:-2b66c 2f96e:-27ba7 2f96f:-27b6d 2f970:-27b2b 2f971:-2b63d 2f972:-974a
2f973:-972c 2f974:-2b61b 2f975:-969c 2f976:-279fc 2f977:-9639 2f978:-279e3 2f979:-2797f
2f97a:-27975 2f97b:-94a1 2f97c:-9459 2f97d:-2791d 2f97e:-93d6 2f97f:-2790f 2f980:-c621
2f981:-2b5ac 2f982:-278d0 2f983:-27880 2f984:-2b579 2f985:-27847 2f986:-29ed1 2f987:-91e0
2f988:-91d3 2f989:-c5f6 2f98a:-c5ee 2f98b:-2778a 2f98c:-27788 2f98d:-269ef 2f98e:-2b523
2f98f:-276fe 2f990:-27705 2f991:-276f4 2f992:-2a6df 2f993:-276e2 2f994:-276e1 2f995:-276d8
2f996:-276b0 2f997:-8e5b 2f998:-276b3 2f999:-2767c 2f99a:-27637 2f99b:-275ee 2f99c:-27679
2f99d:-275e0 2f99e:-275b7 2f99f:-27548 2f9a0:-2764d 2f9a1:-275d7 2f9a2:-275d6 2f9a3:-275c7
2f9a4:-8d6e 2f9a5:-8c3a 2f9a6:-8cd1 2f9a7:-2b47c 2f9a8:-274b7 2f9a9:-274b6 2f9aa:-27494
2f9ab:-85e1 2f9ac:-27448 2f9ad:-8a81 2f9ae:-2b451 2f9af:-2b44e 2f9b0:-89ff 2f9b1:-88df
2f9b2:-2b447 2f9b3:-27363 2f9b4:-27358 2f9b5:-2734e 2f9b6:-2734d 2f9b7:-2730e 2f9b8:-27330
2f9b9:-272ab 2f9ba:-272d8 2f9bb:-27242 2f9bc:-27294 2f9bd:-27252 2f9be:-27238 2f9bf:-2b3e8
2f9c0:-271df 2f9c1:-271c0 2f9c2:-2b3c9 2f9c3:-27163 2f9c4:-27161 2f9c5:-835e 2f9c6:-270ef
2f9c7:-270e9 2f9c8:-2b393 2f9c9:-270cf 2f9ca:-2c50f 2f9cb:-811d 2f9cc:-8066 2f9cd:-2b30f
2f9ce:-2b307 2f9cf:-26f2f 2f9d0:-26ee3 2f9d1:-26e47 2f9d2:-26d7d 2f9d3:-7d2b 2f9d4:-26d29
2f9d5:-26d14 2f9d6:-26cbb 2f9d7:-26c60 2f9d8:-7aa9 2f9d9:-f1d5 2f9da:-26c0f 2f9db:-26c1f
2f9dc:-26bec 2f9dd:-f0ff 2f9de:-26b0a 2f9df:-26aa7 2f9e0:-740e 2f9e1:-73f4 2f9e2:-2694e
2f9e3:-268f2 2f9e4:-268d3 2f9e5:-72b7 2f9e6:-268cb 2f9e7:-267af 2f9e8-2f9e9:-26711 2f9ea:-2676e
2f9eb:-265f2 2f9ec:-265d7 2f9ed:-6df3 2f9ee:-26463 2f9ef:-2b05a 2f9f0:-26439 2f9f1:-6c7a
2f9f2:-2b00c 2f9f3:-26330 2f9f4:-29c42 2f9f5:-262d2 2f9f6:-68b1 2f9f7:-67dd 2f9f8:-2af8a
2f9f9:-2af83 2f9fa:-2621a 2f9fb:-65f1 2f9fc:-2af4a 2f9fd:-6567 2f9fe:-261f3 2f9ff:-261f4
2fa00:-261d7 2fa01:-644b 2fa02:-26120 2fa03:-2aed0 2fa04:-260db 2fa05:-2605e 2fa06:-26044
2fa07:-26009 2fa08:-2ae3a 2fa09:-5ed9 2fa0a:-25ef8 2fa0b:-25dcb 2fa0c:-25d0f 2fa0d:-2ad3f
2fa0e:-2ad21 2fa0f:-25ca8 2fa10:-5942 2fa11:-2ad19 2fa12:-590d 2fa13:-5805 2fa14:-5783
2fa15:-25b5a 2fa16:-2acc0 2fa17:-25b1e 2fa18:-25b1a 2fa19:-25b14 2fa1a:-25b0b 2fa1b:-25b05
2fa1c:-25ae1 2fa1d:-541d"
  "132:49.4a 133:69.6a 13f:4c.b7 140:6c.b7 149:2bc.6e 1c4:44.17d 1c5:44.17e 1c6:64.17e 1c7:4c.4a
1c8:4c.6a 1c9:6c.6a 1ca:4e.4a 1cb:4e.6a 1cc:6e.6a 1f1:44.5a 1f2:44.7a 1f3:64.7a 344:308.301
587:565.582 675:627.674 676:648.674 677:6c7.674 678:64a.674 958:915.93c 959:916.93c 95a:917.93c
95b:91c.93c 95c:921.93c 95d:922.93c 95e:92b.93c 95f:92f.93c 9dc:9a1.9bc 9dd:9a2.9bc 9df:9af.9bc
a33:a32.a3c a36:a38.a3c a59:a16.a3c a5a:a17.a3c a5b:a1c.a3c a5e:a2b.a3c b5c:b21.b3c b5d:b22.b3c
e33:e4d.e32 eb3:ecd.eb2 edc:eab.e99 edd:eab.ea1 f43:f42.fb7 f4d:f4c.fb7 f52:f51.fb7 f57:f56.fb7
f5c:f5b.fb7 f69:f40.fb5 f73:f71.f72 f75:f71.f74 f76:fb2.f80 f77:fb2.f71.f80 f78:fb3.f80
f79:fb3.f71.f80 f81:f71.f80 f93:f92.fb7 f9d:f9c.fb7 fa2:fa1.fb7 fa7:fa6.fb7 fac:fab.fb7
fb9:f90.fb5 1e9a:61.2be 2161:49.49 2162:49.49.49 2163:49.56 2165:56.49 2166:56.49.49
2167:56.49.49.49 2168:49.58 216a:58.49 216b:58.49.49 2171:69.69 2172:69.69.69 2173:69.76
2175:76.69 2176:76.69.69 2177:76.69.69.69 2178:69.78 217a:78.69 217b:78.69.69 309f:3088.308a
30ff:30b3.30c8 fb00:66.66 fb01:66.69 fb02:66.6c fb03:66.66.69 fb04:66.66.6c fb05:73.74
fb06:73.74 fb13:574.576 fb14:574.565 fb15:574.56b fb16:57e.576 fb17:574.56d fb1d:5d9.5b4
fb1f:5f2.5b7 fb2a:5e9.5c1 fb2b:5e9.5c2 fb2c:5e9.5bc.5c1 fb2d:5e9.5bc.5c2 fb2e:5d0.5b7
fb2f:5d0.5b8 fb30:5d0.5bc fb31:5d1.5bc fb32:5d2.5bc fb33:5d3.5bc fb34:5d4.5bc fb35:5d5.5bc
fb36:5d6.5bc fb38:5d8.5bc fb39:5d9.5bc fb3a:5da.5bc fb3b:5db.5bc fb3c:5dc.5bc fb3e:5de.5bc
fb40:5e0.5bc fb41:5e1.5bc fb43:5e3.5bc fb44:5e4.5bc fb46:5e6.5bc fb47:5e7.5bc fb48:5e8.5bc
fb49:5e9.5bc fb4a:5ea.5bc fb4b:5d5.5b9 fb4c:5d1.5bf fb4d:5db.5bf fb4e:5e4.5bf fb4f:5d0.5dc
fbdd:6c7.674 fbea:626.627 fbeb:626.627 fbec:626.6d5 fbed:626.6d5 fbee:626.648 fbef:626.648
fbf0:626.6c7 fbf1:626.6c7 fbf2:626.6c6 fbf3:626.6c6 fbf4:626.6c8 fbf5:626.6c8 fbf6:626.6d0
fbf7:626.6d0 fbf8:626.6d0 fbf9:626.649 fbfa:626.649 fbfb:626.649 fc00:626.62c fc01:626.62d
fc02:626.645 fc03:626.649 fc04:626.64a fc05:628.62c fc06:628.62d fc07:628.62e fc08:628.645
fc09:628.649 fc0a:628.64a fc0b:62a.62c fc0c:62a.62d fc0d:62a.62e fc0e:62a.645 fc0f:62a.649
fc10:62a.64a fc11:62b.62c fc12:62b.645 fc13:62b.649 fc14:62b.64a fc15:62c.62d fc16:62c.645
fc17:62d.62c fc18:62d.645 fc19:62e.62c fc1a:62e.62d fc1b:62e.645 fc1c:633.62c fc1d:633.62d
fc1e:633.62e fc1f:633.645 fc20:635.62d fc21:635.645 fc22:636.62c fc23:636.62d fc24:636.62e
fc25:636.645 fc26:637.62d fc27:637.645 fc28:638.645 fc29:639.62c fc2a:639.645 fc2b:63a.62c
fc2c:63a.645 fc2d:641.62c fc2e:641.62d fc2f:641.62e fc30:641.645 fc31:641.649 fc32:641.64a
fc33:642.62d fc34:642.645 fc35:642.649 fc36:642.64a fc37:643.627 fc38:643.62c fc39:643.62d
fc3a:643.62e fc3b:643.644 fc3c:643.645 fc3d:643.649 fc3e:643.64a fc3f:644.62c fc40:644.62d
fc41:644.62e fc42:644.645 fc43:644.649 fc44:644.64a fc45:645.62c fc46:645.62d fc47:645.62e
fc48:645.645 fc49:645.649 fc4a:645.64a fc4b:646.62c fc4c:646.62d fc4d:646.62e fc4e:646.645
fc4f:646.649 fc50:646.64a fc51:647.62c fc52:647.645 fc53:647.649 fc54:647.64a fc55:64a.62c
fc56:64a.62d fc57:64a.62e fc58:64a.645 fc59:64a.649 fc5a:64a.64a fc5b:630.670 fc5c:631.670
fc5d:649.670 fc64:626.631 fc65:626.632 fc66:626.645 fc67:626.646 fc68:626.649 fc69:626.64a
fc6a:628.631 fc6b:628.632 fc6c:628.645 fc6d:628.646 fc6e:628.649 fc6f:628.64a fc70:62a.631
fc71:62a.632 fc72:62a.645 fc73:62a.646 fc74:62a.649 fc75:62a.64a fc76:62b.631 fc77:62b.632
fc78:62b.645 fc79:62b.646 fc7a:62b.649 fc7b:62b.64a fc7c:641.649 fc7d:641.64a fc7e:642.649
fc7f:642.64a fc80:643.627 fc81:643.644 fc82:643.645 fc83:643.649 fc84:643.64a fc85:644.645
fc86:644.649 fc87:644.64a fc88:645.627 fc89:645.645 fc8a:646.631 fc8b:646.632 fc8c:646.645
fc8d:646.646 fc8e:646.649 fc8f:646.64a fc90:649.670 fc91:64a.631 fc92:64a.632 fc93:64a.645
fc94:64a.646 fc95:64a.649 fc96:64a.64a fc97:626.62c fc98:626.62d fc99:626.62e fc9a:626.645
fc9b:626.647 fc9c:628.62c fc9d:628.62d fc9e:628.62e fc9f:628.645 fca0:628.647 fca1:62a.62c
fca2:62a.62d fca3:62a.62e fca4:62a.645 fca5:62a.647 fca6:62b.645 fca7:62c.62d fca8:62c.645
fca9:62d.62c fcaa:62d.645 fcab:62e.62c fcac:62e.645 fcad:633.62c fcae:633.62d fcaf:633.62e
fcb0:633.645 fcb1:635.62d fcb2:635.62e fcb3:635.645 fcb4:636.62c fcb5:636.62d fcb6:636.62e
fcb7:636.645 fcb8:637.62d fcb9:638.645 fcba:639.62c fcbb:639.645 fcbc:63a.62c fcbd:63a.645
fcbe:641.62c fcbf:641.62d fcc0:641.62e fcc1:641.645 fcc2:642.62d fcc3:642.645 fcc4:643.62c
fcc5:643.62d fcc6:643.62e fcc7:643.644 fcc8:643.645 fcc9:644.62c fcca:644.62d fccb:644.62e
fccc:644.645 fccd:644.647 fcce:645.62c fccf:645.62d fcd0:645.62e fcd1:645.645 fcd2:646.62c
fcd3:646.62d fcd4:646.62e fcd5:646.645 fcd6:646.647 fcd7:647.62c fcd8:647.645 fcd9:647.670
fcda:64a.62c fcdb:64a.62d fcdc:64a.62e fcdd:64a.645 fcde:64a.647 fcdf:626.645 fce0:626.647
fce1:628.645 fce2:628.647 fce3:62a.645 fce4:62a.647 fce5:62b.645 fce6:62b.647 fce7:633.645
fce8:633.647 fce9:634.645 fcea:634.647 fceb:643.644 fcec:643.645 fced:644.645 fcee:646.645
fcef:646.647 fcf0:64a.645 fcf1:64a.647 fcf2:640.64e.651 fcf3:640.64f.651 fcf4:640.650.651
fcf5:637.649 fcf6:637.64a fcf7:639.649 fcf8:639.64a fcf9:63a.649 fcfa:63a.64a fcfb:633.649
fcfc:633.64a fcfd:634.649 fcfe:634.64a fcff:62d.649 fd00:62d.64a fd01:62c.649 fd02:62c.64a
fd03:62e.649 fd04:62e.64a fd05:635.649 fd06:635.64a fd07:636.649 fd08:636.64a fd09:634.62c
fd0a:634.62d fd0b:634.62e fd0c:634.645 fd0d:634.631 fd0e:633.631 fd0f:635.631 fd10:636.631
fd11:637.649 fd12:637.64a fd13:639.649 fd14:639.64a fd15:63a.649 fd16:63a.64a fd17:633.649
fd18:633.64a fd19:634.649 fd1a:634.64a fd1b:62d.649 fd1c:62d.64a fd1d:62c.649 fd1e:62c.64a
fd1f:62e.649 fd20:62e.64a fd21:635.649 fd22:635.64a fd23:636.649 fd24:636.64a fd25:634.62c
fd26:634.62d fd27:634.62e fd28:634.645 fd29:634.631 fd2a:633.631 fd2b:635.631 fd2c:636.631
fd2d:634.62c fd2e:634.62d fd2f:634.62e fd30:634.645 fd31:633.647 fd32:634.647 fd33:637.645
fd34:633.62c fd35:633.62d fd36:633.62e fd37:634.62c fd38:634.62d fd39:634.62e fd3a:637.645
fd3b:638.645 fd3c:627.64b fd3d:627.64b fd50:62a.62c.645 fd51:62a.62d.62c fd52:62a.62d.62c
fd53:62a.62d.645 fd54:62a.62e.645 fd55:62a.645.62c fd56:62a.645.62d fd57:62a.645.62e
fd58:62c.645.62d fd59:62c.645.62d fd5a:62d.645.64a fd5b:62d.645.649 fd5c:633.62d.62c
fd5d:633.62c.62d fd5e:633.62c.649 fd5f:633.645.62d fd60:633.645.62d fd61:633.645.62c
fd62:633.645.645 fd63:633.645.645 fd64:635.62d.62d fd65:635.62d.62d fd66:635.645.645
fd67:634.62d.645 fd68:634.62d.645 fd69:634.62c.64a fd6a:634.645.62e fd6b:634.645.62e
fd6c:634.645.645 fd6d:634.645.645 fd6e:636.62d.649 fd6f:636.62e.645 fd70:636.62e.645
fd71:637.645.62d fd72:637.645.62d fd73:637.645.645 fd74:637.645.64a fd75:639.62c.645
fd76:639.645.645 fd77:639.645.645 fd78:639.645.649 fd79:63a.645.645 fd7a:63a.645.64a
fd7b:63a.645.649 fd7c:641.62e.645 fd7d:641.62e.645 fd7e:642.645.62d fd7f:642.645.645
fd80:644.62d.645 fd81:644.62d.64a fd82:644.62d.649 fd83:644.62c.62c fd84:644.62c.62c
fd85:644.62e.645 fd86:644.62e.645 fd87:644.645.62d fd88:644.645.62d fd89:645.62d.62c
fd8a:645.62d.645 fd8b:645.62d.64a fd8c:645.62c.62d fd8d:645.62c.645 fd8e:645.62e.62c
fd8f:645.62e.645 fd92:645.62c.62e fd93:647.645.62c fd94:647.645.645 fd95:646.62d.645
fd96:646.62d.649 fd97:646.62c.645 fd98:646.62c.645 fd99:646.62c.649 fd9a:646.645.64a
fd9b:646.645.649 fd9c:64a.645.645 fd9d:64a.645.645 fd9e:628.62e.64a fd9f:62a.62c.64a
fda0:62a.62c.649 fda1:62a.62e.64a fda2:62a.62e.649 fda3:62a.645.64a fda4:62a.645.649
fda5:62c.645.64a fda6:62c.62d.649 fda7:62c.645.649 fda8:633.62e.649 fda9:635.62d.64a
fdaa:634.62d.64a fdab:636.62d.64a fdac:644.62c.64a fdad:644.645.64a fdae:64a.62d.64a
fdaf:64a.62c.64a fdb0:64a.645.64a fdb1:645.645.64a fdb2:642.645.64a fdb3:646.62d.64a
fdb4:642.645.62d fdb5:644.62d.645 fdb6:639.645.64a fdb7:643.645.64a fdb8:646.62c.62d
fdb9:645.62e.64a fdba:644.62c.645 fdbb:643.645.645 fdbc:644.62c.645 fdbd:646.62c.62d
fdbe:62c.62d.64a fdbf:62d.62c.64a fdc0:645.62c.64a fdc1:641.645.64a fdc2:628.62d.64a
fdc3:643.645.645 fdc4:639.62c.645 fdc5:635.645.645 fdc6:633.62e.64a fdc7:646.62c.64a
fdf0:635.644.6d2 fdf1:642.644.6d2 fdf2:627.644.644.647 fdf3:627.643.628.631 fdf4:645.62d.645.62f
fdf5:635.644.639.645 fdf6:631.633.648.644 fdf7:639.644.64a.647 fdf8:648.633.644.645
fdf9:635.644.649 fe71:640.64b fe77:640.64e fe79:640.64f fe7b:640.650 fe7d:640.651 fe7f:640.652
fef5:644.622 fef6:644.622 fef7:644.623 fef8:644.623 fef9:644.625 fefa:644.625 fefb:644.627
fefc:644.627"

/-- Letters that carry a mark: letter, mark and the two together. -/
def composites : List (Nat × Nat × Nat) :=
  (tableWords
  "41.300.c0 41.301.c1 41.302.c2 41.303.c3 41.308.c4 41.30a.c5 43.327.c7 45.300.c8 45.301.c9
45.302.ca 45.308.cb 49.300.cc 49.301.cd 49.302.ce 49.308.cf 4e.303.d1 4f.300.d2 4f.301.d3
4f.302.d4 4f.303.d5 4f.308.d6 55.300.d9 55.301.da 55.302.db 55.308.dc 59.301.dd 61.300.e0
61.301.e1 61.302.e2 61.303.e3 61.308.e4 61.30a.e5 63.327.e7 65.300.e8 65.301.e9 65.302.ea
65.308.eb 69.300.ec 69.301.ed 69.302.ee 69.308.ef 6e.303.f1 6f.300.f2 6f.301.f3 6f.302.f4
6f.303.f5 6f.308.f6 75.300.f9 75.301.fa 75.302.fb 75.308.fc 79.301.fd 79.308.ff 41.304.100
61.304.101 41.306.102 61.306.103 41.328.104 61.328.105 43.301.106 63.301.107 43.302.108
63.302.109 43.307.10a 63.307.10b 43.30c.10c 63.30c.10d 44.30c.10e 64.30c.10f 45.304.112
65.304.113 45.306.114 65.306.115 45.307.116 65.307.117 45.328.118 65.328.119 45.30c.11a
65.30c.11b 47.302.11c 67.302.11d 47.306.11e 67.306.11f 47.307.120 67.307.121 47.327.122
67.327.123 48.302.124 68.302.125 49.303.128 69.303.129 49.304.12a 69.304.12b 49.306.12c
69.306.12d 49.328.12e 69.328.12f 49.307.130 4a.302.134 6a.302.135 4b.327.136 6b.327.137
4c.301.139 6c.301.13a 4c.327.13b 6c.327.13c 4c.30c.13d 6c.30c.13e 4e.301.143 6e.301.144
4e.327.145 6e.327.146 4e.30c.147 6e.30c.148 4f.304.14c 6f.304.14d 4f.306.14e 6f.306.14f
4f.30b.150 6f.30b.151 52.301.154 72.301.155 52.327.156 72.327.157 52.30c.158 72.30c.159
53.301.15a 73.301.15b 53.302.15c 73.302.15d 53.327.15e 73.327.15f 53.30c.160 73.30c.161
54.327.162 74.327.163 54.30c.164 74.30c.165 55.303.168 75.303.169 55.304.16a 75.304.16b
55.306.16c 75.306.16d 55.30a.16e 75.30a.16f 55.30b.170 75.30b.171 55.328.172 75.328.173
57.302.174 77.302.175 59.302.176 79.302.177 59.308.178 5a.301.179 7a.301.17a 5a.307.17b
7a.307.17c 5a.30c.17d 7a.30c.17e 4f.31b.1a0 6f.31b.1a1 55.31b.1af 75.31b.1b0 41.30c.1cd
61.30c.1ce 49.30c.1cf 69.30c.1d0 4f.30c.1d1 6f.30c.1d2 55.30c.1d3 75.30c.1d4 dc.304.1d5
fc.304.1d6 dc.301.1d7 fc.301.1d8 dc.30c.1d9 fc.30c.1da dc.300.1db fc.300.1dc c4.304.1de
e4.304.1df 226.304.1e0 227.304.1e1 c6.304.1e2 e6.304.1e3 47.30c.1e6 67.30c.1e7 4b.30c.1e8
6b.30c.1e9 4f.328.1ea 6f.328.1eb 1ea.304.1ec 1eb.304.1ed 1b7.30c.1ee 292.30c.1ef 6a.30c.1f0
47.301.1f4 67.301.1f5 4e.300.1f8 6e.300.1f9 c5.301.1fa e5.301.1fb c6.301.1fc e6.301.1fd
d8.301.1fe f8.301.1ff 41.30f.200 61.30f.201 41.311.202 61.311.203 45.30f.204 65.30f.205
45.311.206 65.311.207 49.30f.208 69.30f.209 49.311.20a 69.311.20b 4f.30f.20c 6f.30f.20d
4f.311.20e 6f.311.20f 52.30f.210 72.30f.211 52.311.212 72.311.213 55.30f.214 75.30f.215
55.311.216 75.311.217 53.326.218 73.326.219 54.326.21a 74.326.21b 48.30c.21e 68.30c.21f
41.307.226 61.307.227 45.327.228 65.327.229 d6.304.22a f6.304.22b d5.304.22c f5.304.22d
4f.307.22e 6f.307.22f 22e.304.230 22f.304.231 59.304.232 79.304.233 a8.301.385 391.301.386
395.301.388 397.301.389 399.301.38a 39f.301.38c 3a5.301.38e 3a9.301.38f 3ca.301.390 399.308.3aa
3a5.308.3ab 3b1.301.3ac 3b5.301.3ad 3b7.301.3ae 3b9.301.3af 3cb.301.3b0 3b9.308.3ca 3c5.308.3cb
3bf.301.3cc 3c5.301.3cd 3c9.301.3ce 3d2.301.3d3 3d2.308.3d4 415.300.400 415.308.401 413.301.403
406.308.407 41a.301.40c 418.300.40d 423.306.40e 418.306.419 438.306.439 435.300.450 435.308.451
433.301.453 456.308.457 43a.301.45c 438.300.45d 443.306.45e 474.30f.476 475.30f.477 416.306.4c1
436.306.4c2 410.306.4d0 430.306.4d1 410.308.4d2 430.308.4d3 415.306.4d6 435.306.4d7 4d8.308.4da
4d9.308.4db 416.308.4dc 436.308.4dd 417.308.4de 437.308.4df 418.304.4e2 438.304.4e3 418.308.4e4
438.308.4e5 41e.308.4e6 43e.308.4e7 4e8.308.4ea 4e9.308.4eb 42d.308.4ec 44d.308.4ed 423.304.4ee
443.304.4ef 423.308.4f0 443.308.4f1 423.30b.4f2 443.30b.4f3 427.308.4f4 447.308.4f5 42b.308.4f8
44b.308.4f9 627.653.622 627.654.623 648.654.624 627.655.625 64a.654.626 6d5.654.6c0 6c1.654.6c2
6d2.654.6d3 928.93c.929 930.93c.931 933.93c.934 9c7.9be.9cb 9c7.9d7.9cc b47.b56.b48 b47.b3e.b4b
b47.b57.b4c b92.bd7.b94 bc6.bbe.bca bc7.bbe.bcb bc6.bd7.bcc c46.c56.c48 cbf.cd5.cc0 cc6.cd5.cc7
cc6.cd6.cc8 cc6.cc2.cca cca.cd5.ccb d46.d3e.d4a d47.d3e.d4b d46.d57.d4c dd9.dca.dda dd9.dcf.ddc
ddc.dca.ddd dd9.ddf.dde 1025.102e.1026 1b05.1b35.1b06 1b07.1b35.1b08 1b09.1b35.1b0a
1b0b.1b35.1b0c 1b0d.1b35.1b0e 1b11.1b35.1b12 1b3a.1b35.1b3b 1b3c.1b35.1b3d 1b3e.1b35.1b40
1b3f.1b35.1b41 1b42.1b35.1b43 41.325.1e00 61.325.1e01 42.307.1e02 62.307.1e03 42.323.1e04
62.323.1e05 42.331.1e06 62.331.1e07 c7.301.1e08 e7.301.1e09 44.307.1e0a 64.307.1e0b 44.323.1e0c
64.323.1e0d 44.331.1e0e 64.331.1e0f 44.327.1e10 64.327.1e11 44.32d.1e12 64.32d.1e13 112.300.1e14
113.300.1e15 112.301.1e16 113.301.1e17 45.32d.1e18 65.32d.1e19 45.330.1e1a 65.330.1e1b
228.306.1e1c 229.306.1e1d 46.307.1e1e 66.307.1e1f 47.304.1e20 67.304.1e21 48.307.1e22
68.307.1e23 48.323.1e24 68.323.1e25 48.308.1e26 68.308.1e27 48.327.1e28 68.327.1e29 48.32e.1e2a
68.32e.1e2b 49.330.1e2c 69.330.1e2d cf.301.1e2e ef.301.1e2f 4b.301.1e30 6b.301.1e31 4b.323.1e32
6b.323.1e33 4b.331.1e34 6b.331.1e35 4c.323.1e36 6c.323.1e37 1e36.304.1e38 1e37.304.1e39
4c.331.1e3a 6c.331.1e3b 4c.32d.1e3c 6c.32d.1e3d 4d.301.1e3e 6d.301.1e3f 4d.307.1e40 6d.307.1e41
4d.323.1e42 6d.323.1e43 4e.307.1e44 6e.307.1e45 4e.323.1e46 6e.323.1e47 4e.331.1e48 6e.331.1e49
4e.32d.1e4a 6e.32d.1e4b d5.301.1e4c f5.301.1e4d d5.308.1e4e f5.308.1e4f 14c.300.1e50
14d.300.1e51 14c.301.1e52 14d.301.1e53 50.301.1e54 70.301.1e55 50.307.1e56 70.307.1e57
52.307.1e58 72.307.1e59 52.323.1e5a 72.323.1e5b 1e5a.304.1e5c 1e5b.304.1e5d 52.331.1e5e
72.331.1e5f 53.307.1e60 73.307.1e61 53.323.1e62 73.323.1e63 15a.307.1e64 15b.307.1e65
160.307.1e66 161.307.1e67 1e62.307.1e68 1e63.307.1e69 54.307.1e6a 74.307.1e6b 54.323.1e6c
74.323.1e6d 54.331.1e6e 74.331.1e6f 54.32d.1e70 74.32d.1e71 55.324.1e72 75.324.1e73 55.330.1e74
75.330.1e75 55.32d.1e76 75.32d.1e77 168.301.1e78 169.301.1e79 16a.308.1e7a 16b.308.1e7b
56.303.1e7c 76.303.1e7d 56.323.1e7e 76.323.1e7f 57.300.1e80 77.300.1e81 57.301.1e82 77.301.1e83
57.308.1e84 77.308.1e85 57.307.1e86 77.307.1e87 57.323.1e88 77.323.1e89 58.307.1e8a 78.307.1e8b
58.308.1e8c 78.308.1e8d 59.307.1e8e 79.307.1e8f 5a.302.1e90 7a.302.1e91 5a.323.1e92 7a.323.1e93
5a.331.1e94 7a.331.1e95 68.331.1e96 74.308.1e97 77.30a.1e98 79.30a.1e99 17f.307.1e9b 41.323.1ea0
61.323.1ea1 41.309.1ea2 61.309.1ea3 c2.301.1ea4 e2.301.1ea5 c2.300.1ea6 e2.300.1ea7 c2.309.1ea8
e2.309.1ea9 c2.303.1eaa e2.303.1eab 1ea0.302.1eac 1ea1.302.1ead 102.301.1eae 103.301.1eaf
102.300.1eb0 103.300.1eb1 102.309.1eb2 103.309.1eb3 102.303.1eb4 103.303.1eb5 1ea0.306.1eb6
1ea1.306.1eb7 45.323.1eb8 65.323.1eb9 45.309.1eba 65.309.1ebb 45.303.1ebc 65.303.1ebd
ca.301.1ebe ea.301.1ebf ca.300.1ec0 ea.300.1ec1 ca.309.1ec2 ea.309.1ec3 ca.303.1ec4 ea.303.1ec5
1eb8.302.1ec6 1eb9.302.1ec7 49.309.1ec8 69.309.1ec9 49.323.1eca 69.323.1ecb 4f.323.1ecc
6f.323.1ecd 4f.309.1ece 6f.309.1ecf d4.301.1ed0 f4.301.1ed1 d4.300.1ed2 f4.300.1ed3 d4.309.1ed4
f4.309.1ed5 d4.303.1ed6 f4.303.1ed7 1ecc.302.1ed8 1ecd.302.1ed9 1a0.301.1eda 1a1.301.1edb
1a0.300.1edc 1a1.300.1edd 1a0.309.1ede 1a1.309.1edf 1a0.303.1ee0 1a1.303.1ee1 1a0.323.1ee2
1a1.323.1ee3 55.323.1ee4 75.323.1ee5 55.309.1ee6 75.309.1ee7 1af.301.1ee8 1b0.301.1ee9
1af.300.1eea 1b0.300.1eeb 1af.309.1eec 1b0.309.1eed 1af.303.1eee 1b0.303.1eef 1af.323.1ef0
1b0.323.1ef1 59.300.1ef2 79.300.1ef3 59.323.1ef4 79.323.1ef5 59.309.1ef6 79.309.1ef7 59.303.1ef8
79.303.1ef9 3b1.313.1f00 3b1.314.1f01 1f00.300.1f02 1f01.300.1f03 1f00.301.1f04 1f01.301.1f05
1f00.342.1f06 1f01.342.1f07 391.313.1f08 391.314.1f09 1f08.300.1f0a 1f09.300.1f0b 1f08.301.1f0c
1f09.301.1f0d 1f08.342.1f0e 1f09.342.1f0f 3b5.313.1f10 3b5.314.1f11 1f10.300.1f12 1f11.300.1f13
1f10.301.1f14 1f11.301.1f15 395.313.1f18 395.314.1f19 1f18.300.1f1a 1f19.300.1f1b 1f18.301.1f1c
1f19.301.1f1d 3b7.313.1f20 3b7.314.1f21 1f20.300.1f22 1f21.300.1f23 1f20.301.1f24 1f21.301.1f25
1f20.342.1f26 1f21.342.1f27 397.313.1f28 397.314.1f29 1f28.300.1f2a 1f29.300.1f2b 1f28.301.1f2c
1f29.301.1f2d 1f28.342.1f2e 1f29.342.1f2f 3b9.313.1f30 3b9.314.1f31 1f30.300.1f32 1f31.300.1f33
1f30.301.1f34 1f31.301.1f35 1f30.342.1f36 1f31.342.1f37 399.313.1f38 399.314.1f39 1f38.300.1f3a
1f39.300.1f3b 1f38.301.1f3c 1f39.301.1f3d 1f38.342.1f3e 1f39.342.1f3f 3bf.313.1f40 3bf.314.1f41
1f40.300.1f42 1f41.300.1f43 1f40.301.1f44 1f41.301.1f45 39f.313.1f48 39f.314.1f49 1f48.300.1f4a
1f49.300.1f4b 1f48.301.1f4c 1f49.301.1f4d 3c5.313.1f50 3c5.314.1f51 1f50.300.1f52 1f51.300.1f53
1f50.301.1f54 1f51.301.1f55 1f50.342.1f56 1f51.342.1f57 3a5.314.1f59 1f59.300.1f5b 1f59.301.1f5d
1f59.342.1f5f 3c9.313.1f60 3c9.314.1f61 1f60.300.1f62 1f61.300.1f63 1f60.301.1f64 1f61.301.1f65
1f60.342.1f66 1f61.342.1f67 3a9.313.1f68 3a9.314.1f69 1f68.300.1f6a 1f69.300.1f6b 1f68.301.1f6c
1f69.301.1f6d 1f68.342.1f6e 1f69.342.1f6f 3b1.300.1f70 3b5.300.1f72 3b7.300.1f74 3b9.300.1f76
3bf.300.1f78 3c5.300.1f7a 3c9.300.1f7c 1f00.345.1f80 1f01.345.1f81 1f02.345.1f82 1f03.345.1f83
1f04.345.1f84 1f05.345.1f85 1f06.345.1f86 1f07.345.1f87 1f08.345.1f88 1f09.345.1f89
1f0a.345.1f8a 1f0b.345.1f8b 1f0c.345.1f8c 1f0d.345.1f8d 1f0e.345.1f8e 1f0f.345.1f8f
1f20.345.1f90 1f21.345.1f91 1f22.345.1f92 1f23.345.1f93 1f24.345.1f94 1f25.345.1f95
1f26.345.1f96 1f27.345.1f97 1f28.345.1f98 1f29.345.1f99 1f2a.345.1f9a 1f2b.345.1f9b
1f2c.345.1f9c 1f2d.345.1f9d 1f2e.345.1f9e 1f2f.345.1f9f 1f60.345.1fa0 1f61.345.1fa1
1f62.345.1fa2 1f63.345.1fa3 1f64.345.1fa4 1f65.345.1fa5 1f66.345.1fa6 1f67.345.1fa7
1f68.345.1fa8 1f69.345.1fa9 1f6a.345.1faa 1f6b.345.1fab 1f6c.345.1fac 1f6d.345.1fad
1f6e.345.1fae 1f6f.345.1faf 3b1.306.1fb0 3b1.304.1fb1 1f70.345.1fb2 3b1.345.1fb3 3ac.345.1fb4
3b1.342.1fb6 1fb6.345.1fb7 391.306.1fb8 391.304.1fb9 391.300.1fba 391.345.1fbc a8.342.1fc1
1f74.345.1fc2 3b7.345.1fc3 3ae.345.1fc4 3b7.342.1fc6 1fc6.345.1fc7 395.300.1fc8 397.300.1fca
397.345.1fcc 1fbf.300.1fcd 1fbf.301.1fce 1fbf.342.1fcf 3b9.306.1fd0 3b9.304.1fd1 3ca.300.1fd2
3b9.342.1fd6 3ca.342.1fd7 399.306.1fd8 399.304.1fd9 399.300.1fda 1ffe.300.1fdd 1ffe.301.1fde
1ffe.342.1fdf 3c5.306.1fe0 3c5.304.1fe1 3cb.300.1fe2 3c1.313.1fe4 3c1.314.1fe5 3c5.342.1fe6
3cb.342.1fe7 3a5.306.1fe8 3a5.304.1fe9 3a5.300.1fea 3a1.314.1fec a8.300.1fed 1f7c.345.1ff2
3c9.345.1ff3 3ce.345.1ff4 3c9.342.1ff6 1ff6.345.1ff7 39f.300.1ff8 3a9.300.1ffa 3a9.345.1ffc
2190.338.219a 2192.338.219b 2194.338.21ae 21d0.338.21cd 21d4.338.21ce 21d2.338.21cf
2203.338.2204 2208.338.2209 220b.338.220c 2223.338.2224 2225.338.2226 223c.338.2241
2243.338.2244 2245.338.2247 2248.338.2249 3d.338.2260 2261.338.2262 224d.338.226d 3c.338.226e
3e.338.226f 2264.338.2270 2265.338.2271 2272.338.2274 2273.338.2275 2276.338.2278 2277.338.2279
227a.338.2280 227b.338.2281 2282.338.2284 2283.338.2285 2286.338.2288 2287.338.2289
22a2.338.22ac 22a8.338.22ad 22a9.338.22ae 22ab.338.22af 227c.338.22e0 227d.338.22e1
2291.338.22e2 2292.338.22e3 22b2.338.22ea 22b3.338.22eb 22b4.338.22ec 22b5.338.22ed
304b.3099.304c 304d.3099.304e 304f.3099.3050 3051.3099.3052 3053.3099.3054 3055.3099.3056
3057.3099.3058 3059.3099.305a 305b.3099.305c 305d.3099.305e 305f.3099.3060 3061.3099.3062
3064.3099.3065 3066.3099.3067 3068.3099.3069 306f.3099.3070 306f.309a.3071 3072.3099.3073
3072.309a.3074 3075.3099.3076 3075.309a.3077 3078.3099.3079 3078.309a.307a 307b.3099.307c
307b.309a.307d 3046.3099.3094 309d.3099.309e 30ab.3099.30ac 30ad.3099.30ae 30af.3099.30b0
30b1.3099.30b2 30b3.3099.30b4 30b5.3099.30b6 30b7.3099.30b8 30b9.3099.30ba 30bb.3099.30bc
30bd.3099.30be 30bf.3099.30c0 30c1.3099.30c2 30c4.3099.30c5 30c6.3099.30c7 30c8.3099.30c9
30cf.3099.30d0 30cf.309a.30d1 30d2.3099.30d3 30d2.309a.30d4 30d5.3099.30d6 30d5.309a.30d7
30d8.3099.30d9 30d8.309a.30da 30db.3099.30dc 30db.309a.30dd 30a6.3099.30f4 30ef.3099.30f7
30f0.3099.30f8 30f1.3099.30f9 30f2.3099.30fa 30fd.3099.30fe 11099.110ba.1109a 1109b.110ba.1109c
110a5.110ba.110ab 11131.11127.1112e 11132.11127.1112f 11347.1133e.1134b 11347.11357.1134c
114b9.114ba.114bb 114b9.114b0.114bc 114b9.114bd.114be 115b8.115af.115ba 115b9.115af.115bb
11935.11930.11938").map fun word =>
    match pieces (· = '.') word with
    | [a, b, c] => (hexValue a, hexValue b, hexValue c)
    | _ => (0, 0, 0)

/-! ## Composition -/

/-- A letter and a mark as one character. -/
def compose? (a b : Char) : Option Char :=
  let (x, y) := (a.toNat, b.toNat)
  if 0x1100 ≤ x ∧ x < 0x1113 ∧ 0x1161 ≤ y ∧ y < 0x1176 then
    some (Char.ofNat (0xAC00 + ((x - 0x1100) * 21 + (y - 0x1161)) * 28))
  else if 0xAC00 ≤ x ∧ x < 0xD7A4 ∧ (x - 0xAC00) % 28 = 0 ∧ 0x11A7 < y ∧ y < 0x11C3 then
    some (Char.ofNat (x + (y - 0x11A7)))
  else (composites.find? fun (p, q, _) => p = x && q = y).map fun (_, _, c) => Char.ofNat c

/-- Joins every letter with the marks that follow it. -/
def composeAll : List Char → List Char
  | [] => []
  | [c] => [c]
  | a :: b :: rest => match compose? a b with
    | some c => composeAll (c :: rest)
    | none => a :: composeAll (b :: rest)
termination_by cs => cs.length

/-- The compatibility form of a name. -/
def compatibilityForm (cs : List Char) : List Char :=
  if cs.all fun c => c.toNat < 128 then cs else composeAll (cs.flatMap compatibilityMap.apply)

end Workflow.Text
