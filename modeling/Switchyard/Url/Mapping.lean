import Switchyard.Text.CodeMap

/-!
# Characters of names

Many characters stand for others in the name of a host: capitals for small letters, wide and
decorated ones for plain ones, and some for nothing. Those that no name may hold stand for U+FFFD,
which is one of them.
-/

namespace Switchyard.Url

/-- What characters stand for, those left out that stand for themselves. -/
def nameTable : CodeMap :=
  [(0x41, "41-5a>61 80-9f=fffd a0>20 a8>20.308 aa>61 ad= af>20.304 b2>32,33,20.301,3bc"),
   (0xb8, "b8>20.327,31,6f bc>31.2044.34,31.2044.32,33.2044.34 c0-d6>e0 d8-de>f8 100-12e/2>101"),
   (0x130, "130>69.307 132>69.6a,69.6a,135 136>137 139-13d/2>13a 13f>6c.b7,6c.b7 141-147/2>142"),
   (0x149, "149>2bc.6e 14a-176/2>14b 178>ff 179-17d/2>17a 17f>73 181>253,183 184>185 186>254,188"),
   (0x189, "189>256,257,18c 18e>1dd,259,25b,192 193>260,263 196>269,268,199 19c>26f,272 19f>275"),
   (0x1a0, "1a0-1a4/2>1a1 1a6>280,1a8 1a9>283 1ac>1ad 1ae>288,1b0 1b1>28a,28b,1b4 1b5>1b6"),
   (0x1b7, "1b7>292,1b9 1bc>1bd 1c4-1c6=64.17e 1c7-1c9=6c.6a 1ca-1cc=6e.6a 1cd-1db/2>1ce"),
   (0x1de, "1de-1ee/2>1df 1f1-1f3=64.7a 1f4>1f5 1f6>195,1bf 1f8-21e/2>1f9 220>19e 222-232/2>223"),
   (0x23a, "23a>2c65,23c 23d>19a,2c66 241>242 243>180,289,28c 246-24e/2>247"),
   (0x2b0, "2b0>68,266,6a,72,279,27b,281,77,79 2d8>20.306,20.307,20.30a,20.328,20.303,20.30b"),
   (0x2e0, "2e0>263,6c,73,78,295 340>300,301 343>313,308.301,3b9 34f= 370>371 372>373 374>2b9"),
   (0x376, "376>377 378-379=fffd 37a>20.3b9 37e>3b,3f3 380-383=fffd 384>20.301,20.308.301,3ac,b7"),
   (0x388, "388-38a>3ad 38b=fffd 38c>3cc 38d=fffd 38e>3cd,3ce 391-3a1>3b1 3a2=fffd 3a3-3ab>3c3"),
   (0x3cf, "3cf>3d7,3b2,3b8,3c5,3cd,3cb,3c6,3c0 3d8-3ee/2>3d9 3f0>3ba,3c1,3c3 3f4>3b8,3b5 3f7>3f8"),
   (0x3f9, "3f9>3c3,3fb 3fd-3ff>37b 400-40f>450 410-42f>430 460-480/2>461 48a-4be/2>48b 4c0>4cf"),
   (0x4c1, "4c1-4cd/2>4c2 4d0-52e/2>4d1 530=fffd 531-556>561 557-558=fffd 587>565.582"),
   (0x58b, "58b-58c=fffd 590=fffd 5c8-5cf=fffd 5eb-5ee=fffd 5f5-605=fffd 61c=fffd"),
   (0x675, "675>627.674,648.674,6c7.674,64a.674 6dd=fffd 70e-70f=fffd 74b-74c=fffd 7b2-7bf=fffd"),
   (0x7fb, "7fb-7fc=fffd 82e-82f=fffd 83f=fffd 85c-85d=fffd 85f=fffd 86b-86f=fffd 890-896=fffd"),
   (0x8e2, "8e2=fffd 958>915.93c,916.93c,917.93c,91c.93c,921.93c,922.93c,92b.93c,92f.93c 984=fffd"),
   (0x98d, "98d-98e=fffd 991-992=fffd 9a9=fffd 9b1=fffd 9b3-9b5=fffd 9ba-9bb=fffd 9c5-9c6=fffd"),
   (0x9c9, "9c9-9ca=fffd 9cf-9d6=fffd 9d8-9db=fffd 9dc>9a1.9bc,9a2.9bc 9de=fffd 9df>9af.9bc"),
   (0x9e4, "9e4-9e5=fffd 9ff-a00=fffd a04=fffd a0b-a0e=fffd a11-a12=fffd a29=fffd a31=fffd"),
   (0xa33, "a33>a32.a3c a34=fffd a36>a38.a3c a37=fffd a3a-a3b=fffd a3d=fffd a43-a46=fffd"),
   (0xa49, "a49-a4a=fffd a4e-a50=fffd a52-a58=fffd a59>a16.a3c,a17.a3c,a1c.a3c a5d=fffd"),
   (0xa5e, "a5e>a2b.a3c a5f-a65=fffd a77-a80=fffd a84=fffd a8e=fffd a92=fffd aa9=fffd ab1=fffd"),
   (0xab4, "ab4=fffd aba-abb=fffd ac6=fffd aca=fffd ace-acf=fffd ad1-adf=fffd ae4-ae5=fffd"),
   (0xaf2, "af2-af8=fffd b00=fffd b04=fffd b0d-b0e=fffd b11-b12=fffd b29=fffd b31=fffd b34=fffd"),
   (0xb3a, "b3a-b3b=fffd b45-b46=fffd b49-b4a=fffd b4e-b54=fffd b58-b5b=fffd b5c>b21.b3c,b22.b3c"),
   (0xb5e, "b5e=fffd b64-b65=fffd b78-b81=fffd b84=fffd b8b-b8d=fffd b91=fffd b96-b98=fffd"),
   (0xb9b, "b9b=fffd b9d=fffd ba0-ba2=fffd ba5-ba7=fffd bab-bad=fffd bba-bbd=fffd bc3-bc5=fffd"),
   (0xbc9, "bc9=fffd bce-bcf=fffd bd1-bd6=fffd bd8-be5=fffd bfb-bff=fffd c0d=fffd c11=fffd"),
   (0xc29, "c29=fffd c3a-c3b=fffd c45=fffd c49=fffd c4e-c54=fffd c57=fffd c5b=fffd c5e-c5f=fffd"),
   (0xc64, "c64-c65=fffd c70-c76=fffd c8d=fffd c91=fffd ca9=fffd cb4=fffd cba-cbb=fffd cc5=fffd"),
   (0xcc9, "cc9=fffd cce-cd4=fffd cd7-cdb=fffd cdf=fffd ce4-ce5=fffd cf0=fffd cf4-cff=fffd"),
   (0xd0d, "d0d=fffd d11=fffd d45=fffd d49=fffd d50-d53=fffd d64-d65=fffd d80=fffd d84=fffd"),
   (0xd97, "d97-d99=fffd db2=fffd dbc=fffd dbe-dbf=fffd dc7-dc9=fffd dcb-dce=fffd dd5=fffd"),
   (0xdd7, "dd7=fffd de0-de5=fffd df0-df1=fffd df5-e00=fffd e33>e4d.e32 e3b-e3e=fffd e5c-e80=fffd"),
   (0xe83, "e83=fffd e85=fffd e8b=fffd ea4=fffd ea6=fffd eb3>ecd.eb2 ebe-ebf=fffd ec5=fffd"),
   (0xec7, "ec7=fffd ecf=fffd eda-edb=fffd edc>eab.e99,eab.ea1 ee0-eff=fffd f0c>f0b f43>f42.fb7"),
   (0xf48, "f48=fffd f4d>f4c.fb7 f52>f51.fb7 f57>f56.fb7 f5c>f5b.fb7 f69>f40.fb5 f6d-f70=fffd"),
   (0xf73, "f73>f71.f72 f75>f71.f74,fb2.f80,fb2.f71.f80,fb3.f80,fb3.f71.f80 f81>f71.f80"),
   (0xf93, "f93>f92.fb7 f98=fffd f9d>f9c.fb7 fa2>fa1.fb7 fa7>fa6.fb7 fac>fab.fb7 fb9>f90.fb5"),
   (0xfbd, "fbd=fffd fcd=fffd fdb-fff=fffd 10a0-10c5>2d00 10c6=fffd 10c7>2d27 10c8-10cc=fffd"),
   (0x10cd, "10cd>2d2d 10ce-10cf=fffd 10fc>10dc 115f-1160= 1249=fffd 124e-124f=fffd 1257=fffd"),
   (0x1259, "1259=fffd 125e-125f=fffd 1289=fffd 128e-128f=fffd 12b1=fffd 12b6-12b7=fffd 12bf=fffd"),
   (0x12c1, "12c1=fffd 12c6-12c7=fffd 12d7=fffd 1311=fffd 1316-1317=fffd 135b-135c=fffd"),
   (0x137d, "137d-137f=fffd 139a-139f=fffd 13f6-13f7=fffd 13f8-13fd>13f0 13fe-13ff=fffd 1680=fffd"),
   (0x169d, "169d-169f=fffd 16f9-16ff=fffd 1716-171e=fffd 1737-173f=fffd 1754-175f=fffd 176d=fffd"),
   (0x1771, "1771=fffd 1774-177f=fffd 17b4-17b5= 17de-17df=fffd 17ea-17ef=fffd 17fa-17ff=fffd"),
   (0x180b, "180b-180f= 181a-181f=fffd 1879-187f=fffd 18ab-18af=fffd 18f6-18ff=fffd 191f=fffd"),
   (0x192c, "192c-192f=fffd 193c-193f=fffd 1941-1943=fffd 196e-196f=fffd 1975-197f=fffd"),
   (0x19ac, "19ac-19af=fffd 19ca-19cf=fffd 19db-19dd=fffd 1a1c-1a1d=fffd 1a5f=fffd 1a7d-1a7e=fffd"),
   (0x1a8a, "1a8a-1a8f=fffd 1a9a-1a9f=fffd 1aae-1aaf=fffd 1ade-1adf=fffd 1aec-1aff=fffd 1b4d=fffd"),
   (0x1bf4, "1bf4-1bfb=fffd 1c38-1c3a=fffd 1c4a-1c4c=fffd"),
   (0x1c80, "1c80>432,434,43e,441,442,442,44a,463,a64b,1c8a 1c8b-1c8f=fffd 1c90-1cba>10d0"),
   (0x1cbb, "1cbb-1cbc=fffd 1cbd-1cbf>10fd 1cc8-1ccf=fffd 1cfb-1cff=fffd 1d2c>61,e6,62"),
   (0x1d30, "1d30>64,65,1dd 1d33-1d3a>67"),
   (0x1d3c, "1d3c>6f,223,70,72,74,75,77,61,250,251,1d02,62,64,65,259,25b,25c,67"),
   (0x1d4f, "1d4f>6b,6d,14b,6f,254,1d16,1d17,70,74,75,1d1d,26f,76,1d25 1d5d-1d5f>3b2"),
   (0x1d60, "1d60>3c6,3c7,69,72,75,76,3b2,3b3,3c1,3c6,3c7 1d78>43d"),
   (0x1d9b, "1d9b>252,63,255,f0,25c,66,25f,261,265 1da4-1da6>268"),
   (0x1da7, "1da7>1d7b,29d,26d,1d85,29f,271,270 1dae-1db1>272"),
   (0x1db2, "1db2>278,282,283,1ab,289,28a,1d1c,28b,28c,7a 1dbc-1dbe>290 1dbf>3b8 1e00-1e94/2>1e01"),
   (0x1e9a, "1e9a>61.2be,1e61 1e9e>df 1ea0-1efe/2>1ea1 1f08-1f0f>1f00 1f16-1f17=fffd"),
   (0x1f18, "1f18-1f1d>1f10 1f1e-1f1f=fffd 1f28-1f2f>1f20 1f38-1f3f>1f30 1f46-1f47=fffd"),
   (0x1f48, "1f48-1f4d>1f40 1f4e-1f4f=fffd 1f58=fffd 1f59>1f51 1f5a=fffd 1f5b>1f53 1f5c=fffd"),
   (0x1f5d, "1f5d>1f55 1f5e=fffd 1f5f>1f57 1f68-1f6f>1f60 1f71>3ac 1f73>3ad 1f75>3ae 1f77>3af"),
   (0x1f79, "1f79>3cc 1f7b>3cd 1f7d>3ce 1f7e-1f7f=fffd"),
   (0x1f80, "1f80>1f00.3b9,1f01.3b9,1f02.3b9,1f03.3b9,1f04.3b9,1f05.3b9,1f06.3b9,1f07.3b9"),
   (0x1f88, "1f88>1f00.3b9,1f01.3b9,1f02.3b9,1f03.3b9,1f04.3b9,1f05.3b9,1f06.3b9,1f07.3b9"),
   (0x1f90, "1f90>1f20.3b9,1f21.3b9,1f22.3b9,1f23.3b9,1f24.3b9,1f25.3b9,1f26.3b9,1f27.3b9"),
   (0x1f98, "1f98>1f20.3b9,1f21.3b9,1f22.3b9,1f23.3b9,1f24.3b9,1f25.3b9,1f26.3b9,1f27.3b9"),
   (0x1fa0, "1fa0>1f60.3b9,1f61.3b9,1f62.3b9,1f63.3b9,1f64.3b9,1f65.3b9,1f66.3b9,1f67.3b9"),
   (0x1fa8, "1fa8>1f60.3b9,1f61.3b9,1f62.3b9,1f63.3b9,1f64.3b9,1f65.3b9,1f66.3b9,1f67.3b9"),
   (0x1fb2, "1fb2>1f70.3b9,3b1.3b9,3ac.3b9 1fb5=fffd"),
   (0x1fb7, "1fb7>1fb6.3b9,1fb0,1fb1,1f70,3ac,3b1.3b9,20.313,3b9,20.313,20.342,20.308.342"),
   (0x1fc2, "1fc2>1f74.3b9,3b7.3b9,3ae.3b9 1fc5=fffd"),
   (0x1fc7, "1fc7>1fc6.3b9,1f72,3ad,1f74,3ae,3b7.3b9,20.313.300,20.313.301,20.313.342 1fd3>390"),
   (0x1fd4, "1fd4-1fd5=fffd 1fd8>1fd0,1fd1,1f76,3af 1fdc=fffd"),
   (0x1fdd, "1fdd>20.314.300,20.314.301,20.314.342 1fe3>3b0"),
   (0x1fe8, "1fe8>1fe0,1fe1,1f7a,3cd,1fe5,20.308.300,20.308.301,60 1ff0-1ff1=fffd"),
   (0x1ff2, "1ff2>1f7c.3b9,3c9.3b9,3ce.3b9 1ff5=fffd"),
   (0x1ff7, "1ff7>1ff6.3b9,1f78,3cc,1f7c,3ce,3c9.3b9,20.301,20.314 1fff=fffd 2000-200a=20 200b="),
   (0x200e, "200e-200f=fffd 2011>2010 2017>20.333 2024-2026=fffd 2028-202e=fffd 202f>20"),
   (0x2033, "2033>2032.2032,2032.2032.2032 2036>2035.2035,2035.2035.2035 203c>21.21 203e>20.305"),
   (0x2047, "2047>3f.3f,3f.21,21.3f 2057>2032.2032.2032.2032 205f>20 2060-2064= 2065-2069=fffd"),
   (0x206a, "206a-206f= 2070>30,69 2072-2073=fffd 2074-2079>34 207a>2b,2212,3d,28,29,6e"),
   (0x2080, "2080-2089>30 208a>2b,2212,3d,28,29 208f=fffd 2090>61,65,6f,78,259,68 2096-2099>6b"),
   (0x209a, "209a>70,73,74 209d-209f=fffd 20a8>72.73 20c2-20cf=fffd 20f1-20ff=fffd"),
   (0x2100, "2100>61.2f.63,61.2f.73,63,b0.63 2105>63.2f.6f,63.2f.75,25b 2109>b0.66,67"),
   (0x210b, "210b-210e=68 210f>127,69,69,6c,6c 2115>6e,6e.6f 2119-211b>70 211c>72,72"),
   (0x2120, "2120>73.6d,74.65.6c,74.6d 2124>7a 2126>3c9 2128>7a 212a>6b,e5,62,63"),
   (0x212f, "212f>65,65,66,214e,6d,6f 2135-2138>5d0 2139>69 213b>66.61.78,3c0,3b3,3b3,3c0,2211"),
   (0x2145, "2145>64,64,65,69,6a"),
   (0x2150, "2150>31.2044.37,31.2044.39,31.2044.31.30,31.2044.33,32.2044.33,31.2044.35"),
   (0x2156, "2156>32.2044.35,33.2044.35,34.2044.35,31.2044.36,35.2044.36,31.2044.38"),
   (0x215c, "215c>33.2044.38,35.2044.38,37.2044.38,31.2044,69,69.69,69.69.69,69.76,76,76.69"),
   (0x2166, "2166>76.69.69,76.69.69.69,69.78,78,78.69,78.69.69,6c,63,64,6d,69,69.69"),
   (0x2172, "2172>69.69.69,69.76,76,76.69,76.69.69,76.69.69.69,69.78,78,78.69,78.69.69,6c"),
   (0x217d, "217d>63,64,6d 2183>2184 2189>30.2044.33 218c-218f=fffd 222c>222b.222b,222b.222b.222b"),
   (0x222f, "222f>222e.222e,222e.222e.222e 2329>3008,3009 242a-243f=fffd 244b-245f=fffd"),
   (0x2460, "2460-2468>31 2469>31.30,31.31,31.32,31.33,31.34,31.35,31.36,31.37,31.38,31.39,32.30"),
   (0x2474, "2474>28.31.29,28.32.29,28.33.29,28.34.29,28.35.29,28.36.29,28.37.29,28.38.29"),
   (0x247c, "247c>28.39.29,28.31.30.29,28.31.31.29,28.31.32.29,28.31.33.29,28.31.34.29"),
   (0x2482, "2482>28.31.35.29,28.31.36.29,28.31.37.29,28.31.38.29,28.31.39.29,28.32.30.29"),
   (0x2488, "2488-249b=fffd"),
   (0x249c, "249c>28.61.29,28.62.29,28.63.29,28.64.29,28.65.29,28.66.29,28.67.29,28.68.29"),
   (0x24a4, "24a4>28.69.29,28.6a.29,28.6b.29,28.6c.29,28.6d.29,28.6e.29,28.6f.29,28.70.29"),
   (0x24ac, "24ac>28.71.29,28.72.29,28.73.29,28.74.29,28.75.29,28.76.29,28.77.29,28.78.29"),
   (0x24b4, "24b4>28.79.29,28.7a.29 24b6-24cf>61 24d0-24e9>61 24ea>30 2a0c>222b.222b.222b.222b"),
   (0x2a74, "2a74>3a.3a.3d,3d.3d,3d.3d.3d 2adc>2add.338 2b74-2b75=fffd 2c00-2c2f>2c30 2c60>2c61"),
   (0x2c62, "2c62>26b,1d7d,27d 2c67-2c6b/2>2c68 2c6d>251,271,250,252 2c72>2c73 2c75>2c76"),
   (0x2c7c, "2c7c>6a,76,23f,240 2c80-2ce2/2>2c81 2ceb>2cec 2ced>2cee 2cf2>2cf3 2cf4-2cf8=fffd"),
   (0x2d26, "2d26=fffd 2d28-2d2c=fffd 2d2e-2d2f=fffd 2d68-2d6e=fffd 2d6f>2d61 2d71-2d7e=fffd"),
   (0x2d97, "2d97-2d9f=fffd 2da7=fffd 2daf=fffd 2db7=fffd 2dbf=fffd 2dc7=fffd 2dcf=fffd 2dd7=fffd"),
   (0x2ddf, "2ddf=fffd 2e5e-2e7f=fffd 2e9a=fffd 2e9f>6bcd 2ef3>9f9f 2ef4-2eff=fffd"),
   (0x2f00, "2f00>4e00,4e28,4e36,4e3f,4e59,4e85,4e8c,4ea0,4eba,513f,5165,516b,5182,5196"),
   (0x2f0e, "2f0e>51ab,51e0,51f5,5200,529b,52f9,5315,531a,5338,5341,535c,5369,5382,53b6"),
   (0x2f1c, "2f1c>53c8,53e3,56d7,571f,58eb,5902,590a,5915,5927,5973,5b50,5b80,5bf8,5c0f"),
   (0x2f2a, "2f2a>5c22,5c38,5c6e,5c71,5ddb,5de5,5df1,5dfe,5e72,5e7a,5e7f,5ef4,5efe,5f0b"),
   (0x2f38, "2f38>5f13,5f50,5f61,5f73,5fc3,6208,6236,624b,652f,6534,6587,6597,65a4,65b9"),
   (0x2f46, "2f46>65e0,65e5,66f0,6708,6728,6b20,6b62,6b79,6bb3,6bcb,6bd4,6bdb,6c0f,6c14"),
   (0x2f54, "2f54>6c34,706b,722a,7236,723b,723f,7247,7259,725b,72ac,7384,7389,74dc,74e6"),
   (0x2f62, "2f62>7518,751f,7528,7530,758b,7592,7676,767d,76ae,76bf,76ee,77db,77e2,77f3"),
   (0x2f70, "2f70>793a,79b8,79be,7a74,7acb,7af9,7c73,7cf8,7f36,7f51,7f8a,7fbd,8001,800c"),
   (0x2f7e, "2f7e>8012,8033,807f,8089,81e3,81ea,81f3,81fc,820c,821b,821f,826e,8272,8278"),
   (0x2f8c, "2f8c>864d,866b,8840,884c,8863,897e,898b,89d2,8a00,8c37,8c46,8c55,8c78,8c9d"),
   (0x2f9a, "2f9a>8d64,8d70,8db3,8eab,8eca,8f9b,8fb0,8fb5,9091,9149,91c6,91cc,91d1,9577"),
   (0x2fa8, "2fa8>9580,961c,96b6,96b9,96e8,9751,975e,9762,9769,97cb,97ed,97f3,9801,98a8"),
   (0x2fb6, "2fb6>98db,98df,9996,9999,99ac,9aa8,9ad8,9adf,9b25,9b2f,9b32,9b3c,9b5a,9ce5"),
   (0x2fc4, "2fc4>9e75,9e7f,9ea5,9ebb,9ec3,9ecd,9ed1,9ef9,9efd,9f0e,9f13,9f20,9f3b,9f4a"),
   (0x2fd2, "2fd2>9f52,9f8d,9f9c,9fa0 2fd6-2fff=fffd 3000>20 3002>2e 3036>3012"),
   (0x3038, "3038>5341,5344,5345 3040=fffd 3097-3098=fffd 309b>20.3099,20.309a 309f>3088.308a"),
   (0x30ff, "30ff>30b3.30c8 3100-3104=fffd 3130=fffd 3131>1100,1101,11aa,1102,11ac,11ad"),
   (0x3137, "3137-3139>1103 313a-313f>11b0 3140>111a 3141-3143>1106 3144>1121 3145-314e>1109"),
   (0x314f, "314f-3163>1161 3164="),
   (0x3165, "3165>1114,1115,11c7,11c8,11cc,11ce,11d3,11d7,11d9,111c,11dd,11df,111d,111e"),
   (0x3173, "3173>1120,1122,1123,1127,1129 3178-317c>112b 317d>1132,1136,1140,1147,114c,11f1,11f2"),
   (0x3184, "3184-3186>1157 3187>1184,1185,1188,1191,1192,1194,119e,11a1 318f=fffd"),
   (0x3192, "3192>4e00,4e8c,4e09,56db,4e0a,4e2d,4e0b,7532,4e59,4e19,4e01,5929,5730,4eba"),
   (0x31e6, "31e6-31ef=fffd"),
   (0x3200, "3200>28.1100.29,28.1102.29,28.1103.29,28.1105.29,28.1106.29,28.1107.29"),
   (0x3206, "3206>28.1109.29,28.110b.29,28.110c.29,28.110e.29,28.110f.29,28.1110.29"),
   (0x320c, "320c>28.1111.29,28.1112.29,28.ac00.29,28.b098.29,28.b2e4.29,28.b77c.29"),
   (0x3212, "3212>28.b9c8.29,28.bc14.29,28.c0ac.29,28.c544.29,28.c790.29,28.cc28.29"),
   (0x3218, "3218>28.ce74.29,28.d0c0.29,28.d30c.29,28.d558.29,28.c8fc.29,28.c624.c804.29"),
   (0x321e, "321e>28.c624.d6c4.29 321f=fffd"),
   (0x3220, "3220>28.4e00.29,28.4e8c.29,28.4e09.29,28.56db.29,28.4e94.29,28.516d.29"),
   (0x3226, "3226>28.4e03.29,28.516b.29,28.4e5d.29,28.5341.29,28.6708.29,28.706b.29"),
   (0x322c, "322c>28.6c34.29,28.6728.29,28.91d1.29,28.571f.29,28.65e5.29,28.682a.29"),
   (0x3232, "3232>28.6709.29,28.793e.29,28.540d.29,28.7279.29,28.8ca1.29,28.795d.29"),
   (0x3238, "3238>28.52b4.29,28.4ee3.29,28.547c.29,28.5b66.29,28.76e3.29,28.4f01.29"),
   (0x323e, "323e>28.8cc7.29,28.5354.29,28.796d.29,28.4f11.29,28.81ea.29,28.81f3.29,554f"),
   (0x3245, "3245>5e7c,6587,7b8f"),
   (0x3250, "3250>70.74.65,32.31,32.32,32.33,32.34,32.35,32.36,32.37,32.38,32.39,33.30"),
   (0x325b, "325b>33.31,33.32,33.33,33.34,33.35,1100,1102,1103 3263-3265>1105 3266>1109,110b,110c"),
   (0x3269, "3269-326d>110e"),
   (0x326e, "326e>ac00,b098,b2e4,b77c,b9c8,bc14,c0ac,c544,c790,cc28,ce74,d0c0,d30c,d558"),
   (0x327c, "327c>cc38.ace0,c8fc.c758,c6b0"),
   (0x3280, "3280>4e00,4e8c,4e09,56db,4e94,516d,4e03,516b,4e5d,5341,6708,706b,6c34,6728"),
   (0x328e, "328e>91d1,571f,65e5,682a,6709,793e,540d,7279,8ca1,795d,52b4,79d8,7537,5973"),
   (0x329c, "329c>9069,512a,5370,6ce8,9805,4f11,5199,6b63,4e0a,4e2d,4e0b,5de6,53f3,533b"),
   (0x32aa, "32aa>5b97,5b66,76e3,4f01,8cc7,5354,591c,33.36,33.37,33.38,33.39,34.30,34.31"),
   (0x32b7, "32b7>34.32,34.33,34.34,34.35,34.36,34.37,34.38,34.39,35.30,31.6708,32.6708"),
   (0x32c2, "32c2>33.6708,34.6708,35.6708,36.6708,37.6708,38.6708,39.6708,31.30.6708"),
   (0x32ca, "32ca>31.31.6708,31.32.6708,68.67,65.72.67,65.76,6c.74.64,30a2,30a4,30a6,30a8"),
   (0x32d4, "32d4>30aa,30ab,30ad,30af,30b1,30b3,30b5,30b7,30b9,30bb,30bd,30bf,30c1,30c4"),
   (0x32e2, "32e2>30c6,30c8 32e4-32e9>30ca 32ea>30d2,30d5,30d8,30db 32ee-32f2>30de 32f3>30e4,30e6"),
   (0x32f5, "32f5-32fa>30e8 32fb-32fe>30ef"),
   (0x32ff, "32ff>4ee4.548c,30a2.30d1.30fc.30c8,30a2.30eb.30d5.30a1,30a2.30f3.30da.30a2"),
   (0x3303, "3303>30a2.30fc.30eb,30a4.30cb.30f3.30b0,30a4.30f3.30c1,30a6.30a9.30f3"),
   (0x3307, "3307>30a8.30b9.30af.30fc.30c9,30a8.30fc.30ab.30fc,30aa.30f3.30b9"),
   (0x330a, "330a>30aa.30fc.30e0,30ab.30a4.30ea,30ab.30e9.30c3.30c8,30ab.30ed.30ea.30fc"),
   (0x330e, "330e>30ac.30ed.30f3,30ac.30f3.30de,30ae.30ac,30ae.30cb.30fc"),
   (0x3312, "3312>30ad.30e5.30ea.30fc,30ae.30eb.30c0.30fc,30ad.30ed"),
   (0x3315, "3315>30ad.30ed.30b0.30e9.30e0,30ad.30ed.30e1.30fc.30c8.30eb"),
   (0x3317, "3317>30ad.30ed.30ef.30c3.30c8,30b0.30e9.30e0,30b0.30e9.30e0.30c8.30f3"),
   (0x331a, "331a>30af.30eb.30bc.30a4.30ed,30af.30ed.30fc.30cd,30b1.30fc.30b9"),
   (0x331d, "331d>30b3.30eb.30ca,30b3.30fc.30dd,30b5.30a4.30af.30eb"),
   (0x3320, "3320>30b5.30f3.30c1.30fc.30e0,30b7.30ea.30f3.30b0,30bb.30f3.30c1"),
   (0x3323, "3323>30bb.30f3.30c8,30c0.30fc.30b9,30c7.30b7,30c9.30eb,30c8.30f3,30ca.30ce"),
   (0x3329, "3329>30ce.30c3.30c8,30cf.30a4.30c4,30d1.30fc.30bb.30f3.30c8,30d1.30fc.30c4"),
   (0x332d, "332d>30d0.30fc.30ec.30eb,30d4.30a2.30b9.30c8.30eb,30d4.30af.30eb,30d4.30b3"),
   (0x3331, "3331>30d3.30eb,30d5.30a1.30e9.30c3.30c9,30d5.30a3.30fc.30c8"),
   (0x3334, "3334>30d6.30c3.30b7.30a7.30eb,30d5.30e9.30f3,30d8.30af.30bf.30fc.30eb"),
   (0x3337, "3337>30da.30bd,30da.30cb.30d2,30d8.30eb.30c4,30da.30f3.30b9,30da.30fc.30b8"),
   (0x333c, "333c>30d9.30fc.30bf,30dd.30a4.30f3.30c8,30dc.30eb.30c8,30db.30f3"),
   (0x3340, "3340>30dd.30f3.30c9,30db.30fc.30eb,30db.30fc.30f3,30de.30a4.30af.30ed"),
   (0x3344, "3344>30de.30a4.30eb,30de.30c3.30cf,30de.30eb.30af,30de.30f3.30b7.30e7.30f3"),
   (0x3348, "3348>30df.30af.30ed.30f3,30df.30ea,30df.30ea.30d0.30fc.30eb,30e1.30ac"),
   (0x334c, "334c>30e1.30ac.30c8.30f3,30e1.30fc.30c8.30eb,30e4.30fc.30c9,30e4.30fc.30eb"),
   (0x3350, "3350>30e6.30a2.30f3,30ea.30c3.30c8.30eb,30ea.30e9,30eb.30d4.30fc"),
   (0x3354, "3354>30eb.30fc.30d6.30eb,30ec.30e0,30ec.30f3.30c8.30b2.30f3,30ef.30c3.30c8"),
   (0x3358, "3358>30.70b9,31.70b9,32.70b9,33.70b9,34.70b9,35.70b9,36.70b9,37.70b9,38.70b9"),
   (0x3361, "3361>39.70b9,31.30.70b9,31.31.70b9,31.32.70b9,31.33.70b9,31.34.70b9,31.35.70b9"),
   (0x3368, "3368>31.36.70b9,31.37.70b9,31.38.70b9,31.39.70b9,32.30.70b9,32.31.70b9"),
   (0x336e, "336e>32.32.70b9,32.33.70b9,32.34.70b9,68.70.61,64.61,61.75,62.61.72,6f.76"),
   (0x3376, "3376>70.63,64.6d,64.6d.32,64.6d.33,69.75,5e73.6210,662d.548c,5927.6b63"),
   (0x337e, "337e>660e.6cbb,682a.5f0f.4f1a.793e,70.61,6e.61,3bc.61,6d.61,6b.61,6b.62,6d.62"),
   (0x3387, "3387>67.62,63.61.6c,6b.63.61.6c,70.66,6e.66,3bc.66,3bc.67,6d.67,6b.67,68.7a"),
   (0x3391, "3391>6b.68.7a,6d.68.7a,67.68.7a,74.68.7a,3bc.6c,6d.6c,64.6c,6b.6c,66.6d,6e.6d"),
   (0x339b, "339b>3bc.6d,6d.6d,63.6d,6b.6d,6d.6d.32,63.6d.32,6d.32,6b.6d.32,6d.6d.33"),
   (0x33a4, "33a4>63.6d.33,6d.33,6b.6d.33,6d.2215.73,6d.2215.73.32,70.61,6b.70.61,6d.70.61"),
   (0x33ac, "33ac>67.70.61,72.61.64,72.61.64.2215.73,72.61.64.2215.73.32,70.73,6e.73,3bc.73"),
   (0x33b3, "33b3>6d.73,70.76,6e.76,3bc.76,6d.76,6b.76,6d.76,70.77,6e.77,3bc.77,6d.77,6b.77"),
   (0x33bf, "33bf>6d.77,6b.3c9,6d.3c9 33c2=fffd 33c3>62.71,63.63,63.64,63.2215.6b.67 33c7=fffd"),
   (0x33c8, "33c8>64.62,67.79,68.61,68.70,69.6e,6b.6b,6b.6d,6b.74,6c.6d,6c.6e,6c.6f.67"),
   (0x33d3, "33d3>6c.78,6d.62,6d.69.6c,6d.6f.6c,70.68 33d8=fffd"),
   (0x33d9, "33d9>70.70.6d,70.72,73.72,73.76,77.62,76.2215.6d,61.2215.6d,31.65e5,32.65e5"),
   (0x33e2, "33e2>33.65e5,34.65e5,35.65e5,36.65e5,37.65e5,38.65e5,39.65e5,31.30.65e5"),
   (0x33ea, "33ea>31.31.65e5,31.32.65e5,31.33.65e5,31.34.65e5,31.35.65e5,31.36.65e5"),
   (0x33f0, "33f0>31.37.65e5,31.38.65e5,31.39.65e5,32.30.65e5,32.31.65e5,32.32.65e5"),
   (0x33f6, "33f6>32.33.65e5,32.34.65e5,32.35.65e5,32.36.65e5,32.37.65e5,32.38.65e5"),
   (0x33fc, "33fc>32.39.65e5,33.30.65e5,33.31.65e5,67.61.6c a48d-a48f=fffd a4c7-a4cf=fffd"),
   (0xa62c, "a62c-a63f=fffd a640-a66c/2>a641 a680-a69a/2>a681 a69c>44a,44c a6f8-a6ff=fffd"),
   (0xa722, "a722-a72e/2>a723 a732-a76e/2>a733 a770>a76f a779>a77a a77b>a77c a77d>1d79"),
   (0xa77e, "a77e-a786/2>a77f a78b>a78c a78d>265 a790>a791 a792>a793 a796-a7a8/2>a797"),
   (0xa7aa, "a7aa>266,25c,261,26c,26a a7b0>29e,287,29d,ab53 a7b4-a7c2/2>a7b5"),
   (0xa7c4, "a7c4>a794,282,1d8e,a7c8 a7c9>a7ca a7cb>264 a7cc-a7da/2>a7cd a7dc>19b a7dd-a7f0=fffd"),
   (0xa7f1, "a7f1>73,63,66,71,a7f6 a7f8>127,153 a82d-a82f=fffd a83a-a83f=fffd a878-a87f=fffd"),
   (0xa8c6, "a8c6-a8cd=fffd a8da-a8df=fffd a954-a95e=fffd a97d-a97f=fffd a9ce=fffd a9da-a9dd=fffd"),
   (0xa9ff, "a9ff=fffd aa37-aa3f=fffd aa4e-aa4f=fffd aa5a-aa5b=fffd aac3-aada=fffd aaf7-ab00=fffd"),
   (0xab07, "ab07-ab08=fffd ab0f-ab10=fffd ab17-ab1f=fffd ab27=fffd ab2f=fffd"),
   (0xab5c, "ab5c>a727,ab37,26b,ab52 ab69>28d ab6c-ab6f=fffd ab70-abbf>13a0 abee-abef=fffd"),
   (0xabfa, "abfa-abff=fffd d7a4-d7af=fffd d7c7-d7ca=fffd d7fc-f8ff=fffd"),
   (0xf900, "f900>8c48,66f4,8eca,8cc8,6ed1,4e32,53e5,9f9c,9f9c,5951,91d1,5587,5948,61f6"),
   (0xf90e, "f90e>7669,7f85,863f,87ba,88f8,908f,6a02,6d1b,70d9,73de,843d,916a,99f1,4e82"),
   (0xf91c, "f91c>5375,6b04,721b,862d,9e1e,5d50,6feb,85cd,8964,62c9,81d8,881f,5eca,6717"),
   (0xf92a, "f92a>6d6a,72fc,90ce,4f86,51b7,52de,64c4,6ad3,7210,76e7,8001,8606,865c,8def"),
   (0xf938, "f938>9732,9b6f,9dfa,788c,797f,7da0,83c9,9304,9e7f,8ad6,58df,5f04,7c60,807e"),
   (0xf946, "f946>7262,78ca,8cc2,96f7,58d8,5c62,6a13,6dda,6f0f,7d2f,7e37,964b,52d2,808b"),
   (0xf954, "f954>51dc,51cc,7a1c,7dbe,83f1,9675,8b80,62cf,6a02,8afe,4e39,5be7,6012,7387"),
   (0xf962, "f962>7570,5317,78fb,4fbf,5fa9,4e0d,6ccc,6578,7d22,53c3,585e,7701,8449,8aaa"),
   (0xf970, "f970>6bba,8fb0,6c88,62fe,82e5,63a0,7565,4eae,5169,51c9,6881,7ce7,826f,8ad2"),
   (0xf97e, "f97e>91cf,52f5,5442,5973,5eec,65c5,6ffe,792a,95ad,9a6a,9e97,9ece,529b,66c6"),
   (0xf98c, "f98c>6b77,8f62,5e74,6190,6200,649a,6f23,7149,7489,79ca,7df4,806f,8f26,84ee"),
   (0xf99a, "f99a>9023,934a,5217,52a3,54bd,70c8,88c2,8aaa,5ec9,5ff5,637b,6bae,7c3e,7375"),
   (0xf9a8, "f9a8>4ee4,56f9,5be7,5dba,601c,73b2,7469,7f9a,8046,9234,96f6,9748,9818,4f8b"),
   (0xf9b6, "f9b6>79ae,91b4,96b8,60e1,4e86,50da,5bee,5c3f,6599,6a02,71ce,7642,84fc,907c"),
   (0xf9c4, "f9c4>9f8d,6688,962e,5289,677b,67f3,6d41,6e9c,7409,7559,786b,7d10,985e,516d"),
   (0xf9d2, "f9d2>622e,9678,502b,5d19,6dea,8f2a,5f8b,6144,6817,7387,9686,5229,540f,5c65"),
   (0xf9e0, "f9e0>6613,674e,68a8,6ce5,7406,75e2,7f79,88cf,88e1,91cc,96e2,533f,6eba,541d"),
   (0xf9ee, "f9ee>71d0,7498,85fa,96a3,9c57,9e9f,6797,6dcb,81e8,7acb,7b20,7c92,72c0,7099"),
   (0xf9fc, "f9fc>8b58,4ec0,8336,523a,5207,5ea6,62d3,7cd6,5b85,6d1e,66b4,8f3b,884c,964d"),
   (0xfa0a, "fa0a>898b,5ed3,5140,55c0 fa10>585a fa12>6674"),
   (0xfa15, "fa15>51de,732a,76ca,793c,795e,7965,798f,9756,7cbe,7fbd fa20>8612 fa22>8af8"),
   (0xfa25, "fa25>9038,90fd"),
   (0xfa2a, "fa2a>98ef,98fc,9928,9db4,90de,96b7,4fae,50e7,514d,52c9,52e4,5351,559d,5606"),
   (0xfa38, "fa38>5668,5840,58a8,5c64,5c6e,6094,6168,618e,61f2,654f,65e2,6691,6885,6d77"),
   (0xfa46, "fa46>6e1a,6f22,716e,722b,7422,7891,793e,7949,7948,7950,7956,795d,798d,798e"),
   (0xfa54, "fa54>7a40,7a81,7bc0,7df4,7e09,7e41,7f72,8005,81ed,8279,8279,8457,8910,8996"),
   (0xfa62, "fa62>8b01,8b39,8cd3,8d08,8fb6,9038,96e3,97ff,983b,6075,242ee,8218 fa6e-fa6f=fffd"),
   (0xfa70, "fa70>4e26,51b5,5168,4f80,5145,5180,52c7,52fa,559d,5555,5599,55e2,585a,58b3"),
   (0xfa7e, "fa7e>5944,5954,5a62,5b28,5ed2,5ed9,5f69,5fad,60d8,614e,6108,618e,6160,61f2"),
   (0xfa8c, "fa8c>6234,63c4,641c,6452,6556,6674,6717,671b,6756,6b79,6bba,6d41,6edb,6ecb"),
   (0xfa9a, "fa9a>6f22,701e,716e,77a7,7235,72af,732a,7471,7506,753b,761d,761f,76ca,76db"),
   (0xfaa8, "faa8>76f4,774a,7740,78cc,7ab1,7bc0,7c7b,7d5b,7df4,7f3e,8005,8352,83ef,8779"),
   (0xfab6, "fab6>8941,8986,8996,8abf,8af8,8acb,8b01,8afe,8aed,8b39,8b8a,8d08,8f38,9072"),
   (0xfac4, "fac4>9199,9276,967c,96e3,9756,97db,97ff,980b,983b,9b12,9f9c,2284a,22844,233d5"),
   (0xfad2, "fad2>3b9d,4018,4039,25249,25cd0,27ed3,9f43,9f8e fada-faff=fffd"),
   (0xfb00, "fb00>66.66,66.69,66.6c,66.66.69,66.66.6c,73.74,73.74 fb07-fb12=fffd"),
   (0xfb13, "fb13>574.576,574.565,574.56b,57e.576,574.56d fb18-fb1c=fffd fb1d>5d9.5b4"),
   (0xfb1f, "fb1f>5f2.5b7,5e2,5d0,5d3,5d4 fb24-fb26>5db"),
   (0xfb27, "fb27>5e8,5ea,2b,5e9.5c1,5e9.5c2,5e9.5bc.5c1,5e9.5bc.5c2,5d0.5b7,5d0.5b8"),
   (0xfb30, "fb30>5d0.5bc,5d1.5bc,5d2.5bc,5d3.5bc,5d4.5bc,5d5.5bc,5d6.5bc fb37=fffd"),
   (0xfb38, "fb38>5d8.5bc,5d9.5bc,5da.5bc,5db.5bc,5dc.5bc fb3d=fffd fb3e>5de.5bc fb3f=fffd"),
   (0xfb40, "fb40>5e0.5bc,5e1.5bc fb42=fffd fb43>5e3.5bc,5e4.5bc fb45=fffd"),
   (0xfb46, "fb46>5e6.5bc,5e7.5bc,5e8.5bc,5e9.5bc,5ea.5bc,5d5.5b9,5d1.5bf,5db.5bf,5e4.5bf"),
   (0xfb4f, "fb4f>5d0.5dc,671,671 fb52-fb55=67b fb56-fb59=67e fb5a-fb5d=680 fb5e-fb61=67a"),
   (0xfb62, "fb62-fb65=67f fb66-fb69=679 fb6a-fb6d=6a4 fb6e-fb71=6a6 fb72-fb75=684 fb76-fb79=683"),
   (0xfb7a, "fb7a-fb7d=686 fb7e-fb81=687 fb82>68d,68d,68c,68c,68e,68e,688,688,698,698,691,691"),
   (0xfb8e, "fb8e-fb91=6a9 fb92-fb95=6af fb96-fb99=6b3 fb9a-fb9d=6b1 fb9e>6ba,6ba fba0-fba3=6bb"),
   (0xfba4, "fba4>6c0,6c0 fba6-fba9=6c1 fbaa-fbad=6be fbae>6d2,6d2,6d3,6d3 fbd3-fbd6=6ad"),
   (0xfbd7, "fbd7>6c7,6c7,6c6,6c6,6c8,6c8,6c7.674,6cb,6cb,6c5,6c5,6c9,6c9 fbe4-fbe7=6d0"),
   (0xfbe8, "fbe8>649,649,626.627,626.627,626.6d5,626.6d5,626.648,626.648,626.6c7,626.6c7"),
   (0xfbf2, "fbf2>626.6c6,626.6c6,626.6c8,626.6c8 fbf6-fbf8=626.6d0 fbf9-fbfb=626.649"),
   (0xfbfc, "fbfc-fbff=6cc"),
   (0xfc00, "fc00>626.62c,626.62d,626.645,626.649,626.64a,628.62c,628.62d,628.62e,628.645"),
   (0xfc09, "fc09>628.649,628.64a,62a.62c,62a.62d,62a.62e,62a.645,62a.649,62a.64a,62b.62c"),
   (0xfc12, "fc12>62b.645,62b.649,62b.64a,62c.62d,62c.645,62d.62c,62d.645,62e.62c,62e.62d"),
   (0xfc1b, "fc1b>62e.645,633.62c,633.62d,633.62e,633.645,635.62d,635.645,636.62c,636.62d"),
   (0xfc24, "fc24>636.62e,636.645,637.62d,637.645,638.645,639.62c,639.645,63a.62c,63a.645"),
   (0xfc2d, "fc2d>641.62c,641.62d,641.62e,641.645,641.649,641.64a,642.62d,642.645,642.649"),
   (0xfc36, "fc36>642.64a,643.627,643.62c,643.62d,643.62e,643.644,643.645,643.649,643.64a"),
   (0xfc3f, "fc3f>644.62c,644.62d,644.62e,644.645,644.649,644.64a,645.62c,645.62d,645.62e"),
   (0xfc48, "fc48>645.645,645.649,645.64a,646.62c,646.62d,646.62e,646.645,646.649,646.64a"),
   (0xfc51, "fc51>647.62c,647.645,647.649,647.64a,64a.62c,64a.62d,64a.62e,64a.645,64a.649"),
   (0xfc5a, "fc5a>64a.64a,630.670,631.670,649.670,20.64c.651,20.64d.651,20.64e.651"),
   (0xfc61, "fc61>20.64f.651,20.650.651,20.651.670,626.631,626.632,626.645,626.646,626.649"),
   (0xfc69, "fc69>626.64a,628.631,628.632,628.645,628.646,628.649,628.64a,62a.631,62a.632"),
   (0xfc72, "fc72>62a.645,62a.646,62a.649,62a.64a,62b.631,62b.632,62b.645,62b.646,62b.649"),
   (0xfc7b, "fc7b>62b.64a,641.649,641.64a,642.649,642.64a,643.627,643.644,643.645,643.649"),
   (0xfc84, "fc84>643.64a,644.645,644.649,644.64a,645.627,645.645,646.631,646.632,646.645"),
   (0xfc8d, "fc8d>646.646,646.649,646.64a,649.670,64a.631,64a.632,64a.645,64a.646,64a.649"),
   (0xfc96, "fc96>64a.64a,626.62c,626.62d,626.62e,626.645,626.647,628.62c,628.62d,628.62e"),
   (0xfc9f, "fc9f>628.645,628.647,62a.62c,62a.62d,62a.62e,62a.645,62a.647,62b.645,62c.62d"),
   (0xfca8, "fca8>62c.645,62d.62c,62d.645,62e.62c,62e.645,633.62c,633.62d,633.62e,633.645"),
   (0xfcb1, "fcb1>635.62d,635.62e,635.645,636.62c,636.62d,636.62e,636.645,637.62d,638.645"),
   (0xfcba, "fcba>639.62c,639.645,63a.62c,63a.645,641.62c,641.62d,641.62e,641.645,642.62d"),
   (0xfcc3, "fcc3>642.645,643.62c,643.62d,643.62e,643.644,643.645,644.62c,644.62d,644.62e"),
   (0xfccc, "fccc>644.645,644.647,645.62c,645.62d,645.62e,645.645,646.62c,646.62d,646.62e"),
   (0xfcd5, "fcd5>646.645,646.647,647.62c,647.645,647.670,64a.62c,64a.62d,64a.62e,64a.645"),
   (0xfcde, "fcde>64a.647,626.645,626.647,628.645,628.647,62a.645,62a.647,62b.645,62b.647"),
   (0xfce7, "fce7>633.645,633.647,634.645,634.647,643.644,643.645,644.645,646.645,646.647"),
   (0xfcf0, "fcf0>64a.645,64a.647,640.64e.651,640.64f.651,640.650.651,637.649,637.64a"),
   (0xfcf7, "fcf7>639.649,639.64a,63a.649,63a.64a,633.649,633.64a,634.649,634.64a,62d.649"),
   (0xfd00, "fd00>62d.64a,62c.649,62c.64a,62e.649,62e.64a,635.649,635.64a,636.649,636.64a"),
   (0xfd09, "fd09>634.62c,634.62d,634.62e,634.645,634.631,633.631,635.631,636.631,637.649"),
   (0xfd12, "fd12>637.64a,639.649,639.64a,63a.649,63a.64a,633.649,633.64a,634.649,634.64a"),
   (0xfd1b, "fd1b>62d.649,62d.64a,62c.649,62c.64a,62e.649,62e.64a,635.649,635.64a,636.649"),
   (0xfd24, "fd24>636.64a,634.62c,634.62d,634.62e,634.645,634.631,633.631,635.631,636.631"),
   (0xfd2d, "fd2d>634.62c,634.62d,634.62e,634.645,633.647,634.647,637.645,633.62c,633.62d"),
   (0xfd36, "fd36>633.62e,634.62c,634.62d,634.62e,637.645,638.645,627.64b,627.64b"),
   (0xfd50, "fd50>62a.62c.645,62a.62d.62c,62a.62d.62c,62a.62d.645,62a.62e.645,62a.645.62c"),
   (0xfd56, "fd56>62a.645.62d,62a.645.62e,62c.645.62d,62c.645.62d,62d.645.64a,62d.645.649"),
   (0xfd5c, "fd5c>633.62d.62c,633.62c.62d,633.62c.649,633.645.62d,633.645.62d,633.645.62c"),
   (0xfd62, "fd62>633.645.645,633.645.645,635.62d.62d,635.62d.62d,635.645.645,634.62d.645"),
   (0xfd68, "fd68>634.62d.645,634.62c.64a,634.645.62e,634.645.62e,634.645.645,634.645.645"),
   (0xfd6e, "fd6e>636.62d.649,636.62e.645,636.62e.645,637.645.62d,637.645.62d,637.645.645"),
   (0xfd74, "fd74>637.645.64a,639.62c.645,639.645.645,639.645.645,639.645.649,63a.645.645"),
   (0xfd7a, "fd7a>63a.645.64a,63a.645.649,641.62e.645,641.62e.645,642.645.62d,642.645.645"),
   (0xfd80, "fd80>644.62d.645,644.62d.64a,644.62d.649,644.62c.62c,644.62c.62c,644.62e.645"),
   (0xfd86, "fd86>644.62e.645,644.645.62d,644.645.62d,645.62d.62c,645.62d.645,645.62d.64a"),
   (0xfd8c, "fd8c>645.62c.62d,645.62c.645,645.62e.62c,645.62e.645"),
   (0xfd92, "fd92>645.62c.62e,647.645.62c,647.645.645,646.62d.645,646.62d.649,646.62c.645"),
   (0xfd98, "fd98>646.62c.645,646.62c.649,646.645.64a,646.645.649,64a.645.645,64a.645.645"),
   (0xfd9e, "fd9e>628.62e.64a,62a.62c.64a,62a.62c.649,62a.62e.64a,62a.62e.649,62a.645.64a"),
   (0xfda4, "fda4>62a.645.649,62c.645.64a,62c.62d.649,62c.645.649,633.62e.649,635.62d.64a"),
   (0xfdaa, "fdaa>634.62d.64a,636.62d.64a,644.62c.64a,644.645.64a,64a.62d.64a,64a.62c.64a"),
   (0xfdb0, "fdb0>64a.645.64a,645.645.64a,642.645.64a,646.62d.64a,642.645.62d,644.62d.645"),
   (0xfdb6, "fdb6>639.645.64a,643.645.64a,646.62c.62d,645.62e.64a,644.62c.645,643.645.645"),
   (0xfdbc, "fdbc>644.62c.645,646.62c.62d,62c.62d.64a,62d.62c.64a,645.62c.64a,641.645.64a"),
   (0xfdc2, "fdc2>628.62d.64a,643.645.645,639.62c.645,635.645.645,633.62e.64a,646.62c.64a"),
   (0xfdd0, "fdd0-fdef=fffd"),
   (0xfdf0, "fdf0>635.644.6d2,642.644.6d2,627.644.644.647,627.643.628.631,645.62d.645.62f"),
   (0xfdf5, "fdf5>635.644.639.645,631.633.648.644,639.644.64a.647,648.633.644.645"),
   (0xfdf9, "fdf9>635.644.649"),
   (0xfdfa, "fdfa>635.644.649.20.627.644.644.647.20.639.644.64a.647.20.648.633.644.645"),
   (0xfdfb, "fdfb>62c.644.20.62c.644.627.644.647,631.6cc.627.644 fe00-fe0f= fe10>2c,3001"),
   (0xfe12, "fe12=fffd fe13>3a,3b,21,3f,3016,3017 fe19-fe1f=fffd fe30=fffd"),
   (0xfe31, "fe31>2014,2013,5f,5f,28,29,7b,7d,3014,3015,3010,3011,300a,300b,3008,3009"),
   (0xfe41, "fe41-fe44>300c fe47>5b,5d fe49-fe4c=20.305 fe4d-fe4f=5f fe50>2c,3001 fe52-fe53=fffd"),
   (0xfe54, "fe54>3b,3a,3f,21,2014,28,29,7b,7d,3014,3015,23,26,2a,2b,2d,3c,3e,3d fe67=fffd"),
   (0xfe68, "fe68>5c,24,25,40 fe6c-fe6f=fffd fe70>20.64b,640.64b,20.64c fe74>20.64d fe75=fffd"),
   (0xfe76, "fe76>20.64e,640.64e,20.64f,640.64f,20.650,640.650,20.651,640.651,20.652"),
   (0xfe7f, "fe7f>640.652,621,622,622,623,623,624,624,625,625 fe89-fe8c=626 fe8d>627,627"),
   (0xfe8f, "fe8f-fe92=628 fe93>629,629 fe95-fe98=62a fe99-fe9c=62b fe9d-fea0=62c fea1-fea4=62d"),
   (0xfea5, "fea5-fea8=62e fea9>62f,62f,630,630,631,631,632,632 feb1-feb4=633 feb5-feb8=634"),
   (0xfeb9, "feb9-febc=635 febd-fec0=636 fec1-fec4=637 fec5-fec8=638 fec9-fecc=639 fecd-fed0=63a"),
   (0xfed1, "fed1-fed4=641 fed5-fed8=642 fed9-fedc=643 fedd-fee0=644 fee1-fee4=645 fee5-fee8=646"),
   (0xfee9, "fee9-feec=647 feed>648,648,649,649 fef1-fef4=64a"),
   (0xfef5, "fef5>644.622,644.622,644.623,644.623,644.625,644.625,644.627,644.627 fefd-fefe=fffd"),
   (0xfeff, "feff= ff00=fffd ff01-ff20>21 ff21-ff3a>61 ff3b-ff5e>5b"),
   (0xff5f, "ff5f>2985,2986,2e,300c,300d,3001,30fb,30f2,30a1,30a3,30a5,30a7,30a9,30e3,30e5"),
   (0xff6e, "ff6e>30e7,30c3,30fc,30a2,30a4,30a6,30a8,30aa,30ab,30ad,30af,30b1,30b3,30b5"),
   (0xff7c, "ff7c>30b7,30b9,30bb,30bd,30bf,30c1,30c4,30c6,30c8 ff85-ff8a>30ca"),
   (0xff8b, "ff8b>30d2,30d5,30d8,30db ff8f-ff93>30de ff94>30e4,30e6 ff96-ff9b>30e8"),
   (0xff9c, "ff9c>30ef,30f3,3099,309a ffa0= ffa1>1100,1101,11aa,1102,11ac,11ad ffa7-ffa9>1103"),
   (0xffaa, "ffaa-ffaf>11b0 ffb0>111a ffb1-ffb3>1106 ffb4>1121 ffb5-ffbe>1109 ffbf-ffc1=fffd"),
   (0xffc2, "ffc2-ffc7>1161 ffc8-ffc9=fffd ffca-ffcf>1167 ffd0-ffd1=fffd ffd2-ffd7>116d"),
   (0xffd8, "ffd8-ffd9=fffd ffda-ffdc>1173 ffdd-ffdf=fffd ffe0>a2,a3,ac,20.304,a6,a5,20a9"),
   (0xffe7, "ffe7=fffd ffe8>2502 ffe9-ffec>2190 ffed>25a0,25cb ffef-ffff=fffd 1000c=fffd"),
   (0x10027, "10027=fffd 1003b=fffd 1003e=fffd 1004e-1004f=fffd 1005e-1007f=fffd 100fb-100ff=fffd"),
   (0x10103, "10103-10106=fffd 10134-10136=fffd 1018f=fffd 1019d-1019f=fffd 101a1-101cf=fffd"),
   (0x101fe, "101fe-1027f=fffd 1029d-1029f=fffd 102d1-102df=fffd 102fc-102ff=fffd"),
   (0x10324, "10324-1032c=fffd 1034b-1034f=fffd 1037b-1037f=fffd 1039e=fffd 103c4-103c7=fffd"),
   (0x103d6, "103d6-103ff=fffd 10400-10427>10428 1049e-1049f=fffd 104aa-104af=fffd"),
   (0x104b0, "104b0-104d3>104d8 104d4-104d7=fffd 104fc-104ff=fffd 10528-1052f=fffd"),
   (0x10564, "10564-1056e=fffd 10570-1057a>10597 1057b=fffd 1057c-1058a>105a3 1058b=fffd"),
   (0x1058c, "1058c-10592>105b3 10593=fffd 10594>105bb,105bc 10596=fffd 105a2=fffd 105b2=fffd"),
   (0x105ba, "105ba=fffd 105bd-105bf=fffd 105f4-105ff=fffd 10737-1073f=fffd 10756-1075f=fffd"),
   (0x10768, "10768-1077f=fffd 10781>2d0,2d1,e6,299,253 10786=fffd"),
   (0x10787, "10787>2a3,ab66,2a5,2a4,256,257,1d91,258,25e,2a9,264,262,260,29b,127,29c,267"),
   (0x10798, "10798>284,2aa,2ab,26c,1df04,a78e,26e,1df05,28e,1df06,f8,276,277,71,27a,1df08"),
   (0x107a8, "107a8>27d,27e,280,2a8,2a6,ab67,2a7,288,2c71 107b1=fffd 107b2>28f,2a1,2a2,298"),
   (0x107b6, "107b6-107b8>1c0 107b9>1df0a,1df1e 107bb-107ff=fffd 10806-10807=fffd 10809=fffd"),
   (0x10836, "10836=fffd 10839-1083b=fffd 1083d-1083e=fffd 10856=fffd 1089f-108a6=fffd"),
   (0x108b0, "108b0-108df=fffd 108f3=fffd 108f6-108fa=fffd 1091c-1091e=fffd 1093a-1093e=fffd"),
   (0x1095a, "1095a-1097f=fffd 109b8-109bb=fffd 109d0-109d1=fffd 10a04=fffd 10a07-10a0b=fffd"),
   (0x10a14, "10a14=fffd 10a18=fffd 10a36-10a37=fffd 10a3b-10a3e=fffd 10a49-10a4f=fffd"),
   (0x10a59, "10a59-10a5f=fffd 10aa0-10abf=fffd 10ae7-10aea=fffd 10af7-10aff=fffd"),
   (0x10b36, "10b36-10b38=fffd 10b56-10b57=fffd 10b73-10b77=fffd 10b92-10b98=fffd"),
   (0x10b9d, "10b9d-10ba8=fffd 10bb0-10bff=fffd 10c49-10c7f=fffd 10c80-10cb2>10cc0"),
   (0x10cb3, "10cb3-10cbf=fffd 10cf3-10cf9=fffd 10d28-10d2f=fffd 10d3a-10d3f=fffd"),
   (0x10d50, "10d50-10d65>10d70 10d66-10d68=fffd 10d86-10d8d=fffd 10d90-10e5f=fffd 10e7f=fffd"),
   (0x10eaa, "10eaa=fffd 10eae-10eaf=fffd 10eb2-10ec1=fffd 10ec8-10ecf=fffd 10ed9-10ef9=fffd"),
   (0x10f28, "10f28-10f2f=fffd 10f5a-10f6f=fffd 10f8a-10faf=fffd 10fcc-10fdf=fffd"),
   (0x10ff7, "10ff7-10fff=fffd 1104e-11051=fffd 11076-1107e=fffd 110bd=fffd 110c3-110cf=fffd"),
   (0x110e9, "110e9-110ef=fffd 110fa-110ff=fffd 11135=fffd 11148-1114f=fffd 11177-1117f=fffd"),
   (0x111e0, "111e0=fffd 111f5-111ff=fffd 11212=fffd 11242-1127f=fffd 11287=fffd 11289=fffd"),
   (0x1128e, "1128e=fffd 1129e=fffd 112aa-112af=fffd 112eb-112ef=fffd 112fa-112ff=fffd 11304=fffd"),
   (0x1130d, "1130d-1130e=fffd 11311-11312=fffd 11329=fffd 11331=fffd 11334=fffd 1133a=fffd"),
   (0x11345, "11345-11346=fffd 11349-1134a=fffd 1134e-1134f=fffd 11351-11356=fffd"),
   (0x11358, "11358-1135c=fffd 11364-11365=fffd 1136d-1136f=fffd 11375-1137f=fffd 1138a=fffd"),
   (0x1138c, "1138c-1138d=fffd 1138f=fffd 113b6=fffd 113c1=fffd 113c3-113c4=fffd 113c6=fffd"),
   (0x113cb, "113cb=fffd 113d6=fffd 113d9-113e0=fffd 113e3-113ff=fffd 1145c=fffd 11462-1147f=fffd"),
   (0x114c8, "114c8-114cf=fffd 114da-1157f=fffd 115b6-115b7=fffd 115de-115ff=fffd"),
   (0x11645, "11645-1164f=fffd 1165a-1165f=fffd 1166d-1167f=fffd 116ba-116bf=fffd"),
   (0x116ca, "116ca-116cf=fffd 116e4-116ff=fffd 1171b-1171c=fffd 1172c-1172f=fffd"),
   (0x11747, "11747-117ff=fffd 1183c-1189f=fffd 118a0-118bf>118c0 118f3-118fe=fffd"),
   (0x11907, "11907-11908=fffd 1190a-1190b=fffd 11914=fffd 11917=fffd 11936=fffd 11939-1193a=fffd"),
   (0x11947, "11947-1194f=fffd 1195a-1199f=fffd 119a8-119a9=fffd 119d8-119d9=fffd"),
   (0x119e5, "119e5-119ff=fffd 11a48-11a4f=fffd 11aa3-11aaf=fffd 11af9-11aff=fffd"),
   (0x11b0a, "11b0a-11b5f=fffd 11b68-11bbf=fffd 11be2-11bef=fffd 11bfa-11bff=fffd 11c09=fffd"),
   (0x11c37, "11c37=fffd 11c46-11c4f=fffd 11c6d-11c6f=fffd 11c90-11c91=fffd 11ca8=fffd"),
   (0x11cb7, "11cb7-11cff=fffd 11d07=fffd 11d0a=fffd 11d37-11d39=fffd 11d3b=fffd 11d3e=fffd"),
   (0x11d48, "11d48-11d4f=fffd 11d5a-11d5f=fffd 11d66=fffd 11d69=fffd 11d8f=fffd 11d92=fffd"),
   (0x11d99, "11d99-11d9f=fffd 11daa-11daf=fffd 11ddc-11ddf=fffd 11dea-11edf=fffd"),
   (0x11ef9, "11ef9-11eff=fffd 11f11=fffd 11f3b-11f3d=fffd 11f5b-11faf=fffd 11fb1-11fbf=fffd"),
   (0x11ff2, "11ff2-11ffe=fffd 1239a-123ff=fffd 1246f=fffd 12475-1247f=fffd 12544-12f8f=fffd"),
   (0x12ff3, "12ff3-12fff=fffd 13430-1343f=fffd 13456-1345f=fffd 143fb-143ff=fffd"),
   (0x14647, "14647-160ff=fffd 1613a-167ff=fffd 16a39-16a3f=fffd 16a5f=fffd 16a6a-16a6d=fffd"),
   (0x16abf, "16abf=fffd 16aca-16acf=fffd 16aee-16aef=fffd 16af6-16aff=fffd 16b46-16b4f=fffd"),
   (0x16b5a, "16b5a=fffd 16b62=fffd 16b78-16b7c=fffd 16b90-16d3f=fffd 16d7a-16e3f=fffd"),
   (0x16e40, "16e40-16e5f>16e60 16e9b-16e9f=fffd 16ea0-16eb8>16ebb 16eb9-16eba=fffd"),
   (0x16ed4, "16ed4-16eff=fffd 16f4b-16f4e=fffd 16f88-16f8e=fffd 16fa0-16fdf=fffd"),
   (0x16fe5, "16fe5-16fef=fffd 16ff7-16fff=fffd 18cd6-18cfe=fffd 18d1f-18d7f=fffd"),
   (0x18df3, "18df3-1afef=fffd 1aff4=fffd 1affc=fffd 1afff=fffd 1b123-1b131=fffd 1b133-1b14f=fffd"),
   (0x1b153, "1b153-1b154=fffd 1b156-1b163=fffd 1b168-1b16f=fffd 1b2fc-1bbff=fffd"),
   (0x1bc6b, "1bc6b-1bc6f=fffd 1bc7d-1bc7f=fffd 1bc89-1bc8f=fffd 1bc9a-1bc9b=fffd 1bca0-1bca3="),
   (0x1bca4, "1bca4-1cbff=fffd 1ccd6-1ccef>61 1ccf0-1ccf9>30 1ccfd-1ccff=fffd 1ceb4-1ceb9=fffd"),
   (0x1ced1, "1ced1-1cedf=fffd 1cef1-1ceff=fffd 1cf2e-1cf2f=fffd 1cf47-1cf4f=fffd"),
   (0x1cfc4, "1cfc4-1cfff=fffd 1d0f6-1d0ff=fffd 1d127-1d128=fffd"),
   (0x1d15e, "1d15e>1d157.1d165,1d158.1d165,1d158.1d165.1d16e,1d158.1d165.1d16f"),
   (0x1d162, "1d162>1d158.1d165.1d170,1d158.1d165.1d171,1d158.1d165.1d172 1d173-1d17a="),
   (0x1d1bb, "1d1bb>1d1b9.1d165,1d1ba.1d165,1d1b9.1d165.1d16e,1d1ba.1d165.1d16e"),
   (0x1d1bf, "1d1bf>1d1b9.1d165.1d16f,1d1ba.1d165.1d16f 1d1eb-1d1ff=fffd 1d246-1d2bf=fffd"),
   (0x1d2d4, "1d2d4-1d2df=fffd 1d2f4-1d2ff=fffd 1d357-1d35f=fffd 1d379-1d3ff=fffd 1d400-1d419>61"),
   (0x1d41a, "1d41a-1d433>61 1d434-1d44d>61 1d44e-1d454>61 1d455=fffd 1d456-1d467>69"),
   (0x1d468, "1d468-1d481>61 1d482-1d49b>61 1d49c>61 1d49d=fffd 1d49e>63,64 1d4a0-1d4a1=fffd"),
   (0x1d4a2, "1d4a2>67 1d4a3-1d4a4=fffd 1d4a5>6a,6b 1d4a7-1d4a8=fffd 1d4a9-1d4ac>6e 1d4ad=fffd"),
   (0x1d4ae, "1d4ae-1d4b5>73 1d4b6-1d4b9>61 1d4ba=fffd 1d4bb>66 1d4bc=fffd 1d4bd-1d4c3>68"),
   (0x1d4c4, "1d4c4=fffd 1d4c5-1d4cf>70 1d4d0-1d4e9>61 1d4ea-1d503>61 1d504>61,62 1d506=fffd"),
   (0x1d507, "1d507-1d50a>64 1d50b-1d50c=fffd 1d50d-1d514>6a 1d515=fffd 1d516-1d51c>73 1d51d=fffd"),
   (0x1d51e, "1d51e-1d537>61 1d538>61,62 1d53a=fffd 1d53b-1d53e>64 1d53f=fffd 1d540-1d544>69"),
   (0x1d545, "1d545=fffd 1d546>6f 1d547-1d549=fffd 1d54a-1d550>73 1d551=fffd 1d552-1d56b>61"),
   (0x1d56c, "1d56c-1d585>61 1d586-1d59f>61 1d5a0-1d5b9>61 1d5ba-1d5d3>61 1d5d4-1d5ed>61"),
   (0x1d5ee, "1d5ee-1d607>61 1d608-1d621>61 1d622-1d63b>61 1d63c-1d655>61 1d656-1d66f>61"),
   (0x1d670, "1d670-1d689>61 1d68a-1d6a3>61 1d6a4>131,237 1d6a6-1d6a7=fffd 1d6a8-1d6b8>3b1"),
   (0x1d6b9, "1d6b9>3b8 1d6ba-1d6c0>3c3 1d6c1>2207 1d6c2-1d6d2>3b1 1d6d3>3c3 1d6d4-1d6da>3c3"),
   (0x1d6db, "1d6db>2202,3b5,3b8,3ba,3c6,3c1,3c0 1d6e2-1d6f2>3b1 1d6f3>3b8 1d6f4-1d6fa>3c3"),
   (0x1d6fb, "1d6fb>2207 1d6fc-1d70c>3b1 1d70d>3c3 1d70e-1d714>3c3"),
   (0x1d715, "1d715>2202,3b5,3b8,3ba,3c6,3c1,3c0 1d71c-1d72c>3b1 1d72d>3b8 1d72e-1d734>3c3"),
   (0x1d735, "1d735>2207 1d736-1d746>3b1 1d747>3c3 1d748-1d74e>3c3"),
   (0x1d74f, "1d74f>2202,3b5,3b8,3ba,3c6,3c1,3c0 1d756-1d766>3b1 1d767>3b8 1d768-1d76e>3c3"),
   (0x1d76f, "1d76f>2207 1d770-1d780>3b1 1d781>3c3 1d782-1d788>3c3"),
   (0x1d789, "1d789>2202,3b5,3b8,3ba,3c6,3c1,3c0 1d790-1d7a0>3b1 1d7a1>3b8 1d7a2-1d7a8>3c3"),
   (0x1d7a9, "1d7a9>2207 1d7aa-1d7ba>3b1 1d7bb>3c3 1d7bc-1d7c2>3c3"),
   (0x1d7c3, "1d7c3>2202,3b5,3b8,3ba,3c6,3c1,3c0,3dd,3dd 1d7cc-1d7cd=fffd 1d7ce-1d7d7>30"),
   (0x1d7d8, "1d7d8-1d7e1>30 1d7e2-1d7eb>30 1d7ec-1d7f5>30 1d7f6-1d7ff>30 1da8c-1da9a=fffd"),
   (0x1daa0, "1daa0=fffd 1dab0-1deff=fffd 1df1f-1df24=fffd 1df2b-1dfff=fffd 1e007=fffd"),
   (0x1e019, "1e019-1e01a=fffd 1e022=fffd 1e025=fffd 1e02b-1e02f=fffd 1e030-1e038>430"),
   (0x1e039, "1e039-1e03b>43a 1e03c-1e046>43e 1e047>44b,44d,44e,a689,4d9,456,458,4e9,4af,4cf"),
   (0x1e051, "1e051-1e059>430 1e05a>43a,43b,43e,43f,441 1e05f-1e064>443"),
   (0x1e065, "1e065>44a,44b,491,456,455,45f,4ab,a651,4b1 1e06e-1e08e=fffd 1e090-1e0ff=fffd"),
   (0x1e12d, "1e12d-1e12f=fffd 1e13e-1e13f=fffd 1e14a-1e14d=fffd 1e150-1e28f=fffd"),
   (0x1e2af, "1e2af-1e2bf=fffd 1e2fa-1e2fe=fffd 1e300-1e4cf=fffd 1e4fa-1e5cf=fffd"),
   (0x1e5fb, "1e5fb-1e5fe=fffd 1e600-1e6bf=fffd 1e6df=fffd 1e6f6-1e6fd=fffd 1e700-1e7df=fffd"),
   (0x1e7e7, "1e7e7=fffd 1e7ec=fffd 1e7ef=fffd 1e7ff=fffd 1e8c5-1e8c6=fffd 1e8d7-1e8ff=fffd"),
   (0x1e900, "1e900-1e921>1e922 1e94c-1e94f=fffd 1e95a-1e95d=fffd 1e960-1ec70=fffd"),
   (0x1ecb5, "1ecb5-1ed00=fffd 1ed3e-1edff=fffd 1ee00>627,628,62c,62f 1ee04=fffd"),
   (0x1ee05, "1ee05>648,632,62d,637,64a 1ee0a-1ee0d>643"),
   (0x1ee0e, "1ee0e>633,639,641,635,642,631,634,62a,62b,62e,630,636,638,63a,66e,6ba,6a1,66f"),
   (0x1ee20, "1ee20=fffd 1ee21>628,62c 1ee23=fffd 1ee24>647 1ee25-1ee26=fffd 1ee27>62d 1ee28=fffd"),
   (0x1ee29, "1ee29>64a 1ee2a-1ee2d>643 1ee2e>633,639,641,635,642 1ee33=fffd"),
   (0x1ee34, "1ee34>634,62a,62b,62e 1ee38=fffd 1ee39>636 1ee3a=fffd 1ee3b>63a 1ee3c-1ee41=fffd"),
   (0x1ee42, "1ee42>62c 1ee43-1ee46=fffd 1ee47>62d 1ee48=fffd 1ee49>64a 1ee4a=fffd 1ee4b>644"),
   (0x1ee4c, "1ee4c=fffd 1ee4d>646,633,639 1ee50=fffd 1ee51>635,642 1ee53=fffd 1ee54>634"),
   (0x1ee55, "1ee55-1ee56=fffd 1ee57>62e 1ee58=fffd 1ee59>636 1ee5a=fffd 1ee5b>63a 1ee5c=fffd"),
   (0x1ee5d, "1ee5d>6ba 1ee5e=fffd 1ee5f>66f 1ee60=fffd 1ee61>628,62c 1ee63=fffd 1ee64>647"),
   (0x1ee65, "1ee65-1ee66=fffd 1ee67>62d,637,64a,643 1ee6b=fffd 1ee6c>645,646,633,639,641,635,642"),
   (0x1ee73, "1ee73=fffd 1ee74>634,62a,62b,62e 1ee78=fffd 1ee79>636,638,63a,66e 1ee7d=fffd"),
   (0x1ee7e, "1ee7e>6a1 1ee7f=fffd 1ee80>627,628,62c,62f,647,648,632,62d,637,64a 1ee8a=fffd"),
   (0x1ee8b, "1ee8b-1ee8d>644 1ee8e>633,639,641,635,642,631,634,62a,62b,62e,630,636,638,63a"),
   (0x1ee9c, "1ee9c-1eea0=fffd 1eea1>628,62c,62f 1eea4=fffd 1eea5>648,632,62d,637,64a 1eeaa=fffd"),
   (0x1eeab, "1eeab-1eead>644 1eeae>633,639,641,635,642,631,634,62a,62b,62e,630,636,638,63a"),
   (0x1eebc, "1eebc-1eeef=fffd 1eef2-1efff=fffd 1f02c-1f02f=fffd 1f094-1f09f=fffd"),
   (0x1f0af, "1f0af-1f0b0=fffd 1f0c0=fffd 1f0d0=fffd 1f0f6-1f100=fffd"),
   (0x1f101, "1f101>30.2c,31.2c,32.2c,33.2c,34.2c,35.2c,36.2c,37.2c,38.2c,39.2c"),
   (0x1f110, "1f110>28.61.29,28.62.29,28.63.29,28.64.29,28.65.29,28.66.29,28.67.29,28.68.29"),
   (0x1f118, "1f118>28.69.29,28.6a.29,28.6b.29,28.6c.29,28.6d.29,28.6e.29,28.6f.29,28.70.29"),
   (0x1f120, "1f120>28.71.29,28.72.29,28.73.29,28.74.29,28.75.29,28.76.29,28.77.29,28.78.29"),
   (0x1f128, "1f128>28.79.29,28.7a.29,3014.73.3015,63,72,63.64,77.7a 1f130-1f149>61"),
   (0x1f14a, "1f14a>68.76,6d.76,73.64,73.73,70.70.76,77.63 1f16a>6d.63,6d.64,6d.72 1f190>64.6a"),
   (0x1f1ae, "1f1ae-1f1e5=fffd 1f200>307b.304b,30b3.30b3,30b5 1f203-1f20f=fffd"),
   (0x1f210, "1f210>624b,5b57,53cc,30c7,4e8c,591a,89e3,5929,4ea4,6620,7121,6599,524d,5f8c"),
   (0x1f21e, "1f21e>518d,65b0,521d,7d42,751f,8ca9,58f0,5439,6f14,6295,6355,4e00,4e09,904a"),
   (0x1f22c, "1f22c>5de6,4e2d,53f3,6307,8d70,6253,7981,7a7a,5408,6e80,6709,6708,7533,5272"),
   (0x1f23a, "1f23a>55b6,914d 1f23c-1f23f=fffd"),
   (0x1f240, "1f240>3014.672c.3015,3014.4e09.3015,3014.4e8c.3015,3014.5b89.3015"),
   (0x1f244, "1f244>3014.70b9.3015,3014.6253.3015,3014.76d7.3015,3014.52dd.3015"),
   (0x1f248, "1f248>3014.6557.3015 1f249-1f24f=fffd 1f250>5f97,53ef 1f252-1f25f=fffd"),
   (0x1f266, "1f266-1f2ff=fffd 1f6d9-1f6db=fffd 1f6ed-1f6ef=fffd 1f6fd-1f6ff=fffd"),
   (0x1f7da, "1f7da-1f7df=fffd 1f7ec-1f7ef=fffd 1f7f1-1f7ff=fffd 1f80c-1f80f=fffd"),
   (0x1f848, "1f848-1f84f=fffd 1f85a-1f85f=fffd 1f888-1f88f=fffd 1f8ae-1f8af=fffd"),
   (0x1f8bc, "1f8bc-1f8bf=fffd 1f8c2-1f8cf=fffd 1f8d9-1f8ff=fffd 1fa58-1fa5f=fffd"),
   (0x1fa6e, "1fa6e-1fa6f=fffd 1fa7d-1fa7f=fffd 1fa8b-1fa8d=fffd 1fac7=fffd 1fac9-1facc=fffd"),
   (0x1fadd, "1fadd-1fade=fffd 1faeb-1faee=fffd 1faf9-1faff=fffd 1fb93=fffd 1fbf0-1fbf9>30"),
   (0x1fbfb, "1fbfb-1ffff=fffd 2a6e0-2a6ff=fffd 2b81e-2b81f=fffd 2ceae-2ceaf=fffd"),
   (0x2ebe1, "2ebe1-2ebef=fffd 2ee5e-2f7ff=fffd"),
   (0x2f800, "2f800>4e3d,4e38,4e41,20122,4f60,4fae,4fbb,5002,507a,5099,50e7,50cf,349e,2063a"),
   (0x2f80e, "2f80e>514d,5154,5164,5177,2051c,34b9,5167,518d,2054b,5197,51a4,4ecc,51ac,51b5"),
   (0x2f81c, "2f81c>291df,51f5,5203,34df,523b,5246,5272,5277,3515,52c7,52c9,52e4,52fa,5305"),
   (0x2f82a, "2f82a>5306,5317,5349,5351,535a,5373,537d 2f831-2f833=537f"),
   (0x2f834, "2f834>20a2c,7070,53ca,53df,20b63,53eb,53f1,5406,549e,5438,5448,5468,54a2,54f6"),
   (0x2f842, "2f842>5510,5553,5563,5584,5584,5599,55ab,55b3,55c2,5716,5606,5717,5651,5674"),
   (0x2f850, "2f850>5207,58ee,57ce,57f4,580d,578b,5832,5831,58ac,214e4,58f2,58f7,5906,591a"),
   (0x2f85e, "2f85e>5922,5962,216a8,216ea,59ec,5a1b,5a27,59d8,5a66,36ee,36fc,5b08,5b3e,5b3e"),
   (0x2f86c, "2f86c>219c8,5bc3,5bd8,5be7,5bf3,21b18,5bff,5c06,5f53,5c22,3781,5c60,5c6e,5cc0"),
   (0x2f87a, "2f87a>5c8d,21de4,5d43,21de6,5d6e,5d6b,5d7c,5de1,5de2,382f,5dfd,5e28,5e3d,5e69"),
   (0x2f888, "2f888>3862,22183,387c,5eb0,5eb3,5eb6,5eca,2a392,5efe,22331,22331,8201,5f22"),
   (0x2f895, "2f895>5f22,38c7,232b8,261da,5f62,5f6b,38e3,5f9a,5fcd,5fd7,5ff9,6081,393a,391c"),
   (0x2f8a3, "2f8a3>6094,226d4,60c7,6148,614c,614e,614c,617a,618e,61b2,61a4,61af,61de,61f2"),
   (0x2f8b1, "2f8b1>61f6,6210,621b,625d,62b1,62d4,6350,22b0c,633d,62fc,6368,6383,63e4,22bf1"),
   (0x2f8bf, "2f8bf>6422,63c5,63a9,3a2e,6469,647e,649d,6477,3a6c,654f,656c,2300a,65e3,66f8"),
   (0x2f8cd, "2f8cd>6649,3b19,6691,3b08,3ae4,5192,5195,6700,669c,80ad,43d9,6717,671b,6721"),
   (0x2f8db, "2f8db>675e,6753,233c3,3b49,67fa,6785,6852,6885,2346d,688e,681f,6914,3b9d,6942"),
   (0x2f8e9, "2f8e9>69a3,69ea,6aa8,236a3,6adb,3c18,6b21,238a7,6b54,3c4e,6b72,6b9f,6bba,6bbb"),
   (0x2f8f7, "2f8f7>23a8d,21d0b,23afa,6c4e,23cbc,6cbf,6ccd,6c67,6d16,6d3e,6d77,6d41,6d69"),
   (0x2f904, "2f904>6d78,6d85,23d1e,6d34,6e2f,6e6e,3d33,6ecb,6ec7,23ed1,6df9,6f6e,23f5e"),
   (0x2f911, "2f911>23f8e,6fc6,7039,701e,701b,3d96,704a,707d,7077,70ad,20525,7145,24263,719c"),
   (0x2f91f, "2f91f>243ab,7228,7235,7250,24608,7280,7295,24735,24814,737a,738b,3eac,73a5"),
   (0x2f92c, "2f92c>3eb8,3eb8,7447,745c,7471,7485,74ca,3f1b,7524,24c36,753e,24c92,7570,2219f"),
   (0x2f93a, "2f93a>7610,24fa1,24fb8,25044,3ffc,4008,76f4,250f3,250f2,25119,25133,771e,771f"),
   (0x2f947, "2f947>771f,774a,4039,778b,4046,4096,2541d,784e,788c,78cc,40e3,25626,7956,2569a"),
   (0x2f955, "2f955>256c5,798f,79eb,412f,7a40,7a4a,7a4f,2597c,25aa7,25aa7,7aee,4202,25bab"),
   (0x2f962, "2f962>7bc6,7bc9,4227,25c80,7cd2,42a0,7ce8,7ce3,7d00,25f86,7d63,4301,7dc7,7e02"),
   (0x2f970, "2f970>7e45,4334,26228,26247,4359,262d9,7f7a,2633e,7f95,7ffa,8005,264da,26523"),
   (0x2f97d, "2f97d>8060,265a8,8070,2335f,43d5,80b2,8103,440b,813e,5ab5,267a7,267b5,23393"),
   (0x2f98a, "2f98a>2339c,8201,8204,8f9e,446b,8291,828b,829d,52b3,82b1,82b3,82bd,82e6,26b3c"),
   (0x2f998, "2f998>82e5,831d,8363,83ad,8323,83bd,83e7,8457,8353,83ca,83cc,83dc,26c36,26d6b"),
   (0x2f9a6, "2f9a6>26cd5,452b,84f1,84f3,8516,273ca,8564,26f2c,455d,4561,26fb1,270d2,456b"),
   (0x2f9b3, "2f9b3>8650,865c,8667,8669,86a9,8688,870e,86e2,8779,8728,876b,8786,45d7,87e1"),
   (0x2f9c1, "2f9c1>8801,45f9,8860,8863,27667,88d7,88de,4635,88fa,34bb,278ae,27966,46be,46c7"),
   (0x2f9cf, "2f9cf>8aa0,8aed,8b8a,8c55,27ca8,8cab,8cc1,8d1b,8d77,27f2f,20804,8dcb,8dbc,8df0"),
   (0x2f9dd, "2f9dd>208de,8ed4,8f38,285d2,285ed,9094,90f1,9111,2872e,911b,9238,92d7,92d8"),
   (0x2f9ea, "2f9ea>927c,93f9,9415,28bfa,958b,4995,95b7,28d77,49e6,96c3,5db2,9723,29145"),
   (0x2f9f7, "2f9f7>2921a,4a6e,4a76,97e0,2940a,4ab2,29496,980b,980b,9829,295b6,98e2,4b33"),
   (0x2fa04, "2fa04>9929,99a7,99c2,99fe,4bce,29b30,9b12,9c40,9cfd,4cce,4ced,9d67,2a0ce,4cf8"),
   (0x2fa12, "2fa12>2a105,2a20e,2a291,9ebb,4d56,9ef9,9efe,9f05,9f0f,9f16,9f3b,2a600"),
   (0x2fa1e, "2fa1e-2ffff=fffd 3134b-3134f=fffd 3347a-e00ff=fffd e0100-e01ef= e01f0-10ffff=fffd")]

/-- What a character stands for in a name. -/
def plainForm (c : Char) : List Char :=
  match nameTable.find? c.toNat with
  | some codes => codes.map Char.ofNat
  | none => [c]

end Switchyard.Url
