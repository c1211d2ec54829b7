/-!
# Boundaries of words

The role of every code point at the boundaries of words.
-/

namespace PipelineConfig.Text.Unicode

/-- Runs of code points with the same role. A run is given by the short name of the role and its
length, unless it is one. -/
def wordRuns : String :=
  "XX:10 LF NL:2 CR XX:18 WSegSpace XX DQ XX:4 SQ XX:4 MN XX MB XX NU:10 ML MN XX:5 LE:26 XX:4
    EX XX LE:26 XX:10 NL XX:36 LE XX:2 FO XX:7 LE XX ML XX:2 LE XX:5 LE:23 XX LE:31 XX LE:480
    XX:6 LE:34 Extend:112 LE:5 XX LE:2 XX:2 LE:4 MN LE XX:6 LE ML LE:3 XX LE XX LE:20 XX LE:83
    XX LE:139 XX Extend:7 LE:166 XX LE:38 XX:2 LE:4 XX LE ML LE:41 MN LE XX:6 Extend:45 XX
    Extend XX Extend:2 XX Extend:2 XX Extend XX:8 HL:27 XX:4 HL:4 LE ML XX:11 NU:6 XX:6 MN:2
    XX:2 Extend:11 XX FO XX:3 LE:43 Extend:21 NU:10 XX NU MN XX LE:2 Extend LE:99 XX LE Extend:7
    NU XX Extend:6 LE:2 Extend:2 XX Extend:4 LE:2 NU:10 LE:3 XX:2 LE XX:15 LE:2 Extend LE:30
    Extend:27 XX:2 LE:89 Extend:11 LE XX:14 NU:10 LE:33 Extend:9 LE:2 XX:2 MN XX LE XX:2 Extend
    XX:2 LE:22 Extend:4 LE Extend:9 LE Extend:3 LE Extend:5 XX:18 LE:25 Extend:3 XX:4 LE:11 XX:5
    LE:24 XX LE:6 XX NU:2 XX:5 Extend:9 LE:42 Extend:24 NU Extend:33 LE:54 Extend:3 LE Extend:18
    LE Extend:7 LE:10 Extend:2 XX:2 NU:10 XX LE:16 Extend:3 XX LE:8 XX:2 LE:2 XX:2 LE:22 XX LE:7
    XX LE XX:3 LE:4 XX:2 Extend LE Extend:7 XX:2 Extend:2 XX:2 Extend:3 LE XX:8 Extend XX:4 LE:2
    XX LE:3 Extend:2 XX:2 NU:10 LE:2 XX:10 LE XX Extend XX:2 Extend:3 XX LE:6 XX:4 LE:2 XX:2
    LE:22 XX LE:7 XX LE:2 XX LE:2 XX LE:2 XX:2 Extend XX Extend:5 XX:4 Extend:2 XX:2 Extend:3
    XX:3 Extend XX:7 LE:4 XX LE XX:7 NU:10 Extend:2 LE:3 Extend XX:11 Extend:3 XX LE:9 XX LE:3
    XX LE:22 XX LE:7 XX LE:2 XX LE:5 XX:2 Extend LE Extend:8 XX Extend:3 XX Extend:3 XX:2 LE
    XX:15 LE:2 Extend:2 XX:2 NU:10 XX:9 LE Extend:6 XX Extend:3 XX LE:8 XX:2 LE:2 XX:2 LE:22 XX
    LE:7 XX LE:2 XX LE:5 XX:2 Extend LE Extend:7 XX:2 Extend:2 XX:2 Extend:3 XX:7 Extend:3 XX:4
    LE:2 XX LE:3 Extend:2 XX:2 NU:10 XX LE XX:16 Extend LE XX LE:6 XX:3 LE:3 XX LE:4 XX:3 LE:2
    XX LE XX LE:2 XX:3 LE:2 XX:3 LE:3 XX:3 LE:12 XX:4 Extend:5 XX:3 Extend:3 XX Extend:4 XX:2 LE
    XX:6 Extend XX:14 NU:10 XX:16 Extend:5 LE:8 XX LE:3 XX LE:23 XX LE:16 XX:2 Extend LE
    Extend:7 XX Extend:3 XX Extend:4 XX:7 Extend:2 XX LE:3 XX:2 LE XX:2 LE:2 Extend:2 XX:2 NU:10
    XX:16 LE Extend:3 XX LE:8 XX LE:3 XX LE:23 XX LE:10 XX LE:5 XX:2 Extend LE Extend:7 XX
    Extend:3 XX Extend:4 XX:7 Extend:2 XX:6 LE:2 XX LE:2 Extend:2 XX:2 NU:10 XX LE:2 Extend
    XX:12 Extend:4 LE:9 XX LE:3 XX LE:41 Extend:2 LE Extend:7 XX Extend:3 XX Extend:4 LE XX:5
    LE:3 Extend XX:7 LE:3 Extend:2 XX:2 NU:10 XX:10 LE:6 XX Extend:3 XX LE:18 XX:3 LE:24 XX LE:9
    XX LE XX:2 LE:7 XX:3 Extend XX:4 Extend:6 XX Extend XX Extend:8 XX:6 NU:10 XX:2 Extend:2
    XX:61 Extend XX:2 Extend:7 XX:12 Extend:8 XX NU:10 XX:87 Extend XX:2 Extend:9 XX:11 Extend:7
    XX NU:10 XX:38 LE XX:23 Extend:2 XX:6 NU:10 XX:11 Extend XX Extend XX Extend XX:4 Extend:2
    LE:8 XX LE:36 XX:4 Extend:20 XX Extend:2 LE:5 Extend:11 XX Extend:36 XX:9 Extend XX:100
    Extend:20 XX NU:10 XX:12 Extend:4 XX:4 Extend:3 XX Extend:3 XX:2 Extend:7 XX:3 Extend:4
    XX:13 Extend:12 XX Extend NU:10 Extend:4 XX:2 LE:38 XX LE XX:5 LE XX:2 LE:43 XX LE:333 XX
    LE:4 XX:2 LE:7 XX LE XX LE:4 XX:2 LE:41 XX LE:4 XX:2 LE:33 XX LE:4 XX:2 LE:7 XX LE XX LE:4
    XX:2 LE:15 XX LE:57 XX LE:4 XX:2 LE:67 XX:2 Extend:3 XX:32 LE:16 XX:16 LE:86 XX:2 LE:6 XX:3
    LE:620 XX:2 LE:17 WSegSpace LE:26 XX:5 LE:75 XX:3 LE:11 XX:7 LE:18 Extend:4 XX:9 LE:19
    Extend:3 XX:11 LE:18 Extend:2 XX:12 LE:13 XX LE:3 XX Extend:2 XX:64 Extend:32 XX:9 Extend
    XX:2 NU:10 XX:33 Extend:3 FO Extend NU:10 XX:6 LE:89 XX:7 LE:5 Extend:2 LE:34 Extend LE XX:5
    LE:70 XX:10 LE:31 XX Extend:12 XX:4 Extend:12 XX:10 NU:10 XX:128 NU:10 XX:38 LE:23 Extend:5
    XX:57 Extend:10 XX Extend:29 XX:2 Extend NU:10 XX:6 NU:10 XX:22 Extend:31 XX:49 Extend:5
    LE:47 Extend:17 LE:8 XX:3 NU:10 XX:17 Extend:9 XX:12 Extend:3 LE:30 Extend:13 LE:2 NU:10
    LE:44 Extend:14 XX:12 LE:36 Extend:20 XX:8 NU:10 XX:3 LE:3 NU:10 LE:36 XX:2 LE:11 XX:5 LE:43
    XX:2 LE:3 XX:16 Extend:3 XX Extend:21 LE:4 Extend LE:6 Extend LE:2 Extend:3 LE XX:5 LE:192
    Extend:64 LE:278 XX:2 LE:6 XX:2 LE:38 XX:2 LE:6 XX:2 LE:8 XX LE XX LE XX LE XX LE:31 XX:2
    LE:53 XX LE:7 XX LE XX:3 LE:3 XX LE:7 XX:3 LE:4 XX:2 LE:6 XX:4 LE:13 XX:5 LE:3 XX LE:7 XX:3
    WSegSpace:7 XX WSegSpace:3 XX Extend ZWJ FO:2 XX:8 MB:2 XX:10 MB XX:2 ML NL:2 FO:5 EX XX:15
    EX:2 XX:3 MN XX:15 EX XX:10 WSegSpace FO:5 XX FO:10 XX LE XX:13 LE XX:16 LE:13 XX:51
    Extend:33 XX:17 LE XX:4 LE XX:2 LE:10 XX LE XX:3 LE:5 XX:6 LE XX LE XX LE XX LE:4 XX LE:11
    XX:2 LE:4 XX:5 LE:5 XX:4 LE XX:17 LE:41 XX:813 LE:52 XX:1814 LE:229 XX:6 LE:4 Extend:3 LE:2
    XX:12 LE:38 XX LE XX:5 LE XX:2 LE:56 XX:7 LE XX:15 Extend LE:23 XX:9 LE:7 XX LE:7 XX LE:7 XX
    LE:7 XX LE:7 XX LE:7 XX LE:7 XX LE:7 XX Extend:32 XX:47 LE XX:464 WSegSpace XX:4 LE XX:36
    Extend:6 XX KA:5 XX:5 LE:2 XX:92 Extend:2 KA:2 XX:3 KA:91 XX KA:4 XX:5 LE:43 XX LE:94 XX:17
    LE:32 XX:48 KA:16 XX:208 KA:47 XX KA:88 XX:27816 LE:1165 XX:67 LE:46 XX:2 LE:269 XX:3 LE:16
    NU:10 LE:2 XX:20 LE:47 Extend:4 XX Extend:10 XX LE:31 Extend:2 LE:80 Extend:2 XX:22 LE:198
    XX:2 LE:2 XX LE XX LE:8 XX:21 LE:16 Extend LE:3 Extend LE:4 Extend LE:23 Extend:5 XX:4
    Extend XX:19 LE:52 XX:12 Extend:2 LE:50 Extend:18 XX:10 NU:10 XX:6 Extend:18 LE:6 XX:3 LE XX
    LE:2 Extend NU:10 LE:28 Extend:8 XX:2 LE:23 Extend:13 XX:12 LE:29 XX:3 Extend:4 LE:47
    Extend:14 XX:14 LE NU:10 XX:11 Extend XX:10 NU:10 XX:6 LE:41 Extend:14 XX:9 LE:3 Extend LE:8
    Extend:2 XX:2 NU:10 XX:33 Extend:3 XX:50 Extend XX Extend:3 XX:2 Extend:2 XX:5 Extend:2 XX
    Extend XX:30 LE:11 Extend:5 XX:2 LE:3 Extend:2 XX:10 LE:6 XX:2 LE:6 XX:2 LE:6 XX:9 LE:7 XX
    LE:7 XX LE:58 XX:6 LE:115 Extend:8 XX Extend:2 XX:2 NU:10 XX:6 LE:11172 XX:12 LE:23 XX:4
    LE:49 XX:8964 LE:7 XX:12 LE:5 XX:5 HL Extend HL:10 XX HL:13 XX HL:5 XX HL XX HL:2 XX HL:2 XX
    HL:10 LE:98 XX:33 LE:363 XX:18 LE:64 XX:2 LE:54 XX:40 LE:12 XX:4 Extend:16 MN XX:2 ML MN
    XX:11 Extend:16 XX:3 EX:2 XX:24 EX:3 MN XX MB XX MN ML XX:26 LE:5 XX LE:135 XX:2 FO XX:7 MB
    XX:4 MN XX MB XX NU:10 ML MN XX:5 LE:26 XX:4 EX XX LE:26 XX:11 KA:56 Extend:2 LE:31 XX:3
    LE:6 XX:2 LE:6 XX:2 LE:6 XX:2 LE:3 XX:28 FO:3 XX:4 LE:12 XX LE:26 XX LE:19 XX LE:2 XX LE:15
    XX:2 LE:14 XX:34 LE:123 XX:69 LE:53 XX:136 Extend XX:130 LE:29 XX:3 LE:49 XX:15 Extend XX:31
    LE:32 XX:13 LE:30 XX:5 LE:38 Extend:5 XX:5 LE:30 XX:2 LE:36 XX:4 LE:8 XX LE:5 XX:42 LE:158
    XX:2 NU:10 XX:6 LE:36 XX:4 LE:36 XX:4 LE:40 XX:8 LE:52 XX:12 LE:11 XX LE:15 XX LE:7 XX LE:2
    XX LE:11 XX LE:15 XX LE:7 XX LE:2 XX:3 LE:52 XX:12 LE:311 XX:9 LE:22 XX:10 LE:8 XX:24 LE:6
    XX LE:42 XX LE:9 XX:69 LE:6 XX:2 LE XX LE:44 XX LE:2 XX:3 LE XX:2 LE:23 XX:10 LE:23 XX:9
    LE:31 XX:65 LE:19 XX LE:2 XX:10 LE:22 XX:10 LE:26 XX:70 LE:56 XX:6 LE:2 XX:64 LE Extend:3 XX
    Extend:2 XX:5 Extend:4 LE:4 XX LE:3 XX LE:29 XX:2 Extend:3 XX:4 Extend XX:32 LE:29 XX:3
    LE:29 XX:35 LE:8 XX LE:28 Extend:2 XX:25 LE:54 XX:10 LE:22 XX:10 LE:19 XX:13 LE:18 XX:110
    LE:73 XX:55 LE:51 XX:13 LE:51 XX:13 LE:36 Extend:4 XX:8 NU:10 XX:6 NU:10 LE:28 XX:3 Extend:5
    XX LE:23 XX:250 LE:42 XX Extend:2 XX:3 LE:2 XX:16 LE:3 XX:55 Extend:4 LE:29 XX:10 LE XX:8
    LE:22 Extend:11 XX:31 LE:18 Extend:4 XX:42 LE:21 XX:27 LE:23 XX:9 Extend:3 LE:53 Extend:15
    XX:31 NU:10 Extend LE:2 Extend:2 LE XX:9 Extend:4 LE:45 Extend:11 XX:2 NU XX:4 Extend XX:10
    NU XX:2 LE:25 XX:7 NU:10 XX:6 Extend:3 LE:36 Extend:14 XX NU:10 XX:4 LE Extend:2 LE XX:8
    LE:35 Extend XX:2 LE XX:9 Extend:3 LE:48 Extend:14 LE:4 XX:4 Extend:4 XX Extend:2 NU:10 LE
    XX LE XX:35 LE:18 XX LE:25 Extend:12 XX:6 Extend LE:2 Extend XX:62 LE:7 XX LE XX LE:4 XX
    LE:15 XX LE:10 XX:7 LE:47 Extend:12 XX:5 NU:10 XX:6 Extend:4 XX LE:8 XX:2 LE:2 XX:2 LE:22 XX
    LE:7 XX LE:2 XX LE:5 XX Extend:2 LE Extend:7 XX:2 Extend:2 XX:2 Extend:3 XX:2 LE XX:6 Extend
    XX:5 LE:5 Extend:2 XX:2 Extend:7 XX:3 Extend:5 XX:11 LE:10 XX LE XX:2 LE XX LE:38 XX LE
    Extend:9 XX Extend XX:2 Extend XX Extend:4 XX Extend:5 LE Extend LE XX:13 Extend:2 XX:29
    LE:53 Extend:18 LE:4 XX:5 NU:10 XX:4 Extend LE:3 XX:30 LE:48 Extend:20 LE:2 XX LE XX:8 NU:10
    XX:166 LE:47 Extend:7 XX:2 Extend:9 XX:23 LE:4 Extend:2 XX:34 LE:48 Extend:17 XX:3 LE XX:11
    NU:10 XX:38 LE:43 Extend:13 LE XX:7 NU:10 XX:6 NU:20 XX:57 Extend:15 XX:4 NU:10 XX:198 LE:44
    Extend:15 XX:101 LE:64 NU:10 XX:21 LE:8 XX:2 LE XX:2 LE:8 XX LE:2 XX LE:24 Extend:6 XX
    Extend:2 XX:2 Extend:4 LE Extend LE Extend:2 XX:12 NU:10 XX:70 LE:8 XX:2 LE:39 Extend:7 XX:2
    Extend:7 LE XX LE Extend XX:27 LE Extend:10 LE:40 Extend:7 LE Extend:4 XX:8 Extend XX:8 LE
    Extend:11 LE:46 Extend:16 XX:3 LE XX:18 LE:73 XX:199 LE:33 XX:15 NU:10 XX:6 LE:9 XX LE:37
    Extend:8 XX Extend:8 LE XX:15 NU:10 XX:24 LE:30 XX:2 Extend:22 XX Extend:14 XX:73 LE:7 XX
    LE:2 XX LE:38 Extend:6 XX:3 Extend XX Extend:2 XX Extend:7 LE Extend XX:8 NU:10 XX:6 LE:6 XX
    LE:2 XX LE:32 Extend:5 XX Extend:2 XX Extend:5 LE XX:7 NU:10 XX:310 LE:19 Extend:4 XX:9
    Extend:2 LE Extend LE:13 XX LE:34 Extend:7 XX:3 Extend:5 XX:13 NU:10 Extend XX:85 LE XX:79
    LE:922 XX:102 LE:111 XX:17 LE:196 XX:2636 LE:97 XX:15 LE:1072 FO:16 Extend LE:6 Extend:15
    XX:10 LE:3995 XX:5 LE:583 XX:6841 LE:30 Extend:18 NU:10 XX:1734 LE:569 XX:7 LE:31 XX NU:10
    XX:6 LE:79 XX NU:10 XX:6 LE:30 XX:2 Extend:5 XX:11 LE:48 Extend:7 XX:9 LE:4 XX:12 NU:10 XX:9
    LE:21 XX:5 LE:19 XX:432 LE:45 XX:3 NU:10 XX:198 LE:64 XX:128 LE:75 XX:4 Extend LE Extend:55
    XX:7 Extend:4 LE:13 XX:64 LE:2 XX LE Extend XX:11 Extend:2 XX:16382 KA:4 XX KA:7 XX KA:2 XX
    KA XX:287 KA:3 XX:50 KA XX:14 KA:4 XX:2712 LE:107 XX:5 LE:13 XX:3 LE:9 XX:7 LE:10 XX:3
    Extend:2 XX FO:4 XX:4172 NU:10 XX:518 Extend:46 XX:2 Extend:23 XX:542 Extend:5 XX:3 Extend:6
    FO:8 Extend:8 XX:2 Extend:7 XX:30 Extend:4 XX:148 Extend:3 XX:443 LE:85 XX LE:71 XX LE:2
    XX:2 LE XX:2 LE:2 XX:2 LE:4 XX LE:12 XX LE XX LE:7 XX LE:65 XX LE:4 XX:2 LE:8 XX LE:7 XX
    LE:28 XX LE:4 XX LE:5 XX LE XX:3 LE:7 XX LE:340 XX:2 LE:25 XX LE:25 XX LE:31 XX LE:25 XX
    LE:31 XX LE:25 XX LE:31 XX LE:25 XX LE:31 XX LE:25 XX LE:8 XX:2 NU:50 XX:512 Extend:55 XX:4
    Extend:50 XX:8 Extend XX:14 Extend XX:22 Extend:5 XX Extend:15 XX:1104 LE:31 XX:6 LE:6
    XX:213 Extend:7 XX Extend:17 XX:2 Extend:7 XX Extend:2 XX Extend:5 XX:5 LE:62 XX:33 Extend
    XX:112 LE:45 XX:3 Extend:7 LE:7 XX:2 NU:10 XX:4 LE XX:321 LE:30 Extend XX:17 LE:44 Extend:4
    NU:10 XX:470 LE:28 Extend:4 NU:10 XX:214 LE:30 Extend:2 LE NU:10 XX:485 LE:7 XX LE:4 XX LE:2
    XX LE:15 XX LE:197 XX:11 Extend:7 XX:41 LE:68 Extend:7 LE XX:4 NU:10 XX:1190 LE:4 XX LE:27
    XX LE:2 XX LE XX:2 LE XX LE:10 XX LE:4 XX LE XX LE XX:6 LE XX:4 LE XX LE XX LE XX LE:3 XX
    LE:2 XX LE XX:2 LE XX LE XX LE XX LE XX LE XX LE:2 XX LE XX:2 LE:4 XX LE:7 XX LE:4 XX LE:4
    XX LE XX LE:10 XX LE:17 XX:5 LE:3 XX LE:5 XX LE:17 XX:628 LE:26 XX:6 LE:26 XX:6 LE:26 XX:92
    RI:26 XX:507 Extend:5 XX:2032 NU:10 XX:787463 FO XX:30 Extend:96 XX:128 Extend:240 XX:196112"

end PipelineConfig.Text.Unicode
